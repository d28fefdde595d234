import Telemetry.Number.Power

/-!
# Hexadecimal digits

Numbers in base sixteen with a fixed number of digits, as escapes of characters need them.

Main statements: `ofHex?_hex` (a number that fits is read back) and `hex_ascii` (the digits are
printable ASCII).
-/

namespace Telemetry.Text

/-- The character of a hexadecimal digit, in lower case. -/
def hexDigit (d : Nat) : Char := Char.ofNat (if d < 10 then 0x30 + d else 0x57 + d)

/-- The value of a lower-case hexadecimal digit. -/
def hexValue? (c : Char) : Option Nat :=
  if '0' ≤ c ∧ c ≤ '9' then some (c.toNat - 0x30)
  else if 'a' ≤ c ∧ c ≤ 'f' then some (c.toNat - 0x57)
  else none

/-- The last `width` hexadecimal digits of a number. -/
def hex : (width n : Nat) → List Char
  | 0, _ => []
  | width + 1, n => hex width (n / 16) ++ [hexDigit (n % 16)]

/-- The number with the given hexadecimal digits. -/
def ofHex? (ds : List Char) : Option Nat :=
  ds.foldlM (fun n c => (hexValue? c).map (n * 16 + ·)) 0

theorem hexValue?_hexDigit {d : Nat} (h : d < 16) : hexValue? (hexDigit d) = some d :=
  (by decide : ∀ d < 16, hexValue? (hexDigit d) = some d) d h

theorem length_hex (width n : Nat) : (hex width n).length = width := by
  induction width generalizing n with
  | zero => rfl
  | succ width ih => simp [hex, ih]

theorem hexDigit_ascii {d : Nat} (h : d < 16) :
    0x20 ≤ (hexDigit d).toNat ∧ (hexDigit d).toNat < 0x7f :=
  (by decide : ∀ d < 16, 0x20 ≤ (hexDigit d).toNat ∧ (hexDigit d).toNat < 0x7f) d h

/-- All digits are printable ASCII. -/
theorem hex_ascii {width n : Nat} {c : Char} (h : c ∈ hex width n) :
    0x20 ≤ c.toNat ∧ c.toNat < 0x7f := by
  induction width generalizing n with
  | zero => cases h
  | succ width ih =>
    rcases List.mem_append.1 h with hhigh | hlast
    · exact ih hhigh
    · obtain rfl := List.mem_singleton.1 hlast
      exact hexDigit_ascii (Nat.mod_lt n (by decide))

/-- A number that fits is read back. -/
theorem ofHex?_hex {width n : Nat} (h : n < power 16 width) : ofHex? (hex width n) = some n := by
  induction width generalizing n with
  | zero =>
    rw [power_zero] at h
    obtain rfl : n = 0 := by omega
    rfl
  | succ width ih =>
    have hhigh : n / 16 < power 16 width := by
      rw [power_succ] at h
      exact Nat.div_lt_of_lt_mul (Nat.mul_comm _ _ ▸ h)
    have hread := ih hhigh
    unfold ofHex? at hread ⊢
    simp only [hex, List.foldlM_append, hread, List.foldlM_cons, List.foldlM_nil,
      hexValue?_hexDigit (Nat.mod_lt n (by decide : 0 < 16))]
    have : n / 16 * 16 + n % 16 = n := by omega
    simp [this]

end Telemetry.Text
