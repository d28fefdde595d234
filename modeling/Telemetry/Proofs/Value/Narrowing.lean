import Mathlib.Data.Rat.Floor
import Mathlib.Tactic.NormNum
import Telemetry.Proofs.Number.Exact

/-!
# Narrowing to 64 bits

Narrowing cuts off the fraction of a number and keeps the result within the bounds of 64 bits. It is
one function of the place of the number on the line, whether it was given as an integer, as a truth
value or as a double, and so it respects the order there.

* `truncated_div` says that cutting off the fraction of a quotient is dividing whole numbers.
* `clamped_eq_narrowed` says that narrowing is that function, and `narrowed_mono` that it respects
  the order.
* `clamped_of_number` is the law of narrowing as a whole.
-/

namespace Telemetry

namespace Value

/-! ## Cutting off fractions -/

/-- A rational number without its fraction: the next whole number on the way to zero. -/
def truncated (q : ℚ) : ℤ := if q < 0 then ⌈q⌉ else ⌊q⌋

theorem truncated_intCast (i : ℤ) : truncated i = i := by
  rw [truncated, Int.ceil_intCast, Int.floor_intCast, ite_self]

theorem truncated_div (num : ℤ) {den : ℕ} (hden : 0 < den) :
    truncated (num / den) = num.tdiv den := by
  have hpos : (0 : ℚ) < den := by exact_mod_cast hden
  have hsign : (num / den : ℚ) < 0 ↔ num < 0 := by
    rw [div_lt_iff₀ hpos, zero_mul, Int.cast_lt_zero]
  simp only [truncated, hsign]
  split
  · next hneg =>
    rw [Rat.ceil_intCast_div_natCast, ← Int.tdiv_eq_ediv_of_nonneg (by omega), Int.neg_tdiv,
      neg_neg]
  · next hnonneg =>
    rw [Rat.floor_intCast_div_natCast, Int.tdiv_eq_ediv_of_nonneg (by omega)]

theorem truncated_mono {p q : ℚ} (h : p ≤ q) : truncated p ≤ truncated q := by
  rw [truncated, truncated]
  split
  · next hp =>
    split
    · exact Int.ceil_mono h
    · next hq =>
      -- zero lies between the two
      have hbelow : ⌈p⌉ ≤ 0 := Int.ceil_le.mpr (by simpa using hp.le)
      exact hbelow.trans (Int.floor_nonneg.mpr (not_lt.mp hq))
  · next hp =>
    have hq : ¬ q < 0 := not_lt.mpr ((not_lt.mp hp).trans h)
    rw [if_neg hq]
    exact Int.floor_mono h

/-! ## Places on the line -/

theorem clamp_mono {i j : ℤ} (h : i ≤ j) : clamp i ≤ clamp j := by
  simp only [clamp, least64, greatest64]
  omega

/-- The result of narrowing lies in the range, whatever is narrowed. -/
theorem clamped_mem {v : Value} {i : ℤ} (h : v.clamped = .ok i) : least64 ≤ i ∧ i ≤ greatest64 := by
  have hclamp {result : Except Fault ℤ} (hmap : result.map clamp = .ok i) :
      least64 ≤ i ∧ i ≤ greatest64 := by
    cases result with
    | error fault => cases hmap
    | ok j =>
        cases hmap
        exact clamp_mem j
  unfold clamped at h
  split at h
  · cases h
    decide
  · next negative =>
    cases h
    cases negative <;> decide
  · exact hclamp h

/-- What a place on the line is narrowed to. -/
def narrowed : Extended → ℤ
  | ⊥ => least64
  | (⊤ : WithTop ℚ) => greatest64
  | (q : ℚ) => clamp (truncated q)

theorem narrowed_mem (x : Extended) : least64 ≤ narrowed x ∧ narrowed x ≤ greatest64 := by
  induction x using WithBot.recBotCoe with
  | bot => decide
  | coe x =>
      induction x using WithTop.recTopCoe with
      | top => decide
      | coe q => exact clamp_mem (truncated q)

/-- **Narrowing respects the order of the line.** -/
theorem narrowed_mono {x y : Extended} (h : x ≤ y) : narrowed x ≤ narrowed y := by
  induction x using WithBot.recBotCoe with
  | bot => exact (narrowed_mem y).1
  | coe x =>
      induction y using WithBot.recBotCoe with
      | bot => exact absurd h (WithBot.not_coe_le_bot x)
      | coe y =>
          rw [WithBot.coe_le_coe] at h
          induction y using WithTop.recTopCoe with
          | top => exact (narrowed_mem x).2
          | coe q =>
              obtain ⟨p, rfl⟩ := WithTop.ne_top_iff_exists.mp (ne_top_of_le_ne_top WithTop.coe_ne_top h)
              exact clamp_mono (truncated_mono (WithTop.coe_le_coe.mp h))

/-- **A number is narrowed according to its place on the line**; what has none becomes zero. -/
theorem clamped_eq_narrowed {v : Value} {n : Number} (h : Number.ofValue? v = some n) :
    v.clamped = .ok (n.place?.elim 0 narrowed) := by
  cases v with
  | bool b =>
      cases h
      show Except.ok (clamp b.toInt) = .ok (clamp (truncated b.toInt))
      rw [truncated_intCast]
  | int i =>
      cases h
      show Except.ok (clamp i) = .ok (clamp (truncated i))
      rw [truncated_intCast]
  | float x =>
      cases h
      cases x with
      | nan => rfl
      | infinite negative => cases negative <;> rfl
      | finite negative code =>
          have hgrain : 0 < Binary64.grain := power_pos (by decide) _
          show Except.ok (clamp _) = .ok (clamp (truncated (_ / Binary64.grain)))
          rw [truncated_div _ hgrain]
  | _ => cases h

/-! ## The law of narrowing -/

/-- What a number is narrowed to: its exact value without the fraction, kept within the bounds. What
is not a number becomes zero, and an infinity the bound on its side. -/
structure IsNarrowed (n : Number) (i : ℤ) : Prop where
  mem : least64 ≤ i ∧ i ≤ greatest64
  finite : ∀ q : ℚ, n.place? = some (.ofRat q) → i = clamp (truncated q)
  nan : n.place? = none → i = 0
  below : n.place? = some ⊥ → i = least64
  above : n.place? = some ⊤ → i = greatest64

theorem isNarrowed_of_clamped {v : Value} {n : Number} (h : Number.ofValue? v = some n) {i : ℤ}
    (hi : v.clamped = .ok i) : IsNarrowed n i := by
  have hplace := clamped_eq_narrowed h
  rw [hi, Except.ok.injEq] at hplace
  refine ⟨clamped_mem hi, ?_, ?_, ?_, ?_⟩
  · intro q hq
    rw [hplace, hq]
    rfl
  all_goals
    intro hn
    rw [hplace, hn]
    rfl

/-- **Every number is narrowed to 64 bits**: the result is the exact value, given by the bits of a
double, truncated and clamped. So whole numbers in the range are kept, narrowing again changes
nothing, and a number that is not smaller is not narrowed to less. -/
theorem clamped_of_number {v : Value} {n : Number} (h : Number.ofValue? v = some n) :
    ∃ i, v.clamped = .ok i ∧ IsNarrowed n i ∧
      (∀ bits, v = .float (.ofBits bits) → n.place? = Binary64.valueOfBits bits) ∧
      (∀ j : ℤ, n.place? = some (.ofRat j) → least64 ≤ j → j ≤ greatest64 → i = j) ∧
      (Value.int i).clamped = .ok i ∧
      ∀ (w : Value) (m : Number) (x y : Extended) (j : ℤ), Number.ofValue? w = some m →
        n.place? = some x → m.place? = some y → x ≤ y → w.clamped = .ok j → i ≤ j := by
  have hi := clamped_eq_narrowed h
  have hnarrowed := isNarrowed_of_clamped h hi
  refine ⟨_, hi, hnarrowed, ?_, ?_, ?_, ?_⟩
  · rintro bits rfl
    cases h
    exact Binary64.place?_ofBits bits
  · intro j hj hleast hgreatest
    rw [hnarrowed.finite _ hj, truncated_intCast, clamp_of_mem ⟨hleast, hgreatest⟩]
  · exact congrArg Except.ok (clamp_of_mem hnarrowed.mem)
  · intro w m x y j hw hx hy hle hj
    rw [clamped_eq_narrowed hw, hy, Except.ok.injEq] at hj
    rw [hx, ← hj]
    exact narrowed_mono hle

/-- One and a half below zero is narrowed to one below zero. -/
theorem clamped_of_fraction : (Value.float (.ofBits 0xbff8000000000000)).clamped = .ok (-1) := by
  obtain ⟨i, hi, hnarrowed, hbits, -⟩ :=
    clamped_of_number (v := .float (.ofBits 0xbff8000000000000)) rfl
  have hmagnitude : Binary64.magnitudeOfBits 0xbff8000000000000 = 3 / 2 := by
    have hexponent : 0xbff8000000000000 / 2 ^ 52 % 2 ^ 11 = 1023 := rfl
    have hfraction : 0xbff8000000000000 % 2 ^ 52 = 2 ^ 51 := rfl
    have hpower : (2 : ℚ) ^ 1075 = 2 ^ 52 * 2 ^ 1023 := by rw [← pow_add]
    rw [Binary64.magnitudeOfBits, hexponent, hfraction, hpower]
    norm_num [mul_div_mul_right]
  have hvalue : Binary64.valueOfBits 0xbff8000000000000 = some (.ofRat (-(3 / 2))) := by
    rw [← hmagnitude]
    rfl
  have htruncated : truncated (-(3 / 2)) = -1 := by
    have hneg : (-(3 / 2) : ℚ) < 0 := by norm_num
    rw [truncated, if_pos hneg, Int.ceil_eq_iff]
    norm_num
  rw [hi, hnarrowed.finite _ ((hbits _ rfl).trans hvalue), htruncated]
  rfl

end Value

end Telemetry
