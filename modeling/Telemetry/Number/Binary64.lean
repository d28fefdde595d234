import Telemetry.Number.Power
import Telemetry.Number.Rounding

/-!
# Double precision numbers

A finite double is a sign and a *code*: the codes `0, 1, 2, …` number the magnitudes in increasing
order, so the type holds no double twice. The magnitude of a code is a whole number of *grains* of
size `2 ^ -1074`, the least positive double, and all arithmetic is done exactly on grains and then
rounded once by `nearestCode`.

The bit pattern of a finite double is its code with the sign put in front (`toBits`).

Main statements: `nearestCode_mul_left` (rounding sees the quotient alone), `nearestCode_grains`
(the magnitude of a code rounds to the code) and `ofBits_toBits` (bit patterns are read back).
-/

namespace Telemetry

/-- The number of codes in a binade, `2 ^ 52`. -/
def Binary64.binade : Nat := 0x10000000000000

/-- The number of magnitudes of finite doubles: those of 2047 binades. -/
def Binary64.codes : Nat := 0x7ff0000000000000

/-- A double precision number. All values that are not a number are one value. -/
inductive Binary64 where
  | nan
  | infinite (negative : Bool)
  | finite (negative : Bool) (code : Fin Binary64.codes)
  deriving DecidableEq, Repr

namespace Binary64

/-! ### Codes and grains -/

/-- One is `2 ^ grainBits` grains. -/
def grainBits : Nat := 1074

/-- The number of grains in one. -/
def grain : Nat := power 2 grainBits

/-- The magnitude with the given code, in grains. The codes of the first binade count single grains;
from there on every binade has a step twice as large as the one before. -/
def grains (code : Nat) : Nat :=
  if code < binade then code else (binade + code % binade) * power 2 (code / binade - 1)

/-- The code nearest to `num / den` grains, a half going to the even code. The step of the binade
that holds the quotient is `2 ^ shift` grains. A result of `codes` or more is too large for a
finite double. -/
def nearestCode (num den : Nat) : Nat :=
  let shift := Nat.log2 (num / den) - 52
  shift * binade + roundHalfEven num (den * power 2 shift)

/-- The nearest code depends on the quotient alone. -/
theorem nearestCode_mul_left {c : Nat} (hc : 0 < c) (num den : Nat) :
    nearestCode (c * num) (c * den) = nearestCode num den := by
  simp only [nearestCode, Nat.mul_div_mul_left _ _ hc, Nat.mul_assoc, roundHalfEven_mul_left hc]

theorem nearestCode_eq_of_cross {a b c d : Nat} (hb : 0 < b) (hd : 0 < d)
    (hcross : a * d = c * b) : nearestCode a b = nearestCode c d := by
  rw [← nearestCode_mul_left hd a b, ← nearestCode_mul_left hb c d, Nat.mul_comm d a, hcross,
    Nat.mul_comm c b, Nat.mul_comm d b]

theorem log2_mul_power {f : Nat} (hf : f < binade) (b : Nat) :
    Nat.log2 ((binade + f) * power 2 b) = 52 + b := by
  have hpos := power_pos (by decide : 0 < 2) b
  have hbinade : binade = power 2 52 := rfl
  refine (Nat.log2_eq_iff (Nat.ne_of_gt (Nat.mul_pos (by omega) hpos))).2 ⟨?_, ?_⟩
  · show power 2 (52 + b) ≤ (binade + f) * power 2 b
    rw [power_add, ← hbinade]
    exact Nat.mul_le_mul_right _ (Nat.le_add_right binade f)
  · show (binade + f) * power 2 b < power 2 (52 + b + 1)
    have htwice : binade + f < binade * 2 := by omega
    rw [power_succ, power_add, ← hbinade, Nat.mul_right_comm]
    exact Nat.mul_lt_mul_of_pos_right htwice hpos

/-- The magnitude of a code rounds to the code. -/
theorem nearestCode_grains (code : Nat) : nearestCode (grains code) 1 = code := by
  have hbinade : 0 < binade := by decide
  rw [grains]
  split
  · next hfirst =>
    have hlog : Nat.log2 code - 52 = 0 := by
      by_cases hzero : code = 0
      · rw [hzero]
        decide
      · have hless : Nat.log2 code < 52 := (Nat.log2_lt hzero).2 hfirst
        omega
    rw [nearestCode, Nat.div_one, hlog, power_zero, Nat.mul_one, roundHalfEven_one, Nat.zero_mul,
      Nat.zero_add]
  · next hlater =>
    have hcode := Nat.div_add_mod code binade
    have hplace : 1 ≤ code / binade := (Nat.one_le_div_iff hbinade).2 (Nat.le_of_not_lt hlater)
    have hrest := Nat.mod_lt code hbinade
    generalize code % binade = f at hcode hrest ⊢
    obtain ⟨b, hb⟩ := Nat.exists_eq_add_of_le' hplace
    rw [hb, Nat.mul_add, Nat.mul_one] at hcode
    rw [hb, Nat.add_sub_cancel, nearestCode, Nat.div_one, log2_mul_power hrest,
      Nat.add_sub_cancel_left]
    -- the power of two in front of the fraction cancels
    have hround := roundHalfEven_mul_left (power_pos (by decide : 0 < 2) b) (binade + f) 1
    rw [Nat.mul_one, roundHalfEven_one] at hround
    rw [Nat.one_mul, Nat.mul_comm (binade + f), hround, Nat.mul_comm b, ← Nat.add_assoc]
    exact hcode

/-- The double of the given sign nearest to `num / den` grains, if it is finite. -/
def ofGrains? (negative : Bool) (num den : Nat) : Option Binary64 :=
  if h : nearestCode num den < codes then some (finite negative ⟨nearestCode num den, h⟩) else none

/-- The double of the given sign nearest to `num / den` grains; what is too large is infinite. -/
def ofGrains (negative : Bool) (num den : Nat) : Binary64 :=
  (ofGrains? negative num den).getD (infinite negative)

/-- The double nearest to the quotient `num / den`, if it is finite. -/
def ofQuotient? (num : Int) (den : Nat) : Option Binary64 :=
  ofGrains? (num < 0) (num.natAbs * grain) den

/-- The double nearest to a whole number, if it is finite. -/
def ofInt? (i : Int) : Option Binary64 := ofQuotient? i 1

/-- The double nearest to the quotient `num / den`; what is too large is infinite. -/
def ofQuotient (num den : Nat) : Binary64 := ofGrains false (num * grain) den

def zero : Binary64 := finite false ⟨0, by decide⟩

instance : Inhabited Binary64 := ⟨zero⟩

instance : Zero Binary64 := ⟨zero⟩

/-! ### Bit patterns -/

/-- The bit of the sign, `2 ^ 63`. -/
def signBit : Nat := 0x8000000000000000

/-- The bit pattern as a number of 64 bits: sign, then code. -/
def toBits : Binary64 → Nat
  | nan => 0x7ff8000000000000
  | infinite negative => negative.toNat * signBit + codes
  | finite negative code => negative.toNat * signBit + code

/-- The double with the given bit pattern. -/
def ofBits (bits : Nat) : Binary64 :=
  let negative := decide (signBit ≤ bits % (2 * signBit))
  let code := bits % signBit
  if h : code < codes then finite negative ⟨code, h⟩
  else if code = codes then infinite negative
  else nan

theorem codes_lt : codes < signBit := by decide

theorem sign_split {code : Nat} (h : code < signBit) (negative : Bool) :
    (negative.toNat * signBit + code) % signBit = code ∧
      (signBit ≤ (negative.toNat * signBit + code) % (2 * signBit) ↔ negative = true) := by
  refine ⟨?_, ?_⟩
  · rw [Nat.add_comm, Nat.add_mul_mod_self_right, Nat.mod_eq_of_lt h]
  · cases negative with
    | false =>
      rw [Bool.toNat_false, Nat.zero_mul, Nat.zero_add, Nat.mod_eq_of_lt (by omega)]
      exact ⟨fun hle => absurd h (Nat.not_lt.2 hle), fun hfalse => nomatch hfalse⟩
    | true =>
      rw [Bool.toNat_true, Nat.one_mul, Nat.mod_eq_of_lt (by omega)]
      exact ⟨fun _ => rfl, fun _ => Nat.le_add_right signBit code⟩

theorem ofBits_signed (negative : Bool) {code : Nat} (h : code < signBit) :
    ofBits (negative.toNat * signBit + code) =
      if hfinite : code < codes then finite negative ⟨code, hfinite⟩
      else if code = codes then infinite negative
      else nan := by
  obtain ⟨hcode, hsign⟩ := sign_split h negative
  have hdecide :
      decide (signBit ≤ (negative.toNat * signBit + code) % (2 * signBit)) = negative :=
    Bool.eq_iff_iff.2 (decide_eq_true_iff.trans hsign)
  unfold ofBits
  generalize negative.toNat * signBit + code = bits at hcode hdecide
  subst hcode hdecide
  rfl

/-- Every double is read back from its bit pattern. -/
theorem ofBits_toBits (x : Binary64) : ofBits x.toBits = x := by
  cases x with
  | nan => rfl
  | infinite negative =>
    rw [toBits, ofBits_signed negative codes_lt, dif_neg (Nat.lt_irrefl codes), if_pos rfl]
  | finite negative code =>
    rw [toBits, ofBits_signed negative (Nat.lt_trans code.isLt codes_lt), dif_pos code.isLt]

/-! ### Sign, size and order -/

/-- Whether the sign is minus, that of a zero included. -/
def isNegative : Binary64 → Bool
  | nan => false
  | infinite negative => negative
  | finite negative _ => negative

/-- The same number with the other sign. -/
def neg : Binary64 → Binary64
  | nan => nan
  | infinite negative => infinite (!negative)
  | finite negative code => finite (!negative) code

instance : Neg Binary64 := ⟨neg⟩

/-- The grains of a finite double, with their sign. -/
def signedGrains (negative : Bool) (code : Nat) : Int :=
  if negative then -(grains code : Int) else grains code

/-- Whether the first number is less than the second. Nothing is less or more than what is not a
number, and the two zeros are equal. -/
def less : Binary64 → Binary64 → Bool
  | nan, _ => false
  | _, nan => false
  | infinite s, infinite t => s && !t
  | infinite s, finite _ _ => s
  | finite _ _, infinite t => !t
  | finite s a, finite t b => signedGrains s a < signedGrains t b

instance : LT Binary64 := ⟨fun x y => less x y = true⟩

instance (x y : Binary64) : Decidable (x < y) := inferInstanceAs (Decidable (less x y = true))

/-- Whether a double is equal to zero in value. -/
def isZero : Binary64 → Bool
  | finite _ code => code.val = 0
  | _ => false

/-- The whole number that a finite double is, if it is whole. -/
def whole? : Binary64 → Option Int
  | finite negative code =>
    if grains code % grain = 0 then some ((signedGrains negative code).tdiv grain) else none
  | _ => none

/-! ### Arithmetic -/

/-- A sum of grains as a double. A sum of zero is negative only if both terms are. -/
def ofSignedGrains (bothNegative : Bool) (sum : Int) : Binary64 :=
  ofGrains (if sum = 0 then bothNegative else sum < 0) sum.natAbs 1

def add : Binary64 → Binary64 → Binary64
  | nan, _ => nan
  | _, nan => nan
  | infinite s, infinite t => if s = t then infinite s else nan
  | infinite s, finite _ _ => infinite s
  | finite _ _, infinite t => infinite t
  | finite s a, finite t b => ofSignedGrains (s && t) (signedGrains s a + signedGrains t b)

instance : Add Binary64 := ⟨add⟩

def sub (x y : Binary64) : Binary64 := add x (neg y)

instance : Sub Binary64 := ⟨sub⟩

/-- The rounded quotient; no quotient for a divisor of zero. -/
def div? : Binary64 → Binary64 → Option Binary64
  | x, y =>
    if y.isZero then none
    else some <| match x, y with
      | nan, _ => nan
      | _, nan => nan
      | infinite _, infinite _ => nan
      | infinite s, finite t _ => infinite (s != t)
      | finite s _, infinite t => finite (s != t) ⟨0, by decide⟩
      | finite s a, finite t b => ofGrains (s != t) (grains a * grain) (grains b)

end Binary64

end Telemetry
