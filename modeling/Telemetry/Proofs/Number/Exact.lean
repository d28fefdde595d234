import Mathlib.Order.WithBot
import Telemetry.Number
import Telemetry.Proofs.Number.Rational

/-!
# Exact values

Integers and doubles have their place on one line: that of the rational numbers, with an infinity at
each end. What is not a number has no place on it.

Main statement: `place?_ofBits`, which reads the place of a double off its bits.
-/

namespace Telemetry

/-- The rational numbers with an infinity at each end. -/
abbrev Extended := WithBot (WithTop ℚ)

/-- The place of a rational number on the line. -/
def Extended.ofRat (q : ℚ) : Extended := WithBot.some (WithTop.some q)

namespace Binary64

/-- The place of a double on the line, if it has one: the number that it is exactly. -/
def place? : Binary64 → Option Extended
  | nan => none
  | infinite negative => some (if negative then ⊥ else ⊤)
  | finite negative code => some (.ofRat (finite negative code).toRat)

/-! ## Bits -/

/-- The magnitude that the bits of a finite double stand for. The least exponent has no leading bit
of its own. -/
def magnitudeOfBits (bits : ℕ) : ℚ :=
  let exponent := bits / 2 ^ 52 % 2 ^ 11
  let fraction := bits % 2 ^ 52
  (if exponent = 0 then fraction else 2 ^ 52 + fraction : ℕ) * 2 ^ max exponent 1 / 2 ^ 1075

/-- Whether the first bit of a double is that of a minus sign. -/
def negativeOfBits (bits : ℕ) : Bool := 2 ^ 63 ≤ bits % 2 ^ 64

/-- What the bits of a double stand for: a sign, eleven bits of an exponent and the 52 bits of a
fraction. -/
def valueOfBits (bits : ℕ) : Option Extended :=
  if bits / 2 ^ 52 % 2 ^ 11 = 2047 then
    if bits % 2 ^ 52 = 0 then some (if negativeOfBits bits then ⊥ else ⊤) else none
  else some (.ofRat (if negativeOfBits bits then -magnitudeOfBits bits else magnitudeOfBits bits))

/-- The code in the bits of a double is made of its exponent and its fraction. -/
theorem code_of_bits (bits : ℕ) : bits % signBit / binade = bits / 2 ^ 52 % 2 ^ 11 ∧
    bits % signBit % binade = bits % 2 ^ 52 := by
  simp only [signBit, binade]
  omega

theorem two_mul_grain : (2 * grain : ℚ) = 2 ^ 1075 := by
  rw [grain, power, Nat.pow_eq, Nat.cast_pow, Nat.cast_ofNat, ← pow_succ', grainBits]

theorem grains_div_grain_of_bits (bits : ℕ) :
    (grains (bits % signBit) / grain : ℚ) = magnitudeOfBits bits := by
  obtain ⟨hexponent, hfraction⟩ := code_of_bits bits
  have hfirst : bits % signBit < binade ↔ bits / 2 ^ 52 % 2 ^ 11 = 0 := by
    rw [← hexponent, Nat.div_eq_zero_iff]
    exact (or_iff_right (by decide)).symm
  have hbinade : binade = 2 ^ 52 := rfl
  simp only [magnitudeOfBits, grains, hfirst, hexponent]
  rw [← two_mul_grain, ← hfraction, mul_comm 2]
  split
  · next hzero =>
    rw [hzero, Nat.mod_eq_of_lt (hfirst.mpr hzero), max_eq_right (Nat.zero_le 1), pow_one,
      mul_div_mul_right _ _ two_ne_zero]
  · next hlater =>
    obtain ⟨place, hplace⟩ := Nat.exists_eq_succ_of_ne_zero hlater
    rw [hplace, Nat.succ_sub_one, max_eq_left (Nat.le_add_left 1 place), pow_succ _ place,
      ← mul_assoc, mul_div_mul_right _ _ two_ne_zero, hbinade, power, Nat.pow_eq]
    push_cast
    rfl

/-- **The value of a double is the one that its bits stand for.** -/
theorem place?_ofBits (bits : ℕ) : (ofBits bits).place? = valueOfBits bits := by
  obtain ⟨hexponent, hfraction⟩ := code_of_bits bits
  have hmagnitude := grains_div_grain_of_bits bits
  have hsplit := Nat.div_add_mod' (bits % signBit) binade
  have hmost : bits / 2 ^ 52 % 2 ^ 11 < 2 ^ 11 := Nat.mod_lt _ (by decide)
  have hrest : bits % 2 ^ 52 < binade := Nat.mod_lt bits (by decide)
  have hcodes : codes = 2047 * binade := rfl
  have hsign : 2 * signBit = 2 ^ 64 := rfl
  have hbit : (2 : ℕ) ^ 63 = signBit := rfl
  rw [hexponent, hfraction] at hsplit
  simp only [valueOfBits, negativeOfBits, ofBits, hsign, hbit]
  by_cases hfinite : bits / 2 ^ 52 % 2 ^ 11 = 2047
  · rw [hfinite, ← hcodes] at hsplit
    rw [dif_neg (by omega), if_pos hfinite]
    by_cases hinfinite : bits % 2 ^ 52 = 0
    · rw [if_pos (by omega), if_pos hinfinite]
      rfl
    · rw [if_neg (by omega), if_neg hinfinite]
      rfl
  · have hcode : bits % signBit < codes := by
      rw [hcodes, ← hsplit]
      calc _ < (bits / 2 ^ 52 % 2 ^ 11 + 1) * binade := by
            rw [Nat.succ_mul]
            exact Nat.add_lt_add_left hrest _
        _ ≤ 2047 * binade := Nat.mul_le_mul_right _ (by omega)
    rw [dif_pos hcode, if_neg hfinite, place?, toRat, signedGrains, ← hmagnitude]
    generalize decide (signBit ≤ bits % 2 ^ 64) = negative
    cases negative with
    | false => rfl
    | true =>
        rw [if_pos rfl, if_pos rfl, Int.cast_neg, neg_div]
        rfl

end Binary64

/-- The place of a number on the line, if it has one. -/
def Number.place? : Number → Option Extended
  | int i => some (.ofRat i)
  | float x => x.place?

end Telemetry
