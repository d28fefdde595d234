/-!
# Rounding quotients to whole numbers

A quotient of natural numbers is rounded to the nearest whole number, a half going to the even
neighbour. Every rounded result of the library (binary fractions, decimal places) comes from this
one function.

Main statements: `roundHalfEven_mul_left` (a common factor does not matter), `roundHalfEven_one`
(whole quotients are kept) and the two bounds `div_le_roundHalfEven`, `roundHalfEven_le_succ_div`.
-/

namespace Telemetry

/-- The whole number nearest to `num / den`; a half goes to the even neighbour. -/
def roundHalfEven (num den : Nat) : Nat :=
  let low := num / den
  let rest := num % den
  if 2 * rest < den then low
  else if den < 2 * rest then low + 1
  else if low % 2 = 0 then low
  else low + 1

/-- Rounding never goes below the whole part. -/
theorem div_le_roundHalfEven (num den : Nat) : num / den ≤ roundHalfEven num den := by
  simp only [roundHalfEven]
  split <;> try split <;> try split
  all_goals omega

/-- Rounding goes at most one above the whole part. -/
theorem roundHalfEven_le_succ_div (num den : Nat) : roundHalfEven num den ≤ num / den + 1 := by
  simp only [roundHalfEven]
  split <;> try split <;> try split
  all_goals omega

/-- Whole numbers are their own rounding. -/
theorem roundHalfEven_one (num : Nat) : roundHalfEven num 1 = num := by
  simp [roundHalfEven, Nat.mod_one]

/-- The rounding depends on the quotient alone: a common factor cancels. -/
theorem roundHalfEven_mul_left {c : Nat} (hc : 0 < c) (num den : Nat) :
    roundHalfEven (c * num) (c * den) = roundHalfEven num den := by
  have hdiv : c * num / (c * den) = num / den := Nat.mul_div_mul_left _ _ hc
  have hmod : c * num % (c * den) = c * (num % den) := Nat.mul_mod_mul_left _ _ _
  have hlt : ∀ a b, c * a < c * b ↔ a < b := fun a b => Nat.mul_lt_mul_left hc
  have h1 : (2 * (c * (num % den)) < c * den) ↔ 2 * (num % den) < den := by
    rw [Nat.mul_left_comm, hlt]
  have h2 : (c * den < 2 * (c * (num % den))) ↔ den < 2 * (num % den) := by
    rw [Nat.mul_left_comm, hlt]
  simp only [roundHalfEven, hdiv, hmod, h1, h2]

end Telemetry
