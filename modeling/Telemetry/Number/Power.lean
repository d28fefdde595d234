/-!
# Powers

Powers of natural numbers, by which decimals and doubles are scaled.

Main statements: `power_succ`, `power_add` and `mul_power` (the laws of exponents) and `power_pos`.
-/

namespace Telemetry

def power (base exponent : Nat) : Nat := Nat.pow base exponent

theorem power_zero (base : Nat) : power base 0 = 1 := rfl

/-- One factor more. -/
theorem power_succ (base exponent : Nat) :
    power base (exponent + 1) = power base exponent * base := rfl

/-- Exponents are added. -/
theorem power_add (base m n : Nat) : power base (m + n) = power base m * power base n :=
  Nat.pow_add base m n

/-- The power of a product is the product of the powers. -/
theorem mul_power (a b exponent : Nat) :
    power (a * b) exponent = power a exponent * power b exponent :=
  Nat.mul_pow a b exponent

/-- Powers of positive numbers are positive. -/
theorem power_pos {base : Nat} (h : 0 < base) (exponent : Nat) : 0 < power base exponent :=
  Nat.pow_pos h

end Telemetry
