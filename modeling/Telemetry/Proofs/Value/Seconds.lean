import Telemetry.Number
import Telemetry.Proofs.Number.Rational

/-!
# Checks of seconds

Spans have to be whole numbers of seconds, which an integer and a double may be. Intervals have to be
positive, but the check is one for what is zero or less: what is not a number passes it as well.

* `wholeSeconds_eq_ok_iff` and `requirePositive_eq_ok_iff` are the laws of the two checks.
-/

namespace Telemetry

namespace Number

theorem zero_less_int {i : Int} : (int 0).less (int i) = true ↔ 0 < i := decide_eq_true_iff

theorem zero_less_finite {negative : Bool} {code : Fin Binary64.codes} :
    (int 0).less (float (.finite negative code)) = true ↔
      0 < Binary64.signedGrains negative code := by
  show decide ((0 : Int) * Binary64.grain < Binary64.signedGrains negative code) = true ↔ _
  rw [Int.zero_mul, decide_eq_true_iff]

/-- What is not zero or less is above zero, if it is a number at all. -/
theorem isNonPositive_eq_false_iff {n : Number} :
    n.isNonPositive = false ↔ (int 0).less n = true ∨ n = float .nan := by
  cases n with
  | int i => simp [isNonPositive, zero_less_int]
  | float x =>
      cases x with
      | nan => decide
      | infinite negative => cases negative <;> decide
      | finite negative code =>
          have hless : Binary64.finite negative code < 0 ↔
              Binary64.signedGrains negative code < 0 := by
            show decide (Binary64.signedGrains negative code < Binary64.signedGrains false 0) = true ↔ _
            rw [Binary64.signedGrains_zero, decide_eq_true_iff]
          have hzero : code.val = 0 ↔ Binary64.signedGrains negative code = 0 := by
            rw [← Int.natAbs_eq_zero, Binary64.natAbs_signedGrains]
            exact ⟨fun h => by rw [h, Binary64.grains_zero], Binary64.grains_eq_zero⟩
          simp only [isNonPositive, Binary64.isZero, zero_less_finite, hless, hzero,
            Bool.or_eq_false_iff, decide_eq_false_iff_not, float.injEq, reduceCtorEq, or_false]
          omega

/-- The number itself, if it is finite. -/
def toRat : Number → ℚ
  | int i => i
  | float x => x.toRat

theorem less_of_toRat_pos {n : Number} (h : 0 < n.toRat) : (int 0).less n = true := by
  cases n with
  | int i =>
      rw [zero_less_int, ← Int.cast_pos (R := ℚ)]
      exact h
  | float x =>
      cases x with
      | finite negative code =>
          have hgrains := (div_pos_iff_of_pos_right Binary64.grain_pos).mp h
          rw [zero_less_finite]
          exact_mod_cast hgrains
      | _ => exact absurd h (lt_irrefl 0)

end Number

namespace Value

/-- A value is the whole number `n` of seconds, as an integer or as a double. -/
def IsSeconds (v : Value) (n : Int) : Prop := v = .int n ∨ ∃ x, v = .float x ∧ x.IsWhole n

/-- A value is a number above zero. Truth values are numbers. -/
def IsPositive (v : Value) : Prop :=
  ∃ n, Number.ofValue? v = some n ∧ (Number.int 0).less n = true

theorem wholeSeconds_eq_ok_iff {field : String} {v : Value} {n : Int} :
    v.wholeSeconds field = .ok n ↔ v.IsSeconds n := by
  cases v with
  | int i => simp [wholeSeconds, IsSeconds]
  | float x =>
      have hwhole : x.whole? = some n ↔ x.IsWhole n := Binary64.whole?_eq_some_iff
      cases hx : x.whole? <;> simp_all [wholeSeconds, IsSeconds]
  | _ => simp [wholeSeconds, IsSeconds]

/-- The check for positive numbers lets pass what is not a number. -/
theorem requirePositive_eq_ok_iff {field : String} {v : Value} :
    v.requirePositive field = .ok () ↔ v.IsPositive ∨ v = .float .nan := by
  have hnan : v = .float .nan ↔ Number.ofValue? v = some (.float .nan) := by
    cases v <;> simp [Number.ofValue?]
  rw [hnan]
  cases hv : Number.ofValue? v with
  | none => simp [requirePositive, isNonPositive, IsPositive, hv]
  | some n =>
      have hsign := Number.isNonPositive_eq_false_iff (n := n)
      cases hn : n.isNonPositive <;>
        simp_all [requirePositive, isNonPositive, IsPositive, pure, Except.pure]

theorem isPositive_int_iff {i : Int} : (Value.int i).IsPositive ↔ 1 ≤ i := by
  simp only [IsPositive, Number.ofValue?, Option.some.injEq, exists_eq_left', Number.zero_less_int]
  exact Int.lt_iff_add_one_le

theorem requirePositive_int {field : String} {i : Int} :
    (Value.int i).requirePositive field = .ok () ↔ 1 ≤ i := by
  simp [requirePositive_eq_ok_iff, isPositive_int_iff]

end Value

end Telemetry
