import Telemetry.Proofs.Value.Narrowing
import Telemetry.Proofs.Window.Span

/-!
# Windows over 64 bits

The difference of two integers of 64 bits is at most `2 ^ 64 - 1`, and so the quotient by any span is
far below the greatest double. A window whose counter answers nothing else never fails to compute its
rate. This depends on every slot of the ring, those of earlier samples included, and therefore it is
an invariant of the window.

Main statements: `exists_rate` (the rate between two such integers) and `Bounded.sample` (what a
sample keeps).
-/

namespace Telemetry

/-- An integer of 64 bits. -/
def Number.IsInt64 (n : Number) : Prop :=
  ∃ i, n = .int i ∧ Value.least64 ≤ i ∧ i ≤ Value.greatest64

theorem Binary64.toRat_nonneg_of_ofQuotient? {num : ℤ} {den : ℕ} (hnum : 0 ≤ num) (hden : 0 < den)
    {x : Binary64} (h : ofQuotient? num den = some x) : 0 ≤ x.toRat := by
  have hquotient : 0 ≤ (num / den : ℚ) :=
    div_nonneg (Int.cast_nonneg hnum) (Nat.cast_nonneg den)
  -- a double below zero is further away than zero
  have hzero := (isNearest_of_ofQuotient? hden h).nearest 0 isFinite_zero
  rw [toRat_zero, sub_zero, abs_of_nonneg hquotient] at hzero
  linarith [le_abs_self (num / den - x.toRat : ℚ)]

namespace Window

/-! ## Rates -/

/-- The greatest change over a span has a rate. -/
theorem exists_limit {span : ℕ} (hspan : 0 < span) :
    ∃ limit, Binary64.ofQuotient? (2 ^ 64 - 1) span = some limit := by
  have hone : (Binary64.ofQuotient? (2 ^ 64 - 1) 1).isSome = true := by decide +kernel
  obtain ⟨most, hmost⟩ := Option.isSome_iff_exists.mp hone
  obtain ⟨limit, hlimit, -⟩ := Binary64.exists_ofQuotient?_of_le hspan Nat.one_pos
    (Nat.mul_le_mul_left _ hspan) hmost
  exact ⟨limit, hlimit⟩

/-- **Two integers of 64 bits have a rate between them**, and it is no greater than that of the
greatest change. -/
theorem exists_rate {newest oldest : Number} (hnewest : newest.IsInt64) (holdest : oldest.IsInt64)
    {span : ℕ} (hspan : 0 < span) {limit : Binary64}
    (hlimit : Binary64.ofQuotient? (2 ^ 64 - 1) span = some limit) :
    ∃ rate, rateOf newest oldest span = .ok rate ∧ rate.IsFinite ∧ |rate.toRat| ≤ limit.toRat := by
  obtain ⟨i, rfl, hi⟩ := hnewest
  obtain ⟨j, rfl, hj⟩ := holdest
  have hchange : (i - j).natAbs ≤ (2 ^ 64 - 1 : ℤ).natAbs := by
    simp only [Value.least64, Value.greatest64] at hi hj
    omega
  obtain ⟨rate, hrate, hless⟩ := Binary64.exists_ofQuotient?_of_le hspan hspan
    (Nat.mul_le_mul_right span hchange) hlimit
  have hnonneg := Binary64.toRat_nonneg_of_ofQuotient? (by decide) hspan hlimit
  rw [abs_of_nonneg hnonneg] at hless
  exact ⟨rate, rateOf_int_eq_ok.mpr hrate,
    (Binary64.isNearest_of_ofQuotient? hspan hrate).isFinite, hless⟩

/-! ## The invariant -/

/-- All readings of a window are integers of 64 bits, and its rate is no greater than that of the
greatest change. -/
structure Bounded (w : Window) : Prop where
  readings : ∀ n ∈ w.readings.toList, n.IsInt64
  isFinite : w.rate.IsFinite
  rate_le : ∀ limit, Binary64.ofQuotient? (2 ^ 64 - 1) w.span = some limit →
    |w.rate.toRat| ≤ limit.toRat

theorem bounded_empty (asked : ℤ) {seconds : ℕ} (hpos : 0 < seconds) :
    (empty asked seconds hpos).Bounded where
  readings := by
    intro n hn
    have hzero : n = .int 0 := by
      apply List.eq_of_mem_replicate (n := panesOf asked seconds + 1)
      rw [← Vector.toList_replicate]
      exact hn
    exact ⟨0, hzero, by decide⟩
  isFinite := Binary64.isFinite_zero
  rate_le := by
    intro limit hlimit
    show |(0 : Binary64).toRat| ≤ limit.toRat
    rw [Binary64.toRat_zero, abs_zero]
    exact Binary64.toRat_nonneg_of_ofQuotient? (by decide) (span_pos _) hlimit

theorem oldest_mem (w : Window) : w.oldest ∈ w.readings.toList :=
  Vector.mem_toList_iff.mpr (Vector.getElem_mem (w.next + 1).isLt)

/-- **A bounded window takes every integer of 64 bits**, and is bounded afterwards. -/
theorem Bounded.sample {w : Window} (h : w.Bounded) {reading : Number} (hreading : reading.IsInt64) :
    (w.sample reading).1 = .ok () ∧ (w.sample reading).2.Bounded := by
  obtain ⟨limit, hlimit⟩ := exists_limit w.span_pos
  obtain ⟨rate, hrate, hfinite, hless⟩ :=
    exists_rate hreading (h.readings _ w.oldest_mem) w.span_pos hlimit
  have hok : (w.sample reading).1 = .ok () := by
    rw [sample_fst, hrate]
    rfl
  have hafter := rateOf_of_sample_ok hok
  rw [hrate, Except.ok.injEq] at hafter
  refine ⟨hok, ?_, ?_, ?_⟩
  · intro n hn
    rw [toList_sample] at hn
    rcases List.mem_or_eq_of_mem_set hn with hold | rfl
    · exact h.readings n hold
    · exact hreading
  · rw [← hafter]
    exact hfinite
  · intro bound hbound
    rw [span_sample, hlimit, Option.some.injEq] at hbound
    rw [← hafter, ← hbound]
    exact hless

/-- A bounded window stays bounded, as long as what its counter answers are integers of 64 bits. -/
theorem Bounded.attempts {w : Window} (h : w.Bounded) {answers : List (Except Fault Number)}
    (hanswers : ∀ n, .ok n ∈ answers → n.IsInt64) : (w.attempts answers).Bounded := by
  induction answers generalizing w with
  | nil => exact h
  | cons answer rest ih =>
      rw [attempts_cons]
      apply ih
      · cases answer with
        | error fault => exact h
        | ok reading => exact (h.sample (hanswers reading List.mem_cons_self)).2
      · intro n hn
        exact hanswers n (List.mem_cons_of_mem _ hn)

end Window

end Telemetry
