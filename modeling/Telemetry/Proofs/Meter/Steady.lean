import Telemetry.Proofs.Meter.Rate
import Telemetry.Proofs.Number.Nearest

/-!
# Steady rates

The change over a span is the sum of the changes over its panes. So if none of these is less than `a`
and none is more than `b`, the rate lies between that of `a` and that of `b` in one interval. If all
of them are the same, the rate is not only near to that of one interval, but the same double, because
the quotient of the sums is the same rational number.

Main statement: `rate_of_changes`.
-/

namespace Telemetry

/-- A change over some steps lies between bounds of the single steps, each taken as often. -/
theorem change_mem_of_changes (v : ℕ → ℤ) (k : ℕ) {a b : ℤ} {steps : ℕ}
    (h : ∀ i < steps, a ≤ v (k - i) - v (k - (i + 1)) ∧ v (k - i) - v (k - (i + 1)) ≤ b) :
    a * steps ≤ v k - v (k - steps) ∧ v k - v (k - steps) ≤ b * steps := by
  induction steps with
  | zero => simp
  | succ steps ih =>
      obtain ⟨hleast, hmost⟩ := ih fun i hi => h i (Nat.lt_succ_of_lt hi)
      obtain ⟨hfrom, hto⟩ := h steps (Nat.lt_succ_self steps)
      push_cast
      constructor <;> linarith

namespace Window

/-- The change over the span of a window is divided by the span as the change over one interval is
by the interval. -/
theorem ofQuotient?_mul_panes (w : Window) (c : ℤ) :
    Binary64.ofQuotient? (c * (w.span / w.interval : ℕ)) w.span =
      Binary64.ofQuotient? c w.interval := by
  rw [span_div_interval, span, Nat.mul_comm]
  exact Binary64.ofQuotient?_mul_right c w.interval w.panes_pos

/-- A change over the span that lies between two changes, each as often as there are panes, has a
quotient that lies between theirs. -/
theorem quotient_mem (w : Window) {a b change : ℤ}
    (hleast : a * (w.span / w.interval : ℕ) ≤ change)
    (hmost : change ≤ b * (w.span / w.interval : ℕ)) :
    (a / w.interval : ℚ) ≤ change / w.span ∧ (change / w.span : ℚ) ≤ b / w.interval := by
  rw [span_div_interval] at hleast hmost
  have hinterval : (0 : ℚ) < w.interval := by exact_mod_cast w.interval_pos
  have hpanes : (0 : ℚ) < w.panes := by exact_mod_cast w.panes_pos
  have hscaled (c : ℤ) : (c / w.interval : ℚ) = (c * w.panes : ℤ) / w.span := by
    rw [span]
    push_cast
    field_simp
  have hspan : (0 : ℚ) ≤ w.span := Nat.cast_nonneg _
  rw [hscaled a, hscaled b]
  constructor
  · exact div_le_div_of_nonneg_right (Int.cast_le.mpr hleast) hspan
  · exact div_le_div_of_nonneg_right (Int.cast_le.mpr hmost) hspan

end Window

namespace Store

/-- **The rate of a meter lies between the rates of the changes in its span.** Let a meter be new in
some store, and let a run sample it without failing and do anything else in between. Where `v j` is
the integer that its counter answered at sample number `j`, and zero before the first, the rate is
the double nearest to the change over the span divided by the span. If the changes between
consecutive readings in the span lie between `a` and `b`, this quotient lies between those of `a` and
`b` by the interval; and if all these changes are `c`, then the rate is the very double that `c`
divided by the interval is rounded to. -/
theorem rate_of_changes {s : Store} {r counter : Ref} {room : Nat}
    {requested interval : Value} {w : Window}
    (hnew : Window.create room requested interval = .ok w)
    (hmeter : s.get? r = some (.meter counter w)) (actions : List Action) (readings : List ℤ)
    (hread : s.heard r counter actions = readings.map fun v => .ok (.int v))
    (hok : ∀ t ∈ s.sampledAt r actions, (t.sample r).1 = .ok ()) :
    let v := Window.readingAt 0 readings
    let k := readings.length
    let panes := w.span / w.interval
    let q : ℚ := (v k - v (k - panes) : ℤ) / w.span
    ∃ after : Window, (s.run actions).get? r = some (.meter counter after) ∧
      (s.run actions).meterRate r = .ok after.rate ∧
      after.rate.IsNearest q ∧
      (∀ a b : ℤ,
        (∀ i < panes, a ≤ v (k - i) - v (k - (i + 1)) ∧ v (k - i) - v (k - (i + 1)) ≤ b) →
        (a / w.interval : ℚ) ≤ q ∧ q ≤ b / w.interval) ∧
      ∀ c : ℤ, (∀ i < panes, v (k - i) - v (k - (i + 1)) = c) →
        (Number.int c).divide w.interval = .ok after.rate := by
  intro v k panes q
  obtain ⟨hempty, -⟩ := Window.follows_create hnew
  have hafter := get?_run_meter hmeter actions
  have hfollows := follows_run hmeter hempty actions readings hread hok
  have hrate := hfollows.rate
  rw [List.nil_append, Window.span_attempts, Window.panes_attempts, ← w.span_div_interval] at hrate
  refine ⟨_, hafter, ?_, ?_, ?_, ?_⟩
  · simp only [meterRate, hafter]
  · exact Binary64.isNearest_of_ofQuotient? w.span_pos hrate
  · intro a b hchanges
    obtain ⟨hleast, hmost⟩ := change_mem_of_changes v k hchanges
    exact w.quotient_mem hleast hmost
  · intro c hchanges
    obtain ⟨hleast, hmost⟩ := change_mem_of_changes v k fun i hi =>
      ⟨(hchanges i hi).ge, (hchanges i hi).le⟩
    have hchange : v k - v (k - panes) = c * panes := le_antisymm hmost hleast
    have hsame := w.ofQuotient?_mul_panes c
    rw [← hchange, hrate] at hsame
    exact Fault.elim_eq_ok.mpr hsame.symm

/-! ### A steady run -/

/-- Three samples with seven events before each. -/
def sevens : List Action :=
  [.recordEvent 1 (.int 7), .sample 1, .change .increase 0 (.int 7), .sample 1,
   .recordEvent 1 (.int 3), .recordEvent 1 (.int 4), .count 0, .sample 1]

/-- Seven events in every interval of five seconds are a rate of seven fifths. -/
theorem rate_of_sevens : ∃ rate, (twoPanes.run sevens).meterRate 1 = .ok rate ∧
    (Number.int 7).divide 5 = .ok rate := by
  have hnew : Window.create 3 (.int 10) (.int 5) = .ok (Window.fives 2) := rfl
  have hmeter : twoPanes.get? 1 = some (.meter 0 (Window.fives 2)) := rfl
  have hsucceed : (twoPanes.sampledAt 1 sevens).all (fun t => (t.sample 1).1.isOk) = true := by
    decide +kernel
  have hok : ∀ t ∈ twoPanes.sampledAt 1 sevens, (t.sample 1).1 = .ok () := by
    intro t ht
    exact Fault.eq_ok_of_isOk (List.all_eq_true.mp hsucceed t ht)
  obtain ⟨after, -, hshown, -, -, hsteady⟩ :=
    rate_of_changes hnew hmeter sevens [7, 14, 21] (eq_map_ok_of_toOption (by decide +kernel)) hok
  exact ⟨after.rate, hshown, hsteady 7 (by decide)⟩

end Store

end Telemetry
