import Telemetry.Proofs.Store.Sampling

/-!
# Failing samples of a meter

A sample of a meter fails if its counter cannot be read, and then the meter is as if it had never
been sampled. It also fails if there is no rate between two readings; then the rate stays but the
ring moves on, and every later rate is a comparison with other readings than it would have been.

Main statements: `failed_sample_iff` (when a failed sample is without consequences) and
`failed_sample_observed` (a failed sample with consequences).
-/

namespace Telemetry

namespace Store

/-- **A failed sample of a meter keeps the rate.** It keeps the cursor, and lets every later
sequence of readings succeed, fail and set the rate as if it had never been made, exactly if it was
the counter that could not be read. If it was the rate that could not be computed, sampling the same
reading again until the failed sample is a span ago tells the difference, as long as that reading
has a rate to itself. So after any run, with failures anywhere in it, the meter is as the readings
alone would have left it, those without a rate included. -/
theorem failed_sample_iff {s : Store} {r counter : Ref} {w : Window} {fault : Fault}
    (hmeter : s.get? r = some (.meter counter w)) (hfailed : (s.sample r).1 = .error fault) :
    ∃ after : Window, (s.sample r).2.get? r = some (.meter counter after) ∧
      after.rate = w.rate ∧
      ((after.cursor.val = w.cursor.val ∧ ∀ later, after.outcomes later = w.outcomes later) ↔
        (s.count counter).1 = .error fault) ∧
      (∀ reading rate, (s.count counter).1 = .ok reading →
        Window.rateOf reading reading w.span = .ok rate →
        after.outcomes (List.replicate w.panes (.ok reading)) ≠
          w.outcomes (List.replicate w.panes (.ok reading))) ∧
      ∀ actions, (s.run actions).get? r =
        some (.meter counter (w.attempts ((s.heard r counter actions).filter Except.isOk))) := by
  obtain ⟨hresult, hafter⟩ := sample_meter hmeter
  rw [hresult] at hfailed
  obtain ⟨hrate, hiff⟩ := Window.attempt_failed_iff hfailed
  refine ⟨_, hafter, hrate, hiff, ?_, ?_⟩
  · intro reading rate hread hself
    rw [hread] at hfailed ⊢
    exact Window.outcomes_ne_of_failed hfailed hself
  · intro actions
    rw [Window.attempts_filter]
    exact get?_run_meter hmeter actions

/-- A counter beyond all doubles, and a meter of it with the shortest ring. -/
def hugeCount : Store where
  metrics := #[.counter (.int (power 10 400)), .meter 0 (Window.fives 1)]

theorem get?_hugeCount : hugeCount.get? 1 = some (.meter 0 (Window.fives 1)) := rfl

theorem sample_hugeCount_fails : ∃ fault, (hugeCount.sample 1).1 = .error fault := by
  have hfails : (hugeCount.sample 1).1.isOk = false := by decide +kernel
  exact Fault.exists_eq_error hfails

/-- The count has a rate to itself, so that the failed sample of it can be told. -/
theorem failed_sample_iff_hugeCount :
    ∃ after : Window, (hugeCount.sample 1).2.get? 1 = some (.meter 0 after) ∧ after.rate = 0 ∧
      after.outcomes [.ok (.int (power 10 400))] ≠
        (Window.fives 1).outcomes [.ok (.int (power 10 400))] := by
  obtain ⟨fault, hfailed⟩ := sample_hugeCount_fails
  have hself : (Window.rateOf (.int (power 10 400)) (.int (power 10 400)) 5).isOk = true := by
    decide +kernel
  obtain ⟨after, hafter, hrate, -, hshows, -⟩ :=
    failed_sample_iff get?_hugeCount hfailed
  cases hquotient : Window.rateOf (.int (power 10 400)) (.int (power 10 400)) 5 with
  | error cause =>
      rw [hquotient] at hself
      cases hself
  | ok rate => exact ⟨after, hafter, hrate, hshows _ rate rfl hquotient⟩

/-- **A failed sample that has consequences**: the cursor has moved, and once the counter is back at
zero, the next sample fails as well, which it would not have done. -/
theorem failed_sample_observed :
    ∃ (fault : Fault) (after : Window), (hugeCount.sample 1).1 = .error fault ∧
      (hugeCount.sample 1).2.get? 1 = some (.meter 0 after) ∧
      after.cursor.val ≠ (Window.fives 1).cursor.val ∧
      after.outcomes [.ok (.int 0)] ≠ (Window.fives 1).outcomes [.ok (.int 0)] := by
  obtain ⟨fault, hfailed⟩ := sample_hugeCount_fails
  obtain ⟨-, hafter⟩ := sample_meter get?_hugeCount
  refine ⟨fault, _, hfailed, hafter, ?_, ?_⟩
  · decide +kernel
  · decide +kernel

end Store

end Telemetry
