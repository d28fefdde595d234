import Telemetry.Pacer

/-!
# How often a pacer starts its task

A pacer starts its task once in every pass of its script, up to the start at which the task fails,
which is its last.

* `failed_loop_iff` says when a loop ends, `length_ticks_of_not_failed` and `failAt_of_failed` how
  often the task was started until then.
* `run_none` is about a task that does not fail.
-/

namespace Telemetry

namespace Pacer

variable {τ : Type} [Add τ] [Sub τ] [Zero τ] [LT τ] [DecidableLT τ]

/-- **A loop ends exactly if its script gets to the start at which the task fails.** -/
theorem failed_loop_iff {interval now deadline : τ} {failAt : Option Nat}
    {script : List (Pass τ)} :
    (loop interval now deadline failAt script).failed = true ↔
      ∃ n, failAt = some (n + 1) ∧ n < script.length := by
  induction script generalizing now deadline failAt with
  | nil => simp [loop]
  | cons pass rest ih =>
      rw [loop]
      split
      · next hfirst =>
        simp [hfirst]
      · next hfirst =>
        -- the task does not fail at this start, so that one start less is left to go
        show (loop _ _ _ (failAt.map (· - 1)) rest).failed = true ↔ _
        rw [ih]
        constructor
        · rintro ⟨n, hn, hlt⟩
          obtain ⟨m, rfl, hm⟩ := Option.map_eq_some_iff.mp hn
          refine ⟨n + 1, ?_, Nat.succ_lt_succ hlt⟩
          rw [show m = n + 1 + 1 by omega]
        · rintro ⟨n, rfl, hlt⟩
          cases n with
          | zero => exact absurd rfl hfirst
          | succ n => exact ⟨n, rfl, Nat.lt_of_succ_lt_succ hlt⟩

/-- A loop that does not end has started the task in each pass. -/
theorem length_ticks_of_not_failed {interval now deadline : τ} {failAt : Option Nat}
    {script : List (Pass τ)} (h : (loop interval now deadline failAt script).failed = false) :
    (loop interval now deadline failAt script).ticks.length = script.length := by
  induction script generalizing now deadline failAt with
  | nil => rfl
  | cons pass rest ih =>
      rw [loop] at h ⊢
      split
      · next hfirst =>
        rw [if_pos hfirst] at h
        cases h
      · next hfirst =>
        rw [if_neg hfirst] at h
        exact congrArg (· + 1) (ih h)

/-- A loop that ends does so at its last start of the task. -/
theorem failAt_of_failed {interval now deadline : τ} {failAt : Option Nat}
    {script : List (Pass τ)} (h : (loop interval now deadline failAt script).failed = true) :
    failAt = some (loop interval now deadline failAt script).ticks.length := by
  induction script generalizing now deadline failAt with
  | nil => cases h
  | cons pass rest ih =>
      rw [loop] at h ⊢
      split
      · next hfirst => exact hfirst
      · next hfirst =>
        rw [if_neg hfirst] at h
        -- at least one start is left to go, so that the count has not come to its end
        obtain ⟨n, hn, -⟩ := failed_loop_iff.mp h
        obtain ⟨m, rfl, hm⟩ := Option.map_eq_some_iff.mp hn
        obtain rfl : m = n + 1 + 1 := by omega
        have hrest := Option.some.inj (ih h)
        exact congrArg (fun k => some (k + 1)) hrest

/-- **A pacer whose task does not fail goes on**, and starts it in each pass. -/
theorem run_none (interval start : τ) (script : List (Pass τ)) :
    (run interval start none script).failed = false ∧
      (run interval start none script).ticks.length = script.length := by
  have hfailed : (run interval start none script).failed = false := by
    rw [Bool.eq_false_iff]
    intro h
    obtain ⟨n, hn, -⟩ := failed_loop_iff.mp h
    cases hn
  exact ⟨hfailed, length_ticks_of_not_failed hfailed⟩

end Pacer

end Telemetry
