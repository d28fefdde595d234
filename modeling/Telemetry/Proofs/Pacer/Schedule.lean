import Mathlib.Algebra.Order.Group.Basic
import Mathlib.Tactic.Abel
import Telemetry.Pacer

/-!
# The schedule of a pacer

On an exact clock a wait ends on the deadline, whatever was late before: lateness and work are taken
off the wait. So the deadlines of a run follow one another by one rule. The next one is one interval
after the last, or, if the work of the pass ended after that, one interval after its end.

* `deadlines` and `ends` are read off a run: when each wait was to end, and when each pass did.
* `Paced` is a run without a wait for a deadline that is over, case by case; `paced_run` says that
  every run is one, and all laws are proved by induction on it.
* `Paced.waits`, `Paced.isChain_deadlines` and `Paced.countP_ticks` say that a pacer never bursts.
* `Paced.tick_of_anchored` is the closed form of the schedule, counted from the last overrun.
-/

namespace Telemetry

/-! ## What a run shows -/

namespace PacerRun

variable {τ : Type} [Add τ]

/-- When the work of each pass ended. -/
def ends (run : PacerRun τ) (script : List (Pass τ)) : List τ :=
  List.zipWith (fun tick pass => tick + pass.work) run.ticks script

/-- When each wait was to end: the clock when the waiting began, at the start or at the end of the
pass before, and the wait on top. -/
def deadlines (run : PacerRun τ) (start : τ) (script : List (Pass τ)) : List τ :=
  List.zipWith (· + ·) (start :: run.ends script) run.waits

/-- A pass overran: its work ended strictly after the deadline that was to follow. -/
def Overran [LT τ] (run : PacerRun τ) (interval start : τ) (script : List (Pass τ)) (j : Nat) :
    Prop :=
  ∃ due done, (run.deadlines start script)[j]? = some due ∧
    (run.ends script)[j]? = some done ∧ due + interval < done

/-- A tick is number `n` after a time: after the end of the last pass before it that overran, or
after the start if none did. -/
inductive Anchored [LT τ] (run : PacerRun τ) (interval start : τ) (script : List (Pass τ))
    (k : Nat) : (anchor : τ) → (n : Nat) → Prop
  | start (hnone : ∀ j < k, ¬ run.Overran interval start script j) :
      Anchored run interval start script k start (k + 1)
  | overrun {j : Nat} {done : τ} (hj : j < k) (hover : run.Overran interval start script j)
      (hlast : ∀ i, j < i → i < k → ¬ run.Overran interval start script i)
      (hdone : (run.ends script)[j]? = some done) :
      Anchored run interval start script k done (k - j)

theorem overran_iff [LT τ] {run : PacerRun τ} {interval start due done : τ}
    {script : List (Pass τ)} {j : Nat} (hdue : (run.deadlines start script)[j]? = some due)
    (hdone : (run.ends script)[j]? = some done) :
    run.Overran interval start script j ↔ due + interval < done := by
  constructor
  · rintro ⟨due', done', hdue', hdone', hless⟩
    obtain rfl := Option.some.inj (hdue.symm.trans hdue')
    obtain rfl := Option.some.inj (hdone.symm.trans hdone')
    exact hless
  · exact fun hless => ⟨due, done, hdue, hdone, hless⟩

theorem deadlines_singleton (wait start : τ) (ticks : List τ) (failed : Bool)
    (script : List (Pass τ)) :
    PacerRun.deadlines ⟨[wait], ticks, failed⟩ start script = [start + wait] := by
  simp [deadlines]

theorem deadlines_cons (run : PacerRun τ) (wait tick start : τ) (pass : Pass τ)
    (rest : List (Pass τ)) :
    PacerRun.deadlines ⟨wait :: run.waits, tick :: run.ticks, run.failed⟩ start (pass :: rest) =
      (start + wait) :: run.deadlines (tick + pass.work) rest := rfl

theorem ends_cons (run : PacerRun τ) (wait tick : τ) (pass : Pass τ) (rest : List (Pass τ)) :
    PacerRun.ends ⟨wait :: run.waits, tick :: run.ticks, run.failed⟩ (pass :: rest) =
      (tick + pass.work) :: run.ends rest := rfl

end PacerRun

namespace Pacer

variable {τ : Type} [AddCommGroup τ] [LinearOrder τ] {interval now deadline start done : τ}
  {script : List (Pass τ)} {run : PacerRun τ}

/-! ## Passes one after another -/

/-- A run on an exact clock, of which no deadline was over when the pacer began to wait for it, so
that each wait ends on its deadline. -/
inductive Paced (interval : τ) : (now deadline : τ) → List (Pass τ) → PacerRun τ → Prop
  | stop {now deadline : τ} (h : now ≤ deadline) :
      Paced interval now deadline [] ⟨[deadline - now], [], false⟩
  | fail {now deadline : τ} {pass : Pass τ} {rest : List (Pass τ)} (h : now ≤ deadline) :
      Paced interval now deadline (pass :: rest) ⟨[deadline - now], [deadline + pass.late], true⟩
  | pass {now deadline : τ} {pass : Pass τ} {rest : List (Pass τ)} {run : PacerRun τ}
      (h : now ≤ deadline)
      (hrest : Paced interval (deadline + pass.late + pass.work)
        (following interval deadline (deadline + pass.late + pass.work)) rest run) :
      Paced interval now deadline (pass :: rest)
        ⟨(deadline - now) :: run.waits, (deadline + pass.late) :: run.ticks, run.failed⟩

theorem Paced.exists_deadlines (h : Paced interval now deadline script run) :
    ∃ later, run.deadlines now script = deadline :: later := by
  cases h <;> exact ⟨_, congrArg (· :: _) (add_sub_cancel now deadline)⟩

/-- Every tick is on its deadline, but for its own lateness. -/
theorem Paced.getElem?_ticks (h : Paced interval now deadline script run) {k : Nat} {tick : τ}
    (htick : run.ticks[k]? = some tick) :
    ∃ due pass, (run.deadlines now script)[k]? = some due ∧ script[k]? = some pass ∧
      tick = due + pass.late := by
  induction h generalizing k with
  | stop h => cases htick
  | @fail now deadline pass rest h =>
      rw [PacerRun.deadlines_singleton, add_sub_cancel]
      cases k with
      | zero => exact ⟨deadline, pass, rfl, rfl, (Option.some.inj htick).symm⟩
      | succ k => cases htick
  | @pass now deadline pass rest run h hrest ih =>
      rw [PacerRun.deadlines_cons, add_sub_cancel]
      cases k with
      | zero => exact ⟨deadline, pass, rfl, rfl, (Option.some.inj htick).symm⟩
      | succ k => exact ih htick

/-- Every deadline but the first follows from the one before and the end of its pass. -/
theorem Paced.getElem?_deadlines (h : Paced interval now deadline script run) {k : Nat} {next : τ}
    (hnext : (run.deadlines now script)[k + 1]? = some next) :
    ∃ due done, (run.deadlines now script)[k]? = some due ∧ (run.ends script)[k]? = some done ∧
      next = following interval due done := by
  induction h generalizing k with
  | stop h => cases hnext
  | fail h => cases hnext
  | @pass now deadline pass rest run h hrest ih =>
      rw [PacerRun.deadlines_cons, add_sub_cancel] at hnext ⊢
      rw [PacerRun.ends_cons]
      cases k with
      | zero =>
          obtain ⟨later, hlater⟩ := hrest.exists_deadlines
          rw [hlater] at hnext
          exact ⟨deadline, _, rfl, rfl, (Option.some.inj hnext).symm⟩
      | succ k => exact ih hnext

/-! ## The schedule in closed form -/

/-- The tick after one is counted from the end of that pass, if it overran, and else from the same
time as the pass. -/
theorem anchored_succ {k n : Nat} {anchor : τ}
    (h : run.Anchored interval start script (k + 1) anchor n) :
    (run.Overran interval start script k ∧ (run.ends script)[k]? = some anchor ∧ n = 1) ∨
      (¬ run.Overran interval start script k ∧
        ∃ m, n = m + 1 ∧ run.Anchored interval start script k anchor m) := by
  cases h with
  | start hnone =>
      right
      exact ⟨hnone k (Nat.lt_succ_self k), k + 1, rfl,
        .start fun j hj => hnone j (Nat.lt_succ_of_lt hj)⟩
  | @overrun j done hj hover hlast hdone =>
      rcases Nat.lt_succ_iff_lt_or_eq.mp hj with hbefore | rfl
      · right
        refine ⟨hlast k hbefore (Nat.lt_succ_self k), k - j, by omega, ?_⟩
        exact .overrun hbefore hover (fun i hi hk => hlast i hi (Nat.lt_succ_of_lt hk)) hdone
      · left
        exact ⟨hover, hdone, by omega⟩

/-- The tick after a pass that kept its time is counted from the same time as the pass. -/
theorem anchored_of_kept {k n : Nat} {anchor : τ} (h : run.Anchored interval start script k anchor n)
    (hkept : ¬ run.Overran interval start script k) :
    run.Anchored interval start script (k + 1) anchor (n + 1) := by
  cases h with
  | start hnone =>
      refine .start ?_
      intro j hj
      rcases Nat.lt_succ_iff_lt_or_eq.mp hj with hbefore | rfl
      · exact hnone j hbefore
      · exact hkept
  | @overrun j done hj hover hlast hdone =>
      rw [← Nat.sub_add_comm hj.le]
      refine .overrun (Nat.lt_succ_of_lt hj) hover ?_ hdone
      intro i hi hk
      rcases Nat.lt_succ_iff_lt_or_eq.mp hk with hbefore | rfl
      · exact hlast i hi hbefore
      · exact hkept

/-- Every tick is counted from some time. -/
theorem exists_anchored (run : PacerRun τ) (interval start : τ) (script : List (Pass τ)) (k : Nat) :
    ∃ anchor n, run.Anchored interval start script k anchor n := by
  induction k with
  | zero => exact ⟨start, 1, .start (by simp)⟩
  | succ k ih =>
      by_cases hover : run.Overran interval start script k
      · obtain ⟨due, done, hdue, hdone, hless⟩ := hover
        refine ⟨done, _, .overrun (Nat.lt_succ_self k) ⟨due, done, hdue, hdone, hless⟩ ?_ hdone⟩
        intro i hi hk
        omega
      · obtain ⟨anchor, n, hanchor⟩ := ih
        exact ⟨anchor, n + 1, anchored_of_kept hanchor hover⟩

/-- A deadline is that many intervals after the time that its tick is counted from. -/
theorem Paced.deadline_of_anchored (h : Paced interval start (start + interval) script run)
    {k n : Nat} {anchor due : τ} (hanchor : run.Anchored interval start script k anchor n)
    (hdue : (run.deadlines start script)[k]? = some due) : due = anchor + n • interval := by
  induction k generalizing n anchor due with
  | zero =>
      obtain ⟨later, hlater⟩ := h.exists_deadlines
      rw [hlater] at hdue
      cases hanchor with
      | start hnone => rw [← Option.some.inj hdue, one_nsmul]
      | overrun hj => cases hj
  | succ k ih =>
      obtain ⟨before, done, hbefore, hdone, rfl⟩ := h.getElem?_deadlines hdue
      have hover : run.Overran interval start script k ↔ before + interval < done :=
        PacerRun.overran_iff hbefore hdone
      rcases anchored_succ hanchor with ⟨hlate, hend, rfl⟩ | ⟨hkept, m, rfl, hsame⟩
      · obtain rfl := Option.some.inj (hdone.symm.trans hend)
        rw [following, if_pos (hover.mp hlate), one_nsmul]
      · rw [following, if_neg (mt hover.mpr hkept), ih hsame hbefore, succ_nsmul, add_assoc]

/-- **The schedule in closed form.** A tick that is number `n` after a time happens `n` intervals
after that time, and late by its own lateness alone. -/
theorem Paced.tick_of_anchored (h : Paced interval start (start + interval) script run)
    {k n : Nat} {anchor tick : τ} (hanchor : run.Anchored interval start script k anchor n)
    (htick : run.ticks[k]? = some tick) :
    ∃ pass, script[k]? = some pass ∧ tick = anchor + n • interval + pass.late := by
  obtain ⟨due, pass, hdue, hpass, rfl⟩ := h.getElem?_ticks htick
  rw [h.deadline_of_anchored hanchor hdue]
  exact ⟨pass, hpass, rfl⟩

/-! ## Every run -/

section Order

variable [IsOrderedAddMonoid τ]

theorem remaining_of_le (h : now ≤ deadline) : remaining deadline now = deadline - now := by
  rw [remaining]
  split
  · rfl
  · next hnone => exact le_antisymm (sub_nonneg.mpr h) (not_lt.mp hnone)

theorem le_following (hinterval : 0 ≤ interval) : done ≤ following interval deadline done := by
  rw [following]
  split
  · exact le_add_of_nonneg_right hinterval
  · next hkept => exact not_lt.mp hkept

theorem add_le_following (hinterval : 0 ≤ interval) :
    deadline + interval ≤ following interval deadline done := by
  rw [following]
  split
  · next hover => exact hover.le.trans (le_add_of_nonneg_right hinterval)
  · exact le_rfl

theorem following_le (h : deadline ≤ done) : following interval deadline done ≤ done + interval := by
  rw [following]
  split
  · exact le_rfl
  · exact add_le_add_left h interval

/-- A pacer never begins to wait for a deadline that is over. -/
theorem paced_loop (hinterval : 0 ≤ interval) (h : now ≤ deadline) (failAt : Option Nat) :
    Paced interval now deadline script (loop interval now deadline failAt script) := by
  induction script generalizing now deadline failAt with
  | nil =>
      rw [loop, remaining_of_le h]
      exact .stop h
  | cons pass rest ih =>
      simp only [loop, remaining_of_le h, add_sub_cancel]
      split
      · exact .fail h
      · exact .pass h (ih (le_following hinterval) _)

theorem paced_run (hinterval : 0 ≤ interval) (failAt : Option Nat) :
    Paced interval start (start + interval) script (Pacer.run interval start failAt script) :=
  paced_loop hinterval (le_add_of_nonneg_right hinterval) failAt

/-! ## No bursts -/

/-- No wait is longer than the interval. -/
theorem Paced.waits (h : Paced interval now deadline script run)
    (hscript : ∀ pass ∈ script, 0 ≤ pass.late ∧ 0 ≤ pass.work)
    (hwithin : deadline ≤ now + interval) : ∀ wait ∈ run.waits, 0 ≤ wait ∧ wait ≤ interval := by
  induction h with
  | stop h | fail h =>
      intro wait hwait
      obtain rfl := List.mem_singleton.mp hwait
      exact ⟨sub_nonneg.mpr h, sub_le_iff_le_add'.mpr hwithin⟩
  | @pass now deadline pass rest run h hrest ih =>
      rw [List.forall_mem_cons] at hscript
      obtain ⟨⟨hlate, hwork⟩, hlater⟩ := hscript
      have hdone : deadline ≤ deadline + pass.late + pass.work :=
        le_add_of_le_of_nonneg (le_add_of_nonneg_right hlate) hwork
      rw [List.forall_mem_cons]
      refine ⟨⟨sub_nonneg.mpr h, sub_le_iff_le_add'.mpr hwithin⟩, ?_⟩
      exact ih hlater (following_le hdone)

/-- Deadlines are at least an interval apart. -/
theorem Paced.isChain_deadlines (h : Paced interval now deadline script run)
    (hinterval : 0 ≤ interval) :
    (run.deadlines now script).IsChain fun due next => due + interval ≤ next := by
  induction h with
  | stop h | fail h =>
      rw [PacerRun.deadlines_singleton]
      exact List.IsChain.singleton _
  | @pass now deadline pass rest run h hrest ih =>
      obtain ⟨later, hlater⟩ := hrest.exists_deadlines
      rw [PacerRun.deadlines_cons, add_sub_cancel, hlater, List.isChain_cons_cons]
      rw [hlater] at ih
      exact ⟨add_le_following hinterval, ih⟩

/-- One tick more on or after a deadline, with one interval more behind it. -/
theorem count_cons {next tick t : τ} {count : Nat} (hinterval : 0 ≤ interval)
    (hdue : deadline ≤ tick) (hnext : deadline + interval ≤ next)
    (hcount : count • interval ≤ max 0 (t - (next - interval))) :
    (count + if tick ≤ t then 1 else 0) • interval ≤ max 0 (t - (deadline - interval)) := by
  have hstep : deadline ≤ next - interval := le_sub_iff_add_le.mpr hnext
  split
  · next htick =>
      have hpast : max 0 (t - (next - interval)) ≤ t - deadline :=
        max_le (sub_nonneg.mpr (hdue.trans htick)) (sub_le_sub_left hstep t)
      calc (count + 1) • interval = count • interval + interval := succ_nsmul interval count
        _ ≤ t - deadline + interval := add_le_add_left (hcount.trans hpast) interval
        _ = t - (deadline - interval) := by abel
        _ ≤ max 0 (t - (deadline - interval)) := le_max_right _ _
  · have hless : deadline - interval ≤ next - interval :=
      (sub_le_self deadline hinterval).trans hstep
    rw [Nat.add_zero]
    exact hcount.trans (max_le_max_left 0 (sub_le_sub_left hless t))

/-- By a time `t`, a run has not started its task more often than intervals fit in between, counted
from one interval before its first deadline. -/
theorem Paced.countP_ticks (h : Paced interval now deadline script run) (hinterval : 0 ≤ interval)
    (hlate : ∀ pass ∈ script, 0 ≤ pass.late) (t : τ) :
    run.ticks.countP (· ≤ t) • interval ≤ max 0 (t - (deadline - interval)) := by
  induction h with
  | stop h => simp
  | fail h =>
      rw [List.forall_mem_cons] at hlate
      rw [List.countP_cons, List.countP_nil]
      simp only [decide_eq_true_eq]
      refine count_cons hinterval (le_add_of_nonneg_right hlate.1) le_rfl ?_
      rw [zero_nsmul]
      exact le_max_left _ _
  | @pass now deadline pass rest run h hrest ih =>
      rw [List.forall_mem_cons] at hlate
      rw [List.countP_cons]
      simp only [decide_eq_true_eq]
      exact count_cons hinterval (le_add_of_nonneg_right hlate.1) (add_le_following hinterval)
        (ih hlate.2)

end Order

end Pacer

end Telemetry
