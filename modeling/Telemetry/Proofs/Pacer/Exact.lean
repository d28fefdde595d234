import Mathlib.Algebra.Order.BigOperators.Group.List
import Mathlib.Tactic.NormNum
import Telemetry.Proofs.Number.Rational
import Telemetry.Proofs.Pacer.Schedule
import Telemetry.Proofs.Pacer.Starts
import Telemetry.Proofs.Value.Seconds

/-!
# Pacing on the clock of doubles

Sums and differences of times are rounded. As long as they happen to be exact, a run on the clock of
doubles is the run on rational numbers, and has its schedule. Whole seconds below `2 ^ 53` are such
times.

* `ExactRun` says that no sum or difference of a run is rounded, `exactRun_whole` that this is so for
  whole seconds.
* `map_run` is the step from doubles to rational numbers.
* `ticks_never_burst` and `ticks_never_drift` are the laws of the schedule.
-/

namespace Telemetry

/-- A pass with times of another type. -/
def Pass.map {σ τ : Type} (f : σ → τ) (pass : Pass σ) : Pass τ := ⟨f pass.late, f pass.work⟩

/-- A run with times of another type. -/
def PacerRun.map {σ τ : Type} (f : σ → τ) (run : PacerRun σ) : PacerRun τ :=
  ⟨run.waits.map f, run.ticks.map f, run.failed⟩

namespace Pacer

open Binary64

/-! ## Exact runs -/

/-- No sum or difference is rounded from some pass of a run on. -/
def ExactLoop (interval : Binary64) :
    (now deadline : Binary64) → (failAt : Option Nat) → List (Pass Binary64) → Prop
  | now, deadline, _, [] => ExactDifference deadline now
  | now, deadline, failAt, pass :: rest =>
    let wait := remaining deadline now
    let tick := now + wait + pass.late
    let done := tick + pass.work
    ExactDifference deadline now ∧ ExactSum now wait ∧ ExactSum (now + wait) pass.late ∧
      (failAt ≠ some 1 →
        ExactSum tick pass.work ∧ ExactSum deadline interval ∧
        (deadline + interval < done → ExactSum done interval) ∧
        ExactLoop interval done (following interval deadline done) (failAt.map (· - 1)) rest)

/-- No sum or difference of a run is rounded. -/
def ExactRun (interval start : Binary64) (failAt : Option Nat) (script : List (Pass Binary64)) :
    Prop :=
  ExactSum start interval ∧ ExactLoop interval start (start + interval) failAt script

theorem toRat_remaining {now deadline : Binary64} (h : ExactDifference deadline now) :
    (remaining deadline now).toRat = remaining deadline.toRat now.toRat := by
  rw [remaining, remaining, ← h.toRat_sub]
  have hpositive := lt_iff_toRat isFinite_zero h.isFinite
  rw [toRat_zero] at hpositive
  rw [apply_ite toRat, toRat_zero]
  simp only [hpositive]

theorem toRat_following {interval deadline done : Binary64} (hnext : ExactSum deadline interval)
    (hdone : done.IsFinite) (hlater : deadline + interval < done → ExactSum done interval) :
    (following interval deadline done).toRat =
      following interval.toRat deadline.toRat done.toRat := by
  have hover := lt_iff_toRat hnext.isFinite hdone
  rw [hnext.toRat_add] at hover
  rw [following, following]
  split
  · next hlate => rw [if_pos (hover.mp hlate), (hlater hlate).toRat_add]
  · next hkept => rw [if_neg (mt hover.mpr hkept), hnext.toRat_add]

/-- An exact run is the run on rational numbers. -/
theorem map_loop {interval now deadline : Binary64} {failAt : Option Nat}
    {script : List (Pass Binary64)} (h : ExactLoop interval now deadline failAt script) :
    (loop interval now deadline failAt script).map toRat =
      loop interval.toRat now.toRat deadline.toRat failAt (script.map (Pass.map toRat)) := by
  induction script generalizing now deadline failAt with
  | nil => simp [loop, PacerRun.map, toRat_remaining h]
  | cons pass rest ih =>
      obtain ⟨hwait, hwake, hlate, hgoes⟩ := h
      have htick : (now + remaining deadline now + pass.late).toRat =
          now.toRat + remaining deadline.toRat now.toRat + pass.late.toRat := by
        rw [hlate.toRat_add, hwake.toRat_add, toRat_remaining hwait]
      rw [List.map_cons, loop, loop]
      by_cases hfail : failAt = some 1
      · simp [hfail, PacerRun.map, Pass.map, htick, toRat_remaining hwait]
      · obtain ⟨hwork, hnext, hlater, hrest⟩ := hgoes hfail
        have hrun := ih hrest
        rw [toRat_following hnext hwork.isFinite hlater, hwork.toRat_add, htick] at hrun
        simp only [hfail, if_false, PacerRun.map, Pass.map, List.map_cons, htick,
          toRat_remaining hwait] at hrun ⊢
        rw [← hrun]

theorem map_run {interval start : Binary64} {failAt : Option Nat} {script : List (Pass Binary64)}
    (h : ExactRun interval start failAt script) :
    (Pacer.run interval start failAt script).map toRat =
      Pacer.run interval.toRat start.toRat failAt (script.map (Pass.map toRat)) := by
  rw [Pacer.run, Pacer.run, map_loop h.2, h.1.toRat_add]

/-! ## Whole seconds -/

theorem isWhole_remaining {now deadline : Binary64} {m d : Nat} (hnow : now.IsWhole m)
    (hdeadline : deadline.IsWhole d) (h : m ≤ d) (hbound : d < 2 ^ 53) :
    (remaining deadline now).IsWhole (d - m) := by
  have hexact := hdeadline.exactDifference hnow (by omega)
  refine ⟨?_, ?_⟩
  · rw [remaining]
    split
    · exact hexact.isFinite
    · exact isFinite_zero
  · have hle : (m : ℚ) ≤ d := by exact_mod_cast h
    rw [toRat_remaining hexact, hnow.2, hdeadline.2]
    push_cast
    exact remaining_of_le hle

theorem isWhole_following {interval deadline done : Binary64} {i d e : Nat}
    (hinterval : interval.IsWhole i) (hdeadline : deadline.IsWhole d) (hdone : done.IsWhole e)
    (hle : d ≤ e) (hbound : e + i < 2 ^ 53) :
    ∃ next : Nat, (following interval deadline done).IsWhole next ∧ e ≤ next ∧ next ≤ e + i := by
  have hnext := hdeadline.add hinterval (by omega)
  have hlater := hdone.add hinterval (by omega)
  have hover := lt_iff_toRat hnext.1 hdone.1
  rw [hnext.2, hdone.2, Int.cast_lt] at hover
  rw [following]
  split
  · exact ⟨e + i, by exact_mod_cast hlater, Nat.le_add_right e i, le_rfl⟩
  · next hkept =>
      refine ⟨d + i, by exact_mod_cast hnext, ?_, Nat.add_le_add_right hle i⟩
      have hless := mt hover.mpr hkept
      omega

/-- Whole seconds are exact from some pass of a run on, if the last of them is below `2 ^ 53`. -/
theorem exactLoop_whole {now deadline : Binary64} {interval m d : Nat} {failAt : Option Nat}
    {script : List (Pass Nat)} (hnow : now.IsWhole m) (hdeadline : deadline.IsWhole d) (h : m ≤ d)
    (hbound : d + (script.map fun pass => pass.late + pass.work + interval).sum < 2 ^ 53) :
    ExactLoop (whole interval) now deadline failAt (script.map (Pass.map whole)) := by
  induction script generalizing now deadline failAt m d with
  | nil => exact hdeadline.exactDifference hnow (by omega)
  | cons pass rest ih =>
      rw [List.map_cons, List.sum_cons] at hbound
      have hinterval := isWhole_whole (n := interval) (by omega)
      have hlate := isWhole_whole (n := pass.late) (by omega)
      have hwork := isWhole_whole (n := pass.work) (by omega)
      have hwait := isWhole_remaining hnow hdeadline h (by omega)
      have hwake := hnow.add hwait (by omega)
      have htick := hwake.add hlate (by omega)
      have hdone := htick.add hwork (by omega)
      rw [show (m : Int) + (d - m) + pass.late + pass.work = (d + pass.late + pass.work : Nat) by
        omega] at hdone
      simp only [List.map_cons, ExactLoop, Pass.map]
      refine ⟨hdeadline.exactDifference hnow (by omega), hnow.exactSum hwait (by omega),
        hwake.exactSum hlate (by omega), ?_⟩
      intro _
      obtain ⟨next, hnext, hahead, hwithin⟩ :=
        isWhole_following hinterval hdeadline hdone (by omega) (by omega)
      refine ⟨htick.exactSum hwork (by omega), hdeadline.exactSum hinterval (by omega), ?_, ?_⟩
      · intro _
        exact hdone.exactSum hinterval (by omega)
      · exact ih hdone hnext hahead (by omega)

/-- Runs of whole seconds are exact, if the last of them is below `2 ^ 53`. -/
theorem exactRun_whole {interval start : Nat} {failAt : Option Nat} {script : List (Pass Nat)}
    (hbound : start + interval +
      (script.map fun pass => pass.late + pass.work + interval).sum < 2 ^ 53) :
    ExactRun (whole interval) (whole start) failAt (script.map (Pass.map whole)) := by
  have hstart := isWhole_whole (n := start) (by omega)
  have hinterval := isWhole_whole (n := interval) (by omega)
  have hfirst := hstart.add hinterval (by omega)
  exact ⟨hstart.exactSum hinterval (by omega),
    exactLoop_whole hstart hfirst (Nat.le_add_right start interval) hbound⟩

theorem toRat_whole {n : Nat} (hn : n < 2 ^ 53) : (whole n).toRat = n := (isWhole_whole hn).2

theorem toRat_whole_pos {n : Nat} (hpos : 0 < n) (hn : n < 2 ^ 53) : 0 < (whole n).toRat := by
  rw [toRat_whole hn]
  exact_mod_cast hpos

/-- Of whole seconds, the run on the clock of doubles is the run on whole numbers. -/
theorem map_run_whole {interval start : Nat} {failAt : Option Nat} {script : List (Pass Nat)}
    (hbound : start + interval +
      (script.map fun pass => pass.late + pass.work + interval).sum < 2 ^ 53) :
    (Pacer.run (whole interval) (whole start) failAt (script.map (Pass.map whole))).map toRat =
      Pacer.run (interval : ℚ) start failAt (script.map (Pass.map Nat.cast)) := by
  have htimes : (script.map (Pass.map whole)).map (Pass.map toRat) =
      script.map (Pass.map Nat.cast) := by
    rw [List.map_map]
    refine List.map_congr_left fun pass hpass => ?_
    have hsum : pass.late + pass.work + interval ≤
        (script.map fun pass => pass.late + pass.work + interval).sum :=
      List.single_le_sum (by simp) _ (List.mem_map_of_mem hpass)
    simp only [Function.comp_apply, Pass.map]
    rw [toRat_whole (by omega), toRat_whole (by omega)]
  rw [map_run (exactRun_whole hbound), htimes, toRat_whole (by omega), toRat_whole (by omega)]

/-! ## The schedule of an exact run -/

/-- An interval is a double, or an integer that becomes the double without rounding. -/
def IsInterval (interval : Value) (seconds : Binary64) : Prop :=
  ∃ n, Number.ofValue? interval = some n ∧ n.toFloat = .ok seconds ∧ n.toRat = seconds.toRat

theorem isInterval_int {i : Nat} (hbound : i < 2 ^ 53) : IsInterval (.int i) (whole i) := by
  refine ⟨.int i, rfl, ?_, (isWhole_whole hbound).2.symm⟩
  rw [Number.toFloat, ofInt?_natCast hbound]
  rfl

/-- A pacer takes every positive interval, and starts a task that does not fail in every pass. -/
theorem runValues_of_isInterval {interval : Value} {seconds : Binary64}
    (hinterval : IsInterval interval seconds) (hpositive : 0 < seconds.toRat) (start : Binary64)
    (failAt : Option Nat) (script : List (Pass Binary64)) :
    (∃ fault, runValues interval start failAt script =
      .ok (Pacer.run seconds start failAt script, fault)) ∧
    (failAt = none → (Pacer.run seconds start failAt script).ticks.length = script.length) := by
  obtain ⟨n, hn, hfloat, hrat⟩ := hinterval
  rw [← hrat] at hpositive
  have haccepted : interval.requirePositive "interval_s" = .ok () :=
    Value.requirePositive_eq_ok_iff.mpr (.inl ⟨n, hn, Number.less_of_toRat_pos hpositive⟩)
  constructor
  · simp only [runValues, haccepted, Fault.ok_bind, hn, hfloat]
    exact ⟨_, rfl⟩
  · rintro rfl
    exact (run_none seconds start script).2

theorem paced_of_exactRun {seconds start : Binary64} {failAt : Option Nat}
    {script : List (Pass Binary64)} (hpositive : 0 < seconds.toRat)
    (hexact : ExactRun seconds start failAt script) :
    Paced seconds.toRat start.toRat (start.toRat + seconds.toRat) (script.map (Pass.map toRat))
      ((Pacer.run seconds start failAt script).map toRat) := by
  rw [map_run hexact]
  exact paced_run hpositive.le failAt

/-- **A pacer never bursts.** Let the arithmetic of a run be exact, its interval positive, and no
pass early. Then no wait is negative or longer than the interval, deadlines are at least an interval
apart, and at every time of the clock the task was started at most as often as whole intervals fit
in between the start and then. A task that does not fail is started once in every pass. -/
theorem ticks_never_burst {interval : Value} {seconds start : Binary64} {failAt : Option Nat}
    {script : List (Pass Binary64)} (hinterval : IsInterval interval seconds)
    (hpositive : 0 < seconds.toRat)
    (hscript : ∀ pass ∈ script, 0 ≤ pass.late.toRat ∧ 0 ≤ pass.work.toRat)
    (hexact : ExactRun seconds start failAt script) :
    let run := Pacer.run seconds start failAt script
    let shown := run.map toRat
    let times := script.map (Pass.map toRat)
    (∃ fault, runValues interval start failAt script = .ok (run, fault)) ∧
    (failAt = none → run.ticks.length = script.length) ∧
    (∀ wait ∈ shown.waits, 0 ≤ wait ∧ wait ≤ seconds.toRat) ∧
    ((shown.deadlines start.toRat times).IsChain fun due next => due + seconds.toRat ≤ next) ∧
    ∀ t, start.toRat ≤ t →
      (shown.ticks.countP (· ≤ t) : ℚ) ≤ (t - start.toRat) / seconds.toRat := by
  intro run shown times
  have hpaced := paced_of_exactRun hpositive hexact
  have htimes : ∀ pass ∈ times, 0 ≤ pass.late ∧ 0 ≤ pass.work := by
    intro pass hpass
    obtain ⟨given, hgiven, rfl⟩ := List.mem_map.mp hpass
    exact hscript given hgiven
  obtain ⟨htaken, hstarts⟩ := runValues_of_isInterval hinterval hpositive start failAt script
  refine ⟨htaken, hstarts, hpaced.waits htimes le_rfl, hpaced.isChain_deadlines hpositive.le, ?_⟩
  intro t ht
  have hcount := hpaced.countP_ticks hpositive.le (fun pass hpass => (htimes pass hpass).1) t
  rw [add_sub_cancel_right, max_eq_right (sub_nonneg.mpr ht), nsmul_eq_mul] at hcount
  exact (le_div_iff₀ hpositive).mpr hcount

/-- A script with a pass that ends long after the deadline that follows, and two later ones that end
exactly on it. -/
def overrunning : List (Pass Nat) := [⟨0, 3⟩, ⟨2, 25⟩, ⟨1, 9⟩, ⟨0, 10⟩]

theorem exactRun_overrunning :
    ExactRun (whole 10) (whole 100) none (overrunning.map (Pass.map whole)) :=
  exactRun_whole (by decide)

theorem map_run_overrunning :
    (Pacer.run (whole 10) (whole 100) none (overrunning.map (Pass.map whole))).map toRat =
      ⟨[10, 7, 10, 0, 0], [110, 122, 158, 167], false⟩ := by
  rw [map_run_whole (by decide)]
  simp only [overrunning, List.map_cons, List.map_nil, Pass.map, Pacer.run, loop, remaining,
    following, Option.map_none, reduceCtorEq, if_false]
  norm_num

/-- Four ticks in 67 seconds, though more than two intervals went by in the second pass. -/
theorem ticks_never_burst_overrunning :
    let run := Pacer.run (whole 10) (whole 100) none (overrunning.map (Pass.map whole))
    (∃ fault, runValues (.int 10) (whole 100) none (overrunning.map (Pass.map whole)) =
      .ok (run, fault)) ∧
    (run.map toRat).ticks = [110, 122, 158, 167] ∧
    ((run.map toRat).ticks.countP (· ≤ 167) : ℚ) ≤ (167 - 100) / 10 := by
  intro run
  have hpositive := toRat_whole_pos (n := 10) (by decide) (by decide)
  have hscript : ∀ pass ∈ overrunning.map (Pass.map whole),
      0 ≤ pass.late.toRat ∧ 0 ≤ pass.work.toRat := by
    simp [overrunning, Pass.map, toRat_whole]
  obtain ⟨htaken, -, -, -, hcount⟩ :=
    ticks_never_burst (isInterval_int (by decide)) hpositive hscript exactRun_overrunning
  have hnow := hcount 167
  rw [toRat_whole (by decide), toRat_whole (by decide)] at hnow
  refine ⟨htaken, ?_, hnow (by norm_num)⟩
  rw [map_run_overrunning]

/-- **A pacer does not drift.** Let the arithmetic of a run be exact and its interval positive. Every
tick is number `n` after some time, the end of the last pass before it that overran, or the start.
Its deadline is `n` intervals after that time, and it happens then, late by its own lateness alone.
A task that does not fail has a tick in every pass. -/
theorem ticks_never_drift {interval : Value} {seconds start : Binary64} {failAt : Option Nat}
    {script : List (Pass Binary64)} (hinterval : IsInterval interval seconds)
    (hpositive : 0 < seconds.toRat) (hexact : ExactRun seconds start failAt script) :
    let run := Pacer.run seconds start failAt script
    let shown := run.map toRat
    let times := script.map (Pass.map toRat)
    (∃ fault, runValues interval start failAt script = .ok (run, fault)) ∧
    (failAt = none → run.ticks.length = script.length) ∧
    ∀ k, (∃ anchor n, shown.Anchored seconds.toRat start.toRat times k anchor n) ∧
      ∀ anchor n, shown.Anchored seconds.toRat start.toRat times k anchor n →
        (∀ due, (shown.deadlines start.toRat times)[k]? = some due →
          due = anchor + n * seconds.toRat) ∧
        ∀ tick, shown.ticks[k]? = some tick →
          ∃ pass, times[k]? = some pass ∧ tick = anchor + n * seconds.toRat + pass.late := by
  intro run shown times
  have hpaced := paced_of_exactRun hpositive hexact
  obtain ⟨htaken, hstarts⟩ := runValues_of_isInterval hinterval hpositive start failAt script
  refine ⟨htaken, hstarts, ?_⟩
  intro k
  refine ⟨exists_anchored shown seconds.toRat start.toRat times k, ?_⟩
  intro anchor n hanchor
  rw [← nsmul_eq_mul]
  constructor
  · intro due hdue
    exact hpaced.deadline_of_anchored hanchor hdue
  · intro tick htick
    exact hpaced.tick_of_anchored hanchor htick

/-- The last tick is the second after the end of the second pass. -/
theorem ticks_never_drift_overrunning :
    let run := Pacer.run (whole 10) (whole 100) none (overrunning.map (Pass.map whole))
    (∃ fault, runValues (.int 10) (whole 100) none (overrunning.map (Pass.map whole)) =
      .ok (run, fault)) ∧
    (run.map toRat).ticks = [110, 122, 158, 167] ∧
    (run.map toRat).Anchored (whole 10).toRat (whole 100).toRat
      ((overrunning.map (Pass.map whole)).map (Pass.map toRat)) 3 147 2 ∧
    ∃ pass, ((overrunning.map (Pass.map whole)).map (Pass.map toRat))[3]? = some pass ∧
      (167 : ℚ) = 147 + (2 : Nat) * (whole 10).toRat + pass.late := by
  intro run
  have hpositive := toRat_whole_pos (n := 10) (by decide) (by decide)
  obtain ⟨htaken, -, hschedule⟩ :=
    ticks_never_drift (isInterval_int (by decide)) hpositive exactRun_overrunning
  have htimes : (overrunning.map (Pass.map whole)).map (Pass.map toRat) =
      ([⟨0, 3⟩, ⟨2, 25⟩, ⟨1, 9⟩, ⟨0, 10⟩] : List (Pass ℚ)) := by
    simp [overrunning, Pass.map, toRat_whole]
  rw [htimes, map_run_overrunning] at hschedule ⊢
  have hanchor : PacerRun.Anchored ⟨[10, 7, 10, 0, 0], [110, 122, 158, 167], false⟩
      (whole 10).toRat (whole 100).toRat
      ([⟨0, 3⟩, ⟨2, 25⟩, ⟨1, 9⟩, ⟨0, 10⟩] : List (Pass ℚ)) 3 147 2 := by
    rw [toRat_whole (by decide), toRat_whole (by decide)]
    -- the second pass is the last to overrun: the third ends exactly on the deadline that follows
    refine .overrun (j := 1) (by omega) ?_ ?_ ?_
    · rw [PacerRun.overran_iff rfl rfl]
      norm_num
    · intro i hi hk
      obtain rfl : i = 2 := by omega
      rw [PacerRun.overran_iff rfl rfl]
      norm_num
    · show some (122 + 25 : ℚ) = some 147
      norm_num
  obtain ⟨-, htick⟩ := (hschedule 3).2 147 2 hanchor
  exact ⟨htaken, rfl, hanchor, htick 167 rfl⟩

end Pacer

end Telemetry
