import Telemetry.Proofs.Pacer.Starts
import Telemetry.Proofs.Registry.Isolation
import Telemetry.Proofs.Registry.Report

/-!
# Background workers

A worker runs its task once per interval and ends when the task fails. The task of the updater is a
round of sampling; it does not fail, because a view that fails costs a warning. The task of the
reporter is a report. Sinks that fail do not make it fail, but metrics that cannot be read do: a
snapshot reads them one after another and has no answer to a failure.

Main statements: `reporter_run` (when the loop of a reporter ends) and `workers_end_at_unreadable`
(what ends a worker and what does not).
-/

namespace Telemetry

/-! ## A loop and the outcomes of its task -/

namespace Pacer

/-- The start of the task at which it fails, counted from one, if it fails at all. -/
def failAt {α : Type} (outcomes : List (Except Fault α)) : Option Nat :=
  (outcomes.findIdx? fun outcome => !outcome.isOk).map (· + 1)

variable {τ : Type} [Add τ] [Sub τ] [Zero τ] [LT τ] [DecidableLT τ] {α : Type}
  {outcomes : List (Except Fault α)} {script : List (Pass τ)}

theorem run_of_ok (interval start : τ) (hlength : script.length = outcomes.length)
    (hok : ∀ outcome ∈ outcomes, outcome.isOk = true) :
    (run interval start (failAt outcomes) script).failed = false ∧
      (run interval start (failAt outcomes) script).ticks.length = outcomes.length := by
  have hnever : failAt outcomes = none := by
    rw [failAt, Option.map_eq_none_iff, List.findIdx?_eq_none_iff]
    intro outcome hmem
    rw [hok outcome hmem]
    rfl
  rw [hnever, ← hlength]
  exact run_none interval start script

/-- **A pacer ends with the first failure of its task.** -/
theorem run_of_error (interval start : τ) (hlength : script.length = outcomes.length)
    {before after : List (Except Fault α)} {fault : Fault}
    (hsplit : outcomes = before ++ .error fault :: after)
    (hok : ∀ outcome ∈ before, outcome.isOk = true) :
    (run interval start (failAt outcomes) script).failed = true ∧
      (run interval start (failAt outcomes) script).ticks.length = before.length + 1 := by
  have hfirst : failAt outcomes = some (before.length + 1) := by
    have hbefore : before.findIdx? (fun outcome => !outcome.isOk) = none := by
      rw [List.findIdx?_eq_none_iff]
      intro outcome hmem
      rw [hok outcome hmem]
      rfl
    rw [failAt, hsplit, List.findIdx?_append, hbefore]
    simp [List.findIdx?_cons, Except.isOk, Except.toBool]
  have hfailed : (run interval start (failAt outcomes) script).failed = true := by
    refine failed_loop_iff.mpr ⟨before.length, hfirst, ?_⟩
    rw [hlength, hsplit, List.length_append, List.length_cons]
    omega
  have hticks := failAt_of_failed hfailed
  exact ⟨hfailed, (Option.some.inj (hfirst.symm.trans hticks)).symm⟩

end Pacer

namespace Registry

open Sink (Does)

/-! ## Rounds of a reporter -/

/-- A round of a reporter, and what comes before it. -/
structure Round where
  before : List Turn
  time : Value

/-- All turns up to the end of a round. -/
def Round.turns (round : Round) : List Turn := round.before ++ [.call (.report round.time)]

/-- What becomes of the reports of a reporter, round after round. -/
def rounds (reg : Registry) (w : World) : List Round → List (Except Fault Event)
  | [] => []
  | round :: rest =>
    ((reg.live w round.before).1.report round.time (reg.live w round.before).2).1 ::
      rounds (reg.live w round.turns).1 (reg.live w round.turns).2 rest

/-- In each round all metrics can be read. -/
def StaysReadable (reg : Registry) (w : World) : List Round → Prop
  | [] => True
  | round :: rest =>
    (reg.live w round.before).2.store.Readable (reg.live w round.before).1.metrics ∧
      StaysReadable (reg.live w round.turns).1 (reg.live w round.turns).2 rest

/-- What a reporter finds in a round. -/
def found (reg : Registry) (w : World) (earlier : List Round) (round : Round) : Registry × World :=
  reg.live w (earlier.flatMap Round.turns ++ round.before)

theorem found_cons (reg : Registry) (w : World) (first : Round) (earlier : List Round)
    (round : Round) :
    reg.found w (first :: earlier) round =
      (reg.live w first.turns).1.found (reg.live w first.turns).2 earlier round := by
  rw [found, List.flatMap_cons, List.append_assoc, live_append]
  rfl

theorem length_rounds (reg : Registry) (w : World) (all : List Round) :
    (reg.rounds w all).length = all.length := by
  induction all generalizing reg w with
  | nil => rfl
  | cons round rest ih => exact congrArg (· + 1) (ih _ _)

/-- **A reporter reports what it finds**, round after round. -/
theorem exists_rounds_split (reg : Registry) (w : World) (earlier : List Round) (round : Round)
    (later : List Round) :
    ∃ rest, reg.rounds w (earlier ++ round :: later) = reg.rounds w earlier ++
      ((reg.found w earlier round).1.report round.time (reg.found w earlier round).2).1 :: rest := by
  induction earlier generalizing reg w with
  | nil => exact ⟨_, rfl⟩
  | cons first earlier ih =>
      obtain ⟨rest, hrest⟩ := ih (reg.live w first.turns).1 (reg.live w first.turns).2
      refine ⟨rest, ?_⟩
      rw [List.cons_append, rounds, hrest, found_cons]
      rfl

theorem isOk_of_staysReadable {reg : Registry} {w : World} {all : List Round}
    (h : reg.StaysReadable w all) : ∀ outcome ∈ reg.rounds w all, outcome.isOk = true := by
  induction all generalizing reg w with
  | nil => exact nofun
  | cons round rest ih =>
      obtain ⟨hreadable, hrest⟩ := h
      intro outcome hmem
      rcases List.mem_cons.mp hmem with rfl | hmem
      · exact isOk_report_iff.mpr hreadable
      · exact ih hrest outcome hmem

/-- If there is a round in which not all metrics can be read, there is a first one. -/
theorem exists_first_unreadable {reg : Registry} {w : World} {all : List Round}
    (h : ¬ reg.StaysReadable w all) :
    ∃ earlier round later, all = earlier ++ round :: later ∧ reg.StaysReadable w earlier ∧
      ¬ (reg.found w earlier round).2.store.Readable (reg.found w earlier round).1.metrics := by
  induction all generalizing reg w with
  | nil => exact absurd trivial h
  | cons first rest ih =>
      by_cases hfirst : (reg.live w first.before).2.store.Readable
          (reg.live w first.before).1.metrics
      · have hrest := fun hrest => h ⟨hfirst, hrest⟩
        obtain ⟨earlier, round, later, rfl, hearlier, hround⟩ := ih hrest
        refine ⟨first :: earlier, round, later, rfl, ⟨hfirst, hearlier⟩, ?_⟩
        rw [found_cons]
        exact hround
      · exact ⟨[], first, rest, rfl, trivial, hfirst⟩

/-! ## What ends a worker -/

section Workers

variable {τ : Type} [Add τ] [Sub τ] [Zero τ] [LT τ] [DecidableLT τ]

/-- **A reporter goes on as long as all metrics can be read**, and ends with the first round in which
one cannot. -/
theorem reporter_run (reg : Registry) (w : World) (all : List Round) (interval start : τ)
    {script : List (Pass τ)} (hlength : script.length = all.length) :
    let run := Pacer.run interval start (Pacer.failAt (reg.rounds w all)) script
    (run.failed = false ↔ reg.StaysReadable w all) ∧
    (run.failed = false → run.ticks.length = all.length) ∧
    (run.failed = true → ∃ earlier round later, all = earlier ++ round :: later ∧
      run.ticks.length = earlier.length + 1 ∧ reg.StaysReadable w earlier ∧
      ¬ (reg.found w earlier round).2.store.Readable (reg.found w earlier round).1.metrics) := by
  intro run
  have houtcomes : script.length = (reg.rounds w all).length := by
    rw [hlength, length_rounds]
  by_cases hreadable : reg.StaysReadable w all
  · obtain ⟨hfailed, hticks⟩ :=
      Pacer.run_of_ok interval start houtcomes (isOk_of_staysReadable hreadable)
    rw [length_rounds] at hticks
    have hends : run.failed ≠ true := Bool.eq_false_iff.mp hfailed
    exact ⟨⟨fun _ => hreadable, fun _ => hfailed⟩, fun _ => hticks, fun h => absurd h hends⟩
  · obtain ⟨earlier, round, later, hsplit, hearlier, hround⟩ := exists_first_unreadable hreadable
    -- the outcomes split where the rounds do, and what is found there makes the report fail
    obtain ⟨rest, hrest⟩ := reg.exists_rounds_split w earlier round later
    rw [← hsplit] at hrest
    obtain ⟨fault, hfault⟩ := Fault.exists_eq_error
      (Bool.eq_false_iff.mpr fun hok => hround (isOk_report_iff.mp hok))
    rw [hfault] at hrest
    obtain ⟨hfailed, hticks⟩ :=
      Pacer.run_of_error interval start houtcomes hrest (isOk_of_staysReadable hearlier)
    rw [length_rounds] at hticks
    have hgoes : run.failed ≠ false := Bool.ne_false_iff.mpr hfailed
    exact ⟨⟨fun h => absurd h hgoes, fun h => absurd h hreadable⟩, fun h => absurd h hgoes,
      fun _ => ⟨earlier, round, later, hsplit, hticks, hearlier, hround⟩⟩

/-- **Metrics that cannot be read end the reporter, and nothing else ends a worker.** A round of the
updater is done to its end, whichever of the views fail. A report comes to an event exactly if all
metrics can be read one after another; then each sink is handed it, whichever of the sinks fail. If
not, the first failure is that of the report, and no sink and nothing else of the host is touched.
The updater goes on for ever, and the reporter until the first round in which a metric cannot be
read. -/
theorem workers_end_at_unreadable (reg : Registry) (w : World) (interval start : τ) :
    ((reg.updateViews w).store = w.store.run (Updater.roundActions reg.updater.views w) ∧
      (Updater.roundActions reg.updater.views w).filter Store.Action.isSample =
        reg.updater.views.map .sample) ∧
    (∀ script : List (Pass τ), (Pacer.run interval start none script).failed = false ∧
      (Pacer.run interval start none script).ticks.length = script.length) ∧
    (∀ time, (reg.report time w).1.isOk = true ↔ w.store.Readable reg.metrics) ∧
    (∀ time event, (reg.report time w).1 = .ok event →
      ∃ deeds, List.Forall₂ (Does (.write event) w.host.loggers) reg.sinks deeds ∧
        (reg.report time w).2.1.sinks = deeds.map (·.sink) ∧
        (reg.report time w).2.2.host.calls =
          w.host.calls ++ reg.sinks.flatMap (Sink.notes (.write event))) ∧
    (∀ time fault, (reg.report time w).1 = .error fault →
      (∃ before v behind, Store.visits reg.metrics w.store = before ++ v :: behind ∧
        v.entries = .error fault ∧ ∀ u ∈ before, u.entries.isOk = true) ∧
      (reg.report time w).2.1.sinks = reg.sinks ∧ (reg.report time w).2.2.host = w.host) ∧
    (∀ (all : List Round) (script : List (Pass τ)), script.length = all.length →
      let run := Pacer.run interval start (Pacer.failAt (reg.rounds w all)) script
      (run.failed = false ↔ reg.StaysReadable w all) ∧
      (run.failed = false → run.ticks.length = all.length) ∧
      (run.failed = true → ∃ earlier round later, all = earlier ++ round :: later ∧
        run.ticks.length = earlier.length + 1 ∧ reg.StaysReadable w earlier ∧
        ¬ (reg.found w earlier round).2.store.Readable (reg.found w earlier round).1.metrics)) := by
  refine ⟨⟨?_, ?_⟩, ?_, ?_, ?_, ?_, ?_⟩
  · exact Updater.store_updateAll reg.updater.views w
  · exact Updater.filter_roundActions reg.updater.views w
  · exact Pacer.run_none interval start
  · exact fun time => isOk_report_iff
  · intro time event hevent
    rcases reg.report_cases time w with
      ⟨fault, -, hreport⟩ | ⟨metrics, deeds, -, hdeeds, hreport⟩
    · rw [hreport] at hevent
      cases hevent
    · rw [hreport] at hevent ⊢
      cases hevent
      exact ⟨deeds, hdeeds, rfl, calls_served hdeeds _ _⟩
  · intro time fault hfault
    have hread := report_eq_error_iff.mp hfault
    rw [report_of_snapshot_error hread time]
    exact ⟨Store.snapshot_eq_error_iff.mp hread, rfl, rfl⟩
  · intro all script hlength
    exact reg.reporter_run w all interval start hlength

end Workers

/-! ### Two lives with a reporter -/

theorem create_watched :
    create bare.settings [.recorder "failing0" true, .recorder "recording1" false] faltering.host =
      (.ok watched, faltering.host) := rfl

/-- A view that fails and a counter, and a round of the updater between two reports. -/
def failingViews : List Round :=
  [⟨[.call (.register "v" 0), .call (.counter "jobs" none)], .null⟩,
   ⟨[.call .updateViews], .null⟩]

/-- A view and a sink fail, and the reporter goes on. -/
theorem workers_go_on_failingViews :
    let run := Pacer.run (10 : Int) 0
      (Pacer.failAt (watched.rounds faltering failingViews)) [⟨0, 0⟩, ⟨0, 0⟩]
    run.failed = false ∧ run.ticks.length = 2 := by
  have hreadable : watched.StaysReadable faltering failingViews := by
    refine ⟨?_, ?_, trivial⟩
    · decide +kernel
    · decide +kernel
  obtain ⟨-, -, -, -, -, hloop⟩ := watched.workers_end_at_unreadable faltering (10 : Int) 0
  obtain ⟨hgoes, hticks, -⟩ := hloop failingViews [⟨0, 0⟩, ⟨0, 0⟩] rfl
  have hfailed := hgoes.mpr hreadable
  exact ⟨hfailed, hticks hfailed⟩

/-- A counter, and a meter over a gauge that fails. -/
def failingGrowth : List Turn :=
  [.call (.counter "jobs" none),
   .call (.gaugeMeter "growth" (.function (.script [.fault "ZeroDivisionError" "load"])) .null)]

/-- **A view that cannot be read ends the reporter** at its first start, and no sink gets to see the
counter, which can be read. -/
theorem reporter_ends_failingGrowth :
    let now := (watched.live faltering failingGrowth).1
    let world := (watched.live faltering failingGrowth).2
    let run := Pacer.run (10 : Int) 0
      (Pacer.failAt (now.rounds world [⟨[], .null⟩, ⟨[], .null⟩])) [⟨0, 0⟩, ⟨0, 0⟩]
    create bare.settings [.recorder "failing0" true, .recorder "recording1" false]
        faltering.host = (.ok watched, faltering.host) ∧
      now.metrics = [("jobs", 2), ("growth", 5)] ∧ now.updater.views = [5] ∧
      (world.store.count 2).1 = .ok (.int 0) ∧
      (now.report .null world).1 = .error (.raised "ZeroDivisionError" "load") ∧
      (now.report .null world).2.2.host.calls = [] ∧
      run.failed = true ∧ run.ticks = [10] :=
  ⟨create_watched, rfl, rfl, rfl, rfl, rfl, rfl, rfl⟩

end Registry

end Telemetry
