import Mathlib.Data.List.Pairwise
import Mathlib.Data.List.Perm.Subperm
import Telemetry.Proofs.Registry.Report

/-!
# The numbers of reports

A report takes its number first and its snapshot then. A report that fails has used its number up,
so that a sink sees increasing numbers and none twice, but it may see gaps: the number of an event is
the place of its report among all reports, whether they came to an event or not.

Main statement: `reports_of_life`.
-/

namespace Telemetry

/-! ## Places of successes -/

/-- The places of a list at which something succeeded. -/
def successes {α : Type} (outcomes : List (Except Fault α)) : List Nat :=
  (outcomes.zipIdx.filter (·.1.isOk)).map (·.2)

theorem mem_successes {α : Type} {outcomes : List (Except Fault α)} {i : Nat} :
    i ∈ successes outcomes ↔ ∃ a, outcomes[i]? = some (.ok a) := by
  unfold successes
  constructor
  · intro h
    obtain ⟨⟨outcome, k⟩, hmem, rfl⟩ := List.mem_map.mp h
    obtain ⟨hplace, hok⟩ := List.mem_filter.mp hmem
    cases outcome with
    | error fault => cases hok
    | ok a => exact ⟨a, List.mk_mem_zipIdx_iff_getElem?.mp hplace⟩
  · rintro ⟨a, ha⟩
    have hmem := List.mk_mem_zipIdx_iff_getElem?.mpr ha
    exact List.mem_map.mpr ⟨(.ok a, i), List.mem_filter.mpr ⟨hmem, rfl⟩, rfl⟩

theorem pairwise_successes {α : Type} (outcomes : List (Except Fault α)) :
    (successes outcomes).Pairwise (· < ·) := by
  have hplaces : (outcomes.zipIdx.map (·.2)).Pairwise (· < ·) := by
    rw [List.zipIdx_map_snd]
    exact List.pairwise_lt_range'
  exact hplaces.sublist (List.filter_sublist.map _)

/-- There is no gap among the successes exactly if nothing failed before the last of them. -/
theorem successes_eq_range_iff {α : Type} (outcomes : List (Except Fault α)) :
    successes outcomes = List.range (successes outcomes).length ↔
      ∀ i < (successes outcomes).length, ∃ a, outcomes[i]? = some (.ok a) := by
  constructor
  · intro h i hi
    rw [← mem_successes, h]
    exact List.mem_range.mpr hi
  · intro h
    have hsubset : List.range (successes outcomes).length ⊆ successes outcomes :=
      fun i hi => mem_successes.mpr (h i (List.mem_range.mp hi))
    -- both lists are increasing, so that they are the same if they have the same members
    have hperm := (List.nodup_range.subperm hsubset).perm_of_length_le (by simp)
    refine (hperm.eq_of_pairwise ?_ List.pairwise_lt_range (pairwise_successes outcomes)).symm
    intro i j _ _ hij hji
    omega

/-- What is known of every success by its place is known of all of them by their places. -/
theorem map_filterMap_toOption {α β : Type} {f : α → β} {g : Nat → β}
    {outcomes : List (Except Fault α)}
    (h : ∀ (i : Nat) (a : α), outcomes[i]? = some (.ok a) → f a = g i) :
    (outcomes.filterMap Except.toOption).map f = (successes outcomes).map g := by
  -- of a success and its place, one is left over on each side
  have hsame : ∀ p ∈ outcomes.zipIdx,
      (p.1.toOption.map f : Option β) = if p.1.isOk then some (g p.2) else none := by
    rintro ⟨outcome, i⟩ hp
    cases outcome with
    | error fault => rfl
    | ok a => exact congrArg some (h i a (List.mk_mem_zipIdx_iff_getElem?.mp hp))
  calc (outcomes.filterMap Except.toOption).map f
      = outcomes.zipIdx.filterMap fun p => p.1.toOption.map f := by
        conv_lhs => rw [← List.zipIdx_map_fst 0 outcomes]
        rw [List.filterMap_map, List.map_filterMap]
        rfl
    _ = outcomes.zipIdx.filterMap fun p => if p.1.isOk then some (g p.2) else none :=
        List.filterMap_congr hsame
    _ = (successes outcomes).map g := by
        rw [successes, List.map_map, ← List.filterMap_eq_map, List.filterMap_filter]
        rfl

namespace Registry

open Sink (Request)

/-- **The numbers of the reports of a life.** A report that fails leaves the registry as it was but
for the number, which is used up, and it does not get to the sinks. The next number is that of all
reports so far, and the number of an event is the place of its report among them. What a sink is
handed are the events of the reports up to the first close, so that it sees increasing numbers; it
sees all of them from zero on exactly if no report failed before the last one it was handed.

A sink is a place among the sinks, and an object that was given twice is handed each event once for
each of its places. The turns are taken one after another, those of the reporter among them. -/
theorem reports_of_life {settings : Settings} {sinks : List Sink} {before after : Host}
    {reg : Registry} (hcreate : create settings sinks before = (.ok reg, after)) (w : World)
    (turns : List Turn) :
    let now := (reg.live w turns).1
    let world := (reg.live w turns).2
    (∀ time fault, (now.report time world).1 = .error fault →
      now.report time world =
        (.error fault, { now with step := now.step + 1 }, (now.snapshot world).2) ∧
      (now.snapshot world).2.host = world.host) ∧
    now.step = (reg.reports w turns).length ∧
    (∀ (i : Nat) event, (reg.reports w turns)[i]? = some (.ok event) → event.step = .int i) ∧
    (∀ t, now.Serves world t (now.turn world t).1) ∧
    (∀ c, (now.call world c).2.host.calls = world.host.calls ++
      (now.asks world (.call c)).flatMap fun request => now.sinks.flatMap (Sink.notes request)) ∧
    ∀ place < reg.sinks.length,
      let handed := reg.written place w turns
      let outcomes := reg.reportsBeforeClose w turns
      handed = outcomes.filterMap Except.toOption ∧
      handed.map (·.step) = (successes outcomes).map (fun i => .int i) ∧
      (successes outcomes).Pairwise (· < ·) ∧
      (successes outcomes = List.range handed.length ↔
        ∀ i < handed.length, ∃ event, outcomes[i]? = some (.ok event)) := by
  intro now world
  obtain ⟨-, -, hzero, -⟩ := created_registry hcreate
  refine ⟨?_, ?_, ?_, now.serves_turn world, now.calls_call world, ?_⟩
  · intro time fault hfault
    exact ⟨report_of_snapshot_error (report_eq_error_iff.mp hfault) time, rfl⟩
  · have hstep := reg.step_live w turns
    rw [hzero, Nat.zero_add] at hstep
    exact hstep
  · intro i event h
    rw [number_of_report h, hzero, Nat.zero_add]
  · intro place hplace handed outcomes
    have hhanded : handed = outcomes.filterMap Except.toOption := reg.written_eq hplace w turns
    have hsteps : handed.map (·.step) = (successes outcomes).map (fun i => .int i) := by
      rw [hhanded]
      refine map_filterMap_toOption ?_
      intro i event h
      rw [number_of_report h, hzero, Nat.zero_add]
    have hlength : (successes outcomes).length = handed.length := by
      have hlengths := congrArg List.length hsteps
      rw [List.length_map, List.length_map] at hlengths
      exact hlengths.symm
    have hgaps := successes_eq_range_iff outcomes
    rw [hlength] at hgaps
    exact ⟨hhanded, hsteps, pairwise_successes outcomes, hgaps⟩

/-! ### Two lives with a gauge that fails at times -/

/-- A registry with a sink. -/
def recorded : Registry := { bare with sinks := [.recorder "recording0" false] }

theorem create_recorded :
    create bare.settings [.recorder "recording0" false] twoViews.host =
      (.ok recorded, twoViews.host) := rfl

/-- A gauge that gives these answers, and a report for each of them. -/
def reportsOf (answers : List Answer) : List Turn :=
  .call (.gauge "load" (.function (.script answers))) ::
    answers.map fun _ => .call (.report .null)

/-- The second of three reports fails: the sink sees the numbers 0 and 2. -/
theorem reports_of_interrupted :
    let turns := reportsOf
      [.value (.int 7), .fault "ZeroDivisionError" "load", .value (.int 8)]
    (recorded.live twoViews turns).1.step = 3 ∧
      (recorded.written 0 twoViews turns).map (·.step) = [.int 0, .int 2] := by
  intro turns
  have hcount : (recorded.reports twoViews turns).length = 3 := by decide +kernel
  have hplaces : successes (recorded.reportsBeforeClose twoViews turns) = [0, 2] := by
    decide +kernel
  obtain ⟨-, hstep, -, -, -, hsink⟩ := reports_of_life create_recorded twoViews turns
  obtain ⟨-, hsteps, -⟩ := hsink 0 (by decide)
  rw [hcount] at hstep
  rw [hplaces] at hsteps
  exact ⟨hstep, hsteps⟩

/-- **The first report fails and does not leave the registry as it was**: the first event that the
sink is handed has the number 1. -/
theorem number_used_up_firstFails :
    let turns := reportsOf [.fault "ZeroDivisionError" "load", .value (.float 0)]
    create bare.settings [.recorder "recording0" false] twoViews.host =
        (.ok recorded, twoViews.host) ∧
      (recorded.reports twoViews (turns.take 2)) = [.error (.raised "ZeroDivisionError" "load")] ∧
      (recorded.live twoViews (turns.take 1)).1.step = 0 ∧
      (recorded.live twoViews (turns.take 2)).1.step = 1 ∧
      ∃ event : Event, event.step = .int 1 ∧
        (recorded.live twoViews turns).2.host.calls = [.write "recording0" event] := by
  refine ⟨create_recorded, rfl, rfl, rfl, ?_⟩
  exact ⟨recorded.event 1 [("load", .float 0)] .null, rfl, rfl⟩

end Registry

end Telemetry
