import Telemetry.Proofs.Registry.Life
import Telemetry.Proofs.Session.Alike

/-!
# Sessions under two settings of levels

What a session measures does not depend on the levels of loggers, but for one thing: a warning about
a view that failed shows the view, a meter is shown with the count that it reads for that, and if a
function gauge is behind it, this is one more call of the function. Where no such message is kept
under one setting only, all replies, all objects and all that sinks are handed are the same.

Main statements: `outcomes_of_levels` (a session under two settings of levels) and
`count_shown_by_warning` (a session in which a warning that is kept changes a later reading).
-/

namespace Telemetry

namespace Store

/-- Whether a metric is shown without a function being called: it is no meter over a function gauge. -/
def showsStill (s : Store) (r : Ref) : Bool :=
  match s.get? r with
  | some (.meter counter _) => match s.get? counter with
    | some (.gaugeCounter gauge) => match s.get? gauge with
      | some (.function _) => false
      | _ => true
    | _ => true
  | _ => true

theorem describe_of_showsStill {s : Store} {r : Ref} (h : s.showsStill r = true) :
    (s.describe r).2 = s := by
  unfold showsStill at h
  unfold describe
  split
  · rfl
  · next counter window hr =>
    simp only [hr] at h
    show (s.count counter).2 = s
    unfold count
    split
    · rfl
    · next gauge hcounter =>
      simp only [hcounter] at h
      show (s.value gauge).2 = s
      unfold value
      split
      · rfl
      · next source hgauge =>
        simp only [hgauge] at h
        cases h
      · rfl
    · rfl
  · rfl
  · rfl
  · rfl

end Store

theorem Showing.harmless_of_showsStill {shown : Showing}
    (h : shown.store.showsStill shown.ref = true) (l m : Loggers) : shown.Harmless l m := by
  right
  rw [Store.describe_of_showsStill h]
  exact .refl _

/-- The integer in a reply. -/
def StepOutcome.int? (outcome : StepOutcome) : Option Int :=
  match outcome.result with
  | .ok (.value (.int i)) => some i
  | _ => none

namespace Session

variable {l m : Loggers}

/-- What the commands of a session show in messages, in order. -/
def shownIn : Session → List Command → List Showing
  | _, [] => []
  | s, command :: rest => s.drained.shown command ++ (s.step command).2.shownIn rest

theorem alike_run {s t : Session} (h : s.Alike l m t) (commands : List Command)
    (hshown : ∀ shown ∈ s.shownIn commands, shown.Harmless l m) :
    List.Forall₂ (SameOutcome l m) (s.run commands).1 (t.run commands).1 ∧
      (s.run commands).2.Alike l m (t.run commands).2 := by
  induction commands generalizing s t with
  | nil => exact ⟨.nil, h⟩
  | cons command rest ih =>
      rw [shownIn] at hshown
      obtain ⟨houtcome, hafter⟩ := alike_step h.drained command fun shown hmem =>
        hshown shown (List.mem_append_left _ hmem)
      obtain ⟨houtcomes, hlast⟩ := ih hafter fun shown hmem =>
        hshown shown (List.mem_append_right _ hmem)
      exact ⟨.cons houtcome houtcomes, hlast⟩

/-- A session on a host whose loggers have the given levels. -/
def atLevels (host : Host) (levels : Loggers) : Session := initial { host with loggers := levels }

theorem alike_atLevels (host : Host) (l m : Loggers) :
    (atLevels host l).Alike l m (atLevels host m) :=
  ⟨⟨.refl _, ⟨rfl, rfl, rfl, rfl, rfl, rfl, rfl, fun _ => rfl⟩⟩, rfl, rfl, rfl⟩

/-- **Levels influence no measurement**, but for what messages show. A session is run under two
settings of the levels of loggers. If every message that shows an object is kept by both or by none,
or is about an object whose showing changes no answer, then every command has the same reply or fault
and the same calls of recording sinks in both runs. Afterwards the registries with their sinks, the
files and all objects are the same, but that a function gauge may have been called more often in one
of them; it gives the same answers from there on. What such a gauge reads is kept outside of the
metric system (`Source`). -/
theorem outcomes_of_levels (host : Host) (l m : Loggers) (commands : List Command)
    (hshown : ∀ shown ∈ (atLevels host l).shownIn commands, shown.Harmless l m) :
    List.Forall₂ (fun x y => x.result = y.result ∧ x.calls = y.calls)
        ((atLevels host l).run commands).1 ((atLevels host m).run commands).1 ∧
      ((atLevels host l).run commands).2.Alike l m ((atLevels host m).run commands).2 := by
  obtain ⟨houtcomes, hafter⟩ := alike_run (alike_atLevels host l m) commands hshown
  exact ⟨houtcomes.imp fun _ _ h => ⟨h.result, h.calls⟩, hafter⟩

/-- A registry with a view that fails and a gauge that changes with every call; a round of the
updater, and a report. -/
def failingRound : List Command :=
  [.newRegistry "r" (.value .null) [.recorder "recording0" false], .newView "v" (some "lost"),
   .perform "r" (.register none "v" (.object "v")),
   .perform "r" (.gauge (some "g") "load" (.function [.value (.int 1), .value (.int 2)])),
   .perform "r" .updateViews, .perform "r" (.report .null), .perform "g" .value]

/-- The warning is kept at one of the levels only, and it shows a view that is no meter. -/
theorem outcomes_of_levels_failingRound :
    (((atLevels Registry.twoViews.host { root := Level.warning }).run failingRound).1.map
        (·.records.length) = [0, 0, 0, 0, 1, 0, 0] ∧
      ((atLevels Registry.twoViews.host { root := 50 }).run failingRound).1.map
        (·.records.length) = [0, 0, 0, 0, 0, 0, 0]) ∧
    List.Forall₂ (fun x y => x.result = y.result ∧ x.calls = y.calls)
      ((atLevels Registry.twoViews.host { root := Level.warning }).run failingRound).1
      ((atLevels Registry.twoViews.host { root := 50 }).run failingRound).1 := by
  have hstill : ∀ shown ∈ (atLevels Registry.twoViews.host { root := Level.warning }).shownIn
      failingRound, shown.store.showsStill shown.ref = true := by decide +kernel
  refine ⟨by decide +kernel, ?_⟩
  exact (outcomes_of_levels _ _ _ _ fun shown hmem =>
    Showing.harmless_of_showsStill (hstill shown hmem) _ _).1

/-! ### Levels that matter -/

/-- A meter over a function that fails first and answers one and two after that; a round, and a
reading of the count. -/
def shownWhileFailing : List Command :=
  [.newRegistry "r" (.value .null) [],
   .perform "r" (.gaugeMeter (some "m") "growth"
     (.function [.fault "ZeroDivisionError" "lost", .value (.int 1), .value (.int 2)]) .null),
   .perform "r" .updateViews, .perform "m" .meterCount]

/-- **A warning that is kept changes a later reading**: the meter is shown in it, and for that the
function is called. -/
theorem count_shown_by_warning :
    ((atLevels Registry.twoViews.host { root := Level.warning }).run shownWhileFailing).1.map
        StepOutcome.int? = [none, none, none, some 2] ∧
      ((atLevels Registry.twoViews.host { root := 50 }).run shownWhileFailing).1.map
        StepOutcome.int? = [none, none, none, some 1] := by
  decide +kernel

end Session

end Telemetry
