import Telemetry.Proofs.Registry.Life
import Telemetry.Proofs.Registry.Service
import Telemetry.Proofs.Session.Effects

/-!
# Readings in a session

Reading is free. A reading command calls function gauges at most, and everything else in a session
stays as it is; if the functions always give the same answer, not even that can be noticed. Meters
move on when they are sampled and at no other time, and a report does no more than to use up a
number, to read, and to serve the sinks.

Main statements: `outcomes_of_script` (readings that are inserted into a session change no other
outcome) and `effects_of_commands` (what each kind of command can change).
-/

namespace Telemetry

namespace Store

/-- All objects are as they were, but function gauges may have been called. -/
def Undisturbed (s t : Store) : Prop :=
  ∀ r, t.get? r = s.get? r ∨
    ∃ before after, s.get? r = some (.function before) ∧ t.get? r = some (.function after)

theorem Undisturbed.refl (s : Store) : s.Undisturbed s := fun _ => .inl rfl

theorem Undisturbed.trans {s t u : Store} (hst : s.Undisturbed t) (htu : t.Undisturbed u) :
    s.Undisturbed u := by
  intro r
  rcases htu r with hu | ⟨between, after, ht, hu⟩
  · rw [hu]
    exact hst r
  · rcases hst r with hs | ⟨before, between', hs, -⟩
    · exact .inr ⟨between, after, hs ▸ ht, hu⟩
    · exact .inr ⟨before, after, hs, hu⟩

theorem Read.undisturbed {s t : Store} (h : s.Read t) : s.Undisturbed t := by
  cases h with
  | same => exact .refl s
  | @called gauge source next hgauge =>
      intro r
      rw [get?_set]
      by_cases hr : gauge = r
      · subst hr
        rw [if_pos rfl, hgauge]
        exact .inr ⟨source, next, rfl, rfl⟩
      · rw [if_neg hr]
        exact .inl rfl

theorem read_act {s : Store} {a : Action} (ha : a.isRead = true) : s.Read (s.act a) := by
  cases a with
  | value r => exact s.read_value r
  | count r => exact s.read_count r
  | meterCount r => exact s.read_meterCount r
  | describe r => exact s.read_describe r
  | add | change | recordEvent | assign | sample | backlogs => cases ha

/-- Readings disturb nothing. -/
theorem undisturbed_of_reads {s t : Store} (h : s.ReachesBy (fun a => a.isRead = true) t) :
    s.Undisturbed t := by
  obtain ⟨actions, hread, rfl⟩ := h
  induction actions generalizing s with
  | nil => exact .refl s
  | cons a rest ih =>
      have hfirst := (s.read_act (hread a List.mem_cons_self)).undisturbed
      exact hfirst.trans (ih fun b hb => hread b (List.mem_cons_of_mem a hb))

end Store

namespace Session

/-! ## Readings that are inserted -/

/-- All commands of a script whose commands are marked if they are inserted. -/
def withInserted (script : List (Bool × Command)) : List Command := script.map (·.2)

/-- The commands that are not inserted. -/
def withoutInserted (script : List (Bool × Command)) : List Command :=
  (script.filter (!·.1)).map (·.2)

/-- Of the outcomes of a script, those of the commands that are not inserted. -/
def outcomesOfOthers (script : List (Bool × Command)) (outcomes : List StepOutcome) :
    List StepOutcome :=
  ((script.zip outcomes).filter (!·.1.1)).map (·.2)

theorem outcomes_of_alike {l : Loggers} {s t : Session} (h : s.drained.Alike l l t.drained)
    (hs : s.world.store.Steady) {script : List (Bool × Command)}
    (hread : ∀ p ∈ script, p.1 = true → p.2.isReading = true)
    (hsteady : ∀ p ∈ script, ∀ answers ∈ p.2.functions, (Source.script answers).Steady) :
    outcomesOfOthers script (s.run (withInserted script)).1 = (t.run (withoutInserted script)).1 := by
  induction script generalizing s t with
  | nil => rfl
  | cons p rest ih =>
      obtain ⟨inserted, command⟩ := p
      have hafter := steady_step hs (hsteady _ List.mem_cons_self)
      have hread' := fun q hq => hread q (List.mem_cons_of_mem _ hq)
      have hsteady' := fun q hq => hsteady q (List.mem_cons_of_mem _ hq)
      cases inserted with
      | true =>
          -- the session with the reading goes on as if it had not been
          have hreading := alike_step_of_isReading hs (hread _ List.mem_cons_self rfl)
          have hlevels : s.world.host.loggers = l := h.world.host.left
          rw [hlevels] at hreading
          exact ih (hreading.trans h) hafter hread' hsteady'
      | false =>
          obtain ⟨houtcome, hnext⟩ :=
            alike_step h command fun shown _ => Showing.harmless_self l shown
          have hrest := ih hnext.drained hafter hread' hsteady'
          show (s.step command).1 :: outcomesOfOthers rest _ = (t.step command).1 :: _
          rw [houtcome.eq]
          exact congrArg _ hrest

/-- **Readings that are inserted into a session change no other outcome**, if all functions give the
same answer on every call. -/
theorem outcomes_of_script {s : Session} (hs : s.world.store.Steady)
    {script : List (Bool × Command)} (hread : ∀ p ∈ script, p.1 = true → p.2.isReading = true)
    (hsteady : ∀ p ∈ script, ∀ answers ∈ p.2.functions, (Source.script answers).Steady) :
    outcomesOfOthers script (s.run (withInserted script)).1 = (s.run (withoutInserted script)).1 :=
  outcomes_of_alike ⟨⟨.refl _, Host.alike_self _⟩, rfl, rfl, rfl⟩ hs hread hsteady

/-! ## Reports -/

/-- What becomes of the host and the sinks in a report: nothing, if the snapshot fails, and else the
sinks are served with one event. -/
def Served (before after : Host) (sinks served : List Sink) : Prop :=
  after = before ∧ served = sinks ∨
    ∃ event deeds, List.Forall₂ (Sink.Does (.write event) before.loggers) sinks deeds ∧
      served = deeds.map (·.sink) ∧
      after = Registry.served before Registry.writeWarning sinks deeds

theorem served_report (reg : Registry) (now : Value) (w : World) :
    ∃ sinks, (reg.report now w).2.1 = { reg with step := reg.step + 1, sinks } ∧
      Served w.host (reg.report now w).2.2.host reg.sinks sinks := by
  rcases reg.report_cases now w with ⟨fault, -, hreport⟩ | ⟨metrics, deeds, -, hdeeds, hreport⟩
  · rw [hreport]
    exact ⟨reg.sinks, rfl, .inl ⟨rfl, rfl⟩⟩
  · rw [hreport]
    exact ⟨_, rfl, .inr ⟨_, deeds, hdeeds, rfl, rfl⟩⟩

/-- The session after a report of the registry behind an identifier. -/
theorem step_report {s : Session} {id : String} {r : Ref} {index : Nat} {reg : Registry}
    (hid : s.find id = .ok r) (hr : s.world.store.get? r = some (.registry index))
    (hindex : s.registries[index]? = some reg) (now : Value) :
    (s.step (.perform id (.report now))).2 =
      (s.drained.withRegistry index (reg.report now s.drained.world).2.1).withWorld
        (reg.report now s.drained.world).2.2 := by
  have hid : s.drained.find id = .ok r := hid
  have hr : s.drained.world.store.get? r = some (.registry index) := hr
  have hindex : s.drained.registries[index]? = some reg := hindex
  show (s.drained.given (s.drained.find id) _).2 = _
  rw [hid]
  show (s.drained.onObject r _).2 = _
  unfold onObject
  simp only [hr, hindex]
  rfl

/-! ## Effects -/

/-- **What commands can change**, whatever state a session is in.

* A command that does not sample leaves the window of every meter as it is: its readings, its cursor
  and its rate.
* A reading command leaves everything as it is but function gauges, which it may call, and nothing
  is recorded.
* A report leaves everything as it is but function gauges, the number of the report, and what comes
  of serving the sinks.
* If all functions give the same answer on every call, then reading commands may be inserted anywhere
  into a session, and all other commands have the same outcomes.

The functions behind gauges are called from outside of the metric system (`Source`): being read,
they change no metric. -/
theorem effects_of_commands (s : Session) :
    (∀ command : Command, command.isSampling = false → ∀ r counter window,
      s.world.store.get? r = some (.meter counter window) →
        (s.step command).2.world.store.get? r = some (.meter counter window)) ∧
    (∀ command : Command, command.isReading = true →
      s.world.store.Undisturbed (s.step command).2.world.store ∧
        (s.step command).2 = s.drained.withStore (s.step command).2.world.store ∧
        (s.step command).1.records = [] ∧ (s.step command).1.calls = []) ∧
    (∀ id r index reg now, s.find id = .ok r → s.world.store.get? r = some (.registry index) →
      s.registries[index]? = some reg →
        let t := (s.step (.perform id (.report now))).2
        s.world.store.Undisturbed t.world.store ∧ t.updaters = s.updaters ∧ t.ids = s.ids ∧
          ∃ sinks, t.registries =
              s.registries.setIfInBounds index { reg with step := reg.step + 1, sinks } ∧
            Served s.drained.world.host t.world.host reg.sinks sinks) ∧
    (∀ script : List (Bool × Command), s.world.store.Steady →
      (∀ p ∈ script, p.1 = true → p.2.isReading = true) →
      (∀ p ∈ script, ∀ answers ∈ p.2.functions, (Source.script answers).Steady) →
        outcomesOfOthers script (s.run (withInserted script)).1 =
          (s.run (withoutInserted script)).1) := by
  refine ⟨?_, ?_, ?_, ?_⟩
  · intro command hcommand r counter window hr
    exact get?_step_of_not_isSampling hcommand rfl hr
  · intro command hcommand
    have hrest : (s.step command).2 = s.drained.withStore (s.step command).2.world.store :=
      execute_of_isReading (s := s.drained) hcommand
    refine ⟨Store.undisturbed_of_reads (reads_execute (s := s.drained) hcommand), hrest, ?_, ?_⟩
    · show (s.step command).2.world.host.records = []
      rw [hrest]
      rfl
    · show (s.step command).2.world.host.calls = []
      rw [hrest]
      rfl
  · intro id r index reg now hid hr hindex
    have hstep := step_report hid hr hindex now
    obtain ⟨sinks, hregistry, hserved⟩ := served_report reg now s.drained.world
    rw [hregistry] at hstep
    intro t
    have ht : t = (s.drained.withRegistry index { reg with step := reg.step + 1, sinks }).withWorld
        (reg.report now s.drained.world).2.2 := hstep
    rw [ht]
    exact ⟨Store.undisturbed_of_reads (Registry.reachesBy_report (fun _ ha => ha) reg now _),
      rfl, rfl, sinks, rfl, hserved⟩
  · intro script hs hread hsteady
    exact outcomes_of_script hs hread hsteady

/-- A registry, a counter, a meter over it, and a gauge over a function that always answers seven. -/
def measured : Session where
  world :=
    { store := { metrics := #[.registry 0, .counter (.int 0), .meter 1 (.empty 60 5 (Nat.succ_pos 4)),
        .function (.script [.value (.int 7)])] }
      host := Registry.twoViews.host }
  registries := #[Registry.bare]
  ids := [("r", 0), ("c", 1), ("m", 2), ("g", 3)]

theorem steady_measured : measured.world.store.Steady := by
  intro r source h
  match r with
  | 0 | 1 | 2 => cases h
  | 3 =>
      cases h
      exact Source.steady_single _
  | _ + 4 => cases h

/-- A registration, events and a round, with readings in between. -/
def readBetween : List (Bool × Command) :=
  [(false, .perform "r" (.register none "requests" (.object "m"))),
   (true, .perform "m" .meterCount), (false, .perform "c" (.change .increase (.int 3))),
   (true, .perform "g" .value), (false, .perform "r" .updateViews),
   (true, .perform "r" .snapshot), (false, .perform "m" .meterRate),
   (false, .perform "r" (.gauge none "depth" (.function [.value (.int 1)]))),
   (true, .perform "m" .describe), (false, .perform "r" (.report .null))]

theorem effects_of_commands_measured :
    (measured.step (.perform "c" (.change .increase (.int 3)))).2.world.store.get? 2 =
      measured.world.store.get? 2 ∧
    (measured.step (.perform "r" .snapshot)).2 =
      measured.drained.withStore (measured.step (.perform "r" .snapshot)).2.world.store ∧
    (∃ sinks, (measured.step (.perform "r" (.report .null))).2.registries =
      #[{ Registry.bare with step := 1, sinks }]) ∧
    (withInserted readBetween).length = 10 ∧ (withoutInserted readBetween).length = 6 ∧
    outcomesOfOthers readBetween (measured.run (withInserted readBetween)).1 =
      (measured.run (withoutInserted readBetween)).1 := by
  obtain ⟨hmeters, hreads, hreports, hinserted⟩ := effects_of_commands measured
  refine ⟨hmeters (.perform "c" (.change .increase (.int 3))) rfl 2 1 _ rfl,
    (hreads (.perform "r" .snapshot) rfl).2.1, ?_, rfl, rfl, ?_⟩
  · obtain ⟨-, -, -, sinks, hafter, -⟩ := hreports "r" 0 0 Registry.bare .null rfl rfl rfl
    exact ⟨sinks, hafter⟩
  · refine hinserted readBetween steady_measured (by decide) fun p hp answers hanswers => ?_
    -- there is one more function, and it has one answer
    have hmem : answers ∈ readBetween.flatMap (·.2.functions) :=
      List.mem_flatMap.mpr ⟨p, hp, hanswers⟩
    rw [List.mem_singleton.mp hmem]
    exact Source.steady_single _

end Session

end Telemetry
