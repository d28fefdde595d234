import Telemetry.Proofs.Registry.Life
import Telemetry.Proofs.Registry.Service

/-!
# Failures of views and sinks

Views are sampled, sinks are handed events and sinks are closed, each in a loop over a list. A
failure in such a loop costs a warning. It does not keep the views or sinks behind it from their
turn, and it does not keep what comes after the loop from being done.

Main statement: `failures_isolated`.
-/

namespace Telemetry

namespace Registry

open Sink (Does)

/-- **Failures of views and sinks are isolated.** A round samples every view of a list once and in
order, whichever of the samples fail; of the host it changes the records alone, by one warning for
each sample that failed if warnings are kept. A report that has its snapshot hands the same event to
every sink once and in order, whichever of them fail, and returns it: each sink does what it would do
alone, and recorders note the event. Closing asks every sink to close, once and in order and
whichever of them fail; then there are no sinks any more, and both workers and the registry are
stopped. -/
theorem failures_isolated (w : World) :
    (∀ views : List Ref,
      (Updater.updateAll views w).store = w.store.run (Updater.roundActions views w) ∧
      (Updater.roundActions views w).filter Store.Action.isSample = views.map .sample ∧
      (Updater.outcomes views w).length = views.length ∧
      ∃ new, (Updater.updateAll views w).host = { w.host with records := w.host.records ++ new } ∧
        Warns new (w.host.warned ((Updater.outcomes views w).filterMap Fault.of?))) ∧
    (∀ (reg : Registry) (now : Value) (metrics : Table Value), (reg.snapshot w).1 = .ok metrics →
      let event := reg.event reg.step metrics now
      ∃ deeds, List.Forall₂ (Does (.write event) w.host.loggers) reg.sinks deeds ∧
        reg.report now w = (.ok event,
          { reg with step := reg.step + 1, sinks := deeds.map (·.sink) },
          { (reg.snapshot w).2 with host := served w.host writeWarning reg.sinks deeds }) ∧
        (served w.host writeWarning reg.sinks deeds).calls =
          w.host.calls ++ reg.sinks.flatMap (Sink.notes (.write event))) ∧
    (∀ reg : Registry,
      ∃ deeds, List.Forall₂ (Does .close w.host.loggers) reg.sinks deeds ∧
        (reg.close w).2 = { w with host := served w.host closeWarning reg.sinks deeds }.log
          Level.info ("Metric registry '" ++ reg.settings.scope.text ++ "' closed") ∧
        (served w.host closeWarning reg.sinks deeds).calls =
          w.host.calls ++ reg.sinks.flatMap (Sink.notes .close) ∧
        (reg.close w).1.sinks = [] ∧ (reg.close w).1.started = false ∧
        (reg.close w).1.updater.worker.running = false ∧
        (reg.close w).1.reporter.running = false) := by
  refine ⟨?_, ?_, ?_⟩
  · intro views
    exact ⟨Updater.store_updateAll views w, Updater.filter_roundActions views w,
      Updater.length_outcomes views w, Updater.host_updateAll views w⟩
  · intro reg now metrics hmetrics event
    obtain ⟨deeds, hdeeds⟩ := exists_deeds (.write event) w.host.loggers reg.sinks
    exact ⟨deeds, hdeeds, report_of_snapshot_ok hmetrics now hdeeds, calls_served hdeeds _ _⟩
  · intro reg
    obtain ⟨deeds, hdeeds⟩ := exists_deeds .close w.host.loggers reg.sinks
    refine ⟨deeds, hdeeds, ?_, calls_served hdeeds _ _, rfl, rfl, rfl, rfl⟩
    rw [close_eq reg w hdeeds]

/-- A registry with a sink that fails before one that does not. -/
def watched : Registry :=
  { bare with sinks := [.recorder "failing0" true, .recorder "recording1" false] }

/-- A view that fails before one that does not. -/
def faltering : World where
  store := { metrics := #[.view (some "v") 0, .view none 0] }
  host := { loggers := { root := Level.warning }, room := 100 }

theorem failures_isolated_faltering :
    (∃ record : Record, (Updater.updateAll [0, 1] faltering).host.records = [record] ∧
      record.cause.isSome = true) ∧
    (Updater.updateAll [0, 1] faltering).store.get? 1 = some (.view none 1) ∧
    (∃ event, (watched.report .null faltering).1 = .ok event ∧
      (watched.report .null faltering).2.2.host.calls =
        [.write "failing0" event, .write "recording1" event]) ∧
    (watched.close faltering).1.sinks = [] ∧
    (watched.close faltering).1.started = false := by
  obtain ⟨hround, hreport, hclose⟩ := failures_isolated faltering
  refine ⟨?_, ?_, ?_, ?_, ?_⟩
  · obtain ⟨-, -, -, new, hnew, hwarns⟩ := hround [0, 1]
    -- one of the two samples fails, and warnings are kept
    have hone : faltering.host.warned ((Updater.outcomes [0, 1] faltering).filterMap Fault.of?) =
        [.raised "ZeroDivisionError" "v"] := rfl
    rw [hone] at hwarns
    cases hwarns with
    | @cons record _ _ _ hrecord hrest =>
        cases hrest
        refine ⟨record, ?_, ?_⟩
        · rw [hnew]
          rfl
        · rw [hrecord.2.2]
          rfl
  · rfl
  · obtain ⟨deeds, -, hresult, hcalls⟩ := hreport watched .null [] rfl
    refine ⟨watched.event watched.step [] .null, ?_, ?_⟩
    · rw [hresult]
    · rw [hresult]
      exact hcalls
  · obtain ⟨deeds, -, -, -, hsinks, -⟩ := hclose watched
    exact hsinks
  · obtain ⟨deeds, -, -, -, -, hstarted, -⟩ := hclose watched
    exact hstarted

end Registry

end Telemetry
