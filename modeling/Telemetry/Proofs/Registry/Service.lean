import Telemetry.Proofs.Registry.Call
import Telemetry.Proofs.Sink.Deed

/-!
# Serving the sinks

A registry serves its sinks in order: each of them is asked once, and what it does is its own deed,
whatever the sinks before it did. A sink that fails costs a warning and nothing else.

Main statements: `forSinks_eq` (what becomes of sinks that are served) and `report_cases` (what
becomes of a report).
-/

namespace Telemetry

namespace Sink

/-- The warning of a deed that failed, if it is kept. -/
def Deed.warnings (d : Deed) (host : Host) (message : String) : List Record :=
  (host.warned (Fault.of? d.result).toList).map fun fault =>
    { logger := World.logger, level := .int Level.warning, message := .ok message,
      cause := some fault }

/-- A deed and the warning of it. -/
def Deed.reported (d : Deed) (host : Host) (message : String) : Deed :=
  { d with records := d.records ++ d.warnings host message }

theorem Deed.reported_of_ok {d : Deed} (h : d.result = .ok ()) (host : Host) (message : String) :
    d.reported host message = d := by
  have hnone : d.warnings host message = [] := by
    rw [warnings, h]
    show (host.warned []).map _ = []
    rw [Host.warned_nil, List.map_nil]
  rw [reported, hnone, List.append_nil]

theorem log_add_of_error {d : Deed} {fault : Fault} (h : d.result = .error fault) (host : Host)
    (message : String) :
    (host.add d).log World.logger Level.warning message (some fault) =
      host.add (d.reported host message) := by
  have hkeeps : (host.add d).keeps World.logger Level.warning =
      host.keeps World.logger Level.warning := rfl
  unfold Host.log Deed.reported Deed.warnings Host.warned
  rw [hkeeps, h]
  split
  · simp [Fault.of?, Host.addRecord, Host.add]
  · simp [Host.add]

end Sink

namespace Registry

open Sink (Request Does Deed)

/-- Sinks that are served: each has done its deed, and the host has taken in the deeds one after
another, with a warning of each that failed. -/
theorem forSinks_eq {request : Request} {w : World} {sinks : List Sink} {deeds : List Deed}
    (h : List.Forall₂ (Does request w.host.loggers) sinks deeds) (warning : Sink → String) :
    forSinks (Sink.serve request) warning sinks w = (deeds.map (·.sink),
      { w with host := (List.zipWith (fun sink d => d.reported w.host (warning sink)) sinks
          deeds).foldl Host.add w.host }) := by
  -- the loggers stay as they are, so that the deeds that lie ahead are the same after each turn
  generalize hloggers : w.host.loggers = loggers at h
  induction h generalizing w with
  | nil => rfl
  | @cons sink d sinks deeds hd _ ih =>
      rw [forSinks, hd w.host hloggers]
      cases hresult : d.result with
      | ok _ =>
          have hnext := @ih { w with host := w.host.add d } hloggers
          have hd := Deed.reported_of_ok hresult w.host (warning sink)
          simp only [List.map_cons, List.zipWith_cons_cons, List.foldl_cons, hd]
          simp only [hnext]
          rfl
      | error fault =>
          have hnext := @ih { w with host := w.host.add (d.reported w.host (warning sink)) } hloggers
          simp only [List.map_cons, List.zipWith_cons_cons, List.foldl_cons, World.log,
            Sink.log_add_of_error hresult]
          simp only [hnext]
          rfl

theorem exists_deeds (request : Request) (loggers : Loggers) (sinks : List Sink) :
    ∃ deeds, List.Forall₂ (Does request loggers) sinks deeds := by
  induction sinks with
  | nil => exact ⟨[], .nil⟩
  | cons sink rest ih =>
      obtain ⟨d, hd⟩ := Sink.exists_does request loggers sink
      obtain ⟨deeds, hdeeds⟩ := ih
      exact ⟨d :: deeds, .cons hd hdeeds⟩

/-- The warning of a sink that could not write. -/
def writeWarning (sink : Sink) : String := "Metrics sink " ++ sink.typeName ++ " failed"

/-- The warning of a sink that could not be closed. -/
def closeWarning (sink : Sink) : String := "Failed to close metrics sink " ++ sink.typeName

/-- The host after sinks have done their deeds. -/
def served (host : Host) (warning : Sink → String) (sinks : List Sink) (deeds : List Deed) : Host :=
  (List.zipWith (fun sink d => d.reported host (warning sink)) sinks deeds).foldl Host.add host

/-- **Recorders note what all sinks are asked**, each once and in the order of the sinks, the failing
ones as well. -/
theorem calls_served {request : Request} {loggers : Loggers} {sinks : List Sink}
    {deeds : List Deed} (h : List.Forall₂ (Does request loggers) sinks deeds) (host : Host)
    (warning : Sink → String) :
    (served host warning sinks deeds).calls = host.calls ++ sinks.flatMap (Sink.notes request) := by
  rw [served, Host.calls_foldl_add]
  congr 1
  induction h with
  | nil => rfl
  | @cons sink d sinks deeds hd _ ih =>
      have hcalls : (d.reported host (warning sink)).calls = d.calls := rfl
      rw [List.zipWith_cons_cons, List.flatMap_cons, List.flatMap_cons, ih, hcalls,
        Sink.calls_of_does hd]

/-! ## Reports and the end of service -/

theorem report_of_snapshot_error {reg : Registry} {w : World} {fault : Fault}
    (h : (reg.snapshot w).1 = .error fault) (now : Value) :
    reg.report now w = (.error fault, { reg with step := reg.step + 1 }, (reg.snapshot w).2) := by
  have hsame : { reg with step := reg.step + 1 }.snapshot w = reg.snapshot w := rfl
  unfold report
  simp only [hsame]
  cases hread : reg.snapshot w with
  | mk result after =>
      rw [hread] at h
      subst h
      rfl

theorem report_of_snapshot_ok {reg : Registry} {w : World} {metrics : Table Value}
    (h : (reg.snapshot w).1 = .ok metrics) (now : Value) {deeds : List Deed}
    (hdeeds : List.Forall₂ (Does (.write (reg.event reg.step metrics now)) w.host.loggers)
      reg.sinks deeds) :
    reg.report now w = (.ok (reg.event reg.step metrics now),
      { reg with step := reg.step + 1, sinks := deeds.map (·.sink) },
      { (reg.snapshot w).2 with host := served w.host writeWarning reg.sinks deeds }) := by
  let event := reg.event reg.step metrics now
  let done := forSinks (Sink.serve (.write event)) writeWarning reg.sinks (reg.snapshot w).2
  have hread : reg.snapshot w = (.ok metrics, (reg.snapshot w).2) := Prod.ext h rfl
  have hreport : reg.report now w =
      (.ok event, { reg with step := reg.step + 1, sinks := done.1 }, done.2) := by
    have hsame : { reg with step := reg.step + 1 }.snapshot w = reg.snapshot w := rfl
    unfold report
    simp only [hsame]
    rw [hread]
    rfl
  have hserved := forSinks_eq (w := (reg.snapshot w).2) hdeeds writeWarning
  rw [hreport]
  simp only [done]
  rw [hserved]
  rfl

/-- **A report fails with its snapshot, or it has its snapshot and serves the sinks.** -/
theorem report_cases (reg : Registry) (now : Value) (w : World) :
    (∃ fault, (reg.snapshot w).1 = .error fault ∧
      reg.report now w =
        (.error fault, { reg with step := reg.step + 1 }, (reg.snapshot w).2)) ∨
    ∃ metrics deeds, (reg.snapshot w).1 = .ok metrics ∧
      List.Forall₂ (Does (.write (reg.event reg.step metrics now)) w.host.loggers) reg.sinks deeds ∧
      reg.report now w = (.ok (reg.event reg.step metrics now),
        { reg with step := reg.step + 1, sinks := deeds.map (·.sink) },
        { (reg.snapshot w).2 with host := served w.host writeWarning reg.sinks deeds }) := by
  cases hread : (reg.snapshot w).1 with
  | error fault => exact .inl ⟨fault, rfl, report_of_snapshot_error hread now⟩
  | ok metrics =>
      obtain ⟨deeds, hdeeds⟩ :=
        exists_deeds (.write (reg.event reg.step metrics now)) w.host.loggers reg.sinks
      exact .inr ⟨metrics, deeds, rfl, hdeeds, report_of_snapshot_ok hread now hdeeds⟩

theorem report_eq_error_iff {reg : Registry} {now : Value} {w : World} {fault : Fault} :
    (reg.report now w).1 = .error fault ↔ (reg.snapshot w).1 = .error fault := by
  rcases reg.report_cases now w with ⟨cause, hread, hreport⟩ | ⟨metrics, deeds, hread, -, hreport⟩
  · simp [hread, hreport]
  · simp [hread, hreport]

/-- A report comes to an event exactly if all metrics can be read. -/
theorem isOk_report_iff {reg : Registry} {now : Value} {w : World} :
    (reg.report now w).1.isOk = true ↔ w.store.Readable reg.metrics := by
  rw [← Store.isOk_snapshot_iff]
  show _ ↔ (reg.snapshot w).1.isOk = true
  rcases reg.report_cases now w with ⟨cause, hread, hreport⟩ | ⟨metrics, deeds, hread, -, hreport⟩
  · rw [hread, hreport]
    exact Iff.rfl
  · rw [hread, hreport]
    exact Iff.rfl

theorem close_eq (reg : Registry) (w : World) {deeds : List Deed}
    (hdeeds : List.Forall₂ (Does .close w.host.loggers) reg.sinks deeds) :
    reg.close w =
      ({ reg with
          updater := { reg.updater with worker := reg.updater.worker.stop }
          reporter := reg.reporter.stop
          sinks := []
          started := false },
        { w with host := served w.host closeWarning reg.sinks deeds }.log Level.info
          ("Metric registry '" ++ reg.settings.scope.text ++ "' closed")) := by
  have hserved := forSinks_eq hdeeds closeWarning
  rw [close]
  show (_, World.log (forSinks (Sink.serve .close) closeWarning reg.sinks w).2 _ _) = _
  rw [hserved]
  rfl

end Registry

end Telemetry
