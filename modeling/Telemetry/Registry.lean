import Telemetry.Settings
import Telemetry.Sink
import Telemetry.World

/-!
# Registries

A registry holds metrics under names, samples those that are views, and publishes snapshots to its
sinks. Two workers run while it is started: the updater samples the views, the reporter publishes;
what they do on each round is `updateViews` and `report`.

Main statements: `register_error` and `unregister_error` (a refused call leaves all as it was),
`sinks_close` (a closed registry has no sinks).
-/

namespace Telemetry

/-! ### Workers -/

/-- A background worker, which is running or not. -/
structure Worker where
  name : String
  /-- The seconds between two of its rounds. -/
  interval : Value
  running : Bool := false

namespace Worker

/-- A worker that does its rounds at the given interval, which has to be positive. -/
def create (name : String) (interval : Value) : Except Fault Worker := do
  interval.requirePositive "interval_s"
  return { name, interval }

/-- Start a worker that is not running. -/
def start (w : Worker) : Except Fault Worker :=
  if w.running then .error (.alreadyStarted w.name) else .ok { w with running := true }

def stop (w : Worker) : Worker := { w with running := false }

end Worker

/-! ### Updaters -/

/-- Samples views in the order in which they were added. A view may be listed more than once. -/
structure Updater where
  views : List Ref
  worker : Worker

namespace Updater

def create (interval : Value) : Except Fault Updater := do
  return { views := [], worker := ← Worker.create "metric-view-updater" interval }

def add (u : Updater) (view : Ref) : Updater := { u with views := u.views ++ [view] }

/-- Remove a view once, where it comes first. Views have no equality of their own, so that a view is
the same as itself alone. -/
def remove (u : Updater) (view : Ref) (w : World) : Updater × World :=
  if view ∈ u.views then ({ u with views := u.views.erase view }, w)
  else (u, w.logAbout Level.debug "View " view " was not registered with the updater")

/-- Sample one view. A failure becomes a warning. -/
def sampleView (w : World) (view : Ref) : World :=
  match w.store.sample view with
  | (.ok (), store) => { w with store }
  | (.error fault, store) =>
    { w with store }.logAbout Level.warning "Failed to sample metric view " view "" (some fault)

/-- Sample all views in order; a failure does not keep the others from being sampled. -/
def updateAll (views : List Ref) (w : World) : World := views.foldl sampleView w

end Updater

/-! ### Registries -/

/-- Named metrics, their views, and the sinks that they are published to. -/
structure Registry where
  settings : Settings
  metrics : Table Ref := []
  updater : Updater
  reporter : Worker
  sinks : List Sink
  /-- The number of the next report. -/
  step : Nat := 0
  started : Bool := false

namespace Registry

/-- Build the sinks that are listed in settings. -/
def buildSinks (settings : Settings) (host : Host) : Except Fault (List Sink) × Host :=
  match settings.sinks.items? with
  | some specs => Sink.buildAll specs host
  | none => (.error (.notIterable settings.sinks.typeName), host)

/-- A registry with the given settings, and sinks beyond those of the settings. -/
def create (settings : Settings) (sinks : List Sink) (host : Host) : Except Fault Registry × Host :=
  match buildSinks settings host with
  | (.error fault, host) => (.error fault, host)
  | (.ok built, host) =>
    (do
      let updater ← Updater.create settings.samplingInterval
      let reporter ← Worker.create "metric-reporter" settings.reportInterval
      return { settings, updater, reporter, sinks := built ++ sinks }, host)

/-! ### Registering -/

/-- Add a view to the updater. Other metrics are not sampled. -/
def track (reg : Registry) (r : Ref) (store : Store) : Registry :=
  if ((store.get? r).map Metric.isView).getD false then
    { reg with updater := reg.updater.add r }
  else reg

/-- The kind of the metric behind a reference. -/
def kindOf (store : Store) (r : Ref) : String :=
  ((store.get? r).map Metric.typeName).getD "NoneType"

/-- Register a metric under a name that is free. -/
def register (reg : Registry) (name : String) (r : Ref) (w : World) :
    Except Fault Unit × Registry × World :=
  if !((w.store.get? r).map Metric.isMetric).getD false then
    (.error (.notMetric (kindOf w.store r)), reg, w)
  else if reg.metrics.contains name then (.error (.nameTaken name), reg, w)
  else
    (.ok (), { reg with metrics := reg.metrics.set name r }.track r w.store,
      w.log Level.debug ("Registered metric " ++ name ++ " (" ++ kindOf w.store r ++ ")"))

/-- Register a metric that was built for it; the metric is dropped again if the name is taken. -/
def registerBuilt (reg : Registry) (name : String) (built : Except Fault (Ref × Store))
    (w : World) : Except Fault Ref × Registry × World :=
  match built with
  | .error fault => (.error fault, reg, w)
  | .ok (r, store) =>
    match reg.register name r { w with store } with
    | (.ok (), reg, w) => (.ok r, reg, w)
    | (.error fault, _, _) => (.error fault, reg, w)

/-- Take a metric out and return it. A view is not sampled under this name any more. -/
def unregister (reg : Registry) (name : String) (w : World) :
    Except Fault Ref × Registry × World :=
  match reg.metrics.get? name with
  | none => (.error (.unknownName name), reg, w)
  | some r =>
    let reg := { reg with metrics := reg.metrics.erase name }
    let (updater, w) :=
      if ((w.store.get? r).map Metric.isView).getD false then reg.updater.remove r w
      else (reg.updater, w)
    (.ok r, { reg with updater }, w.log Level.debug ("Unregistered metric " ++ name))

/-- Register a counter: the given object, or a new counter. -/
def counter (reg : Registry) (name : String) (given : Option Ref) (w : World) :
    Except Fault Ref × Registry × World :=
  reg.registerBuilt name (match given with
    | some r => .ok (r, w.store)
    | none => .ok (w.store.alloc (.counter (.int 0)))) w

/-- Register a gauge: a gauge, or a function that becomes one. -/
def gauge (reg : Registry) (name : String) (offer : Store.Offer) (w : World) :
    Except Fault Ref × Registry × World :=
  reg.registerBuilt name (w.store.gaugeOf offer) w

/-- The span of a meter: the one asked for, or else the one of the settings. -/
def spanOf (reg : Registry) : Value → Value
  | .null => reg.settings.defaultSpan
  | span => span

/-- The interval of a meter: the one of the settings, or else the one of the process. -/
def intervalOf (processInterval : Int) : Value → Value
  | .null => .int processInterval
  | interval => interval

/-- Register a new meter over a counter, or over a counter of its own. -/
def meter (reg : Registry) (name : String) (counter : Option Ref) (span : Value) (w : World) :
    Except Fault Ref × Registry × World :=
  reg.registerBuilt name (w.store.newMeter w.host.room counter (reg.spanOf span)
    (intervalOf w.host.processInterval reg.settings.samplingInterval)) w

/-- Register a new meter of the rate of change of a gauge. -/
def gaugeMeter (reg : Registry) (name : String) (offer : Store.Offer) (span : Value) (w : World) :
    Except Fault Ref × Registry × World :=
  reg.registerBuilt name (do
    let (gauge, store) ← w.store.gaugeOf offer
    store.newGaugeMeter w.host.room gauge (reg.spanOf span)
      (intervalOf w.host.processInterval reg.settings.samplingInterval)) w

/-! ### Looking up -/

def get (reg : Registry) (name : String) : Except Fault Ref :=
  match reg.metrics.get? name with
  | some r => .ok r
  | none => .error (.unknownName name)

def names (reg : Registry) : List String :=
  reg.metrics.keys.mergeSort fun a b => decide (a ≤ b)

/-! ### Sampling and reporting -/

def updateViews (reg : Registry) (w : World) : World := Updater.updateAll reg.updater.views w

def snapshot (reg : Registry) (w : World) : Except Fault (Table Value) × World :=
  let (values, store) := w.store.snapshot reg.metrics
  (values, { w with store })

/-- Do something with every sink in order; a failure becomes a warning and does not keep the others
from their turn. -/
def forSinks (act : Sink → Host → Except Fault Unit × Sink × Host) (warning : Sink → String) :
    List Sink → World → List Sink × World
  | [], w => ([], w)
  | sink :: rest, w =>
    let (result, acted, host) := act sink w.host
    let w := { w with host }
    let w := match result with
      | .ok () => w
      | .error fault => w.log Level.warning (warning sink) (some fault)
    let (sinks, w) := forSinks act warning rest w
    (acted :: sinks, w)

def event (reg : Registry) (step : Nat) (metrics : Table Value) (now : Value) : Event where
  timestamp := now
  scope := reg.settings.scope
  metrics
  step := .int step
  processId := .int Host.processId

/-- One round of the reporter: the number of the report is used up first, then a snapshot is taken,
and its event is handed to every sink. -/
def report (reg : Registry) (now : Value) (w : World) : Except Fault Event × Registry × World :=
  let step := reg.step
  let reg := { reg with step := step + 1 }
  match reg.snapshot w with
  | (.error fault, w) => (.error fault, reg, w)
  | (.ok metrics, w) =>
    let event := reg.event step metrics now
    let (sinks, w) := forSinks (fun sink host => sink.write event host)
      (fun sink => "Metrics sink " ++ sink.typeName ++ " failed") reg.sinks w
    (.ok event, { reg with sinks }, w)

/-! ### Starting and closing -/

/-- Start a registry that is not started: the updater, and the reporter if there are sinks. -/
def start (reg : Registry) (w : World) : Except Fault Unit × Registry × World :=
  if reg.started then (.error (.alreadyStarted "MetricRegistry"), reg, w)
  else match reg.updater.worker.start with
    | .error fault => (.error fault, reg, w)
    | .ok updating =>
      let reg := { reg with updater := { reg.updater with worker := updating } }
      match if reg.sinks.isEmpty then .ok reg.reporter else reg.reporter.start with
      | .error fault => (.error fault, reg, w)
      | .ok reporter =>
        let reg := { reg with reporter, started := true }
        (.ok (), reg, w.log Level.info
          ("Metric registry '" ++ reg.settings.scope.text ++ "' started (sampling every "
            ++ reg.settings.samplingInterval.text ++ "s, "
            ++ Value.intText reg.sinks.length ++ " sinks)"))

/-- Stop both workers, close every sink once, and let go of the sinks. -/
def close (reg : Registry) (w : World) : Registry × World :=
  let (_, w) := forSinks Sink.close
    (fun sink => "Failed to close metrics sink " ++ sink.typeName) reg.sinks w
  ({ reg with
      updater := { reg.updater with worker := reg.updater.worker.stop }
      reporter := reg.reporter.stop
      sinks := []
      started := false },
    w.log Level.info ("Metric registry '" ++ reg.settings.scope.text ++ "' closed"))

/-! ### Refused calls -/

/-- A refused registration leaves all as it was. -/
theorem register_error {reg : Registry} {name : String} {r : Ref} {w : World} {fault : Fault}
    (h : (reg.register name r w).1 = .error fault) :
    reg.register name r w = (.error fault, reg, w) := by
  unfold register at h ⊢
  split
  · next hkind =>
    rw [if_pos hkind] at h
    cases h
    rfl
  · next hkind =>
    rw [if_neg hkind] at h
    split
    · next htaken =>
      rw [if_pos htaken] at h
      cases h
      rfl
    · next htaken =>
      rw [if_neg htaken] at h
      cases h

/-- A refused removal leaves all as it was. -/
theorem unregister_error {reg : Registry} {name : String} {w : World} {fault : Fault}
    (h : (reg.unregister name w).1 = .error fault) :
    reg.unregister name w = (.error fault, reg, w) := by
  unfold unregister at h ⊢
  split at h
  · cases h; rfl
  · cases h

/-- A closed registry has no sinks. -/
theorem sinks_close (reg : Registry) (w : World) : (reg.close w).1.sinks = [] := rfl

end Registry

end Telemetry
