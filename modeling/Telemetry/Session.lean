import Telemetry.Registry

/-!
# Sessions

A session works with metrics, updaters and registries under identifiers of its own. It is a list of
commands; a command that is refused does not end the session. Every command has a reply, the records
that were kept while it ran, and the calls that recording sinks received.

An identifier may stand for any object wherever an object is expected. An object refuses the
operations that its kind does not have, and nothing else checks its kind.

Main statement: `length_run` (every command has its outcome).
-/

namespace Telemetry

/-- What a command offers where a gauge is expected. -/
inductive GaugeArgument where
  | object (id : String)
  | function (answers : List Answer)
  | value (v : Value)

/-- What a command offers where a metric is expected. -/
inductive MetricArgument where
  | object (id : String)
  | value (v : Value)

/-- An operation on an object. -/
inductive Operation where
  | change (c : Store.Change) (amount : Value)
  | recordEvent (amount : Value)
  | count
  | value
  | meterCount
  | meterRate
  | assign (v : Value)
  | sample
  | properties
  | counterOf
  | describe
  | calls
  | add (view : String)
  | remove (view : String)
  | updateAll
  | size
  | start
  | stop
  | running
  | register (id : Option String) (name : String) (metric : MetricArgument)
  | counter (id : Option String) (name : String) (given : Option String)
  | gauge (id : Option String) (name : String) (offer : GaugeArgument)
  | meter (id : Option String) (name : String) (counter : Option String) (span : Value)
  | gaugeMeter (id : Option String) (name : String) (offer : GaugeArgument) (span : Value)
  | unregister (name : String)
  | get (name : String)
  | names
  | contains (name : String)
  | views
  | updateViews
  | snapshot
  | report (now : Value)
  | enter
  | leave
  | close
  | assignSetting (name : String) (v : Value)

/-- What an object has to have for an operation. -/
def Operation.attribute : Operation → String
  | change c _ => c.operation
  | recordEvent _ => "record_event"
  | count => "get_count"
  | value => "get_value"
  | meterCount => "current_count"
  | meterRate => "current_rate"
  | assign _ => "set"
  | sample => "sample"
  | properties => "time_span_seconds"
  | counterOf => "counter"
  | describe => "__repr__"
  | calls => "calls"
  | add _ => "add"
  | remove _ => "remove"
  | updateAll => "update_all"
  | size => "__len__"
  | start => "start"
  | stop => "stop"
  | running => "_updater"
  | register .. => "register"
  | counter .. => "counter"
  | gauge .. => "gauge"
  | meter .. => "meter"
  | gaugeMeter .. => "gauge_meter"
  | unregister _ => "unregister"
  | get _ => "get"
  | names => "names"
  | contains _ => "__contains__"
  | views => "_updater"
  | updateViews => "update_views"
  | snapshot => "snapshot"
  | report _ => "report"
  | enter => "__enter__"
  | leave => "__exit__"
  | close => "close"
  | assignSetting .. => "config"

/-- The fault of an operation that objects of the given kind do not have. -/
def Operation.refusal (kind : String) : Operation → Fault
  | size => .noLength kind
  | contains _ => .notContainer kind
  | operation => .noOperation kind operation.attribute

/-- A command of a session. -/
inductive Command where
  | newCounter (id : String) (initial : Value)
  | newGauge (id : String) (v : Value)
  | newFunctionGauge (id : String) (offer : GaugeArgument)
  | newGaugeCounter (id : String) (gauge : String)
  | newMeter (id : String) (counter : Option String) (span interval : Value)
  | newGaugeMeter (id : String) (gauge : String) (span interval : Value)
  | newView (id : String) (failure : Option String)
  | newMarker (id : String)
  | newUpdater (id : String) (interval : Value)
  /-- A registry with settings, and sinks beyond those of the settings. -/
  | newRegistry (id : String) (form : Settings.Form) (sinks : List Sink)
  | perform (id : String) (operation : Operation)
  | fileContent (path : String)
  | files

/-- The reply to a command. -/
inductive Reply where
  | nothing
  | text (s : String)
  | value (v : Value)
  | flag (b : Bool)
  | names (ns : List String)
  | settings (s : Settings)
  | pairs (t : Table Value)
  | event (e : Event)
  /-- Span, interval and length of a meter's history. -/
  | properties (span interval history : Nat)
  /-- The kind of an object and the first identifier that stands for it. -/
  | located (typeName : String) (id : Option String)
  /-- Which workers are running; an updater has no reporter. -/
  | running (updater : Bool) (reporter : Option Bool)

/-- A command's reply or fault, with what was recorded meanwhile. -/
structure StepOutcome where
  result : Except Fault Reply
  records : List Record
  calls : List SinkCall

/-- The state of a session. -/
structure Session where
  world : World
  updaters : Array Updater := #[]
  registries : Array Registry := #[]
  /-- What the identifiers stand for, in the order in which they first came up. -/
  ids : Table Ref := []

namespace Session

/-! ### Identifiers -/

/-- The object that an identifier stands for. -/
def find (s : Session) (id : String) : Except Fault Ref :=
  match s.ids.get? id with
  | some r => .ok r
  | none => .error (.unknownName id)

/-- The object that an optional identifier stands for. -/
def find? (s : Session) : Option String → Except Fault (Option Ref)
  | none => .ok none
  | some id => do return some (← s.find id)

/-- The first identifier that stands for an object. -/
def idOf (s : Session) (r : Ref) : Option String := (s.ids.find? (·.2 = r)).map (·.1)

/-- Let an identifier stand for an object. -/
def bind (s : Session) (id : String) (r : Ref) : Session := { s with ids := s.ids.set id r }

/-- Let an identifier stand for an object, if one is given. -/
def bind? (s : Session) (id : Option String) (r : Ref) : Session :=
  match id with
  | some id => s.bind id r
  | none => s

def kindOf (s : Session) (r : Ref) : String := Registry.kindOf s.world.store r

def locate (s : Session) (r : Ref) : Reply := .located (s.kindOf r) (s.idOf r)

/-- Refuse an operation that an object does not have. -/
def refuse (s : Session) (r : Ref) (operation : Operation) : Except Fault Reply × Session :=
  (.error (operation.refusal (s.kindOf r)), s)

/-! ### Changing a part -/

def withStore (s : Session) (store : Store) : Session :=
  { s with world := { s.world with store } }

def withHost (s : Session) (host : Host) : Session :=
  { s with world := { s.world with host } }

def withWorld (s : Session) (world : World) : Session := { s with world }

/-- The session with another registry in one place. -/
def withRegistry (s : Session) (index : Nat) (reg : Registry) : Session :=
  { s with registries := s.registries.setIfInBounds index reg }

/-- The session with another updater in one place. -/
def withUpdater (s : Session) (index : Nat) (u : Updater) : Session :=
  { s with updaters := s.updaters.setIfInBounds index u }

/-! ### Creating objects -/

/-- Store an object under an identifier; the reply is its kind. -/
def create (s : Session) (id : String) (built : Except Fault (Ref × Store)) :
    Except Fault Reply × Session :=
  match built with
  | .error fault => (.error fault, s)
  | .ok (r, store) =>
    let s := (s.withStore store).bind id r
    (.ok (.text (s.kindOf r)), s)

def offer (s : Session) : GaugeArgument → Except Fault Store.Offer
  | .object id => do return .metric (← s.find id)
  | .function answers => .ok (.function (.script answers))
  | .value v => .ok (.value v)

/-- A function gauge from what is offered, which has to be a function. -/
def functionGauge (s : Session) : GaugeArgument → Except Fault (Ref × Store)
  | .function answers => .ok (s.world.store.alloc (.function (.script answers)))
  | _ => .error .gaugeNotCallable

/-- Create a registry under an identifier; the reply is its settings. -/
def createRegistry (s : Session) (id : String) (form : Settings.Form) (sinks : List Sink) :
    Except Fault Reply × Session :=
  match Settings.ofForm s.world.host.processInterval form with
  | .error fault => (.error fault, s)
  | .ok settings =>
    match Registry.create settings sinks s.world.host with
    | (.error fault, host) => (.error fault, s.withHost host)
    | (.ok reg, host) =>
      let (_, s) := (s.withHost host).create id
        (.ok (s.world.store.alloc (.registry s.registries.size)))
      (.ok (.settings settings), { s with registries := s.registries.push reg })

def createUpdater (s : Session) (id : String) (interval : Value) : Except Fault Reply × Session :=
  match Updater.create interval with
  | .error fault => (.error fault, s)
  | .ok updater =>
    { s with updaters := s.updaters.push updater }.create id
      (.ok (s.world.store.alloc (.updater s.updaters.size)))

/-! ### Operations on metrics -/

/-- A change of the store that has no reply. -/
def changed (s : Session) : Except Fault Store → Except Fault Reply × Session
  | .ok store => (.ok .nothing, s.withStore store)
  | .error fault => (.error fault, s)

/-- A reading of the store, which may change it. -/
def reading {α : Type} (s : Session) (reply : α → Reply) (read : Except Fault α × Store) :
    Except Fault Reply × Session :=
  (read.1.map reply, s.withStore read.2)

/-- Sample a view; the reply is the rate of a meter afterwards. Other views have no rate. -/
def sampleReply (s : Session) (r : Ref) : Except Fault Reply × Session :=
  match s.world.store.sample r with
  | (.error fault, store) => (.error fault, s.withStore store)
  | (.ok (), store) =>
    (.ok (match store.meterRate r with
      | .ok rate => .value (.float rate)
      | .error _ => .nothing), s.withStore store)

def given {α : Type} (s : Session) (found : Except Fault α)
    (next : α → Except Fault Reply × Session) : Except Fault Reply × Session :=
  match found with
  | .ok a => next a
  | .error fault => (.error fault, s)

/-- Refuse to call an object, once what it is called with is found. -/
def refuseCall {α : Type} (s : Session) (r : Ref) (found : Except Fault α) :
    Except Fault Reply × Session :=
  s.given found fun _ => (.error (.notCallable (s.kindOf r)), s)

/-- An operation on a metric that only some kinds of metrics have. -/
def onKind (s : Session) (r : Ref) (operation : Operation) : Except Fault Reply × Session :=
  match operation, s.world.store.get? r with
  | .properties, some (.meter _ window) =>
    (.ok (.properties window.span window.interval window.historyLength), s)
  | .counterOf, some (.meter counter _) => (.ok (s.locate counter), s)
  | .counter _ _ given, some (.meter counter _) => s.refuseCall counter (s.find? given)
  | .gauge _ _ offer, some (.gaugeCounter gauge) => s.refuseCall gauge (s.offer offer)
  | .calls, some (.view _ calls) => (.ok (.value (.int calls)), s)
  | _, _ => s.refuse r operation

def onMetric (s : Session) (r : Ref) : Operation → Except Fault Reply × Session
  | .change c amount => s.changed (s.world.store.change c r amount)
  | .recordEvent amount => s.changed (s.world.store.recordEvent r amount)
  | .assign v => s.changed (s.world.store.assign r v)
  | .count => s.reading (fun n => .value n.value) (s.world.store.count r)
  | .meterCount => s.reading (fun n => .value n.value) (s.world.store.meterCount r)
  | .value => s.reading .value (s.world.store.value r)
  | .meterRate => ((s.world.store.meterRate r).map fun rate => .value (.float rate), s)
  | .describe => s.reading .text (s.world.store.describe r)
  | .sample => s.sampleReply r
  | operation => s.onKind r operation

/-! ### Operations on updaters -/

/-- An operation on the updater at a place. -/
def onUpdater (s : Session) (r : Ref) (index : Nat) (u : Updater) (operation : Operation) :
    Except Fault Reply × Session :=
  match operation with
  | .add id => s.given (s.find id) fun view => (.ok .nothing, s.withUpdater index (u.add view))
  | .remove id => s.given (s.find id) fun view =>
    let (u, world) := u.remove view s.world
    (.ok .nothing, (s.withUpdater index u).withWorld world)
  | .updateAll => (.ok .nothing, s.withWorld (Updater.updateAll u.views s.world))
  | .size => (.ok (.value (.int u.views.length)), s)
  | .start => match u.worker.start with
    | .ok worker => (.ok .nothing, s.withUpdater index { u with worker })
    | .error fault => (.error fault, s)
  | .stop => (.ok .nothing, s.withUpdater index { u with worker := u.worker.stop })
  | .running => (.ok (.running u.worker.running none), s)
  | .describe => s.onMetric r operation
  | operation => s.refuse r operation

/-! ### Operations on registries -/

/-- What a change of a registry leaves behind. -/
def settled {α : Type} (s : Session) (index : Nat) (reply : α → Reply)
    (done : Except Fault α × Registry × World) : Except Fault Reply × Session :=
  (done.1.map reply, (s.withRegistry index done.2.1).withWorld done.2.2)

/-- What a registration of a metric leaves behind: the metric is stored under an identifier, if one
is given. -/
def registered (s : Session) (index : Nat) (id : Option String)
    (done : Except Fault Ref × Registry × World) : Except Fault Reply × Session :=
  match done with
  | (.ok r, reg, world) =>
    let s := ((s.withRegistry index reg).withWorld world).bind? id r
    (.ok (.text (s.kindOf r)), s)
  | (.error fault, reg, world) => (.error fault, (s.withRegistry index reg).withWorld world)

def metricArgument (s : Session) : MetricArgument → Except Fault Ref
  | .object id => s.find id
  | .value v => .error (.notMetric v.typeName)

/-- An operation on the registry at a place. -/
def onRegistry (s : Session) (r : Ref) (index : Nat) (reg : Registry) (operation : Operation) :
    Except Fault Reply × Session :=
  match operation with
  | .register id name metric => s.given (s.metricArgument metric) fun metric =>
    match reg.register name metric s.world with
    | (result, reg, world) =>
      s.registered index id (result.map fun _ => metric, reg, world)
  | .counter id name given => s.given (s.find? given) fun counter =>
    s.registered index id (reg.counter name counter s.world)
  | .gauge id name offer => s.given (s.offer offer) fun offer =>
    s.registered index id (reg.gauge name offer s.world)
  | .meter id name counter span => s.given (s.find? counter) fun counter =>
    s.registered index id (reg.meter name counter span s.world)
  | .gaugeMeter id name offer span => s.given (s.offer offer) fun offer =>
    s.registered index id (reg.gaugeMeter name offer span s.world)
  | .unregister name => s.settled index s.locate (reg.unregister name s.world)
  | .get name => ((reg.get name).map s.locate, s)
  | .names => (.ok (.names reg.names), s)
  | .contains name => (.ok (.flag (reg.metrics.contains name)), s)
  | .size => (.ok (.value (.int reg.metrics.length)), s)
  | .views => (.ok (.value (.int reg.updater.views.length)), s)
  | .updateViews => (.ok .nothing, s.withWorld (reg.updateViews s.world))
  | .snapshot =>
    let (values, world) := reg.snapshot s.world
    (values.map .pairs, s.withWorld world)
  | .report now => s.settled index .event (reg.report now s.world)
  | .start => s.settled index (fun _ => .nothing) (reg.start s.world)
  | .enter => s.settled index
      (fun _ => match s.idOf r with
        | some id => .text id
        | none => .nothing)
      (reg.start s.world)
  | .leave | .close =>
    let (reg, world) := reg.close s.world
    (.ok .nothing, (s.withRegistry index reg).withWorld world)
  | .running => (.ok (.running reg.updater.worker.running (some reg.reporter.running)), s)
  | .assignSetting name v =>
    (.ok .nothing, s.withRegistry index { reg with settings := reg.settings.assign name v })
  | .counterOf => (.ok (.located "method" none), s)
  | .describe => s.onMetric r operation
  | operation => s.refuse r operation

/-! ### Commands -/

def onObject (s : Session) (r : Ref) (operation : Operation) : Except Fault Reply × Session :=
  match s.world.store.get? r with
  | some (.updater index) => match s.updaters[index]? with
    | some u => s.onUpdater r index u operation
    | none => s.refuse r operation
  | some (.registry index) => match s.registries[index]? with
    | some reg => s.onRegistry r index reg operation
    | none => s.refuse r operation
  | _ => s.onMetric r operation

/-- An operation on the object that an identifier stands for. -/
def perform (s : Session) (id : String) (operation : Operation) : Except Fault Reply × Session :=
  s.given (s.find id) fun r => s.onObject r operation

def execute (s : Session) : Command → Except Fault Reply × Session
  | .newCounter id initial => s.create id (s.world.store.newCounter initial)
  | .newGauge id v => s.create id (.ok (s.world.store.alloc (.settable v)))
  | .newFunctionGauge id offer => s.create id (s.functionGauge offer)
  | .newGaugeCounter id gauge => s.given (s.find gauge) fun gauge =>
    s.create id (.ok (s.world.store.alloc (.gaugeCounter gauge)))
  | .newMeter id counter span interval => s.given (s.find? counter) fun counter =>
    s.create id (s.world.store.newMeter s.world.host.room counter span
      (Registry.intervalOf s.world.host.processInterval interval))
  | .newGaugeMeter id gauge span interval => s.given (s.find gauge) fun gauge =>
    s.create id (s.world.store.newGaugeMeter s.world.host.room gauge span
      (Registry.intervalOf s.world.host.processInterval interval))
  | .newView id failure => s.create id (.ok (s.world.store.alloc (.view failure 0)))
  | .newMarker id => s.create id (.ok (s.world.store.alloc .marker))
  | .newUpdater id interval => s.createUpdater id interval
  | .newRegistry id form sinks => s.createRegistry id form sinks
  | .perform id operation => s.perform id operation
  | .fileContent path => ((s.world.host.files.read (Path.parse path)).map .text, s)
  | .files => (.ok (.names s.world.host.files.files.keys), s)

/-- One command, and what was recorded meanwhile. -/
def step (s : Session) (command : Command) : StepOutcome × Session :=
  let (result, s) := (s.withHost s.world.host.drained).execute command
  ({ result
     records := s.world.host.records
     calls := s.world.host.calls }, s)

def run : Session → List Command → List StepOutcome × Session
  | s, [] => ([], s)
  | s, command :: rest =>
    let (outcome, s) := s.step command
    let (outcomes, s) := s.run rest
    (outcome :: outcomes, s)

/-- Every command has its outcome. -/
theorem length_run (s : Session) (commands : List Command) :
    (s.run commands).1.length = commands.length := by
  induction commands generalizing s with
  | nil => rfl
  | cons command rest ih => simp [run, ih]

def initial (host : Host) : Session := { world := { host } }

end Session

end Telemetry
