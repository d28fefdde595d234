import Telemetry.Sink

/-!
# Scripts for a sink

A sink is built from a specification and worked by hand: events are written, the sink is closed, or
it is built again from the same specification, whereupon the one before is dropped. An action that
fails does not end the script.

Main statement: `length_runActions` (every action has its outcome).
-/

namespace Telemetry.Sink

/-- An action on a sink. -/
inductive Action where
  | write (event : Event)
  | close
  | reopen

/-- What an action did. -/
structure ActionOutcome where
  result : Except Fault Unit
  records : List Record

/-- The logger that a sink sends messages to. -/
def logger? : Sink → Option String
  | log _ logger => some logger
  | _ => none

/-- The calls that a sink's summary writer received. -/
def summaryCalls? : Sink → Option (List SummaryCall)
  | summary _ _ _ calls => some calls
  | _ => none

def act (spec : Value) (sink : Sink) (host : Host) : Action → Except Fault Unit × Sink × Host
  | .write event => sink.write event host
  | .close => sink.close host
  | .reopen => match build spec host with
    | (.ok reopened, host) => (.ok (), reopened, host)
    | (.error fault, host) => (.error fault, sink, host)

def runActions (spec : Value) : Sink → Host → List Action → List ActionOutcome × Sink × Host
  | sink, host, [] => ([], sink, host)
  | sink, host, action :: rest =>
    let (result, sink, host) := act spec sink host.drained action
    let outcome : ActionOutcome := { result, records := host.records }
    let (outcomes, sink, host) := runActions spec sink host rest
    (outcome :: outcomes, sink, host)

/-- Every action has its outcome. -/
theorem length_runActions (spec : Value) (sink : Sink) (host : Host) (actions : List Action) :
    (runActions spec sink host actions).1.length = actions.length := by
  induction actions generalizing sink host with
  | nil => rfl
  | cons action rest ih => simp [runActions, ih]

/-- Build a sink, give its logger a level if one is asked for, and work it. A sink that cannot be
built is a fault of the whole script. -/
def runScript (spec : Value) (loggerLevel : Option Int) (host : Host) (actions : List Action) :
    Except Fault (List ActionOutcome × Sink × Host) :=
  match build spec host with
  | (.error fault, _) => .error fault
  | (.ok sink, host) =>
    let loggers := match sink.logger?, loggerLevel with
      | some logger, some level => host.loggers.assign logger level
      | _, _ => host.loggers
    .ok (runActions spec sink { host with loggers } actions)

end Telemetry.Sink
