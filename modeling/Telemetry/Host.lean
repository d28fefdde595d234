import Telemetry.FileTree
import Telemetry.Log

/-!
# Events and the host of a registry

An event is one publication of metric values. The host is what registries and sinks share: the
levels of loggers and the records that were kept, the files, what recording sinks were called with,
the room in memory, and where summary writers come from. Records and calls are only ever added, at
the end.
-/

namespace Telemetry

/-- One publication of metric values. -/
structure Event where
  /-- Seconds since the epoch. -/
  timestamp : Value
  /-- The registry that the values come from. -/
  scope : Value
  /-- The values by their keys, which are texts. Events are made with a dictionary of this form and
  no other, so that every sink finds the same pairs in it. -/
  metrics : Table Value
  /-- The number of the report, from zero. -/
  step : Value := .null
  processId : Value := .null
  extra : Value := .null

/-- A call of a recording sink. -/
inductive SinkCall where
  | write (sink : String) (event : Event)
  | close (sink : String)

/-- A call of a summary writer. -/
inductive SummaryCall where
  | scalar (tag : String) (value step : Value)
  | flush
  | close

/-- A summary writer, of which nothing is known but how its calls end: each by the calls before it
and by what it asks for. -/
abbrev SummaryWriter := List SummaryCall → SummaryCall → Except Fault Unit

/-- Make calls of a writer that has received others before, up to the first that fails. The calls
that it has received then are returned too. -/
def SummaryWriter.make (writer : SummaryWriter) (made : List SummaryCall) :
    List SummaryCall → Except Fault Unit × List SummaryCall
  | [] => (.ok (), made)
  | call :: rest =>
    match writer made call with
    | .error fault => (.error fault, made ++ [call])
    | .ok () => writer.make (made ++ [call]) rest

/-- What registries and sinks share. -/
structure Host where
  loggers : Loggers
  processInterval : Int := 5
  /-- How many readings of a counter the memory holds in a row. -/
  room : Nat
  /-- How a summary writer for a directory comes about, if there are such writers at all. -/
  summaries : Option (String → Except Fault SummaryWriter) := none
  files : FileTree := .empty
  /-- The records that were kept, in order. -/
  records : List Record := []
  /-- What recording sinks were called with, in order. -/
  calls : List SinkCall := []

namespace Host

def processId : Int := 4242

/-- The wall clock, if nothing else is said. -/
def usualTime : Value := .float (Binary64.ofQuotient 1700000000 1)

/-- Whether messages of a logger at an integer level are kept. -/
def keeps (host : Host) (logger : String) (level : Int) : Bool :=
  decide (0 < level ∧ host.loggers.effective logger ≤ level)

def addRecord (host : Host) (record : Record) : Host :=
  { host with records := host.records ++ [record] }

def log (host : Host) (logger : String) (level : Int) (message : String)
    (cause : Option Fault := none) : Host :=
  if host.keeps logger level then
    host.addRecord { logger, level := .int level, message := .ok message, cause }
  else host

/-- Note a call of a recording sink. -/
def addCall (host : Host) (call : SinkCall) : Host := { host with calls := host.calls ++ [call] }

def drained (host : Host) : Host := { host with records := [], calls := [] }

theorem log_eq (host : Host) (logger : String) (level : Int) (message : String)
    (cause : Option Fault) :
    ∃ records, host.log logger level message cause = { host with records } := by
  unfold log
  split
  · exact ⟨_, rfl⟩
  · exact ⟨host.records, rfl⟩

end Host

end Telemetry
