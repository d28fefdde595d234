import Telemetry.Host
import Telemetry.Json
import Telemetry.Text.UpperCase
import Telemetry.Value.Mapping

/-!
# Sinks

A sink publishes events. A log sink sends one message per event to a logger, a line sink appends one
line of JSON per event to a file, a summary sink hands every value to a summary writer under a tag,
and a recorder only notes how it was called, and may fail. Sinks of another make are guests: they
note their calls as well, and any of their calls may fail.

Main statements: `splitLastDot?_append` (where a key is split) and `write_lines_closed` (a closed
file takes no more lines).
-/

namespace Telemetry

/-- A consumer of events. -/
inductive Sink where
  /-- One message per event, at a level. -/
  | log (level : Value) (logger : String)
  /-- One line per event, in the file at `place`. -/
  | lines (path place : Path) (isOpen : Bool)
  /-- One summary per value; `events` counts the events that were written as a whole, and `calls`
  are the writer's calls in order. -/
  | summary (directory : String) (writer : SummaryWriter) (events : Nat) (calls : List SummaryCall)
  /-- Only notes its calls, and no event that it refuses. -/
  | recorder (name : String) (failing : Bool) (refuses : Event → Option Fault := fun _ => none)
  /-- A sink of another make: how its calls end, one after another, and those beyond end well. -/
  | guest (kind name : String) (endings : List (Except Fault Unit))

namespace Sink

/-- The kind of a sink, as messages give it. -/
def typeName : Sink → String
  | log .. => "LoggingMetricsSink"
  | lines .. => "JsonlMetricsSink"
  | summary .. => "TensorBoardMetricsSink"
  | recorder .. => "RecordingSink"
  | guest kind .. => kind

/-- The logger of a log sink that names none. -/
def usualLogger : String := "meterkit.utils.logging"

/-! ### Building sinks -/

def logOptions : List String := ["level", "logger_name"]

def linesOptions : List String := ["path"]

def summaryOptions : List String := ["log_dir"]

/-- A level given by name becomes a number; any other value is kept. -/
def readLevel : Value → Except Fault Value
  | .str name =>
    let capitals := Text.upper name
    match Level.ofName? capitals with
    | some level => .ok (.int level)
    | none => .error (.unknownLevel capitals)
  | level => .ok level

def readLogger (name : Value) : Except Fault String :=
  if name.isTruthy then
    match name with
    | .str s => .ok s
    | _ => .error .loggerNotText
  else .ok usualLogger

def buildLog (options : Table Value) : Except Fault Sink := do
  Value.checkOptions "LoggingMetricsSink" logOptions options
  let level ← readLevel ((options.get? "level").getD (.int Level.info))
  let logger ← readLogger ((options.get? "logger_name").getD .null)
  return log level logger

def readPath : Value → Except Fault Path
  | .str s => .ok (Path.parse s)
  | .bytes _ => .error .bytesPath
  | v => .error (.notPath v.typeName)

/-- A line sink from its options. Its directory is made and its file opened. -/
def buildLines (options : Table Value) (files : FileTree) :
    Except Fault Sink × FileTree :=
  match Value.checkOptions "JsonlMetricsSink" linesOptions options with
  | .error fault => (.error fault, files)
  | .ok () => match options.get? "path" with
    | none => (.error (.missingOption "JsonlMetricsSink" "path"), files)
    | some given => match readPath given with
      | .error fault => (.error fault, files)
      | .ok path => match files.makeDirectories path.dropLast with
        | (.error fault, made) => (.error fault, made)
        | (.ok (), made) => match made.openAppend path with
          | .error fault => (.error fault, made)
          | .ok (place, opened) => (.ok (lines path place true), opened)

def buildSummary (options : Table Value) (writers : Option (String → Except Fault SummaryWriter)) :
    Except Fault Sink := do
  Value.checkOptions "TensorBoardMetricsSink" summaryOptions options
  match options.get? "log_dir", writers with
  | none, _ => throw (.missingOption "TensorBoardMetricsSink" "log_dir")
  | some _, none => throw .summariesUnavailable
  | some directory, some writerFor => return summary directory.text (← writerFor directory.text) 0 []

/-- The options of a sink, whose names have to be texts. -/
def optionsOf (entries : Entries Value) : Except Fault (Table Value) :=
  match entries.texts? with
  | some options => .ok options
  | none => .error .keyNotText

/-- A sink of the given kind from its options. -/
def buildKind (kind : Value) (entries : Entries Value) (host : Host) :
    Except Fault Sink × Host :=
  match kind with
  | .str "logging" => (optionsOf entries >>= buildLog, host)
  | .str "jsonl" => match optionsOf entries with
    | .error fault => (.error fault, host)
    | .ok options =>
      let (built, files) := buildLines options host.files
      (built, { host with files })
  | .str "tensorboard" =>
    (do buildSummary (← optionsOf entries) host.summaries, host)
  | kind => (.error (.unknownSink kind), host)

/-- A sink from a specification: its type and the options for that type. Directories that were made
stay even if the sink cannot be built. -/
def build (spec : Value) (host : Host) : Except Fault Sink × Host :=
  match spec.toEntries with
  | .error fault => (.error fault, host)
  | .ok entries => buildKind ((entries.get? "type").getD .null) (entries.erase "type") host

/-- Sinks from a list of specifications, up to the first that cannot be built. -/
def buildAll : List Value → Host → Except Fault (List Sink) × Host
  | [], host => (.ok [], host)
  | spec :: rest, host =>
    match build spec host with
    | (.error fault, host) => (.error fault, host)
    | (.ok sink, host) => match buildAll rest host with
      | (.error fault, host) => (.error fault, host)
      | (.ok sinks, host) => (.ok (sink :: sinks), host)

/-! ### Published text -/

/-- A metric value in a message: doubles with four significant digits. -/
def valueText : Value → String
  | .float x => x.general
  | v => v.text

/-- A metric in a message, if its value is writable. -/
def metricText (key : Value) (v : Value) : Except Fault String :=
  if v.isWritable then .ok (key.text ++ "=" ++ valueText v) else .error .integerTooLong

/-- The metrics in a message, in increasing order. -/
def metricsText (metrics : Table Value) : Except Fault String := do
  let ordered ← (Entries.ofTable metrics).sorted
  return " ".intercalate (← ordered.mapM fun p => metricText p.1 p.2)

/-- The message of an event with the text of its metrics. It is formed when it is shown, and so it has
no text if the scope or the step has none. -/
def messageText (event : Event) (metrics : String) : Except Fault String :=
  if event.scope.isWritable && event.step.isWritable then
    .ok ("[" ++ event.scope.text ++ "] step=" ++ event.step.text ++ " " ++ metrics)
  else .error .integerTooLong

/-- What else is to be published, as a dictionary; nothing if it does not count as given. -/
def extraOptions (extra : Value) : Except Fault Value :=
  if extra.isTruthy then extra.toEntries.map Value.ofEntries else .ok .null

def lineText (event : Event) : Except Fault String := do
  let extra ← extraOptions event.extra
  let fields : Table Value :=
    [("timestamp", event.timestamp), ("scope", event.scope), ("metrics", .dict event.metrics),
     ("step", event.step), ("process_id", event.processId), ("extra", extra)]
  return String.ofList ((← Json.write (.dict fields)) ++ ['\n'])

/-- The parts of a key before and behind its last dot. -/
def splitLastDot? (key : List Char) : Option (List Char × List Char) :=
  match key.reverse.dropWhile (· ≠ '.') with
  | [] => none
  | _ :: before => some (before.reverse, (key.reverse.takeWhile (· ≠ '.')).reverse)

/-- A key is split at its last dot. -/
theorem splitLastDot?_append {name ending : List Char} (h : '.' ∉ ending) :
    splitLastDot? (name ++ '.' :: ending) = some (name, ending) := by
  -- read backwards, the ending comes first and has no dot in it
  have hreverse : (name ++ '.' :: ending).reverse = ending.reverse ++ '.' :: name.reverse := by
    simp
  have hending : ∀ c ∈ ending.reverse, decide (c ≠ '.') = true := by
    intro c hc
    refine decide_eq_true fun hdot => h ?_
    exact hdot ▸ List.mem_reverse.1 hc
  rw [splitLastDot?, hreverse, List.dropWhile_append_of_pos hending,
    List.takeWhile_append_of_pos hending]
  simp

/-- The endings that group the readings of a meter. -/
def groups : List (List Char) := ["rate".toList, "count".toList]

/-- The tag of a key: readings of meters are grouped by what they read. -/
def tagChars (scope key : List Char) : List Char :=
  match splitLastDot? key with
  | some (name, ending) =>
    if name ≠ [] ∧ ending ∈ groups then scope ++ '/' :: ending ++ '/' :: name
    else scope ++ '/' :: key
  | none => scope ++ '/' :: key

/-- The tag of a key within a scope. -/
def tag (scope key : String) : String := String.ofList (tagChars scope.toList key.toList)

/-! ### Writing and closing -/

/-- Whether a value can be the level of a message. -/
def isLevel : Value → Bool
  | .int _ | .bool _ => true
  | _ => false

def writeLog (level : Value) (logger : String) (event : Event) (host : Host) :
    Except Fault Unit × Host :=
  match host.loggers.enabled logger level with
  | .error fault => (.error fault, host)
  | .ok false => (.ok (), host)
  | .ok true => match metricsText event.metrics with
    | .error fault => (.error fault, host)
    | .ok metrics =>
      if isLevel level then
        (.ok (), host.addRecord { logger, level, message := messageText event metrics })
      else (.error .levelNotInteger, host)

def writeLine (place : Path) (isOpen : Bool) (event : Event) (host : Host) :
    Except Fault Unit × Host :=
  match lineText event with
  | .error fault => (.error fault, host)
  | .ok line =>
    if isOpen then (.ok (), { host with files := host.files.append place line })
    else (.error .fileClosed, host)

/-- What a recorder that fails fails with. -/
def recorderResult (failing : Bool) : Except Fault Unit :=
  if failing then .error (.raised "OSError" "disk full") else .ok ()

/-- Note an event, unless it is refused. -/
def record (name : String) (failing : Bool) (refuses : Event → Option Fault) (event : Event)
    (host : Host) : Except Fault Unit × Host :=
  match refuses event with
  | some fault => (.error fault, host)
  | none => (recorderResult failing, host.addCall (.write name event))

/-- The summaries of an event. An event without a step takes the number of events before it. -/
def summariesOf (event : Event) (events : Nat) : List SummaryCall :=
  let step := match event.step with
    | .null => .int events
    | step => step
  event.metrics.map fun p => .scalar (tag event.scope.text p.1) p.2 step

/-- Hand the summaries of an event to a writer. Only an event of which all were taken counts. -/
def writeSummaries (writer : SummaryWriter) (event : Event) (events : Nat)
    (calls : List SummaryCall) : Except Fault Unit × Nat × List SummaryCall :=
  match writer.make calls (summariesOf event events) with
  | (.error fault, calls) => (.error fault, events, calls)
  | (.ok (), calls) => (.ok (), events + 1, calls)

def write (sink : Sink) (event : Event) (host : Host) : Except Fault Unit × Sink × Host :=
  match sink with
  | log level logger =>
    let (result, host) := writeLog level logger event host
    (result, sink, host)
  | lines _ place isOpen =>
    let (result, host) := writeLine place isOpen event host
    (result, sink, host)
  | summary directory writer events calls =>
    let (result, events, calls) := writeSummaries writer event events calls
    (result, summary directory writer events calls, host)
  | recorder name failing refuses =>
    let (result, host) := record name failing refuses event host
    (result, sink, host)
  | guest kind name endings =>
    (endings.headD (.ok ()), guest kind name endings.tail, host.addCall (.write name event))

def close (sink : Sink) (host : Host) : Except Fault Unit × Sink × Host :=
  match sink with
  | log .. => (.ok (), sink, host)
  | lines path place _ => (.ok (), lines path place false, host)
  | summary directory writer events calls =>
    let (result, calls) := writer.make calls [.flush, .close]
    (result, summary directory writer events calls, host)
  | recorder name failing _ => (recorderResult failing, sink, host.addCall (.close name))
  | guest kind name endings =>
    (endings.headD (.ok ()), guest kind name endings.tail, host.addCall (.close name))

/-- A closed file takes no more lines. -/
theorem write_lines_closed (path place : Path) (event : Event) (host : Host) :
    ((lines path place false).write event host).2.2 = host := by
  simp only [write, writeLine]
  split <;> rfl

end Sink

end Telemetry
