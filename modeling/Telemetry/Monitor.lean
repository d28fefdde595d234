import Telemetry.Reference.Workload

/-!
# The monitor

The monitor runs a workload on a registry, both set by one tree of settings, and shows what was
logged and what was written to files. The tree starts out as `standard`; arguments such as
`registry.scope=front` put other values into it.

The monitor counts time instead of waiting for it: in every sampling interval each producer makes as
many passes as its rate allows, then the consumer makes as many as its pauses allow, then the
registry samples its views.

Main statement: `at?_assign` (a value that was put into a tree is found there).
-/

namespace Telemetry.Monitor

/-! ### Settings -/

/-- The settings that the monitor starts out with. -/
def standard : Value :=
  .dict
    [("registry", .dict
      [("scope", .str "demo"),
       ("sampling_interval_seconds", .int 1),
       ("default_time_span_seconds", .int 10),
       ("report_interval_seconds", .float (Binary64.ofQuotient 2 1)),
       ("sinks", .list
         [.dict [("type", .str "logging")],
          .dict [("type", .str "jsonl"), ("path", .str "outputs/metrics.jsonl")]])]),
     ("workload", .dict
      [("producers", .int 4),
       ("events_per_second", .int 200),
       ("duration_s", .float (Binary64.ofQuotient 15 1))])]

def at? : List String → Value → Option Value
  | [], tree => some tree
  | key :: keys, .dict entries => (Table.get? entries key).bind (at? keys)
  | _ :: _, _ => none

/-- Put a value where keys lead. Dictionaries that lack on the way are made; nothing can be put
below any other value. -/
def assign (v : Value) : List String → Value → Option Value
  | [], _ => some v
  | key :: keys, .dict entries => do
    let below ← assign v keys ((Table.get? entries key).getD (.dict []))
    return .dict (Table.set entries key below)
  | _ :: _, _ => none

/-- What was put into a tree is found there. -/
theorem at?_assign {v tree changed : Value} {keys : List String}
    (h : assign v keys tree = some changed) : at? keys changed = some v := by
  induction keys generalizing tree changed with
  | nil =>
    rw [assign] at h
    rw [at?]
    exact h.symm
  | cons key keys ih =>
    cases tree with
    | dict entries =>
      rw [assign] at h
      obtain ⟨below, hbelow, h⟩ := Option.bind_eq_some_iff.1 h
      obtain rfl := Option.some.inj h
      rw [at?, Table.get?_set, if_pos rfl]
      exact ih hbelow
    | _ => cases h

/-! ### Arguments -/

/-- A number with a point in it, such as `0.5`. -/
def readFraction? (cs : List Char) : Option Binary64 :=
  let whole := cs.takeWhile Char.isDigit
  match cs.dropWhile Char.isDigit with
  | '.' :: places =>
    if whole.isEmpty || places.isEmpty || !places.all Char.isDigit then none
    else some (Binary64.ofQuotient (Decimal.ofDigits (whole ++ places)) (power 10 places.length))
  | _ => none

/-- The value that an argument's text stands for: nothing, a truth value, a number, or the text. -/
def readValue (s : String) : Value :=
  match s with
  | "null" => .null
  | "true" => .bool true
  | "false" => .bool false
  | s => match Decimal.readSigned? s.toList with
    | some i => .int i
    | none => match readFraction? s.toList with
      | some x => .float x
      | none => .str s

/-- Why an argument was refused. -/
inductive Refusal where
  /-- An argument without keys, an equals sign and a value. -/
  | malformed (argument : String)
  /-- An argument whose keys lead below a value that is no dictionary. -/
  | misplaced (argument : String)

def Refusal.message : Refusal → String
  | malformed argument => "expected keys=value, got " ++ Text.quoted argument
  | misplaced argument => "no place for " ++ Text.quoted argument

def override (tree : Value) (argument : String) : Except Refusal Value :=
  let name := argument.toList.takeWhile (· ≠ '=')
  match argument.toList.dropWhile (· ≠ '=') with
  | [] => .error (.malformed argument)
  | _ :: value =>
    if name.isEmpty then .error (.malformed argument)
    else
      let keys := (String.ofList name).splitOn "."
      match assign (readValue (String.ofList value)) keys tree with
      | some changed => .ok changed
      | none => .error (.misplaced argument)

def configure (arguments : List String) : Except Refusal Value :=
  arguments.foldlM override standard

/-! ### Running -/

/-- The whole number of seconds or events in a value; none in a value without a number. -/
def wholePart (v : Value) : Nat :=
  match v.toInteger with
  | .ok i => i.toNat
  | .error _ => 0

/-- The passes of the consumer in one second. -/
def consumerRate : Nat := 250

def interval (load : Workload) (seconds : Nat) : List Turn :=
  (List.range (wholePart load.producers)).map
      (Turn.producer · (wholePart load.eventsPerSecond * seconds))
    ++ [.consumer (consumerRate * seconds), .tick 1]

/-- The turns of a workload, interval by interval. -/
def schedule (load : Workload) (seconds : Nat) : List Turn :=
  (List.replicate (wholePart load.duration / max 1 seconds) (interval load (max 1 seconds))).flatten

/-- The host of the monitor: messages below the usual level are not kept. The memory has room for
`2 ^ 32` readings in a row. -/
def host : Host := { loggers := { root := Level.info }, room := 0x100000000 }

/-- The schedule that settings ask for; settings that are refused have none. -/
def scheduleOf (tree : Value) : List Turn :=
  match Reference.workload tree, Reference.registrySettings host.processInterval tree with
  | .ok load, .ok settings => schedule load (wholePart settings.samplingInterval)
  | _, _ => []

/-- Run the workload of a tree of settings. -/
def run (tree : Value) : WorkloadRun :=
  Reference.runWorkload tree (scheduleOf tree) Host.usualTime host

def recordLine (record : Record) : String :=
  let text := match record.message with
    | .ok text => text
    | .error fault => fault.message
  "[" ++ Level.name record.level ++ "] " ++ text ++ "\n"

/-- A file as it is shown: its name, then its content. -/
def fileText (file : String × String) : String := file.1 ++ ":\n" ++ file.2

/-- What a run shows: the messages, then the files. -/
def output (finished : WorkloadRun) : String :=
  String.join (finished.world.host.records.map recordLine)
    ++ String.join (finished.world.host.files.files.map fileText)

end Telemetry.Monitor
