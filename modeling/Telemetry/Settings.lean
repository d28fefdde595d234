import Telemetry.Value.Mapping

/-!
# Settings of a registry

A registry has five settings: the scope that its events are published under, the sampling interval,
the span of a meter that asks for none, the report interval, and the list of its sinks. Settings
come from named options (`ofOptions`), from a dictionary of any form (`ofValue`), from a tree of
another make (`ofCopy`) or from a list of another make (`ofListed`); all check them in the same way.
Nothing is known of a tree but the copy that it gives, and nothing of such a list but what it lists.

The fields are values, because settings that were accepted may be changed without a check later.
-/

namespace Telemetry

/-- The settings of a registry. -/
structure Settings where
  scope : Value
  samplingInterval : Value
  defaultSpan : Value
  reportInterval : Value
  sinks : Value

namespace Settings

/-- The names of the settings, in order. -/
def names : List String :=
  ["scope", "sampling_interval_seconds", "default_time_span_seconds", "report_interval_seconds",
   "sinks"]

/-- How messages name the settings as a whole. -/
def owner : String := "RegistryConfig"

/-- How messages name the settings together with the place they belong to. -/
def ownerPath : String := "meterkit.config." ++ owner

/-- The span of a meter that asks for none. -/
def usualSpan : Int := 60

/-- The settings with the given names and values; the sampling interval falls back on the one of the
process. -/
def fill (processInterval : Int) (options : Table Value) : Settings where
  scope := (options.get? "scope").getD (.str "meterkit")
  samplingInterval := (options.get? "sampling_interval_seconds").getD (.int processInterval)
  defaultSpan := (options.get? "default_time_span_seconds").getD (.int usualSpan)
  reportInterval := (options.get? "report_interval_seconds").getD
    (.float (Binary64.ofQuotient 10 1))
  sinks := (options.get? "sinks").getD (.list [])

/-- Check settings. The two spans become integers; they and the report interval have to be
positive. -/
def check (s : Settings) : Except Fault Settings := do
  let sampling ← s.samplingInterval.wholeSeconds "sampling_interval_seconds"
  let span ← s.defaultSpan.wholeSeconds "default_time_span_seconds"
  (Value.int sampling).requirePositive "sampling_interval_seconds"
  s.reportInterval.requirePositive "report_interval_seconds"
  (Value.int span).requirePositive "default_time_span_seconds"
  return { s with samplingInterval := .int sampling, defaultSpan := .int span }

def ofOptions (processInterval : Int) (options : Table Value) : Except Fault Settings := do
  Value.checkOptions owner names options
  (fill processInterval options).check

/-! ### Names -/

/-- Whether a key is no name of a setting. -/
def isUnknown : Value → Bool
  | .str name => name ∉ names
  | _ => true

def isNoText : Value → Bool
  | .str _ => false
  | _ => true

/-- The fault of keys that are no names of settings: they are to be given in order, so that they
need an order and have to be texts. -/
def unknownFault (unknown : List Value) : Fault :=
  match Sorting.sort Value.keyLess unknown with
  | .error fault => fault
  | .ok sorted => match sorted.zipIdx.find? (isNoText ·.1) with
    | some (key, index) => .nameNotText index key.typeName
    | none => .unknownSettings (sorted.map Value.text)

/-- Entries under names of settings as a table. -/
def named {α : Type} (entries : Entries α) : Except Fault (Table α) :=
  match (entries.map (·.1)).filter isUnknown, entries.texts? with
  | [], some table => .ok table
  | unknown, _ => .error (unknownFault unknown)

/-! ### Sinks -/

/-- A list of dictionaries as a value. -/
def listOf (specs : List (Entries Value)) : Value := .list (specs.map Value.ofEntries)

/-- The dictionaries in a list. What does not count as given is an empty list. -/
def sinkSpecs (v : Value) : Except Fault (List (Entries Value)) :=
  if v.isTruthy then
    match v.items? with
    | some items => items.mapM Value.toEntries
    | none => .error (.notIterable v.typeName)
  else .ok []

/-! ### Settings from values -/

/-- Settings from named options, of which the sinks are to be read by `readSinks` and all others by
`read`. -/
def ofNamed {α : Type} (processInterval : Int) (read : α → Value)
    (readSinks : α → Except Fault (List (Entries Value))) (table : Table α) :
    Except Fault Settings := do
  let options := table.map fun p => (p.1, read p.2)
  match table.get? "sinks" with
  | none => ofOptions processInterval options
  | some sinks => do
    ofOptions processInterval (Table.set options "sinks" (listOf (← readSinks sinks)))

/-- Settings from a dictionary of any form. All names that are not known are given in order, before
anything else is looked at; sinks may be given as any list of dictionaries. -/
def ofEntries (processInterval : Int) (entries : Entries Value) : Except Fault Settings := do
  ofNamed processInterval id sinkSpecs (← named entries)

/-- Settings from a value: nothing means the usual settings, all else has to be a dictionary. -/
def ofValue (processInterval : Int) (v : Value) : Except Fault Settings :=
  match v with
  | .null => ofOptions processInterval []
  | v => do ofEntries processInterval (← v.toEntries)

/-! ### Settings from containers of another make -/

/-- The items of a list as keys, each of them once. -/
def distinctKeys (items : List Value) : Except Fault (Entries Unit) :=
  items.foldlM (fun keys item => do
    item.requireKey
    return keys.set item ()) []

/-- Settings from the copy of a tree, which is a dictionary. The items of anything else are taken for
names, and known names alone are no options. -/
def ofCopy (processInterval : Int) (v : Value) : Except Fault Settings :=
  match v with
  | .dict table => ofEntries processInterval (Entries.ofTable table)
  | .assoc entries => ofEntries processInterval entries
  | v => match v.items? with
    | none => .error (.notIterable v.typeName)
    | some items => do
      let _ ← named (← distinctKeys items)
      throw (.notOptions ownerPath v.typeName)

/-- What a list of another make has under a key: a value, and the dictionaries in it. -/
structure Listed where
  value : Value
  specs : Except Fault (List (Entries Value))

/-- Settings from the dictionary that a list of another make lists. -/
def ofListed (processInterval : Int) (entries : Entries Listed) : Except Fault Settings := do
  ofNamed processInterval Listed.value Listed.specs (← named entries)

/-- How settings are given. Trees and lists of another make may fail to be read. -/
inductive Form where
  | options (v : Value)
  | value (v : Value)
  | tree (copied : Except Fault Value)
  | listed (entries : Except Fault (Entries Listed))

/-- Settings in the form in which they are given. -/
def ofForm (processInterval : Int) : Form → Except Fault Settings
  | .options v => do ofOptions processInterval (← v.toOptions ownerPath)
  | .value v => ofValue processInterval v
  | .tree copied => do ofCopy processInterval (← copied)
  | .listed entries => do ofListed processInterval (← entries)

def toTable (s : Settings) : Table Value :=
  [("scope", s.scope), ("sampling_interval_seconds", s.samplingInterval),
   ("default_time_span_seconds", s.defaultSpan), ("report_interval_seconds", s.reportInterval),
   ("sinks", s.sinks)]

def assign (s : Settings) (name : String) (v : Value) : Settings :=
  match name with
  | "scope" => { s with scope := v }
  | "sampling_interval_seconds" => { s with samplingInterval := v }
  | "default_time_span_seconds" => { s with defaultSpan := v }
  | "report_interval_seconds" => { s with reportInterval := v }
  | "sinks" => { s with sinks := v }
  | _ => s

/-- The sampling interval of the process, from the text that sets it; no text leaves the
fallback. The texts of a process hold no null characters. -/
def processInterval (text : Option String) (fallback : Value) : Except Fault Value :=
  match text with
  | none => .ok fallback
  | some text => do
    if text.toList.any (·.toNat == 0) then throw .nullCharacter
    let interval ← (Value.str text).toInteger
    (Value.int interval).requirePositive "METERKIT_SAMPLING_INTERVAL_SECONDS"
    return .int interval

end Settings

end Telemetry
