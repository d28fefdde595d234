import Telemetry.Value

/-!
# Faults

Everything that can go wrong, as causes. `Fault.message` is the one place that knows how a cause is
worded.
-/

namespace Telemetry

/-- Why an operation was refused. -/
inductive Fault where
  /-- A span or an interval that is not a whole number of seconds. -/
  | notWhole (field : String) (value : Value)
  | notPositive (field : String)
  | notInteger (shown : String)
  /-- A text or bytes with more digits than are read. -/
  | tooManyDigits (digits : Nat)
  /-- An integer with more digits than are written. -/
  | integerTooLong
  | noInteger (typeName : String)
  | nanToInteger
  | infinityToInteger
  | integerTooLarge
  | quotientTooLarge
  | divisionByZero
  /-- An operator without a meaning for its operands. -/
  | badOperands (operator left right : String)
  /-- A comparison without a meaning for its operands. -/
  | notComparable (operator left right : String)
  | notIterable (typeName : String)
  /-- An item that should have been a pair and holds no items. -/
  | notPair (index : Nat)
  /-- An item that should have been a pair and holds more or less than two items. -/
  | pairLength (index length : Nat)
  | keyNotText
  | nameNotText (index : Nat) (typeName : String)
  | notContainer (typeName : String)
  | noLength (typeName : String)
  | notCallable (typeName : String)
  /-- A length beyond all lengths. -/
  | lengthTooLarge
  /-- A length beyond the memory. -/
  | outOfMemory
  | notOptions (owner typeName : String)
  | unknownOption (owner option : String)
  | repeatedOption (owner option : String)
  | missingOption (owner option : String)
  | unknownSettings (names : List String)
  /-- A reference to what is not there. -/
  | referenceMissing
  /-- A reference that leads nowhere. -/
  | referenceBroken
  /-- A reference to a value that was left open. -/
  | referenceOpen
  | unknownFunction
  | referenceMalformed
  /-- A value that was left open where it is needed. -/
  | valueOpen
  | notTree
  /-- A name that was looked up in a list. -/
  | nameInList
  | unknownSink (kind : Value)
  | unknownLevel (name : String)
  | loggerNotText
  | levelNotInteger
  | unhashable (typeName : String)
  | summariesUnavailable
  | notPath (typeName : String)
  | bytesPath
  | nullCharacter
  | pathTooLong (path : String)
  | isDirectory (path : String)
  | notDirectory (path : String)
  /-- A file where a directory was to be made. -/
  | fileExists (path : String)
  | fileNotFound (path : String)
  | fileClosed
  | notSerializable (typeName : String)
  | keyNotSerializable (typeName : String)
  | gaugeNotCallable
  | readOnlyCounter (change : String)
  | notMetric (typeName : String)
  | nameTaken (name : String)
  | unknownName (name : String)
  | alreadyStarted (who : String)
  | notCount (typeName : String)
  | noOperation (kind operation : String)
  /-- A failure inside a gauge, a view or a sink, of the given kind. -/
  | raised (kind detail : String)
  deriving Inhabited

namespace Fault

/-- At most this much of a refused number is shown. -/
def shownLimit : Nat := 200

/-- The wording of the limit of digits. -/
def limitMessage : String :=
  "Exceeds the limit (" ++ Value.intText Decimal.digitLimit
    ++ " digits) for integer string conversion"

/-- How the limit of digits can be raised. -/
def limitAdvice : String := "; use sys.set_int_max_str_digits() to increase the limit"

def message : Fault → String
  | notWhole field value =>
    field ++ " must be a whole number of seconds, got " ++ value.shown
  | notPositive field => field ++ " must be positive"
  | notInteger shown =>
    "invalid literal for int() with base 10: " ++ String.ofList (shown.toList.take shownLimit)
  | tooManyDigits digits =>
    limitMessage ++ ": value has " ++ Value.intText digits ++ " digits" ++ limitAdvice
  | integerTooLong => limitMessage ++ limitAdvice
  | noInteger typeName =>
    "int() argument must be a string, a bytes-like object or a real number, not '"
      ++ typeName ++ "'"
  | nanToInteger => "cannot convert float NaN to integer"
  | infinityToInteger => "cannot convert float infinity to integer"
  | integerTooLarge => "int too large to convert to float"
  | quotientTooLarge => "integer division result too large for a float"
  | divisionByZero => "float division by zero"
  | badOperands operator left right =>
    "unsupported operand type(s) for " ++ operator ++ ": '" ++ left ++ "' and '" ++ right ++ "'"
  | notComparable operator left right =>
    "'" ++ operator ++ "' not supported between instances of '" ++ left ++ "' and '" ++ right ++ "'"
  | notIterable typeName => "'" ++ typeName ++ "' object is not iterable"
  | notPair index =>
    "cannot convert dictionary update sequence element #" ++ Value.intText index
      ++ " to a sequence"
  | pairLength index length =>
    "dictionary update sequence element #" ++ Value.intText index ++ " has length "
      ++ Value.intText length ++ "; 2 is required"
  | keyNotText => "keywords must be strings"
  | nameNotText index typeName =>
    "sequence item " ++ Value.intText index ++ ": expected str instance, " ++ typeName ++ " found"
  | notContainer typeName => "argument of type '" ++ typeName ++ "' is not iterable"
  | noLength typeName => "object of type '" ++ typeName ++ "' has no len()"
  | notCallable typeName => "'" ++ typeName ++ "' object is not callable"
  | lengthTooLarge => "cannot fit 'int' into an index-sized integer"
  | outOfMemory => ""
  | notOptions owner typeName =>
    owner ++ "() argument after ** must be a mapping, not " ++ typeName
  | unknownOption owner option =>
    owner ++ ".__init__() got an unexpected keyword argument '" ++ option ++ "'"
  | repeatedOption owner option =>
    owner ++ ".__init__() got multiple values for argument '" ++ option ++ "'"
  | missingOption owner option =>
    owner ++ ".__init__() missing 1 required positional argument: '" ++ option ++ "'"
  | unknownSettings names => "Unknown registry config keys: " ++ Value.joined names
  | referenceMissing => "reference to an unknown key"
  | referenceBroken => "reference that cannot be resolved"
  | referenceOpen => "reference to a missing value"
  | unknownFunction => "call of an unknown function"
  | referenceMalformed => "malformed reference"
  | valueOpen => "missing value"
  | notTree => "value that is no tree of settings"
  | nameInList => "name that was looked up in a list"
  | unknownSink kind => "Unsupported metrics sink type: " ++ kind.text
  | unknownLevel name => "Unknown log level: Level " ++ name
  | loggerNotText => "A logger name must be a string"
  | levelNotInteger => "level must be an integer"
  | unhashable typeName => "unhashable type: '" ++ typeName ++ "'"
  | summariesUnavailable => "TensorBoard is not available in this environment"
  | notPath typeName => "expected str, bytes or os.PathLike object, not " ++ typeName
  | bytesPath =>
    "argument should be a str object or an os.PathLike object returning str, not <class 'bytes'>"
  | nullCharacter => "embedded null byte"
  | pathTooLong path => "[Errno 36] File name too long: " ++ Text.quoted path
  | isDirectory path => "[Errno 21] Is a directory: " ++ Text.quoted path
  | notDirectory path => "[Errno 20] Not a directory: " ++ Text.quoted path
  | fileExists path => "[Errno 17] File exists: " ++ Text.quoted path
  | fileNotFound path => "[Errno 2] No such file or directory: " ++ Text.quoted path
  | fileClosed => "I/O operation on closed file."
  | notSerializable typeName => "Object of type " ++ typeName ++ " is not JSON serializable"
  | keyNotSerializable typeName =>
    "keys must be str, int, float, bool or None, not " ++ typeName
  | gaugeNotCallable => "FunctionGauge requires a callable"
  | readOnlyCounter change => "Cannot " ++ change ++ " a gauge-backed counter"
  | notMetric typeName => "Cannot register " ++ typeName ++ " as a metric"
  | nameTaken name => "Metric '" ++ name ++ "' is already registered"
  | unknownName name => Text.quoted name
  | alreadyStarted who => who ++ " has already been started"
  | notCount typeName => "'" ++ typeName ++ "' object cannot be interpreted as an integer"
  | noOperation kind operation =>
    "'" ++ kind ++ "' object has no attribute '" ++ operation ++ "'"
  | raised kind detail => if kind = "KeyError" then Text.quoted detail else detail

/-! ### Going on after what may fail -/

@[simp] theorem ok_bind {α β : Type} (a : α) (next : α → Except Fault β) :
    (Except.ok a >>= next) = next a := rfl

@[simp] theorem error_bind {α β : Type} (fault : Fault) (next : α → Except Fault β) :
    (Except.error fault >>= next) = .error fault := rfl

theorem bind_eq_ok {α β : Type} {first : Except Fault α} {next : α → Except Fault β} {b : β} :
    (first >>= next) = .ok b ↔ ∃ a, first = .ok a ∧ next a = .ok b := by
  cases first with
  | error fault => simp
  | ok a => simp

theorem bind_eq_error {α β : Type} {first : Except Fault α} {next : α → Except Fault β}
    {fault : Fault} : (first >>= next) = .error fault ↔
      first = .error fault ∨ ∃ a, first = .ok a ∧ next a = .error fault := by
  cases first with
  | error cause => simp
  | ok a => simp

theorem elim_eq_ok {α : Type} {found : Option α} {cause : Fault} {a : α} :
    found.elim (Except.error cause) Except.ok = .ok a ↔ found = some a := by
  cases found with
  | none => simp
  | some b => simp

theorem elim_eq_error {α : Type} {found : Option α} {cause fault : Fault} :
    found.elim (Except.error cause) Except.ok = .error fault ↔ found = none ∧ cause = fault := by
  cases found with
  | none => simp
  | some b => simp

theorem eq_ok_of_isOk {result : Except Fault Unit} (h : result.isOk = true) : result = .ok () := by
  cases result with
  | error fault => cases h
  | ok _ => rfl

/-- Why there is no result, if there is none. -/
def of? {α : Type} : Except Fault α → Option Fault
  | .error fault => some fault
  | .ok _ => none

theorem of?_eq_some_iff {α : Type} {result : Except Fault α} {fault : Fault} :
    of? result = some fault ↔ result = .error fault := by
  cases result with
  | error cause =>
    constructor
    · intro h
      cases h
      rfl
    · intro h
      cases h
      rfl
  | ok a => exact ⟨nofun, nofun⟩

theorem of?_eq_none_iff {α : Type} {result : Except Fault α} :
    of? result = none ↔ result.isOk = true := by
  cases result with
  | error fault => exact ⟨nofun, nofun⟩
  | ok a => exact ⟨fun _ => rfl, fun _ => rfl⟩

theorem exists_eq_ok {α : Type} {result : Except Fault α} (h : result.isOk = true) :
    ∃ a, result = .ok a := by
  cases result with
  | error fault => cases h
  | ok a => exact ⟨a, rfl⟩

theorem exists_eq_error {α : Type} {result : Except Fault α} (h : result.isOk = false) :
    ∃ fault, result = .error fault := by
  cases result with
  | error fault => exact ⟨fault, rfl⟩
  | ok a => cases h

end Fault

end Telemetry
