import Telemetry.Number

/-!
# Log records

Messages go to named loggers at a level. A logger without a level of its own takes the one of the
root. A message at a level is kept if the level is positive and at least the logger's; `enabled`
decides this for any value that was given as a level.

Main statement: `enabled_int` (the rule for levels that are integers).
-/

namespace Telemetry

namespace Level

def debug : Int := 10

def info : Int := 20

def warning : Int := 30

/-- The levels that have a name of their own. -/
def named : List (String × Int) :=
  [("CRITICAL", 50), ("FATAL", 50), ("ERROR", 40), ("WARN", 30), ("WARNING", 30), ("INFO", 20),
   ("DEBUG", 10), ("NOTSET", 0)]

/-- The level of a name in capitals. -/
def ofName? (name : String) : Option Int := Table.get? named name

/-- The name of a level; a level without a name is called by its number. -/
def name : Value → String
  | .int 50 => "CRITICAL"
  | .int 40 => "ERROR"
  | .int 30 => "WARNING"
  | .int 20 => "INFO"
  | .int 10 => "DEBUG"
  | .int 0 => "NOTSET"
  | level => "Level " ++ level.text

end Level

/-- A message that was kept. -/
structure Record where
  logger : String
  level : Value
  /-- The text, or why it could not be formed. -/
  message : Except Fault String
  cause : Option Fault := none

/-- The levels of loggers. -/
structure Loggers where
  root : Int
  /-- Loggers with a level of their own. -/
  own : Table Int := []

namespace Loggers

def rootName : String := "root"

def assign (loggers : Loggers) (name : String) (level : Int) : Loggers :=
  if name = rootName then { loggers with root := level }
  else { loggers with own := loggers.own.set name level }

/-- The level that counts for a logger: its own unless that is zero, else the one of the root. -/
def effective (loggers : Loggers) (name : String) : Int :=
  match loggers.own.get? name with
  | some level => if level = 0 then loggers.root else level
  | none => loggers.root

/-- Whether a number is at least an integer. -/
def atLeast : Number → Int → Bool
  | .int i, bound => bound ≤ i
  | .float .nan, _ => false
  | .float (.infinite negative), _ => !negative
  | .float (.finite negative code), bound =>
    bound * Binary64.grain ≤ Binary64.signedGrains negative code

/-- Whether a message at a level is kept. -/
def enabled (loggers : Loggers) (name : String) (level : Value) : Except Fault Bool :=
  match level, Number.ofValue? level with
  | .list _, _ | .dict _, _ | .assoc _, _ => .error (.unhashable level.typeName)
  | _, some n => .ok (!n.isNonPositive && atLeast n (loggers.effective name))
  | _, none => .error (.notComparable ">=" "int" level.typeName)

/-- An integer level is kept if it is positive and at least the logger's. -/
theorem enabled_int (loggers : Loggers) (name : String) (level : Int) :
    loggers.enabled name (.int level) =
      .ok (decide (0 < level ∧ loggers.effective name ≤ level)) := by
  have h : (!decide (level ≤ 0)) = decide (0 < level) := by
    rw [← decide_not, decide_eq_decide]
    omega
  show Except.ok (!decide (level ≤ 0) && decide (loggers.effective name ≤ level)) = _
  rw [h, Bool.decide_and]

end Loggers

end Telemetry
