import Telemetry.Fault

/-!
# Counting with integers and doubles

Counts and readings are integers of any size or doubles. Sums and differences of integers are
exact; as soon as a double takes part, the integer is rounded to a double first, which fails for an
integer beyond the finite doubles. A rate is the quotient of a difference by a positive span.

`clamped` narrows a gauge's value to a signed number of 64 bits.

Main statements: `clamp_mem` (the result of narrowing lies in the range) and `clamp_of_mem` (what
lies in the range is kept).
-/

namespace Telemetry

/-- An integer or a double. -/
inductive Number where
  | int (i : Int)
  | float (x : Binary64)
  deriving DecidableEq, Repr

instance : Inhabited Number := ⟨.int 0⟩

namespace Number

def value : Number → Value
  | int i => .int i
  | float x => .float x

def typeName (n : Number) : String := n.value.typeName

/-- The number that a value is; a truth value counts as one or zero. -/
def ofValue? : Value → Option Number
  | .bool b => some (int b.toInt)
  | .int i => some (int i)
  | .float x => some (float x)
  | _ => none

/-- A double, rounded from an integer if need be. -/
def toFloat : Number → Except Fault Binary64
  | int i => (Binary64.ofInt? i).elim (.error .integerTooLarge) .ok
  | float x => .ok x

/-! ### Sums and differences -/

def add : Number → Number → Except Fault Number
  | int i, int j => .ok (int (i + j))
  | a, b => do return float ((← a.toFloat) + (← b.toFloat))

def sub : Number → Number → Except Fault Number
  | int i, int j => .ok (int (i - j))
  | a, b => do return float ((← a.toFloat) - (← b.toFloat))

theorem add_int (i j : Int) : add (int i) (int j) = .ok (int (i + j)) := rfl

theorem sub_int (i j : Int) : sub (int i) (int j) = .ok (int (i - j)) := rfl

/-! ### Quotients -/

/-- The quotient by a positive whole number, correctly rounded. -/
def divide (n : Number) (span : Nat) : Except Fault Binary64 :=
  match n with
  | int i => (Binary64.ofQuotient? i span).elim (.error .quotientTooLarge) .ok
  | float x => do
    (Binary64.div? x (← (int span).toFloat)).elim (.error .divisionByZero) .ok

def inverse (n : Number) : Except Fault Binary64 := do
  (Binary64.div? (Binary64.ofQuotient 1 1) (← n.toFloat)).elim (.error .divisionByZero) .ok

/-! ### Sign and order -/

/-- Whether a number is zero or less. What is not a number is not. -/
def isNonPositive : Number → Bool
  | int i => i ≤ 0
  | float x => x.isZero || decide (x < 0)

/-- Whether the first number is less than the second, compared exactly. What is not a number is
neither less nor more than any other. -/
def less : Number → Number → Bool
  | int i, int j => i < j
  | float x, float y => x < y
  | int i, float (.finite negative code) =>
    i * Binary64.grain < Binary64.signedGrains negative code
  | float (.finite negative code), int j =>
    Binary64.signedGrains negative code < j * Binary64.grain
  | int _, float (.infinite negative) => !negative
  | float (.infinite negative), int _ => negative
  | _, _ => false

/-- Whether a number is one at all. -/
def isNumber : Number → Bool
  | float .nan => false
  | _ => true

/-- Whether two numbers are equal in value. What is not a number is equal to none. -/
def same (m n : Number) : Bool := m.isNumber && n.isNumber && !m.less n && !n.less m

end Number

namespace Value

/-- Whether a value is zero or less, if it is a number at all. -/
def isNonPositive (v : Value) : Except Fault Bool :=
  match Number.ofValue? v with
  | some n => .ok n.isNonPositive
  | none => .error (.notComparable "<=" v.typeName "int")

/-- Refuse a number that is not positive. -/
def requirePositive (field : String) (v : Value) : Except Fault Unit := do
  if ← v.isNonPositive then throw (.notPositive field)

/-- The integer that characters stand for, which are shown as given if they are none. -/
def readDecimal (blank : Char → Bool) (cs : List Char) (shown : String) : Except Fault Int :=
  match Decimal.readInteger blank cs with
  | .ok i => .ok i
  | .error .malformed => .error (.notInteger shown)
  | .error (.tooLong digits) => .error (.tooManyDigits digits)

/-- The integer that a value stands for: a double loses its fraction, and text and bytes are read
as decimals. -/
def toInteger : Value → Except Fault Int
  | bool b => .ok b.toInt
  | int i => .ok i
  | float .nan => .error .nanToInteger
  | float (.infinite _) => .error .infinityToInteger
  | float (.finite negative code) =>
    .ok ((Binary64.signedGrains negative code).tdiv Binary64.grain)
  | str s => readDecimal Text.isBlank s.toList (Text.quoted s)
  | bytes bs =>
    readDecimal Text.isAsciiBlank (bs.map fun b => Char.ofNat b.toNat) (Text.quotedBytes bs)
  | v => .error (.noInteger v.typeName)

/-! ### Narrowing to 64 bits -/

/-- The least signed number of 64 bits. -/
def least64 : Int := -0x8000000000000000

/-- The greatest signed number of 64 bits. -/
def greatest64 : Int := 0x7fffffffffffffff

/-- The nearest signed number of 64 bits. -/
def clamp (i : Int) : Int := max least64 (min greatest64 i)

/-- A value narrowed to a signed number of 64 bits: fractions are cut off, what is not a number is
zero, and what is out of range goes to the nearer bound. -/
def clamped : Value → Except Fault Int
  | float .nan => .ok 0
  | float (.infinite negative) => .ok (if negative then least64 else greatest64)
  | v => (toInteger v).map clamp

/-- The result of narrowing lies in the range. -/
theorem clamp_mem (i : Int) : least64 ≤ clamp i ∧ clamp i ≤ greatest64 := by
  simp only [clamp, least64, greatest64]
  omega

/-- What lies in the range is kept. -/
theorem clamp_of_mem {i : Int} (h : least64 ≤ i ∧ i ≤ greatest64) : clamp i = i := by
  simp only [clamp, least64, greatest64] at *
  omega

/-! ### Whole seconds -/

/-- A span in seconds: an integer, or a double that is whole. A truth value is neither. -/
def wholeSeconds (field : String) (v : Value) : Except Fault Int :=
  match v with
  | int i => .ok i
  | float x => match x.whole? with
    | some i => .ok i
    | none => .error (.notWhole field v)
  | _ => .error (.notWhole field v)

end Value

end Telemetry
