import Telemetry.Json

/-!
# Reading JSON

A reader of JSON in any layout, with blanks wherever they are allowed and with the names of what is
not a number and of the infinities. Numbers with neither a fraction nor an exponent are integers, all
others are doubles, each the nearest one to its decimal and infinite if that is too large. Of keys
that are given twice the last one counts. Escapes are numbers in UTF-16, so two of them may be one
character; half of such a pair is no text and is refused, as are control characters that are not
escaped. What reads a part returns what it read and the characters behind it.

A number or a word is the longest run of characters that can stand in one, and a text is first read
as its units in UTF-16 and then as characters. Values are read to a given depth of nesting, which the
length of the whole bounds.

Main definition: `read?`.
-/

namespace Telemetry.Json

open Text

def isBlank (c : Char) : Bool := c == ' ' || c == '\t' || c == '\n' || c == '\r'

def skip (cs : List Char) : List Char := cs.dropWhile isBlank

/-! ## Numbers -/

/-- Decimal digits, one at least. -/
def digits? (cs : List Char) : Option (List Char × List Char) :=
  if cs.takeWhile Char.isDigit = [] then none
  else some (cs.takeWhile Char.isDigit, cs.dropWhile Char.isDigit)

/-- The digits of a whole number: a zero stands in front of no other digit. -/
def whole? (cs : List Char) : Option (List Char × List Char) := do
  let (ds, rest) ← digits? cs
  if ds.head? = some '0' ∧ ds ≠ ['0'] then none else return (ds, rest)

/-- The digits behind a point; none if there is no point. -/
def fraction? : List Char → Option (List Char × List Char)
  | '.' :: rest => digits? rest
  | cs => some ([], cs)

def natural? (cs : List Char) : Option Nat := do
  let (ds, rest) ← digits? cs
  if rest = [] then return Decimal.ofDigits ds else none

/-- An exponent, which fills all that is left. -/
def exponent? : List Char → Option Int
  | '+' :: rest => (natural? rest).map fun n : Nat => (n : Int)
  | '-' :: rest => (natural? rest).map fun n : Nat => -(n : Int)
  | cs => (natural? cs).map fun n : Nat => (n : Int)

/-- The double nearest to a decimal; what is too large is infinite. -/
def nearest (negative : Bool) (s : Binary64.Scaled) : Binary64 :=
  let quotient := Decimal.scale (s.coefficient * Binary64.grain) 1 (-s.places)
  Binary64.ofGrains negative quotient.1 quotient.2

def ofWhole (negative : Bool) (ds : List Char) : Value :=
  .int (if negative then -(Decimal.ofDigits ds : Int) else Decimal.ofDigits ds)

/-- The number with the given digits in front of the point and behind it. -/
def ofParts (negative : Bool) (ds fraction : List Char) (exponent : Int) : Value :=
  .float (nearest negative ⟨Decimal.ofDigits (ds ++ fraction), fraction.length - exponent⟩)

/-- A number without its sign, which fills all that is left. -/
def magnitude? (negative : Bool) (cs : List Char) : Option Value := do
  let (ds, rest) ← whole? cs
  let (fraction, rest) ← fraction? rest
  match rest with
  | [] => return if fraction = [] then ofWhole negative ds else ofParts negative ds fraction 0
  | c :: rest =>
    if c = 'e' ∨ c = 'E' then return ofParts negative ds fraction (← exponent? rest) else none

def number? : List Char → Option Value
  | '-' :: cs => magnitude? true cs
  | cs => magnitude? false cs

/-! ## Words -/

def words : List (List Char × Value) :=
  [("null".toList, .null), ("true".toList, .bool true), ("false".toList, .bool false),
   ("NaN".toList, .float .nan), ("Infinity".toList, .float (.infinite false)),
   ("-Infinity".toList, .float (.infinite true))]

def word? (token : List Char) : Option Value :=
  (words.find? fun word => word.1 == token).map (·.2)

/-- Whether a character can stand in a number or a word. -/
def inToken (c : Char) : Bool := c.isAlphanum || c == '+' || c == '-' || c == '.'

def scalar? (cs : List Char) : Option (Value × List Char) :=
  let token := cs.takeWhile inToken
  ((number? token).or (word? token)).map fun v => (v, cs.dropWhile inToken)

/-! ## Texts -/

/-- The number of the character that a letter behind a backslash stands for. -/
def letter? (c : Char) : Option Nat :=
  if c = doubleQuote ∨ c = backslash ∨ c = '/' then some c.toNat
  else if c = 'n' then some 0xa
  else if c = 'r' then some 0xd
  else if c = 't' then some 0x9
  else if c = 'b' then some 0x8
  else if c = 'f' then some 0xc
  else none

/-- One unit more in front of what was read. -/
def putUnit (n : Nat) (r : List Nat × List Char) : List Nat × List Char := (n :: r.1, r.2)

/-- The units of a text up to its closing quote. A character that is not escaped is one unit, even
if it has two in UTF-16. -/
def units? : List Char → Option (List Nat × List Char)
  | [] => none
  | c :: rest =>
    if c = doubleQuote then some ([], rest)
    else if c = backslash then
      match rest with
      | 'u' :: h3 :: h2 :: h1 :: h0 :: rest => do
        let n ← ofHex? ([h3, h2, h1, h0].map Char.toLower)
        (units? rest).map (putUnit n)
      | letter :: rest => do
        let n ← letter? letter
        (units? rest).map (putUnit n)
      | [] => none
    else if c.toNat < 0x20 then none
    else (units? rest).map (putUnit c.toNat)

/-- Whether a unit is the first one of a pair. -/
def opensPair (n : Nat) : Bool := 0xd800 ≤ n && n < 0xdc00

/-- Whether a unit is the second one of a pair. -/
def closesPair (n : Nat) : Bool := 0xdc00 ≤ n && n < 0xe000

/-- The number of the character that a pair stands for. -/
def ofPair (high low : Nat) : Nat := 0x10000 + (high - 0xd800) * 0x400 + (low - 0xdc00)

def char? (n : Nat) : Option Char := if n.isValidChar then some (Char.ofNat n) else none

/-- The characters of units. -/
def chars? : List Nat → Option (List Char)
  | [] => some []
  | n :: rest =>
    if opensPair n then
      match rest with
      | m :: rest =>
        if closesPair m then do return (← char? (ofPair n m)) :: (← chars? rest) else none
      | [] => none
    else do return (← char? n) :: (← chars? rest)

/-- A text behind its opening quote. -/
def text? (cs : List Char) : Option (String × List Char) := do
  let (units, rest) ← units? cs
  return (String.ofList (← chars? units), rest)

/-! ## Values -/

/-- Items with commas between them, up to a closing bracket. There are as many at most as
`budget`. -/
def items? {α : Type} (item : List Char → Option (α × List Char)) (close : Char) :
    (budget : Nat) → List Char → Option (List α × List Char)
  | 0, _ => none
  | budget + 1, cs => do
    let (a, rest) ← item cs
    match skip rest with
    | [] => none
    | c :: rest =>
      if c = close then return ([a], rest)
      else if c = ',' then (items? item close budget rest).map fun r => (a :: r.1, r.2)
      else none

/-- What stands behind an opening bracket up to the closing one. -/
def within? {α : Type} (item : List Char → Option (α × List Char)) (close : Char) (cs : List Char) :
    Option (List α × List Char) :=
  match skip cs with
  | [] => none
  | c :: rest => if c = close then some ([], rest) else items? item close cs.length cs

/-- A key, a colon and a value. -/
def pair? (value : List Char → Option (Value × List Char)) (cs : List Char) :
    Option ((String × Value) × List Char) :=
  match skip cs with
  | [] => none
  | c :: rest =>
    if c = doubleQuote then do
      let (key, rest) ← text? rest
      match skip rest with
      | ':' :: rest => (value rest).map fun r => ((key, r.1), r.2)
      | _ => none
    else none

/-- A value that is nested less than `depth` times. -/
def value? : (depth : Nat) → List Char → Option (Value × List Char)
  | 0, _ => none
  | depth + 1, cs =>
    match skip cs with
    | [] => none
    | c :: rest =>
      if c = doubleQuote then (text? rest).map fun r => (.str r.1, r.2)
      else if c = '[' then (within? (value? depth) ']' rest).map fun r => (.list r.1, r.2)
      else if c = '\x7b' then
        (within? (pair? (value? depth)) '\x7d' rest).map fun r => (.dict (Table.ofPairs r.1), r.2)
      else scalar? (c :: rest)

/-- The value that characters stand for, with nothing else around it than blanks. -/
def read? (cs : List Char) : Option Value := do
  let (v, rest) ← value? cs.length cs
  if skip rest = [] then return v else none

end Telemetry.Json
