import Telemetry.Value.Mapping

/-!
# Lines of records

A value as one line of JSON in ASCII: a comma or colon is followed by a space, the entries of a
dictionary are in increasing order of their keys, and every character outside of printable ASCII is
escaped by its number in UTF-16. Doubles are written as their shortest decimals; what is not a
number and the infinities have names of their own. Keys that are no texts are written as the texts
of what they are. Bytes have no such form, nor have subtrees. How deep values are nested does not
matter.

The first value without a form is the fault of the whole, in the order in which they are written.

Main statement: `string_ascii` (a written text is printable ASCII, whatever its characters are, and
so holds no line end).
-/

namespace Telemetry.Json

open Text

/-- The escape of a number below `2 ^ 16`. -/
def unit (n : Nat) : List Char := backslash :: 'u' :: hex 4 n

def shortEscape? (c : Char) : Option Char :=
  if c = doubleQuote ∨ c = backslash then some c
  else if c = '\n' then some 'n'
  else if c = '\r' then some 'r'
  else if c = '\t' then some 't'
  else if c.toNat = 0x8 then some 'b'
  else if c.toNat = 0xc then some 'f'
  else none

/-- The escape of a character by its number: one unit of UTF-16, or the two of a pair. -/
def unitEscape (n : Nat) : List Char :=
  if n < 0x10000 then unit n
  else unit (0xd800 + (n - 0x10000) / 0x400) ++ unit (0xdc00 + (n - 0x10000) % 0x400)

def escaped (c : Char) : List Char :=
  match shortEscape? c with
  | some letter => [backslash, letter]
  | none => if 0x20 ≤ c.toNat ∧ c.toNat < 0x7f then [c] else unitEscape c.toNat

def string (s : String) : List Char :=
  doubleQuote :: s.toList.flatMap escaped ++ [doubleQuote]

/-! ### Written texts are printable ASCII -/

theorem shortEscape?_ascii {c letter : Char} (h : shortEscape? c = some letter) :
    0x20 ≤ letter.toNat ∧ letter.toNat < 0x7f := by
  unfold shortEscape? at h
  split at h
  · next hquote =>
    -- the two characters that are escaped by themselves
    obtain rfl := Option.some.inj h
    rcases hquote with rfl | rfl <;> decide
  · -- the letters
    repeat
      split at h
      · cases h; decide
    cases h

theorem unit_ascii {n : Nat} {d : Char} (h : d ∈ unit n) : 0x20 ≤ d.toNat ∧ d.toNat < 0x7f := by
  rcases List.mem_cons.1 h with rfl | h
  · decide
  · rcases List.mem_cons.1 h with rfl | h
    · decide
    · exact hex_ascii h

theorem escaped_ascii {c d : Char} (h : d ∈ escaped c) : 0x20 ≤ d.toNat ∧ d.toNat < 0x7f := by
  unfold escaped at h
  split at h
  · next letter hletter =>
    rcases List.mem_cons.1 h with rfl | h
    · decide
    · obtain rfl := List.mem_singleton.1 h
      exact shortEscape?_ascii hletter
  · split at h
    · next hplain =>
      obtain rfl := List.mem_singleton.1 h
      exact hplain
    · unfold unitEscape at h
      split at h
      · exact unit_ascii h
      · exact (List.mem_append.1 h).elim unit_ascii unit_ascii

/-- A written text is printable ASCII. -/
theorem string_ascii {s : String} {d : Char} (h : d ∈ string s) :
    0x20 ≤ d.toNat ∧ d.toNat < 0x7f := by
  rcases List.mem_append.1 h with h | h
  · rcases List.mem_cons.1 h with rfl | h
    · decide
    · obtain ⟨c, _, hc⟩ := List.mem_flatMap.1 h
      exact escaped_ascii hc
  · obtain rfl := List.mem_singleton.1 h
    decide

/-! ### Values -/

def float : Binary64 → List Char
  | .nan => "NaN".toList
  | .infinite negative => Binary64.signed negative "Infinity".toList
  | x => x.write Binary64.shortestMagnitude

/-- An integer, unless it is too long. -/
def integer (i : Int) : Except Fault (List Char) :=
  if Decimal.isWritable i then .ok (Decimal.ofInt i) else .error .integerTooLong

/-- Written items with a comma and a space between them. -/
def joined : List (List Char) → List Char
  | [] => []
  | [item] => item
  | item :: rest => item ++ ',' :: ' ' :: joined rest

def keyChars : Value → Except Fault (List Char)
  | .null => .ok "null".toList
  | .bool true => .ok "true".toList
  | .bool false => .ok "false".toList
  | .int i => integer i
  | .float x => .ok (float x)
  | .str s => .ok s.toList
  | v => .error (.keyNotSerializable v.typeName)

/-- A value in writing: its characters, or why it has none. -/
abbrev Draft := Except Fault (List Char)

def entry (key : Value) (value : Draft) : Draft := do
  return string (String.ofList (← keyChars key)) ++ ':' :: ' ' :: (← value)

/-- A dictionary of values in writing, its pairs in increasing order. -/
def object (entries : Entries Draft) : Draft := do
  let written ← (← entries.sorted).mapM fun p => entry p.1 p.2
  return '\x7b' :: joined written ++ ['\x7d']

mutual

def write : Value → Draft
  | .null => .ok "null".toList
  | .bool true => .ok "true".toList
  | .bool false => .ok "false".toList
  | .int i => integer i
  | .float x => .ok (float x)
  | .str s => .ok (string s)
  | .list items => do return '[' :: joined (← writeItems items) ++ [']']
  | .dict entries => object (writeEntries entries)
  | .assoc entries => object (writePairs entries)
  | .bytes bs => .error (.notSerializable (Value.bytes bs).typeName)
  | .subtree container => .error (.notSerializable (Value.subtree container).typeName)

/-- The items of a list as JSON. -/
def writeItems : List Value → Except Fault (List (List Char))
  | [] => .ok []
  | item :: rest => do return (← write item) :: (← writeItems rest)

/-- The values of a dictionary in writing, under their keys. -/
def writeEntries : List (String × Value) → Entries Draft
  | [] => []
  | (key, value) :: rest => (.str key, write value) :: writeEntries rest

/-- The values of a dictionary with any keys in writing, under their keys. -/
def writePairs : List (Value × Value) → Entries Draft
  | [] => []
  | (key, value) :: rest => (key, write value) :: writePairs rest

end

end Telemetry.Json
