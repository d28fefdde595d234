import Telemetry.Text.Hex
import Telemetry.Text.Printable

/-!
# Quoted text

A text between quotes, as messages show it: a single quote on either side, or a double one where the
text has a single quote and no double one. The backslash, the quote itself, line ends, tabs and what
is not printable are escaped. Bytes are quoted in the same way behind a `b`.
-/

namespace Telemetry.Text

def singleQuote : Char := Char.ofNat 0x27

def doubleQuote : Char := Char.ofNat 0x22

def backslash : Char := Char.ofNat 0x5c

/-- The quote that a text is put between. -/
def quoteFor (cs : List Char) : Char :=
  if singleQuote ∈ cs ∧ doubleQuote ∉ cs then doubleQuote else singleQuote

/-- Line feed, carriage return and tab have short escapes. -/
def shortEscape? (c : Char) : Option Char :=
  if c = '\n' then some 'n'
  else if c = '\r' then some 'r'
  else if c = '\t' then some 't'
  else none

/-- The escape of a character by its number: two, four or eight hexadecimal digits. -/
def numericEscape (n : Nat) : List Char :=
  if n < 0x100 then backslash :: 'x' :: hex 2 n
  else if n < 0x10000 then backslash :: 'u' :: hex 4 n
  else backslash :: 'U' :: hex 8 n

def escaped (q c : Char) : List Char :=
  if c = q ∨ c = backslash then [backslash, c]
  else match shortEscape? c with
    | some letter => [backslash, letter]
    | none => if isPrintable c then [c] else numericEscape c.toNat

def quotedChars (cs : List Char) : List Char :=
  let q := quoteFor cs
  q :: cs.flatMap (escaped q) ++ [q]

def quoted (s : String) : String := String.ofList (quotedChars s.toList)

/-- Bytes between quotes behind a `b`; all but printable ASCII is escaped. -/
def quotedBytes (bytes : List UInt8) : String :=
  let cs := bytes.map fun b => Char.ofNat b.toNat
  let q := quoteFor cs
  let byte (c : Char) : List Char :=
    if c.toNat < 0x80 then escaped q c else numericEscape c.toNat
  String.ofList ('b' :: q :: cs.flatMap byte ++ [q])

end Telemetry.Text
