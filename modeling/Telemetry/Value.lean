import Telemetry.Number.FloatText
import Telemetry.Number.IntegerText
import Telemetry.Table
import Telemetry.Text.Quoted

/-!
# Values

Settings, metric readings and the fields of events are values of one dynamic type: whole numbers of
any size, doubles, truth values, texts, bytes, lists and dictionaries. Whole numbers, doubles and
truth values are kept apart, because they are written in different ways. Nearly all dictionaries
have text keys alone; one that has another key is an `assoc`. A list or dictionary that was taken
out of a tree of settings, but not copied, is a `subtree`: it is shown as what it is and has a type
of its own.

`Value.text` is a value as it stands in a message; `Value.shown` is the form that tells a text from
a name, with quotes. Both are for values that are writable: an integer with more digits than
`Decimal.digitLimit` has no text.
-/

namespace Telemetry

/-- A dynamic value. -/
inductive Value where
  | null
  | bool (b : Bool)
  | int (i : Int)
  | float (x : Binary64)
  | str (s : String)
  | bytes (bs : List UInt8)
  | list (items : List Value)
  | dict (entries : List (String × Value))
  /-- A dictionary with a key that is no text. -/
  | assoc (entries : List (Value × Value))
  /-- A list or dictionary that belongs to a tree of settings. -/
  | subtree (container : Value)
  deriving Inhabited

namespace Value

/-- The name of a value's type, as messages give it. -/
def typeName : Value → String
  | null => "NoneType"
  | bool _ => "bool"
  | int _ => "int"
  | float _ => "float"
  | str _ => "str"
  | bytes _ => "bytes"
  | list _ => "list"
  | dict _ | assoc _ => "dict"
  | subtree (list _) => "ListConfig"
  | subtree _ => "DictConfig"

/-- Whether a value counts as given: nothing, no, zero and what is empty do not. -/
def isTruthy : Value → Bool
  | null => false
  | bool b => b
  | int i => i != 0
  | float x => !x.isZero
  | str s => s != ""
  | bytes bs => !bs.isEmpty
  | list items => !items.isEmpty
  | dict entries => !entries.isEmpty
  | assoc entries => !entries.isEmpty
  | subtree container => container.isTruthy

def intText (i : Int) : String := String.ofList (Decimal.ofInt i)

/-- Texts with a comma and a space between them. -/
def joined : List String → String := ", ".intercalate

mutual

/-- A value as it is shown where its type matters: texts stand between quotes. -/
def shown : Value → String
  | null => "None"
  | bool true => "True"
  | bool false => "False"
  | int i => intText i
  | float x => x.shortest
  | str s => Text.quoted s
  | bytes bs => Text.quotedBytes bs
  | list items => "[" ++ joined (shownItems items) ++ "]"
  | dict entries => "\x7b" ++ joined (shownEntries entries) ++ "\x7d"
  | assoc entries => "\x7b" ++ joined (shownPairs entries) ++ "\x7d"
  | subtree container => shown container

/-- The items of a list as they are shown. -/
def shownItems : List Value → List String
  | [] => []
  | item :: rest => shown item :: shownItems rest

/-- The entries of a dictionary as they are shown. -/
def shownEntries : List (String × Value) → List String
  | [] => []
  | (key, value) :: rest => (Text.quoted key ++ ": " ++ shown value) :: shownEntries rest

/-- The entries of a dictionary with any keys as they are shown. -/
def shownPairs : List (Value × Value) → List String
  | [] => []
  | (key, value) :: rest => (shown key ++ ": " ++ shown value) :: shownPairs rest

end

/-- A value as it stands in a message: a text without quotes, all else as shown. -/
def text : Value → String
  | str s => s
  | v => v.shown

mutual

/-- Whether a value has a text: an integer that is too long to be written has none, nor has what holds
such an integer. -/
def isWritable : Value → Bool
  | int i => Decimal.isWritable i
  | list items => areWritable items
  | dict entries => entriesWritable entries
  | assoc entries => pairsWritable entries
  | subtree container => isWritable container
  | _ => true

/-- Whether all items of a list have texts. -/
def areWritable : List Value → Bool
  | [] => true
  | item :: rest => isWritable item && areWritable rest

/-- Whether all entries of a dictionary have texts. -/
def entriesWritable : List (String × Value) → Bool
  | [] => true
  | (_, v) :: rest => isWritable v && entriesWritable rest

/-- Whether all entries of a dictionary with any keys have texts. -/
def pairsWritable : List (Value × Value) → Bool
  | [] => true
  | (key, v) :: rest => isWritable key && isWritable v && pairsWritable rest

end

end Value

end Telemetry
