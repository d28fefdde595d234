import Telemetry.Value

/-!
# Plain data

A value is plain data if nothing in it stands for anything else: no text refers to another place, and
no container is part of a tree. The keys of its dictionaries are texts, bytes or numbers.
-/

namespace Telemetry

/-- Whether a text has a reference, or what looks like the start of one: a dollar sign and an opening
brace. -/
def Text.refers : List Char → Bool
  | [] => false
  | c :: rest => (c == '$' && rest.head? == some '\x7b') || refers rest

namespace Value

/-- Whether a value may be a key in plain data. -/
def isPlainKey : Value → Bool
  | str _ | bytes _ | int _ | bool _ | float _ => true
  | _ => false

mutual

def isPlain : Value → Bool
  | str s => !Text.refers s.toList
  | list items => arePlain items
  | dict entries => entriesPlain entries
  | assoc entries => pairsPlain entries
  | subtree _ => false
  | _ => true

/-- Whether the items of a list are plain data. -/
def arePlain : List Value → Bool
  | [] => true
  | item :: rest => isPlain item && arePlain rest

/-- Whether the entries of a dictionary are plain data. -/
def entriesPlain : List (String × Value) → Bool
  | [] => true
  | (_, v) :: rest => isPlain v && entriesPlain rest

/-- Whether the entries of a dictionary with any keys are plain data. -/
def pairsPlain : List (Value × Value) → Bool
  | [] => true
  | (key, v) :: rest => key.isPlainKey && isPlain v && pairsPlain rest

end

end Value

end Telemetry
