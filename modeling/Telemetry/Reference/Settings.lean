import Telemetry.Reference.Entries
import Telemetry.Settings

/-!
# Settings in trees with references

A tree gives its settings as a copy if it is a dictionary, and item by item if it is a list.

Main statement: `formOf_dict` (a dictionary is read from its copy).
-/

namespace Telemetry.Reference

/-- The dictionaries in a node. -/
def specsOf (root : Value) (node : Node) : Except Fault (List (Entries Value)) :=
  match node.value with
  | .list items => dictionaries root node.path 0 items
  | v => Settings.sinkSpecs v

def listedOf (root : Value) (node : Node) : Settings.Listed where
  value := node.handOut
  specs := specsOf root node

/-- The form in which a node gives settings. -/
def form (root : Value) (node : Node) : Settings.Form :=
  match node.value with
  | .dict _ | .assoc _ => .tree (resolve root node)
  | .list _ => .listed do
    return (← entries root node).map fun p => (p.1, listedOf root p.2)
  | v => .value v

/-- The form in which the tree of a value gives settings. -/
def formOf (v : Value) : Settings.Form :=
  match plant v with
  | .error fault => .tree (.error fault)
  | .ok .null => .tree (.ok .null)
  | .ok root => form root ⟨[], root⟩

/-- A dictionary is read from its copy. -/
theorem formOf_dict (t : Table Value) : formOf (.dict t) = .tree (copy (.dict t)) := by
  have hplant : plant (.dict t) = checkTexts (.dict t) >>= fun _ => .ok (.dict t) := rfl
  rw [formOf, copy, hplant]
  cases checkTexts (.dict t) with
  | error fault => rfl
  | ok _ => rfl

end Telemetry.Reference
