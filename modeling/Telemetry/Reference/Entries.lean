import Telemetry.Reference

/-!
# Taking a tree of settings apart

A container of a tree may be read piece by piece instead of being copied as a whole. Only what is
read has its references followed; it must not have been left open. Containers that are handed out
remain part of their tree.

Main statement: `entryNodes_keys` (a dictionary is read in its order).
-/

namespace Telemetry.Reference

namespace Node

/-- What a node hands out: a container remains part of its tree. -/
def handOut (node : Node) : Value :=
  match node.value with
  | .list _ | .dict _ => .subtree node.value
  | v => v

/-- A value outside of any tree, as a node. -/
def loose (v : Value) : Node := ⟨[], v⟩

end Node

/-- An item of a list as it is read: what it refers to must not be open either. -/
def readItem (root : Value) (path : List String) (index : Nat) (item : Value) :
    Except Fault Node := do
  let found ← settle root ⟨path ++ [indexKey index], item⟩
  if isOpen found.value then throw .valueOpen
  return found

/-- The items of a list from the given index on. -/
def readItems (root : Value) (path : List String) :
    (index : Nat) → List Value → Except Fault (List Node)
  | _, [] => .ok []
  | index, item :: rest => do
    let node ← readItem root path index item
    return node :: (← readItems root path (index + 1) rest)

def entryNodes (root : Value) (path : List String) : Table Value → Except Fault (Table Node)
  | [] => .ok []
  | (key, v) :: rest => do
    if isOpen v then throw .valueOpen
    let node ← settle root ⟨path ++ [key], v⟩
    return (key, node) :: (← entryNodes root path rest)

/-- The items of a node that holds items. -/
def itemNodes (root : Value) (node : Node) : Except Fault (Option (List Node)) :=
  match node.value with
  | .list items => (readItems root node.path 0 items).map some
  | v => .ok (v.items?.map (·.map Node.loose))

/-- Set the pairs in a list from the given index on. -/
def addPairs (root : Value) (path : List String) (entries : Entries Node) :
    (index : Nat) → List Value → Except Fault (Entries Node)
  | _, [] => .ok entries
  | index, item :: rest => do
    let node ← readItem root path index item
    let pair ← itemNodes root node
    addPairs root path (← entries.add Node.handOut index pair) (index + 1) rest

/-- The dictionary that a node is or lists. -/
def entries (root : Value) (node : Node) : Except Fault (Entries Node) :=
  match node.value with
  | .dict table => (entryNodes root node.path table).map Entries.ofTable
  | .list items => addPairs root node.path [] 0 items
  | v => do
    return (← v.toEntries).map fun p => (p.1, Node.loose p.2)

/-- The dictionaries in a list, from the given index on. -/
def dictionaries (root : Value) (path : List String) :
    (index : Nat) → List Value → Except Fault (List (Entries Value))
  | _, [] => .ok []
  | index, item :: rest => do
    let node ← readItem root path index item
    let found ← entries root node
    let below ← dictionaries root path (index + 1) rest
    return (found.map fun p => (p.1, p.2.handOut)) :: below

/-- A dictionary is read in its order. -/
theorem entryNodes_keys {root : Value} {path : List String} {table : Table Value}
    {nodes : Table Node} (h : entryNodes root path table = .ok nodes) :
    nodes.keys = table.keys := by
  induction table generalizing nodes with
  | nil => cases h; rfl
  | cons p rest ih =>
    obtain ⟨key, v⟩ := p
    rw [entryNodes] at h
    split at h
    · cases h
    · cases hnode : settle root ⟨path ++ [key], v⟩ with
      | error fault => rw [hnode] at h; cases h
      | ok node =>
        rw [hnode] at h
        cases hrest : entryNodes root path rest with
        | error fault => rw [hrest] at h; cases h
        | ok below =>
          rw [hrest] at h
          cases h
          exact congrArg (key :: ·) (ih hrest)

end Telemetry.Reference
