import Telemetry.Reference.Piece
import Telemetry.Value.Mapping

/-!
# References between settings

What reads settings takes the copies of trees as they come, and knows nothing of references. The
trees here are one kind of them, for those who have no others at hand.

A text in a tree of settings may refer to other nodes of the tree, as `Telemetry.Reference.Piece`
says. The keys of a reference lead to a node from the root; with dots in front they lead there from
the text's own container, and every dot after the first goes one container further up. Keys of lists
are integers. A text that is one reference as a whole stands for the node itself; otherwise the
node's text is put in its place. No text may refer to a container that it stands in, and a chain of
references has a greatest length.

A tree may hold texts with simple references that are ill-formed. Such a text is malformed when it
is read; where another reference leads to it or through it, that reference is broken. A dictionary
whose keys are not all texts has to be plain data.

Main statement: `resolve_eq_self` (a tree without references stands for itself).
-/

namespace Telemetry.Reference

/-! ### Nodes -/

/-- The text of a value that was left open. -/
def openMark : String := "???"

def isOpen : Value → Bool
  | .str s => s == openMark
  | _ => false

/-- The item of a list under a key, which has to be an integer. -/
def itemAt (items : List Value) (key : String) : Except Fault (Option Value) :=
  match Decimal.readInteger Text.isBlank key.toList with
  | .ok index => .ok (if index < 0 then none else items[index.toNat]?)
  | .error _ => .error .referenceBroken

/-- The value below a container under a key. -/
def child (v : Value) (key : String) : Except Fault (Option Value) :=
  match v with
  | .dict entries => .ok (Table.get? entries key)
  | .assoc entries => .ok (Entries.get? entries key)
  | .list items => itemAt items key
  | _ => .error .referenceBroken

/-- A node and the keys that lead to it from the root. -/
structure Node where
  path : List String
  value : Value

/-- The key of an item of a list. -/
def indexKey (index : Nat) : String := Value.intText index

/-- The key of a value in its container, in the form that all references to it share. -/
def normalKey (container : Value) (key : String) : String :=
  match container with
  | .list _ => match Decimal.readInteger Text.isBlank key.toList with
    | .ok index => indexKey index.toNat
    | .error _ => key
  | _ => key

/-- The node that keys lead to from the root, where no references are followed. -/
def ancestor (root : Value) (path : List String) : Except Fault Node :=
  path.foldlM
    (fun node key => do
      match ← child node.value key with
      | some v => return ⟨node.path ++ [key], v⟩
      | none => throw .referenceMissing)
    ⟨[], root⟩

/-- The node that keys lead to, where `settle` follows the references on the way. -/
def descend (settle : Node → Except Fault Node) : Node → List String → Except Fault Node
  | node, [] => settle node
  | node, key :: keys => do
    let container ← settle node
    match ← child container.value key with
    | none => throw .referenceMissing
    | some v =>
      if isOpen v then throw .referenceOpen
      descend settle ⟨container.path ++ [normalKey container.value key], v⟩ keys

/-- Follow a node's reference on the way of another one, which an ill-formed text breaks. -/
def onTheWay (settle : Node → Except Fault Node) (node : Node) : Except Fault Node :=
  match settle node with
  | .error .referenceMalformed => .error .referenceBroken
  | result => result

/-- The node that the reference of a text leads to, which must not be a container of the text. -/
def target (settle : Node → Except Fault Node) (root : Value) (node : Node) (up : Nat)
    (keys : List String) : Except Fault Node := do
  if node.path.length < up then throw .referenceMissing
  if keys.isEmpty then throw .referenceBroken
  let start ← ancestor root (if up = 0 then [] else node.path.take (node.path.length - up))
  let found ← descend (onTheWay settle) start keys
  if found.path.isPrefixOf node.path.dropLast then throw .referenceBroken
  return found

/-- Follow a node's reference, and the references that it leads to, at most `hops` in a chain. A
text with references among other characters becomes a text. -/
def follow (root : Value) : (hops : Nat) → Node → Except Fault Node
  | 0, _ => .error .referenceBroken
  | hops + 1, node =>
    match node.value with
    | .str s =>
      if Text.refers s.toList then
        match pieces? s with
        | none => .error .referenceMalformed
        | some [.node up keys] => target (follow root hops) root node up keys
        | some [.call] => .error .unknownFunction
        | some parts => do
          let texts ← parts.mapM fun
            | .text cs => pure (String.ofList cs)
            | .call => throw .unknownFunction
            | .node up keys => do
              return (← target (follow root hops) root node up keys).value.text
          return ⟨node.path, .str (String.join texts)⟩
      else .ok node
    | _ => .ok node

/-! ### Whole trees -/

mutual

/-- A tree with every reference replaced by what `target` makes of it. -/
def replace (target : Node → Except Fault Value) (path : List String) :
    Value → Except Fault Value
  | .str s => if Text.refers s.toList then target ⟨path, .str s⟩ else .ok (.str s)
  | .list items => do return .list (← replaceItems target path 0 items)
  | .dict entries => do return .dict (← replaceEntries target path entries)
  | v => .ok v

/-- The items of a list, from the given index on. -/
def replaceItems (target : Node → Except Fault Value) (path : List String) (index : Nat) :
    List Value → Except Fault (List Value)
  | [] => .ok []
  | item :: rest => do
    let item ← replace target (path ++ [indexKey index]) item
    return item :: (← replaceItems target path (index + 1) rest)

def replaceEntries (target : Node → Except Fault Value) (path : List String) :
    List (String × Value) → Except Fault (List (String × Value))
  | [] => .ok []
  | (key, v) :: rest => do
    let v ← replace target (path ++ [key]) v
    return (key, v) :: (← replaceEntries target path rest)

end

def longestChain : Nat := 61

/-- Follow a node's reference in its tree. -/
def settle (root : Value) (node : Node) : Except Fault Node := follow root (longestChain + 1) node

/-- The node at `node` with all references replaced, at most `depth` inside one another. -/
def resolveNode (root : Value) : (depth : Nat) → Node → Except Fault Value
  | 0, node => replace (fun _ => .error .referenceBroken) node.path node.value
  | depth + 1, node =>
    replace (fun reference => do
      let found ← settle root reference
      match found.value with
      | .str s => return .str s
      | _ => resolveNode root depth found) node.path node.value

mutual

/-- The number of texts in a tree, a bound for references inside one another that do not return. -/
def countTexts : Value → Nat
  | .str _ => 1
  | .list items => countItems items
  | .dict entries => countEntries entries
  | _ => 0

/-- The texts in the items of a list. -/
def countItems : List Value → Nat
  | [] => 0
  | item :: rest => countTexts item + countItems rest

/-- The texts in the entries of a dictionary. -/
def countEntries : List (String × Value) → Nat
  | [] => 0
  | (_, v) :: rest => countTexts v + countEntries rest

end

/-- The node of a tree with all references replaced. -/
def resolve (root : Value) (node : Node) : Except Fault Value :=
  resolveNode root (countTexts root + 1) node

mutual

/-- Refuse a tree with a text that may not stand in it. -/
def checkTexts : Value → Except Fault Unit
  | .str s => if isPlausible s then .ok () else .error .referenceMalformed
  | .list items => checkItems items
  | .dict entries => checkEntries entries
  | .assoc entries => if Value.pairsPlain entries then .ok () else .error .notTree
  | .subtree _ => .error .notTree
  | _ => .ok ()

def checkItems : List Value → Except Fault Unit
  | [] => .ok ()
  | item :: rest => do
    checkTexts item
    checkItems rest

def checkEntries : List (String × Value) → Except Fault Unit
  | [] => .ok ()
  | (_, v) :: rest => do
    checkTexts v
    checkEntries rest

end

/-- The tree of settings that a value is. A dictionary, a list or nothing is a tree if its texts
may stand in one. A text is the tree with nothing under its one name. -/
def plant (v : Value) : Except Fault Value :=
  match v with
  | .null | .list _ | .dict _ | .assoc _ => do
    checkTexts v
    return v
  | .str "" => .ok (.dict [])
  | .str name => .ok (.dict [(name, .null)])
  | _ => .error .notTree

/-- The tree of a value with all references replaced. -/
def copy (v : Value) : Except Fault Value := do
  let root ← plant v
  resolve root ⟨[], root⟩

/-! ### Trees without references -/

mutual

theorem replace_of_isPlain (target : Node → Except Fault Value) (path : List String) (v : Value)
    (h : v.isPlain = true) : replace target path v = .ok v := by
  match v with
  | .str s =>
    have hs : Text.refers s.toList = false := by simpa [Value.isPlain] using h
    simp [replace, hs]
  | .list items =>
    simp only [Value.isPlain] at h
    simp only [replace, replaceItems_of_arePlain target path 0 items h]
    rfl
  | .dict entries =>
    simp only [Value.isPlain] at h
    simp only [replace, replaceEntries_of_entriesPlain target path entries h]
    rfl
  | .null | .bool _ | .int _ | .float _ | .bytes _ | .assoc _ | .subtree _ => rfl

theorem replaceItems_of_arePlain (target : Node → Except Fault Value) (path : List String)
    (index : Nat) (items : List Value) (h : Value.arePlain items = true) :
    replaceItems target path index items = .ok items := by
  match items with
  | [] => rfl
  | item :: rest =>
    simp only [Value.arePlain, Bool.and_eq_true] at h
    simp only [replaceItems, replace_of_isPlain target _ item h.1,
      replaceItems_of_arePlain target path (index + 1) rest h.2]
    rfl

theorem replaceEntries_of_entriesPlain (target : Node → Except Fault Value) (path : List String)
    (entries : List (String × Value)) (h : Value.entriesPlain entries = true) :
    replaceEntries target path entries = .ok entries := by
  match entries with
  | [] => rfl
  | (key, v) :: rest =>
    simp only [Value.entriesPlain, Bool.and_eq_true] at h
    simp only [replaceEntries, replace_of_isPlain target _ v h.1,
      replaceEntries_of_entriesPlain target path rest h.2]
    rfl

end

/-- A tree without references stands for itself. -/
theorem resolve_eq_self (root : Value) {node : Node} (h : node.value.isPlain = true) :
    resolve root node = .ok node.value :=
  replace_of_isPlain _ _ _ h

end Telemetry.Reference
