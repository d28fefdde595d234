import Telemetry.Number
import Telemetry.Sorting

/-!
# Values as dictionaries

Where a dictionary is expected, a dictionary is taken as it is, and a list of pairs is taken as the
dictionary that they are set in one after another. A pair is anything that holds two items, a text
of two characters included; its first item becomes a key, which is refused if it is a list or a
dictionary itself. All else is refused, and the first item that is no pair is named.

Keys of numbers are one key if they are equal in value, so that a truth value, an integer and a
double may be one; the key that came first stays.

Main statements: `toEntries_dict` and `toEntries_list` (the two forms of a dictionary),
`toEntries_ofEntries` (entries that became a value are read back).
-/

namespace Telemetry

/-! ### Keys -/

namespace Value

def sameKey : Value → Value → Bool
  | null, null => true
  | str s, str t => s = t
  | bytes bs, bytes cs => bs = cs
  | subtree v, subtree w => v.shown = w.shown
  | v, w => match Number.ofValue? v, Number.ofValue? w with
    | some m, some n => m.same n
    | _, _ => false

/-- Refuse a value that cannot be a key. -/
def requireKey (v : Value) : Except Fault Unit :=
  match v with
  | list _ | dict _ | assoc _ => .error (.unhashable v.typeName)
  | _ => .ok ()

/-- Whether a key stands before another. Keys of different kinds have no order. -/
def keyLess (v w : Value) : Except Fault Bool :=
  match v, w with
  | str s, str t => .ok (s < t)
  | bytes bs, bytes cs => .ok (bs < cs)
  | v, w => match Number.ofValue? v, Number.ofValue? w with
    | some m, some n => .ok (m.less n)
    | _, _ => .error (.notComparable "<" v.typeName w.typeName)

end Value

/-- Pairs of a key and what stands under it, in order of insertion. -/
abbrev Entries (α : Type) := List (Value × α)

namespace Entries

variable {α : Type}

def ofTable (t : Table α) : Entries α := t.map fun p => (.str p.1, p.2)

/-- The entries as a table, if all keys are texts. -/
def texts? : Entries α → Option (Table α)
  | [] => some []
  | (.str name, a) :: rest => (texts? rest).map ((name, a) :: ·)
  | _ :: _ => none

def get? (entries : Entries α) (name : String) : Option α :=
  (entries.find? (·.1.sameKey (.str name))).map (·.2)

def erase (entries : Entries α) (name : String) : Entries α :=
  entries.filter (!·.1.sameKey (.str name))

/-- Put something under a key: in place, or at the end if the key is new. -/
def set : Entries α → Value → α → Entries α
  | [], key, a => [(key, a)]
  | (k, b) :: rest, key, a =>
    if k.sameKey key then (k, a) :: rest else (k, b) :: set rest key a

/-- Set the pair that the value at the given place holds, if it holds items. An item is a key by
`key`. -/
def add (key : α → Value) (entries : Entries α) (index : Nat) :
    Option (List α) → Except Fault (Entries α)
  | none => .error (.notPair index)
  | some [k, a] => do
    (key k).requireKey
    return entries.set (key k) a
  | some items => .error (.pairLength index items.length)

/-- Whether a pair stands before another; their places tell pairs apart. The keys decide, but under one
key what stands there would have to be compared, and that is taken to fail. -/
def pairLess (p q : (Value × α) × Nat) : Except Fault Bool :=
  if p.1.1.sameKey q.1.1 then
    if p.2 = q.2 then .ok false else .error (.notComparable "<" "object" "object")
  else p.1.1.keyLess q.1.1

/-- The pairs in increasing order. -/
def sorted (entries : Entries α) : Except Fault (Entries α) := do
  return (← Sorting.sort pairLess entries.zipIdx).map (·.1)

theorem perm_sorted {entries done : Entries α} (h : entries.sorted = .ok done) :
    done.Perm entries := by
  obtain ⟨pairs, hpairs, rfl⟩ := Sorting.exists_of_map_eq_ok h
  have hperm := (Sorting.perm_sort hpairs).map Prod.fst
  rwa [List.zipIdx_map_fst] at hperm

theorem texts?_ofTable (t : Table α) : (ofTable t).texts? = some t := by
  induction t with
  | nil => rfl
  | cons p rest ih =>
    show (texts? (ofTable rest)).map ((p.1, p.2) :: ·) = _
    rw [ih]
    rfl

theorem ofTable_of_texts? {entries : Entries α} {t : Table α} (h : entries.texts? = some t) :
    ofTable t = entries := by
  induction entries generalizing t with
  | nil => cases h; rfl
  | cons p rest ih =>
    obtain ⟨key, a⟩ := p
    cases key with
    | str name =>
      obtain ⟨below, hbelow, rfl⟩ := Option.map_eq_some_iff.1 h
      exact congrArg ((Value.str name, a) :: ·) (ih hbelow)
    | _ => cases h

theorem set_ofTable (t : Table α) (name : String) (a : α) :
    (ofTable t).set (.str name) a = ofTable (Table.set t name a) := by
  induction t with
  | nil => rfl
  | cons p rest ih =>
    obtain ⟨k, b⟩ := p
    show (if decide (k = name) = true then _ else _) = _
    by_cases h : k = name
    · rw [if_pos (decide_eq_true h), Table.set, if_pos h]
      rfl
    · rw [if_neg (fun hk => h (of_decide_eq_true hk)), Table.set, if_neg h]
      exact congrArg ((Value.str k, b) :: ·) ih

end Entries

namespace Value

/-! ### Dictionaries -/

/-- The items of a value that holds items: the characters of a text, the numbers of bytes, the items
of a list and the keys of a dictionary. -/
def items? : Value → Option (List Value)
  | str s => some (s.toList.map fun c => str (String.ofList [c]))
  | bytes bs => some (bs.map fun b => int b.toNat)
  | list items => some items
  | dict entries => some (entries.map fun entry => str entry.1)
  | assoc entries => some (entries.map fun entry => entry.1)
  | subtree container => container.items?
  | _ => none

/-- Set the pairs from the given place on. -/
def addPairs (entries : Entries Value) : (index : Nat) → List Value → Except Fault (Entries Value)
  | _, [] => .ok entries
  | index, v :: rest => do
    addPairs (← entries.add id index v.items?) (index + 1) rest

/-- The dictionary that a value is or lists. -/
def toEntries (v : Value) : Except Fault (Entries Value) :=
  match v with
  | dict entries => .ok (Entries.ofTable entries)
  | assoc entries => .ok entries
  | v => match v.items? with
    | none => .error (.notIterable v.typeName)
    | some items => addPairs [] 0 items

def ofEntries (entries : Entries Value) : Value :=
  match entries.texts? with
  | some table => dict table
  | none => assoc entries

/-! ### Options -/

/-- The options that a value holds. Only a dictionary holds options. -/
def toOptions (owner : String) : Value → Except Fault (Table Value)
  | dict entries => .ok entries
  | v => .error (.notOptions owner v.typeName)

/-- Refuse the first option that is not known. The owner itself cannot be given as an option. -/
def checkOptions (owner : String) (known : List String) (options : Table Value) :
    Except Fault Unit :=
  match options.keys.find? (· ∉ known) with
  | none => .ok ()
  | some name =>
    .error (if name = "self" then .repeatedOption owner name else .unknownOption owner name)

theorem checkOptions_eq_ok (owner : String) {known : List String} {options : Table Value}
    (h : ∀ name ∈ options.keys, name ∈ known) : checkOptions owner known options = .ok () := by
  have hfind : options.keys.find? (· ∉ known) = none :=
    List.find?_eq_none.2 fun name hname => by simpa using h name hname
  simp only [checkOptions, hfind]

/-! ### The forms of a dictionary -/

/-- A dictionary is taken as it is. -/
theorem toEntries_dict (entries : Table Value) :
    toEntries (dict entries) = .ok (Entries.ofTable entries) := rfl

theorem addPairs_ofTable (t : Table Value) (index : Nat) (pairs : List (String × Value)) :
    addPairs (Entries.ofTable t) index (pairs.map fun p => list [str p.1, p.2]) =
      .ok (Entries.ofTable (pairs.foldl (fun t p => Table.set t p.1 p.2) t)) := by
  induction pairs generalizing t index with
  | nil => rfl
  | cons p rest ih =>
    show addPairs ((Entries.ofTable t).set (.str p.1) p.2) (index + 1) _ = _
    rw [Entries.set_ofTable, ih]
    rfl

/-- A list of pairs is the dictionary that they are set in one after another. -/
theorem toEntries_list (pairs : List (String × Value)) :
    toEntries (list (pairs.map fun p => list [str p.1, p.2])) =
      .ok (Entries.ofTable (Table.ofPairs pairs)) :=
  addPairs_ofTable [] 0 pairs

/-- Entries that became a value are read back. -/
theorem toEntries_ofEntries (entries : Entries Value) :
    toEntries (ofEntries entries) = .ok entries := by
  unfold ofEntries
  split
  · next table htable => exact congrArg Except.ok (Entries.ofTable_of_texts? htable)
  · rfl

end Value

end Telemetry
