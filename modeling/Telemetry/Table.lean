/-!
# Tables in order of insertion

A table holds values under names. A name that is set again keeps its place, a new one is put at the
end. Tables are kept as lists of pairs, so that their order is part of the value.

Main statements: `get?_set` and `keys_set` (what setting does), `get?_erase` and `keys_erase` (what
erasing does), `nodup_keys_set`, `nodup_keys_erase` (no name is held twice).
-/

namespace Telemetry

/-- Pairs of a name and a value, in order of insertion. -/
abbrev Table (α : Type) := List (String × α)

namespace Table

variable {α : Type}

def keys (t : Table α) : List String := t.map (·.1)

def get? : Table α → String → Option α
  | [], _ => none
  | (k, a) :: rest, name => if k = name then some a else get? rest name

def contains (t : Table α) (name : String) : Bool := t.any (·.1 = name)

/-- Put a value under a name: in place, or at the end if the name is new. -/
def set : Table α → String → α → Table α
  | [], name, a => [(name, a)]
  | (k, b) :: rest, name, a => if k = name then (k, a) :: rest else (k, b) :: set rest name a

def erase (t : Table α) (name : String) : Table α := t.filter (·.1 ≠ name)

/-- The table that arises from setting pairs one after another. -/
def ofPairs (pairs : List (String × α)) : Table α :=
  pairs.foldl (fun t p => set t p.1 p.2) []

/-- The pairs in increasing order of their names. -/
def sorted (t : Table α) : Table α := t.mergeSort fun p q => decide (p.1 ≤ q.1)

/-! ### Setting -/

/-- After setting, the name holds the new value and all others what they held. -/
theorem get?_set (t : Table α) (name : String) (a : α) (k : String) :
    get? (set t name a) k = if name = k then some a else get? t k := by
  induction t with
  | nil => simp [set, get?]
  | cons p rest ih =>
    obtain ⟨k', b⟩ := p
    by_cases h : k' = name
    · subst h
      simp only [set, if_pos, get?]
      split <;> rfl
    · simp only [set, if_neg h, get?, ih]
      by_cases hk : k' = k
      · subst hk
        simp [Ne.symm h]
      · simp [hk]

theorem contains_eq_isSome (t : Table α) (name : String) :
    contains t name = (get? t name).isSome := by
  induction t with
  | nil => rfl
  | cons p rest ih =>
    obtain ⟨k, b⟩ := p
    by_cases h : k = name
    · simp [contains, get?, h]
    · simpa [contains, get?, h] using ih

theorem contains_iff_mem_keys (t : Table α) (name : String) :
    contains t name = true ↔ name ∈ keys t := by
  simp only [contains, keys, List.any_eq_true, List.mem_map, decide_eq_true_eq]

/-- Setting keeps the names in their order and adds a new one at the end. -/
theorem keys_set (t : Table α) (name : String) (a : α) :
    keys (set t name a) = if name ∈ keys t then keys t else keys t ++ [name] := by
  induction t with
  | nil => simp [set, keys]
  | cons p rest ih =>
    obtain ⟨k, b⟩ := p
    by_cases h : k = name
    · simp [set, keys, h]
    · have h' : name ≠ k := Ne.symm h
      simp only [set, if_neg h]
      simp only [keys, List.map_cons, List.mem_cons, h', false_or] at ih ⊢
      rw [ih]
      split <;> rename_i hmem <;> simp [hmem]

theorem set_of_not_mem {t : Table α} {name : String} (h : name ∉ keys t) (a : α) :
    set t name a = t ++ [(name, a)] := by
  induction t with
  | nil => rfl
  | cons p rest ih =>
    obtain ⟨k, b⟩ := p
    simp only [keys, List.map_cons, List.mem_cons, not_or] at h
    simp [set, Ne.symm h.1, ih h.2]

/-- Setting holds no name twice. -/
theorem nodup_keys_set {t : Table α} (h : (keys t).Nodup) (name : String) (a : α) :
    (keys (set t name a)).Nodup := by
  rw [keys_set]
  split
  · exact h
  · next hnew =>
    refine List.nodup_append.2 ⟨h, by simp, ?_⟩
    intro k hk k' hk'
    rw [List.mem_singleton] at hk'
    subst hk'
    exact fun he => hnew (he ▸ hk)

theorem nodup_keys_ofPairs (pairs : List (String × α)) : (keys (ofPairs pairs)).Nodup := by
  suffices H : ∀ t : Table α, (keys t).Nodup →
      (keys (pairs.foldl (fun t p => set t p.1 p.2) t)).Nodup from H [] (by simp [keys])
  induction pairs with
  | nil => exact fun _ h => h
  | cons p rest ih => exact fun t h => ih _ (nodup_keys_set h _ _)

/-! ### Erasing -/

/-- Erasing takes out the name alone. -/
theorem get?_erase (t : Table α) (name k : String) :
    get? (erase t name) k = if name = k then none else get? t k := by
  induction t with
  | nil => simp [erase, get?]
  | cons p rest ih =>
    obtain ⟨k', b⟩ := p
    simp only [erase] at ih
    by_cases h : k' = name
    · subst h
      simp only [erase, List.filter_cons, ne_eq, not_true_eq_false, decide_false,
        Bool.false_eq_true, if_false, ih, get?]
      split <;> simp_all
    · simp only [erase, List.filter_cons, ne_eq, h, not_false_eq_true, decide_true, if_true, get?,
        ih]
      by_cases hk : k' = k
      · subst hk
        simp [Ne.symm h]
      · simp [hk]

/-- Erasing keeps the other names in their order. -/
theorem keys_erase (t : Table α) (name : String) :
    keys (erase t name) = (keys t).filter (· ≠ name) := by
  simp [keys, erase, List.filter_map, Function.comp_def]

/-- Erasing holds no name twice. -/
theorem nodup_keys_erase {t : Table α} (h : (keys t).Nodup) (name : String) :
    (keys (erase t name)).Nodup := by
  rw [keys_erase]
  exact h.filter _

end Table

end Telemetry
