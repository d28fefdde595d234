import Mathlib.Data.List.Induction
import Mathlib.Data.List.Perm.Basic
import Telemetry.Table

/-!
# What tables hold

Looking up a name finds the entry that a table holds under it. If no name is held twice, the order of
the entries does not matter for that; and pairs that are set one after another are a table as they
are.

Main statements: `get?_of_mem` and `mem_of_get?`, `get?_perm` and `ofPairs_of_nodup`.
-/

namespace Telemetry

namespace Table

variable {α : Type}

theorem ofPairs_concat (pairs : List (String × α)) (p : String × α) :
    ofPairs (pairs ++ [p]) = (ofPairs pairs).set p.1 p.2 := by
  rw [ofPairs, ofPairs, List.foldl_append]
  rfl

theorem ofPairs_ne_nil {pairs : List (String × α)} (h : pairs ≠ []) : ofPairs pairs ≠ [] := by
  rcases pairs.eq_nil_or_concat with hnil | ⟨init, p, hconcat⟩
  · exact absurd hnil h
  · rw [hconcat, List.concat_eq_append, ofPairs_concat]
    cases ofPairs init with
    | nil => exact List.cons_ne_nil _ _
    | cons q rest =>
        rw [set]
        split <;> exact List.cons_ne_nil _ _

/-- Of two pairs with one name the later counts. -/
theorem get?_ofPairs (pairs : List (String × α)) (name : String) :
    (ofPairs pairs).get? name = get? pairs.reverse name := by
  induction pairs using List.reverseRecOn with
  | nil => rfl
  | append_singleton pairs p ih =>
      rw [ofPairs_concat, get?_set, List.reverse_concat, get?, ih]

/-- Pairs that all have names of their own are kept as they are. -/
theorem ofPairs_of_nodup {pairs : List (String × α)} (h : (keys pairs).Nodup) :
    ofPairs pairs = pairs := by
  induction pairs using List.reverseRecOn with
  | nil => rfl
  | append_singleton pairs p ih =>
      rw [keys, List.map_append, List.nodup_append] at h
      obtain ⟨hpairs, -, hnew⟩ := h
      have hfree : p.1 ∉ keys pairs := fun hmem => hnew p.1 hmem p.1 (by simp) rfl
      rw [ofPairs_concat, ih hpairs, set_of_not_mem hfree]

/-- A name is lost exactly if there are pairs with one name. -/
theorem keys_ofPairs_iff (pairs : List (String × α)) :
    keys (ofPairs pairs) = keys pairs ↔ (keys pairs).Nodup := by
  constructor
  · intro h
    rw [← h]
    exact nodup_keys_ofPairs pairs
  · intro h
    rw [ofPairs_of_nodup h]

theorem mem_of_get? {t : Table α} {name : String} {a : α} (h : t.get? name = some a) :
    (name, a) ∈ t := by
  induction t with
  | nil => cases h
  | cons p rest ih =>
      rw [get?] at h
      split at h
      · next heq =>
        cases h
        rw [← heq]
        exact List.mem_cons_self
      · exact List.mem_cons_of_mem p (ih h)

theorem get?_of_mem {t : Table α} (hkeys : t.keys.Nodup) {name : String} {a : α}
    (h : (name, a) ∈ t) : t.get? name = some a := by
  induction t with
  | nil => cases h
  | cons p rest ih =>
      obtain ⟨hnew, hrest⟩ := List.nodup_cons.mp hkeys
      rw [get?]
      rcases List.mem_cons.mp h with heq | hmem
      · subst heq
        rw [if_pos rfl]
      · have hne : p.1 ≠ name := by
          intro heq
          exact hnew (List.mem_map.mpr ⟨(name, a), hmem, heq.symm⟩)
        rw [if_neg hne]
        exact ih hrest hmem

theorem exists_get?_of_mem_keys {t : Table α} {name : String} (h : name ∈ t.keys) :
    ∃ a, t.get? name = some a := by
  rw [← contains_iff_mem_keys, contains_eq_isSome] at h
  exact Option.isSome_iff_exists.mp h

/-- Of two tables the first is looked up first. -/
theorem get?_append (t u : Table α) (name : String) :
    get? (t ++ u) name = (t.get? name).or (u.get? name) := by
  induction t with
  | nil => rfl
  | cons p rest ih =>
      rw [List.cons_append, get?, get?]
      split
      · rfl
      · exact ih

theorem get?_map {β : Type} (f : α → β) (t : Table α) (name : String) :
    get? (t.map fun p => (p.1, f p.2)) name = (t.get? name).map f := by
  induction t with
  | nil => rfl
  | cons p rest ih =>
      rw [List.map_cons, get?, get?, ih]
      split <;> rfl

/-- Setting what a table holds changes nothing. -/
theorem set_of_get? {t : Table α} {name : String} {a : α} (h : t.get? name = some a) :
    t.set name a = t := by
  induction t with
  | nil => cases h
  | cons p rest ih =>
      rw [get?] at h
      rw [set]
      split
      · next heq =>
        rw [if_pos heq] at h
        cases h
        rfl
      · next hne =>
        rw [if_neg hne] at h
        rw [ih h]

/-- What a table holds does not depend on the order of its entries, if no name is held twice. -/
theorem get?_perm {t t' : Table α} (h : t.Perm t') (hkeys : t.keys.Nodup)
    (name : String) : t.get? name = t'.get? name := by
  have hkeys' : t'.keys.Nodup := (h.map _).nodup_iff.mp hkeys
  refine Option.ext fun a => ?_
  constructor
  · intro ha
    exact get?_of_mem hkeys' (h.mem_iff.mp (mem_of_get? ha))
  · intro ha
    exact get?_of_mem hkeys (h.mem_iff.mpr (mem_of_get? ha))

end Table

end Telemetry
