import Telemetry.Proofs.Table.Lookup
import Telemetry.Value

/-!
# Data, and when they are the same

Data are built from nothing, truth values, integers, doubles and texts by lists and by dictionaries
under texts. Two of them are the same if they differ in the order of entries at most, at any depth:
then they have the same items in the same order and the same values under the same names. Integers,
doubles and truth values are never the same as each other, even where they are equal in value.

Main statements: `Same.symm`, `Same.trans` and `Same.at?_eq_some` (what is the same is so at every
place).
-/

namespace Telemetry.Value

/-- Data. -/
inductive IsData : Value → Prop where
  | null : IsData .null
  | bool (b : Bool) : IsData (.bool b)
  | int (i : Int) : IsData (.int i)
  | float (x : Binary64) : IsData (.float x)
  | str (s : String) : IsData (.str s)
  | list {items : List Value} (h : ∀ v ∈ items, IsData v) : IsData (.list items)
  | dict {entries : Table Value} (hkeys : entries.keys.Nodup) (h : ∀ p ∈ entries, IsData p.2) :
    IsData (.dict entries)

@[simp] theorem isData_null : IsData .null := .null

@[simp] theorem isData_bool (b : Bool) : IsData (.bool b) := .bool b

@[simp] theorem isData_int (i : Int) : IsData (.int i) := .int i

@[simp] theorem isData_float (x : Binary64) : IsData (.float x) := .float x

@[simp] theorem isData_str (s : String) : IsData (.str s) := .str s

@[simp] theorem isData_list_iff {items : List Value} :
    IsData (.list items) ↔ ∀ v ∈ items, IsData v :=
  ⟨fun h => by cases h with | list h => exact h, .list⟩

@[simp] theorem isData_dict_iff {entries : Table Value} :
    IsData (.dict entries) ↔ entries.keys.Nodup ∧ ∀ p ∈ entries, IsData p.2 :=
  ⟨fun h => by cases h with | dict hkeys h => exact ⟨hkeys, h⟩, fun h => .dict h.1 h.2⟩

/-- The same but for the order of the entries of dictionaries. -/
inductive Same : Value → Value → Prop where
  | null : Same .null .null
  | bool (b : Bool) : Same (.bool b) (.bool b)
  | int (i : Int) : Same (.int i) (.int i)
  | float (x : Binary64) : Same (.float x) (.float x)
  | str (s : String) : Same (.str s) (.str s)
  | list {xs ys : List Value} (hlength : xs.length = ys.length)
    (h : ∀ i (hx : i < xs.length) (hy : i < ys.length), Same xs[i] ys[i]) :
    Same (.list xs) (.list ys)
  | dict {s t : Table Value} (hkeys : s.keys.Perm t.keys)
    (h : ∀ name v w, s.get? name = some v → t.get? name = some w → Same v w) :
    Same (.dict s) (.dict t)

theorem Same.symm {v w : Value} (h : Same v w) : Same w v := by
  induction h with
  | null => exact .null
  | bool b => exact .bool b
  | int i => exact .int i
  | float x => exact .float x
  | str s => exact .str s
  | list hlength _ ih => exact .list hlength.symm fun i hx hy => ih i hy hx
  | dict hkeys _ ih => exact .dict hkeys.symm fun name v w hv hw => ih name w v hw hv

theorem exists_get?_of_keys {s t : Table Value} (hkeys : s.keys.Perm t.keys) {name : String}
    {v : Value} (hv : s.get? name = some v) : ∃ w, t.get? name = some w := by
  have hmem : name ∈ t.keys := hkeys.subset (List.mem_map.mpr ⟨_, Table.mem_of_get? hv, rfl⟩)
  rw [← Table.contains_iff_mem_keys, Table.contains_eq_isSome] at hmem
  exact Option.isSome_iff_exists.mp hmem

theorem Same.trans {u v w : Value} (huv : Same u v) (hvw : Same v w) : Same u w := by
  induction huv generalizing w with
  | null | bool | int | float | str => exact hvw
  | list hlength _ ih =>
      cases hvw with
      | list hlength' h' =>
          refine .list (hlength.trans hlength') fun i hx hy => ?_
          exact ih i hx (hlength ▸ hx) (h' i (hlength ▸ hx) hy)
  | dict hkeys _ ih =>
      cases hvw with
      | dict hkeys' h' =>
          refine .dict (hkeys.trans hkeys') fun name u w hu hw => ?_
          obtain ⟨v, hv⟩ := exists_get?_of_keys hkeys hu
          exact ih name u v hu hv (h' name v w hv hw)

/-! ## Places -/

/-- A step to a place: an item of a list or what a dictionary holds under a name. -/
inductive Step where
  | index (i : Nat)
  | name (name : String)

/-- What is at a place. -/
def at? : Value → List Step → Option Value
  | v, [] => some v
  | .list items, .index i :: path => items[i]?.bind fun v => v.at? path
  | .dict entries, .name name :: path => (Table.get? entries name).bind fun v => v.at? path
  | _, _ :: _ => none

/-- Whether a value has no places within it. -/
def isLeaf : Value → Bool
  | .list _ | .dict _ | .assoc _ | .subtree _ => false
  | _ => true

theorem Same.eq_of_isLeaf {v w : Value} (h : Same v w) (hleaf : v.isLeaf = true) : w = v := by
  cases h with
  | null | bool | int | float | str => rfl
  | list | dict => cases hleaf

/-- **What is the same has the same leaves at the same places.** -/
theorem Same.at?_eq_some {v w : Value} (h : Same v w) {path : List Step} {leaf : Value}
    (hat : v.at? path = some leaf) (hleaf : leaf.isLeaf = true) : w.at? path = some leaf := by
  induction path generalizing v w with
  | nil =>
      rw [at?] at hat ⊢
      cases hat
      rw [h.eq_of_isLeaf hleaf]
  | cons step path ih =>
      cases h with
      | null | bool | int | float | str => cases step <;> cases hat
      | list hlength h =>
          cases step with
          | name name => cases hat
          | index i =>
              rw [at?] at hat ⊢
              obtain ⟨x, hx, hat⟩ := Option.bind_eq_some_iff.mp hat
              obtain ⟨hi, rfl⟩ := List.getElem?_eq_some_iff.mp hx
              rw [List.getElem?_eq_getElem (hlength ▸ hi)]
              exact ih (h i hi (hlength ▸ hi)) hat
      | dict hkeys h =>
          cases step with
          | index i => cases hat
          | name name =>
              rw [at?] at hat ⊢
              obtain ⟨x, hx, hat⟩ := Option.bind_eq_some_iff.mp hat
              obtain ⟨y, hy⟩ := exists_get?_of_keys hkeys hx
              rw [hy]
              exact ih (h name x y hx hy) hat

end Telemetry.Value
