import Mathlib.Data.String.Basic
import Telemetry.Proofs.Sorting.Order
import Telemetry.Value.Mapping

/-!
# Tables in order

The pairs of a table are sorted as pairs, so that two of them with one key would have to compare what
stands under it, and that fails. A table whose names are different has no such pairs: a pair shares its
name with itself alone, and is not before itself. Such a table is sorted by its names, whatever stands
under them and in whatever order it is.

Main statements: `sorted_congr_of_perm` (there is one order) and `sorted_ofTable` (sorting pairs leads
to it and never fails).
-/

namespace Telemetry

namespace Table

variable {α : Type} {t : Table α}

theorem perm_sorted (t : Table α) : t.sorted.Perm t := List.mergeSort_perm t _

theorem nodup_keys_sorted (hkeys : t.keys.Nodup) : t.sorted.keys.Nodup :=
  (t.perm_sorted.map Prod.fst).nodup_iff.mpr hkeys

theorem pairwise_sorted (t : Table α) : t.sorted.Pairwise fun p q => p.1 ≤ q.1 :=
  Sorting.pairwise_mergeSort_key Prod.fst t

/-- There is one order of a table whose names are different. -/
theorem eq_sorted_of_perm {u : Table α} (hkeys : t.keys.Nodup) (h : u.Perm t)
    (hordered : u.Pairwise fun p q => p.1 ≤ q.1) : u = t.sorted := by
  refine (h.trans t.perm_sorted.symm).eq_of_pairwise ?_ hordered t.pairwise_sorted
  intro p q hp hq hpq hqp
  exact List.inj_on_of_nodup_map hkeys (h.subset hp) (t.perm_sorted.subset hq)
    (le_antisymm hpq hqp)

/-- **A table with different keys is sorted alike, in whatever order it is.** -/
theorem sorted_congr_of_perm {u : Table α} (hkeys : t.keys.Nodup) (h : u.Perm t) :
    u.sorted = t.sorted :=
  eq_sorted_of_perm hkeys (u.perm_sorted.trans h) u.pairwise_sorted

end Table

namespace Entries

variable {α : Type} {t : Table α}

/-- The name that a pair at its place stands under. -/
def nameAt (p : (Value × α) × ℕ) : String := p.1.1.text

theorem exists_of_mem_zipIdx {p : (Value × α) × ℕ} (hp : p ∈ (ofTable t).zipIdx) :
    ∃ q, t[p.2]? = some q ∧ p.1 = (.str q.1, q.2) := by
  have hat := List.mem_zipIdx_iff_getElem?.mp hp
  rw [ofTable, List.getElem?_map] at hat
  obtain ⟨q, hq, hpair⟩ := Option.map_eq_some_iff.mp hat
  exact ⟨q, hq, hpair.symm⟩

/-- If names are different, each has one place. -/
theorem eq_of_nameAt_eq (hkeys : t.keys.Nodup) {p q : (Value × α) × ℕ} (hp : p ∈ (ofTable t).zipIdx)
    (hq : q ∈ (ofTable t).zipIdx) (hname : nameAt p = nameAt q) : p = q := by
  obtain ⟨a, hi, ha⟩ := exists_of_mem_zipIdx hp
  obtain ⟨b, hj, hb⟩ := exists_of_mem_zipIdx hq
  rw [nameAt, nameAt, ha, hb] at hname
  have hboth : t.keys[p.2]? = t.keys[q.2]? := by
    rw [Table.keys, List.getElem?_map, List.getElem?_map, hi, hj]
    exact congrArg some hname
  have hlt : p.2 < t.keys.length := by
    rw [Table.keys, List.length_map]
    exact (List.getElem?_eq_some_iff.mp hi).1
  have hplace : p.2 = q.2 := (List.getElem?_inj hlt hkeys).mp hboth
  rw [hplace, hj] at hi
  cases hi
  exact Prod.ext (ha.trans hb.symm) hplace

/-- **Pairs under different names compare by their names**: what stands there is never compared. -/
theorem byKey_pairLess (hkeys : t.keys.Nodup) :
    Sorting.ByKey nameAt (· ∈ (ofTable t).zipIdx) pairLess := by
  intro p q hp hq
  by_cases hsame : p = q
  · subst hsame
    obtain ⟨a, -, ha⟩ := exists_of_mem_zipIdx hp
    simp [pairLess, Value.sameKey, ha]
  · have hname : nameAt p ≠ nameAt q := fun hname => hsame (eq_of_nameAt_eq hkeys hp hq hname)
    obtain ⟨a, -, ha⟩ := exists_of_mem_zipIdx hp
    obtain ⟨b, -, hb⟩ := exists_of_mem_zipIdx hq
    rw [nameAt, nameAt, ha, hb] at hname
    have hkey : a.1 ≠ b.1 := hname
    simp [pairLess, Value.sameKey, Value.keyLess, nameAt, Value.text, ha, hb, hkey]

/-- **A table whose names are different is sorted by them**, and nothing fails. -/
theorem sorted_ofTable (hkeys : t.keys.Nodup) : (ofTable t).sorted = .ok (ofTable t.sorted) := by
  have hsort := Sorting.sort_eq_mergeSort (byKey_pairLess hkeys) (fun _ hp => hp) fun p hp q hq =>
    eq_of_nameAt_eq hkeys hp hq
  rw [sorted, hsort, Fault.ok_bind]
  refine congrArg Except.ok ?_
  -- with their places or without, pairs are in one order
  let byName := fun p q : Value × α => decide (p.1.text ≤ q.1.text)
  calc ((ofTable t).zipIdx.mergeSort fun p q => decide (nameAt p ≤ nameAt q)).map (·.1)
    _ = ((ofTable t).zipIdx.map (·.1)).mergeSort byName := List.map_mergeSort fun _ _ _ _ => rfl
    _ = (ofTable t).mergeSort byName := by rw [List.zipIdx_map_fst]
    _ = ofTable t.sorted := by
      rw [ofTable, ofTable, Table.sorted]
      symm
      apply List.map_mergeSort
      intro p _ q _
      rfl

end Entries

end Telemetry
