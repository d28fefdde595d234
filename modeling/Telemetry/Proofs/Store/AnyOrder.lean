import Telemetry.Proofs.Store.Alike
import Telemetry.Proofs.Store.Snapshot

/-!
# Samples and snapshots in any order

Sampling a view changes that view and calls the functions that are read for it. If these always give
the same answer, the calls cannot be noticed, and what is left is the change of one view: it depends
on counters and gauges alone, which no sample changes. So samples commute, also those of views that
share a counter and those that fail. Snapshots read, and so what each metric contributes does not
depend on those before it.

Main statements: `sampled_right_comm` (two samples commute), `Steady.alike_sample` (a sample in a
steady store) and `snapshot_perm` (a snapshot of the same names in another order).
-/

namespace Telemetry

namespace Store

/-! ## Samples -/

/-- The store after a sample of a view, but for the calls of functions. -/
def sampled (s : Store) (r : Ref) : Store :=
  match s.get? r with
  | some (.meter counter window) =>
    s.set r (.meter counter (window.attempt (s.count counter).1).2)
  | some (.view failure calls) => s.set r (.view failure (calls + 1))
  | _ => s

theorem set_comm (s : Store) {a b : Ref} (h : a ≠ b) (x y : Metric) :
    (s.set a x).set b y = (s.set b y).set a x := by
  have hmetrics : (s.metrics.setIfInBounds a x).setIfInBounds b y =
      (s.metrics.setIfInBounds b y).setIfInBounds a x := by
    refine Array.ext_getElem? fun i => ?_
    simp only [Array.getElem?_setIfInBounds, Array.size_setIfInBounds]
    by_cases ha : a = i
    · subst ha
      simp [h.symm]
    · simp [ha]
  rw [Store.set, Store.set, Store.set, Store.set, hmetrics]

/-- A sample sets the view to another state of it, or it does nothing. -/
theorem sampled_cases (s : Store) (r : Ref) :
    s.sampled r = s ∨ ∃ m m', s.get? r = some m ∧ m.isView = true ∧ m.Becomes m' ∧
      s.sampled r = s.set r m' := by
  unfold sampled
  split
  · next counter window h =>
    exact .inr ⟨_, _, h, rfl, .meter counter (window.panes_attempt _) (window.interval_attempt _), rfl⟩
  · next failure calls h => exact .inr ⟨_, _, h, rfl, .view failure (Nat.le_succ calls), rfl⟩
  · exact .inl rfl

theorem get?_sampled_of_ne (s : Store) {a b : Ref} (h : a ≠ b) :
    (s.sampled a).get? b = s.get? b := by
  rcases s.sampled_cases a with hsame | ⟨m, m', -, -, -, hset⟩
  · rw [hsame]
  · rw [hset, get?_set, if_neg h]

/-- Gauges are not views. -/
theorem value_sampled (s : Store) (a r : Ref) :
    ((s.sampled a).value r).1 = (s.value r).1 := by
  rcases s.sampled_cases a with hsame | ⟨m, m', hm, hview, hbecomes, hset⟩
  · rw [hsame]
  · rw [hset]
    by_cases h : a = r
    · subst h
      have hget : (s.set a m').get? a = some m' := by rw [get?_set, if_pos rfl, hm]; rfl
      simp only [value, hm, hget, noOperation]
      cases hbecomes <;> first | rfl | cases hview
    · have hget : (s.set a m').get? r = s.get? r := by rw [get?_set, if_neg h]
      simp only [value, hget, noOperation, callSource_eq]
      split <;> rfl

/-- **What a counter answers does not depend on samples of views.** -/
theorem count_sampled (s : Store) (a r : Ref) : ((s.sampled a).count r).1 = (s.count r).1 := by
  have hvalue := s.value_sampled a
  rcases s.sampled_cases a with hsame | ⟨m, m', hm, hview, hbecomes, hset⟩
  · rw [hsame]
  · rw [hset] at hvalue ⊢
    by_cases h : a = r
    · subst h
      have hget : (s.set a m').get? a = some m' := by rw [get?_set, if_pos rfl, hm]; rfl
      simp only [count, hm, hget, noOperation]
      cases hbecomes <;> first | rfl | cases hview
    · have hget : (s.set a m').get? r = s.get? r := by rw [get?_set, if_neg h]
      simp only [count, hget, noOperation]
      split
      · rfl
      · next gauge _ => simp only [hvalue gauge]
      · rfl

/-- **Two samples commute.** -/
theorem sampled_right_comm (s : Store) (a b : Ref) :
    (s.sampled a).sampled b = (s.sampled b).sampled a := by
  by_cases h : a = b
  · rw [h]
  · have hb := s.get?_sampled_of_ne h
    have ha := s.get?_sampled_of_ne (Ne.symm h)
    have hcounts (r c : Ref) := s.count_sampled r c
    rw [sampled.eq_def (s.sampled a), sampled.eq_def (s.sampled b), hb, ha]
    simp only [hcounts]
    -- each of the two is set to what it would have become alone
    unfold sampled
    cases s.get? a with
    | none => cases s.get? b with
      | none => rfl
      | some n => cases n <;> rfl
    | some m => cases s.get? b with
      | none => cases m <;> rfl
      | some n =>
          cases m with
          | meter | view =>
              cases n with
              | meter | view => exact s.set_comm h _ _
              | _ => rfl
          | _ => cases n <;> rfl

instance : RightCommutative sampled := ⟨sampled_right_comm⟩

theorem alike_sampled {s t : Store} (h : s.Alike t) (r : Ref) :
    (s.sampled r).Alike (t.sampled r) := by
  rcases h.metrics r with ⟨hs, ht⟩ | ⟨m, m', hs, ht, hm⟩
  · simp only [sampled, hs, ht]
    exact h
  · simp only [sampled, hs, ht]
    cases hm with
    | function => exact h
    | same =>
        cases m with
        | meter counter window =>
            dsimp only
            rw [(alike_count h counter).1]
            exact h.set r (.same _)
        | view failure calls => exact h.set r (.same _)
        | _ => exact h

theorem Steady.sampled {s : Store} (h : s.Steady) (r : Ref) : (s.sampled r).Steady := by
  rcases s.sampled_cases r with hsame | ⟨m, m', -, hview, hbecomes, hset⟩
  · rw [hsame]
    exact h
  · rw [hset]
    refine h.set r fun source hm => ?_
    subst hm
    cases hbecomes
    cases hview

/-- **Of a sample in a steady store only the change of the view can be noticed.** -/
theorem Steady.alike_sample {s : Store} (h : s.Steady) (r : Ref) :
    (s.sample r).2.Alike (s.sampled r) := by
  cases hr : s.get? r with
  | none =>
      simp only [Store.sample, Store.sampled, hr]
      exact .refl s
  | some m =>
      simp only [Store.sample, Store.sampled, hr]
      cases m with
      | meter counter window =>
          have hread := h.alike_count counter
          dsimp only
          cases hcount : s.count counter with
          | mk answer after =>
              rw [hcount] at hread
              cases answer with
              | error fault => exact hread.trans (alike_set_self hr (.same _)).symm
              | ok reading => exact hread.set r (.same _)
      | _ => exact .refl _

/-! ## Snapshots -/

theorem Steady.alike_readings {s : Store} (h : s.Steady) (name : String) (r : Ref) :
    (s.readings name r).2.Alike s := by
  obtain ⟨actions, hread, hrun⟩ := reachesBy_readings (P := (·.isRead = true)) (fun _ ha => ha) s name r
  rw [hrun]
  exact h.alike_run hread

/-- A snapshot comes to every metric in a store that is alike. -/
theorem Steady.alike_of_mem_visits {s : Store} (h : s.Steady) {named : List (String × Ref)}
    {v : Visit} (hv : v ∈ visits named s) : v.store.Alike s := by
  induction named generalizing s with
  | nil => cases hv
  | cons entry rest ih =>
      have hentry := h.alike_readings entry.1 entry.2
      rw [visits] at hv
      rcases List.mem_cons.mp hv with rfl | hrest
      · exact .refl _
      · exact (ih (h.of_alike hentry.symm) hrest).trans hentry

/-- What a named metric contributes to a snapshot if it comes to it at once. -/
def atOnce (s : Store) (p : String × Ref) : Visit := ⟨s, p.1, p.2⟩

theorem entries_atOnce {s t : Store} (h : s.Alike t) (p : String × Ref) :
    (s.atOnce p).entries = (t.atOnce p).entries := (Store.alike_readings h p.1 p.2).1

/-- In a steady store every metric contributes what it would contribute at once. -/
theorem Steady.map_entries {s : Store} (h : s.Steady) (named : List (String × Ref)) :
    (visits named s).map Visit.entries = named.map fun p => (s.atOnce p).entries := by
  conv_rhs => rw [← map_visits named s, List.map_map]
  refine List.map_congr_left fun v hv => ?_
  exact entries_atOnce (h.alike_of_mem_visits hv) (v.name, v.ref)

theorem Steady.readable_iff {s : Store} (h : s.Steady) (named : Table Ref) :
    s.Readable named ↔ ∀ p ∈ named, (s.atOnce p).entries.isOk = true := by
  have hentries := h.map_entries named
  constructor
  · intro hread p hp
    have hmem : (s.atOnce p).entries ∈ (visits named s).map Visit.entries := by
      rw [hentries]
      exact List.mem_map.mpr ⟨p, hp, rfl⟩
    obtain ⟨v, hv, heq⟩ := List.mem_map.mp hmem
    rw [← heq]
    exact hread v hv
  · intro hread v hv
    have hmem : v.entries ∈ named.map fun p => (s.atOnce p).entries := by
      rw [← hentries]
      exact List.mem_map_of_mem hv
    obtain ⟨p, hp, heq⟩ := List.mem_map.mp hmem
    rw [← heq]
    exact hread p hp

theorem Steady.given_visits {s : Store} (h : s.Steady) (named : List (String × Ref)) :
    (visits named s).flatMap Visit.given = named.flatMap fun p => (s.atOnce p).given := by
  have hmap := congrArg (List.flatMap fun e => e.toOption.getD []) (h.map_entries named)
  rw [List.flatMap_map, List.flatMap_map] at hmap
  exact hmap

/-- **A snapshot of the same names in another order**, in a steady store that is alike: both fail, or
both hold the same under every key, if no key comes up twice. -/
theorem snapshot_perm {s t : Store} (h : s.Alike t) (hs : s.Steady) {named named' : Table Ref}
    (hperm : named.Perm named')
    (hkeys : s.Readable named → (Table.keys ((visits named s).flatMap Visit.given)).Nodup) :
    (s.snapshot named).1.isOk = false ∧ (t.snapshot named').1.isOk = false ∨
      ∃ values values', (s.snapshot named).1 = .ok values ∧ (t.snapshot named').1 = .ok values' ∧
        ∀ key, values.get? key = values'.get? key := by
  have ht := hs.of_alike h
  have hiff : s.Readable named ↔ t.Readable named' := by
    rw [hs.readable_iff, ht.readable_iff]
    constructor
    · intro hread p hp
      rw [← entries_atOnce h]
      exact hread p (hperm.mem_iff.mpr hp)
    · intro hread p hp
      rw [entries_atOnce h]
      exact hread p (hperm.mem_iff.mp hp)
  by_cases hread : s.Readable named
  · right
    have hread' := hiff.mp hread
    have hnodup := hkeys hread
    have hgiven : ((visits named s).flatMap Visit.given).Perm
        ((visits named' t).flatMap Visit.given) := by
      rw [hs.given_visits, ht.given_visits]
      have hsame : (fun p => (s.atOnce p).given) = fun p => (t.atOnce p).given := by
        funext p
        rw [Visit.given, Visit.given, entries_atOnce h]
      rw [hsame]
      exact hperm.flatMap_right _
    have hnodup' := ((hgiven.map Prod.fst).nodup_iff).mp hnodup
    refine ⟨_, _, snapshot_of_readable hread, snapshot_of_readable hread', fun key => ?_⟩
    rw [Table.ofPairs_of_nodup hnodup, Table.ofPairs_of_nodup hnodup']
    exact Table.get?_perm hgiven hnodup key
  · left
    have hread' : ¬t.Readable named' := fun h => hread (hiff.mpr h)
    rw [← isOk_snapshot_iff, Bool.not_eq_true] at hread hread'
    exact ⟨hread, hread'⟩

end Store

end Telemetry
