import Telemetry.Proofs.Store.Action
import Telemetry.Proofs.Table.Lookup

/-!
# Snapshots of a store

A snapshot comes to named metrics one after another and reads each of them once. A reading may
change what the next one gives, so every metric is looked at in the store in which the snapshot comes
to it: this is a visit. What a metric contributes is what its own operations answer there.

Main statements: `mem_entries_iff` and `keys_entries` (what one metric contributes),
`snapshot_of_readable` and `snapshot_eq_error_iff` (what becomes of the whole).
-/

namespace Telemetry

/-! ## What a metric contributes -/

/-- The keys under which a metric of a name stands in a snapshot. -/
def Metric.keys (name : String) : Metric → List String
  | meter _ _ => [name ++ ".count", name ++ ".rate"]
  | counter _ | gaugeCounter _ | settable _ | function _ => [name]
  | view _ _ | marker | updater _ | registry _ => []

theorem Metric.Becomes.keys {m m' : Metric} (h : m.Becomes m') (name : String) :
    m'.keys name = m.keys name := by
  cases h <;> rfl

namespace Store

/-- A named metric, in the store in which a snapshot comes to it. -/
structure Visit where
  store : Store
  name : String
  ref : Ref

namespace Visit

/-- The entries that are read, or why they cannot be. -/
def entries (v : Visit) : Except Fault (Table Value) := (v.store.readings v.name v.ref).1

/-- The entries that are read, if they can be. -/
def given (v : Visit) : Table Value := v.entries.toOption.getD []

/-- What the operations of a metric answer, under the key that belongs to each of them. An operation
that the metric does not have answers nothing. -/
inductive Gives (v : Visit) : String → Value → Prop where
  | counter {n : Number} (h : (v.store.count v.ref).1 = .ok n) : Gives v v.name n.value
  | gauge {x : Value} (h : (v.store.value v.ref).1 = .ok x) : Gives v v.name x
  | count {n : Number} (h : (v.store.meterCount v.ref).1 = .ok n) :
      Gives v (v.name ++ ".count") n.value
  | rate {x : Binary64} (h : v.store.meterRate v.ref = .ok x) :
      Gives v (v.name ++ ".rate") (.float x)

end Visit

/-! ### Which metrics answer -/

theorem get?_of_count {s : Store} {r : Ref} {n : Number} (h : (s.count r).1 = .ok n) :
    (∃ count, s.get? r = some (.counter count)) ∨ ∃ gauge, s.get? r = some (.gaugeCounter gauge) := by
  unfold count at h
  split at h
  · next count hm => exact .inl ⟨count, hm⟩
  · next gauge hm => exact .inr ⟨gauge, hm⟩
  · cases h

theorem get?_of_value {s : Store} {r : Ref} {x : Value} (h : (s.value r).1 = .ok x) :
    (∃ held, s.get? r = some (.settable held)) ∨ ∃ source, s.get? r = some (.function source) := by
  unfold value at h
  split at h
  · next held hm => exact .inl ⟨held, hm⟩
  · next source hm => exact .inr ⟨source, hm⟩
  · cases h

theorem get?_of_meterCount {s : Store} {r : Ref} {n : Number} (h : (s.meterCount r).1 = .ok n) :
    ∃ counter window, s.get? r = some (.meter counter window) ∧ (s.count counter).1 = .ok n := by
  unfold meterCount at h
  split at h
  · next counter window hm => exact ⟨counter, window, hm, h⟩
  · cases h

theorem get?_of_meterRate {s : Store} {r : Ref} {x : Binary64} (h : s.meterRate r = .ok x) :
    ∃ counter window, s.get? r = some (.meter counter window) ∧ window.rate = x := by
  unfold meterRate at h
  split at h
  · next counter window hm =>
    cases h
    exact ⟨counter, window, hm, rfl⟩
  · cases h

/-! ### The entries of a metric -/

/-- **A metric contributes what its own operations answer**: a counter its count, a gauge its value,
a meter its count and its rate, and anything else nothing. -/
theorem mem_entries_iff {v : Visit} {t : Table Value} (h : v.entries = .ok t) {key : String}
    {x : Value} : (key, x) ∈ t ↔ v.Gives key x := by
  unfold Visit.entries readings at h
  constructor
  · intro hmem
    split at h
    · next counter window hm =>
      obtain ⟨n, hn, h⟩ := Fault.bind_eq_ok.mp h
      cases h
      rw [List.mem_cons, List.mem_singleton] at hmem
      rcases hmem with heq | heq
      · cases heq
        refine .count ?_
        rw [meterCount, hm]
        exact hn
      · cases heq
        refine .rate ?_
        rw [meterRate, hm]
    · obtain ⟨n, hn, h⟩ := Fault.bind_eq_ok.mp h
      cases h
      cases List.mem_singleton.mp hmem
      exact .counter hn
    · obtain ⟨n, hn, h⟩ := Fault.bind_eq_ok.mp h
      cases h
      cases List.mem_singleton.mp hmem
      exact .counter hn
    · obtain ⟨x, hx, h⟩ := Fault.bind_eq_ok.mp h
      cases h
      cases List.mem_singleton.mp hmem
      exact .gauge hx
    · obtain ⟨x, hx, h⟩ := Fault.bind_eq_ok.mp h
      cases h
      cases List.mem_singleton.mp hmem
      exact .gauge hx
    · cases h
      cases hmem
  · intro hgives
    cases hgives with
    | counter hn =>
        rcases get?_of_count hn with ⟨count, hm⟩ | ⟨gauge, hm⟩
        · simp only [hm, hn] at h
          cases h
          exact List.mem_singleton_self _
        · simp only [hm, hn] at h
          cases h
          exact List.mem_singleton_self _
    | gauge hx =>
        rcases get?_of_value hx with ⟨held, hm⟩ | ⟨source, hm⟩
        · simp only [hm, hx] at h
          cases h
          exact List.mem_singleton_self _
        · simp only [hm, hx] at h
          cases h
          exact List.mem_singleton_self _
    | count hn =>
        obtain ⟨counter, window, hm, hn⟩ := get?_of_meterCount hn
        simp only [hm, hn] at h
        cases h
        exact List.mem_cons_self
    | rate hx =>
        obtain ⟨counter, window, hm, rfl⟩ := get?_of_meterRate hx
        simp only [hm] at h
        obtain ⟨n, -, h⟩ := Fault.bind_eq_ok.mp h
        cases h
        exact List.mem_cons_of_mem _ (List.mem_singleton_self _)

theorem keys_entries {v : Visit} {m : Metric} (hm : v.store.get? v.ref = some m) {t : Table Value}
    (h : v.entries = .ok t) : t.keys = m.keys v.name := by
  unfold Visit.entries readings at h
  rw [hm] at h
  cases m with
  | view | marker | updater | registry =>
      cases h
      rfl
  | counter | gaugeCounter | settable | function | meter =>
      obtain ⟨answer, -, h⟩ := Fault.bind_eq_ok.mp h
      cases h
      rfl

theorem Visit.given_of_ok {v : Visit} {t : Table Value} (h : v.entries = .ok t) : v.given = t := by
  rw [given, h]
  rfl

theorem Visit.entries_of_readable {v : Visit} (h : v.entries.isOk = true) :
    v.entries = .ok v.given := by
  cases hread : v.entries with
  | error fault =>
      rw [hread] at h
      cases h
  | ok t => rw [given_of_ok hread]

/-! ## The way of a snapshot -/

theorem reachesBy_readings {P : Action → Prop} (hread : ∀ a, a.isRead = true → P a) (s : Store)
    (name : String) (r : Ref) : s.ReachesBy P (s.readings name r).2 := by
  unfold readings
  split
  · exact s.reachesBy_act (hread (.count _) rfl)
  · exact s.reachesBy_act (hread (.count r) rfl)
  · exact s.reachesBy_act (hread (.count r) rfl)
  · exact s.reachesBy_act (hread (.value r) rfl)
  · exact s.reachesBy_act (hread (.value r) rfl)
  · exact .refl s

theorem reaches_readings (s : Store) (name : String) (r : Ref) :
    s.Reaches (s.readings name r).2 :=
  (reachesBy_readings (fun _ ha => ha) s name r).reaches

theorem reachesBy_snapshotFrom {P : Action → Prop} (hread : ∀ a, a.isRead = true → P a)
    (values : Table Value) (named : List (String × Ref)) (s : Store) :
    s.ReachesBy P (snapshotFrom values named s).2 := by
  induction named generalizing values s with
  | nil => exact .refl s
  | cons entry rest ih =>
      have hentry := reachesBy_readings hread s entry.1 entry.2
      rw [snapshotFrom]
      split
      · next fault t hresult =>
        rw [hresult] at hentry
        exact hentry
      · next entries t hresult =>
        rw [hresult] at hentry
        exact hentry.trans (ih _ t)

/-- The metrics that a snapshot comes to, in order. -/
def visits : List (String × Ref) → Store → List Visit
  | [], _ => []
  | (name, r) :: rest, s => ⟨s, name, r⟩ :: visits rest (s.readings name r).2

theorem map_visits (named : List (String × Ref)) (s : Store) :
    (visits named s).map (fun v => (v.name, v.ref)) = named := by
  induction named generalizing s with
  | nil => rfl
  | cons entry rest ih => rw [visits, List.map_cons, ih]

/-- What the metrics are does not change on the way. -/
theorem grows_of_mem_visits {named : List (String × Ref)} {s : Store} {v : Visit}
    (h : v ∈ visits named s) : s.Grows v.store := by
  induction named generalizing s with
  | nil => cases h
  | cons entry rest ih =>
      rw [visits] at h
      rcases List.mem_cons.mp h with rfl | hrest
      · exact .refl s
      · exact (s.reaches_readings entry.1 entry.2).grows.trans (ih hrest)

/-! ## What becomes of a snapshot -/

theorem snapshotFrom_cons_of_ok {entry : String × Ref} {s : Store} {t : Table Value}
    (h : (Visit.mk s entry.1 entry.2).entries = .ok t) (values : Table Value)
    (rest : List (String × Ref)) :
    snapshotFrom values (entry :: rest) s =
      snapshotFrom (t.foldl (fun t p => t.set p.1 p.2) values) rest
        (s.readings entry.1 entry.2).2 := by
  unfold Visit.entries at h
  rw [snapshotFrom]
  cases hread : s.readings entry.1 entry.2 with
  | mk result after =>
      rw [hread] at h
      subst h
      rfl

theorem snapshotFrom_cons_of_error {entry : String × Ref} {s : Store} {fault : Fault}
    (h : (Visit.mk s entry.1 entry.2).entries = .error fault) (values : Table Value)
    (rest : List (String × Ref)) :
    (snapshotFrom values (entry :: rest) s).1 = .error fault := by
  unfold Visit.entries at h
  rw [snapshotFrom]
  cases hread : s.readings entry.1 entry.2 with
  | mk result after =>
      rw [hread] at h
      subst h
      rfl

theorem snapshotFrom_fst (values : Table Value) (named : List (String × Ref)) (s : Store) :
    (snapshotFrom values named s).1 = ((visits named s).findSome? (Fault.of? ·.entries)).elim
      (.ok (((visits named s).flatMap Visit.given).foldl (fun t p => t.set p.1 p.2) values))
      .error := by
  induction named generalizing values s with
  | nil => rfl
  | cons entry rest ih =>
      cases hread : (Visit.mk s entry.1 entry.2).entries with
      | error fault =>
          rw [snapshotFrom_cons_of_error hread, visits, List.findSome?_cons,
            Fault.of?_eq_some_iff.mpr hread]
          rfl
      | ok t =>
          have hnone : Fault.of? (Visit.mk s entry.1 entry.2).entries = none := by
            rw [Fault.of?_eq_none_iff, hread]
            rfl
          rw [snapshotFrom_cons_of_ok hread, ih, visits, List.findSome?_cons, hnone,
            List.flatMap_cons, List.foldl_append, Visit.given_of_ok hread]

/-- Each of these metrics can be read when a snapshot comes to it. -/
def Readable (s : Store) (named : Table Ref) : Prop :=
  ∀ v ∈ visits named s, v.entries.isOk = true

instance (s : Store) (named : Table Ref) : Decidable (s.Readable named) :=
  inferInstanceAs (Decidable (∀ v ∈ visits named s, _))

/-- **If all metrics can be read, a snapshot is the table of what they contribute**, in the order in
which it comes to them. -/
theorem snapshot_of_readable {named : Table Ref} {s : Store} (h : s.Readable named) :
    (s.snapshot named).1 = .ok (Table.ofPairs ((visits named s).flatMap Visit.given)) := by
  have hnone : (visits named s).findSome? (Fault.of? ·.entries) = none := by
    rw [List.findSome?_eq_none_iff]
    exact fun v hv => Fault.of?_eq_none_iff.mpr (h v hv)
  rw [snapshot, snapshotFrom_fst, hnone]
  rfl

theorem isOk_snapshot_iff {named : Table Ref} {s : Store} :
    (s.snapshot named).1.isOk = true ↔ s.Readable named := by
  constructor
  · intro h
    rw [snapshot, snapshotFrom_fst] at h
    cases hfirst : (visits named s).findSome? (Fault.of? ·.entries) with
    | some fault =>
        rw [hfirst] at h
        cases h
    | none =>
        intro v hv
        exact Fault.of?_eq_none_iff.mp (List.findSome?_eq_none_iff.mp hfirst v hv)
  · intro h
    rw [snapshot_of_readable h]
    rfl

/-- **A snapshot fails with the first metric that cannot be read**, whatever comes after it. -/
theorem snapshot_eq_error_iff {named : Table Ref} {s : Store} {fault : Fault} :
    (s.snapshot named).1 = .error fault ↔
      ∃ before v behind, visits named s = before ++ v :: behind ∧ v.entries = .error fault ∧
        ∀ u ∈ before, u.entries.isOk = true := by
  have hfirst := List.findSome?_eq_some_iff (f := fun v : Visit => Fault.of? v.entries)
    (l := visits named s) (b := fault)
  simp only [Fault.of?_eq_some_iff, Fault.of?_eq_none_iff] at hfirst
  rw [← hfirst, snapshot, snapshotFrom_fst]
  cases (visits named s).findSome? (Fault.of? ·.entries) <;> simp

end Store

end Telemetry
