import Telemetry.Proofs.Store.AnyOrder

/-!
# Metrics that repeat themselves

A metric may be read again and again, and it may be that it gives the same each time. If it does when
nothing else happens, it does whatever else is read: all that reading does is to call the function of
some gauge, and the metric follows one gauge at most. So either somebody calls that gauge, and this is
what the metric would have done itself, or the metric cannot tell. New metrics cannot be noticed
either. A snapshot of metrics that repeat themselves therefore holds what each of them gives, whoever
has read what before.

Main statements: `Repeats.reads` and `Repeats.adds` (what a metric cannot notice) and
`snapshot_of_repeats`.
-/

namespace Telemetry

namespace Store

/-! ## Calling a gauge -/

/-- The store after a call of the function of a gauge. Nothing else is called. -/
def called (s : Store) (gauge : Ref) : Store :=
  match s.get? gauge with
  | some (.function source) => s.set gauge (.function source.next)
  | _ => s

theorem called_of_function {s : Store} {gauge : Ref} {source : Source}
    (h : s.get? gauge = some (.function source)) :
    s.called gauge = s.set gauge (.function source.next) := by
  rw [called, h]

theorem called_of_other {s : Store} {gauge : Ref}
    (h : ∀ source, s.get? gauge ≠ some (.function source)) : s.called gauge = s := by
  unfold called
  split
  · next source hsource => exact absurd hsource (h source)
  · rfl

theorem backlogs_called (s : Store) (gauge : Ref) : (s.called gauge).backlogs = s.backlogs := by
  unfold called
  split <;> rfl

/-- A call changes one gauge. -/
theorem get?_called_of_ne (s : Store) {gauge r : Ref} (h : gauge ≠ r) :
    (s.called gauge).get? r = s.get? r := by
  unfold called
  split
  · rw [get?_set, if_neg h]
  · rfl

/-- What is no function gauge is not changed by a call. -/
theorem get?_called_of_other (s : Store) (gauge : Ref) {r : Ref}
    (h : ∀ source, s.get? r ≠ some (.function source)) : (s.called gauge).get? r = s.get? r := by
  by_cases hr : gauge = r
  · subst hr
    rw [called_of_other h]
  · exact s.get?_called_of_ne hr

/-- A function gauge stays one. -/
theorem get?_called_of_function {s : Store} (gauge : Ref) {r : Ref} {source : Source}
    (h : s.get? r = some (.function source)) :
    ∃ next, (s.called gauge).get? r = some (.function next) := by
  by_cases hr : gauge = r
  · subst hr
    rw [called_of_function h, get?_set, if_pos rfl, h]
    exact ⟨source.next, rfl⟩
  · rw [s.get?_called_of_ne hr]
    exact ⟨source, h⟩

theorem typeName_called (s : Store) (gauge r : Ref) :
    ((s.called gauge).get? r).map Metric.typeName = (s.get? r).map Metric.typeName := by
  by_cases hfunction : ∃ source, s.get? r = some (.function source)
  · obtain ⟨source, h⟩ := hfunction
    obtain ⟨next, hnext⟩ := get?_called_of_function gauge h
    rw [h, hnext]
    rfl
  · rw [s.get?_called_of_other gauge fun source h => hfunction ⟨source, h⟩]

theorem noOperation_called (s : Store) (gauge r : Ref) (operation : String) :
    (s.called gauge).noOperation r operation = s.noOperation r operation := by
  rw [noOperation, noOperation, typeName_called]

theorem called_comm (s : Store) (a b : Ref) :
    (s.called a).called b = (s.called b).called a := by
  by_cases hab : a = b
  · rw [hab]
  · have ha := s.get?_called_of_ne (Ne.symm hab)
    have hb := s.get?_called_of_ne hab
    rw [called.eq_def (s.called a), called.eq_def (s.called b), ha, hb]
    unfold called
    cases s.get? a with
    | none => cases s.get? b with
      | none => rfl
      | some n => cases n <;> rfl
    | some m => cases s.get? b with
      | none => cases m <;> rfl
      | some n =>
          cases m with
          | function => cases n with
            | function => exact s.set_comm hab _ _
            | _ => rfl
          | _ => cases n <;> rfl

/-! ## What reading calls -/

/-- A reading calls no gauge and cannot tell whether one was called, or it calls one and cannot tell
whether another one was. -/
inductive Calls {α : Type} (read : Store → α × Store) (s : Store) : Prop where
  | none (answer : α) (hs : read s = (answer, s))
      (hcalled : ∀ gauge, read (s.called gauge) = (answer, s.called gauge))
  | one (gauge : Ref) (answer : α) (hs : read s = (answer, s.called gauge))
      (hcalled : ∀ other, other ≠ gauge →
        read (s.called other) = (answer, (s.called other).called gauge))

/-- A reading that answers by another one calls what that one calls. -/
theorem Calls.of_answer {α β : Type} {read : Store → α × Store} {read' : Store → β × Store}
    {s : Store} (h : Calls read s) (shown : α → β)
    (hs : read' s = (shown (read s).1, (read s).2))
    (hcalled : ∀ gauge, read' (s.called gauge) =
      (shown (read (s.called gauge)).1, (read (s.called gauge)).2)) : Calls read' s := by
  cases h with
  | none answer hread hread' =>
      refine .none (shown answer) ?_ fun gauge => ?_
      · rw [hs, hread]
      · rw [hcalled, hread']
  | one gauge answer hread hread' =>
      refine .one gauge (shown answer) ?_ fun other hne => ?_
      · rw [hs, hread]
      · rw [hcalled, hread' other hne]

theorem calls_value (s : Store) (r : Ref) : Calls (·.value r) s := by
  by_cases hfunction : ∃ source, s.get? r = some (.function source)
  · obtain ⟨source, h⟩ := hfunction
    refine .one r (source.answer s.backlogs) ?_ fun other hne => ?_
    · simp only [value, h, called_of_function h, callSource_eq]
    · have hother : (s.called other).get? r = some (.function source) := by
        rw [s.get?_called_of_ne hne, h]
      simp only [value, hother, called_of_function hother, callSource_eq, backlogs_called]
  · have hnone : ∀ source, s.get? r ≠ some (.function source) :=
      fun source h => hfunction ⟨source, h⟩
    have hafter : s.value r = ((s.value r).1, s) := by
      unfold value
      split
      · rfl
      · next source h => exact absurd h (hnone source)
      · rfl
    refine .none (s.value r).1 hafter fun gauge => ?_
    simp only [value, s.get?_called_of_other gauge hnone, noOperation_called]
    split
    · rfl
    · next source h => exact absurd h (hnone source)
    · rfl

theorem calls_count (s : Store) (r : Ref) : Calls (·.count r) s := by
  cases hr : s.get? r with
  | none =>
      have hget (gauge : Ref) := s.get?_called_of_other gauge (r := r) (by simp [hr])
      refine .none _ (by simp only [count, hr]; rfl) fun gauge => ?_
      simp only [count, hget, hr, noOperation_called]
  | some m =>
      cases m with
      | function source =>
          refine .none _ (by simp only [count, hr]; rfl) fun gauge => ?_
          obtain ⟨next, hnext⟩ := get?_called_of_function gauge hr
          simp only [count, hnext, noOperation_called]
      | gaugeCounter followed =>
          have hget (gauge : Ref) := s.get?_called_of_other gauge (r := r) (by simp [hr])
          refine (s.calls_value followed).of_answer
            (fun answer => do return .int (← (← answer).clamped)) ?_ fun gauge => ?_
          · simp only [count, hr]
          · simp only [count, hget, hr]
      | _ =>
          have hget (gauge : Ref) := s.get?_called_of_other gauge (r := r) (by simp [hr])
          refine .none _ (by simp only [count, hr]; rfl) fun gauge => ?_
          simp only [count, hget, hr, noOperation_called]

/-- **The reading of a metric for a snapshot** calls one gauge at most. -/
theorem calls_readings (s : Store) (name : String) (r : Ref) : Calls (·.readings name r) s := by
  cases hr : s.get? r with
  | none =>
      have hget (gauge : Ref) := s.get?_called_of_other gauge (r := r) (by simp [hr])
      refine .none _ (by simp only [readings, hr]; rfl) fun gauge => ?_
      simp only [readings, hget, hr]
  | some m =>
      cases m with
      | function source =>
          refine (s.calls_value r).of_answer (fun answer => do return [(name, ← answer)]) ?_
            fun gauge => ?_
          · simp only [readings, hr]
          · obtain ⟨next, hnext⟩ := get?_called_of_function gauge hr
            simp only [readings, hnext]
      | settable held =>
          have hget (gauge : Ref) := s.get?_called_of_other gauge (r := r) (by simp [hr])
          refine (s.calls_value r).of_answer (fun answer => do return [(name, ← answer)]) ?_
            fun gauge => ?_
          · simp only [readings, hr]
          · simp only [readings, hget, hr]
      | counter | gaugeCounter =>
          have hget (gauge : Ref) := s.get?_called_of_other gauge (r := r) (by simp [hr])
          refine (s.calls_count r).of_answer (fun answer => do return [(name, (← answer).value)]) ?_
            fun gauge => ?_
          · simp only [readings, hr]
          · simp only [readings, hget, hr]
      | meter counter window =>
          have hget (gauge : Ref) := s.get?_called_of_other gauge (r := r) (by simp [hr])
          refine (s.calls_count counter).of_answer (fun answer => do
            return [(name ++ ".count", (← answer).value), (name ++ ".rate", .float window.rate)]) ?_
            fun gauge => ?_
          · simp only [readings, hr]
          · simp only [readings, hget, hr]
      | _ =>
          have hget (gauge : Ref) := s.get?_called_of_other gauge (r := r) (by simp [hr])
          refine .none _ (by simp only [readings, hr]; rfl) fun gauge => ?_
          simp only [readings, hget, hr]

theorem Calls.snd {α : Type} {read : Store → α × Store} {s : Store} (h : Calls read s) :
    (read s).2 = s ∨ ∃ gauge, (read s).2 = s.called gauge := by
  cases h with
  | none answer hs => exact .inl (by rw [hs])
  | one gauge answer hs => exact .inr ⟨gauge, by rw [hs]⟩

/-- **Whatever only reads** leaves the store as it was or calls one gauge. -/
theorem act_read_cases {s : Store} {a : Action} (ha : a.isRead = true) :
    s.act a = s ∨ ∃ gauge, s.act a = s.called gauge := by
  have hcount (r : Ref) := (s.calls_count r).snd
  cases a with
  | value r => exact (s.calls_value r).snd
  | count r => exact hcount r
  | meterCount r =>
      show (s.meterCount r).2 = s ∨ ∃ gauge, (s.meterCount r).2 = s.called gauge
      unfold meterCount
      split
      · exact hcount _
      · exact .inl rfl
  | describe r =>
      show (s.describe r).2 = s ∨ ∃ gauge, (s.describe r).2 = s.called gauge
      unfold describe
      split
      · exact .inl rfl
      · exact hcount _
      · exact .inl rfl
      · exact .inl rfl
      · exact .inl rfl
  | add | change | recordEvent | assign | sample | backlogs => cases ha

/-! ## Reading again and again -/

/-- A named metric gives these entries, and gives them again however often it is read. -/
def Repeats (s : Store) (p : String × Ref) (entries : Table Value) : Prop :=
  ∀ n, (((fun s => (s.readings p.1 p.2).2)^[n] s).readings p.1 p.2).1 = .ok entries

section Repeats

variable {s : Store} {p : String × Ref} {entries : Table Value}

theorem Repeats.fst (h : s.Repeats p entries) : (s.readings p.1 p.2).1 = .ok entries := h 0

theorem Repeats.readings (h : s.Repeats p entries) :
    (s.readings p.1 p.2).2.Repeats p entries := fun n => h (n + 1)

/-- A metric that is left as it was by a reading repeats itself. -/
theorem repeats_of_readings_eq (h : s.readings p.1 p.2 = (.ok entries, s)) :
    s.Repeats p entries := by
  intro n
  rw [Function.iterate_fixed (congrArg Prod.snd h), h]

/-- **A metric cannot tell that a gauge was called.** -/
theorem Repeats.called (h : s.Repeats p entries) (gauge : Ref) :
    (s.called gauge).Repeats p entries := by
  intro n
  induction n generalizing s with
  | zero =>
      have hfst := h.fst
      cases s.calls_readings p.1 p.2 with
      | none answer hs hcalled =>
          rw [hs] at hfst
          rw [Function.iterate_zero_apply, hcalled]
          exact hfst
      | one followed answer hs hcalled =>
          by_cases hsame : gauge = followed
          · -- this is what the metric would have called itself
            have hafter := h.readings
            rw [hs] at hafter
            rw [hsame]
            exact hafter.fst
          · rw [hs] at hfst
            rw [Function.iterate_zero_apply, hcalled gauge hsame]
            exact hfst
  | succ n ih =>
      have hafter := h.readings
      rw [Function.iterate_succ_apply]
      cases s.calls_readings p.1 p.2 with
      | none answer hs hcalled =>
          rw [hcalled]
          exact ih h
      | one followed answer hs hcalled =>
          rw [hs] at hafter
          by_cases hsame : gauge = followed
          · subst hsame
            exact hafter.readings n
          · rw [hcalled gauge hsame, called_comm]
            exact ih hafter

/-- **A metric cannot tell what was read.** -/
theorem Repeats.reads (h : s.Repeats p entries) {t : Store} (ht : s.ReachesBy (·.isRead = true) t) :
    t.Repeats p entries := by
  obtain ⟨actions, hread, rfl⟩ := ht
  induction actions generalizing s with
  | nil => exact h
  | cons a rest ih =>
      rw [List.forall_mem_cons] at hread
      refine ih ?_ hread.2
      rcases act_read_cases (s := s) hread.1 with hsame | ⟨gauge, hcalled⟩
      · rw [hsame]
        exact h
      · rw [hcalled]
        exact h.called gauge

/-! ## New metrics -/

/-- Whether an action makes something new. -/
def Action.isAdd : Action → Bool
  | .add _ => true
  | _ => false

theorem set_alloc {r : Ref} (h : r < s.metrics.size) (m new : Metric) :
    (s.alloc new).2.set r m = ((s.set r m).alloc new).2 := by
  have hmetrics : (s.metrics.push new).setIfInBounds r m =
      (s.metrics.setIfInBounds r m).push new := by
    refine Array.ext_getElem? fun i => ?_
    simp only [Array.getElem?_setIfInBounds, Array.getElem?_push, Array.size_setIfInBounds,
      Array.size_push]
    by_cases hi : r = i
    · subst hi
      have hne : r ≠ s.metrics.size := Nat.ne_of_lt h
      simp [h, hne, Nat.lt_succ_of_lt h]
    · simp [hi]
  rw [alloc, alloc, Store.set, Store.set, hmetrics]

theorem value_alloc {r : Ref} {v : Value} (h : (s.value r).1 = .ok v) (new : Metric) :
    (s.alloc new).2.value r = (.ok v, ((s.value r).2.alloc new).2) := by
  rcases get?_of_value h with ⟨held, hr⟩ | ⟨source, hr⟩
  · have hnew := get?_alloc_of_some hr new
    simp only [value, hr] at h
    simp only [value, hr, hnew, h]
  · have hnew := get?_alloc_of_some hr new
    have hlt : r < s.metrics.size := (Array.getElem?_eq_some_iff.mp hr).1
    simp only [value, hr, callSource_eq] at h
    simp only [value, hr, hnew, callSource_eq, set_alloc hlt]
    exact congrArg (·, _) h

theorem count_alloc {r : Ref} {n : Number} (h : (s.count r).1 = .ok n) (new : Metric) :
    (s.alloc new).2.count r = (.ok n, ((s.count r).2.alloc new).2) := by
  rcases get?_of_count h with ⟨held, hr⟩ | ⟨gauge, hr⟩
  · have hnew := get?_alloc_of_some hr new
    simp only [count, hr] at h
    simp only [count, hr, hnew, h]
  · have hnew := get?_alloc_of_some hr new
    simp only [count, hr] at h
    obtain ⟨v, hv, hclamped⟩ := Fault.bind_eq_ok.mp h
    simp only [count, hr, hnew, value_alloc hv, Fault.ok_bind]
    exact congrArg (·, _) hclamped

/-- **What can be read is read alike beside a new metric.** -/
theorem readings_alloc {m : Metric} (hp : s.get? p.2 = some m)
    (h : (s.readings p.1 p.2).1 = .ok entries) (new : Metric) :
    (s.alloc new).2.readings p.1 p.2 = (.ok entries, ((s.readings p.1 p.2).2.alloc new).2) := by
  have hnew := get?_alloc_of_some hp new
  cases m with
  | meter counter window =>
      simp only [readings, hp] at h
      obtain ⟨n, hn, hentries⟩ := Fault.bind_eq_ok.mp h
      simp only [readings, hp, hnew, count_alloc hn, Fault.ok_bind]
      exact congrArg (·, _) hentries
  | counter | gaugeCounter =>
      simp only [readings, hp] at h
      obtain ⟨n, hn, hentries⟩ := Fault.bind_eq_ok.mp h
      simp only [readings, hp, hnew, count_alloc hn, Fault.ok_bind]
      exact congrArg (·, _) hentries
  | settable | function =>
      simp only [readings, hp] at h
      obtain ⟨v, hv, hentries⟩ := Fault.bind_eq_ok.mp h
      simp only [readings, hp, hnew, value_alloc hv, Fault.ok_bind]
      exact congrArg (·, _) hentries
  | view | marker | updater | registry =>
      simp only [readings, hp] at h
      simp only [readings, hp, hnew, h]

/-- **A metric cannot tell that another one was made.** -/
theorem Repeats.alloc {m : Metric} (hp : s.get? p.2 = some m) (h : s.Repeats p entries)
    (new : Metric) : (s.alloc new).2.Repeats p entries := by
  intro n
  induction n generalizing s m with
  | zero =>
      rw [Function.iterate_zero_apply, readings_alloc hp h.fst]
  | succ n ih =>
      obtain ⟨m', hp', -⟩ := (s.reaches_readings p.1 p.2).grows p.2 m hp
      rw [Function.iterate_succ_apply, readings_alloc hp h.fst]
      exact ih hp' h.readings

theorem Repeats.adds {m : Metric} (hp : s.get? p.2 = some m) (h : s.Repeats p entries) {t : Store}
    (ht : s.ReachesBy (·.isAdd = true) t) : t.Repeats p entries := by
  obtain ⟨actions, hadd, rfl⟩ := ht
  induction actions generalizing s m with
  | nil => exact h
  | cons a rest ih =>
      rw [List.forall_mem_cons] at hadd
      cases a with
      | add new => exact ih (get?_alloc_of_some hp new) (h.alloc hp new) hadd.2
      | _ => cases hadd.1

end Repeats

/-! ## Snapshots -/

variable {s : Store} {named : Table Ref} {given : String × Ref → Table Value}

theorem visits_of_repeats (h : ∀ p ∈ named, s.Repeats p (given p)) :
    (visits named s).map Visit.entries = named.map fun p => .ok (given p) := by
  induction named generalizing s with
  | nil => rfl
  | cons p rest ih =>
      rw [List.forall_mem_cons] at h
      have hafter := reachesBy_readings (P := (·.isRead = true)) (fun _ ha => ha) s p.1 p.2
      rw [visits, List.map_cons, List.map_cons, ih fun q hq => (h.2 q hq).reads hafter]
      exact congrArg (· :: _) h.1.fst

/-- **A snapshot of metrics that repeat themselves is what they give**, one after another. -/
theorem snapshot_of_repeats (h : ∀ p ∈ named, s.Repeats p (given p))
    (hkeys : (Table.keys (named.flatMap given)).Nodup) :
    (s.snapshot named).1 = .ok (named.flatMap given) := by
  have hentries := visits_of_repeats h
  have hreadable : s.Readable named := by
    intro v hv
    have hmem := List.mem_map_of_mem (f := Visit.entries) hv
    rw [hentries] at hmem
    obtain ⟨p, -, hp⟩ := List.mem_map.mp hmem
    rw [← hp]
    rfl
  have hgiven : (visits named s).flatMap Visit.given = named.flatMap given := by
    have hmap := congrArg (List.flatMap fun e => e.toOption.getD []) hentries
    rw [List.flatMap_map, List.flatMap_map] at hmap
    exact hmap
  rw [snapshot_of_readable hreadable, hgiven, Table.ofPairs_of_nodup hkeys]

/-- The keys of what a metric gives are its keys. -/
theorem Repeats.keys {p : String × Ref} {entries : Table Value} {m : Metric}
    (h : s.Repeats p entries) (hp : s.get? p.2 = some m) : entries.keys = m.keys p.1 :=
  keys_entries (v := ⟨s, p.1, p.2⟩) hp h.fst

end Store

end Telemetry
