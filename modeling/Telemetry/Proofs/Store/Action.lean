import Telemetry.Proofs.Window.Attempt
import Telemetry.Store

/-!
# Runs of a store

Whatever is built on a store (updaters, registries, sessions) acts on it through a handful of
operations. A run is a list of these actions, in any order and on any objects; actions that are
refused belong to it as well. Everything that holds of all runs then holds whoever acts.

* `Read` is what reading does: at most one function gauge is called.
* `sample_meter` is what sampling a meter does: its window attempts a sample with what the counter
  answers.
* `Becomes` is what an object may turn into, and `Grows` says so of all objects at once.
* `Acts` is what an action can do (`acts`): what it leaves alone is read off from there. No run takes
  an object away or turns it into another kind (`grows_run`).
* `Reaches` leaves out which run it was.
-/

namespace Telemetry

namespace Store

/-! ## Setting -/

/-- Setting one object leaves another alone; two are not the same if they are found different. -/
theorem get?_set_of_other {s : Store} {r k : Ref} {m before : Metric} (h : s.get? r = some m)
    (hk : s.get? k = some before) (hother : before ≠ m) (after : Metric) :
    (s.set k after).get? r = some m := by
  have hne : k ≠ r := by
    rintro rfl
    rw [h] at hk
    cases hk
    exact hother rfl
  rw [get?_set, if_neg hne, h]

theorem get?_set_of_none {s : Store} {r : Ref} (h : s.get? r = none) (k : Ref) (m : Metric) :
    (s.set k m).get? r = none := by
  rw [get?_set]
  split
  · next hk =>
    rw [hk, h]
    rfl
  · exact h

/-! ## Reading -/

/-- What reading does to a store: nothing, or a function gauge was called and its source moved on. -/
inductive Read (s : Store) : Store → Prop where
  | same : Read s s
  | called {gauge : Ref} {source : Source} (next : Source)
      (h : s.get? gauge = some (.function source)) : Read s (s.set gauge (.function next))

theorem read_value (s : Store) (r : Ref) : s.Read (s.value r).2 := by
  unfold value
  split
  · exact .same
  · next source h => exact .called _ h
  · exact .same

theorem read_count (s : Store) (r : Ref) : s.Read (s.count r).2 := by
  unfold count
  split
  · exact .same
  · exact s.read_value _
  · exact .same

theorem read_meterCount (s : Store) (r : Ref) : s.Read (s.meterCount r).2 := by
  unfold meterCount
  split
  · exact s.read_count _
  · exact .same

theorem read_describe (s : Store) (r : Ref) : s.Read (s.describe r).2 := by
  unfold describe
  split
  · exact .same
  · exact s.read_count _
  · exact .same
  · exact .same
  · exact .same

/-- Reading leaves everything alone that is no function gauge. -/
theorem Read.get? {s t : Store} (hread : s.Read t) {r : Ref} {m : Metric}
    (h : s.get? r = some m) (hother : ∀ source, m ≠ .function source) : t.get? r = some m := by
  cases hread with
  | same => exact h
  | @called gauge source next hgauge => exact get?_set_of_other h hgauge (hother source).symm _

/-- Reading adds nothing. -/
theorem Read.get?_eq_none {s t : Store} (hread : s.Read t) {r : Ref} (h : s.get? r = none) :
    t.get? r = none := by
  cases hread with
  | same => exact h
  | called next hgauge => exact get?_set_of_none h _ _

/-! ## Actions -/

/-- An operation on the objects of a store. -/
inductive Action where
  /-- Something new comes into being. -/
  | add (m : Metric)
  | change (c : Change) (r : Ref) (amount : Value)
  | recordEvent (r : Ref) (amount : Value)
  | assign (r : Ref) (v : Value)
  | sample (r : Ref)
  | value (r : Ref)
  | count (r : Ref)
  | meterCount (r : Ref)
  | describe (r : Ref)
  /-- The backlogs take other sizes, and there may be new ones. -/
  | backlogs (sizes : Array Nat)

/-- Whether an action is a sample of the given object. -/
def Action.samples (r : Ref) : Action → Bool
  | .sample sampled => sampled = r
  | _ => false

/-- Whether an action is a sample of any object. -/
def Action.isSample : Action → Bool
  | .sample _ => true
  | _ => false

/-- Whether an action changes a counter. -/
def Action.isChange : Action → Bool
  | .change _ _ _ | .recordEvent _ _ => true
  | _ => false

/-- Whether an action only reads. -/
def Action.isRead : Action → Bool
  | .value _ | .count _ | .meterCount _ | .describe _ => true
  | _ => false

/-- The store after an action. A change that is refused leaves the store as it was. -/
def act (s : Store) : Action → Store
  | .add m => (s.alloc m).2
  | .change c r amount => (s.change c r amount).toOption.getD s
  | .recordEvent r amount => (s.recordEvent r amount).toOption.getD s
  | .assign r v => (s.assign r v).toOption.getD s
  | .sample r => (s.sample r).2
  | .value r => (s.value r).2
  | .count r => (s.count r).2
  | .meterCount r => (s.meterCount r).2
  | .describe r => (s.describe r).2
  | .backlogs sizes => { s with backlogs := sizes }

/-- The store after a list of actions. -/
def run (s : Store) (actions : List Action) : Store := actions.foldl act s

@[simp] theorem run_nil (s : Store) : s.run [] = s := rfl

@[simp] theorem run_cons (s : Store) (a : Action) (rest : List Action) :
    s.run (a :: rest) = (s.act a).run rest := rfl

theorem run_append (s : Store) (first second : List Action) :
    s.run (first ++ second) = (s.run first).run second :=
  List.foldl_append

/-- What is new does not take the place of an object. -/
theorem get?_alloc_of_some {s : Store} {r : Ref} {m : Metric} (h : s.get? r = some m)
    (new : Metric) : (s.alloc new).2.get? r = some m := by
  have hlt : r < s.metrics.size := (Array.getElem?_eq_some_iff.mp h).1
  have hne : r ≠ (s.alloc new).1 := Nat.ne_of_lt hlt
  rw [get?_alloc, if_neg hne, h]

/-- A change that succeeds sets one counter. -/
theorem change_eq_ok {s t : Store} {c : Change} {r : Ref} {amount : Value}
    (h : s.change c r amount = .ok t) :
    ∃ before after, s.get? r = some (.counter before) ∧ t = s.set r (.counter after) := by
  unfold change at h
  split at h
  · next count hcounter =>
    split at h
    · next n hn =>
      cases hsum : c.apply count n with
      | error fault =>
          rw [hsum] at h
          cases h
      | ok sum =>
          rw [hsum] at h
          cases h
          exact ⟨count, sum, hcounter, rfl⟩
    · cases h
  · cases h
  · cases h

/-- Recording events is changing the meter's counter. -/
theorem recordEvent_eq_ok {s t : Store} {r : Ref} {amount : Value}
    (h : s.recordEvent r amount = .ok t) :
    ∃ counter window, s.get? r = some (.meter counter window) ∧
      s.change .increase counter amount = .ok t := by
  unfold recordEvent at h
  split at h
  · next counter window hmeter => exact ⟨counter, window, hmeter, h⟩
  · cases h

/-- Setting a gauge changes nothing else. -/
theorem assign_eq_ok {s t : Store} {r : Ref} {v : Value} (h : s.assign r v = .ok t) :
    ∃ before, s.get? r = some (.settable before) ∧ t = s.set r (.settable v) := by
  unfold assign at h
  split at h
  · next before hgauge =>
    cases h
    exact ⟨before, hgauge, rfl⟩
  · cases h

/-! ## Sampling -/

/-- Sampling a meter is an attempt of its window with what its counter answers. -/
theorem sample_meter {s : Store} {r counter : Ref} {w : Window}
    (h : s.get? r = some (.meter counter w)) :
    (s.sample r).1 = (w.attempt (s.count counter).1).1 ∧
      (s.sample r).2.get? r = some (.meter counter (w.attempt (s.count counter).1).2) := by
  have hread := s.read_count counter
  simp only [sample, h]
  cases hcount : s.count counter with
  | mk answer t =>
      rw [hcount] at hread
      have hafter : t.get? r = some (.meter counter w) := hread.get? h fun _ => nofun
      cases answer with
      | error fault => exact ⟨rfl, hafter⟩
      | ok reading =>
          refine ⟨rfl, ?_⟩
          show (t.set r _).get? r = _
          rw [get?_set, if_pos rfl, hafter]
          rfl

/-- What a sample does to the store: besides reading, at most the sampled view changes. -/
theorem sample_snd_cases (s : Store) (r : Ref) :
    (∃ counter w, s.get? r = some (.meter counter w) ∧
      ((s.sample r).2 = (s.count counter).2 ∨
        ∃ reading, (s.sample r).2 =
          (s.count counter).2.set r (.meter counter (w.sample reading).2))) ∨
    (∃ failure calls, s.get? r = some (.view failure calls) ∧
      (s.sample r).2 = s.set r (.view failure (calls + 1))) ∨
    (s.sample r).2 = s := by
  unfold sample
  split
  · next counter w h =>
    left
    refine ⟨counter, w, h, ?_⟩
    cases hcount : s.count counter with
    | mk answer t =>
        cases answer with
        | error fault => exact .inl rfl
        | ok reading => exact .inr ⟨reading, rfl⟩
  · next failure calls h => exact .inr (.inl ⟨failure, calls, h, rfl⟩)
  · exact .inr (.inr rfl)

end Store

/-! ## What becomes of objects -/

/-- What an object may turn into: its kind stays, and so does what it follows. -/
inductive Metric.Becomes : Metric → Metric → Prop where
  | counter (before after : Number) : Becomes (.counter before) (.counter after)
  | settable (before after : Value) : Becomes (.settable before) (.settable after)
  | function (before after : Source) : Becomes (.function before) (.function after)
  | gaugeCounter (gauge : Ref) : Becomes (.gaugeCounter gauge) (.gaugeCounter gauge)
  | meter (counter : Ref) {before after : Window} (hpanes : after.panes = before.panes)
      (hinterval : after.interval = before.interval) :
      Becomes (.meter counter before) (.meter counter after)
  | view (failure : Option String) {before after : Nat} (h : before ≤ after) :
      Becomes (.view failure before) (.view failure after)
  | marker : Becomes .marker .marker
  | updater (index : Nat) : Becomes (.updater index) (.updater index)
  | registry (index : Nat) : Becomes (.registry index) (.registry index)

namespace Metric

theorem Becomes.refl (m : Metric) : m.Becomes m := by
  cases m with
  | counter count => exact .counter count count
  | settable v => exact .settable v v
  | function source => exact .function source source
  | gaugeCounter gauge => exact .gaugeCounter gauge
  | meter counter w => exact .meter counter rfl rfl
  | view failure calls => exact .view failure (Nat.le_refl calls)
  | marker => exact .marker
  | updater index => exact .updater index
  | registry index => exact .registry index

theorem Becomes.trans {a b c : Metric} (hab : a.Becomes b) (hbc : b.Becomes c) : a.Becomes c := by
  cases hab with
  | counter before _ =>
      cases hbc
      exact .counter before _
  | settable before _ =>
      cases hbc
      exact .settable before _
  | function before _ =>
      cases hbc
      exact .function before _
  | meter counter hpanes hinterval =>
      cases hbc with
      | meter _ hpanes' hinterval' =>
          exact .meter counter (hpanes'.trans hpanes) (hinterval'.trans hinterval)
  | view failure h =>
      cases hbc with
      | view _ h' => exact .view failure (Nat.le_trans h h')
  | gaugeCounter | marker | updater | registry => exact hbc

theorem Becomes.isView {a b : Metric} (h : a.Becomes b) : b.isView = a.isView := by
  cases h <;> rfl

end Metric

namespace Store

/-- No object is lost, and each has become what such an object may become. -/
def Grows (s t : Store) : Prop :=
  ∀ r m, s.get? r = some m → ∃ m', t.get? r = some m' ∧ m.Becomes m'

theorem Grows.refl (s : Store) : s.Grows s := fun _ m h => ⟨m, h, .refl m⟩

theorem Grows.trans {s t u : Store} (hst : s.Grows t) (htu : t.Grows u) : s.Grows u := by
  intro r m h
  obtain ⟨m', h', hm'⟩ := hst r m h
  obtain ⟨m'', h'', hm''⟩ := htu r m' h'
  exact ⟨m'', h'', hm'.trans hm''⟩

theorem grows_set {s : Store} {r : Ref} {m m' : Metric} (h : s.get? r = some m)
    (hm : m.Becomes m') : s.Grows (s.set r m') := by
  intro k n hk
  rw [get?_set]
  by_cases hkr : r = k
  · subst hkr
    rw [h] at hk
    cases hk
    exact ⟨m', by rw [if_pos rfl, h]; rfl, hm⟩
  · exact ⟨n, by rw [if_neg hkr, hk], .refl n⟩

theorem grows_alloc (s : Store) (m : Metric) : s.Grows (s.alloc m).2 :=
  fun _ n hk => ⟨n, get?_alloc_of_some hk m, .refl n⟩

theorem Read.grows {s t : Store} (h : s.Read t) : s.Grows t := by
  cases h with
  | same => exact .refl s
  | called next hgauge => exact grows_set hgauge (.function _ next)

/-! ## What an action does -/

/-- What an action can do to a store: it adds an object, or it reads, or it sets one object of the
kind that it is meant for, which keeps its kind. -/
inductive Acts (s : Store) : Action → Store → Prop where
  | adds (m : Metric) : Acts s (.add m) (s.alloc m).2
  | reads {a : Action} {t : Store} (hread : s.Read t) : Acts s a t
  | changes {a : Action} {r : Ref} {before : Number} (after : Number) (ha : a.isChange = true)
      (h : s.get? r = some (.counter before)) : Acts s a (s.set r (.counter after))
  | assigns {r : Ref} {before : Value} (after : Value)
      (h : s.get? r = some (.settable before)) : Acts s (.assign r after) (s.set r (.settable after))
  /-- A view is set to what became of it, after its counter was read. -/
  | samples {r : Ref} {before after : Metric} {t : Store} (hread : s.Read t)
      (h : t.get? r = some before) (hview : before.isView = true) (hafter : before.Becomes after) :
      Acts s (.sample r) (t.set r after)
  | resizes (sizes : Array Nat) : Acts s (.backlogs sizes) { s with backlogs := sizes }

theorem acts_of_change {s t : Store} {c : Change} {r : Ref} {amount : Value} {a : Action}
    (ha : a.isChange = true) (h : s.change c r amount = .ok t) : s.Acts a t := by
  obtain ⟨before, after, hcounter, rfl⟩ := change_eq_ok h
  exact .changes after ha hcounter

theorem acts_sample (s : Store) (r : Ref) : s.Acts (.sample r) (s.sample r).2 := by
  rcases s.sample_snd_cases r with ⟨counter, w, h, hsame | ⟨reading, hset⟩⟩ |
    ⟨failure, calls, h, hset⟩ | hsame
  · rw [hsame]
    exact .reads (s.read_count counter)
  · have hread := s.read_count counter
    rw [hset]
    exact .samples hread (hread.get? h fun _ => nofun) rfl
      (.meter counter (w.panes_sample reading) (w.interval_sample reading))
  · rw [hset]
    exact .samples .same h rfl (.view failure (Nat.le_succ calls))
  · rw [hsame]
    exact .reads .same

/-- **An action does what it can do.** -/
theorem acts (s : Store) (a : Action) : s.Acts a (s.act a) := by
  cases a with
  | add m => exact .adds m
  | change c r amount =>
      show s.Acts _ ((s.change c r amount).toOption.getD s)
      cases h : s.change c r amount with
      | error fault => exact .reads .same
      | ok t => exact acts_of_change rfl h
  | recordEvent r amount =>
      show s.Acts _ ((s.recordEvent r amount).toOption.getD s)
      cases h : s.recordEvent r amount with
      | error fault => exact .reads .same
      | ok t =>
          obtain ⟨counter, _, _, hchange⟩ := recordEvent_eq_ok h
          exact acts_of_change rfl hchange
  | assign r v =>
      show s.Acts _ ((s.assign r v).toOption.getD s)
      cases h : s.assign r v with
      | error fault => exact .reads .same
      | ok t =>
          obtain ⟨before, hgauge, rfl⟩ := assign_eq_ok h
          exact .assigns v hgauge
  | sample r => exact s.acts_sample r
  | value r => exact .reads (s.read_value r)
  | count r => exact .reads (s.read_count r)
  | meterCount r => exact .reads (s.read_meterCount r)
  | describe r => exact .reads (s.read_describe r)
  | backlogs sizes => exact .resizes sizes

theorem Acts.grows {s t : Store} {a : Action} (h : s.Acts a t) : s.Grows t := by
  cases h with
  | adds m => exact s.grows_alloc m
  | reads hread => exact hread.grows
  | changes after _ h => exact grows_set h (.counter _ after)
  | assigns after h => exact grows_set h (.settable _ after)
  | samples hread h _ hafter => exact hread.grows.trans (grows_set h hafter)
  | resizes size => exact .refl s

/-- **No run takes an object away or turns it into another kind.** -/
theorem grows_run (s : Store) (actions : List Action) : s.Grows (s.run actions) := by
  induction actions generalizing s with
  | nil => exact .refl s
  | cons a rest ih => exact (s.acts a).grows.trans (ih (s.act a))

/-! ## Stores that a run leads to -/

/-- Some run leads from one store to another. -/
def Reaches (s t : Store) : Prop := ∃ actions, t = s.run actions

theorem Reaches.refl (s : Store) : s.Reaches s := ⟨[], rfl⟩

theorem reaches_act (s : Store) (a : Action) : s.Reaches (s.act a) := ⟨[a], rfl⟩

theorem Reaches.trans {s t u : Store} (hst : s.Reaches t) (htu : t.Reaches u) : s.Reaches u := by
  obtain ⟨first, rfl⟩ := hst
  obtain ⟨second, rfl⟩ := htu
  exact ⟨first ++ second, (s.run_append first second).symm⟩

theorem Reaches.grows {s t : Store} (h : s.Reaches t) : s.Grows t := by
  obtain ⟨actions, rfl⟩ := h
  exact s.grows_run actions

/-- Some run of actions of one sort leads from one store to another. -/
def ReachesBy (P : Action → Prop) (s t : Store) : Prop :=
  ∃ actions, (∀ a ∈ actions, P a) ∧ t = s.run actions

variable {P : Action → Prop}

theorem ReachesBy.refl (s : Store) : s.ReachesBy P s := ⟨[], nofun, rfl⟩

theorem ReachesBy.trans {s t u : Store} (hst : s.ReachesBy P t) (htu : t.ReachesBy P u) :
    s.ReachesBy P u := by
  obtain ⟨first, hfirst, rfl⟩ := hst
  obtain ⟨second, hsecond, rfl⟩ := htu
  refine ⟨first ++ second, ?_, (s.run_append first second).symm⟩
  intro a ha
  exact (List.mem_append.mp ha).elim (hfirst a) (hsecond a)

theorem reachesBy_act (s : Store) {a : Action} (ha : P a) : s.ReachesBy P (s.act a) :=
  ⟨[a], fun _ hmem => List.mem_singleton.mp hmem ▸ ha, rfl⟩

theorem ReachesBy.mono {Q : Action → Prop} (hPQ : ∀ a, P a → Q a) {s t : Store}
    (h : s.ReachesBy P t) : s.ReachesBy Q t := by
  obtain ⟨actions, hactions, hrun⟩ := h
  exact ⟨actions, fun a ha => hPQ a (hactions a ha), hrun⟩

theorem ReachesBy.reaches {s t : Store} (h : s.ReachesBy P t) : s.Reaches t := by
  obtain ⟨actions, -, hrun⟩ := h
  exact ⟨actions, hrun⟩

end Store

end Telemetry
