import Mathlib.Data.List.Nodup
import Mathlib.Data.List.Pairwise
import Telemetry.Proofs.Registry.Views

/-!
# The readings of a registry

The names of a registry are unique, but the keys of a snapshot are made of names and endings: a
meter stands in it with its name and `.count` and with its name and `.rate`. Nothing keeps these from
being the names of counters or gauges, and then one of the two readings is lost.

Main statements: `keysApart_iff_nodup` (when the keys are unique) and `readings_of_life` (what is in
a snapshot, and when nothing is lost).
-/

namespace Telemetry

/-! ## Keys -/

/-- Whether a metric is a counter or a gauge, with one reading. -/
def Metric.isPlain : Metric → Bool
  | counter _ | gaugeCounter _ | settable _ | function _ => true
  | _ => false

def Metric.isMeter : Metric → Bool
  | meter _ _ => true
  | _ => false

theorem append_count_ne_append_rate (name other : String) : name ++ ".count" ≠ other ++ ".rate" := by
  intro h
  have hlast := congrArg (fun s => s.toList.getLast?) h
  simp [String.toList_append] at hlast

theorem append_ending_ne_self (name ending : String) (h : ending ≠ "") : name ++ ending ≠ name := by
  simpa using h

namespace Store

def isPlain (s : Store) (r : Ref) : Bool := ((s.get? r).map Metric.isPlain).getD false

def isMeter (s : Store) (r : Ref) : Bool := ((s.get? r).map Metric.isMeter).getD false

/-- The keys of a named metric in a snapshot. -/
def keysOf (s : Store) (p : String × Ref) : List String :=
  ((s.get? p.2).map (Metric.keys p.1)).getD []

theorem mem_keysOf {s : Store} {p : String × Ref} {key : String} :
    key ∈ s.keysOf p ↔ s.isPlain p.2 = true ∧ key = p.1 ∨
      s.isMeter p.2 = true ∧ (key = p.1 ++ ".count" ∨ key = p.1 ++ ".rate") := by
  unfold keysOf isPlain isMeter
  cases s.get? p.2 with
  | none => simp
  | some m => cases m <;> simp [Metric.keys, Metric.isPlain, Metric.isMeter]

theorem nodup_keysOf (s : Store) (p : String × Ref) : (s.keysOf p).Nodup := by
  unfold keysOf
  cases s.get? p.2 with
  | none => simp
  | some m => cases m <;> simp [Metric.keys]

/-- No counter or gauge has the name of a meter with one of the endings of its readings. -/
def KeysApart (s : Store) (named : Table Ref) : Prop :=
  ∀ p ∈ named, ∀ q ∈ named, s.isMeter p.2 = true → s.isPlain q.2 = true →
    q.1 ≠ p.1 ++ ".count" ∧ q.1 ≠ p.1 ++ ".rate"

instance (s : Store) (named : Table Ref) : Decidable (s.KeysApart named) :=
  inferInstanceAs (Decidable (∀ p ∈ named, ∀ q ∈ named, _ → _ → _))

/-- **Different names have different keys, unless the one is a meter's and the other begins with it.**
-/
theorem keysApart_iff_disjoint {s : Store} {named : Table Ref} :
    s.KeysApart named ↔
      ∀ p ∈ named, ∀ q ∈ named, p.1 ≠ q.1 → (s.keysOf p).Disjoint (s.keysOf q) := by
  constructor
  · intro h p hp q hq hne key hkey hkey'
    rw [mem_keysOf] at hkey hkey'
    rcases hkey with ⟨hplain, rfl⟩ | ⟨hmeter, hkey⟩
    · rcases hkey' with ⟨-, heq⟩ | ⟨hmeter, heq⟩
      · exact hne heq
      · obtain ⟨hcount, hrate⟩ := h q hq p hp hmeter hplain
        exact heq.elim hcount hrate
    · rcases hkey' with ⟨hplain, rfl⟩ | ⟨-, hkey'⟩
      · obtain ⟨hcount, hrate⟩ := h p hp q hq hmeter hplain
        exact hkey.elim hcount hrate
      · -- two meters: the endings have to be the same, and then so are the names
        rcases hkey with rfl | rfl <;> rcases hkey' with heq | heq
        · exact hne (by simpa using heq)
        · exact append_count_ne_append_rate _ _ heq
        · exact append_count_ne_append_rate _ _ heq.symm
        · exact hne (by simpa using heq)
  · intro h p hp q hq hmeter hplain
    have hself : q.1 ∈ s.keysOf q := mem_keysOf.mpr (.inl ⟨hplain, rfl⟩)
    constructor
    · intro heq
      have hne : p.1 ≠ q.1 := by
        rw [heq]
        exact (append_ending_ne_self p.1 ".count" (by decide)).symm
      exact h p hp q hq hne (mem_keysOf.mpr (.inr ⟨hmeter, .inl heq⟩)) hself
    · intro heq
      have hne : p.1 ≠ q.1 := by
        rw [heq]
        exact (append_ending_ne_self p.1 ".rate" (by decide)).symm
      exact h p hp q hq hne (mem_keysOf.mpr (.inr ⟨hmeter, .inr heq⟩)) hself

theorem keysApart_iff_nodup {s : Store} {named : Table Ref} (hnames : named.keys.Nodup) :
    s.KeysApart named ↔ (named.flatMap s.keysOf).Nodup := by
  rw [keysApart_iff_disjoint, List.nodup_flatMap]
  have hpairwise : named.Pairwise fun p q => p.1 ≠ q.1 := List.pairwise_map.mp hnames
  constructor
  · intro h
    exact ⟨fun p _ => s.nodup_keysOf p,
      hpairwise.imp_of_mem fun hp hq hne => h _ hp _ hq hne⟩
  · rintro ⟨-, h⟩ p hp q hq hne
    have hsymm : Std.Symm (Function.onFun List.Disjoint s.keysOf) :=
      ⟨fun _ _ hdisjoint _ hq hp => hdisjoint hp hq⟩
    exact h.forall hp hq fun heq => hne (congrArg Prod.fst heq)

/-! ## The keys of a snapshot -/

/-- The keys that a snapshot reads are those of its metrics, as they were before it. -/
theorem keys_given_visits {s : Store} {named : Table Ref}
    (hexists : ∀ p ∈ named, ∃ m, s.get? p.2 = some m) (hreadable : s.Readable named) :
    Table.keys ((visits named s).flatMap Visit.given) = named.flatMap s.keysOf := by
  have hvisit : ∀ v ∈ visits named s, v.given.keys = s.keysOf (v.name, v.ref) := by
    intro v hv
    have hmem : (v.name, v.ref) ∈ named := by
      rw [← map_visits named s]
      exact List.mem_map_of_mem hv
    obtain ⟨m, hm⟩ := hexists _ hmem
    obtain ⟨m', hm', hbecomes⟩ := grows_of_mem_visits hv v.ref m hm
    rw [keys_entries hm' (Visit.entries_of_readable (hreadable v hv)), hbecomes.keys, keysOf, hm]
    rfl
  rw [Table.keys, List.map_flatMap]
  conv_rhs => rw [← map_visits named s, List.flatMap_map]
  exact List.flatMap_congr hvisit

theorem keysOf_of_grows {s t : Store} (h : s.Grows t) {p : String × Ref} {m : Metric}
    (hm : s.get? p.2 = some m) : t.keysOf p = s.keysOf p := by
  obtain ⟨m', hm', hbecomes⟩ := h p.2 m hm
  rw [keysOf, keysOf, hm, hm', Option.map_some, Option.map_some, hbecomes.keys]

/-- A snapshot comes to the metrics that are named last in what the others have left. -/
theorem exists_visits_append (first last : List (String × Ref)) (s : Store) :
    ∃ t, s.Grows t ∧ visits (first ++ last) s = visits first s ++ visits last t := by
  induction first generalizing s with
  | nil => exact ⟨s, .refl s, rfl⟩
  | cons entry rest ih =>
      obtain ⟨t, hgrows, hvisits⟩ := ih (s.readings entry.1 entry.2).2
      refine ⟨t, (s.reaches_readings entry.1 entry.2).grows.trans hgrows, ?_⟩
      rw [List.cons_append, visits, visits, hvisits, List.cons_append]

/-- **Of what is named last no key is lost**, whatever else has the same key: there is what one of the
last metrics answered. -/
theorem get?_snapshot_of_last {s : Store} {named last : Table Ref}
    (hexists : ∀ p ∈ last, ∃ m, s.get? p.2 = some m) {values : Table Value}
    (h : (s.snapshot (named ++ last)).1 = .ok values) {key : String}
    (hkey : key ∈ last.flatMap s.keysOf) :
    ∃ v ∈ visits (named ++ last) s, (v.name, v.ref) ∈ last ∧
      ∃ x, v.Gives key x ∧ values.get? key = some x := by
  have hreadable : s.Readable (named ++ last) := by
    rw [← isOk_snapshot_iff, h]
    rfl
  obtain ⟨t, hgrows, hvisits⟩ := exists_visits_append named last s
  have hlast : ∀ v ∈ visits last t, v ∈ visits (named ++ last) s := by
    intro v hv
    rw [hvisits]
    exact List.mem_append_right _ hv
  -- the metrics are still what they were when the snapshot comes to them
  have hkeys : Table.keys ((visits last t).flatMap Visit.given) = last.flatMap s.keysOf := by
    rw [keys_given_visits ?_ fun v hv => hreadable v (hlast v hv)]
    · refine List.flatMap_congr fun p hp => ?_
      obtain ⟨m, hm⟩ := hexists p hp
      exact keysOf_of_grows hgrows hm
    · intro p hp
      obtain ⟨m, hm⟩ := hexists p hp
      obtain ⟨m', hm', -⟩ := hgrows p.2 m hm
      exact ⟨m', hm'⟩
  rw [snapshot_of_readable hreadable] at h
  cases h
  rw [← hkeys, Table.keys, ← List.mem_reverse, ← List.map_reverse] at hkey
  obtain ⟨x, hx⟩ := Table.exists_get?_of_mem_keys hkey
  obtain ⟨v, hv, hgiven⟩ := List.mem_flatMap.mp (List.mem_reverse.mp (Table.mem_of_get? hx))
  have hgives := (mem_entries_iff (Visit.entries_of_readable (hreadable v (hlast v hv)))).mp hgiven
  refine ⟨v, hlast v hv, ?_, x, hgives, ?_⟩
  · rw [← map_visits last t]
    exact List.mem_map_of_mem hv
  · rw [Table.get?_ofPairs, hvisits, List.flatMap_append, List.reverse_append, Table.get?_append,
      hx]
    rfl

end Store

namespace Registry

/-- **What is in a snapshot after any life of a registry**, if its metrics can be read one after
another. It has no entry that is not the answer of a metric. It has all entries, one for each counter
and gauge and two for each meter in the order of the names, exactly if no counter or gauge has the
name of a meter with the ending of one of its readings. In just that case the keys of different names
are different, and each metric is found with what it answered; in any other a reading is lost. -/
theorem readings_of_life {settings : Settings} {sinks : List Sink} {before after : Host}
    {reg : Registry} (hcreate : create settings sinks before = (.ok reg, after)) (w : World)
    (turns : List Turn)
    (hreadable : (reg.live w turns).2.store.Readable (reg.live w turns).1.metrics) :
    let now := (reg.live w turns).1
    let world := (reg.live w turns).2
    ∃ values, (now.snapshot world).1 = .ok values ∧
      (∀ key x, values.get? key = some x →
        ∃ v ∈ Store.visits now.metrics world.store, v.Gives key x) ∧
      (world.store.KeysApart now.metrics ↔
        values.keys = now.metrics.flatMap world.store.keysOf) ∧
      (world.store.KeysApart now.metrics ↔ ∀ p ∈ now.metrics, ∀ q ∈ now.metrics, p.1 ≠ q.1 →
        (world.store.keysOf p).Disjoint (world.store.keysOf q)) ∧
      (world.store.KeysApart now.metrics → ∀ v ∈ Store.visits now.metrics world.store,
        ∀ key x, v.Gives key x → values.get? key = some x) := by
  intro now world
  have htracked := tracked_live hcreate w turns
  have hkeys := Store.keys_given_visits htracked.exists_metric hreadable
  have hapart := Store.keysApart_iff_nodup (s := world.store) htracked.keys_nodup
  refine ⟨_, Store.snapshot_of_readable hreadable, ?_, ?_, Store.keysApart_iff_disjoint, ?_⟩
  · intro key x hget
    -- of the pairs with one key a table keeps one, and each pair is the answer of some metric
    rw [Table.get?_ofPairs] at hget
    have hmem := List.mem_reverse.mp (Table.mem_of_get? hget)
    obtain ⟨v, hv, hgiven⟩ := List.mem_flatMap.mp hmem
    have hentries := Store.Visit.entries_of_readable (hreadable v hv)
    exact ⟨v, hv, (Store.mem_entries_iff hentries).mp hgiven⟩
  · rw [hapart, ← hkeys]
    exact (Table.keys_ofPairs_iff _).symm
  · intro h v hv key x hgives
    rw [hapart, ← hkeys] at h
    rw [Table.ofPairs_of_nodup h]
    refine Table.get?_of_mem h (List.mem_flatMap.mpr ⟨v, hv, ?_⟩)
    have hentries := Store.Visit.entries_of_readable (hreadable v hv)
    exact (Store.mem_entries_iff hentries).mpr hgives

/-! ### Two lives with meters -/

/-- A counter, a gauge, a meter, and another counter whose name begins with that of the meter. -/
def meteredApart : List Turn :=
  [.call (.counter "jobs" none), .call (.gauge "load" (.function (.script [.value (.int 7)]))),
   .call (.meter "requests" none .null), .call (.counter "requests.total" none)]

theorem readings_of_meteredApart :
    let now := (bare.live twoViews meteredApart).1
    let world := (bare.live twoViews meteredApart).2
    ∃ values, (now.snapshot world).1 = .ok values ∧
      values.keys = ["jobs", "load", "requests.count", "requests.rate", "requests.total"] := by
  have hreadable : (bare.live twoViews meteredApart).2.store.Readable
      (bare.live twoViews meteredApart).1.metrics := by decide +kernel
  have hapart : (bare.live twoViews meteredApart).2.store.KeysApart
      (bare.live twoViews meteredApart).1.metrics := by decide +kernel
  have hkeys : (bare.live twoViews meteredApart).1.metrics.flatMap
      (bare.live twoViews meteredApart).2.store.keysOf =
        ["jobs", "load", "requests.count", "requests.rate", "requests.total"] := by decide +kernel
  obtain ⟨values, hvalues, -, hall, -⟩ :=
    readings_of_life create_bare twoViews meteredApart hreadable
  exact ⟨values, hvalues, (hall.mp hapart).trans hkeys⟩

/-- A counter with the name and an ending of a meter, and its count is three. -/
def meteredBeside : List Turn :=
  [.call (.counter "a.count" none), .call (.meter "a" none .null),
   .aside [.change .increase 2 (.int 3)] twoViews.host]

/-- **A reading is lost**: the meter stands in the place of the counter. -/
theorem reading_lost_meteredBeside :
    create bare.settings [] twoViews.host = (.ok bare, twoViews.host) ∧
      (bare.live twoViews meteredBeside).1.metrics = [("a.count", 2), ("a", 4)] ∧
      ((bare.live twoViews meteredBeside).2.store.count 2).1 = .ok (.int 3) ∧
      ((bare.live twoViews meteredBeside).1.snapshot (bare.live twoViews meteredBeside).2).1 =
        .ok [("a.count", .int 0), ("a.rate", .float 0)] :=
  ⟨rfl, rfl, rfl, rfl⟩

end Registry

end Telemetry
