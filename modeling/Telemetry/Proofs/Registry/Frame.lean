import Mathlib.Data.List.Flatten
import Telemetry.Proofs.Registry.Readings
import Telemetry.Proofs.Registry.Roll
import Telemetry.Proofs.Store.Repeats

/-!
# What a name does to a snapshot

A snapshot lists the readings of the metrics in the order of their names. A metric that is registered
is added at its end, and one that is taken out is left out of it; nothing else in it moves or changes,
as long as the metrics repeat themselves and no two of them have a key in common. A name that is given
back leaves no trace, and if its metric had no other name none is left among the views either.

Main statements: `enrols_call` (what a registration does, by whichever call it is made),
`Enrols.shows`, `Enrols.unregister` and `shows_of_unregister` (what is shown after a registration, after
it is undone, and after a removal), and `snapshot_of_names`.
-/

namespace Telemetry

namespace Registry

open Roll (Demand)

/-! ## What a registration does -/

/-- A metric was registered under a new name: both were put at the end, and a view was put at the end
of the views. On the way metrics may have been made. -/
structure Enrols (reg : Registry) (w : World) (name : String) (r : Ref) (after : Registry × World) :
    Prop where
  free : name ∉ reg.metrics.keys
  metrics : after.1.metrics = reg.metrics ++ [(name, r)]
  views : after.1.updater.views =
    if after.2.store.isView r then reg.updater.views ++ [r] else reg.updater.views
  adds : w.store.ReachesBy (·.isAdd = true) after.2.store

theorem Enrols.mem {reg : Registry} {w : World} {name : String} {r : Ref} {after : Registry × World}
    (h : reg.Enrols w name r after) : (name, r) ∈ after.1.metrics := by
  rw [h.metrics]
  exact List.mem_append_right _ (List.mem_singleton_self _)

theorem enrols_register {reg : Registry} {name : String} {r : Ref} {w v : World}
    (hv : w.store.ReachesBy (·.isAdd = true) v.store)
    (h : (reg.register name r v).1 = .ok ()) : reg.Enrols w name r (reg.register name r v).2 := by
  obtain ⟨hmetric, hfree⟩ := free_of_register h
  obtain ⟨-, hafter⟩ := register_of_free hmetric hfree
  refine ⟨hfree, ?_, ?_, ?_⟩
  · rw [hafter, track]
    split <;> rfl
  · rw [hafter, store_register, track, Store.isView]
    split <;> rfl
  · rw [store_register]
    exact hv

theorem enrols_registerBuilt {reg : Registry} {name : String} {built : Except Fault (Ref × Store)}
    {r : Ref} {w : World}
    (hbuilt : ∀ r t, built = .ok (r, t) → w.store.ReachesBy (·.isAdd = true) t)
    (h : (reg.registerBuilt name built w).1 = .ok r) :
    reg.Enrols w name r (reg.registerBuilt name built w).2 := by
  unfold registerBuilt at h ⊢
  cases built with
  | error fault => cases h
  | ok made =>
      obtain ⟨made, store⟩ := made
      have hregister : (reg.register name made { w with store }).1 = .ok () →
          reg.Enrols w name made (reg.register name made { w with store }).2 :=
        enrols_register (hbuilt made store rfl)
      dsimp only at h ⊢
      cases hdone : reg.register name made { w with store } with
      | mk result after =>
          rw [hdone] at h hregister
          cases result with
          | error fault => cases h
          | ok _ =>
              cases h
              exact hregister rfl

/-- **Whichever call registers a metric**, it does no more than that. -/
theorem enrols_call {reg : Registry} {w : World} {c : Call} {name : String}
    {built : Except Fault (Ref × Store)} {r : Ref}
    (hdemand : reg.demand? w c = some (.enrol name built))
    (hreply : reg.reply? w c = some (.ok r)) : reg.Enrols w name r (reg.call w c) := by
  cases c with
  | register other given =>
      cases hdemand
      cases hdone : reg.register name given w with
      | mk result after =>
          have henrols : (reg.register name given w).1 = .ok () →
              reg.Enrols w name given (reg.register name given w).2 :=
            enrols_register (.refl w.store)
          show reg.Enrols w name r (reg.register name given w).2
          rw [reply?, hdone] at hreply
          rw [hdone] at henrols ⊢
          cases result with
          | error fault => cases hreply
          | ok _ =>
              cases hreply
              exact henrols rfl
  | counter other given =>
      cases given with
      | some given =>
          cases hdemand
          refine enrols_registerBuilt ?_ (Option.some.inj hreply)
          intro r t hbuilt
          cases hbuilt
          exact .refl w.store
      | none =>
          cases hdemand
          refine enrols_registerBuilt ?_ (Option.some.inj hreply)
          intro r t hbuilt
          cases hbuilt
          exact Store.reachesBy_act w.store (a := .add _) rfl
  | gauge other offer =>
      cases hdemand
      refine enrols_registerBuilt ?_ (Option.some.inj hreply)
      exact fun _ _ => Store.reachesBy_gaugeOf fun _ _ => rfl
  | meter other counter span =>
      cases hdemand
      refine enrols_registerBuilt ?_ (Option.some.inj hreply)
      exact fun _ _ => Store.reachesBy_newMeter fun _ _ => rfl
  | gaugeMeter other offer span =>
      cases hdemand
      refine enrols_registerBuilt ?_ (Option.some.inj hreply)
      intro r t hbuilt
      obtain ⟨made, hgauge, hmeter⟩ := Fault.bind_eq_ok.mp hbuilt
      exact (Store.reachesBy_gaugeOf (fun _ _ => rfl) hgauge).trans
        (Store.reachesBy_newGaugeMeter (fun _ _ => rfl) hmeter)
  | unregister => cases hdemand
  | updateViews | snapshot | report | start | close | assign => cases hdemand

/-! ## What a removal does -/

theorem mem_views_of_registered {reg : Registry} {s : Store} (h : reg.Tracked s) {name : String}
    {r : Ref} (hname : reg.metrics.get? name = some r) (hview : s.isView r = true) :
    r ∈ reg.updater.views :=
  h.perm.mem_iff.mpr (mem_viewRefs.mpr ⟨hview, name, Table.mem_of_get? hname⟩)

/-- **A removal takes a name away, and a view from the views once.** It reads nothing, because a view
that has a name is among the views. -/
theorem unregister_of_tracked {reg : Registry} {w : World} (h : reg.Tracked w.store)
    {name : String} {r : Ref} (hname : reg.metrics.get? name = some r) :
    (reg.unregister name w).1 = .ok r ∧
      (reg.unregister name w).2.1.metrics = reg.metrics.erase name ∧
      (reg.unregister name w).2.1.updater.views =
        (if w.store.isView r then reg.updater.views.erase r else reg.updater.views) ∧
      (reg.unregister name w).2.2.store = w.store := by
  unfold unregister
  rw [hname]
  refine ⟨rfl, rfl, ?_, ?_⟩
  · show (if w.store.isView r then _ else _ : Updater × World).1.views = _
    split
    · exact views_remove reg.updater r w
    · rfl
  · show (World.log (if w.store.isView r then _ else _ : Updater × World).2 _ _).store = _
    split
    · next hview =>
      have hmem := mem_views_of_registered h hname hview
      rw [Updater.remove, if_pos hmem]
      rfl
    · rfl

/-! ## What a registry shows -/

/-- Snapshots hold these values, whatever is read in between. -/
def Shows (reg : Registry) (w : World) (values : Table Value) : Prop :=
  ∀ v : World, w.store.ReachesBy (·.isRead = true) v.store → (reg.snapshot v).1 = .ok values

theorem shows_of_metrics {reg : Registry} {w : World} {named : Table Ref}
    {given : String × Ref → Table Value} (hmetrics : reg.metrics = named)
    (h : ∀ p ∈ named, w.store.Repeats p (given p))
    (hkeys : (Table.keys (named.flatMap given)).Nodup) : reg.Shows w (named.flatMap given) := by
  intro v hv
  show (v.store.snapshot reg.metrics).1 = _
  rw [hmetrics]
  exact Store.snapshot_of_repeats (fun p hp => (h p hp).reads hv) hkeys

/-- The keys of what is shown are those of the metrics. -/
theorem keys_flatMap_of_repeats {named : Table Ref} {s : Store}
    {given : String × Ref → Table Value} (hexists : ∀ p ∈ named, ∃ m, s.get? p.2 = some m)
    (h : ∀ p ∈ named, s.Repeats p (given p)) :
    Table.keys (named.flatMap given) = named.flatMap s.keysOf := by
  rw [Table.keys, List.map_flatMap]
  refine List.flatMap_congr fun p hp => ?_
  obtain ⟨m, hm⟩ := hexists p hp
  rw [Store.keysOf, hm]
  exact (h p hp).keys hm

/-- **A metric that is added stands at the end of snapshots.** -/
theorem Enrols.shows {reg : Registry} {w : World} {name : String} {r : Ref}
    {after : Registry × World} (h : reg.Enrols w name r after) (hreg : reg.Tracked w.store)
    {given : String × Ref → Table Value} {entries : Table Value}
    (hgiven : ∀ p ∈ reg.metrics, w.store.Repeats p (given p))
    (hentries : after.2.store.Repeats (name, r) entries)
    (hkeys : (Table.keys (reg.metrics.flatMap given ++ entries)).Nodup) :
    after.1.Shows after.2 (reg.metrics.flatMap given ++ entries) := by
  -- what all of them give, the new one included
  let all : String × Ref → Table Value := fun p => if p = (name, r) then entries else given p
  have hold : ∀ p ∈ reg.metrics, all p = given p := by
    intro p hp
    refine if_neg ?_
    rintro rfl
    exact h.free (List.mem_map.mpr ⟨_, hp, rfl⟩)
  have hall : after.1.metrics.flatMap all = reg.metrics.flatMap given ++ entries := by
    rw [h.metrics, List.flatMap_append, List.flatMap_congr hold, List.flatMap_singleton]
    simp [all]
  rw [← hall] at hkeys ⊢
  refine shows_of_metrics rfl ?_ hkeys
  rw [h.metrics, List.forall_mem_append]
  constructor
  · intro p hp
    obtain ⟨m, hm⟩ := hreg.exists_metric p hp
    rw [hold p hp]
    exact (hgiven p hp).adds hm h.adds
  · intro p hp
    obtain rfl := List.mem_singleton.mp hp
    simpa [all] using hentries

/-- The views after a metric was added and taken out again, if it had no other name. -/
theorem erase_views_of_unnamed {reg : Registry} {s : Store} (h : reg.Tracked s) {r : Ref}
    (hr : r ∉ reg.metrics.map (·.2)) : (reg.updater.views ++ [r]).erase r = reg.updater.views := by
  have hnot : r ∉ reg.updater.views := by
    intro hmem
    obtain ⟨-, name, hname⟩ := mem_viewRefs.mp (h.perm.mem_iff.mp hmem)
    exact hr (List.mem_map.mpr ⟨_, hname, rfl⟩)
  rw [List.erase_append_right _ hnot, List.erase_cons_head, List.append_nil]

theorem erase_append_of_free {named : Table Ref} {name : String} (h : name ∉ named.keys) (r : Ref) :
    Table.erase (named ++ [(name, r)]) name = named := by
  have hkeep : named.filter (·.1 ≠ name) = named := by
    refine List.filter_eq_self.mpr fun p hp => decide_eq_true fun heq => h ?_
    exact List.mem_map.mpr ⟨p, hp, heq⟩
  rw [Table.erase, List.filter_append, hkeep]
  simp

/-- A metric that was added and is taken out again leaves the registry as it was. -/
theorem Enrols.unregister {reg : Registry} {w : World} {name : String} {r : Ref}
    {after : Registry × World} (h : reg.Enrols w name r after) (hreg : reg.Tracked w.store)
    (hafter : after.1.Tracked after.2.store) {given : String × Ref → Table Value}
    (hgiven : ∀ p ∈ reg.metrics, w.store.Repeats p (given p))
    (hkeys : (Table.keys (reg.metrics.flatMap given)).Nodup) {u : World}
    (hu : after.2.store.ReachesBy (·.isRead = true) u.store) :
    let back := after.1.unregister name u
    back.1 = .ok r ∧ back.2.1.metrics = reg.metrics ∧
      back.2.1.Shows back.2.2 (reg.metrics.flatMap given) ∧
      (r ∉ reg.metrics.map (·.2) → back.2.1.updater.views = reg.updater.views) := by
  obtain ⟨m, hm⟩ := hafter.exists_metric _ h.mem
  have hname : after.1.metrics.get? name = some r := Table.get?_of_mem hafter.keys_nodup h.mem
  obtain ⟨hresult, hmetrics, hviews, hstore⟩ :=
    unregister_of_tracked (hafter.grows hu.reaches.grows) hname
  rw [h.metrics, erase_append_of_free h.free] at hmetrics
  refine ⟨hresult, hmetrics, ?_, ?_⟩
  · refine shows_of_metrics hmetrics (fun p hp => ?_) hkeys
    rw [hstore]
    obtain ⟨m, hm⟩ := hreg.exists_metric p hp
    exact ((hgiven p hp).adds hm h.adds).reads hu
  · intro hunnamed
    rw [hviews, h.views, hu.reaches.grows.isView hm]
    split
    · exact erase_views_of_unnamed hreg hunnamed
    · rfl

/-- **A metric that is taken out is left out of snapshots**, and the others keep their order. -/
theorem shows_of_unregister {reg : Registry} {w : World} (hreg : reg.Tracked w.store)
    {given : String × Ref → Table Value} (hgiven : ∀ p ∈ reg.metrics, w.store.Repeats p (given p))
    (hkeys : (Table.keys (reg.metrics.flatMap given)).Nodup) {name : String} {r : Ref}
    (hname : reg.metrics.get? name = some r) :
    ∃ front rest, reg.metrics = front ++ (name, r) :: rest ∧
      let left := reg.unregister name w
      left.1 = .ok r ∧ left.2.1.metrics = front ++ rest ∧
        left.2.1.Shows left.2.2 (front.flatMap given ++ rest.flatMap given) := by
  obtain ⟨front, rest, hsplit, herase⟩ := Table.eq_append_of_get? hreg.keys_nodup hname
  obtain ⟨hresult, hmetrics, -, hstore⟩ := unregister_of_tracked hreg hname
  rw [herase] at hmetrics
  refine ⟨front, rest, hsplit, hresult, hmetrics, ?_⟩
  have hsublist : (front ++ rest).Sublist reg.metrics := by
    rw [hsplit]
    exact (List.Sublist.refl front).append (List.sublist_cons_self (name, r) rest)
  rw [← List.flatMap_append]
  refine shows_of_metrics hmetrics (fun p hp => ?_)
    (hkeys.sublist ((hsublist.flatMap given).map Prod.fst))
  rw [hstore]
  exact hgiven p (hsublist.subset hp)

/-- **A snapshot follows the names.** After any life of a registry whose metrics repeat themselves and
have no key in common, snapshots hold what the metrics give, in the order of the names. Registering a
metric that repeats itself under a new name and new keys, by whichever call, adds its entries at the
end and nothing else: two for a meter, one for a counter or gauge, none for anything else. Taking it
out again leaves the registry as it was: its names, its snapshots, and, if the metric had no other
name, its views. Taking out any name takes out the entries of its metric and leaves the others in
their order. All this is so whatever is read before, in between and afterwards. No gauge follows the
registry itself: what gauges read is kept outside of the metric system (`Source`). -/
theorem snapshot_of_names {settings : Settings} {sinks : List Sink} {before after : Host}
    {first : Registry} (hcreate : create settings sinks before = (.ok first, after)) (w : World)
    (turns : List Turn) (given : String × Ref → Table Value)
    (hgiven : ∀ p ∈ (first.live w turns).1.metrics,
      (first.live w turns).2.store.Repeats p (given p))
    (hkeys : ((first.live w turns).1.metrics.flatMap (first.live w turns).2.store.keysOf).Nodup) :
    let now := (first.live w turns).1
    now.Shows (first.live w turns).2 (now.metrics.flatMap given) ∧
    ∀ v : World, (first.live w turns).2.store.ReachesBy (·.isRead = true) v.store →
      (∀ c name built r entries, now.demand? v c = some (.enrol name built) →
        now.reply? v c = some (.ok r) → (now.call v c).2.store.Repeats (name, r) entries →
        (∀ key ∈ entries.keys, key ∉ Table.keys (now.metrics.flatMap given)) →
        (now.call v c).1.Shows (now.call v c).2 (now.metrics.flatMap given ++ entries) ∧
        (∃ m, (now.call v c).2.store.get? r = some m ∧ entries.keys = m.keys name) ∧
        ∀ u : World, (now.call v c).2.store.ReachesBy (·.isRead = true) u.store →
          let back := (now.call v c).1.unregister name u
          back.1 = .ok r ∧ back.2.1.metrics = now.metrics ∧
            back.2.1.Shows back.2.2 (now.metrics.flatMap given) ∧
            (r ∉ now.metrics.map (·.2) → back.2.1.updater.views = now.updater.views)) ∧
      ∀ name r, now.metrics.get? name = some r →
        ∃ front rest, now.metrics = front ++ (name, r) :: rest ∧
          let left := now.unregister name v
          left.1 = .ok r ∧ left.2.1.metrics = front ++ rest ∧
            left.2.1.Shows left.2.2 (front.flatMap given ++ rest.flatMap given) := by
  intro now
  have htracked := tracked_live hcreate w turns
  have hnodup : (Table.keys (now.metrics.flatMap given)).Nodup := by
    rw [keys_flatMap_of_repeats htracked.exists_metric hgiven]
    exact hkeys
  refine ⟨shows_of_metrics rfl hgiven hnodup, fun v hv => ?_⟩
  have hv_tracked : now.Tracked v.store := htracked.grows hv.reaches.grows
  have hv_given : ∀ p ∈ now.metrics, v.store.Repeats p (given p) :=
    fun p hp => (hgiven p hp).reads hv
  constructor
  · intro c name built r entries hdemand hreply hentries hfresh
    have henrols := enrols_call hdemand hreply
    have hnext : (now.call v c).1.Tracked (now.call v c).2.store := hv_tracked.turn (.call c)
    obtain ⟨m, hm⟩ := hnext.exists_metric (name, r) henrols.mem
    have hall : (Table.keys (now.metrics.flatMap given ++ entries)).Nodup := by
      rw [Table.keys, List.map_append]
      refine List.Nodup.append hnodup ?_ fun key hkey hkey' => hfresh key hkey' hkey
      show entries.keys.Nodup
      rw [hentries.keys hm]
      cases m <;> simp [Metric.keys]
    refine ⟨henrols.shows hv_tracked hv_given hentries hall, ⟨m, hm, hentries.keys hm⟩, ?_⟩
    intro u hu
    exact henrols.unregister hv_tracked hnext hv_given hnodup hu
  · intro name r hname
    exact shows_of_unregister hv_tracked hv_given hnodup hname

/-! ### A meter comes and goes -/

/-- What the metrics of the life with meters give. -/
def givenApart (p : String × Ref) : Table Value :=
  match p.1 with
  | "load" => [(p.1, .int 7)]
  | "requests" => [(p.1 ++ ".count", .int 0), (p.1 ++ ".rate", .float 0)]
  | _ => [(p.1, .int 0)]

/-- A meter is added to a counter, a gauge and a meter, and taken out again. -/
theorem snapshot_of_meteredApart :
    let now := (bare.live twoViews meteredApart).1
    let world := (bare.live twoViews meteredApart).2
    let next := now.call world (.meter "bytes" none .null)
    let back := next.1.unregister "bytes" next.2
    let values : Table Value := [("jobs", .int 0), ("load", .int 7), ("requests.count", .int 0),
      ("requests.rate", .float 0), ("requests.total", .int 0)]
    now.Shows world values ∧
      next.1.Shows next.2 (values ++ [("bytes.count", .int 0), ("bytes.rate", .float 0)]) ∧
      back.2.1.Shows back.2.2 values ∧ back.2.1.updater.views = now.updater.views := by
  intro now world next back values
  have hgiven : ∀ p ∈ now.metrics, world.store.Repeats p (givenApart p) := by
    have hmetrics : now.metrics =
        [("jobs", 2), ("load", 3), ("requests", 5), ("requests.total", 6)] := by decide +kernel
    rw [hmetrics]
    simp only [List.forall_mem_cons]
    exact ⟨Store.repeats_of_readings_eq rfl, Store.repeats_of_readings_eq rfl,
      Store.repeats_of_readings_eq rfl, Store.repeats_of_readings_eq rfl, nofun⟩
  have hkeys : (now.metrics.flatMap world.store.keysOf).Nodup := by decide +kernel
  obtain ⟨hshows, hnames⟩ :=
    snapshot_of_names create_bare twoViews meteredApart givenApart hgiven hkeys
  have hvalues : now.metrics.flatMap givenApart = values := rfl
  obtain ⟨hadded, -, hback⟩ := (hnames world (.refl _)).1 (.meter "bytes" none .null) "bytes" _ 8
    [("bytes.count", .int 0), ("bytes.rate", .float 0)] rfl rfl
    (Store.repeats_of_readings_eq rfl) (by rw [hvalues]; decide)
  obtain ⟨-, -, hrestored, hviews⟩ := hback next.2 (.refl _)
  rw [hvalues] at hshows hadded hrestored
  exact ⟨hshows, hadded, hrestored, hviews (by decide +kernel)⟩

end Registry

end Telemetry
