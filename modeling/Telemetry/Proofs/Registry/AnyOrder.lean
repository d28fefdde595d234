import Telemetry.Proofs.Registry.Levels
import Telemetry.Proofs.Registry.Readings
import Telemetry.Proofs.Store.AnyOrder

/-!
# Registration in any order

Two registries that hold the same metrics under the same names, each in its own order, measure the
same, as long as the functions behind their gauges give the same answer on every call. The rounds of
their updaters are samples in different orders; a view that is taken out is taken out of both,
whichever of its places is the first; and their snapshots hold the same under every key. Metrics may
share counters and gauges, one view may have several names, and views may fail.

Main statements: `Permuted.use` (what is done to two such registries leaves them so),
`permuted_registerAll` (registering in two orders makes two such registries) and
`registration_in_any_order`.
-/

namespace Telemetry

namespace Updater

/-- Of a round in a steady store only the changes of the views can be noticed. -/
theorem alike_updateAll_of_steady (views : List Ref) {w : World} (h : w.store.Steady) :
    (updateAll views w).store.Alike (views.foldl Store.sampled w.store) := by
  have hview (w : World) (h : w.store.Steady) (view : Ref) :
      (sampleView w view).store.Alike (w.store.sampled view) := by
    have hsample := h.alike_sample view
    rw [store_sampleView]
    unfold viewActions
    split
    · exact hsample
    · split
      · -- the warning reads the view after the sample
        exact ((h.sample view).alike_describe view).trans hsample
      · exact hsample
  have hfold : ∀ {s t : Store}, s.Alike t → ∀ views : List Ref,
      (views.foldl Store.sampled s).Alike (views.foldl Store.sampled t) := by
    intro s t hst views
    induction views generalizing s t with
    | nil => exact hst
    | cons view rest ih => exact ih (Store.alike_sampled hst view)
  induction views generalizing w with
  | nil => exact .refl _
  | cons view rest ih =>
      have hfirst := hview w h view
      have hsteady := (h.sampled view).of_alike hfirst.symm
      exact (ih hsteady).trans (hfold hfirst rest)

/-- **The order of a round does not matter** in a steady store. -/
theorem alike_updateAll_perm {views views' : List Ref} (hviews : views.Perm views') {w v : World}
    (h : w.store.Alike v.store) (hw : w.store.Steady) :
    (updateAll views w).store.Alike (updateAll views' v).store := by
  have hleft := alike_updateAll_of_steady views hw
  have hright := alike_updateAll_of_steady views' (hw.of_alike h)
  rw [hviews.foldl_eq] at hleft
  refine (hleft.trans ?_).trans hright.symm
  clear hleft hright hviews
  induction views' generalizing w v with
  | nil => exact h
  | cons view rest ih =>
      exact @ih { w with store := w.store.sampled view } { v with store := v.store.sampled view }
        (Store.alike_sampled h view) (hw.sampled view)

end Updater

namespace Registry

/-! ## What is done in between -/

/-- What is done with the metrics and the names of a registry between two snapshots. -/
inductive Use where
  | change (c : Store.Change) (r : Ref) (amount : Value)
  | recordEvent (r : Ref) (amount : Value)
  | assign (r : Ref) (v : Value)
  | updateViews
  | unregister (name : String)

/-- A use as a turn in the life of a registry. -/
def Use.turn (host : Host) : Use → Turn
  | change c r amount => .aside [.change c r amount] host
  | recordEvent r amount => .aside [.recordEvent r amount] host
  | assign r v => .aside [.assign r v] host
  | updateViews => .call .updateViews
  | unregister name => .call (.unregister name)

/-- What a use leaves behind; a use that is refused changes nothing. -/
def use (now : Registry × World) (u : Use) : Registry × World :=
  now.1.turn now.2 (u.turn now.2.host)

/-- Register metrics one after another. -/
def registerAll (now : Registry × World) (pairs : List (String × Ref)) : Registry × World :=
  pairs.foldl (fun now p => (now.1.register p.1 p.2 now.2).2) now

/-! ## Registries in another order -/

/-- Two registries with the same names and views in different orders, over stores that are alike and
steady. -/
structure Permuted (now now' : Registry × World) : Prop where
  metrics : now.1.metrics.Perm now'.1.metrics
  views : now.1.updater.views.Perm now'.1.updater.views
  tracked : now.1.Tracked now.2.store
  store : now.2.store.Alike now'.2.store
  steady : now.2.store.Steady

theorem alike_act {s t : Store} (h : s.Alike t) {a : Store.Action}
    (ha : ∃ done done' : Except Fault Store, Fault.Match Store.Alike done done' ∧
      s.act a = done.toOption.getD s ∧ t.act a = done'.toOption.getD t) :
    (s.act a).Alike (t.act a) := by
  obtain ⟨done, done', hdone, hs, ht⟩ := ha
  rw [hs, ht]
  cases hdone with
  | error fault => exact h
  | ok hst => exact hst

theorem Permuted.aside {now now' : Registry × World} (h : Permuted now now') {a : Store.Action}
    (hact : (now.2.store.act a).Alike (now'.2.store.act a))
    (hsteady : (now.2.store.act a).Steady) :
    Permuted (now.1.turn now.2 (.aside [a] now.2.host))
      (now'.1.turn now'.2 (.aside [a] now'.2.host)) where
  metrics := h.metrics
  views := h.views
  tracked := h.tracked.turn _
  store := hact
  steady := hsteady

theorem Permuted.updateViews {now now' : Registry × World} (h : Permuted now now') :
    Permuted (now.1.turn now.2 (.call .updateViews)) (now'.1.turn now'.2 (.call .updateViews)) where
  metrics := h.metrics
  views := h.views
  tracked := h.tracked.turn _
  store := Updater.alike_updateAll_perm h.views h.store h.steady
  steady := by
    have hround := Updater.alike_updateAll_of_steady now.1.updater.views h.steady
    have hsampled : ∀ views : List Ref, (views.foldl Store.sampled now.2.store).Steady := by
      intro views
      induction views using List.reverseRecOn with
      | nil => exact h.steady
      | append_singleton views view ih =>
          rw [List.foldl_append]
          exact ih.sampled view
    exact (hsampled _).of_alike hround.symm

/-- A removal takes the same metric out of both; where it shows a view, it only reads. -/
theorem Permuted.unregister {now now' : Registry × World} (h : Permuted now now') (name : String) :
    Permuted (now.1.turn now.2 (.call (.unregister name)))
      (now'.1.turn now'.2 (.call (.unregister name))) := by
  have halike (now : Registry × World) (hsteady : now.2.store.Steady) :
      (now.1.unregister name now.2).2.2.store.Alike now.2.store := by
    obtain ⟨actions, hread, hrun⟩ :=
      reachesBy_unregister (P := (·.isRead = true)) (fun _ ha => ha) now.1 name now.2
    rw [hrun]
    exact hsteady.alike_run hread
  have hleft := halike now h.steady
  have hright := halike now' (h.steady.of_alike h.store)
  have hstore := (hleft.trans h.store).trans hright.symm
  have hsteady := h.steady.of_alike hleft.symm
  have htracked := h.tracked.turn (.call (.unregister name))
  have hget := Table.get?_perm h.metrics h.tracked.keys_nodup name
  refine ⟨?_, ?_, htracked, hstore, hsteady⟩
  · show (now.1.unregister name now.2).2.1.metrics.Perm (now'.1.unregister name now'.2).2.1.metrics
    unfold Registry.unregister
    rw [← hget]
    cases now.1.metrics.get? name with
    | none => exact h.metrics
    | some r => exact h.metrics.filter _
  · show (now.1.unregister name now.2).2.1.updater.views.Perm
      (now'.1.unregister name now'.2).2.1.updater.views
    unfold Registry.unregister
    rw [← hget]
    cases now.1.metrics.get? name with
    | none => exact h.views
    | some r =>
        dsimp only
        rw [h.store.map_get? (f := Metric.isView) r fun _ _ => rfl]
        split
        · rw [views_remove, views_remove]
          exact h.views.erase r
        · exact h.views

/-- **What is done to both registries leaves them the same but for their orders.** -/
theorem Permuted.use {now now' : Registry × World} (h : Permuted now now') (u : Use) :
    Permuted (use now u) (use now' u) := by
  have hsteady {a : Store.Action} (ha : ∀ source, a ≠ .add (.function source)) :
      (now.2.store.act a).Steady := h.steady.act fun source heq => absurd heq (ha source)
  cases u with
  | change c r amount =>
      exact h.aside (alike_act h.store ⟨_, _, Store.alike_change h.store c r amount, rfl, rfl⟩)
        (hsteady fun _ => nofun)
  | recordEvent r amount =>
      exact h.aside (alike_act h.store ⟨_, _, Store.alike_recordEvent h.store r amount, rfl, rfl⟩)
        (hsteady fun _ => nofun)
  | assign r v =>
      exact h.aside (alike_act h.store ⟨_, _, Store.alike_assign h.store r v, rfl, rfl⟩)
        (hsteady fun _ => nofun)
  | updateViews => exact h.updateViews
  | unregister name => exact h.unregister name

theorem Permuted.useAll {now now' : Registry × World} (h : Permuted now now') (uses : List Use) :
    Permuted (uses.foldl Registry.use now) (uses.foldl Registry.use now') := by
  induction uses generalizing now now' with
  | nil => exact h
  | cons u rest ih => exact ih (h.use u)

/-! ## Registering in two orders -/

/-- Whether a registry takes a metric under a name. -/
def accepts (reg : Registry) (s : Store) (p : String × Ref) : Bool :=
  ((s.get? p.2).map Metric.isMetric).getD false && !reg.metrics.contains p.1

theorem register_of_not_accepts {reg : Registry} {w : World} {p : String × Ref}
    (h : reg.accepts w.store p = false) : (reg.register p.1 p.2 w).2 = (reg, w) := by
  rcases reg.register_cases p.1 p.2 w with hsame | ⟨hmetric, hfree, -⟩
  · exact hsame
  · rw [accepts, hmetric, hfree] at h
    cases h

/-- A metric that is accepted is put at the end, and if it is a view it is put at the end of the
views as well. -/
theorem register_of_accepts {reg : Registry} {w : World} {p : String × Ref}
    (h : reg.accepts w.store p = true) :
    (reg.register p.1 p.2 w).2.1 = { reg with metrics := reg.metrics ++ [p] }.track p.2 w.store := by
  rw [accepts, Bool.and_eq_true, Bool.not_eq_true'] at h
  obtain ⟨hmetric, hfree⟩ := h
  have hnew : p.1 ∉ reg.metrics.keys := by
    rw [← Table.contains_iff_mem_keys, hfree]
    exact Bool.false_ne_true
  exact (register_of_free hmetric hnew).2

theorem accepts_track {reg : Registry} {s : Store} {p q : String × Ref} (h : p.1 ≠ q.1) :
    ({ reg with metrics := reg.metrics ++ [p] }.track p.2 s).accepts s q = reg.accepts s q := by
  have hcontains : Table.contains (reg.metrics ++ [p]) q.1 = reg.metrics.contains q.1 := by
    simp [Table.contains, h]
  unfold track accepts
  split <;> simp only [hcontains]

/-- **What is left of a registration of many**, if no two have the same name. -/
theorem registerAll_eq {pairs : List (String × Ref)} (hnames : (Table.keys pairs).Nodup)
    (now : Registry × World) :
    (registerAll now pairs).1.metrics =
        now.1.metrics ++ pairs.filter (now.1.accepts now.2.store) ∧
      (registerAll now pairs).1.updater.views = now.1.updater.views ++
        ((pairs.filter (now.1.accepts now.2.store)).map (·.2)).filter now.2.store.isView ∧
      (registerAll now pairs).2.store = now.2.store := by
  induction pairs generalizing now with
  | nil => simp [registerAll]
  | cons p rest ih =>
      obtain ⟨hnew, hrest⟩ := List.nodup_cons.mp hnames
      obtain ⟨hmetrics, hviews, hstore⟩ := ih hrest (now.1.register p.1 p.2 now.2).2
      rw [store_register] at hmetrics hviews hstore
      show (registerAll (now.1.register p.1 p.2 now.2).2 rest).1.metrics = _ ∧
        (registerAll (now.1.register p.1 p.2 now.2).2 rest).1.updater.views = _ ∧
        (registerAll (now.1.register p.1 p.2 now.2).2 rest).2.store = _
      rw [hmetrics, hviews, hstore]
      cases haccepts : now.1.accepts now.2.store p with
      | false =>
          rw [register_of_not_accepts haccepts, List.filter_cons_of_neg (by simp [haccepts])]
          exact ⟨rfl, rfl, rfl⟩
      | true =>
          rw [register_of_accepts haccepts, List.filter_cons_of_pos haccepts]
          -- the name that is taken now is none of those that follow
          have hothers : rest.filter (({ now.1 with metrics := now.1.metrics ++ [p] }.track p.2
              now.2.store).accepts now.2.store) = rest.filter (now.1.accepts now.2.store) := by
            refine List.filter_congr fun q hq => accepts_track fun heq => hnew ?_
            exact List.mem_map.mpr ⟨q, hq, heq.symm⟩
          rw [hothers]
          refine ⟨?_, ?_, rfl⟩
          · unfold track
            split <;> exact List.append_assoc _ [p] _
          · rw [List.map_cons, List.filter_cons]
            unfold track
            show _ = now.1.updater.views ++ if now.2.store.isView p.2 = true then _ else _
            unfold Store.isView
            split
            · exact List.append_assoc _ [p.2] _
            · rfl

theorem tracked_registerAll {now : Registry × World} (h : now.1.Tracked now.2.store)
    (pairs : List (String × Ref)) :
    (registerAll now pairs).1.Tracked (registerAll now pairs).2.store := by
  induction pairs generalizing now with
  | nil => exact h
  | cons p rest ih => exact ih (h.turn (.call (.register p.1 p.2)))

theorem permuted_registerAll {now : Registry × World} (h : now.1.Tracked now.2.store)
    (hsteady : now.2.store.Steady) {pairs pairs' : List (String × Ref)}
    (hnames : (Table.keys pairs).Nodup) (hperm : pairs.Perm pairs') :
    Permuted (registerAll now pairs) (registerAll now pairs') := by
  have hnames' : (Table.keys pairs').Nodup := (hperm.map Prod.fst).nodup_iff.mp hnames
  obtain ⟨hmetrics, hviews, hstore⟩ := registerAll_eq hnames now
  obtain ⟨hmetrics', hviews', hstore'⟩ := registerAll_eq hnames' now
  refine ⟨?_, ?_, tracked_registerAll h pairs, ?_, ?_⟩
  · rw [hmetrics, hmetrics']
    exact (hperm.filter _).append_left _
  · rw [hviews, hviews']
    exact (((hperm.filter _).map _).filter _).append_left _
  · rw [hstore, hstore']
    exact .refl _
  · rw [hstore]
    exact hsteady

/-! ## What is measured -/

/-- **The order of registration does not matter to what is measured.** Metrics with different names
are registered in two orders, in a registry after any life of it, and then the same is done after
each: events are recorded, counters and gauges are changed, rounds are made and names are taken out.
If all functions behind gauges give the same answer on every call, every meter has the same window in
the end, and with it the same history and the same rate, and the same count. A snapshot fails after
both or holds the same under every key, if no two metrics share one. What the functions answer is
kept outside of the metric system (`Source`), so that no gauge follows the rate of a meter. -/
theorem registration_in_any_order {settings : Settings} {sinks : List Sink} {before after : Host}
    {first : Registry} (hcreate : create settings sinks before = (.ok first, after)) (w : World)
    (turns : List Turn) (hsteady : (first.live w turns).2.store.Steady)
    {pairs pairs' : List (String × Ref)} (hnames : (Table.keys pairs).Nodup)
    (hperm : pairs.Perm pairs') (uses : List Use) :
    let left := uses.foldl use (registerAll (first.live w turns) pairs)
    let right := uses.foldl use (registerAll (first.live w turns) pairs')
    (∀ r counter window, left.2.store.get? r = some (.meter counter window) ↔
      right.2.store.get? r = some (.meter counter window)) ∧
    (∀ r, left.2.store.meterRate r = right.2.store.meterRate r ∧
      (left.2.store.meterCount r).1 = (right.2.store.meterCount r).1) ∧
    ((left.1.metrics.flatMap left.2.store.keysOf).Nodup →
      (left.1.snapshot left.2).1.isOk = false ∧ (right.1.snapshot right.2).1.isOk = false ∨
        ∃ values values', (left.1.snapshot left.2).1 = .ok values ∧
          (right.1.snapshot right.2).1 = .ok values' ∧
          ∀ key, values.get? key = values'.get? key) := by
  intro left right
  have hpermuted : Permuted left right :=
    (permuted_registerAll (tracked_live hcreate w turns) hsteady hnames hperm).useAll uses
  refine ⟨fun r counter window => ?_, fun r => ?_, fun hkeys => ?_⟩
  · exact ⟨fun hr => hpermuted.store.get? hr fun _ => nofun,
      fun hr => hpermuted.store.symm.get? hr fun _ => nofun⟩
  · exact ⟨Store.alike_meterRate hpermuted.store r, (Store.alike_meterCount hpermuted.store r).1⟩
  · refine Store.snapshot_perm hpermuted.store hpermuted.steady hpermuted.metrics fun hread => ?_
    rw [Store.keys_given_visits hpermuted.tracked.exists_metric hread]
    exact hkeys

/-- A counter, a meter over it, a meter over a gauge that can never be read, a view that fails, and
another meter over the counter. -/
def sharedCounter : World where
  store := { metrics := #[.counter (.int 0), .meter 0 (.empty 2 1 (by decide)),
    .function (.script [.fault "ValueError" "closed"]), .gaugeCounter 2,
    .meter 3 (.empty 2 1 (by decide)), .view (some "lost") 0, .meter 0 (.empty 3 1 (by decide))] }
  host := twoViews.host

theorem steady_sharedCounter : sharedCounter.store.Steady := by
  intro r source h
  match r with
  | 0 | 1 | 3 | 4 | 5 | 6 => cases h
  | 2 =>
      cases h
      exact Source.steady_single _
  | _ + 7 => cases h

/-- Both meters over the counter, one of them twice, and the views that fail. -/
def manyNames : List (String × Ref) :=
  [("a", 1), ("b", 4), ("c", 5), ("d", 6), ("e", 1), ("f", 0)]

/-- Events between rounds; a name is taken out. -/
def usesBetween : List Use :=
  [.recordEvent 1 (.int 3), .updateViews, .unregister "a", .change .increase 0 (.int 4),
   .updateViews, .unregister "b"]

/-- What is left of these uses, if names were registered in the given order. -/
def sharedAfter (pairs : List (String × Ref)) : Registry × World :=
  usesBetween.foldl use (registerAll (bare.live sharedCounter []) pairs)

theorem registration_in_any_order_sharedCounter :
    (sharedAfter manyNames).2.store.meterRate 1 =
        (sharedAfter manyNames.reverse).2.store.meterRate 1 ∧
      ((sharedAfter manyNames).2.store.meterCount 6).1 =
        ((sharedAfter manyNames.reverse).2.store.meterCount 6).1 ∧
      ∃ values values',
        ((sharedAfter manyNames).1.snapshot (sharedAfter manyNames).2).1 = .ok values ∧
        ((sharedAfter manyNames.reverse).1.snapshot (sharedAfter manyNames.reverse).2).1 =
          .ok values' ∧
        ∀ key, values.get? key = values'.get? key := by
  have hread : ((sharedAfter manyNames).1.snapshot (sharedAfter manyNames).2).1.isOk = true := by
    decide +kernel
  have hkeys : ((sharedAfter manyNames).1.metrics.flatMap
      (sharedAfter manyNames).2.store.keysOf).Nodup := by decide +kernel
  have hsame := registration_in_any_order create_bare sharedCounter [] steady_sharedCounter
    (by decide : (Table.keys manyNames).Nodup) (List.reverse_perm manyNames).symm usesBetween
  -- from here on it does not matter what exactly the two have become
  unfold sharedAfter at *
  generalize usesBetween.foldl use (registerAll (bare.live sharedCounter []) manyNames) = left at *
  generalize usesBetween.foldl use (registerAll (bare.live sharedCounter []) manyNames.reverse) =
    right at *
  obtain ⟨-, hmeters, hsnapshot⟩ := hsame
  refine ⟨(hmeters 1).1, (hmeters 6).2, ?_⟩
  rcases hsnapshot hkeys with ⟨hfailed, -⟩ | hvalues
  · rw [hread] at hfailed
    cases hfailed
  · exact hvalues

end Registry

end Telemetry
