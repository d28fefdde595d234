import Telemetry.Proofs.Registry.Life

/-!
# The views of a registry

The list of the updater and the names of a registry agree about which views there are, and how often
each of them is named. They need not agree about the order: a view that loses one of several names
loses its first place in the list, whichever name it was.

Main statements: `views_renames` (what a call does to both), `Tracked.renames` (so that they keep
fitting together) and `tracked_live` (for life).
-/

namespace Telemetry

/-! ## Names -/

namespace Table

variable {α : Type}

/-- A name that is held has a place, and erasing it leaves what is before and behind. -/
theorem eq_append_of_get? {t : Table α} (hkeys : t.keys.Nodup) {name : String} {a : α}
    (h : t.get? name = some a) :
    ∃ before behind, t = before ++ (name, a) :: behind ∧ t.erase name = before ++ behind := by
  induction t with
  | nil => cases h
  | cons entry rest ih =>
      obtain ⟨k, b⟩ := entry
      obtain ⟨hnew, hrest⟩ := List.nodup_cons.mp hkeys
      by_cases hk : k = name
      · subst hk
        rw [get?, if_pos rfl] at h
        cases h
        refine ⟨[], rest, rfl, ?_⟩
        have hkeep : rest.filter (·.1 ≠ k) = rest := by
          refine List.filter_eq_self.mpr fun p hp => ?_
          refine decide_eq_true fun heq => hnew ?_
          rw [← heq]
          exact List.mem_map.mpr ⟨p, hp, rfl⟩
        rw [erase, List.filter_cons_of_neg (by simp), hkeep, List.nil_append]
      · rw [get?, if_neg hk] at h
        obtain ⟨before, behind, hsplit, herase⟩ := ih hrest h
        refine ⟨(k, b) :: before, behind, ?_, ?_⟩
        · rw [hsplit, List.cons_append]
        · rw [erase, List.filter_cons_of_pos (by simpa using hk), List.cons_append, ← herase, erase]

end Table

namespace Registry

/-- The views that a registry has names for, once for each name and in the order of the names. -/
def viewRefs (reg : Registry) (s : Store) : List Ref := (reg.metrics.map (·.2)).filter s.isView

/-- The names and the list of views fit together. -/
structure Tracked (reg : Registry) (s : Store) : Prop where
  keys_nodup : reg.metrics.keys.Nodup
  exists_metric : ∀ p ∈ reg.metrics, ∃ m, s.get? p.2 = some m
  perm : reg.updater.views.Perm (reg.viewRefs s)

/-- A view has names exactly as often as it is among the views. -/
theorem count_viewRefs (reg : Registry) (s : Store) (r : Ref) :
    (reg.viewRefs s).count r = if s.isView r then reg.metrics.countP (·.2 = r) else 0 := by
  unfold viewRefs
  split
  · next hview =>
    rw [List.count_filter hview, List.count, List.countP_map]
    refine List.countP_congr fun p _ => ?_
    simp
  · next hview =>
    refine List.count_eq_zero.mpr fun hmem => ?_
    exact hview (List.mem_filter.mp hmem).2

theorem mem_viewRefs {reg : Registry} {s : Store} {r : Ref} :
    r ∈ reg.viewRefs s ↔ s.isView r = true ∧ ∃ name, (name, r) ∈ reg.metrics := by
  simp [viewRefs, and_comm]

/-- What is registered stays registered, and stays a view if it is one. -/
theorem viewRefs_of_grows {reg : Registry} {s t : Store} (hgrows : s.Grows t)
    (hexists : ∀ p ∈ reg.metrics, ∃ m, s.get? p.2 = some m) :
    reg.viewRefs t = reg.viewRefs s := by
  refine List.filter_congr fun r hr => ?_
  obtain ⟨p, hp, rfl⟩ := List.mem_map.mp hr
  obtain ⟨m, hm⟩ := hexists p hp
  exact hgrows.isView hm

theorem Tracked.grows {reg : Registry} {s t : Store} (h : reg.Tracked s) (hgrows : s.Grows t) :
    reg.Tracked t where
  keys_nodup := h.keys_nodup
  exists_metric := by
    intro p hp
    obtain ⟨m, hm⟩ := h.exists_metric p hp
    obtain ⟨m', hm', -⟩ := hgrows p.2 m hm
    exact ⟨m', hm'⟩
  perm := by
    rw [viewRefs_of_grows hgrows h.exists_metric]
    exact h.perm

/-- The views that a registry has under names that it did not have before. -/
def newViews (before after : Registry) (s : Store) : List Ref :=
  ((after.metrics.filter fun p => !before.metrics.contains p.1).map (·.2)).filter s.isView

theorem newViews_of_subset {before after : Registry} (s : Store)
    (h : after.metrics ⊆ before.metrics) : before.newViews after s = [] := by
  have hnone : (after.metrics.filter fun p => !before.metrics.contains p.1) = [] := by
    refine List.filter_eq_nil_iff.mpr fun p hp => ?_
    have hheld : before.metrics.contains p.1 = true := by
      rw [Table.contains_iff_mem_keys]
      exact List.mem_map.mpr ⟨p, h hp, rfl⟩
    rw [hheld]
    exact Bool.false_ne_true
  rw [newViews, hnone]
  rfl

theorem newViews_append {before after : Registry} {name : String} {r : Ref} (s : Store)
    (hfree : name ∉ before.metrics.keys) (h : after.metrics = before.metrics ++ [(name, r)]) :
    before.newViews after s = [r].filter s.isView := by
  have hold : before.newViews before s = [] := newViews_of_subset s fun _ hp => hp
  have hnew : before.metrics.contains name = false := by
    rw [← Bool.not_eq_true, Table.contains_iff_mem_keys]
    exact hfree
  rw [newViews] at hold ⊢
  rw [h, List.filter_append, List.map_append, List.filter_append, hold,
    List.filter_cons_of_pos (by simp [hnew])]
  rfl

/-- What becomes of the views in one call: nothing, a view is put at the end of both lists, or one
is taken out of both, and then it is its first place in the one and some place in the other. -/
theorem views_renames {reg after : Registry} {s t : Store} (h : reg.Tracked s) (hgrows : s.Grows t)
    (hrenames : reg.Renames s t after) :
    (after.updater.views = reg.updater.views ∧ after.viewRefs t = reg.viewRefs s ∧
      reg.newViews after t = []) ∨
    (∃ r, after.updater.views = reg.updater.views ++ [r] ∧
      after.viewRefs t = reg.viewRefs s ++ [r] ∧ reg.newViews after t = [r]) ∨
    (∃ r before behind, after.updater.views = reg.updater.views.erase r ∧
      reg.viewRefs s = before ++ r :: behind ∧ after.viewRefs t = before ++ behind ∧
      reg.newViews after t = []) := by
  have hsame := viewRefs_of_grows hgrows h.exists_metric
  cases hrenames with
  | kept hmetrics hviews =>
      left
      refine ⟨hviews, ?_, newViews_of_subset t (by rw [hmetrics]; exact fun _ hp => hp)⟩
      rw [viewRefs, hmetrics]
      exact hsame
  | @added name r m hfree hr hmetrics hviews =>
      have hnew := newViews_append t hfree hmetrics
      have hrefs : after.viewRefs t = reg.viewRefs s ++ [r].filter t.isView := by
        rw [← hsame, viewRefs, hmetrics, List.map_append, List.filter_append]
        rfl
      cases hview : t.isView r with
      | true =>
          right; left
          rw [if_pos hview] at hviews
          rw [List.filter_cons_of_pos hview] at hrefs hnew
          exact ⟨r, hviews, hrefs, hnew⟩
      | false =>
          left
          have hno : ¬t.isView r = true := by
            rw [hview]
            exact Bool.false_ne_true
          rw [if_neg hno] at hviews
          rw [List.filter_cons_of_neg hno, List.filter_nil] at hrefs hnew
          rw [List.append_nil] at hrefs
          exact ⟨hviews, hrefs, hnew⟩
  | @removed name r hname hmetrics hviews =>
      obtain ⟨before, behind, hsplit, herase⟩ := Table.eq_append_of_get? h.keys_nodup hname
      have hmem : (name, r) ∈ reg.metrics := by
        rw [hsplit]
        exact List.mem_append_right before List.mem_cons_self
      obtain ⟨m, hm⟩ := h.exists_metric (name, r) hmem
      -- the updater asks the store before the call, the names are read in the one after it
      have hview : t.isView r = s.isView r := hgrows.isView hm
      have hnew : reg.newViews after t = [] := by
        refine newViews_of_subset t ?_
        rw [hmetrics]
        exact fun p hp => (List.mem_filter.mp hp).1
      rw [← hsame]
      simp only [viewRefs, hmetrics, herase]
      rw [hsplit, List.map_append, List.map_append, List.map_cons, List.filter_append,
        List.filter_append]
      cases hs : s.isView r with
      | true =>
          right; right
          rw [if_pos hs] at hviews
          rw [List.filter_cons_of_pos (by rw [hview, hs])]
          exact ⟨r, _, _, hviews, rfl, rfl, hnew⟩
      | false =>
          left
          rw [hs] at hviews
          rw [List.filter_cons_of_neg (by rw [hview, hs]; exact Bool.false_ne_true)]
          exact ⟨hviews, rfl, hnew⟩

theorem nodup_keys_renames {reg after : Registry} {s t : Store} (h : reg.metrics.keys.Nodup)
    (hrenames : reg.Renames s t after) : after.metrics.keys.Nodup := by
  cases hrenames with
  | kept hmetrics => rw [hmetrics]; exact h
  | @added name r _ hfree _ hmetrics =>
      rw [hmetrics, ← Table.set_of_not_mem hfree]
      exact Table.nodup_keys_set h name r
  | @removed name _ _ hmetrics =>
      rw [hmetrics]
      exact Table.nodup_keys_erase h name

theorem exists_metric_renames {reg after : Registry} {s t : Store} (h : reg.Tracked s)
    (hgrows : s.Grows t) (hrenames : reg.Renames s t after) :
    ∀ p ∈ after.metrics, ∃ m, t.get? p.2 = some m := by
  have hold := (h.grows hgrows).exists_metric
  intro p hp
  cases hrenames with
  | kept hmetrics =>
      rw [hmetrics] at hp
      exact hold p hp
  | added _ hr hmetrics =>
      rw [hmetrics, List.mem_append, List.mem_singleton] at hp
      rcases hp with hp | rfl
      · exact hold p hp
      · exact ⟨_, hr⟩
  | removed _ hmetrics =>
      rw [hmetrics] at hp
      exact hold p (List.mem_filter.mp hp).1

/-- **Whatever happens to the names, they keep fitting together with the views.** -/
theorem Tracked.renames {reg after : Registry} {s t : Store} (h : reg.Tracked s)
    (hgrows : s.Grows t) (hrenames : reg.Renames s t after) : after.Tracked t where
  keys_nodup := nodup_keys_renames h.keys_nodup hrenames
  exists_metric := exists_metric_renames h hgrows hrenames
  perm := by
    have hperm := h.perm
    rcases views_renames h hgrows hrenames with ⟨hviews, hrefs, -⟩ | ⟨r, hviews, hrefs, -⟩ |
      ⟨r, before, behind, hviews, hbefore, hafter, -⟩
    · rw [hviews, hrefs]
      exact hperm
    · rw [hviews, hrefs]
      exact hperm.append_right [r]
    · rw [hbefore] at hperm
      rw [hviews, hafter]
      have herase := (hperm.trans List.perm_middle).erase r
      rwa [List.erase_cons_head] at herase

theorem Tracked.turn {reg : Registry} {w : World} (h : reg.Tracked w.store) (t : Turn) :
    (reg.turn w t).1.Tracked (reg.turn w t).2.store :=
  h.renames (reg.reaches_turn w t).grows (reg.renames_turn w t)

theorem tracked_of_create {settings : Settings} {sinks : List Sink} {host after : Host}
    {reg : Registry} (h : create settings sinks host = (.ok reg, after)) (s : Store) :
    reg.Tracked s := by
  obtain ⟨hmetrics, hviews, -⟩ := created_registry h
  refine ⟨?_, ?_, ?_⟩
  · rw [hmetrics]
    exact List.nodup_nil
  · simp [hmetrics]
  · rw [viewRefs, hmetrics, hviews]
    exact .refl []

/-- **Names and views fit together as long as a registry lives.** -/
theorem tracked_live {settings : Settings} {sinks : List Sink} {before after : Host}
    {reg : Registry} (h : create settings sinks before = (.ok reg, after)) (w : World)
    (turns : List Turn) : (reg.live w turns).1.Tracked (reg.live w turns).2.store :=
  live_induction (fun _ _ t htracked => htracked.turn t) (tracked_of_create h w.store) turns

end Registry

end Telemetry
