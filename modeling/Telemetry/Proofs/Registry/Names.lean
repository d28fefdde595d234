import Telemetry.Proofs.Registry.Call

/-!
# Names and views

A registry keeps its metrics twice: all of them under names, and those that are views in the list of
its updater as well. Whatever is called, a call does at most one of two things to the two: it puts a
metric under a name that was free, or it takes a name away. The calls that fail, and those that have
to do with sinks and workers, do neither.

Main statements: `renames_call` (what a call does to names and views) and `created_registry` (a new
registry has neither).
-/

namespace Telemetry

namespace Store

/-- Whether there is a view behind a reference. -/
def isView (s : Store) (r : Ref) : Bool := ((s.get? r).map Metric.isView).getD false

theorem isView_of_get? {s : Store} {r : Ref} {m : Metric} (h : s.get? r = some m) :
    s.isView r = m.isView := by
  rw [isView, h]
  rfl

/-- What is there does not become a view, and does not cease to be one. -/
theorem Grows.isView {s t : Store} (hgrows : s.Grows t) {r : Ref} {m : Metric}
    (h : s.get? r = some m) : t.isView r = s.isView r := by
  obtain ⟨m', hm', hbecomes⟩ := hgrows r m h
  rw [isView_of_get? h, isView_of_get? hm', hbecomes.isView]

end Store

namespace Registry

/-- What a call does to names and views. -/
inductive Renames (reg : Registry) (s t : Store) : Registry → Prop where
  | kept {after : Registry} (hmetrics : after.metrics = reg.metrics)
      (hviews : after.updater.views = reg.updater.views) : Renames reg s t after
  | added {after : Registry} {name : String} {r : Ref} {m : Metric}
      (hfree : name ∉ reg.metrics.keys) (hr : t.get? r = some m)
      (hmetrics : after.metrics = reg.metrics ++ [(name, r)])
      (hviews : after.updater.views =
        if t.isView r then reg.updater.views ++ [r] else reg.updater.views) : Renames reg s t after
  | removed {after : Registry} {name : String} {r : Ref}
      (hname : reg.metrics.get? name = some r)
      (hmetrics : after.metrics = reg.metrics.erase name)
      (hviews : after.updater.views =
        if s.isView r then reg.updater.views.erase r else reg.updater.views) : Renames reg s t after

theorem renames_register (reg : Registry) (name : String) (r : Ref) (w : World) (s : Store) :
    reg.Renames s (reg.register name r w).2.2.store (reg.register name r w).2.1 := by
  rcases reg.register_cases name r w with hsame | ⟨hmetric, hfree, hafter, hstore⟩
  · rw [hsame]
    exact .kept rfl rfl
  · -- a free name is put at the end of the table
    have hnew : name ∉ reg.metrics.keys := by
      rw [← Table.contains_iff_mem_keys, hfree]
      exact Bool.false_ne_true
    rw [hafter, hstore]
    cases hr : w.store.get? r with
    | none =>
        rw [hr] at hmetric
        cases hmetric
    | some m =>
        refine .added hnew hr ?_ ?_
        · rw [← Table.set_of_not_mem hnew]
          unfold track
          split <;> rfl
        · rw [track, Store.isView]
          split <;> rfl

theorem renames_registerBuilt (reg : Registry) (name : String)
    (built : Except Fault (Ref × Store)) (w : World) (s : Store) :
    reg.Renames s (reg.registerBuilt name built w).2.2.store
      (reg.registerBuilt name built w).2.1 := by
  rcases reg.registerBuilt_cases name built w with hsame | ⟨r, store, -, hdone⟩
  · rw [hsame]
    exact .kept rfl rfl
  · rw [hdone]
    exact reg.renames_register name r { w with store } s

theorem views_remove (u : Updater) (view : Ref) (w : World) :
    (u.remove view w).1.views = u.views.erase view := by
  unfold Updater.remove
  split
  · rfl
  · next hnone => exact (List.erase_of_not_mem hnone).symm

theorem renames_unregister (reg : Registry) (name : String) (w : World) (t : Store) :
    reg.Renames w.store t (reg.unregister name w).2.1 := by
  rcases reg.unregister_cases name w with hsame | ⟨r, hname, hafter, -⟩
  · rw [hsame]
    exact .kept rfl rfl
  · rw [hafter]
    refine .removed hname rfl ?_
    show (if w.store.isView r then _ else _ : Updater).views = _
    split
    · exact views_remove _ r w
    · rfl

theorem renames_report (reg : Registry) (now : Value) (w : World) (s t : Store) :
    reg.Renames s t (reg.report now w).2.1 := by
  unfold report
  dsimp only
  split <;> exact .kept rfl rfl

theorem renames_start (reg : Registry) (w : World) (s t : Store) :
    reg.Renames s t (reg.start w).2.1 := by
  unfold start
  split
  · exact .kept rfl rfl
  · split
    · exact .kept rfl rfl
    · dsimp only
      split <;> exact .kept rfl rfl

/-- **A call puts one metric under a free name, takes one name away, or leaves names and views
alone.** -/
theorem renames_call (reg : Registry) (w : World) (c : Call) :
    reg.Renames w.store (reg.call w c).2.store (reg.call w c).1 := by
  cases c with
  | register name r => exact reg.renames_register name r w _
  | counter name given => exact reg.renames_registerBuilt name _ w _
  | gauge name offer => exact reg.renames_registerBuilt name _ w _
  | meter name counter span => exact reg.renames_registerBuilt name _ w _
  | gaugeMeter name offer span => exact reg.renames_registerBuilt name _ w _
  | unregister name => exact reg.renames_unregister name w _
  | report now => exact reg.renames_report now w _ _
  | start => exact reg.renames_start w _ _
  | updateViews | snapshot | close | assign => exact .kept rfl rfl

/-- A new registry has no names and no views, has not reported and is not started. -/
theorem created_registry {settings : Settings} {sinks : List Sink} {host after : Host}
    {reg : Registry} (h : create settings sinks host = (.ok reg, after)) :
    reg.metrics = [] ∧ reg.updater.views = [] ∧ reg.step = 0 ∧ reg.started = false := by
  unfold create at h
  split at h
  · cases h
  · next built host _ =>
    rw [Prod.mk.injEq] at h
    obtain ⟨h, -⟩ := h
    obtain ⟨updater, hupdater, h⟩ := Fault.bind_eq_ok.mp h
    obtain ⟨reporter, -, h⟩ := Fault.bind_eq_ok.mp h
    obtain ⟨worker, -, hworker⟩ := Fault.bind_eq_ok.mp hupdater
    cases hworker
    cases h
    exact ⟨rfl, rfl, rfl, rfl⟩

end Registry

end Telemetry
