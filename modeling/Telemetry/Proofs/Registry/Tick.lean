import Mathlib.Data.List.Nodup
import Telemetry.Proofs.Registry.Round
import Telemetry.Proofs.Registry.Views

/-!
# Ticks of a registry

One tick of a registry samples the views that have names, and nothing else. But it goes by names: a
view is sampled once for each name it has. That names are unique does not make views unique, so the
history of a meter under two names advances by two slots in a tick.

Main statement: `sampled_in_tick`.
-/

namespace Telemetry

namespace Registry

theorem count_eq_one_iff_nodup (l : List Ref) :
    (∀ r, l.count r = if r ∈ l then 1 else 0) ↔ l.Nodup := by
  constructor
  · intro hcount
    refine List.nodup_iff_count_le_one.mpr fun r => ?_
    rw [hcount]
    split <;> omega
  · intro hnodup r
    split
    · next hmem => exact List.count_eq_one_of_mem hnodup hmem
    · next hmem => exact List.count_eq_zero.mpr hmem

/-- **What one tick samples, after any life of a registry.** A view is sampled once for each name
that it has, and nothing else is sampled: a view that counts its samples counts so many more, and
the history of a meter takes in one answer of its counter for each of its names and moves on by
those that are readings. So each registered view is sampled exactly once if and only if none of them
has two names. -/
theorem sampled_in_tick {settings : Settings} {sinks : List Sink} {before after : Host}
    {reg : Registry} (hcreate : create settings sinks before = (.ok reg, after)) (w : World)
    (turns : List Turn) :
    let now := (reg.live w turns).1
    let world := (reg.live w turns).2
    let tick := Updater.roundActions now.updater.views world
    (now.updateViews world).store = world.store.run tick ∧
      (∀ r, tick.countP (·.samples r) =
        if world.store.isView r then now.metrics.countP (·.2 = r) else 0) ∧
      (∀ r failure calls, world.store.get? r = some (.view failure calls) →
        (now.updateViews world).store.get? r =
          some (.view failure (calls + now.metrics.countP (·.2 = r)))) ∧
      (∀ r counter window, world.store.get? r = some (.meter counter window) →
        ∃ answers : List (Except Fault Number),
          answers.length = now.metrics.countP (·.2 = r) ∧
          (now.updateViews world).store.get? r = some (.meter counter (window.attempts answers)) ∧
          (window.attempts answers).cursor.val =
            (window.cursor.val + answers.countP Except.isOk) % (window.panes + 1)) ∧
      ((∀ r, tick.countP (·.samples r) = if r ∈ now.viewRefs world.store then 1 else 0) ↔
        (now.viewRefs world.store).Nodup) := by
  intro now world tick
  have hrun : (now.updateViews world).store = world.store.run tick :=
    Updater.store_updateAll now.updater.views world
  have hcount : ∀ r, tick.countP (·.samples r) = (now.viewRefs world.store).count r := by
    intro r
    rw [Updater.countP_roundActions]
    exact (tracked_live hcreate w turns).perm.count_eq r
  have hnames : ∀ r, tick.countP (·.samples r) =
      if world.store.isView r then now.metrics.countP (·.2 = r) else 0 := by
    intro r
    rw [hcount, count_viewRefs]
  refine ⟨hrun, hnames, ?_, ?_, ?_⟩
  · intro r failure calls hview
    have hafter := Store.get?_run_view hview tick
    rw [hnames, Store.isView_of_get? hview] at hafter
    rw [hrun]
    exact hafter
  · intro r counter window hmeter
    refine ⟨world.store.heard r counter tick, ?_, ?_, window.cursor_attempts _⟩
    · have hview : world.store.isView r = true := Store.isView_of_get? hmeter
      rw [Store.heard, List.length_map, Store.length_sampledAt, hnames, if_pos hview]
    · rw [hrun]
      exact Store.get?_run_meter hmeter tick
  · simp only [hcount]
    exact count_eq_one_iff_nodup _

/-- Both views are registered, and so is a counter that is no view. -/
def registeredOnce : List Turn :=
  [.call (.register "a" 0), .call (.counter "n" none), .call (.register "b" 1)]

theorem sampled_in_tick_registeredOnce :
    let now := (bare.live twoViews registeredOnce).1
    let world := (bare.live twoViews registeredOnce).2
    ∀ r, (Updater.roundActions now.updater.views world).countP (·.samples r) =
      if r ∈ now.viewRefs world.store then 1 else 0 := by
  have hnodup : ((bare.live twoViews registeredOnce).1.viewRefs
      (bare.live twoViews registeredOnce).2.store).Nodup := by decide +kernel
  obtain ⟨-, -, -, -, honce⟩ := sampled_in_tick create_bare twoViews registeredOnce
  exact honce.mpr hnodup

/-- One view is registered under two names. -/
def underTwoNames : List Turn := [.call (.register "a" 0), .call (.register "b" 0)]

/-- **A view under two names is sampled twice in one tick.** -/
theorem sampled_twice_underTwoNames :
    create bare.settings [] twoViews.host = (.ok bare, twoViews.host) ∧
      ((bare.live twoViews underTwoNames).1.updateViews
        (bare.live twoViews underTwoNames).2).store.get? 0 = some (.view none 2) :=
  ⟨rfl, rfl⟩

end Registry

end Telemetry
