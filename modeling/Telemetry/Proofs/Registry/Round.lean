import Mathlib.Data.List.Forall2
import Telemetry.Proofs.Store.Sampling
import Telemetry.Registry

/-!
# Rounds of an updater

One round of an updater is a run of the store: every view of the list is sampled, in order and once
for each time it is listed, whether the views before it failed or not. In between there are only
readings, because a warning shows the view that failed.

Main statements: `store_updateAll` (a round is the run of its actions), `filter_roundActions` and
`countP_roundActions` (what is sampled in it, and how often) and `host_updateAll` (its warnings).
-/

namespace Telemetry

/-! ## Messages -/

namespace World

/-- A message that shows an object reads it, if the message is kept. -/
theorem store_logAbout (w : World) (level : Int) (before : String) (r : Ref) (after : String)
    (cause : Option Fault) :
    (w.logAbout level before r after cause).store =
      if w.host.keeps logger level then (w.store.describe r).2 else w.store := by
  unfold logAbout
  split <;> rfl

theorem reachesBy_logAbout {P : Store.Action → Prop} (hread : ∀ a, a.isRead = true → P a)
    (w : World) (level : Int) (before : String) (r : Ref) (after : String) (cause : Option Fault) :
    w.store.ReachesBy P (w.logAbout level before r after cause).store := by
  rw [store_logAbout]
  split
  · exact w.store.reachesBy_act (hread (.describe r) rfl)
  · exact .refl w.store

end World

/-! ## Warnings -/

/-- Warnings of a registry, one for each fault and in order. -/
def Warns (records : List Record) (faults : List Fault) : Prop :=
  List.Forall₂ (fun record fault => record.logger = World.logger ∧
    record.level = .int Level.warning ∧ record.cause = some fault) records faults

theorem Warns.append {first second : List Record} {faults others : List Fault}
    (h : Warns first faults) (h' : Warns second others) :
    Warns (first ++ second) (faults ++ others) :=
  List.rel_append h h'

/-- The faults that there are warnings of: all, or none if warnings are not kept. -/
def Host.warned (host : Host) (faults : List Fault) : List Fault :=
  if host.keeps World.logger Level.warning then faults else []

@[simp] theorem Host.warned_nil (host : Host) : host.warned [] = [] := by
  unfold warned
  split <;> rfl

theorem Host.warned_append (host : Host) (faults others : List Fault) :
    host.warned (faults ++ others) = host.warned faults ++ host.warned others := by
  unfold warned
  split <;> rfl

/-! ## Rounds as runs -/

namespace Updater

/-- What an updater does to a view: it samples it, and reads it for the warning if that fails. -/
def viewActions (w : World) (view : Ref) : List Store.Action :=
  if (w.store.sample view).1.isOk then [.sample view]
  else if w.host.keeps World.logger Level.warning then [.sample view, .describe view]
  else [.sample view]

/-- What an updater does in one round. -/
def roundActions : List Ref → World → List Store.Action
  | [], _ => []
  | view :: rest, w => viewActions w view ++ roundActions rest (sampleView w view)

theorem store_sampleView (w : World) (view : Ref) :
    (sampleView w view).store = w.store.run (viewActions w view) := by
  unfold sampleView viewActions
  cases hsample : w.store.sample view with
  | mk result store =>
      have hafter : (w.store.sample view).2 = store := by rw [hsample]
      cases result with
      | ok _ =>
          show store = w.store.run [.sample view]
          exact hafter.symm
      | error fault =>
          show (World.logAbout { w with store } _ _ view _ _).store = _
          rw [World.store_logAbout]
          -- the warning shows the view as the failed sample left it
          show (if w.host.keeps World.logger Level.warning then (store.describe view).2 else store) =
            w.store.run (if w.host.keeps World.logger Level.warning then
              [.sample view, .describe view] else [.sample view])
          rw [← hafter]
          split <;> rfl

/-- **A round is the run of its actions.** -/
theorem store_updateAll (views : List Ref) (w : World) :
    (updateAll views w).store = w.store.run (roundActions views w) := by
  induction views generalizing w with
  | nil => rfl
  | cons view rest ih =>
      rw [roundActions, Store.run_append, ← store_sampleView]
      exact ih (sampleView w view)

theorem countP_viewActions (w : World) (view r : Ref) :
    (viewActions w view).countP (·.samples r) = if view = r then 1 else 0 := by
  unfold viewActions
  split
  · simp [Store.Action.samples, List.countP_cons]
  · split <;> simp [Store.Action.samples, List.countP_cons]

/-- **A round samples an object as often as it is listed.** -/
theorem countP_roundActions (views : List Ref) (w : World) (r : Ref) :
    (roundActions views w).countP (·.samples r) = views.count r := by
  induction views generalizing w with
  | nil => rfl
  | cons view rest ih =>
      rw [roundActions, List.countP_append, countP_viewActions, ih, List.count_cons, Nat.add_comm]
      simp

/-- **A round samples its views in order**, and does nothing else but describe them. -/
theorem filter_roundActions (views : List Ref) (w : World) :
    (roundActions views w).filter Store.Action.isSample = views.map .sample := by
  induction views generalizing w with
  | nil => rfl
  | cons view rest ih =>
      have hview : (viewActions w view).filter Store.Action.isSample = [.sample view] := by
        unfold viewActions
        split
        · rfl
        · split <;> rfl
      rw [roundActions, List.filter_append, hview, ih]
      rfl

theorem reaches_updateAll (views : List Ref) (w : World) :
    w.store.Reaches (updateAll views w).store :=
  ⟨roundActions views w, store_updateAll views w⟩

/-- A round does nothing but sample and describe. -/
theorem isSample_or_isRead_of_mem_roundActions {views : List Ref} {w : World} {a : Store.Action}
    (h : a ∈ roundActions views w) : a.isSample = true ∨ a.isRead = true := by
  induction views generalizing w with
  | nil => cases h
  | cons view rest ih =>
      rw [roundActions, List.mem_append] at h
      rcases h with h | h
      · unfold viewActions at h
        split at h
        · cases List.mem_singleton.mp h
          exact .inl rfl
        · split at h
          · rcases List.mem_pair.mp h with rfl | rfl
            · exact .inl rfl
            · exact .inr rfl
          · cases List.mem_singleton.mp h
            exact .inl rfl
      · exact ih h

theorem reachesBy_remove {P : Store.Action → Prop} (hread : ∀ a, a.isRead = true → P a)
    (u : Updater) (view : Ref) (w : World) : w.store.ReachesBy P (u.remove view w).2.store := by
  unfold remove
  split
  · exact .refl w.store
  · exact World.reachesBy_logAbout hread w _ _ _ _ _

theorem reaches_remove (u : Updater) (view : Ref) (w : World) :
    w.store.Reaches (u.remove view w).2.store :=
  (u.reachesBy_remove (fun _ ha => ha) view w).reaches

/-! ## Warnings of a round -/

/-- What becomes of the samples of a round, in order. -/
def outcomes : List Ref → World → List (Except Fault Unit)
  | [], _ => []
  | view :: rest, w => (w.store.sample view).1 :: outcomes rest (sampleView w view)

theorem length_outcomes (views : List Ref) (w : World) :
    (outcomes views w).length = views.length := by
  induction views generalizing w with
  | nil => rfl
  | cons view rest ih => rw [outcomes, List.length_cons, ih, List.length_cons]

theorem host_sampleView (w : World) (view : Ref) :
    ∃ new, (sampleView w view).host = { w.host with records := w.host.records ++ new } ∧
      Warns new (w.host.warned (Fault.of? (w.store.sample view).1).toList) := by
  unfold sampleView
  cases w.store.sample view with
  | mk result store =>
      cases result with
      | ok _ =>
          refine ⟨[], by simp, ?_⟩
          show Warns [] (w.host.warned [])
          rw [Host.warned_nil]
          exact .nil
      | error fault =>
          cases hkeeps : w.host.keeps World.logger Level.warning with
          | true =>
              simp only [World.logAbout, Host.warned, hkeeps, if_true]
              exact ⟨[_], rfl, .cons ⟨rfl, rfl, rfl⟩ .nil⟩
          | false =>
              simp only [World.logAbout, Host.warned, hkeeps]
              exact ⟨[], by simp, .nil⟩

/-- **A round leaves the host as it was but for its warnings**: one for each sample that failed, in
order, if warnings are kept at all. -/
theorem host_updateAll (views : List Ref) (w : World) :
    ∃ new, (updateAll views w).host = { w.host with records := w.host.records ++ new } ∧
      Warns new (w.host.warned ((outcomes views w).filterMap Fault.of?)) := by
  induction views generalizing w with
  | nil =>
      refine ⟨[], by simp [updateAll], ?_⟩
      rw [outcomes, List.filterMap_nil, Host.warned_nil]
      exact .nil
  | cons view rest ih =>
      obtain ⟨first, hfirst, hwarns⟩ := host_sampleView w view
      obtain ⟨others, hothers, hrest⟩ := ih (sampleView w view)
      refine ⟨first ++ others, ?_, ?_⟩
      · show (updateAll rest (sampleView w view)).host = _
        rw [hothers, hfirst, List.append_assoc]
      · have hsplit : (outcomes (view :: rest) w).filterMap Fault.of? =
            (Fault.of? (w.store.sample view).1).toList ++
              (outcomes rest (sampleView w view)).filterMap Fault.of? := by
          rw [outcomes, List.filterMap_cons]
          cases Fault.of? (w.store.sample view).1 <;> rfl
        -- warnings do not change which messages are kept
        have hkept : (sampleView w view).host.warned = w.host.warned := by
          rw [hfirst]
          rfl
        rw [hkept] at hrest
        rw [hsplit, Host.warned_append]
        exact hwarns.append hrest

end Updater

end Telemetry
