import Telemetry.Proofs.Store.Action

/-!
# Views during a run

A view changes when it is sampled and at no other time. So of a whole run only the samples of a
view matter to it, and of each sample only the store in which it happens: for a meter this is where
the counter is read.

Main statements: `get?_run_meter` (the window is the one that comes of the answers of the counter)
and `get?_run_view` (a view counts its samples).
-/

namespace Telemetry

namespace Store

/-- The stores in which an object is sampled during a run, in order. -/
def sampledAt : Store → Ref → List Action → List Store
  | _, _, [] => []
  | s, r, a :: rest =>
    if a.samples r then s :: sampledAt (s.act a) r rest else sampledAt (s.act a) r rest

/-- What a counter answers at the samples of an object during a run. -/
def heard (s : Store) (r counter : Ref) (actions : List Action) : List (Except Fault Number) :=
  (s.sampledAt r actions).map fun t => (t.count counter).1

theorem sampledAt_cons_of_samples {s : Store} {r : Ref} {a : Action} (ha : a.samples r = true)
    (rest : List Action) : s.sampledAt r (a :: rest) = s :: (s.act a).sampledAt r rest := by
  rw [sampledAt, if_pos ha]

theorem sampledAt_cons_of_not_samples {s : Store} {r : Ref} {a : Action}
    (ha : a.samples r = false) (rest : List Action) :
    s.sampledAt r (a :: rest) = (s.act a).sampledAt r rest := by
  rw [sampledAt, if_neg (by rw [ha]; exact Bool.false_ne_true)]

theorem length_sampledAt (s : Store) (r : Ref) (actions : List Action) :
    (s.sampledAt r actions).length = actions.countP (·.samples r) := by
  induction actions generalizing s with
  | nil => rfl
  | cons a rest ih =>
      cases ha : a.samples r with
      | true => rw [sampledAt_cons_of_samples ha, List.length_cons, ih, List.countP_cons_of_pos ha]
      | false =>
          rw [sampledAt_cons_of_not_samples ha, ih, List.countP_cons_of_neg]
          rw [ha]
          exact Bool.false_ne_true

theorem eq_sample_of_samples {r : Ref} {a : Action} (h : a.samples r = true) : a = .sample r := by
  cases a with
  | sample sampled => rw [of_decide_eq_true h]
  | _ => cases h

/-- **A view changes only when it is sampled.** -/
theorem get?_act_of_not_samples {s : Store} {r : Ref} {m : Metric} (hview : m.isView = true)
    (h : s.get? r = some m) {a : Action} (ha : a.samples r = false) :
    (s.act a).get? r = some m := by
  -- what is set by an action that is no sample is of another kind
  have hother : ∀ before : Metric, before.isView = false → before ≠ m := by
    rintro before hbefore rfl
    rw [hview] at hbefore
    cases hbefore
  have hfunction : ∀ source, m ≠ .function source := fun source => (hother _ rfl).symm
  have hacts := s.acts a
  generalize s.act a = t at hacts ⊢
  cases hacts with
  | adds new => exact get?_alloc_of_some h new
  | reads hread => exact hread.get? h hfunction
  | changes after _ hk => exact get?_set_of_other h hk (hother _ rfl) _
  | assigns after hk => exact get?_set_of_other h hk (hother _ rfl) _
  | @samples k before after u hread hk _ _ =>
      have hkr : k ≠ r := of_decide_eq_false ha
      rw [get?_set, if_neg hkr, hread.get? h hfunction]
  | resizes size => exact h

theorem get?_run_of_not_samples {s : Store} {r : Ref} {m : Metric} (hview : m.isView = true)
    (h : s.get? r = some m) {actions : List Action} (hactions : ∀ a ∈ actions, a.samples r = false) :
    (s.run actions).get? r = some m := by
  induction actions generalizing s with
  | nil => exact h
  | cons a rest ih =>
      have hfirst := get?_act_of_not_samples hview h (hactions a List.mem_cons_self)
      exact ih hfirst fun b hb => hactions b (List.mem_cons_of_mem a hb)

/-- **A run leaves a meter with the window that comes of its counter's answers**, one for each
sample of it. -/
theorem get?_run_meter {s : Store} {r counter : Ref} {w : Window}
    (h : s.get? r = some (.meter counter w)) (actions : List Action) :
    (s.run actions).get? r = some (.meter counter (w.attempts (s.heard r counter actions))) := by
  -- the window is part of the induction: every sample hands on the one that it left behind
  induction actions generalizing s w with
  | nil => exact h
  | cons a rest ih =>
      rw [run_cons]
      cases ha : a.samples r with
      | true =>
          have hafter := (sample_meter h).2
          rw [heard, sampledAt_cons_of_samples ha, List.map_cons, Window.attempts_cons]
          rw [eq_sample_of_samples ha]
          exact ih hafter
      | false =>
          rw [heard, sampledAt_cons_of_not_samples ha]
          exact ih (get?_act_of_not_samples rfl h ha)

/-- **A view counts its samples**, those that fail included. -/
theorem get?_run_view {s : Store} {r : Ref} {failure : Option String} {calls : Nat}
    (h : s.get? r = some (.view failure calls)) (actions : List Action) :
    (s.run actions).get? r = some (.view failure (calls + actions.countP (·.samples r))) := by
  induction actions generalizing s calls with
  | nil => exact h
  | cons a rest ih =>
      rw [run_cons]
      cases ha : a.samples r with
      | true =>
          have hafter : (s.sample r).2.get? r = some (.view failure (calls + 1)) := by
            simp only [sample, h]
            rw [get?_set, if_pos rfl, h]
            rfl
          rw [List.countP_cons_of_pos ha, ← Nat.add_assoc, Nat.add_right_comm,
            eq_sample_of_samples ha]
          exact ih hafter
      | false =>
          rw [List.countP_cons_of_neg (by rw [ha]; exact Bool.false_ne_true)]
          exact ih (get?_act_of_not_samples rfl h ha)

end Store

end Telemetry
