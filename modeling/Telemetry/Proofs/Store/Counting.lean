import Telemetry.Proofs.Store.Action

/-!
# Counters during a run

A counter changes when it is increased or decreased and at no other time. So a run that changes no
counter leaves all counters as they are, and a counter that comes into being meanwhile shows the
count at which it was started.

Main statements: `get?_run_counter` (what leaves counters alone), `exists_added` (what is new was
added), `opened_run` (where new counters start), `change_integer`, `change_badAmount` and
`change_gaugeCounter` (what a change does).
-/

namespace Telemetry

/-- The integer that an amount is; a truth value counts as one or zero. -/
def Value.integer? (v : Value) : Option Int :=
  match Number.ofValue? v with
  | some (.int i) => some i
  | _ => none

theorem Value.integer?_eq_some_iff {v : Value} {i : Int} :
    v.integer? = some i ↔ Number.ofValue? v = some (.int i) := by
  unfold integer?
  split
  · next j h => simp [h]
  · next h =>
    constructor
    · nofun
    · intro hi
      exact absurd hi (h i)

namespace Store

/-- What is done to counters by an action of some kind: they are changed if it is to change them,
and new ones start at the given count. -/
def Action.Counts (changing : Bool) (opening : Except Fault Int) : Action → Prop
  | .change _ _ _ | .recordEvent _ _ => changing = true
  | .add (.counter start) => ∃ i, opening = .ok i ∧ start = .int i
  | _ => True

/-! ## Actions that change no counter -/

theorem Action.isChange_of_counts {opening : Except Fault Int} {a : Action}
    (h : a.Counts false opening) : a.isChange = false := by
  cases a with
  | change | recordEvent => cases h
  | _ => rfl

/-- **A counter changes only when it is changed.** -/
theorem Acts.get?_counter {s t : Store} {a : Action} (hacts : s.Acts a t)
    (ha : a.isChange = false) {r : Ref} {count : Number} (h : s.get? r = some (.counter count)) :
    t.get? r = some (.counter count) := by
  cases hacts with
  | adds new => exact get?_alloc_of_some h new
  | reads hread => exact hread.get? h fun _ => nofun
  | changes after hchange _ =>
      rw [ha] at hchange
      cases hchange
  | assigns after hk => exact get?_set_of_other h hk nofun _
  | samples hread hk hview _ =>
      refine get?_set_of_other (hread.get? h fun _ => nofun) hk ?_ _
      rintro rfl
      cases hview
  | resizes size => exact h

/-- What is found where nothing was has been added. -/
theorem Acts.eq_add {s t : Store} {a : Action} (hacts : s.Acts a t) {r : Ref} {m : Metric}
    (hbefore : s.get? r = none) (hafter : t.get? r = some m) : a = .add m := by
  cases hacts with
  | adds new =>
      rw [get?_alloc] at hafter
      split at hafter
      · cases hafter
        rfl
      · rw [hbefore] at hafter
        cases hafter
  | reads hread =>
      rw [hread.get?_eq_none hbefore] at hafter
      cases hafter
  | changes after _ _ | assigns after _ =>
      rw [get?_set_of_none hbefore] at hafter
      cases hafter
  | samples hread _ _ _ =>
      rw [get?_set_of_none (hread.get?_eq_none hbefore)] at hafter
      cases hafter
  | resizes size =>
      have hsame : s.get? r = some m := hafter
      rw [hbefore] at hsame
      cases hsame

/-- A run that changes no counter leaves all counters as they are. -/
theorem get?_run_counter {opening : Except Fault Int} {s : Store} {actions : List Action}
    (hactions : ∀ a ∈ actions, a.Counts false opening) {r : Ref} {count : Number}
    (h : s.get? r = some (.counter count)) : (s.run actions).get? r = some (.counter count) := by
  induction actions generalizing s with
  | nil => exact h
  | cons a rest ih =>
      have ha := Action.isChange_of_counts (hactions a List.mem_cons_self)
      apply ih
      · intro b hb
        exact hactions b (List.mem_cons_of_mem a hb)
      · exact (s.acts a).get?_counter ha h

/-- What is found behind a run and was not there before was added in the course of it. -/
theorem exists_added {s : Store} {actions : List Action} {r : Ref} {m : Metric}
    (hbefore : s.get? r = none) (hafter : (s.run actions).get? r = some m) :
    ∃ first new rest, actions = first ++ .add new :: rest ∧
      ((s.run first).act (.add new)).get? r = some new := by
  induction actions generalizing s with
  | nil =>
      rw [run_nil, hbefore] at hafter
      cases hafter
  | cons a rest ih =>
      cases hr : (s.act a).get? r with
      | none =>
          obtain ⟨first, new, later, rfl, hnew⟩ := ih hr hafter
          exact ⟨a :: first, new, later, rfl, hnew⟩
      | some new =>
          obtain rfl := (s.acts a).eq_add hbefore hr
          exact ⟨[], new, rest, rfl, hr⟩

/-- **A counter that comes into being shows the count at which it was started**, unless counters are
changed meanwhile. -/
theorem opened_run {opening : Except Fault Int} {s : Store} {actions : List Action}
    (hactions : ∀ a ∈ actions, a.Counts false opening) {r : Ref} {count : Number}
    (hbefore : s.get? r = none) (hafter : (s.run actions).get? r = some (.counter count)) :
    ∃ i, opening = .ok i ∧ count = .int i := by
  obtain ⟨first, new, rest, rfl, hnew⟩ := exists_added hbefore hafter
  rw [run_append, run_cons] at hafter
  -- what was added is still a counter, so that it was one from the start
  obtain ⟨m, hm, hbecomes⟩ := ((s.run first).act (.add new)).grows_run rest r new hnew
  rw [hm] at hafter
  cases hafter
  cases hbecomes with
  | counter before after =>
      have hkept := get?_run_counter
        (fun a ha => hactions a (List.mem_append_right first (List.mem_cons_of_mem _ ha))) hnew
      rw [hm] at hkept
      cases hkept
      exact hactions _ (List.mem_append_right first List.mem_cons_self)

/-! ## Changes -/

/-- A count after a change by an integer. -/
def Change.after : Change → Int → Int → Int
  | increase, count, n => count + n
  | decrease, count, n => count - n

/-- An integer amount of any size changes an integer count exactly. -/
theorem change_integer {s : Store} {r : Ref} {count n : Int} {amount : Value}
    (h : s.get? r = some (.counter (.int count))) (hamount : amount.integer? = some n)
    (c : Change) : s.change c r amount = .ok (s.set r (.counter (.int (c.after count n)))) := by
  rw [Value.integer?_eq_some_iff] at hamount
  simp only [change, h, hamount]
  cases c <;> rfl

/-- A counter cannot be changed by what is no number. -/
theorem change_badAmount {s : Store} {r : Ref} {count : Number} {amount : Value}
    (h : s.get? r = some (.counter count)) (hamount : Number.ofValue? amount = none) (c : Change) :
    s.change c r amount = .error (.badOperands c.operator count.typeName amount.typeName) := by
  simp only [change, h, hamount]

/-- A counter over a gauge cannot be changed. -/
theorem change_gaugeCounter {s : Store} {r gauge : Ref} (h : s.get? r = some (.gaugeCounter gauge))
    (c : Change) (amount : Value) : s.change c r amount = .error (.readOnlyCounter c.verb) := by
  simp only [change, h]

end Store

end Telemetry
