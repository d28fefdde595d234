import Mathlib.Algebra.Group.Fin.Basic
import Mathlib.Tactic.Abel
import Telemetry.Window

/-!
# The history behind a window

A window remembers its readings in a ring, and the ring says nothing about the order in which they
came. The abstraction is the list of all readings ever taken: `Window.Holds` relates a ring to such
a list, by saying that the slot `back` places behind the cursor holds the reading taken `back`
samples ago, where everything before the first sample counts as zero.

Main statements:

* `Holds.advance`: taking a reading appends it to the history, at every place of the ring and so
  across every wrap.
* `Holds.oldest`: the reading a sample compares with is the one taken a span before it.
* `Follows.sample`: a window over integers whose rate is the quotient of these two keeps being one.
* `exists_holds`: every ring holds some history, so that the law is about all windows.
-/

namespace Telemetry

namespace Window

/-! ## Readings by number -/

/-- Reading number `k`, counted from one; there is only `zero` before the first. -/
def readingAt {α : Type} (zero : α) (readings : List α) : Nat → α
  | 0 => zero
  | k + 1 => readings.getD k zero

@[simp] theorem readingAt_zero {α : Type} (zero : α) (readings : List α) :
    readingAt zero readings 0 = zero := rfl

/-- A new reading leaves the earlier ones as they were. -/
theorem readingAt_append_of_le {α : Type} (zero : α) {readings : List α} {k : Nat}
    (h : k ≤ readings.length) (reading : α) :
    readingAt zero (readings ++ [reading]) k = readingAt zero readings k := by
  cases k with
  | zero => rfl
  | succ k =>
      have hlt : k < readings.length := h
      simp [readingAt, List.getD_eq_getElem?_getD, List.getElem?_append_left hlt]

/-- A new reading is the last one. -/
@[simp] theorem readingAt_append_length {α : Type} (zero : α) (readings : List α) (reading : α) :
    readingAt zero (readings ++ [reading]) (readings.length + 1) = reading := by
  simp [readingAt]

theorem readingAt_map {α β : Type} (f : α → β) (zero : α) (readings : List α) (k : Nat) :
    readingAt (f zero) (readings.map f) k = f (readingAt zero readings k) := by
  cases k with
  | zero => rfl
  | succ k =>
      simp only [readingAt, List.getD_eq_getElem?_getD, List.getElem?_map]
      cases readings[k]? <;> rfl

/-! ## Rings that hold a history -/

/-- The ring holds the newest readings of a history: going back from the cursor, slot after slot,
is going back in the history, sample after sample. -/
def Holds (w : Window) (past : List Number) : Prop :=
  ∀ back : Fin (w.panes + 1),
    w.readings.get (w.cursor - back) = readingAt (.int 0) past (past.length - back)

/-- A new window holds the history without readings. -/
theorem holds_empty (requested : Int) (interval : Nat) (h : 0 < interval) :
    (empty requested interval h).Holds [] := by
  intro back
  have hzero : ([] : List Number).length - back.val = 0 := Nat.zero_sub _
  rw [hzero, readingAt_zero]
  exact Vector.getElem_replicate ((empty requested interval h).cursor - back).isLt

/-- **Taking a reading appends it to the history**, whatever becomes of the rate. -/
theorem Holds.advance {w : Window} {past : List Number} (h : w.Holds past) (reading : Number) :
    (w.advance reading).Holds (past ++ [reading]) := by
  have hslots : ∀ back : Fin (w.panes + 1),
      (if w.next - back = w.next then reading else w.readings.get (w.next - back)) =
        readingAt (.int 0) (past ++ [reading]) (past.length + 1 - back) := by
    intro back
    by_cases hback : back = 0
    · subst hback
      rw [sub_zero, if_pos rfl]
      exact (readingAt_append_length _ past reading).symm
    · -- one slot further back than before is one sample further back in the history
      have hne : w.next - back ≠ w.next := fun heq => hback (sub_eq_self.mp heq)
      have hslot : w.next - back = w.cursor - (back - 1) := by
        rw [next]
        abel
      have hpos : back.val ≠ 0 := fun hzero => hback (Fin.ext hzero)
      have hval : (back - 1).val = back.val - 1 := by
        rw [Fin.coe_sub_one, if_neg hback]
      have hage : past.length + 1 - back.val = past.length - (back.val - 1) := by omega
      rw [if_neg hne, hslot, h (back - 1), hval, hage, readingAt_append_of_le _ (Nat.sub_le _ _)]
  intro back
  rw [List.length_append, List.length_singleton]
  exact (get_advance w reading _).trans (hslots back)

/-- The slot at the cursor holds the newest reading. -/
theorem Holds.newest {w : Window} {past : List Number} (h : w.Holds past) :
    w.newest = readingAt (.int 0) past past.length := by
  have hslot := h 0
  rwa [sub_zero] at hslot

/-- **The reading that the next sample compares with** is the one taken a span before it. -/
theorem Holds.oldest {w : Window} {past : List Number} (h : w.Holds past) :
    w.oldest = readingAt (.int 0) past (past.length + 1 - w.panes) := by
  have hpanes := w.panes_pos
  let back : Fin (w.panes + 1) := ⟨w.panes - 1, by omega⟩
  -- the ring is one slot longer than the span: two slots ahead is `panes - 1` slots back
  have haround : (1 : Fin (w.panes + 1)) + 1 + back = 0 := by
    apply Fin.ext
    simp only [Fin.val_add, Fin.val_one', Nat.mod_add_mod, Nat.add_mod_mod, Fin.val_zero, back]
    have hsum : 1 + 1 + (w.panes - 1) = w.panes + 1 := by omega
    rw [hsum, Nat.mod_self]
  have hslot : w.next + 1 = w.cursor - back := by
    apply eq_sub_of_add_eq
    rw [next, add_assoc, add_assoc, ← add_assoc 1 1 back, haround, add_zero]
  have hage : past.length - back.val = past.length + 1 - w.panes := by
    show past.length - (w.panes - 1) = _
    omega
  rw [Window.oldest, hslot, h back, hage]

/-- **Every ring holds some history**: its own slots, from the oldest to the newest. -/
theorem exists_holds (w : Window) : ∃ past, w.Holds past := by
  refine ⟨List.ofFn fun i => w.readings.get (w.cursor + 1 + i), ?_⟩
  intro back
  have hback := back.isLt
  let ahead : Fin (w.panes + 1) := ⟨w.panes - back.val, by omega⟩
  have hage : w.panes + 1 - back.val = ahead.val + 1 := by
    show _ = w.panes - back.val + 1
    omega
  have haround : (1 : Fin (w.panes + 1)) + ahead + back = 0 := by
    apply Fin.ext
    simp only [Fin.val_add, Fin.val_one', Nat.mod_add_mod, Fin.val_zero, ahead]
    have hsum : 1 + (w.panes - back.val) + back.val = w.panes + 1 := by omega
    rw [hsum, Nat.mod_self]
  have hslot : w.cursor - back = w.cursor + 1 + ahead := by
    symm
    apply eq_sub_of_add_eq
    rw [add_assoc, add_assoc, ← add_assoc 1 ahead back, haround, add_zero]
  rw [List.length_ofFn, hage, hslot, readingAt, List.getD_eq_getElem?_getD,
    List.getElem?_ofFn, dif_pos ahead.isLt]
  rfl

end Window

/-! ## Rates over integers -/

/-- Nothing divided by a span is zero, without a sign. -/
theorem Binary64.ofQuotient?_zero {den : Nat} (h : 0 < den) :
    Binary64.ofQuotient? 0 den = some 0 := by
  have hround : roundHalfEven 0 den = 0 := by
    simp only [roundHalfEven, Nat.zero_div, Nat.zero_mod]
    rw [if_pos (by omega)]
  have hcode : Binary64.nearestCode 0 den = 0 := by
    rw [Binary64.nearestCode, Nat.zero_div, Nat.log2_zero, Nat.zero_sub, Nat.zero_mul, power_zero,
      Nat.mul_one, hround]
  have hcodes : Binary64.nearestCode 0 den < Binary64.codes := by
    rw [hcode]
    decide
  rw [Binary64.ofQuotient?, Int.natAbs_zero, Nat.zero_mul, Binary64.ofGrains?, dif_pos hcodes]
  simp only [hcode]
  rfl

namespace Window

/-- The span is not empty. -/
theorem span_pos (w : Window) : 0 < w.span := Nat.mul_pos w.panes_pos w.interval_pos

/-- The panes are the intervals of the span. -/
theorem span_div_interval (w : Window) : w.span / w.interval = w.panes :=
  Nat.mul_div_cancel _ w.interval_pos

/-- The window is up to date with a history of integers: the ring holds it, and the rate is the
quotient of the change over the last span. -/
structure Follows (w : Window) (readings : List Int) : Prop where
  holds : w.Holds (readings.map .int)
  rate : Binary64.ofQuotient?
    (readingAt 0 readings readings.length - readingAt 0 readings (readings.length - w.panes))
    w.span = some w.rate

/-- A new window is up to date with the history without readings: its rate is zero. -/
theorem follows_empty (requested : Int) (interval : Nat) (h : 0 < interval) :
    (empty requested interval h).Follows [] where
  holds := holds_empty requested interval h
  rate := by
    simp only [List.length_nil, Nat.zero_sub, readingAt_zero, Int.sub_self]
    exact Binary64.ofQuotient?_zero (span_pos _)

/-- A window without samples over some intervals of five seconds. -/
def fives (panes : Nat) : Window := empty (panes * 5) 5 (by decide)

/-- A window as it is created. -/
def IsNew (w : Window) : Prop := ∃ room requested interval, create room requested interval = .ok w

/-- Windows are created without samples. -/
theorem follows_create {room : Nat} {requested interval : Value} {w : Window}
    (h : create room requested interval = .ok w) : w.Follows [] ∧ w.rate = 0 := by
  obtain ⟨seconds, -, h⟩ := Fault.bind_eq_ok.mp h
  split at h
  · obtain ⟨asked, -, h⟩ := Fault.bind_eq_ok.mp h
    obtain ⟨-, -, h⟩ := Fault.bind_eq_ok.mp h
    cases h
    exact ⟨follows_empty _ _ _, rfl⟩
  · cases h

/-- The rate between integers is their quotient, if that is a double at all. -/
theorem rateOf_int_eq_ok {newest oldest : Int} {span : Nat} {rate : Binary64} :
    rateOf (.int newest) (.int oldest) span = .ok rate ↔
      Binary64.ofQuotient? (newest - oldest) span = some rate := by
  rw [rateOf, Number.sub_int, Fault.ok_bind]
  exact Fault.elim_eq_ok

/-- A sample that succeeds sets the rate to the one between the reading and the oldest. -/
theorem rateOf_of_sample_ok {w : Window} {reading : Number}
    (h : (w.sample reading).1 = .ok ()) :
    rateOf reading w.oldest w.span = .ok (w.sample reading).2.rate := by
  rw [sample_snd]
  unfold sample at h
  split at h
  · next rate hrate => simp only [hrate]
  · cases h

/-- **A sample that succeeds keeps the window up to date.** -/
theorem Follows.sample {w : Window} {readings : List Int} (h : w.Follows readings) {v : Int}
    (hok : (w.sample (.int v)).1 = .ok ()) :
    (w.sample (.int v)).2.Follows (readings ++ [v]) := by
  have hpanes := w.panes_pos
  have holdest : w.oldest = .int (readingAt 0 readings (readings.length + 1 - w.panes)) := by
    rw [h.holds.oldest, List.length_map]
    exact readingAt_map Number.int 0 readings _
  have hrate := rateOf_of_sample_ok hok
  rw [holdest, rateOf_int_eq_ok] at hrate
  refine ⟨?_, ?_⟩
  · rw [List.map_append, sample_snd]
    exact h.holds.advance (.int v)
  · rw [panes_sample, span_sample, List.length_append, List.length_singleton,
      readingAt_append_length, readingAt_append_of_le _ (by omega)]
    exact hrate

end Window

end Telemetry
