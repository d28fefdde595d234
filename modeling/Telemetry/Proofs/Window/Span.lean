import Telemetry.Proofs.Number.Nearest
import Telemetry.Proofs.Value.Seconds
import Telemetry.Proofs.Window.Attempt

/-!
# Spans and slots

A window is created for any whole number of seconds, which is floored to a multiple of the interval
but not below one interval. From then on the ring has one slot more than the span has intervals, and
that is all that a sample needs: it counts modulo the number of slots, reads one slot, writes another
and divides by the span. `checkedSample` does the same with a check of each of these steps.

* `isOk_create_iff` says which windows are created, and `covers_empty` what their span is.
* `rateOf_eq_error` says why a rate cannot be computed, and `inRange` that no check of a sample ever
  fails.
-/

namespace Telemetry

namespace Number

/-! ## Why arithmetic fails -/

theorem toFloat_eq_error {n : Number} {fault : Fault} (h : n.toFloat = .error fault) :
    fault = .integerTooLarge := by
  cases n with
  | int i => exact (Fault.elim_eq_error.mp h).2.symm
  | float x => cases h

theorem sub_eq_error {m n : Number} {fault : Fault} (h : m.sub n = .error fault) :
    fault = .integerTooLarge := by
  have hdoubles (h : (do return float ((← m.toFloat) - (← n.toFloat))) = .error fault) :
      fault = .integerTooLarge := by
    rcases Fault.bind_eq_error.mp h with hm | ⟨x, -, h⟩
    · exact toFloat_eq_error hm
    · rcases Fault.bind_eq_error.mp h with hn | ⟨y, -, h⟩
      · exact toFloat_eq_error hn
      · cases h
  cases m with
  | int i =>
      cases n with
      | int j => cases h
      | float y => exact hdoubles h
  | float x => exact hdoubles h

/-- A quotient by a positive span is no division by zero: a whole number that is rounded to a double
is not rounded to zero. -/
theorem divide_eq_error {n : Number} {span : Nat} (hspan : 0 < span) {fault : Fault}
    (h : n.divide span = .error fault) : fault = .integerTooLarge ∨ fault = .quotientTooLarge := by
  cases n with
  | int i =>
      right
      exact (Fault.elim_eq_error.mp h).2.symm
  | float x =>
      left
      rcases Fault.bind_eq_error.mp h with hfloat | ⟨y, hy, h⟩
      · exact toFloat_eq_error hfloat
      · exfalso
        have hzero := Binary64.isZero_of_ofInt? hspan (Fault.elim_eq_ok.mp hy)
        simp [Binary64.div?, hzero] at h

end Number

namespace Window

/-! ## Spans -/

/-- There is room for the readings of a span: a list may be so long, and the memory holds it. -/
def HasRoom (room : ℕ) (asked seconds : ℤ) : Prop :=
  panesOf asked seconds.toNat + 1 ≤ min lengthLimit room

instance (room : ℕ) (asked seconds : ℤ) : Decidable (HasRoom room asked seconds) := Nat.decLe _ _

/-- What is requested of a window: whole numbers of seconds, a positive one for the interval, with
room for the readings. -/
structure Requests (room : ℕ) (span interval : Value) (asked seconds : ℤ) : Prop where
  span : span.IsSeconds asked
  interval : interval.IsSeconds seconds
  interval_pos : 0 < seconds
  room : HasRoom room asked seconds

theorem requireRoom_eq_ok_iff {room length : ℕ} :
    requireRoom room length = .ok () ↔ length ≤ min lengthLimit room := by
  unfold requireRoom
  split
  · next hlength =>
    refine ⟨nofun, fun hroom => ?_⟩
    omega
  · split
    · next hroom =>
      refine ⟨nofun, fun hless => ?_⟩
      omega
    · next hlength hroom =>
      refine ⟨fun _ => ?_, fun _ => rfl⟩
      omega

theorem Requests.toNat_pos {room : ℕ} {span interval : Value} {asked seconds : ℤ}
    (h : Requests room span interval asked seconds) : 0 < seconds.toNat := by
  have hpos := h.interval_pos
  omega

/-- For whole numbers of seconds, a window is created if there is room. -/
theorem create_of_seconds (room : ℕ) {span interval : Value} {asked seconds : ℤ}
    (hspan : span.IsSeconds asked) (hinterval : interval.IsSeconds seconds) (hpos : 0 < seconds)
    (hnat : 0 < seconds.toNat) :
    create room span interval =
      (requireRoom room (panesOf asked seconds.toNat + 1)).map fun _ =>
        empty asked seconds.toNat hnat := by
  have hseconds : interval.wholeSeconds "sampling_interval_seconds" = .ok seconds :=
    Value.wholeSeconds_eq_ok_iff.mpr hinterval
  have hasked : span.wholeSeconds "time_span_seconds" = .ok asked :=
    Value.wholeSeconds_eq_ok_iff.mpr hspan
  rw [create, hseconds, Fault.ok_bind, dif_pos hpos, hasked, Fault.ok_bind]
  rfl

theorem Requests.create_eq_ok {room : ℕ} {span interval : Value} {asked seconds : ℤ}
    (h : Requests room span interval asked seconds) :
    create room span interval = .ok (empty asked seconds.toNat h.toNat_pos) := by
  rw [create_of_seconds room h.span h.interval h.interval_pos h.toNat_pos,
    requireRoom_eq_ok_iff.mpr h.room]
  rfl

/-- **A window is created exactly if it is requested properly.** -/
theorem isOk_create_iff {room : ℕ} {span interval : Value} :
    (create room span interval).isOk = true ↔
      ∃ asked seconds, Requests room span interval asked seconds := by
  constructor
  · intro h
    cases hcreate : create room span interval with
    | error fault =>
        rw [hcreate] at h
        cases h
    | ok w =>
        obtain ⟨seconds, hseconds, hrest⟩ := Fault.bind_eq_ok.mp hcreate
        split at hrest
        · next hpos =>
          obtain ⟨asked, hasked, hrest⟩ := Fault.bind_eq_ok.mp hrest
          obtain ⟨⟨⟩, hroom, -⟩ := Fault.bind_eq_ok.mp hrest
          exact ⟨asked, seconds, Value.wholeSeconds_eq_ok_iff.mp hasked,
            Value.wholeSeconds_eq_ok_iff.mp hseconds, hpos, requireRoom_eq_ok_iff.mp hroom⟩
        · cases hrest
  · rintro ⟨asked, seconds, h⟩
    rw [h.create_eq_ok]
    rfl

/-- A new window is empty. -/
theorem IsNew.eq_empty {w : Window} (h : w.IsNew) :
    ∃ asked seconds, ∃ hpos : 0 < seconds, w = empty asked seconds hpos := by
  obtain ⟨room, span, interval, hcreate⟩ := h
  have hok : (create room span interval).isOk = true := by
    rw [hcreate]
    rfl
  obtain ⟨asked, seconds, hrequest⟩ := isOk_create_iff.mp hok
  rw [hrequest.create_eq_ok] at hcreate
  exact ⟨asked, seconds.toNat, hrequest.toNat_pos, (Except.ok.inj hcreate).symm⟩

/-- What is requested of a window, and what it is in the end: a whole number of intervals, no less
than one and no more than was asked for. -/
structure Covers (w : Window) (asked seconds : ℤ) : Prop where
  interval : (w.interval : ℤ) = seconds
  multiple : w.interval ∣ w.span
  least : asked < seconds → w.span = w.interval
  floored : seconds ≤ asked → w.span ≤ asked ∧ asked < w.span + seconds

/-- The span that is asked for, less the rest of the last interval, but at least one interval. -/
theorem span_empty (asked : ℤ) {seconds : ℤ} (hseconds : 0 < seconds) (hpos : 0 < seconds.toNat) :
    ((empty asked seconds.toNat hpos).span : ℤ) = max (asked - asked % seconds) seconds := by
  have hcast : (seconds.toNat : ℤ) = seconds := Int.toNat_of_nonneg hseconds.le
  have hfloor : asked - asked % seconds = asked / seconds * seconds := by
    rw [Int.emod_def, sub_sub_cancel, mul_comm]
  have hpanes : (panesOf asked seconds.toNat : ℤ) = max (asked / seconds) 1 := by
    rw [panesOf, hcast]
    omega
  show ((panesOf asked seconds.toNat * seconds.toNat : ℕ) : ℤ) = _
  rw [Nat.cast_mul, hpanes, hcast, hfloor, max_mul_of_nonneg _ _ hseconds.le, one_mul]

theorem covers_empty (asked : ℤ) {seconds : ℤ} (hseconds : 0 < seconds) (hpos : 0 < seconds.toNat) :
    (empty asked seconds.toNat hpos).Covers asked seconds := by
  have hspan := span_empty asked hseconds hpos
  have hinterval : ((empty asked seconds.toNat hpos).interval : ℤ) = seconds :=
    Int.toNat_of_nonneg hseconds.le
  have hrest := Int.emod_nonneg asked hseconds.ne'
  have hless := Int.emod_lt_of_pos asked hseconds
  refine ⟨hinterval, Nat.dvd_mul_left _ _, ?_, ?_⟩
  · intro hbelow
    have hmost : asked - asked % seconds ≤ 0 := by
      rcases lt_or_ge asked 0 with hneg | hnonneg
      · omega
      · rw [Int.emod_eq_of_lt hnonneg hbelow, sub_self]
    omega
  · intro hfrom
    have hone : 1 ≤ asked / seconds := Int.le_ediv_of_mul_le hseconds (by omega)
    have hleast : seconds ≤ asked - asked % seconds := by
      rw [Int.emod_def, sub_sub_cancel]
      exact le_mul_of_one_le_right hseconds.le hone
    omega

/-- There is one span only that covers a request. -/
theorem Covers.span_eq {w : Window} {asked seconds : ℤ} (h : w.Covers asked seconds) :
    (w.span : ℤ) = max (asked - asked % seconds) seconds := by
  have hpos : 0 < seconds := by
    rw [← h.interval]
    exact_mod_cast w.interval_pos
  rcases lt_or_ge asked seconds with hbelow | hfrom
  · have hrest := Int.emod_nonneg asked hpos.ne'
    rw [h.least hbelow, h.interval, max_eq_right (by omega)]
  · obtain ⟨hmost, hleast⟩ := h.floored hfrom
    obtain ⟨panes, hpanes⟩ := h.multiple
    have hspan : (w.span : ℤ) = seconds * panes := by
      rw [hpanes, Nat.cast_mul, h.interval]
    have hrest : asked % seconds = asked - w.span :=
      ((Int.ediv_emod_unique hpos).mpr ⟨by rw [hspan, sub_add_cancel], by omega, by omega⟩).2
    have hone : (w.interval : ℤ) ≤ w.span := by
      exact_mod_cast Nat.le_of_dvd w.span_pos h.multiple
    rw [hrest, sub_sub_cancel, max_eq_left (by rw [← h.interval]; exact hone)]

/-! ## Slots -/

/-- A divisor, unless it is zero. -/
def divisor? (n : Nat) : Option Nat := if n = 0 then none else some n

/-- A sample on a plain list of readings, where each divisor and each slot is checked: there is no
result if the one is zero or the other out of range. What comes out is the rate, the readings, and
the slot that was written. -/
def checkedSample (slots : List Number) (cursor span : Nat) (reading : Number) :
    Option (Except Fault Binary64 × List Number × Nat) := do
  let length ← divisor? slots.length
  let written := (cursor + 1) % length
  let oldest ← slots[(written + 1) % length]?
  let _ ← slots[written]?
  let span ← divisor? span
  return (rateOf reading oldest span, slots.set written reading, written)

theorem divisor?_of_pos {n : Nat} (h : 0 < n) : divisor? n = some n := if_neg h.ne'

theorem val_next_add_one (w : Window) :
    (w.next + 1).val = (w.next.val + 1) % (w.panes + 1) := by
  rw [Fin.val_add, Fin.val_one', Nat.add_mod_mod]

/-- A sample sets one slot of the ring, whether it fails or not. -/
theorem toList_sample (w : Window) (reading : Number) :
    (w.sample reading).2.readings.toList = w.readings.toList.set w.next reading := by
  rw [sample_snd]
  exact Vector.toList_set w.next.isLt

/-- **No check of a sample fails**, and the sample does the same without them. -/
theorem checkedSample_eq (w : Window) (reading : Number) :
    checkedSample w.readings.toList w.cursor w.span reading =
      some (rateOf reading w.oldest w.span, (w.sample reading).2.readings.toList,
        (w.sample reading).2.cursor.val) := by
  have hlength : w.readings.toList.length = w.panes + 1 := Vector.length_toList
  have hslot (i : Fin (w.panes + 1)) : w.readings.toList[i.val]? = some (w.readings.get i) := by
    rw [Vector.getElem?_toList, Vector.getElem?_eq_getElem i.isLt]
    rfl
  simp only [checkedSample, hlength, divisor?_of_pos (Nat.succ_pos _), divisor?_of_pos w.span_pos,
    Option.bind_eq_bind, Option.bind_some, ← next_val, ← val_next_add_one, hslot]
  rw [toList_sample, cursor_sample]
  rfl

/-! ## Samples -/

theorem rateOf_of_sample_error {w : Window} {reading : Number} {fault : Fault}
    (h : (w.sample reading).1 = .error fault) : rateOf reading w.oldest w.span = .error fault := by
  rw [sample_fst] at h
  cases hrate : rateOf reading w.oldest w.span <;> rw [hrate] at h <;> cases h
  rfl

/-- The rate over a positive span can only be too large. -/
theorem rateOf_eq_error {newest oldest : Number} {span : Nat} (hspan : 0 < span) {fault : Fault}
    (h : rateOf newest oldest span = .error fault) :
    fault = .integerTooLarge ∨ fault = .quotientTooLarge := by
  rcases Fault.bind_eq_error.mp h with hsub | ⟨difference, -, hdivide⟩
  · exact .inl (Number.sub_eq_error hsub)
  · exact Number.divide_eq_error hspan hdivide

/-- A sample of the window stays within the ring and divides by what is positive. -/
structure InRange (w : Window) : Prop where
  length : w.readings.toList.length = w.span / w.interval + 1
  two_le : 2 ≤ w.readings.toList.length
  cursor : w.cursor.val < w.readings.toList.length
  span_pos : 0 < w.span
  apart : ((w.cursor.val + 1) % w.readings.toList.length + 1) % w.readings.toList.length ≠
    (w.cursor.val + 1) % w.readings.toList.length
  checked : ∀ reading, checkedSample w.readings.toList w.cursor w.span reading =
    some (rateOf reading w.oldest w.span, (w.sample reading).2.readings.toList,
      (w.sample reading).2.cursor.val)
  divides : ∀ reading, (w.sample reading).1 ≠ .error .divisionByZero

/-- **Every window can be sampled safely.** -/
theorem inRange (w : Window) : w.InRange := by
  have hlength : w.readings.toList.length = w.panes + 1 := Vector.length_toList
  have hpanes := w.panes_pos
  refine ⟨?_, ?_, ?_, w.span_pos, ?_, w.checkedSample_eq, ?_⟩
  · rw [hlength, span_div_interval]
  · omega
  · rw [hlength]
    exact w.cursor.isLt
  · rw [hlength, ← next_val, ← val_next_add_one]
    intro hsame
    exact w.oldest_ne_newest (Fin.ext hsame)
  · intro reading hfailed
    rcases rateOf_eq_error w.span_pos (rateOf_of_sample_error hfailed) with hfault | hfault <;>
      cases hfault

end Window

end Telemetry
