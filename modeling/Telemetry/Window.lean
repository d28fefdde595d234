import Telemetry.Number

/-!
# Sliding windows

A window holds the readings of a counter over a trailing span, one per sampling interval, and the
average rate over that span. The span is a whole number of intervals, its *panes*; two readings
enclose a pane, so there is one reading more than there are panes. The readings stand in a ring that
starts out with zeros, and the rate is the newest reading less the one taken a span earlier, divided
by the span. Readings of the rate are therefore a field access, however long the span.

Main statements: `sample_snd` (a sample moves the ring on whether it fails or not),
`get_advance` (what the ring holds afterwards) and `oldest_ne_newest` (the slot that is read is not
the one that is written).
-/

namespace Telemetry

/-- The readings of a counter over a trailing span. -/
structure Window where
  /-- The seconds between two samples. -/
  interval : Nat
  /-- The intervals of the span. -/
  panes : Nat
  interval_pos : 0 < interval
  panes_pos : 0 < panes
  /-- The ring of readings. -/
  readings : Vector Number (panes + 1)
  /-- The place of the newest reading. -/
  cursor : Fin (panes + 1)
  /-- The average rate over the span, as of the last sample that succeeded. -/
  rate : Binary64

namespace Window

/-- The seconds that the rate is averaged over. -/
def span (w : Window) : Nat := w.panes * w.interval

/-- How many whole intervals a requested span holds, but at least one. -/
def panesOf (requested : Int) (interval : Nat) : Nat := max 1 (requested / interval).toNat

theorem panesOf_pos (requested : Int) (interval : Nat) : 0 < panesOf requested interval := by
  simp only [panesOf]
  omega

def empty (requested : Int) (interval : Nat) (h : 0 < interval) : Window where
  interval
  panes := panesOf requested interval
  interval_pos := h
  panes_pos := panesOf_pos requested interval
  readings := Vector.replicate _ (.int 0)
  cursor := 0
  rate := 0

/-- The greatest length that a list may have, `2 ^ 63 - 1`. -/
def lengthLimit : Nat := 0x7fffffffffffffff

/-- Refuse a number of readings that cannot be kept in memory with room for so many. -/
def requireRoom (room length : Nat) : Except Fault Unit :=
  if lengthLimit < length then .error .lengthTooLarge
  else if room < length then .error .outOfMemory
  else .ok ()

/-- A window for a requested span and interval. The interval has to be a positive whole number of
seconds, the span a whole number; it is floored to a multiple of the interval. Its readings have to
find room in memory. -/
def create (room : Nat) (requested interval : Value) : Except Fault Window := do
  let seconds ← interval.wholeSeconds "sampling_interval_seconds"
  if h : 0 < seconds then
    let requested ← requested.wholeSeconds "time_span_seconds"
    requireRoom room (panesOf requested seconds.toNat + 1)
    return empty requested seconds.toNat (by omega)
  else throw (.notPositive "sampling_interval_seconds")

/-- The number of readings that are kept. -/
def historyLength (w : Window) : Nat := w.panes + 1

def next (w : Window) : Fin (w.panes + 1) := w.cursor + 1

/-- The reading taken a span before the next one. -/
def oldest (w : Window) : Number := w.readings.get (w.next + 1)

def newest (w : Window) : Number := w.readings.get w.cursor

def advance (w : Window) (reading : Number) : Window :=
  { w with readings := w.readings.set w.next reading, cursor := w.next }

/-- The rate between two readings that lie a span apart. -/
def rateOf (newest oldest : Number) (span : Nat) : Except Fault Binary64 := do
  (← newest.sub oldest).divide span

/-- Take a sample: the reading replaces the oldest but one, and the rate is renewed. If the rate
cannot be computed, the reading is kept and so is the old rate. -/
def sample (w : Window) (reading : Number) : Except Fault Unit × Window :=
  match rateOf reading w.oldest w.span with
  | .ok rate => (.ok (), { w.advance reading with rate })
  | .error fault => (.error fault, w.advance reading)

/-! ### What a sample does -/

/-- A sample moves the ring on, whether it fails or not; the rate alone depends on that. -/
theorem sample_snd (w : Window) (reading : Number) :
    (w.sample reading).2 = { w.advance reading with
      rate := match rateOf reading w.oldest w.span with
        | .ok rate => rate
        | .error _ => w.rate } := by
  unfold sample
  split <;> rfl

/-- The ring afterwards: the reading at its place, and what was there at all others. -/
theorem get_advance (w : Window) (reading : Number) (i : Fin (w.panes + 1)) :
    (w.advance reading).readings.get i = if i = w.next then reading else w.readings.get i := by
  have h : (w.advance reading).readings.get i = (w.readings.set w.next reading)[i.val] := rfl
  rw [h, Vector.getElem_set]
  by_cases hi : i = w.next
  · simp [hi]
  · have hne : w.next.val ≠ i.val := fun he => hi (Fin.ext he.symm)
    simp [hi, hne]
    rfl

theorem panes_sample (w : Window) (reading : Number) : (w.sample reading).2.panes = w.panes := by
  rw [sample_snd]
  rfl

theorem interval_sample (w : Window) (reading : Number) :
    (w.sample reading).2.interval = w.interval := by
  rw [sample_snd]
  rfl

theorem span_sample (w : Window) (reading : Number) : (w.sample reading).2.span = w.span := by
  simp only [span, panes_sample, interval_sample]

/-- The reading that is read and the one that is written are different places of the ring. -/
theorem oldest_ne_newest (w : Window) : w.next + 1 ≠ w.next := by
  intro h
  have hval := congrArg Fin.val h
  have hpos := w.panes_pos
  have hlt := w.next.isLt
  rw [Fin.val_add] at hval
  have hone : (1 : Fin (w.panes + 1)).val = 1 :=
    Nat.mod_eq_of_lt (show 1 < w.panes + 1 by omega)
  rw [hone] at hval
  by_cases hwrap : w.next.val + 1 < w.panes + 1
  · rw [Nat.mod_eq_of_lt hwrap] at hval
    omega
  · have heq : w.next.val + 1 = w.panes + 1 := by omega
    rw [heq, Nat.mod_self] at hval
    omega

end Window

end Telemetry
