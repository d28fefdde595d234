import Telemetry.Proofs.Window.History

/-!
# Samples that fail

A sample can fail in three ways: the counter cannot be read, the readings cannot be subtracted, or
the quotient is too large for a double. The first leaves the window alone. The other two are noticed
after the ring has moved on, so that the window keeps its rate but not its cursor, and a reading
without a rate stays in the history.

Main statements:

* `attempt_failed_iff`: a failed sample keeps the rate, and it is without any other consequence
  exactly if it was the counter that could not be read.
* `outcomes_ne_of_failed`: the consequences of the other failures can be observed.
-/

namespace Telemetry

namespace Window

/-! ## Sampling what a counter answers -/

/-- A sample with what the counter answers when it is read. -/
def attempt (w : Window) : Except Fault Number → Except Fault Unit × Window
  | .error fault => (.error fault, w)
  | .ok reading => w.sample reading

/-- The window after one sample for each answer. -/
def attempts (w : Window) (answers : List (Except Fault Number)) : Window :=
  answers.foldl (fun w answer => (w.attempt answer).2) w

/-- What can be observed of a run of samples: whether each of them succeeds, and the rate behind
each of them. -/
def outcomes : Window → List (Except Fault Number) → List (Bool × Binary64)
  | _, [] => []
  | w, answer :: rest =>
    ((w.attempt answer).1.isOk, (w.attempt answer).2.rate) :: outcomes (w.attempt answer).2 rest

@[simp] theorem attempt_error (w : Window) (fault : Fault) :
    w.attempt (.error fault) = (.error fault, w) := rfl

@[simp] theorem attempt_ok (w : Window) (reading : Number) :
    w.attempt (.ok reading) = w.sample reading := rfl

@[simp] theorem attempts_nil (w : Window) : w.attempts [] = w := rfl

@[simp] theorem attempts_cons (w : Window) (answer : Except Fault Number)
    (rest : List (Except Fault Number)) :
    w.attempts (answer :: rest) = (w.attempt answer).2.attempts rest := rfl

theorem panes_attempt (w : Window) (answer : Except Fault Number) :
    (w.attempt answer).2.panes = w.panes := by
  cases answer with
  | error fault => rfl
  | ok reading => exact panes_sample w reading

theorem interval_attempt (w : Window) (answer : Except Fault Number) :
    (w.attempt answer).2.interval = w.interval := by
  cases answer with
  | error fault => rfl
  | ok reading => exact interval_sample w reading

theorem panes_attempts (w : Window) (answers : List (Except Fault Number)) :
    (w.attempts answers).panes = w.panes := by
  induction answers generalizing w with
  | nil => rfl
  | cons answer rest ih => rw [attempts_cons, ih, panes_attempt]

theorem interval_attempts (w : Window) (answers : List (Except Fault Number)) :
    (w.attempts answers).interval = w.interval := by
  induction answers generalizing w with
  | nil => rfl
  | cons answer rest ih => rw [attempts_cons, ih, interval_attempt]

theorem span_attempts (w : Window) (answers : List (Except Fault Number)) :
    (w.attempts answers).span = w.span := by
  simp only [span, panes_attempts, interval_attempts]

/-- **A window whose counter can always be read holds every reading**, those of samples that fail
included. -/
theorem Holds.attempts {w : Window} {past : List Number} (h : w.Holds past)
    (readings : List Number) : (w.attempts (readings.map .ok)).Holds (past ++ readings) := by
  induction readings generalizing w past with
  | nil => simpa using h
  | cons reading rest ih =>
      have hnext : (w.sample reading).2.Holds (past ++ [reading]) := by
        rw [sample_snd]
        exact h.advance reading
      simpa using ih hnext

/-- **Answers that are no readings can be left out of a run**, however many there are and wherever
they stand. -/
theorem attempts_filter (w : Window) (answers : List (Except Fault Number)) :
    w.attempts (answers.filter Except.isOk) = w.attempts answers := by
  induction answers generalizing w with
  | nil => rfl
  | cons answer rest ih =>
      cases answer with
      | error fault => exact ih w
      | ok reading => exact ih (w.sample reading).2

/-! ## The cursor -/

theorem next_val (w : Window) : w.next.val = (w.cursor.val + 1) % (w.panes + 1) := by
  rw [next, Fin.val_add, Fin.val_one', Nat.add_mod_mod]

theorem next_ne_cursor (w : Window) : w.next ≠ w.cursor := by
  intro h
  have hone : (1 : Fin (w.panes + 1)) = 0 := by
    rw [next] at h
    exact add_eq_left.mp h
  have hval := congrArg Fin.val hone
  have hpanes := w.panes_pos
  rw [Fin.val_one', Fin.val_zero, Nat.mod_eq_of_lt (by omega)] at hval
  exact absurd hval one_ne_zero

theorem cursor_sample (w : Window) (reading : Number) :
    (w.sample reading).2.cursor.val = w.next.val := by
  rw [sample_snd]
  rfl

/-- **Each reading moves the cursor on by one slot**, whatever becomes of the rate. -/
theorem cursor_attempts (w : Window) (answers : List (Except Fault Number)) :
    (w.attempts answers).cursor.val =
      (w.cursor.val + answers.countP Except.isOk) % (w.panes + 1) := by
  induction answers generalizing w with
  | nil => exact (Nat.mod_eq_of_lt w.cursor.isLt).symm
  | cons answer rest ih =>
      cases answer with
      | error fault => exact ih w
      | ok reading =>
          rw [attempts_cons, attempt_ok, ih, cursor_sample, panes_sample, next_val, Nat.mod_add_mod,
            List.countP_cons_of_pos rfl, Nat.add_assoc, Nat.add_comm 1]

/-- A sample fails exactly if the rate cannot be computed. -/
theorem sample_fst (w : Window) (reading : Number) :
    (w.sample reading).1 = (rateOf reading w.oldest w.span).map fun _ => () := by
  unfold sample
  split <;> next hrate => rw [hrate]; rfl

/-- The window after a sample that fails: the ring has moved on, the rate is the old one. -/
theorem sample_snd_of_error {w : Window} {reading : Number} {fault : Fault}
    (h : (w.sample reading).1 = .error fault) : (w.sample reading).2 = w.advance reading := by
  unfold sample at h ⊢
  split
  · next rate hrate =>
    rw [hrate] at h
    cases h
  · rfl

/-- **A failed sample keeps the rate; it is without any other consequence exactly if it was the
counter that could not be read.** -/
theorem attempt_failed_iff {w : Window} {answer : Except Fault Number} {fault : Fault}
    (hfailed : (w.attempt answer).1 = .error fault) :
    (w.attempt answer).2.rate = w.rate ∧
      (((w.attempt answer).2.cursor.val = w.cursor.val ∧
          ∀ later, (w.attempt answer).2.outcomes later = w.outcomes later) ↔
        answer = .error fault) := by
  cases answer with
  | error cause =>
      cases hfailed
      exact ⟨rfl, fun _ => rfl, fun _ => ⟨rfl, fun _ => rfl⟩⟩
  | ok reading =>
      rw [attempt_ok] at hfailed ⊢
      refine ⟨?_, ?_, ?_⟩
      · rw [sample_snd_of_error hfailed]
        rfl
      · rintro ⟨hcursor, -⟩
        rw [cursor_sample] at hcursor
        exact absurd (Fin.ext hcursor) w.next_ne_cursor
      · intro hread
        cases hread

/-! ## Failures that can be observed -/

/-- If a run of one reading over and over looks the same with and without a failed sample in front,
then the sample after the run fails as well: each sample of the longer run looks like the one
before it, and the first one failed. -/
theorem isOk_attempts_of_outcomes_eq {w : Window} (answer : Except Fault Number) (n : Nat)
    (hfailed : (w.attempt answer).1.isOk = false)
    (hsame : (w.attempt answer).2.outcomes (List.replicate n answer) =
      w.outcomes (List.replicate n answer)) :
    ((w.attempts (List.replicate n answer)).attempt answer).1.isOk = false := by
  induction n generalizing w with
  | zero => exact hfailed
  | succ n ih =>
      simp only [List.replicate_succ, outcomes, List.cons.injEq, Prod.mk.injEq] at hsame
      obtain ⟨⟨hfirst, -⟩, hrest⟩ := hsame
      rw [List.replicate_succ, attempts_cons]
      exact ih (hfirst.trans hfailed) hrest

/-- **The consequences of a rate that cannot be computed can be observed**: sample the reading
again until the failed sample is a span ago. With it the difference is zero then; without it the
run cannot look the same. Only a double divided by a span beyond all doubles has no rate to itself
either. -/
theorem outcomes_ne_of_failed {w : Window} {reading : Number} {fault : Fault} {rate : Binary64}
    (hfailed : (w.sample reading).1 = .error fault)
    (hself : rateOf reading reading w.span = .ok rate) :
    (w.sample reading).2.outcomes (List.replicate w.panes (.ok reading)) ≠
      w.outcomes (List.replicate w.panes (.ok reading)) := by
  intro hsame
  have hpanes := w.panes_pos
  have hlast := isOk_attempts_of_outcomes_eq (.ok reading) w.panes
    (by rw [attempt_ok, hfailed]; rfl) hsame
  obtain ⟨past, hpast⟩ := w.exists_holds
  have hend := hpast.attempts (List.replicate w.panes reading)
  rw [List.map_replicate] at hend
  -- the sample behind the run compares with the first one of the run
  have holdest : (w.attempts (List.replicate w.panes (.ok reading))).oldest = reading := by
    rw [hend.oldest, panes_attempts, List.length_append, List.length_replicate]
    have hplace : past.length + w.panes + 1 - w.panes = past.length + 1 := by omega
    rw [hplace, readingAt, List.getD_eq_getElem?_getD,
      List.getElem?_append_right (Nat.le_refl _), Nat.sub_self, List.getElem?_replicate,
      if_pos hpanes]
    rfl
  rw [attempt_ok, sample_fst, holdest, span_attempts, hself] at hlast
  cases hlast

end Window

end Telemetry
