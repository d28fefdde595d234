import Telemetry.Sorting.Merge

/-!
# Sorting with comparisons that may fail

Items of several kinds may have no order between them, so that a comparison fails and with it the
sorting; and an item may be neither smaller nor greater than any other. What comes out, or which
comparison fails first, depends on the comparisons that are made. A list is cut into runs from left
to right, as `Telemetry.Sorting.Run` says, and neighbouring runs are merged, as
`Telemetry.Sorting.Merge` says. A border between two runs has a power: halve the list again and
again until a cut separates the middles of the two runs, and count the halvings. Before a run is
added, runs that wait are merged across borders of a higher power than the new one. In the end, all
runs that wait are merged from the right, of three runs the shorter outer one first.

Main statement: `perm_sort` (what is sorted holds the same items).
-/

namespace Telemetry.Sorting

variable {ε α : Type}

/-! ### Borders -/

/-- The least length of a run in a list of so many items: halved until it is below 64, and one more
if a half was ever lost. -/
def leastRun (size lost : Nat) : Nat :=
  if size < 64 then size + lost else leastRun (size / 2) (max lost (size % 2))
termination_by size
decreasing_by omega

/-- The first binary place, of so many at most, at which the fractions `left / size` and
`right / size` below two differ. -/
def differAt (size : Nat) : (places left right : Nat) → Nat
  | 0, _, _ => 0
  | places + 1, left, right =>
    if size ≤ left then differAt size places (2 * (left - size)) (2 * (right - size)) + 1
    else if size ≤ right then 1
    else differAt size places (2 * left) (2 * right) + 1

/-- The power of the border, in a list of `size` items, between the run of `left` items from `start`
on and the run of `right` items behind it. -/
def borderPower (size start left right : Nat) : Nat :=
  differAt size size (2 * start + left) (2 * start + 2 * left + right)

/-! ### Runs that wait -/

/-- A run that waits to be merged with the run behind it, and the power of the border between
them. -/
structure Waiting (α : Type) where
  run : List α
  power : Nat

/-- How far sorting has come: the runs that wait, the last one first, the run behind them, and the
patience for the next merge. -/
structure Progress (α : Type) where
  waiting : List (Waiting α)
  last : List α
  patience : Nat

/-- Merge the last run with runs that wait at borders of a higher power. -/
def collapse (less : α → α → Except ε Bool) (power : Nat) :
    List (Waiting α) → (last : List α) → (patience : Nat) → Except ε (Progress α)
  | [], last, patience => .ok ⟨[], last, patience⟩
  | before :: waiting, last, patience =>
    if power < before.power then
      match merge less patience before.run last with
      | .ok (merged, patience) => collapse less power waiting merged patience
      | .error e => .error e
    else .ok ⟨before :: waiting, last, patience⟩

def finish (less : α → α → Except ε Bool) :
    List (Waiting α) → (last : List α) → (patience : Nat) → Except ε (List α)
  | [], last, _ => .ok last
  | [before], last, patience => (merge less patience before.run last).map (·.1)
  | before :: first :: waiting, last, patience =>
    if first.run.length < last.length then
      match merge less patience first.run before.run with
      | .ok (merged, patience) => finish less (⟨merged, first.power⟩ :: waiting) last patience
      | .error e => .error e
    else
      match merge less patience before.run last with
      | .ok (merged, patience) => finish less (first :: waiting) merged patience
      | .error e => .error e
termination_by waiting => waiting.length

/-- Sort what is left of a list of `size` items, from the given progress on. -/
def sortRest (less : α → α → Except ε Bool) (size : Nat) (progress : Progress α)
    (items : List α) : Except ε (List α) :=
  if _ : items = [] then finish less progress.waiting progress.last progress.patience
  else
    match _ : nextRun less (leastRun size 0) items with
    | .error e => .error e
    | .ok (run, rest) =>
      let power := borderPower size (size - items.length - progress.last.length)
        progress.last.length run.length
      match collapse less power progress.waiting progress.last progress.patience with
      | .error e => .error e
      | .ok merged =>
        sortRest less size ⟨⟨merged.last, power⟩ :: merged.waiting, run, merged.patience⟩ rest
termination_by items.length
decreasing_by exact length_lt_of_nextRun (by assumption) (by assumption)

def sort (less : α → α → Except ε Bool) (items : List α) : Except ε (List α) :=
  match nextRun less (leastRun items.length 0) items with
  | .error e => .error e
  | .ok (run, rest) => sortRest less items.length ⟨[], run, gain⟩ rest

/-! ### The items stay -/

def waitingItems : List (Waiting α) → List α
  | [] => []
  | before :: waiting => waitingItems waiting ++ before.run

/-- The items that sorting has come to. -/
def Progress.items (progress : Progress α) : List α :=
  waitingItems progress.waiting ++ progress.last

theorem perm_collapse {less : α → α → Except ε Bool} {power patience : Nat}
    {waiting : List (Waiting α)} {last : List α} {done : Progress α}
    (h : collapse less power waiting last patience = .ok done) :
    done.items.Perm (waitingItems waiting ++ last) := by
  induction waiting generalizing last patience with
  | nil => cases h; exact .refl _
  | cons before waiting ih =>
    rw [collapse] at h
    split at h
    · split at h
      · next hmerge =>
        refine (ih h).trans ?_
        rw [waitingItems, List.append_assoc]
        exact (perm_merge hmerge).append_left _
      · cases h
    · cases h; exact .refl _

theorem perm_finish {less : α → α → Except ε Bool} {waiting : List (Waiting α)} {last done : List α}
    {patience : Nat} (h : finish less waiting last patience = .ok done) :
    done.Perm (waitingItems waiting ++ last) := by
  fun_induction finish less waiting last patience with
  | case1 => cases h; exact .refl _
  | case2 =>
    obtain ⟨merged, hmerge, rfl⟩ := exists_of_map_eq_ok h
    exact perm_merge hmerge
  | case3 before first waiting _ _ _ _ _ hmerge ih =>
    refine (ih h).trans (List.Perm.append_right _ ?_)
    rw [waitingItems, waitingItems, waitingItems, List.append_assoc]
    exact (perm_merge hmerge).append_left _
  | case5 before first waiting _ _ _ _ _ hmerge ih =>
    refine (ih h).trans ?_
    rw [waitingItems.eq_def (before :: _), List.append_assoc]
    exact (perm_merge hmerge).append_left _
  | case4 | case6 => cases h

theorem perm_sortRest {less : α → α → Except ε Bool} {size : Nat} {progress : Progress α}
    {items done : List α} (h : sortRest less size progress items = .ok done) :
    done.Perm (progress.items ++ items) := by
  fun_induction sortRest less size progress items with
  | case1 => rw [List.append_nil]; exact perm_finish h
  | case2 | case3 => cases h
  | case4 progress items _ run rest hrun _ merged hmerged ih =>
    refine (ih h).trans ?_
    rw [Progress.items, waitingItems, List.append_assoc]
    exact (perm_collapse hmerged).append (perm_nextRun hrun)

/-- Sorting keeps the items. -/
theorem perm_sort {less : α → α → Except ε Bool} {items done : List α}
    (h : sort less items = .ok done) : done.Perm items := by
  rw [sort] at h
  split at h
  · cases h
  · next hrun => exact (perm_sortRest h).trans (perm_nextRun hrun)

/-- One item is sorted without a comparison. -/
theorem sort_singleton (less : α → α → Except ε Bool) (a : α) : sort less [a] = .ok [a] := by
  simp [sort, nextRun, firstRun, lengthen, sortRest, finish]

end Telemetry.Sorting
