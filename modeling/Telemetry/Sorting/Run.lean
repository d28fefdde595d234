/-!
# Runs in a list

A run is a part of a list that is in order. The run that a list starts with is kept, turned around
if it falls. A run that is too short takes in the items behind it one by one: each goes to its
place, which is found by halving. Comparisons may fail.

Main statements: `perm_nextRun` (a run and the rest hold the items of the list),
`length_lt_of_nextRun` (a run holds an item).
-/

namespace Telemetry.Sorting

variable {ε α : Type}

/-! ### The run in front -/

/-- Go on with a run that falls; `run` holds its items before `last`, in increasing order. -/
def falling (less : α → α → Except ε Bool) (last : α) (run : List α) :
    List α → Except ε (List α × List α)
  | [] => .ok (last :: run, [])
  | a :: rest => do
    if ← less a last then falling less a (last :: run) rest
    else return (last :: run, a :: rest)

/-- Go on with a run that rises; `run` holds its items before `last`, in decreasing order. -/
def rising (less : α → α → Except ε Bool) (last : α) (run : List α) :
    List α → Except ε (List α × List α)
  | [] => .ok ((last :: run).reverse, [])
  | a :: rest => do
    if ← less a last then return ((last :: run).reverse, a :: rest)
    else rising less a (last :: run) rest

/-- The run that a list starts with, in increasing order, and the rest. -/
def firstRun (less : α → α → Except ε Bool) : List α → Except ε (List α × List α)
  | a :: b :: rest => do
    if ← less b a then falling less b [a] rest else rising less b [a] rest
  | short => .ok (short, [])

/-! ### Halving -/

/-- The end of a list that is looked at first. -/
inductive Side where
  | front
  | back
deriving DecidableEq

/-- The middle of so many places: of two, the one nearer to the end of the list. -/
def Side.middle : Side → (width : Nat) → Nat
  | front, width => width / 2
  | back, width => (width - 1) / 2

theorem Side.middle_lt (side : Side) {width : Nat} (h : width ≠ 0) : side.middle width < width := by
  cases side with
  | front => exact Nat.div_lt_self (Nat.pos_of_ne_zero h) (Nat.le_refl 2)
  | back => exact Nat.lt_of_le_of_lt (Nat.div_le_self _ 2) (Nat.pred_lt h)

/-- The first place, of the `width` places from `start` on and the one behind them, whose item fails
a test that is passed by all items before and by none behind. The list is given from its end at
`side` on. -/
def boundary (test : α → Except ε Bool) (side : Side) (items : List α) (start width : Nat) :
    Except ε Nat :=
  if _ : width = 0 then .ok start
  else match items[start + side.middle width]? with
    | none => .ok start
    | some a => do
      if ← test a then
        boundary test side items (start + side.middle width + 1) (width - side.middle width - 1)
      else boundary test side items start (side.middle width)
termination_by width
decreasing_by
  · omega
  · exact side.middle_lt (by assumption)

/-! ### Longer runs -/

/-- Put an item into a run, behind those that are equal. -/
def insert (less : α → α → Except ε Bool) (run : List α) (item : α) : Except ε (List α) := do
  let place ← boundary (fun a => return !(← less item a)) .front run 0 run.length
  return run.take place ++ item :: run.drop place

/-- Put items into a run until it is so long. -/
def lengthen (less : α → α → Except ε Bool) (least : Nat) (run : List α) :
    List α → Except ε (List α × List α)
  | [] => .ok (run, [])
  | a :: rest =>
    if run.length < least then
      match insert less run a with
      | .ok longer => lengthen less least longer rest
      | .error e => .error e
    else .ok (run, a :: rest)

/-- The next run, of the given length at least where the items suffice, and the rest. -/
def nextRun (less : α → α → Except ε Bool) (least : Nat) (items : List α) :
    Except ε (List α × List α) :=
  match firstRun less items with
  | .ok (run, rest) => lengthen less least run rest
  | .error e => .error e

/-! ### The items stay -/

theorem perm_falling {less : α → α → Except ε Bool} {last : α} {run items : List α}
    {done : List α × List α} (h : falling less last run items = .ok done) :
    (done.1 ++ done.2).Perm (last :: run ++ items) ∧ done.2.length ≤ items.length := by
  induction items generalizing last run with
  | nil => cases h; exact ⟨.refl _, Nat.le_refl _⟩
  | cons a rest ih =>
    rw [falling] at h
    cases hless : less a last with
    | error e => rw [hless] at h; cases h
    | ok b =>
      rw [hless] at h
      cases b with
      | false => cases h; exact ⟨.refl _, Nat.le_refl _⟩
      | true => exact ⟨(ih h).1.trans List.perm_middle.symm, Nat.le_succ_of_le (ih h).2⟩

theorem perm_rising {less : α → α → Except ε Bool} {last : α} {run items : List α}
    {done : List α × List α} (h : rising less last run items = .ok done) :
    (done.1 ++ done.2).Perm (last :: run ++ items) ∧ done.2.length ≤ items.length := by
  induction items generalizing last run with
  | nil => cases h; exact ⟨(List.reverse_perm _).append_right _, Nat.le_refl _⟩
  | cons a rest ih =>
    rw [rising] at h
    cases hless : less a last with
    | error e => rw [hless] at h; cases h
    | ok b =>
      rw [hless] at h
      cases b with
      | true => cases h; exact ⟨(List.reverse_perm _).append_right _, Nat.le_refl _⟩
      | false => exact ⟨(ih h).1.trans List.perm_middle.symm, Nat.le_succ_of_le (ih h).2⟩

theorem perm_firstRun {less : α → α → Except ε Bool} {items : List α} {done : List α × List α}
    (h : firstRun less items = .ok done) :
    (done.1 ++ done.2).Perm items ∧ (items ≠ [] → done.2.length < items.length) := by
  match items with
  | [] => cases h; exact ⟨.refl _, (absurd rfl ·)⟩
  | [a] => cases h; exact ⟨.refl _, fun _ => Nat.zero_lt_one⟩
  | a :: b :: rest =>
    rw [firstRun] at h
    cases hless : less b a with
    | error e => rw [hless] at h; cases h
    | ok falls =>
      rw [hless] at h
      cases falls with
      | true =>
        exact ⟨(perm_falling h).1.trans (.swap a b rest),
          fun _ => Nat.lt_succ_of_le (Nat.le_succ_of_le (perm_falling h).2)⟩
      | false =>
        exact ⟨(perm_rising h).1.trans (.swap a b rest),
          fun _ => Nat.lt_succ_of_le (Nat.le_succ_of_le (perm_rising h).2)⟩

theorem perm_insert {less : α → α → Except ε Bool} {run done : List α} {item : α}
    (h : insert less run item = .ok done) : done.Perm (run ++ [item]) := by
  rw [insert] at h
  cases hplace : boundary (fun a => return !(← less item a)) .front run 0 run.length with
  | error e => rw [hplace] at h; cases h
  | ok index =>
    rw [hplace] at h
    cases h
    refine List.perm_middle.trans ?_
    rw [List.take_append_drop]
    exact (List.perm_append_singleton item run).symm

theorem perm_lengthen {less : α → α → Except ε Bool} {least : Nat} {run items : List α}
    {done : List α × List α} (h : lengthen less least run items = .ok done) :
    (done.1 ++ done.2).Perm (run ++ items) ∧ done.2.length ≤ items.length := by
  induction items generalizing run with
  | nil => cases h; exact ⟨.refl _, Nat.le_refl _⟩
  | cons a rest ih =>
    rw [lengthen] at h
    split at h
    · split at h
      · next longer hinsert =>
        refine ⟨(ih h).1.trans ?_, Nat.le_succ_of_le (ih h).2⟩
        rw [List.append_cons run a rest]
        exact (perm_insert hinsert).append_right rest
      · cases h
    · cases h; exact ⟨.refl _, Nat.le_refl _⟩

/-- The next run and its rest hold the same items. -/
theorem perm_nextRun {less : α → α → Except ε Bool} {least : Nat} {items run rest : List α}
    (h : nextRun less least items = .ok (run, rest)) : (run ++ rest).Perm items := by
  rw [nextRun] at h
  split at h
  · next hfirst => exact (perm_lengthen h).1.trans (perm_firstRun hfirst).1
  · cases h

/-- The next run takes an item at least. -/
theorem length_lt_of_nextRun {less : α → α → Except ε Bool} {least : Nat}
    {items run rest : List α} (h : nextRun less least items = .ok (run, rest))
    (hitems : items ≠ []) : rest.length < items.length := by
  rw [nextRun] at h
  split at h
  · next hfirst => exact Nat.lt_of_le_of_lt (perm_lengthen h).2 ((perm_firstRun hfirst).2 hitems)
  · cases h

end Telemetry.Sorting
