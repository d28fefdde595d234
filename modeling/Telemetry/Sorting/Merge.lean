import Telemetry.Sorting.Run

/-!
# Merging of two runs

Two neighbouring runs become one. What the left run holds before all of the right run, and the right
run behind all of the left run, stays where it is. The rest is merged from one end on: from the
front if the left rest is not the longer one, from the back otherwise. Of equal items those of the
left run come first.

A merge walks: it compares the two items where it stands and takes one. When as many items in a row
came from one run as its patience asks for, it leaps: it looks for the place of one run's item in
the other run, in doubling steps and by halving, and does so with both runs in turn as long as it
gets ahead. Patience falls while leaping goes on and rises when it ends, and later merges inherit
it. The item that is known to come last is not compared again.

Main statement: `perm_merge` (two runs and the run that they become hold the same items).
-/

namespace Telemetry.Sorting

variable {ε α : Type}

/-! ### Leaps -/

/-- Go on in doubling steps as long as the items pass a test: the last place that passed, and the
next place that was looked at or the end. -/
def stride (test : α → Except ε Bool) (items : List α) (last next : Nat) : Except ε (Nat × Nat) :=
  if h : next < items.length then do
    if ← test items[next] then stride test items next (2 * next + 1) else return (last, next)
  else .ok (last, items.length)
termination_by items.length - next

/-- The number of items in front that pass a test. The list is given from its end at `side` on. -/
def leap (test : α → Except ε Bool) (side : Side) : List α → Except ε Nat
  | [] => .ok 0
  | a :: rest => do
    if ← test a then
      let (last, next) ← stride test (a :: rest) 0 1
      boundary test side (a :: rest) (last + 1) (next - last - 1)
    else return 0

/-! ### Merging from one end -/

/-- Whether an item of the left run is taken before an item of the right run: at the front unless
that is smaller, at the back if that is smaller. -/
def takesLeft (less : α → α → Except ε Bool) (side : Side) (left right : α) : Except ε Bool := do
  let smaller ← less right left
  return smaller == (side == .back)

/-- Whether an item of the right run is taken before an item of the left run. -/
def takesRight (less : α → α → Except ε Bool) (side : Side) (left right : α) : Except ε Bool := do
  return !(← takesLeft less side left right)

/-- Whether nothing is left to compare. From the front, the last item of the left run comes last,
from the back the first item of the right run. -/
def isOver : Side → (left right : List α) → Bool
  | .front, left, right => right.isEmpty || left.length ≤ 1
  | .back, left, right => left.isEmpty || right.length ≤ 1

/-- What is left when nothing is left to compare. -/
def leftOver : Side → (left right : List α) → List α
  | .front, left, right => right ++ left
  | .back, left, right => left ++ right

/-- How a merge goes on. -/
inductive Pace where
  /-- Item by item; so many in a row came from the left run, or from the right run. -/
  | walk (left right : Nat)
  /-- With a leap in the left run. -/
  | leapLeft
  /-- With a leap in the right run, after a leap over so many items of the left run. -/
  | leapRight (left : Nat)

/-- The number of items in a row that makes a merge leap at first, and that a leap has to cover for
leaping to go on. -/
def gain : Nat := 7

/-- The pace after so many items in a row from each run. -/
def paceAfter (patience left right : Nat) : Pace :=
  if patience ≤ max left right then .leapLeft else .walk left right

/-- Items in front of what a merge yields. -/
def putFront (items : List α) (merged : List α × Nat) : List α × Nat :=
  (items ++ merged.1, merged.2)

/-- Merge what is left of two runs, which are given from their ends at `side` on. The result comes
from that end on as well, with the patience for the next merge, which is `kept` if the merge is
over. -/
def mergeRest (less : α → α → Except ε Bool) (side : Side) (pace : Pace) (patience kept : Nat)
    (left right : List α) : Except ε (List α × Nat) :=
  if isOver side left right then .ok (leftOver side left right, kept)
  else match left, right with
    | a :: lefts, b :: rights =>
      match pace with
      | .walk fromLeft fromRight =>
        match takesLeft less side a b with
        | .error e => .error e
        | .ok true =>
          (mergeRest less side (paceAfter patience (fromLeft + 1) 0) patience patience
            lefts (b :: rights)).map (putFront [a])
        | .ok false =>
          (mergeRest less side (paceAfter patience 0 (fromRight + 1)) patience patience
            (a :: lefts) rights).map (putFront [b])
      | .leapLeft =>
        match leap (takesLeft less side · b) side (a :: lefts) with
        | .error e => .error e
        | .ok n =>
          if isOver side ((a :: lefts).drop n) (b :: rights) then
            .ok (putFront ((a :: lefts).take n)
              (leftOver side ((a :: lefts).drop n) (b :: rights), patience))
          else
            (mergeRest less side (.leapRight n) patience patience
              ((a :: lefts).drop n) rights).map (putFront ((a :: lefts).take n ++ [b]))
      | .leapRight before =>
        match leap (takesRight less side a) side (b :: rights) with
        | .error e => .error e
        | .ok n =>
          if isOver side (a :: lefts) ((b :: rights).drop n) then
            .ok (putFront ((b :: rights).take n)
              (leftOver side (a :: lefts) ((b :: rights).drop n), patience))
          else if gain ≤ max before n then
            (mergeRest less side .leapLeft (max 1 (patience - 1)) patience
              lefts ((b :: rights).drop n)).map (putFront ((b :: rights).take n ++ [a]))
          else
            (mergeRest less side (.walk 0 0) (patience + 1) patience
              lefts ((b :: rights).drop n)).map (putFront ((b :: rights).take n ++ [a]))
    | _, _ => .ok (leftOver side left right, kept)
termination_by left.length + right.length
decreasing_by all_goals simp <;> omega

/-! ### Merging of runs -/

/-- Merge two runs with an item in front of the right run that comes first. -/
def mergeFront (less : α → α → Except ε Bool) (patience : Nat) (left : List α) :
    (right : List α) → Except ε (List α × Nat)
  | [] => .ok (left, patience)
  | b :: rights =>
    (mergeRest less .front (.walk 0 0) patience patience left rights).map (putFront [b])

/-- Merge two runs, given from their ends on, with an item at the end of the left run that comes
last. -/
def mergeBack (less : α → α → Except ε Bool) (patience : Nat) (left right : List α) :
    Except ε (List α × Nat) :=
  match left with
  | [] => .ok (right.reverse, patience)
  | a :: lefts =>
    (mergeRest less .back (.walk 0 0) patience patience lefts right).map fun merged =>
      ((a :: merged.1).reverse, merged.2)

/-- Merge two runs where the items that stay in place are off, from the end of the shorter. -/
def mergeInner (less : α → α → Except ε Bool) (patience : Nat) (left right : List α) :
    Except ε (List α × Nat) :=
  if right.isEmpty then .ok (left, patience)
  else if left.length ≤ right.length then mergeFront less patience left right
  else mergeBack less patience left.reverse right.reverse

/-- The number of items in front of the left run that come before all of the right run. -/
def leading (less : α → α → Except ε Bool) (left right : List α) : Except ε Nat :=
  match right with
  | [] => .ok left.length
  | b :: _ => leap (takesLeft less .front · b) .front left

/-- The number of items at the end of the right run that come behind all of the left run. -/
def trailing (less : α → α → Except ε Bool) (left right : List α) : Except ε Nat :=
  match left.getLast? with
  | none => .ok right.length
  | some a => leap (takesRight less .back a) .back right.reverse

/-- Merge two runs, with the patience that earlier merges left. -/
def merge (less : α → α → Except ε Bool) (patience : Nat) (left right : List α) :
    Except ε (List α × Nat) :=
  match leading less left right with
  | .error e => .error e
  | .ok first =>
    match trailing less (left.drop first) right with
    | .error e => .error e
    | .ok last =>
      (mergeInner less patience (left.drop first) (right.take (right.length - last))).map
        fun merged =>
          (left.take first ++ (merged.1 ++ right.drop (right.length - last)), merged.2)

/-! ### The items stay -/

theorem perm_leftOver (side : Side) (left right : List α) :
    (leftOver side left right).Perm (left ++ right) := by
  cases side with
  | front => exact List.perm_append_comm
  | back => exact .refl _

theorem exists_of_map_eq_ok {β γ : Type} {f : β → γ} {result : Except ε β} {c : γ}
    (h : result.map f = .ok c) : ∃ b, result = .ok b ∧ f b = c := by
  cases result with
  | error e => cases h
  | ok b => cases h; exact ⟨b, rfl, rfl⟩

/-- A part of the left run, and then an item of the right run, may go in front. -/
theorem perm_take_left {merged left right : List α} {b : α} (n : Nat)
    (h : merged.Perm (left.drop n ++ right)) :
    (left.take n ++ [b] ++ merged).Perm (left ++ b :: right) := by
  rw [List.append_assoc]
  refine (((h.cons b).trans List.perm_middle.symm).append_left (left.take n)).trans ?_
  rw [← List.append_assoc, List.take_append_drop]

theorem perm_take_right {merged left right : List α} {a : α} (n : Nat)
    (h : merged.Perm (left ++ right.drop n)) :
    (right.take n ++ [a] ++ merged).Perm (a :: left ++ right) :=
  (perm_take_left n (h.trans List.perm_append_comm)).trans List.perm_append_comm

theorem perm_take_rest {merged left right : List α} (n : Nat)
    (h : merged.Perm (left ++ right.drop n)) :
    (right.take n ++ merged).Perm (left ++ right) := by
  refine ((h.trans List.perm_append_comm).append_left (right.take n)).trans ?_
  rw [← List.append_assoc, List.take_append_drop]
  exact List.perm_append_comm

theorem perm_mergeRest {less : α → α → Except ε Bool} {side : Side} {pace : Pace}
    {patience kept : Nat} {left right : List α} {done : List α × Nat}
    (h : mergeRest less side pace patience kept left right = .ok done) :
    done.1.Perm (left ++ right) := by
  fun_induction mergeRest less side pace patience kept left right generalizing done with
  | case1 | case12 => cases h; exact perm_leftOver ..
  | case2 | case5 | case8 => cases h
  | case3 _ _ _ _ _ _ _ _ _ _ ih =>
    obtain ⟨rest, hrest, rfl⟩ := exists_of_map_eq_ok h
    exact (ih hrest).cons _
  | case4 _ _ _ _ _ _ _ _ _ _ ih =>
    obtain ⟨rest, hrest, rfl⟩ := exists_of_map_eq_ok h
    exact ((ih hrest).cons _).trans List.perm_middle.symm
  | case6 _ _ a lefts _ _ n =>
    cases h
    refine ((perm_leftOver side _ _).append_left ((a :: lefts).take n)).trans ?_
    rw [← List.append_assoc, List.take_append_drop]
  | case7 _ _ _ _ _ _ n _ _ _ ih =>
    obtain ⟨rest, hrest, rfl⟩ := exists_of_map_eq_ok h
    exact perm_take_left n (ih hrest)
  | case9 _ _ _ _ _ _ _ n =>
    cases h
    exact perm_take_rest n (perm_leftOver side _ _)
  | case10 _ _ _ _ _ _ _ n _ _ _ _ ih | case11 _ _ _ _ _ _ _ n _ _ _ _ ih =>
    obtain ⟨rest, hrest, rfl⟩ := exists_of_map_eq_ok h
    exact perm_take_right n (ih hrest)

theorem perm_mergeFront {less : α → α → Except ε Bool} {patience : Nat} {left right : List α}
    {done : List α × Nat} (h : mergeFront less patience left right = .ok done) :
    done.1.Perm (left ++ right) := by
  cases right with
  | nil => cases h; rw [List.append_nil]
  | cons b rights =>
    obtain ⟨rest, hrest, rfl⟩ := exists_of_map_eq_ok h
    exact ((perm_mergeRest hrest).cons b).trans List.perm_middle.symm

theorem perm_mergeBack {less : α → α → Except ε Bool} {patience : Nat} {left right : List α}
    {done : List α × Nat} (h : mergeBack less patience left right = .ok done) :
    done.1.Perm (left ++ right) := by
  cases left with
  | nil => cases h; exact List.reverse_perm right
  | cons a lefts =>
    obtain ⟨rest, hrest, rfl⟩ := exists_of_map_eq_ok h
    exact (List.reverse_perm _).trans ((perm_mergeRest hrest).cons a)

theorem perm_mergeInner {less : α → α → Except ε Bool} {patience : Nat} {left right : List α}
    {done : List α × Nat} (h : mergeInner less patience left right = .ok done) :
    done.1.Perm (left ++ right) := by
  rw [mergeInner] at h
  split at h
  · next hright =>
    cases h
    rw [List.isEmpty_iff.1 hright, List.append_nil]
  · split at h
    · exact perm_mergeFront h
    · exact (perm_mergeBack h).trans ((List.reverse_perm left).append (List.reverse_perm right))

/-- Merging keeps the items of both runs. -/
theorem perm_merge {less : α → α → Except ε Bool} {patience : Nat} {left right : List α}
    {done : List α × Nat} (h : merge less patience left right = .ok done) :
    done.1.Perm (left ++ right) := by
  rw [merge] at h
  split at h
  · cases h
  · next first _ =>
    split at h
    · cases h
    · next last _ =>
      obtain ⟨merged, hmerged, rfl⟩ := exists_of_map_eq_ok h
      refine (((perm_mergeInner hmerged).append_right _).append_left _).trans ?_
      rw [List.append_assoc, List.take_append_drop, ← List.append_assoc, List.take_append_drop]

end Telemetry.Sorting
