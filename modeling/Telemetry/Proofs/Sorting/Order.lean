import Mathlib.Data.List.Sort
import Telemetry.Proofs.Sorting.Returns

/-!
# Sorting sorts

If the items are compared by keys, and the keys are in a linear order, a sorted list is in order. The
phases work with runs, from the front or from the back, and each of them leaves runs behind. Searching
by halving and by leaps relies on runs: in a run the items that pass a test about their keys stand in
front. Merging relies on one item that is known to come last: it is not compared, and what is left
when the other run is used up goes where it belongs.

Items that their keys tell apart have one order, which is that of any other sort by the same keys; so
the order in which they came is lost.

Main statements: `pairwise_of_sort` (what is sorted is in order) and `sort_eq_mergeSort` (items that
their keys tell apart are sorted as the library does it).
-/

namespace Telemetry.Sorting

variable {ε α κ : Type} [LinearOrder κ] {key : α → κ}

/-! ## Splitting a list -/

/-- The first so many items pass, and no item behind them does. -/
structure Splits (passes : α → Bool) (items : List α) (n : Nat) : Prop where
  front : ∀ a ∈ items.take n, passes a = true
  rest : ∀ a ∈ items.drop n, passes a = false

section Search

variable {test : α → Except ε Bool} {passes : α → Bool} {items : List α}
  (htest : ∀ a ∈ items, test a = .ok (passes a))
  (hmono : items.Pairwise fun a b => passes b = true → passes a = true)

include hmono in
/-- All items before one that passes do so. -/
theorem passes_of_mem_take {i : Nat} (hi : i < items.length) (h : passes items[i] = true) :
    ∀ a ∈ items.take (i + 1), passes a = true := by
  intro a ha
  obtain ⟨j, hj, rfl⟩ := List.getElem_of_mem ha
  rw [List.length_take] at hj
  rw [List.getElem_take]
  rcases Nat.lt_or_ge j i with hlt | hge
  · exact List.pairwise_iff_getElem.mp hmono j i (by omega) hi hlt h
  · obtain rfl : j = i := by omega
    exact h

include hmono in
/-- No item behind one that fails passes. -/
theorem fails_of_mem_drop {i : Nat} (hi : i < items.length) (h : passes items[i] = false) :
    ∀ a ∈ items.drop i, passes a = false := by
  intro a ha
  obtain ⟨j, hj, rfl⟩ := List.getElem_of_mem ha
  rw [List.length_drop] at hj
  rw [List.getElem_drop]
  rcases Nat.eq_zero_or_pos j with rfl | hpos
  · exact h
  · -- if it passed, the one before it would
    by_contra hpasses
    have hbefore := List.pairwise_iff_getElem.mp hmono i (i + j) hi (by omega) (by omega)
      (Bool.eq_true_of_not_eq_false hpasses)
    rw [h] at hbefore
    cases hbefore

include htest hmono

/-- **Halving finds where the items split**, if they split within the places that are looked at. -/
theorem splits_boundary {side : Side} {start width n : Nat}
    (h : boundary test side items start width = .ok n) (hroom : start + width ≤ items.length)
    (hfront : ∀ a ∈ items.take start, passes a = true)
    (hrest : ∀ a ∈ items.drop (start + width), passes a = false) : Splits passes items n := by
  fun_induction boundary test side items start width with
  | case1 start => cases h; exact ⟨hfront, by simpa using hrest⟩
  | case2 start width hwidth hnone =>
    -- the middle is within the list
    have hlt := side.middle_lt hwidth
    rw [List.getElem?_eq_none_iff] at hnone
    omega
  | case3 start width hwidth a ha ihright ihleft =>
    have hlt := side.middle_lt hwidth
    obtain ⟨hi, rfl⟩ := List.getElem?_eq_some_iff.mp ha
    rw [htest _ (List.getElem_mem hi)] at h
    cases hpasses : passes items[start + side.middle width] with
    | true =>
        rw [hpasses] at h
        have hend : start + side.middle width + 1 + (width - side.middle width - 1) =
            start + width := by omega
        refine ihright h (by omega) (passes_of_mem_take hmono hi hpasses) ?_
        rw [hend]
        exact hrest
    | false =>
        rw [hpasses] at h
        exact ihleft h (by omega) hfront (fails_of_mem_drop hmono hi hpasses)

/-- Where doubling steps end: what passed and what did not have been seen. -/
theorem seen_of_stride {last next : Nat} {ends : Nat × Nat}
    (h : stride test items last next = .ok ends) (hlast : last < items.length)
    (hlt : last < next) (hfront : ∀ a ∈ items.take (last + 1), passes a = true) :
    ends.1 < ends.2 ∧ ends.2 ≤ items.length ∧ (∀ a ∈ items.take (ends.1 + 1), passes a = true) ∧
      ∀ a ∈ items.drop ends.2, passes a = false := by
  fun_induction stride test items last next with
  | case1 last next hnext ih =>
    rw [htest _ (List.getElem_mem hnext)] at h
    cases hpasses : passes items[next] with
    | true =>
        rw [hpasses] at h
        exact ih h hnext (by omega) (passes_of_mem_take hmono hnext hpasses)
    | false =>
        rw [hpasses] at h
        cases h
        exact ⟨hlt, hnext.le, hfront, fails_of_mem_drop hmono hnext hpasses⟩
  | case2 last next hnext =>
    cases h
    exact ⟨hlast, le_rfl, hfront, by simp⟩

/-- **A leap covers the items that pass.** -/
theorem splits_leap {side : Side} {n : Nat} (h : leap test side items = .ok n) :
    Splits passes items n := by
  cases items with
  | nil => cases h; exact ⟨by simp, by simp⟩
  | cons a rest =>
      rw [leap, htest a (List.mem_cons_self ..)] at h
      have hzero : 0 < (a :: rest).length := Nat.zero_lt_succ _
      cases hpasses : passes a with
      | false =>
          rw [hpasses] at h
          cases h
          exact ⟨by simp, fails_of_mem_drop hmono hzero hpasses⟩
      | true =>
          rw [hpasses] at h
          cases hstride : stride test (a :: rest) 0 1 with
          | error e =>
              simp only [hstride] at h
              cases h
          | ok ends =>
              simp only [hstride] at h
              obtain ⟨hlt, hle, hfront, hrest⟩ := seen_of_stride htest hmono hstride hzero
                Nat.zero_lt_one (passes_of_mem_take hmono hzero hpasses)
              have hend : ends.1 + 1 + (ends.2 - ends.1 - 1) = ends.2 := by omega
              refine splits_boundary htest hmono h (by omega) hfront ?_
              rw [hend]
              exact hrest

end Search

/-! ## Items in order -/

/-- The library's sort by keys is in the order of the keys. -/
theorem pairwise_mergeSort_key (key : α → κ) (items : List α) :
    (items.mergeSort fun a b => decide (key a ≤ key b)).Pairwise fun a b => key a ≤ key b := by
  refine (List.pairwise_mergeSort ?_ ?_ items).imp of_decide_eq_true
  · intro a b c hab hbc
    exact decide_eq_true (le_trans (of_decide_eq_true hab) (of_decide_eq_true hbc))
  · intro a b
    simpa using le_total (key a) (key b)

/-- Whether an item may stand before another, from the end of the list at the given side on. -/
def Before (key : α → κ) : Side → α → α → Prop
  | .front, a, b => key a ≤ key b
  | .back, a, b => key b ≤ key a

theorem Before.trans {side : Side} {a b c : α} (hab : Before key side a b)
    (hbc : Before key side b c) : Before key side a c := by
  cases side with
  | front => exact le_trans hab hbc
  | back => exact le_trans hbc hab

/-- Items that are compared by keys, from one end on in order. -/
structure IsRun (key : α → κ) (S : α → Prop) (side : Side) (items : List α) : Prop where
  mem : ∀ a ∈ items, S a
  pairwise : items.Pairwise (Before key side)

variable {S : α → Prop} {side : Side} {left right : List α}

theorem IsRun.reverse {run : List α} (h : IsRun key S .front run) :
    IsRun key S .back run.reverse where
  mem := fun a ha => h.mem a (List.mem_reverse.mp ha)
  pairwise := List.pairwise_reverse.mpr h.pairwise

theorem IsRun.sublist {run part : List α} (h : IsRun key S side run) (hpart : part.Sublist run) :
    IsRun key S side part where
  mem := fun a ha => h.mem a (hpart.subset ha)
  pairwise := h.pairwise.sublist hpart

/-- Items in front of a run of which each may stand before each item of the run. -/
theorem pairwise_append_of_before {front rest : List α} (hfront : front.Pairwise (Before key side))
    (hrest : rest.Pairwise (Before key side)) (h : ∀ a ∈ front, ∀ b ∈ rest, Before key side a b) :
    (front ++ rest).Pairwise (Before key side) :=
  List.pairwise_append.mpr ⟨hfront, hrest, h⟩

/-- What may stand before the first item of a run may stand before all of it. -/
theorem before_of_before_head {a b : α} {rest : List α}
    (h : (b :: rest).Pairwise (Before key side)) (hab : Before key side a b) :
    ∀ c ∈ b :: rest, Before key side a c := by
  rw [List.forall_mem_cons]
  exact ⟨hab, fun c hc => hab.trans (List.rel_of_pairwise_cons h hc)⟩

/-! ### Comparing two items -/

/-- The items compare by their keys. -/
def ByKey (key : α → κ) (S : α → Prop) (less : α → α → Except ε Bool) : Prop :=
  ∀ a b, S a → S b → less a b = .ok (decide (key a < key b))

/-- Which of two items a merge takes. -/
def takes (key : α → κ) (side : Side) (left right : α) : Bool :=
  decide (key right < key left) == (side == .back)

theorem takes_front (a b : α) : takes key .front a b = !decide (key b < key a) := by
  cases h : decide (key b < key a) <;> rw [takes, h] <;> rfl

theorem takes_back (a b : α) : takes key .back a b = decide (key b < key a) := by
  cases h : decide (key b < key a) <;> rw [takes, h] <;> rfl

theorem before_of_takes {a b : α} (h : takes key side a b = true) : Before key side a b := by
  cases side with
  | front => exact not_lt.mp (by simpa [takes_front] using h)
  | back => exact le_of_lt (by simpa [takes_back] using h)

theorem before_of_not_takes {a b : α} (h : takes key side a b = false) : Before key side b a := by
  cases side with
  | front => exact le_of_lt (by simpa [takes_front] using h)
  | back => exact not_lt.mp (by simpa [takes_back] using h)

/-- The items of the left run that are taken before an item of the right run stand in front. -/
theorem pairwise_takes_left (h : left.Pairwise (Before key side)) (b : α) :
    left.Pairwise fun x y => takes key side y b = true → takes key side x b = true := by
  refine h.imp fun {x y} hxy hy => ?_
  cases side with
  | front =>
      rw [takes_front, Bool.not_eq_true', decide_eq_false_iff_not, not_lt] at hy ⊢
      exact le_trans hxy hy
  | back =>
      rw [takes_back, decide_eq_true_iff] at hy ⊢
      exact lt_of_lt_of_le hy hxy

theorem pairwise_takes_right (h : right.Pairwise (Before key side)) (a : α) :
    right.Pairwise fun x y => (!takes key side a y) = true → (!takes key side a x) = true := by
  refine h.imp fun {x y} hxy hy => ?_
  cases side with
  | front =>
      rw [takes_front, Bool.not_not, decide_eq_true_iff] at hy ⊢
      exact lt_of_le_of_lt hxy hy
  | back =>
      rw [takes_back, Bool.not_eq_true', decide_eq_false_iff_not, not_lt] at hy ⊢
      exact le_trans hy hxy

section Compared

variable {less : α → α → Except ε Bool} (hless : ByKey key S less)
include hless

theorem takesLeft_eq {a b : α} (ha : S a) (hb : S b) :
    takesLeft less side a b = .ok (takes key side a b) := by
  rw [takesLeft, hless b a hb ha]
  rfl

theorem takesRight_eq {a b : α} (ha : S a) (hb : S b) :
    takesRight less side a b = .ok (!takes key side a b) := by
  rw [takesRight, takesLeft_eq hless ha hb]
  rfl

/-- A leap in the left run covers what may stand before an item of the right run. -/
theorem leap_left {b : α} {n : Nat} (hleft : IsRun key S side left) (hb : S b)
    (h : leap (takesLeft less side · b) side left = .ok n) :
    (∀ a ∈ left.take n, Before key side a b) ∧ ∀ a ∈ left.drop n, Before key side b a := by
  have hsplits := splits_leap (fun a ha => takesLeft_eq hless (hleft.mem a ha) hb)
    (pairwise_takes_left hleft.pairwise b) h
  exact ⟨fun a ha => before_of_takes (hsplits.front a ha),
    fun a ha => before_of_not_takes (hsplits.rest a ha)⟩

/-- A leap in the right run covers what may stand before an item of the left run. -/
theorem leap_right {a : α} {n : Nat} (hright : IsRun key S side right) (ha : S a)
    (h : leap (takesRight less side a) side right = .ok n) :
    (∀ b ∈ right.take n, Before key side b a) ∧ ∀ b ∈ right.drop n, Before key side a b := by
  have hsplits := splits_leap (fun b hb => takesRight_eq hless ha (hright.mem b hb))
    (pairwise_takes_right hright.pairwise a) h
  refine ⟨fun b hb => ?_, fun b hb => ?_⟩
  · exact before_of_not_takes (by simpa using hsplits.front b hb)
  · exact before_of_takes (by simpa using hsplits.rest b hb)

/-! ## Runs -/

theorem pairwise_falling {last : α} {run items : List α} {done : List α × List α}
    (hrun : IsRun key S .front (last :: run)) (hitems : ∀ a ∈ items, S a)
    (h : falling less last run items = .ok done) : done.1.Pairwise (Before key .front) := by
  induction items generalizing last run with
  | nil => cases h; exact hrun.pairwise
  | cons a rest ih =>
      rw [List.forall_mem_cons] at hitems
      have hlast := hrun.mem last (List.mem_cons_self ..)
      rw [falling, hless a last hitems.1 hlast] at h
      by_cases hfalls : key a < key last
      · rw [decide_eq_true hfalls] at h
        refine ih ⟨List.forall_mem_cons.mpr ⟨hitems.1, hrun.mem⟩, ?_⟩ hitems.2 h
        exact List.pairwise_cons.mpr ⟨before_of_before_head hrun.pairwise hfalls.le, hrun.pairwise⟩
      · rw [decide_eq_false hfalls] at h
        cases h
        exact hrun.pairwise

theorem pairwise_rising {last : α} {run items : List α} {done : List α × List α}
    (hrun : IsRun key S .back (last :: run)) (hitems : ∀ a ∈ items, S a)
    (h : rising less last run items = .ok done) : done.1.Pairwise (Before key .front) := by
  induction items generalizing last run with
  | nil => cases h; exact List.pairwise_reverse.mpr hrun.pairwise
  | cons a rest ih =>
      rw [List.forall_mem_cons] at hitems
      have hlast := hrun.mem last (List.mem_cons_self ..)
      rw [rising, hless a last hitems.1 hlast] at h
      by_cases hfalls : key a < key last
      · rw [decide_eq_true hfalls] at h
        cases h
        exact List.pairwise_reverse.mpr hrun.pairwise
      · rw [decide_eq_false hfalls] at h
        refine ih ⟨List.forall_mem_cons.mpr ⟨hitems.1, hrun.mem⟩, ?_⟩ hitems.2 h
        exact List.pairwise_cons.mpr
          ⟨before_of_before_head hrun.pairwise (not_lt.mp hfalls), hrun.pairwise⟩

theorem isRun_firstRun {items run rest : List α} (hitems : ∀ a ∈ items, S a)
    (h : firstRun less items = .ok (run, rest)) : IsRun key S .front run := by
  refine ⟨fun a ha => hitems a ((perm_firstRun h).1.subset (List.mem_append_left _ ha)), ?_⟩
  match items with
  | [] => cases h; exact .nil
  | [a] => cases h; exact List.pairwise_singleton _ a
  | a :: b :: more =>
      rw [List.forall_mem_cons, List.forall_mem_cons] at hitems
      obtain ⟨ha, hb, hmore⟩ := hitems
      have hmem : ∀ c ∈ [b, a], S c := by simp [ha, hb]
      rw [firstRun, hless b a hb ha] at h
      by_cases hfalls : key b < key a
      · rw [decide_eq_true hfalls] at h
        exact pairwise_falling hless ⟨hmem, by simpa [Before] using hfalls.le⟩ hmore h
      · rw [decide_eq_false hfalls] at h
        exact pairwise_rising hless ⟨hmem, by simpa [Before] using hfalls⟩ hmore h

theorem isRun_insert {run done : List α} {item : α} (hrun : IsRun key S .front run)
    (hitem : S item) (h : insert less run item = .ok done) : IsRun key S .front done := by
  refine ⟨fun a ha => ?_, ?_⟩
  · rcases List.mem_append.mp ((perm_insert h).subset ha) with ha | ha
    · exact hrun.mem a ha
    · rw [List.mem_singleton.mp ha]
      exact hitem
  · rw [insert] at h
    cases hplace : boundary (fun a => return !(← less item a)) .front run 0 run.length with
    | error e => rw [hplace] at h; cases h
    | ok place =>
        rw [hplace] at h
        cases h
        have htest : ∀ a ∈ run, (do return !(← less item a) : Except ε Bool) =
            .ok (takes key .front a item) := by
          intro a ha
          rw [hless item a hitem (hrun.mem a ha), takes_front]
          rfl
        have hsplits := splits_boundary htest (pairwise_takes_left hrun.pairwise item) hplace
          (by simp) (by simp) (by simp)
        refine pairwise_append_of_before (hrun.pairwise.sublist (List.take_sublist ..)) ?_ ?_
        · exact List.pairwise_cons.mpr ⟨fun a ha => before_of_not_takes (hsplits.rest a ha),
            hrun.pairwise.sublist (List.drop_sublist ..)⟩
        · intro a ha
          refine List.forall_mem_cons.mpr ⟨before_of_takes (hsplits.front a ha), ?_⟩
          intro b hb
          exact (before_of_takes (hsplits.front a ha)).trans
            (before_of_not_takes (hsplits.rest b hb))

theorem isRun_lengthen {least : Nat} {run items done rest : List α}
    (hrun : IsRun key S .front run) (hitems : ∀ a ∈ items, S a)
    (h : lengthen less least run items = .ok (done, rest)) : IsRun key S .front done := by
  induction items generalizing run with
  | nil => cases h; exact hrun
  | cons a more ih =>
      rw [List.forall_mem_cons] at hitems
      rw [lengthen] at h
      split at h
      · split at h
        · next longer hlonger => exact ih (isRun_insert hless hrun hitems.1 hlonger) hitems.2 h
        · cases h
      · cases h
        exact hrun

/-- **The next run is one.** -/
theorem isRun_nextRun {least : Nat} {items run rest : List α} (hitems : ∀ a ∈ items, S a)
    (h : nextRun less least items = .ok (run, rest)) : IsRun key S .front run := by
  rw [nextRun] at h
  split at h
  · next first more hfirst =>
    refine isRun_lengthen hless (isRun_firstRun hless hitems hfirst) ?_ h
    intro a ha
    exact hitems a ((perm_firstRun hfirst).1.subset (List.mem_append_right _ ha))
  · cases h

end Compared

/-! ## Merging -/

/-- The item that is known to come last: from the front the last one of the left run, from the back
the last one of the right run. -/
def Stops (key : α → κ) : Side → (left right : List α) → Prop
  | .front, left, right => ∀ a, [a] <:+ left → ∀ b ∈ right, key b ≤ key a
  | .back, left, right => ∀ b, [b] <:+ right → ∀ a ∈ left, key b ≤ key a

theorem Stops.mono {lefts rights : List α} (h : Stops key side left right) (hleft : lefts <:+ left)
    (hright : rights <:+ right) : Stops key side lefts rights := by
  cases side with
  | front => exact fun a ha b hb => h a (ha.trans hleft) b (hright.mem hb)
  | back => exact fun b hb a ha => h b (hb.trans hright) a (hleft.mem ha)

/-- What is left when nothing is left to compare is in order. -/
theorem pairwise_leftOver (hleft : left.Pairwise (Before key side))
    (hright : right.Pairwise (Before key side)) (hstops : Stops key side left right)
    (hover : isOver side left right = true) :
    (leftOver side left right).Pairwise (Before key side) := by
  cases side with
  | front =>
      refine pairwise_append_of_before hright hleft fun b hb a ha => ?_
      match left with
      | [_] => exact hstops a (by simp_all) b hb
      | _ :: _ :: _ => simp_all [isOver]
  | back =>
      refine pairwise_append_of_before hleft hright fun a ha b hb => ?_
      match right with
      | [_] => exact hstops b (by simp_all) a ha
      | _ :: _ :: _ => simp_all [isOver]

/-- A part of one run may go in front of the merged rest, if all of it may stand before the first item
of the other run. -/
theorem pairwise_take_append {run other merged : List α} {b : α} (n : Nat)
    (hrun : run.Pairwise (Before key side)) (hother : (b :: other).Pairwise (Before key side))
    (hfront : ∀ a ∈ run.take n, Before key side a b)
    (hmerged : merged.Pairwise (Before key side))
    (hperm : merged.Perm (run.drop n ++ b :: other)) :
    (run.take n ++ merged).Pairwise (Before key side) := by
  have hparts := hrun
  rw [← List.take_append_drop n run, List.pairwise_append] at hparts
  obtain ⟨htake, -, hbefore⟩ := hparts
  refine pairwise_append_of_before htake hmerged fun a ha c hc => ?_
  rcases List.mem_append.mp (hperm.subset hc) with hc | hc
  · exact hbefore a ha c hc
  · exact before_of_before_head hother (hfront a ha) c hc

/-- The first item of the other run may go behind that part, if it may stand before what is left. -/
theorem pairwise_take_append_item {run other merged : List α} {b : α} (n : Nat)
    (hrun : run.Pairwise (Before key side)) (hother : (b :: other).Pairwise (Before key side))
    (hfront : ∀ a ∈ run.take n, Before key side a b)
    (hrest : ∀ a ∈ run.drop n, Before key side b a)
    (hmerged : merged.Pairwise (Before key side)) (hperm : merged.Perm (run.drop n ++ other)) :
    (run.take n ++ [b] ++ merged).Pairwise (Before key side) := by
  rw [List.append_assoc]
  refine pairwise_take_append n hrun hother hfront (List.pairwise_cons.mpr ⟨?_, hmerged⟩)
    ((hperm.cons b).trans List.perm_middle.symm)
  intro c hc
  rcases List.mem_append.mp (hperm.subset hc) with hc | hc
  · exact hrest c hc
  · exact List.rel_of_pairwise_cons hother hc

section Compared

variable {less : α → α → Except ε Bool} (hless : ByKey key S less)
include hless

/-- **What is left of two runs is merged in order.** -/
theorem pairwise_mergeRest {pace : Pace} {patience kept : Nat} {done : List α × Nat}
    (hleft : IsRun key S side left) (hright : IsRun key S side right)
    (hstops : Stops key side left right)
    (h : mergeRest less side pace patience kept left right = .ok done) :
    done.1.Pairwise (Before key side) := by
  fun_induction mergeRest less side pace patience kept left right generalizing done with
  | case1 _ _ _ _ _ hover =>
    cases h
    exact pairwise_leftOver hleft.pairwise hright.pairwise hstops hover
  | case2 | case5 | case8 => cases h
  -- an item of the left run, and one of the right run
  | case3 _ _ a lefts b rights _ _ htakes _ ih =>
    rw [takesLeft_eq hless (hleft.mem a (List.mem_cons_self ..))
      (hright.mem b (List.mem_cons_self ..)), Except.ok.injEq] at htakes
    obtain ⟨merged, hmerged, rfl⟩ := exists_of_map_eq_ok h
    have hlefts := hleft.sublist (List.sublist_cons_self a lefts)
    refine pairwise_take_append 1 hleft.pairwise hright.pairwise ?_
      (ih hlefts hright (hstops.mono (List.suffix_cons ..) (List.suffix_refl _)) hmerged)
      (perm_mergeRest hmerged)
    simpa using before_of_takes htakes
  | case4 _ _ a lefts b rights _ _ htakes _ ih =>
    rw [takesLeft_eq hless (hleft.mem a (List.mem_cons_self ..))
      (hright.mem b (List.mem_cons_self ..)), Except.ok.injEq] at htakes
    obtain ⟨merged, hmerged, rfl⟩ := exists_of_map_eq_ok h
    have hrights := hright.sublist (List.sublist_cons_self b rights)
    refine pairwise_take_append 1 hright.pairwise hleft.pairwise ?_
      (ih hleft hrights (hstops.mono (List.suffix_refl _) (List.suffix_cons ..)) hmerged)
      ((perm_mergeRest hmerged).trans List.perm_append_comm)
    simpa using before_of_not_takes htakes
  -- a leap in the left run
  | case6 _ _ a lefts b rights n hleap hover =>
    cases h
    obtain ⟨hfront, hrest⟩ := leap_left hless hleft (hright.mem b (List.mem_cons_self ..)) hleap
    have hdrop := hleft.sublist (List.drop_sublist n _)
    exact pairwise_take_append n hleft.pairwise hright.pairwise hfront
      (pairwise_leftOver hdrop.pairwise hright.pairwise
        (hstops.mono (List.drop_suffix ..) (List.suffix_refl _)) hover) (perm_leftOver ..)
  | case7 _ _ a lefts b rights n hleap _ _ ih =>
    obtain ⟨merged, hmerged, rfl⟩ := exists_of_map_eq_ok h
    obtain ⟨hfront, hrest⟩ := leap_left hless hleft (hright.mem b (List.mem_cons_self ..)) hleap
    have hdrop := hleft.sublist (List.drop_sublist n _)
    have hrights := hright.sublist (List.sublist_cons_self b rights)
    exact pairwise_take_append_item n hleft.pairwise hright.pairwise hfront hrest
      (ih hdrop hrights (hstops.mono (List.drop_suffix ..) (List.suffix_cons ..)) hmerged)
      (perm_mergeRest hmerged)
  -- a leap in the right run
  | case9 _ _ a lefts b rights _ n hleap hover =>
    cases h
    obtain ⟨hfront, hrest⟩ := leap_right hless hright (hleft.mem a (List.mem_cons_self ..)) hleap
    have hdrop := hright.sublist (List.drop_sublist n _)
    exact pairwise_take_append n hright.pairwise hleft.pairwise hfront
      (pairwise_leftOver hleft.pairwise hdrop.pairwise
        (hstops.mono (List.suffix_refl _) (List.drop_suffix ..)) hover)
      ((perm_leftOver ..).trans List.perm_append_comm)
  | case10 _ _ a lefts b rights _ n hleap _ _ _ ih | case11 _ _ a lefts b rights _ n hleap _ _ _ ih =>
    obtain ⟨merged, hmerged, rfl⟩ := exists_of_map_eq_ok h
    obtain ⟨hfront, hrest⟩ := leap_right hless hright (hleft.mem a (List.mem_cons_self ..)) hleap
    have hdrop := hright.sublist (List.drop_sublist n _)
    have hlefts := hleft.sublist (List.sublist_cons_self a lefts)
    exact pairwise_take_append_item n hright.pairwise hleft.pairwise hfront hrest
      (ih hlefts hdrop (hstops.mono (List.suffix_cons ..) (List.drop_suffix ..)) hmerged)
      ((perm_mergeRest hmerged).trans List.perm_append_comm)
  -- a merge with a run that is used up is over
  | case12 _ _ _ left right hover hnone =>
    refine absurd ?_ hover
    cases left with
    | nil => cases side <;> simp [isOver]
    | cons a lefts =>
        cases right with
        | nil => cases side <;> simp [isOver]
        | cons b rights => exact (hnone a lefts b rights rfl rfl).elim

/-- Two runs of which the first item of the right one comes first and the last item of the left one
comes last are merged in order. -/
theorem pairwise_mergeInner {patience : Nat} {done : List α × Nat}
    (hleft : IsRun key S .front left) (hright : IsRun key S .front right)
    (hfirst : ∀ b ∈ right.head?, ∀ a ∈ left, key b ≤ key a)
    (hlast : ∀ a ∈ left.getLast?, ∀ b ∈ right, key b ≤ key a)
    (h : mergeInner less patience left right = .ok done) :
    done.1.Pairwise (Before key .front) := by
  rw [mergeInner] at h
  split at h
  · cases h; exact hleft.pairwise
  · split at h
    · -- from the front
      cases right with
      | nil => cases h; exact hleft.pairwise
      | cons b rights =>
          obtain ⟨merged, hmerged, rfl⟩ := exists_of_map_eq_ok h
          have hrights := hright.sublist (List.sublist_cons_self b rights)
          have hstops : Stops key .front left rights := by
            intro a ha c hc
            refine hlast a ?_ c (List.mem_cons_of_mem b hc)
            simpa [List.singleton_suffix_iff_getLast?_eq_some] using ha
          refine List.pairwise_cons.mpr ⟨?_, pairwise_mergeRest hless hleft hrights hstops hmerged⟩
          intro c hc
          rcases List.mem_append.mp ((perm_mergeRest hmerged).subset hc) with hc | hc
          · exact hfirst b rfl c hc
          · exact List.rel_of_pairwise_cons hright.pairwise hc
    · -- from the back
      have hback := hleft.reverse
      have hlast' : ∀ a ∈ left.reverse.head?, ∀ b ∈ right, key b ≤ key a := by
        rwa [List.head?_reverse]
      have hfirst' : ∀ b ∈ right.head?, ∀ a ∈ left.reverse, key b ≤ key a := by
        simpa only [List.mem_reverse] using hfirst
      generalize left.reverse = lefts at hback hlast' hfirst' h
      cases lefts with
      | nil =>
          cases h
          rw [List.reverse_reverse]
          exact hright.pairwise
      | cons a lefts =>
          obtain ⟨merged, hmerged, rfl⟩ := exists_of_map_eq_ok h
          have hlefts := hback.sublist (List.sublist_cons_self a lefts)
          have hstops : Stops key .back lefts right.reverse := by
            intro b hb c hc
            rw [List.singleton_suffix_iff_getLast?_eq_some, List.getLast?_reverse] at hb
            exact hfirst' b hb c (List.mem_cons_of_mem a hc)
          refine List.pairwise_reverse.mpr (List.pairwise_cons.mpr
            ⟨?_, pairwise_mergeRest hless hlefts hright.reverse hstops hmerged⟩)
          intro c hc
          rcases List.mem_append.mp ((perm_mergeRest hmerged).subset hc) with hc | hc
          · exact List.rel_of_pairwise_cons hback.pairwise hc
          · exact hlast' a rfl c (List.mem_reverse.mp hc)

/-- What the left run holds before all of the right run, and what is left of it. -/
theorem before_of_leading {first : Nat} (hleft : IsRun key S .front left)
    (hright : IsRun key S .front right) (h : leading less left right = .ok first) :
    (∀ a ∈ left.take first, ∀ b ∈ right, key a ≤ key b) ∧
      ∀ b ∈ right.head?, ∀ a ∈ left.drop first, key b ≤ key a := by
  cases right with
  | nil => cases h; exact ⟨by simp, by simp⟩
  | cons b rights =>
      obtain ⟨hfront, hrest⟩ := leap_left hless hleft (hright.mem b (List.mem_cons_self ..)) h
      refine ⟨fun a ha => before_of_before_head hright.pairwise (hfront a ha), ?_⟩
      simpa [Before] using hrest

/-- What the right run holds behind all of the left run, and what is left of it. -/
theorem before_of_trailing {last : Nat} (hleft : IsRun key S .front left)
    (hright : IsRun key S .front right) (h : trailing less left right = .ok last) :
    (∀ b ∈ right.drop (right.length - last), ∀ a ∈ left, key a ≤ key b) ∧
      ∀ a ∈ left.getLast?, ∀ b ∈ right.take (right.length - last), key b ≤ key a := by
  rw [trailing] at h
  split at h
  · next hnone =>
    cases h
    rw [List.getLast?_eq_none_iff] at hnone
    subst hnone
    exact ⟨by simp, by simp⟩
  · next a ha =>
    have hmem := List.mem_of_getLast? ha
    obtain ⟨hfront, hrest⟩ := leap_right hless hright.reverse (hleft.mem a hmem) h
    rw [List.take_reverse] at hfront
    rw [List.drop_reverse] at hrest
    simp only [List.mem_reverse] at hfront hrest
    refine ⟨fun b hb c hc => ?_, ?_⟩
    · -- the last item of the left run is its greatest
      have hgreatest : key c ≤ key a := by
        have hback := hleft.reverse.pairwise
        obtain ⟨before, hbefore⟩ := List.getLast?_eq_some_iff.mp ha
        rw [hbefore, List.reverse_append, List.reverse_singleton, List.singleton_append] at hback
        exact before_of_before_head hback le_rfl c (by simpa [hbefore, or_comm] using hc)
      exact hgreatest.trans (hfront b hb)
    · intro c hc
      rw [ha, Option.mem_some_iff] at hc
      subst hc
      exact hrest

/-- **Two runs are merged into one.** -/
theorem isRun_merge {patience : Nat} {done : List α × Nat} (hleft : IsRun key S .front left)
    (hright : IsRun key S .front right) (h : merge less patience left right = .ok done) :
    IsRun key S .front done.1 := by
  refine ⟨fun a ha => List.forall_mem_append.mpr ⟨hleft.mem, hright.mem⟩ a
    ((perm_merge h).subset ha), ?_⟩
  rw [merge] at h
  split at h
  · cases h
  · next first hfirst =>
    split at h
    · cases h
    · next last hlast =>
      obtain ⟨merged, hmerged, rfl⟩ := exists_of_map_eq_ok h
      have hdrop := hleft.sublist (List.drop_sublist first left)
      have htake := hright.sublist (List.take_sublist (right.length - last) right)
      obtain ⟨hfront, hhead⟩ := before_of_leading hless hleft hright hfirst
      obtain ⟨hbehind, hend⟩ := before_of_trailing hless hdrop hright hlast
      have hperm := perm_mergeInner hmerged
      have hinner : merged.1.Pairwise (Before key .front) := by
        refine pairwise_mergeInner hless hdrop htake ?_ hend hmerged
        intro b hb
        rw [List.head?_take] at hb
        split at hb
        · cases hb
        · exact hhead b hb
      have hleftParts := hleft.pairwise
      rw [← List.take_append_drop first left, List.pairwise_append] at hleftParts
      have hrightParts := hright.pairwise
      rw [← List.take_append_drop (right.length - last) right, List.pairwise_append]
        at hrightParts
      have hrear : (merged.1 ++ right.drop (right.length - last)).Pairwise (Before key .front) := by
        refine pairwise_append_of_before hinner hrightParts.2.1 fun c hc b hb => ?_
        rcases List.mem_append.mp (hperm.subset hc) with hc | hc
        · exact hbehind b hb c hc
        · exact hrightParts.2.2 c hc b hb
      refine pairwise_append_of_before hleftParts.1 hrear fun a ha c hc => ?_
      rcases List.mem_append.mp hc with hc | hc
      · rcases List.mem_append.mp (hperm.subset hc) with hc | hc
        · exact hleftParts.2.2 a ha c hc
        · exact hfront a ha c (List.mem_of_mem_take hc)
      · exact hfront a ha c (List.mem_of_mem_drop hc)

/-! ## Sorting -/

theorem isRun_collapse {power patience : Nat} {waiting : List (Waiting α)} {last : List α}
    {done : Progress α} (hwaiting : ∀ before ∈ waiting, IsRun key S .front before.run)
    (hlast : IsRun key S .front last) (h : collapse less power waiting last patience = .ok done) :
    (∀ before ∈ done.waiting, IsRun key S .front before.run) ∧ IsRun key S .front done.last := by
  induction waiting generalizing last patience with
  | nil => cases h; exact ⟨nofun, hlast⟩
  | cons before waiting ih =>
      rw [List.forall_mem_cons] at hwaiting
      rw [collapse] at h
      split at h
      · split at h
        · next merged kept hmerge =>
          exact ih hwaiting.2 (isRun_merge hless hwaiting.1 hlast hmerge) h
        · cases h
      · cases h
        exact ⟨List.forall_mem_cons.mpr hwaiting, hlast⟩

theorem isRun_finish {waiting : List (Waiting α)} {last done : List α} {patience : Nat}
    (hwaiting : ∀ before ∈ waiting, IsRun key S .front before.run)
    (hlast : IsRun key S .front last) (h : finish less waiting last patience = .ok done) :
    IsRun key S .front done := by
  fun_induction finish less waiting last patience with
  | case1 => cases h; exact hlast
  | case2 before =>
    obtain ⟨merged, hmerge, rfl⟩ := exists_of_map_eq_ok h
    exact isRun_merge hless (hwaiting before (List.mem_singleton_self _)) hlast hmerge
  | case3 before first waiting _ _ _ merged _ hmerge ih =>
    rw [List.forall_mem_cons, List.forall_mem_cons] at hwaiting
    refine ih (List.forall_mem_cons.mpr ⟨?_, hwaiting.2.2⟩) hlast h
    exact isRun_merge hless hwaiting.2.1 hwaiting.1 hmerge
  | case5 before first waiting _ _ _ merged _ hmerge ih =>
    rw [List.forall_mem_cons] at hwaiting
    exact ih hwaiting.2 (isRun_merge hless hwaiting.1 hlast hmerge) h
  | case4 | case6 => cases h

theorem isRun_sortRest {size : Nat} {progress : Progress α} {items done : List α}
    (hwaiting : ∀ before ∈ progress.waiting, IsRun key S .front before.run)
    (hlast : IsRun key S .front progress.last) (hitems : ∀ a ∈ items, S a)
    (h : sortRest less size progress items = .ok done) : IsRun key S .front done := by
  fun_induction sortRest less size progress items with
  | case1 => exact isRun_finish hless hwaiting hlast h
  | case2 | case3 => cases h
  | case4 progress items _ run rest hrun _ merged hmerged ih =>
    obtain ⟨hbefore, hcollapsed⟩ := isRun_collapse hless hwaiting hlast hmerged
    refine ih (List.forall_mem_cons.mpr ⟨hcollapsed, hbefore⟩) (isRun_nextRun hless hitems hrun) ?_ h
    intro a ha
    exact hitems a ((perm_nextRun hrun).subset (List.mem_append_right _ ha))

/-- **What is sorted is in the order of its keys.** -/
theorem pairwise_of_sort {items done : List α} (hitems : ∀ a ∈ items, S a)
    (h : sort less items = .ok done) : done.Pairwise fun a b => key a ≤ key b := by
  rw [sort] at h
  split at h
  · cases h
  · next run rest hrun =>
    have hrest : ∀ a ∈ rest, S a := fun a ha =>
      hitems a ((perm_nextRun hrun).subset (List.mem_append_right _ ha))
    exact (isRun_sortRest hless (by simp) (isRun_nextRun hless hitems hrun) hrest h).pairwise

/-- **Items that their keys tell apart are sorted by them**, and nothing fails. -/
theorem sort_eq_mergeSort {items : List α} (hitems : ∀ a ∈ items, S a)
    (hkeys : ∀ a ∈ items, ∀ b ∈ items, key a = key b → a = b) :
    sort less items = .ok (items.mergeSort fun a b => decide (key a ≤ key b)) := by
  obtain ⟨done, hdone⟩ := exists_sort_eq_ok (fun a b ha hb => ⟨_, hless a b ha hb⟩) hitems
  have hperm : done.Perm items := perm_sort hdone
  have hother := List.mergeSort_perm items fun a b => decide (key a ≤ key b)
  rw [hdone]
  congr 1
  refine (hperm.trans hother.symm).eq_of_pairwise ?_ (pairwise_of_sort hless hitems hdone)
    (pairwise_mergeSort_key key items)
  intro a b ha hb hab hba
  exact hkeys a (hperm.subset ha) b (hother.subset hb) (le_antisymm hab hba)

end Compared

end Telemetry.Sorting
