import Telemetry.Sorting

/-!
# Sorting returns

Sorting fails only where a comparison does: no phase has a failure of its own. So a list whose items
all compare with each other is sorted, whatever the comparisons answer. The items that a phase works
on are among those it was given, which is what the lemmas about permutations say.

Main statement: `exists_sort_eq_ok`.
-/

namespace Telemetry.Sorting

variable {ε α β γ : Type}

/-- There is a result. -/
def Returns (result : Except ε β) : Prop := ∃ b, result = .ok b

theorem returns_ok (b : β) : Returns (.ok b : Except ε β) := ⟨b, rfl⟩

theorem not_returns_error (e : ε) : ¬ Returns (.error e : Except ε β) := nofun

theorem Returns.map {result : Except ε β} (h : Returns result) (f : β → γ) :
    Returns (result.map f) := by
  obtain ⟨b, rfl⟩ := h
  exact ⟨f b, rfl⟩

theorem Returns.bind {result : Except ε β} {next : β → Except ε γ} (h : Returns result)
    (hnext : ∀ b, Returns (next b)) : Returns (result >>= next) := by
  obtain ⟨b, rfl⟩ := h
  exact hnext b

/-! ## Searching for a place -/

section Search

variable {test : α → Except ε Bool} {items : List α} (htest : ∀ a ∈ items, Returns (test a))
include htest

theorem returns_boundary (side : Side) (start width : Nat) :
    Returns (boundary test side items start width) := by
  fun_induction boundary test side items start width with
  | case1 | case2 => exact returns_ok _
  | case3 start width _ a ha ihright ihleft =>
      refine (htest a (List.mem_of_getElem? ha)).bind ?_
      rintro (_ | _)
      · exact ihleft
      · exact ihright

theorem returns_stride (last next : Nat) : Returns (stride test items last next) := by
  fun_induction stride test items last next with
  | case1 last next h ih =>
      refine (htest _ (List.getElem_mem h)).bind ?_
      rintro (_ | _)
      · exact returns_ok _
      · exact ih
  | case2 => exact returns_ok _

theorem returns_leap (side : Side) : Returns (leap test side items) := by
  cases items with
  | nil => exact returns_ok _
  | cons a rest =>
      rw [leap]
      refine (htest a (List.mem_cons_self ..)).bind ?_
      rintro (_ | _)
      · exact returns_ok _
      · exact (returns_stride htest 0 1).bind fun _ => returns_boundary htest side _ _

end Search

/-! ## Items that compare with each other -/

section Comparable

variable {less : α → α → Except ε Bool} {S : α → Prop}
  (hless : ∀ a b, S a → S b → Returns (less a b))
include hless

/-! ### Runs -/

theorem returns_falling {last : α} {run items : List α} (hlast : S last)
    (hitems : ∀ a ∈ items, S a) : Returns (falling less last run items) := by
  induction items generalizing last run with
  | nil => exact returns_ok _
  | cons a rest ih =>
      rw [List.forall_mem_cons] at hitems
      rw [falling]
      refine (hless a last hitems.1 hlast).bind ?_
      rintro (_ | _)
      · exact returns_ok _
      · exact ih hitems.1 hitems.2

theorem returns_rising {last : α} {run items : List α} (hlast : S last)
    (hitems : ∀ a ∈ items, S a) : Returns (rising less last run items) := by
  induction items generalizing last run with
  | nil => exact returns_ok _
  | cons a rest ih =>
      rw [List.forall_mem_cons] at hitems
      rw [rising]
      refine (hless a last hitems.1 hlast).bind ?_
      rintro (_ | _)
      · exact ih hitems.1 hitems.2
      · exact returns_ok _

theorem returns_firstRun {items : List α} (hitems : ∀ a ∈ items, S a) :
    Returns (firstRun less items) := by
  match items with
  | [] => exact returns_ok _
  | [a] => exact returns_ok _
  | a :: b :: rest =>
      rw [List.forall_mem_cons, List.forall_mem_cons] at hitems
      obtain ⟨ha, hb, hrest⟩ := hitems
      rw [firstRun]
      refine (hless b a hb ha).bind ?_
      rintro (_ | _)
      · exact returns_rising hless hb hrest
      · exact returns_falling hless hb hrest

theorem returns_insert {run : List α} {item : α} (hrun : ∀ a ∈ run, S a) (hitem : S item) :
    Returns (insert less run item) := by
  have htest : ∀ a ∈ run, Returns (do return !(← less item a)) := by
    intro a ha
    exact (hless item a hitem (hrun a ha)).bind fun _ => returns_ok _
  exact (returns_boundary htest .front 0 run.length).bind fun _ => returns_ok _

theorem returns_lengthen {least : Nat} {run items : List α} (hrun : ∀ a ∈ run, S a)
    (hitems : ∀ a ∈ items, S a) : Returns (lengthen less least run items) := by
  induction items generalizing run with
  | nil => exact returns_ok _
  | cons a rest ih =>
      rw [List.forall_mem_cons] at hitems
      obtain ⟨longer, hlonger⟩ := returns_insert hless hrun hitems.1
      simp only [lengthen, hlonger]
      split
      · refine ih ?_ hitems.2
        intro b hb
        rcases List.mem_append.mp ((perm_insert hlonger).subset hb) with hb | hb
        · exact hrun b hb
        · rw [List.mem_singleton.mp hb]
          exact hitems.1
      · exact returns_ok _

theorem returns_nextRun (least : Nat) {items : List α} (hitems : ∀ a ∈ items, S a) :
    Returns (nextRun less least items) := by
  obtain ⟨⟨run, rest⟩, hfirst⟩ := returns_firstRun hless hitems
  have hall : ∀ a ∈ run ++ rest, S a :=
    fun a ha => hitems a ((perm_firstRun hfirst).1.subset ha)
  rw [List.forall_mem_append] at hall
  simp only [nextRun, hfirst]
  exact returns_lengthen hless hall.1 hall.2

/-! ### Merging -/

theorem returns_takesLeft (side : Side) {left right : α} (hleft : S left) (hright : S right) :
    Returns (takesLeft less side left right) :=
  (hless right left hright hleft).bind fun _ => returns_ok _

theorem returns_takesRight (side : Side) {left right : α} (hleft : S left) (hright : S right) :
    Returns (takesRight less side left right) :=
  (returns_takesLeft hless side hleft hright).bind fun _ => returns_ok _

variable {left right : List α} (hleft : ∀ a ∈ left, S a) (hright : ∀ a ∈ right, S a)
include hleft hright

theorem returns_mergeRest (side : Side) (pace : Pace) (patience kept : Nat) :
    Returns (mergeRest less side pace patience kept left right) := by
  have hdrop : ∀ {items : List α} (n : Nat), (∀ a ∈ items, S a) → ∀ a ∈ items.drop n, S a :=
    fun n h a ha => h a (List.mem_of_mem_drop ha)
  fun_induction mergeRest less side pace patience kept left right with
  | case1 | case6 | case9 | case12 => exact returns_ok _
  -- no comparison fails
  | case2 _ _ a _ b _ _ _ e herror _ =>
      have hreturns := returns_takesLeft hless side (hleft a (List.mem_cons_self ..))
        (hright b (List.mem_cons_self ..))
      rw [herror] at hreturns
      exact absurd hreturns (not_returns_error e)
  | case5 _ _ a lefts b _ e herror _ =>
      have htest : ∀ x ∈ a :: lefts, Returns (takesLeft less side x b) := fun x hx =>
        returns_takesLeft hless side (hleft x hx) (hright b (List.mem_cons_self ..))
      have hreturns := returns_leap htest side
      rw [herror] at hreturns
      exact absurd hreturns (not_returns_error e)
  | case8 _ _ a _ b rights _ e herror _ =>
      have htest : ∀ x ∈ b :: rights, Returns (takesRight less side a x) := fun x hx =>
        returns_takesRight hless side (hleft a (List.mem_cons_self ..)) (hright x hx)
      have hreturns := returns_leap htest side
      rw [herror] at hreturns
      exact absurd hreturns (not_returns_error e)
  -- what is left is among what there was
  | case3 _ _ _ _ _ _ _ _ _ _ ih =>
      exact (ih (List.forall_mem_cons.mp hleft).2 hright).map _
  | case4 _ _ _ _ _ _ _ _ _ _ ih =>
      exact (ih hleft (List.forall_mem_cons.mp hright).2).map _
  | case7 _ _ _ _ _ _ n _ _ _ ih =>
      exact (ih (hdrop n hleft) (List.forall_mem_cons.mp hright).2).map _
  | case10 _ _ _ _ _ _ _ n _ _ _ _ ih | case11 _ _ _ _ _ _ _ n _ _ _ _ ih =>
      exact (ih (List.forall_mem_cons.mp hleft).2 (hdrop n hright)).map _

theorem returns_mergeFront (patience : Nat) : Returns (mergeFront less patience left right) := by
  cases right with
  | nil => exact returns_ok _
  | cons b rights =>
      exact (returns_mergeRest hless hleft (List.forall_mem_cons.mp hright).2 _ _ _ _).map _

theorem returns_mergeBack (patience : Nat) : Returns (mergeBack less patience left right) := by
  cases left with
  | nil => exact returns_ok _
  | cons a lefts =>
      exact (returns_mergeRest hless (List.forall_mem_cons.mp hleft).2 hright _ _ _ _).map _

theorem returns_mergeInner (patience : Nat) : Returns (mergeInner less patience left right) := by
  rw [mergeInner]
  split
  · exact returns_ok _
  · split
    · exact returns_mergeFront hless hleft hright patience
    · exact returns_mergeBack hless (fun a ha => hleft a (List.mem_reverse.mp ha))
        (fun a ha => hright a (List.mem_reverse.mp ha)) patience

theorem returns_leading : Returns (leading less left right) := by
  cases right with
  | nil => exact returns_ok _
  | cons b rights =>
      refine returns_leap ?_ .front
      intro a ha
      exact returns_takesLeft hless .front (hleft a ha) (hright b (List.mem_cons_self ..))

theorem returns_trailing : Returns (trailing less left right) := by
  rw [trailing]
  split
  · exact returns_ok _
  · next a ha =>
    refine returns_leap ?_ .back
    intro b hb
    exact returns_takesRight hless .back (hleft a (List.mem_of_getLast? ha))
      (hright b (List.mem_reverse.mp hb))

/-- Two runs are merged if their items compare with each other. -/
theorem returns_merge (patience : Nat) : Returns (merge less patience left right) := by
  obtain ⟨first, hfirst⟩ := returns_leading hless hleft hright
  have hrest : ∀ a ∈ left.drop first, S a := fun a ha => hleft a (List.mem_of_mem_drop ha)
  obtain ⟨last, hlast⟩ := returns_trailing hless hrest hright
  simp only [merge, hfirst, hlast]
  exact (returns_mergeInner hless hrest
    (fun a ha => hright a (List.mem_of_mem_take ha)) patience).map _

omit hleft hright

/-! ### Sorting -/

/-- What is merged of comparable runs has comparable items. -/
theorem exists_merge_eq_ok (patience : Nat) (hleft : ∀ a ∈ left, S a) (hright : ∀ a ∈ right, S a) :
    ∃ merged kept, merge less patience left right = .ok (merged, kept) ∧ ∀ a ∈ merged, S a := by
  obtain ⟨⟨merged, kept⟩, hmerge⟩ := returns_merge hless hleft hright patience
  refine ⟨merged, kept, hmerge, ?_⟩
  intro a ha
  exact List.forall_mem_append.mpr ⟨hleft, hright⟩ a ((perm_merge hmerge).subset ha)

theorem returns_collapse (power : Nat) {waiting : List (Waiting α)} {last : List α}
    (hwaiting : ∀ a ∈ waitingItems waiting, S a) (hlast : ∀ a ∈ last, S a) (patience : Nat) :
    Returns (collapse less power waiting last patience) := by
  induction waiting generalizing last patience with
  | nil => exact returns_ok _
  | cons before waiting ih =>
      rw [waitingItems, List.forall_mem_append] at hwaiting
      rw [collapse]
      split
      · obtain ⟨merged, kept, hmerge, hmerged⟩ :=
          exists_merge_eq_ok hless patience hwaiting.2 hlast
        simp only [hmerge]
        exact ih hwaiting.1 hmerged kept
      · exact returns_ok _

theorem returns_finish {waiting : List (Waiting α)} {last : List α}
    (hwaiting : ∀ a ∈ waitingItems waiting, S a) (hlast : ∀ a ∈ last, S a) (patience : Nat) :
    Returns (finish less waiting last patience) := by
  fun_induction finish less waiting last patience with
  | case1 => exact returns_ok _
  | case2 before last patience =>
      exact (returns_merge hless (List.forall_mem_append.mp hwaiting).2 hlast patience).map _
  | case3 before first waiting last patience _ merged kept hmerge ih =>
      rw [waitingItems, waitingItems, List.append_assoc, List.forall_mem_append] at hwaiting
      refine ih ?_ hlast
      rw [waitingItems, List.forall_mem_append]
      refine ⟨hwaiting.1, ?_⟩
      intro a ha
      exact hwaiting.2 a ((perm_merge hmerge).subset ha)
  | case4 before first waiting last patience _ e herror =>
      rw [waitingItems, waitingItems, List.append_assoc, List.forall_mem_append,
        List.forall_mem_append] at hwaiting
      have hreturns := returns_merge hless hwaiting.2.1 hwaiting.2.2 patience
      rw [herror] at hreturns
      exact absurd hreturns (not_returns_error e)
  | case5 before first waiting last patience _ merged kept hmerge ih =>
      rw [waitingItems, List.forall_mem_append] at hwaiting
      refine ih hwaiting.1 ?_
      intro a ha
      exact List.forall_mem_append.mpr ⟨hwaiting.2, hlast⟩ a ((perm_merge hmerge).subset ha)
  | case6 before first waiting last patience _ e herror =>
      rw [waitingItems, List.forall_mem_append] at hwaiting
      have hreturns := returns_merge hless hwaiting.2 hlast patience
      rw [herror] at hreturns
      exact absurd hreturns (not_returns_error e)

theorem returns_sortRest (size : Nat) {progress : Progress α} {items : List α}
    (hprogress : ∀ a ∈ progress.items, S a) (hitems : ∀ a ∈ items, S a) :
    Returns (sortRest less size progress items) := by
  fun_induction sortRest less size progress items with
  | case1 progress =>
      rw [Progress.items, List.forall_mem_append] at hprogress
      exact returns_finish hless hprogress.1 hprogress.2 progress.patience
  | case2 progress items _ e herror =>
      have hreturns := returns_nextRun hless (leastRun size 0) hitems
      rw [herror] at hreturns
      exact absurd hreturns (not_returns_error e)
  | case3 progress items _ run rest hrun power e herror =>
      rw [Progress.items, List.forall_mem_append] at hprogress
      have hreturns := returns_collapse hless power hprogress.1 hprogress.2 progress.patience
      rw [herror] at hreturns
      exact absurd hreturns (not_returns_error e)
  | case4 progress items _ run rest hrun _ merged hmerged ih =>
      have hall : ∀ a ∈ run ++ rest, S a :=
        fun a ha => hitems a ((perm_nextRun hrun).subset ha)
      rw [List.forall_mem_append] at hall
      refine ih ?_ hall.2
      rw [Progress.items, waitingItems, List.forall_mem_append]
      refine ⟨?_, hall.1⟩
      intro a ha
      exact hprogress a ((perm_collapse hmerged).subset ha)

/-- **A list whose items all compare with each other is sorted.** -/
theorem exists_sort_eq_ok {items : List α} (hitems : ∀ a ∈ items, S a) :
    ∃ done, sort less items = .ok done := by
  obtain ⟨⟨run, rest⟩, hrun⟩ := returns_nextRun hless (leastRun items.length 0) hitems
  have hall : ∀ a ∈ run ++ rest, S a := fun a ha => hitems a ((perm_nextRun hrun).subset ha)
  rw [List.forall_mem_append] at hall
  simp only [sort, hrun]
  refine returns_sortRest hless items.length ?_ hall.2
  exact hall.1

end Comparable

end Telemetry.Sorting
