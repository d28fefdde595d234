import Mathlib.Data.List.Infix
import Telemetry.Proofs.Registry.Views

/-!
# The order of the views of a registry

A registry samples its views in the order of the list of its updater. The list knows views and not
names: of a view that was registered several times and lost a name, it is always the latest
registrations that are left, whichever name it was. This is the order of the names as long as no
view has two of them; after that it need not be, not even once all views have one name again.

Main statements: `KeepsLatest.renames` and `Orderly.renames` (what a call does to the order) and
`views_of_life` (the views of a registry after any life).
-/

namespace Telemetry

namespace Registry

/-! ## Latest entries -/

/-- The latest entries of a list, of each object as many as are asked for. -/
def latest (wanted : Ref → Nat) : List Ref → List Ref
  | [] => []
  | r :: rest =>
    if rest.count r < wanted r then r :: latest wanted rest else latest wanted rest

theorem count_latest (wanted : Ref → Nat) (l : List Ref) (r : Ref) :
    (latest wanted l).count r = min (wanted r) (l.count r) := by
  induction l with
  | nil => simp [latest]
  | cons k rest ih =>
      rw [latest]
      by_cases hkr : k = r
      · subst hkr
        rw [List.count_cons_self]
        split
        · rw [List.count_cons_self, ih]
          omega
        · rw [ih]
          omega
      · rw [List.count_cons_of_ne hkr]
        split
        · rw [List.count_cons_of_ne hkr, ih]
        · exact ih

/-- One more entry, and one more of it is asked for. -/
theorem latest_concat {wanted after : Ref → Nat} {r : Ref} (hr : after r = wanted r + 1)
    (hother : ∀ k, k ≠ r → after k = wanted k) (l : List Ref) :
    latest after (l ++ [r]) = latest wanted l ++ [r] := by
  induction l with
  | nil => simp [latest, hr]
  | cons k rest ih =>
      rw [List.cons_append, latest, latest, ih]
      -- for its own object the new entry counts on both sides, for others on neither
      have hiff : (rest ++ [r]).count k < after k ↔ rest.count k < wanted k := by
        rw [List.count_append]
        by_cases hkr : k = r
        · subst hkr
          rw [List.count_singleton_self, hr]
          omega
        · rw [List.count_singleton, beq_false_of_ne (Ne.symm hkr), hother k hkr]
          simp
      by_cases hlt : rest.count k < wanted k
      · rw [if_pos hlt, if_pos (hiff.mpr hlt), List.cons_append]
      · rw [if_neg hlt, if_neg (mt hiff.mp hlt)]

/-- As long as there are no more entries than are asked for, it does not matter how many are. -/
theorem latest_congr {wanted after : Ref → Nat} {l : List Ref}
    (h : ∀ k, after k = wanted k ∨ l.count k ≤ after k ∧ l.count k ≤ wanted k) :
    latest after l = latest wanted l := by
  induction l with
  | nil => rfl
  | cons k rest ih =>
      have hrest : latest after rest = latest wanted rest := by
        refine ih fun i => ?_
        have hle : rest.count i ≤ (k :: rest).count i := List.count_le_count_cons
        have hi := h i
        omega
      have hk := h k
      rw [List.count_cons_self] at hk
      have hiff : rest.count k < after k ↔ rest.count k < wanted k := by omega
      simp only [latest, hrest, hiff]

/-- If one less is asked for, the first goes. -/
theorem latest_erase {wanted after : Ref → Nat} {r : Ref} (hr : after r + 1 = wanted r)
    (hother : ∀ k, k ≠ r → after k = wanted k) {l : List Ref} (hl : wanted r ≤ l.count r) :
    latest after l = (latest wanted l).erase r := by
  induction l with
  | nil =>
      rw [List.count_nil] at hl
      omega
  | cons k rest ih =>
      by_cases hkr : k = r
      · subst hkr
        rw [List.count_cons_self] at hl
        by_cases hlt : rest.count k < wanted k
        · -- the first entry that is kept is the one that goes
          rw [latest, latest, if_pos hlt, if_neg (by omega), List.erase_cons_head]
          refine latest_congr fun i => ?_
          by_cases hi : i = k
          · subst hi
            right
            omega
          · exact .inl (hother i hi)
        · rw [latest, latest, if_neg hlt, if_neg (by omega)]
          exact ih (by omega)
      · rw [List.count_cons_of_ne hkr] at hl
        rw [latest, latest, hother k hkr, ih hl]
        split
        · rw [List.erase_cons_tail (by simpa using hkr)]
        · rfl

/-! ## Orders of views -/

/-- The views are in the order of the latest registrations: `history` lists all there have been. -/
def KeepsLatest (reg : Registry) (s : Store) (history : List Ref) : Prop :=
  reg.updater.views = latest (fun r => (reg.viewRefs s).count r) history

/-- **The views are the latest registrations**, of each view as many as it has names. -/
theorem KeepsLatest.renames {reg after : Registry} {s t : Store} {history : List Ref}
    (hlatest : reg.KeepsLatest s history) (h : reg.Tracked s) (hgrows : s.Grows t)
    (hrenames : reg.Renames s t after) :
    after.KeepsLatest t (history ++ reg.newViews after t) := by
  unfold KeepsLatest at hlatest ⊢
  rcases views_renames h hgrows hrenames with ⟨hviews, hrefs, hnew⟩ | ⟨r, hviews, hrefs, hnew⟩ |
    ⟨r, before, behind, hviews, hbefore, hafter, hnew⟩
  · rw [hviews, hrefs, hnew, List.append_nil]
    exact hlatest
  · rw [hviews, hrefs, hnew, hlatest]
    symm
    apply latest_concat
    · simp
    · intro k hk
      simp [List.count_append, Ne.symm hk]
  · rw [hviews, hnew, List.append_nil, hlatest]
    symm
    apply latest_erase
    · rw [hafter, hbefore, List.count_append, List.count_append, List.count_cons_self]
      omega
    · intro k hk
      rw [hafter, hbefore, List.count_append, List.count_append, List.count_cons_of_ne (Ne.symm hk)]
    · -- there are no fewer registrations than names
      have hcount := h.perm.count_eq r
      rw [hlatest, count_latest] at hcount
      omega

/-- The views are in the order of their names. -/
def Orderly (reg : Registry) (s : Store) : Prop := reg.updater.views = reg.viewRefs s

/-- **As long as no view has two names, the views are in the order of the names**: a name that is
taken away is then the only one of its view. -/
theorem Orderly.renames {reg after : Registry} {s t : Store} (horderly : reg.Orderly s)
    (hnodup : (reg.viewRefs s).Nodup) (h : reg.Tracked s) (hgrows : s.Grows t)
    (hrenames : reg.Renames s t after) : after.Orderly t := by
  unfold Orderly at horderly ⊢
  rcases views_renames h hgrows hrenames with ⟨hviews, hrefs, -⟩ | ⟨r, hviews, hrefs, -⟩ |
    ⟨r, before, behind, hviews, hbefore, hafter, -⟩
  · rw [hviews, hrefs, horderly]
  · rw [hviews, hrefs, horderly]
  · rw [hbefore] at hnodup horderly
    -- the first place of the view in the list is the place of the name, as it has no other
    have hfirst : r ∉ before := by
      intro hmem
      exact (List.nodup_append.mp hnodup).2.2 r hmem r List.mem_cons_self rfl
    rw [hviews, hafter, horderly, List.erase_append_right _ hfirst, List.erase_cons_head]

/-! ## The order in a life -/

/-- The views that are registered in a life, in order and once for each registration. -/
def registeredViews (reg : Registry) (w : World) : List Turn → List Ref
  | [] => []
  | t :: rest =>
    reg.newViews (reg.turn w t).1 (reg.turn w t).2.store ++
      (reg.turn w t).1.registeredViews (reg.turn w t).2 rest

theorem KeepsLatest.live {reg : Registry} {w : World} {history : List Ref}
    (hlatest : reg.KeepsLatest w.store history) (h : reg.Tracked w.store) (turns : List Turn) :
    (reg.live w turns).1.KeepsLatest (reg.live w turns).2.store
      (history ++ reg.registeredViews w turns) := by
  induction turns generalizing reg w history with
  | nil => simpa [registeredViews] using hlatest
  | cons t rest ih =>
      have hnext := hlatest.renames h (reg.reaches_turn w t).grows (reg.renames_turn w t)
      rw [registeredViews, ← List.append_assoc]
      exact ih hnext (h.turn t)

theorem Orderly.live {reg : Registry} {w : World} (horderly : reg.Orderly w.store)
    (h : reg.Tracked w.store) {turns : List Turn}
    (hnodup : ∀ earlier, earlier <+: turns →
      ((reg.live w earlier).1.viewRefs (reg.live w earlier).2.store).Nodup) :
    (reg.live w turns).1.Orderly (reg.live w turns).2.store := by
  induction turns generalizing reg w with
  | nil => exact horderly
  | cons t rest ih =>
      have hstart : (reg.viewRefs w.store).Nodup := hnodup [] List.nil_prefix
      have hnext := horderly.renames hstart h (reg.reaches_turn w t).grows (reg.renames_turn w t)
      refine ih hnext (h.turn t) fun earlier hearlier => ?_
      exact hnodup (t :: earlier) (List.cons_prefix_cons.mpr ⟨rfl, hearlier⟩)

/-- **The views of a registry after any life.** They are the views that have names, once for each
name; so a view is sampled as long as it has a name, and not any more when it has lost the last one.
They are in the order of their latest registrations, and in the order of the names if at no time a
view had two of them. -/
theorem views_of_life {settings : Settings} {sinks : List Sink} {before after : Host}
    {reg : Registry} (hcreate : create settings sinks before = (.ok reg, after)) (w : World)
    (turns : List Turn) :
    let now := (reg.live w turns).1
    let store := (reg.live w turns).2.store
    now.updater.views.Perm (now.viewRefs store) ∧
      (∀ r, r ∈ now.updater.views ↔ store.isView r = true ∧ ∃ name, (name, r) ∈ now.metrics) ∧
      now.updater.views =
        latest (fun r => (now.viewRefs store).count r) (reg.registeredViews w turns) ∧
      ((∀ earlier, earlier <+: turns →
          ((reg.live w earlier).1.viewRefs (reg.live w earlier).2.store).Nodup) →
        now.updater.views = now.viewRefs store) := by
  intro now store
  have htracked := tracked_of_create hcreate w.store
  obtain ⟨hmetrics, hviews, -⟩ := created_registry hcreate
  have hnone : reg.updater.views = reg.viewRefs w.store := by
    rw [viewRefs, hmetrics, hviews]
    rfl
  have hperm := (tracked_live hcreate w turns).perm
  refine ⟨hperm, ?_, ?_, ?_⟩
  · intro r
    exact hperm.mem_iff.trans mem_viewRefs
  · have hlatest : reg.KeepsLatest w.store [] := hviews
    exact hlatest.live htracked turns
  · intro hnodup
    exact Orderly.live hnone htracked hnodup

/-! ### Two lives with two views -/

/-- The first view is registered again behind the second. -/
def registeredAgain : List Turn :=
  [.call (.register "a" 0), .call (.register "b" 1), .call (.unregister "a"),
   .call (.register "c" 0)]

theorem views_of_registeredAgain :
    (bare.live twoViews registeredAgain).1.updater.views =
      (bare.live twoViews registeredAgain).1.viewRefs
        (bare.live twoViews registeredAgain).2.store := by
  have hnodup : registeredAgain.inits.all (fun earlier =>
      decide ((bare.live twoViews earlier).1.viewRefs
        (bare.live twoViews earlier).2.store).Nodup) = true := by decide +kernel
  obtain ⟨-, -, -, horder⟩ := views_of_life create_bare twoViews registeredAgain
  apply horder
  intro earlier hearlier
  exact of_decide_eq_true (List.all_eq_true.mp hnodup earlier ((List.mem_inits _ _).mpr hearlier))

/-- The first view has a second name for a while, behind the name of the second view. -/
def registeredTwice : List Turn :=
  [.call (.register "a" 0), .call (.register "b" 1), .call (.register "c" 0),
   .call (.unregister "c")]

/-- **The order of the names is lost**, though no view has two names in the end. -/
theorem order_of_registeredTwice :
    create bare.settings [] twoViews.host = (.ok bare, twoViews.host) ∧
      (bare.live twoViews registeredTwice).1.viewRefs
        (bare.live twoViews registeredTwice).2.store = [0, 1] ∧
      (bare.live twoViews registeredTwice).1.updater.views = [1, 0] := by
  refine ⟨rfl, ?_, ?_⟩ <;> decide +kernel

end Registry

end Telemetry
