import Telemetry.Proofs.Session.Effects
import Telemetry.Proofs.Window.Span

/-!
# The meters of a session

A meter is built exactly if its window is created, over whatever counter or gauge. From then on no
command takes it away or gives it another span, and every sample of it stays within its ring. There is
no other way for a meter to come into a session.

Main statements: `meter_of_build` (what is built stays) and `exists_isNew` (what is there was built).
-/

namespace Telemetry

namespace Store

/-- Something builds a meter with the window of a request, if there is one. -/
def Builds (room : ℕ) (span interval : Value) (built : Except Fault (Ref × Store)) : Prop :=
  ∃ place : Window → Ref × Store, built = (Window.create room span interval).map place ∧
    ∀ w, ∃ counter, (place w).2.get? (place w).1 = some (.meter counter w)

theorem get?_alloc_self (s : Store) (m : Metric) : (s.alloc m).2.get? (s.alloc m).1 = some m := by
  rw [get?_alloc, if_pos rfl]

theorem builds_newMeter (s : Store) (room : ℕ) (counter : Option Ref) (span interval : Value) :
    Builds room span interval (s.newMeter room counter span interval) := by
  cases counter with
  | some counter =>
      refine ⟨fun w => s.alloc (.meter counter w), ?_, ?_⟩
      · rw [newMeter]
        cases Window.create room span interval <;> rfl
      · intro w
        exact ⟨counter, s.get?_alloc_self _⟩
  | none =>
      let fresh := s.alloc (.counter (.int 0))
      refine ⟨fun w => fresh.2.alloc (.meter fresh.1 w), ?_, ?_⟩
      · rw [newMeter]
        cases Window.create room span interval <;> rfl
      · intro w
        exact ⟨fresh.1, get?_alloc_self _ _⟩

theorem builds_newGaugeMeter (s : Store) (room : ℕ) (gauge : Ref) (span interval : Value) :
    Builds room span interval (s.newGaugeMeter room gauge span interval) := by
  let fresh := s.alloc (.gaugeCounter gauge)
  refine ⟨fun w => fresh.2.alloc (.meter fresh.1 w), ?_, ?_⟩
  · rw [newGaugeMeter]
    cases Window.create room span interval <;> rfl
  · intro w
    exact ⟨fresh.1, get?_alloc_self _ _⟩

/-- **A meter is built exactly if it is requested properly.** -/
theorem Builds.isOk_iff {room : ℕ} {span interval : Value} {built : Except Fault (Ref × Store)}
    (h : Builds room span interval built) :
    built.isOk = true ↔ ∃ asked seconds, Window.Requests room span interval asked seconds := by
  obtain ⟨place, rfl, -⟩ := h
  rw [← Window.isOk_create_iff]
  cases Window.create room span interval <;> exact Iff.rfl

end Store

namespace Window

theorem Covers.of_becomes {before after : Window} {asked seconds : ℤ}
    (h : before.Covers asked seconds) (hpanes : after.panes = before.panes)
    (hinterval : after.interval = before.interval) : after.Covers asked seconds := by
  have hspan : after.span = before.span := by rw [span, span, hpanes, hinterval]
  obtain ⟨hseconds, hmultiple, hleast, hfloored⟩ := h
  rw [← hinterval] at hseconds hmultiple hleast
  rw [← hspan] at hmultiple hleast hfloored
  exact ⟨hseconds, hmultiple, hleast, hfloored⟩

end Window

namespace Session

/-- **A meter is built exactly for a proper request, and keeps what was built.** The request may name
any values; an interval that is not given is that of the process, and the memory may have whatever
room. Whatever session goes on with the store afterwards, and whatever its commands are, the meter is
found in it with a span that covers the request, and every sample of it stays within the ring and
divides by what is positive. -/
theorem meter_of_build (s : Store) (room : ℕ) (processInterval : ℤ) (counter : Option Ref)
    (gauge : Ref) (span interval : Value) {built : Except Fault (Ref × Store)}
    (hbuilt : built = s.newMeter room counter span (Registry.intervalOf processInterval interval) ∨
      built = s.newGaugeMeter room gauge span (Registry.intervalOf processInterval interval)) :
    (built.isOk = true ↔ ∃ asked seconds,
      Window.Requests room span (Registry.intervalOf processInterval interval) asked seconds) ∧
    ∀ asked seconds r t,
      Window.Requests room span (Registry.intervalOf processInterval interval) asked seconds →
      built = .ok (r, t) → ∃ followed, ∀ (u : Session) (commands : List Command),
        u.world.store = t → ∃ w, (u.run commands).2.world.store.get? r = some (.meter followed w) ∧
          w.Covers asked seconds ∧ w.InRange := by
  have hbuilds : Store.Builds room span (Registry.intervalOf processInterval interval) built := by
    rcases hbuilt with rfl | rfl
    · exact s.builds_newMeter room counter span _
    · exact s.builds_newGaugeMeter room gauge span _
  refine ⟨hbuilds.isOk_iff, ?_⟩
  obtain ⟨place, rfl, hplace⟩ := hbuilds
  intro asked seconds r t hrequest hok
  have hcreate := hrequest.create_eq_ok
  rw [hcreate, Except.map, Except.ok.injEq] at hok
  obtain ⟨followed, hmeter⟩ := hplace (Window.empty asked seconds.toNat hrequest.toNat_pos)
  rw [hok] at hmeter
  refine ⟨followed, ?_⟩
  rintro u commands rfl
  obtain ⟨after, hafter, hbecomes⟩ := u.grows_run commands r _ hmeter
  cases hbecomes with
  | meter _ hpanes hinterval =>
      have hcovers := Window.covers_empty asked hrequest.interval_pos hrequest.toNat_pos
      exact ⟨_, hafter, hcovers.of_becomes hpanes hinterval, Window.inRange _⟩

/-- Thirteen seconds are floored to two intervals of five. -/
theorem meter_of_thirteenSeconds : ∃ r t followed,
    ({} : Store).newMeter 3 none (.int 13) (.int 5) = .ok (r, t) ∧
      ∀ (u : Session) (commands : List Command), u.world.store = t →
        ∃ w, (u.run commands).2.world.store.get? r = some (.meter followed w) ∧
          w.span = 10 ∧ w.interval = 5 ∧ w.InRange := by
  have hrequest : Window.Requests 3 (.int 13) (Registry.intervalOf 5 .null) 13 5 :=
    ⟨.inl rfl, .inl rfl, by decide, by decide⟩
  obtain ⟨hbuilt, hkept⟩ := meter_of_build {} 3 5 none 0 (.int 13) .null (.inl rfl)
  obtain ⟨⟨r, t⟩, hok⟩ : ∃ made, ({} : Store).newMeter 3 none (.int 13) (.int 5) = .ok made :=
    Fault.exists_eq_ok (hbuilt.mpr ⟨13, 5, hrequest⟩)
  obtain ⟨followed, hmeter⟩ := hkept 13 5 r t hrequest hok
  refine ⟨r, t, followed, hok, ?_⟩
  intro u commands hu
  obtain ⟨w, hw, hcovers, hrange⟩ := hmeter u commands hu
  have hinterval : w.interval = 5 := by exact_mod_cast hcovers.interval
  obtain ⟨hmost, hleast⟩ := hcovers.floored (by decide)
  obtain ⟨panes, hpanes⟩ := hcovers.multiple
  rw [hinterval] at hpanes
  exact ⟨w, hw, by omega, hinterval, hrange⟩

/-! ## Where meters come from -/

/-- An action adds no meter but one with a new window. -/
def AddsNew (a : Store.Action) : Prop := ∀ counter w, a = .add (.meter counter w) → w.IsNew

theorem addsNew_of_permits {command : Command} {a : Store.Action} (h : command.Permits a) :
    AddsNew a := by
  rintro counter w rfl
  exact h.2

theorem reachesBy_run (s : Session) (commands : List Command) :
    s.world.store.ReachesBy AddsNew (s.run commands).2.world.store := by
  induction commands generalizing s with
  | nil => exact .refl _
  | cons command rest ih =>
      have hstep : s.world.store.ReachesBy AddsNew (s.step command).2.world.store :=
        (s.drained.does_execute command).mono fun _ hdoes => addsNew_of_permits hdoes.1
      exact hstep.trans (ih (s.step command).2)

/-- **Every meter of a session was new once.** -/
theorem exists_isNew (host : Host) (commands : List Command) {r counter : Ref} {w : Window}
    (h : ((initial host).run commands).2.world.store.get? r = some (.meter counter w)) :
    ∃ (t : Store) (first : Window) (actions : List Store.Action), first.IsNew ∧
      t.get? r = some (.meter counter first) ∧
      ((initial host).run commands).2.world.store = t.run actions := by
  obtain ⟨all, hall, hrun⟩ := (initial host).reachesBy_run commands
  rw [hrun] at h ⊢
  have hnone : (initial host).world.store.get? r = none := rfl
  obtain ⟨before, new, rest, rfl, hnew⟩ := Store.exists_added hnone h
  rw [Store.run_append, Store.run_cons] at h ⊢
  -- what was added has become this meter, so that it was one from the start
  obtain ⟨m, hm, hbecomes⟩ := Store.grows_run _ rest r new hnew
  rw [hm] at h
  cases h
  cases hbecomes with
  | @meter _ first _ _ _ =>
      refine ⟨_, first, rest, ?_, hnew, rfl⟩
      exact hall _ (List.mem_append_right before List.mem_cons_self) _ _ rfl

end Session

end Telemetry
