import Telemetry.Proofs.Registry.Names

/-!
# The life of a registry

A registry does not live alone. Between two calls of it its metrics are changed, read and sampled by
others, metrics are built and registered elsewhere, and the host moves on. A life is any list of
such turns, in any order and with as many refused calls as there may be.

Main statements: `renames_turn` and `reaches_turn` (what a turn can do) and `live_induction` (what
is kept by turns is kept for life).
-/

namespace Telemetry

namespace Registry

/-- A turn in the life of a registry. -/
inductive Turn where
  | call (c : Call)
  /-- Others act on the store, and leave the host as it is given here. -/
  | aside (actions : List Store.Action) (host : Host)

/-- What a turn leaves behind. -/
def turn (reg : Registry) (w : World) : Turn → Registry × World
  | .call c => reg.call w c
  | .aside actions host => (reg, { store := w.store.run actions, host })

/-- What a life leaves behind. -/
def live (reg : Registry) (w : World) : List Turn → Registry × World
  | [] => (reg, w)
  | t :: rest => (reg.turn w t).1.live (reg.turn w t).2 rest

@[simp] theorem live_nil (reg : Registry) (w : World) : reg.live w [] = (reg, w) := rfl

@[simp] theorem live_cons (reg : Registry) (w : World) (t : Turn) (rest : List Turn) :
    reg.live w (t :: rest) = (reg.turn w t).1.live (reg.turn w t).2 rest := rfl

theorem live_append (reg : Registry) (w : World) (first second : List Turn) :
    reg.live w (first ++ second) = (reg.live w first).1.live (reg.live w first).2 second := by
  induction first generalizing reg w with
  | nil => rfl
  | cons t rest ih => exact ih (reg.turn w t).1 (reg.turn w t).2

theorem reaches_turn (reg : Registry) (w : World) (t : Turn) :
    w.store.Reaches (reg.turn w t).2.store := by
  cases t with
  | call c => exact reg.reaches_call w c
  | aside actions host => exact ⟨actions, rfl⟩

/-- **A turn does to names and views what a call does.** -/
theorem renames_turn (reg : Registry) (w : World) (t : Turn) :
    reg.Renames w.store (reg.turn w t).2.store (reg.turn w t).1 := by
  cases t with
  | call c => exact reg.renames_call w c
  | aside actions host => exact .kept rfl rfl

/-- What is kept by every turn is kept for life. -/
theorem live_induction {P : Registry → Store → Prop}
    (hturn : ∀ reg w t, P reg w.store → P (reg.turn w t).1 (reg.turn w t).2.store)
    {reg : Registry} {w : World} (h : P reg w.store) (turns : List Turn) :
    P (reg.live w turns).1 (reg.live w turns).2.store := by
  induction turns generalizing reg w with
  | nil => exact h
  | cons t rest ih => exact ih (hturn reg w t h)

/-- A store only grows in a life. -/
theorem grows_live (reg : Registry) (w : World) (turns : List Turn) :
    w.store.Grows (reg.live w turns).2.store := by
  refine live_induction (P := fun _ s => w.store.Grows s) ?_ (.refl w.store) turns
  intro reg v t h
  exact h.trans (reg.reaches_turn v t).grows

/-! ## Where a life begins -/

/-- A registry without sinks. -/
def bare : Registry where
  settings :=
    { scope := .str "meterkit", samplingInterval := .int 5, defaultSpan := .int 60,
      reportInterval := .int 10, sinks := .list [] }
  updater := { views := [], worker := { name := "metric-view-updater", interval := .int 5 } }
  reporter := { name := "metric-reporter", interval := .int 10 }
  sinks := []

/-- Two views, and a host that keeps no messages below the usual level. -/
def twoViews : World where
  store := { metrics := #[.view none 0, .view none 0] }
  host := { loggers := { root := Level.warning }, room := 100 }

theorem create_bare : create bare.settings [] twoViews.host = (.ok bare, twoViews.host) := rfl

end Registry

end Telemetry
