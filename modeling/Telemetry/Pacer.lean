import Telemetry.Number

/-!
# Pacing a periodic task

A pacer runs a task once per interval. It waits for the next deadline, runs the task, and moves the
deadline on by one interval. If the task took so long that the new deadline has passed as well, the
missed runs are dropped and the next deadline is one interval from now.

The clock is any type with sums, differences and an order; on doubles every operation rounds, on
integers the arithmetic is exact. A run is driven by a script: for each pass, how late the pacer
woke up and how long the task worked.
-/

namespace Telemetry

/-- One pass of a script. -/
structure Pass (τ : Type) where
  /-- How long after the deadline the pacer wakes up. -/
  late : τ
  work : τ

/-- What a run did. -/
structure PacerRun (τ : Type) where
  /-- The waits that were asked for, in order. -/
  waits : List τ
  /-- When the task was started, in order. -/
  ticks : List τ
  /-- Whether the task failed, which ends the run. -/
  failed : Bool

namespace Pacer

variable {τ : Type} [Add τ] [Sub τ] [Zero τ] [LT τ] [DecidableLT τ]

/-- The time to wait for a deadline; none if it has passed. -/
def remaining (deadline now : τ) : τ := if 0 < deadline - now then deadline - now else 0

/-- The deadline after one that was kept, when the task ended at `now`. -/
def following (interval deadline now : τ) : τ :=
  if deadline + interval < now then now + interval else deadline + interval

/-- Run the passes of a script from `now` on; the pacer stops when the script ends, or at the
`failAt`-th start of the task, counted from one, where the task fails. -/
def loop (interval : τ) : (now deadline : τ) → (failAt : Option Nat) → List (Pass τ) → PacerRun τ
  | now, deadline, _, [] => ⟨[remaining deadline now], [], false⟩
  | now, deadline, failAt, pass :: rest =>
    let wait := remaining deadline now
    let tick := now + wait + pass.late
    if failAt = some 1 then ⟨[wait], [tick], true⟩
    else
      let done := tick + pass.work
      let run := loop interval done (following interval deadline done) (failAt.map (· - 1)) rest
      { run with waits := wait :: run.waits, ticks := tick :: run.ticks }

/-- Run a script from `start` on; the first deadline is one interval away. -/
def run (interval start : τ) (failAt : Option Nat) (script : List (Pass τ)) : PacerRun τ :=
  loop interval start (start + interval) failAt script

/-- A pacer asks for one wait more than it starts the task, unless the task fails. -/
theorem length_waits_loop (interval now deadline : τ) (failAt : Option Nat)
    (script : List (Pass τ)) :
    let run := loop interval now deadline failAt script
    run.waits.length = run.ticks.length + if run.failed then 0 else 1 := by
  induction script generalizing now deadline failAt with
  | nil => simp [loop]
  | cons pass rest ih =>
    simp only [loop]
    split
    · simp
    · simp only [List.length_cons, ih]
      omega

end Pacer

/-- A script run on the clock of doubles, for an interval that may be any number. An interval that
is not positive is refused; one that is too large for the clock stops the run before it waits. -/
def Pacer.runValues (interval : Value) (start : Binary64) (failAt : Option Nat)
    (script : List (Pass Binary64)) : Except Fault (PacerRun Binary64 × Option Fault) := do
  interval.requirePositive "interval_s"
  let some number := Number.ofValue? interval | throw (.noInteger interval.typeName)
  match number.toFloat with
  | .error fault => return (⟨[], [], false⟩, some fault)
  | .ok seconds =>
    let run := Pacer.run seconds start failAt script
    return (run, if run.failed then some (.raised "ValueError" "target failed") else none)

end Telemetry
