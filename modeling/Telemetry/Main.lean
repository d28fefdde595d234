import Telemetry.Monitor

/-!
# The command line

Runs the monitor with the settings that the arguments ask for. The exit code is 0 if the workload
ended with a report, 1 if it failed, and 2 if an argument was refused.
-/

open Telemetry

/-- Run the monitor. -/
def main (arguments : List String) : IO UInt32 := do
  match Monitor.configure arguments with
  | .error refusal =>
    IO.eprintln refusal.message
    return 2
  | .ok tree =>
    let finished := Monitor.run tree
    IO.print (Monitor.output finished)
    match finished.result with
    | .ok _ => return 0
    | .error fault =>
      IO.eprintln fault.message
      return 1
