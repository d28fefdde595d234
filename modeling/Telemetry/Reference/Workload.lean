import Telemetry.Reference.Settings
import Telemetry.Workload

/-!
# Workloads of trees with references

A tree may hold the settings of a registry and those of a workload, each under its name. Either may
refer to the rest of the tree.
-/

namespace Telemetry.Reference

/-- The node under a name of the root, with its own reference followed. A node that was left open
counts as absent. -/
def section? (root : Value) (name : String) : Except Fault (Option Node) :=
  match root with
  | .dict entries => match Table.get? entries name with
    | none => .ok none
    | some v => if isOpen v then .ok none else (settle root ⟨[name], v⟩).map some
  | .list _ => .error .nameInList
  | v => .error (.notContainer v.typeName)

/-- The settings of the registry in a tree. -/
def registrySettings (processInterval : Int) (root : Value) : Except Fault Settings := do
  match ← section? root "registry" with
  | none => Settings.ofValue processInterval .null
  | some node => Settings.ofForm processInterval (form root node)

/-- The workload in a tree. Its options are read one by one. -/
def workload (root : Value) : Except Fault Workload := do
  match ← section? root "workload" with
  | none => Workload.ofOptions []
  | some node => match node.value with
    | .dict entries => do
      let nodes ← entryNodes root node.path entries
      Workload.ofOptions (nodes.map fun p => (p.1, p.2.handOut))
    | _ => Workload.ofValue node.handOut

/-- Run the workload of a tree on the registry of the same. -/
def runWorkload (v : Value) (schedule : List Turn) (now : Value) (host : Host)
    (sleep : Value → Option Fault := Workload.sleepFault) : WorkloadRun :=
  match plant v with
  | .error fault => { result := .error fault, world := { host } }
  | .ok root =>
    Workload.runWith (registrySettings host.processInterval root) (workload root) schedule now host
      sleep

end Telemetry.Reference
