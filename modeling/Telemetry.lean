import Telemetry.Main
import Telemetry.Pacer
import Telemetry.Session
import Telemetry.Sink.Script
import Telemetry.Proofs.Window.History
import Telemetry.Proofs.Store.Action
import Telemetry.Proofs.Store.Sampling
import Telemetry.Proofs.Meter.Rate
import Telemetry.Proofs.Meter.Failure
import Telemetry.Proofs.Registry.Round
import Telemetry.Proofs.Registry.Call
import Telemetry.Proofs.Session.Step
import Telemetry.Proofs.Registry.Names
import Telemetry.Proofs.Registry.Views
import Telemetry.Proofs.Registry.Order
import Telemetry.Proofs.Registry.Tick
import Telemetry.Proofs.Registry.Readings
import Telemetry.Proofs.Sink.Deed
import Telemetry.Proofs.Registry.Service
import Telemetry.Proofs.Registry.Isolation
import Telemetry.Proofs.Registry.Report
import Telemetry.Proofs.Registry.Numbering
import Telemetry.Proofs.Registry.Worker
import Telemetry.Proofs.Registry.Running
import Telemetry.Proofs.Registry.Silence
import Telemetry.Proofs.Session.Running
import Telemetry.Proofs.Registry.Hearing
import Telemetry.Proofs.Registry.Roll
import Telemetry.Proofs.FileTree.Growth
import Telemetry.Proofs.Json.Ascii
import Telemetry.Proofs.Sink.Journal
import Telemetry.Proofs.Registry.Levels
import Telemetry.Proofs.Session.Alike
import Telemetry.Proofs.Session.Levels
import Telemetry.Proofs.Store.Alike
import Telemetry.Proofs.Session.Effects
import Telemetry.Proofs.Session.Reads
import Telemetry.Proofs.Store.AnyOrder
import Telemetry.Proofs.Registry.AnyOrder
import Telemetry.Proofs.Sorting.Returns
import Telemetry.Proofs.Json.RoundTrip
import Telemetry.Proofs.Sink.Line
import Telemetry.Proofs.Session.Ledger
import Telemetry.Proofs.Number.Rational
import Telemetry.Proofs.Settings.Acceptance
import Telemetry.Proofs.Settings.Normal
import Telemetry.Proofs.Settings.Forms
import Telemetry.Proofs.Reference.Copy
import Telemetry.Proofs.Workload.Balance
import Telemetry.Proofs.Workload.Course
import Telemetry.Proofs.Pacer.Exact
import Telemetry.Proofs.Number.Exact
import Telemetry.Proofs.Number.Nearest
import Telemetry.Proofs.Value.Narrowing
import Telemetry.Proofs.Window.Span
import Telemetry.Proofs.Session.Meters
import Telemetry.Proofs.Meter.Steady
import Telemetry.Proofs.Window.Bounded
import Telemetry.Proofs.Session.GaugeMeters
import Telemetry.Proofs.Sorting.Order
import Telemetry.Proofs.Sink.Tags
import Telemetry.Proofs.Sink.AnyOrder
import Telemetry.Proofs.Store.Repeats
import Telemetry.Proofs.Registry.Frame
import Telemetry.Proofs.Registry.Meters
