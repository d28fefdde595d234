import Mathlib.Data.List.Forall2
import Telemetry.Sink

/-!
# What sinks do

A sink is asked to write an event or to close. What it then does, and whether it fails, depends on
itself, on what it is asked and on the levels of the loggers, but not on anything else: not on what
was recorded, not on the files, and so not on other sinks. A deed is that part of a call that is the
sink's own, and a call adds it to the host as it is.

Main statements: `exists_does` (every call is a deed) and `calls_of_does` (what recorders note).
-/

namespace Telemetry

namespace Sink

/-- What a sink may be asked for. -/
inductive Request where
  | write (event : Event)
  | close

/-- The event that is handed over with a request. -/
def Request.event? : Request → Option Event
  | .write event => some event
  | .close => none

/-- A call of a sink. -/
def serve : Request → Sink → Host → Except Fault Unit × Sink × Host
  | .write event => fun sink host => sink.write event host
  | .close => close

/-- What a sink does when it is asked. -/
structure Deed where
  result : Except Fault Unit
  /-- The sink afterwards. -/
  sink : Sink
  /-- What it sends to loggers. -/
  records : List Record := []
  /-- How it notes the call. -/
  calls : List SinkCall := []
  /-- What it appends to files, with their places. -/
  lines : List (Path × String) := []

end Sink

namespace Host

/-- The host after a deed of a sink. -/
def add (host : Host) (d : Sink.Deed) : Host :=
  { host with
    records := host.records ++ d.records
    calls := host.calls ++ d.calls
    files := d.lines.foldl (fun files line => files.append line.1 line.2) host.files }

/-- A deed that leaves no trace. -/
@[simp] theorem add_idle (host : Host) (result : Except Fault Unit) (sink : Sink) :
    host.add { result, sink } = host := by
  simp [add]

theorem calls_foldl_add (deeds : List Sink.Deed) (host : Host) :
    (deeds.foldl add host).calls = host.calls ++ deeds.flatMap (·.calls) := by
  induction deeds generalizing host with
  | nil => simp
  | cons d rest ih => rw [List.foldl_cons, ih, List.flatMap_cons, ← List.append_assoc]; rfl

end Host

namespace Sink

/-- What a sink does, whatever else is on the host. -/
def Does (request : Request) (loggers : Loggers) (sink : Sink) (d : Deed) : Prop :=
  ∀ host : Host, host.loggers = loggers → serve request sink host = (d.result, d.sink, host.add d)

theorem exists_does_writeLog (event : Event) (loggers : Loggers) (level : Value)
    (logger : String) : ∃ d, Does (.write event) loggers (.log level logger) d := by
  -- a host that has nothing but the loggers shows what is sent
  let alone := writeLog level logger event { loggers, room := 0 }
  refine ⟨{ result := alone.1, sink := .log level logger, records := alone.2.records },
    fun host h => ?_⟩
  subst h
  simp only [serve, write, alone, writeLog]
  cases host.loggers.enabled logger level with
  | error fault => simp
  | ok kept =>
      cases kept with
      | false => simp
      | true =>
          cases metricsText event.metrics with
          | error fault => simp
          | ok metrics =>
              cases isLevel level with
              | false => simp
              | true => simp [Host.add, Host.addRecord]

theorem exists_does_writeLine (event : Event) (loggers : Loggers) (path place : Path)
    (isOpen : Bool) : ∃ d, Does (.write event) loggers (.lines path place isOpen) d := by
  cases hline : lineText event with
  | error fault =>
      refine ⟨⟨.error fault, .lines path place isOpen, [], [], []⟩, fun host _ => ?_⟩
      simp [serve, write, writeLine, hline]
  | ok line =>
      cases isOpen with
      | false =>
          refine ⟨⟨.error .fileClosed, .lines path place false, [], [], []⟩, fun host _ => ?_⟩
          simp [serve, write, writeLine, hline]
      | true =>
          refine ⟨⟨.ok (), .lines path place true, [], [], [(place, line)]⟩, fun host _ => ?_⟩
          simp [serve, write, writeLine, hline, Host.add]

theorem exists_does_record (event : Event) (loggers : Loggers) (name : String)
    (failing : Bool) (refuses : Event → Option Fault) :
    ∃ d, Does (.write event) loggers (.recorder name failing refuses) d := by
  cases hrefused : refuses event with
  | some fault =>
      refine ⟨⟨.error fault, .recorder name failing refuses, [], [], []⟩, fun host _ => ?_⟩
      simp [serve, write, record, hrefused]
  | none =>
      refine ⟨⟨recorderResult failing, .recorder name failing refuses, [], [.write name event], []⟩,
        fun host _ => ?_⟩
      simp [serve, write, record, hrefused, Host.add, Host.addCall]

/-- A call of a summary sink leaves the host alone, and a writer knows nothing of it. -/
theorem exists_does_summary (request : Request) (loggers : Loggers) (directory : String)
    (writer : SummaryWriter) (events : Nat) (calls : List SummaryCall) :
    ∃ d, Does request loggers (.summary directory writer events calls) d := by
  let served := serve request (.summary directory writer events calls) { loggers, room := 0 }
  refine ⟨{ result := served.1, sink := served.2.1 }, fun host _ => ?_⟩
  cases request <;> simp [serve, write, close, served]

/-- **What a sink does depends on nothing but itself, the request and the loggers.** -/
theorem exists_does (request : Request) (loggers : Loggers) (sink : Sink) :
    ∃ d, Does request loggers sink d := by
  cases sink with
  | log level logger =>
      cases request with
      | write event => exact exists_does_writeLog event loggers level logger
      | close => exact ⟨⟨.ok (), .log level logger, [], [], []⟩, fun host _ => by simp [serve, close]⟩
  | lines path place isOpen =>
      cases request with
      | write event => exact exists_does_writeLine event loggers path place isOpen
      | close =>
          exact ⟨⟨.ok (), .lines path place false, [], [], []⟩, fun host _ => by simp [serve, close]⟩
  | summary directory writer events calls =>
      exact exists_does_summary request loggers directory writer events calls
  | recorder name failing refuses =>
      cases request with
      | write event => exact exists_does_record event loggers name failing refuses
      | close =>
          exact ⟨⟨recorderResult failing, .recorder name failing refuses, [], [.close name], []⟩,
            fun host _ => by simp [serve, close, Host.add, Host.addCall]⟩
  | guest kind name endings =>
      cases request with
      | write event =>
          exact ⟨⟨endings.headD (.ok ()), .guest kind name endings.tail, [], [.write name event], []⟩,
            fun host _ => by simp [serve, write, Host.add, Host.addCall]⟩
      | close =>
          exact ⟨⟨endings.headD (.ok ()), .guest kind name endings.tail, [], [.close name], []⟩,
            fun host _ => by simp [serve, close, Host.add, Host.addCall]⟩

/-! ### What recorders note -/

/-- How a sink notes what it is asked: recorders and guests note their names, and a recorder notes no
event that it refuses. -/
def notes (request : Request) : Sink → List SinkCall
  | recorder name _ refuses => match request with
    | .write event => if (refuses event).isNone then [.write name event] else []
    | .close => [.close name]
  | guest _ name _ => match request with
    | .write event => [.write name event]
    | .close => [.close name]
  | _ => []

theorem calls_serve (request : Request) (sink : Sink) (host : Host) :
    (serve request sink host).2.2.calls = host.calls ++ sink.notes request := by
  cases request with
  | write event =>
      cases sink with
      | log level logger =>
          simp only [serve, write, writeLog, notes, List.append_nil]
          split
          · rfl
          · rfl
          · split
            · rfl
            · split <;> rfl
      | lines path place isOpen =>
          simp only [serve, write, writeLine, notes, List.append_nil]
          split
          · rfl
          · split <;> rfl
      | summary directory writer events calls => simp [serve, write, notes]
      | recorder name failing refuses =>
          simp only [serve, write, record, notes]
          cases refuses event with
          | some fault => exact (List.append_nil _).symm
          | none => rfl
      | guest kind name endings => rfl
  | close => cases sink <;> simp [serve, close, notes, Host.addCall]

/-- **A recorder notes every request, whether it fails or not.** -/
theorem calls_of_does {request : Request} {loggers : Loggers} {sink : Sink} {d : Deed}
    (h : Does request loggers sink d) : d.calls = sink.notes request := by
  have hcalls := calls_serve request sink { loggers, room := 0 }
  rw [h { loggers, room := 0 } rfl] at hcalls
  exact List.append_cancel_left hcalls

end Sink

end Telemetry
