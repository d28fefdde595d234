import Telemetry.Registry

/-!
# A synthetic workload

Producers record events and put them into a backlog of bounded size; a consumer takes them out and
records them as processed. The registry measures both rates, the size of the backlog and its growth.
The producers and the consumer take turns by a schedule, between the rounds of the updater. Every
workload has a backlog of its own, which is empty when it begins.

Side by side, the loops of producers and the consumer make single steps: a pass of either is two of
them.

Main statements: `backlog_produce_le` and `backlog_consume_le` (the backlog stays within its bound),
`sinks_finish` and `started_finish` (in the end the registry is closed, whatever went wrong).
-/

namespace Telemetry

/-- What a workload does. -/
structure Workload where
  producers : Value
  eventsPerSecond : Value
  duration : Value

/-- A turn of the schedule. -/
inductive Turn where
  | tick (rounds : Nat)
  | producer (index passes : Nat)
  | consumer (passes : Nat)

/-- What came of a turn. -/
structure TurnTrace where
  snapshot : Table Value
  /-- The pauses of the producer or consumer, with how often each was made in a row. -/
  pauses : Option (List (Binary64 × Nat)) := none
  fault : Option Fault := none

/-- What came of a workload. -/
structure WorkloadRun where
  workers : Nat := 0
  /-- How long the workload was to last, once it got so far. -/
  duration : Option Value := none
  turns : List TurnTrace := []
  result : Except Fault (Table Value)
  /-- The registry and the world as they were left, if the registry could be built. -/
  registry : Option Registry := none
  world : World

namespace Workload

def options : List String := ["producers", "events_per_second", "duration_s"]

/-- How messages name a workload as a whole. -/
def owner : String := "WorkloadConfig"

def ofOptions (given : Table Value) : Except Fault Workload := do
  Value.checkOptions owner options given
  return {
    producers := (given.get? "producers").getD (.int 4)
    eventsPerSecond := (given.get? "events_per_second").getD (.float (Binary64.ofQuotient 200 1))
    duration := (given.get? "duration_s").getD (.float (Binary64.ofQuotient 15 1)) }

/-! ### Producers and the consumer -/

/-- The most events that the backlog holds. -/
def backlogLimit : Nat := 10000

def consumerPause : Binary64 := Binary64.ofQuotient 4 1000

/-- The pause of a producer: one divided by the rate. -/
def producerPause (rate : Value) : Except Fault Binary64 :=
  match Number.ofValue? rate with
  | some n => n.inverse
  | none => .error (.badOperands "/" "float" rate.typeName)

section Backlog

variable (queue : Nat)

/-- Put an event into a backlog that holds so many events at most, if it has room. A limit of zero
is no limit. -/
def put? (limit : Nat) (s : Store) : Option Store :=
  if limit = 0 ∨ s.backlog queue < limit then some (s.resize queue (s.backlog queue + 1)) else none

/-- Put an event into the backlog, unless it is full. -/
def put (s : Store) : Store := (put? queue backlogLimit s).getD s

/-- One pass of a producer: record an event, then offer it to the backlog. -/
def produceOnce (produced : Ref) (s : Store) : Except Fault Store := do
  return put queue (← s.recordEvent produced (.int 1))

/-- Take an event out of the backlog, if there is one. -/
def take? (s : Store) : Option Store :=
  if s.backlog queue = 0 then none else some (s.resize queue (s.backlog queue - 1))

/-- One pass of the consumer: take an event, if there is one, and record it. The first part says
whether there was one; an event that cannot be recorded is lost. -/
def consumeOnce (processed : Ref) (s : Store) : Except Fault Bool × Store :=
  match take? queue s with
  | none => (.ok false, s)
  | some taken => match taken.recordEvent processed (.int 1) with
    | .error fault => (.error fault, taken)
    | .ok recorded => (.ok true, recorded)

/-- Passes of a producer, and how many were finished. -/
def produce (produced : Ref) : (passes : Nat) → Store → Store × Nat × Option Fault
  | 0, s => (s, 0, none)
  | passes + 1, s => match produceOnce queue produced s with
    | .error fault => (s, 0, some fault)
    | .ok s =>
      let (s, done, fault) := produce produced passes s
      (s, done + 1, fault)

/-- Passes of the consumer, and how many had an event. -/
def consume (processed : Ref) : (passes : Nat) → Store → Store × Nat × Option Fault
  | 0, s => (s, 0, none)
  | passes + 1, s => match consumeOnce queue processed s with
    | (.error fault, s) => (s, 0, some fault)
    | (.ok taken, s) =>
      let (s, done, fault) := consume processed passes s
      (s, done + taken.toNat, fault)

/-! ### Step by step -/

/-- Where a loop stands. -/
inductive Loop where
  /-- At the start of a pass. -/
  | free
  /-- With an event: a producer has to offer what it recorded, the consumer has to record what it
  took. -/
  | busy
  /-- At its end, because an event could not be recorded. -/
  | failed (fault : Fault)

namespace Loop

def isBusy : Loop → Bool
  | busy => true
  | _ => false

def hasFailed : Loop → Bool
  | failed _ => true
  | _ => false

end Loop

/-- The next step of a producer, and whether an offer found room, if it was one. -/
def producerStep (limit : Nat) (produced : Ref) (s : Store) : Loop → Loop × Store × Option Bool
  | .free => match s.recordEvent produced (.int 1) with
    | .error fault => (.failed fault, s, none)
    | .ok recorded => (.busy, recorded, none)
  | .busy => match put? queue limit s with
    | none => (.free, s, some false)
    | some offered => (.free, offered, some true)
  | .failed fault => (.failed fault, s, none)

/-- The next step of the consumer. While there is no event it stays where it is. -/
def consumerStep (processed : Ref) (s : Store) : Loop → Loop × Store
  | .free => match take? queue s with
    | none => (.free, s)
    | some taken => (.busy, taken)
  | .busy => match s.recordEvent processed (.int 1) with
    | .error fault => (.failed fault, s)
    | .ok recorded => (.free, recorded)
  | .failed fault => (.failed fault, s)

/-- Producers and a consumer at one backlog. -/
structure Loops where
  store : Store
  producers : List Loop
  consumer : Loop := .free
  /-- What came of each offer so far: whether it found room. -/
  offers : List Bool := []

namespace Loops

/-- So many producers and a consumer before their first steps. -/
def start (s : Store) (producers : Nat) : Loops where
  store := s
  producers := List.replicate producers .free

/-- The producer at a place makes its next step, if there is one. -/
def stepProducer (limit : Nat) (produced : Ref) (index : Nat) (l : Loops) : Loops :=
  match l.producers[index]? with
  | none => l
  | some loop =>
    let (loop, store, offer) := producerStep queue limit produced l.store loop
    { l with store, producers := l.producers.set index loop, offers := l.offers ++ offer.toList }

/-- The consumer makes its next step. -/
def stepConsumer (processed : Ref) (l : Loops) : Loops :=
  let (consumer, store) := consumerStep queue processed l.store l.consumer
  { l with store, consumer }

/-- The number of offers that found room. -/
def puts (l : Loops) : Nat := l.offers.count true

/-- The number of offers that were dropped. -/
def drops (l : Loops) : Nat := l.offers.count false

/-- The number of events that were recorded as produced, but not offered yet. -/
def pending (l : Loops) : Nat := l.producers.countP Loop.isBusy

/-- The number of events that were taken, but not recorded as processed yet. -/
def held (l : Loops) : Nat := l.consumer.isBusy.toNat

end Loops

/-! ### The bound of the backlog -/

variable {queue}

theorem put?_eq_some {limit : Nat} {s t : Store} (h : put? queue limit s = some t) :
    (limit = 0 ∨ s.backlog queue < limit) ∧ t = s.resize queue (s.backlog queue + 1) := by
  unfold put? at h
  split at h
  · next hroom =>
    cases h
    exact ⟨hroom, rfl⟩
  · cases h

theorem take?_eq_some {s t : Store} (h : take? queue s = some t) :
    s.backlog queue ≠ 0 ∧ t = s.resize queue (s.backlog queue - 1) := by
  unfold take? at h
  split at h
  · cases h
  · next hsome =>
    cases h
    exact ⟨hsome, rfl⟩

theorem backlog_put_le {s : Store} (h : s.backlog queue ≤ backlogLimit) :
    (put queue s).backlog queue ≤ backlogLimit := by
  unfold put
  cases hput : put? queue backlogLimit s with
  | none => exact h
  | some t =>
    obtain ⟨hzero | hroom, rfl⟩ := put?_eq_some hput
    · cases hzero
    · exact Nat.le_trans (s.backlog_resize_le queue _) hroom

theorem backlog_take?_le {s t : Store} (h : take? queue s = some t) :
    t.backlog queue ≤ s.backlog queue := by
  obtain ⟨-, rfl⟩ := take?_eq_some h
  exact Nat.le_trans (s.backlog_resize_le queue _) (Nat.sub_le _ _)

/-- Producing keeps the backlog within its bound, however many passes there are. -/
theorem backlog_produce_le (produced : Ref) (passes : Nat) {s : Store}
    (h : s.backlog queue ≤ backlogLimit) :
    (produce queue produced passes s).1.backlog queue ≤ backlogLimit := by
  induction passes generalizing s with
  | zero => exact h
  | succ passes ih =>
    rw [produce]
    cases hrecord : s.recordEvent produced (.int 1) with
    | error fault =>
      rw [produceOnce, hrecord]
      exact h
    | ok recorded =>
      rw [produceOnce, hrecord]
      -- recording leaves the backlog alone, so that only the offer counts
      have hsame := Store.backlog_congr (Store.backlogs_recordEvent hrecord) queue
      exact ih (backlog_put_le (hsame ▸ h))

theorem backlog_consumeOnce_le (processed : Ref) (s : Store) :
    (consumeOnce queue processed s).2.backlog queue ≤ s.backlog queue := by
  rw [consumeOnce]
  split
  · exact Nat.le_refl _
  · next taken htake =>
    have hless := backlog_take?_le htake
    split
    · exact hless
    · next recorded hrecord =>
      have hsame := Store.backlog_congr (Store.backlogs_recordEvent hrecord) queue
      exact Nat.le_trans (Nat.le_of_eq hsame) hless

/-- Consuming never adds to the backlog, however many passes there are. -/
theorem backlog_consume_le (processed : Ref) (passes : Nat) (s : Store) :
    (consume queue processed passes s).1.backlog queue ≤ s.backlog queue := by
  induction passes generalizing s with
  | zero => exact Nat.le_refl _
  | succ passes ih =>
    have hpass : (consumeOnce queue processed s).2.backlog queue ≤ s.backlog queue :=
      backlog_consumeOnce_le processed s
    rw [consume]
    split
    · next hfailed =>
      rw [hfailed] at hpass
      exact hpass
    · next hdone =>
      rw [hdone] at hpass
      exact Nat.le_trans (ih _) hpass

end Backlog

/-! ### The schedule -/

def pauseRun (pause : Binary64) (count : Nat) : List (Binary64 × Nat) :=
  if count = 0 then [] else [(pause, count)]

def rounds (reg : Registry) : Nat → World → World
  | 0, w => w
  | n + 1, w => rounds reg n (reg.updateViews w)

/-- One turn without its snapshot. A rate without a pause ends the producer's turn at once. -/
def takeTurn (load : Workload) (reg : Registry) (queue : Nat) (produced processed : Ref)
    (w : World) : Turn → Option (List (Binary64 × Nat)) × Option Fault × World
  | .tick n => (none, none, rounds reg n w)
  | .producer _ passes => match producerPause load.eventsPerSecond with
    | .error fault => (some [], some fault, w)
    | .ok pause =>
      let (store, done, fault) := produce queue produced passes w.store
      (some (pauseRun pause done), fault, { w with store })
  | .consumer passes =>
    let (store, done, fault) := consume queue processed passes w.store
    (some (pauseRun consumerPause done), fault, { w with store })

/-- All turns, with a snapshot behind each. A snapshot that fails ends the schedule. -/
def takeTurns (load : Workload) (reg : Registry) (queue : Nat) (produced processed : Ref) :
    List Turn → World → List TurnTrace × Option Fault × World
  | [], w => ([], none, w)
  | turn :: rest, w =>
    let (pauses, fault, w) := takeTurn load reg queue produced processed w turn
    match reg.snapshot w with
    | (.error failure, w) => ([], some failure, w)
    | (.ok snapshot, w) =>
      let (turns, ended, w) := takeTurns load reg queue produced processed rest w
      ({ snapshot, pauses, fault } :: turns, ended, w)

/-! ### Running a workload -/

def producerCount : Value → Except Fault Nat
  | .int n => .ok n.toNat
  | .bool b => .ok b.toNat
  | v => .error (.notCount v.typeName)

def logger : String := "monitor"

/-- Register the four metrics of a workload, two of which follow its backlog. The references of the
meters of produced and processed events are returned. -/
def registerAll (reg : Registry) (queue : Nat) (w : World) :
    Except Fault (Ref × Ref) × Registry × World :=
  match reg.meter "events.produced" none .null w with
  | (.error fault, reg, w) => (.error fault, reg, w)
  | (.ok produced, reg, w) => match reg.meter "events.processed" none .null w with
    | (.error fault, reg, w) => (.error fault, reg, w)
    | (.ok processed, reg, w) => match reg.gauge "backlog.size" (.function (.backlog queue)) w with
      | (.error fault, reg, w) => (.error fault, reg, w)
      | (.ok _, reg, w) =>
        match reg.gaugeMeter "backlog.growth" (.function (.backlog queue)) .null w with
        | (.error fault, reg, w) => (.error fault, reg, w)
        | (.ok _, reg, w) => (.ok (produced, processed), reg, w)

/-- The count of a meter as a message shows it. -/
def countText (s : Store) (meter : Ref) : String :=
  match (s.meterCount meter).1 with
  | .ok n => n.value.text
  | .error fault => fault.message

/-- The last report of a workload: the registry is closed whether it succeeds or not. -/
def finish (reg : Registry) (ended : Option Fault) (now : Value) (w : World) :
    Except Fault (Table Value) × Registry × World :=
  match ended with
  | some fault =>
    let (reg, w) := reg.close w
    (.error fault, reg, w)
  | none =>
    let (reported, reg, w) := reg.report now w
    let (reg, w) := reg.close w
    (reported.map Event.metrics, reg, w)

/-- In the end the registry has no sinks. -/
theorem sinks_finish (reg : Registry) (ended : Option Fault) (now : Value) (w : World) :
    (finish reg ended now w).2.1.sinks = [] := by
  cases ended <;> rfl

/-- In the end the registry is not started. -/
theorem started_finish (reg : Registry) (ended : Option Fault) (now : Value) (w : World) :
    (finish reg ended now w).2.1.started = false := by
  cases ended <;> rfl

/-- The longest time that can be slept, in seconds. The clock counts nanoseconds in 64 bits. -/
def longestSleep : Binary64 := Binary64.ofQuotient 0x8000000000000000 1000000000

/-- What sleeping for a time fails with, if it does. -/
def sleepFault (time : Value) : Option Fault :=
  match Number.ofValue? time with
  | none => some (.notCount time.typeName)
  | some n =>
    if !n.isNumber then some (.raised "ValueError" "Invalid value NaN (not a number)")
    else if !n.less (.float longestSleep) || n.less (.float longestSleep.neg) then
      some (.raised "OverflowError" (match n with
        | .int _ => "timestamp too large to convert to C _PyTime_t"
        | .float _ => "timestamp out of range for platform time_t"))
    else if n.less (.int 0) then some (.raised "ValueError" "sleep length must be non-negative")
    else none

/-- Run a workload at a backlog by a schedule. Meanwhile it sleeps for its duration; if that fails,
or is interrupted, it ends as it does by a snapshot that fails. -/
def runAt (load : Workload) (queue : Nat) (reg : Registry) (schedule : List Turn) (now : Value)
    (w : World) (sleep : Value → Option Fault := sleepFault) : WorkloadRun :=
  match registerAll reg queue w with
  | (.error fault, reg, world) => { result := .error fault, registry := some reg, world }
  | (.ok (produced, processed), reg, w) => match producerCount load.producers with
    | .error fault => { result := .error fault, registry := some reg, world := w }
    | .ok producers => match reg.start w with
      | (.error fault, reg, world) =>
        { workers := producers + 1, result := .error fault, registry := some reg, world }
      | (.ok (), reg, w) =>
        let (turns, ended, w) := takeTurns load reg queue produced processed schedule w
        let (result, reg, w) := finish reg (ended <|> sleep load.duration) now w
        let world := match result with
          | .error _ => w
          | .ok _ =>
            { w with
              host := w.host.log logger Level.info
                ("Produced " ++ countText w.store produced ++ " events, processed "
                  ++ countText w.store processed ++ " events") }
        { workers := producers + 1, duration := some load.duration, turns, result,
          registry := some reg, world }

/-- A world with one backlog more, which is empty. -/
def withBacklog (w : World) : World := { w with store := w.store.newBacklog.2 }

/-- Run a workload by a schedule, at a backlog of its own. -/
def run (load : Workload) (reg : Registry) (schedule : List Turn) (now : Value) (w : World)
    (sleep : Value → Option Fault := sleepFault) : WorkloadRun :=
  load.runAt w.store.newBacklog.1 reg schedule now (withBacklog w) sleep

/-- A workload from a value that holds its options. -/
def ofValue (v : Value) : Except Fault Workload := do
  ofOptions (← v.toOptions (logger ++ "." ++ owner))

/-- Build a registry, then a workload, and run it. -/
def runWith (settings : Except Fault Settings) (load : Except Fault Workload)
    (schedule : List Turn) (now : Value) (host : Host)
    (sleep : Value → Option Fault := sleepFault) : WorkloadRun :=
  match settings with
  | .error fault => { result := .error fault, world := { host } }
  | .ok settings => match Registry.create settings [] host with
    | (.error fault, host) => { result := .error fault, world := { host } }
    | (.ok reg, host) => match load with
      | .error fault => { result := .error fault, registry := some reg, world := { host } }
      | .ok load => load.run reg schedule now { host } sleep

/-- Run the workload with the given options on a registry with the given settings. -/
def runValues (registry workload : Value) (schedule : List Turn) (now : Value) (host : Host)
    (sleep : Value → Option Fault := sleepFault) : WorkloadRun :=
  runWith (Settings.ofValue host.processInterval registry) (ofValue workload) schedule now host sleep

end Workload

end Telemetry
