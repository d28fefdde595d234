import Telemetry.Window

/-!
# The store of metrics

Metrics are shared: several meters may follow one counter, and one metric may be registered under
several names. They therefore live in a store, and are passed around as references into it. All
operations on a metric are functions of the store; reading a function gauge may change what its next
reading is, so reading returns a store too.

Updaters and registries have references too, because they may be offered where a metric is expected.
The store knows no more of them than that they are no metrics.

Main statements: `get?_set` (setting changes one metric), `get?_alloc` (a new metric is found under
its reference and changes no other).
-/

namespace Telemetry

/-- A reference to a metric of the store. -/
abbrev Ref := Nat

/-- What a scripted function answers when it is called. -/
inductive Answer where
  | value (v : Value)
  | fault (kind detail : String)

/-- What a function gauge reads. It is kept outside of the metric system: a gauge reads and changes no
metric, and its answers depend on how often it was called and on nothing else that is done here, or
they are the size of a backlog. -/
inductive Source where
  /-- Answers, one per call; the last is given for ever. -/
  | script (answers : List Answer)
  /-- The size of a backlog. -/
  | backlog (queue : Nat)

/-- A metric, or an object that may be offered in place of one. -/
inductive Metric where
  /-- An accumulator. -/
  | counter (count : Number)
  /-- A gauge that holds the last value it was set to. -/
  | settable (value : Value)
  /-- A gauge that is computed on every reading. -/
  | function (source : Source)
  /-- The reading side of a counter, over a gauge. -/
  | gaugeCounter (gauge : Ref)
  /-- The rate of a counter over a window. -/
  | meter (counter : Ref) (window : Window)
  /-- A view that counts how often it is sampled, and may fail each time. -/
  | view (failure : Option String) (calls : Nat)
  /-- A metric that reads nothing. -/
  | marker
  /-- An updater, which is no metric, by its place among updaters. -/
  | updater (index : Nat)
  /-- A registry, which is no metric, by its place among registries. -/
  | registry (index : Nat)

namespace Metric

/-- The kind of a metric, as messages give it. -/
def typeName : Metric → String
  | counter _ => "SimpleCounter"
  | settable _ => "SettableGauge"
  | function _ => "FunctionGauge"
  | gaugeCounter _ => "GaugeCounter"
  | meter _ _ => "MeterView"
  | view _ _ => "View"
  | marker => "Marker"
  | updater _ => "ViewUpdater"
  | registry _ => "MetricRegistry"

/-- Whether an object is a metric at all. -/
def isMetric : Metric → Bool
  | updater _ | registry _ => false
  | _ => true

/-- Whether a metric is refreshed by sampling. -/
def isView : Metric → Bool
  | meter _ _ | view _ _ => true
  | _ => false

def isGauge : Metric → Bool
  | settable _ | function _ => true
  | _ => false

end Metric

/-- All metrics by reference, and the sizes of the backlogs that gauges may follow. -/
structure Store where
  metrics : Array Metric := #[]
  backlogs : Array Nat := #[]

/-- An array in which one place was set, if there is such a place. -/
theorem getElem?_setIfInBounds_eq {α : Type} (xs : Array α) (i : Nat) (a : α) (k : Nat) :
    (xs.setIfInBounds i a)[k]? = if i = k then xs[i]?.map fun _ => a else xs[k]? := by
  rw [Array.getElem?_setIfInBounds]
  split
  · next h =>
    subst h
    by_cases hlt : i < xs.size <;> simp [hlt]
  · rfl

namespace Store

def get? (s : Store) (r : Ref) : Option Metric := s.metrics[r]?

/-- Put a metric in the place of another. -/
def set (s : Store) (r : Ref) (m : Metric) : Store :=
  { s with metrics := s.metrics.setIfInBounds r m }

/-- Add a metric; its reference is returned. -/
def alloc (s : Store) (m : Metric) : Ref × Store :=
  (s.metrics.size, { s with metrics := s.metrics.push m })

/-- Setting changes one metric. -/
theorem get?_set (s : Store) (r : Ref) (m : Metric) (k : Ref) :
    (s.set r m).get? k = if r = k then (s.get? r).map fun _ => m else s.get? k :=
  getElem?_setIfInBounds_eq s.metrics r m k

/-- A new metric is found under its reference, and changes no other. -/
theorem get?_alloc (s : Store) (m : Metric) (k : Ref) :
    (s.alloc m).2.get? k = if k = (s.alloc m).1 then some m else s.get? k :=
  Array.getElem?_push

/-- The fault of an operation that the metric behind a reference does not have. -/
def noOperation (s : Store) (r : Ref) (operation : String) : Fault :=
  .noOperation (((s.get? r).map Metric.typeName).getD "NoneType") operation

/-! ### Backlogs -/

/-- The size of a backlog. -/
def backlog (s : Store) (queue : Nat) : Nat := s.backlogs[queue]?.getD 0

/-- A new backlog, which is empty. -/
def newBacklog (s : Store) : Nat × Store :=
  (s.backlogs.size, { s with backlogs := s.backlogs.push 0 })

def resize (s : Store) (queue size : Nat) : Store :=
  { s with backlogs := s.backlogs.setIfInBounds queue size }

theorem backlogs_newBacklog (s : Store) : s.newBacklog.2.backlogs[s.newBacklog.1]? = some 0 :=
  Array.getElem?_push_size

/-- A backlog takes the size that it is given, and the others keep theirs. -/
theorem backlogs_resize (s : Store) (queue size other : Nat) :
    (s.resize queue size).backlogs[other]? =
      if queue = other then s.backlogs[queue]?.map fun _ => size else s.backlogs[other]? :=
  getElem?_setIfInBounds_eq s.backlogs queue size other

theorem size_backlogs_resize (s : Store) (queue size : Nat) :
    (s.resize queue size).backlogs.size = s.backlogs.size := Array.size_setIfInBounds

theorem backlog_resize {s : Store} {queue : Nat} (h : queue < s.backlogs.size) (size : Nat) :
    (s.resize queue size).backlog queue = size := by
  rw [backlog, backlogs_resize, if_pos rfl, Array.getElem?_eq_getElem h]
  rfl

theorem backlog_resize_le (s : Store) (queue size : Nat) :
    (s.resize queue size).backlog queue ≤ size := by
  rw [backlog, backlogs_resize, if_pos rfl]
  cases s.backlogs[queue]? with
  | none => exact Nat.zero_le size
  | some before => exact Nat.le_refl size

theorem backlog_congr {s t : Store} (h : t.backlogs = s.backlogs) (queue : Nat) :
    t.backlog queue = s.backlog queue := by
  rw [backlog, backlog, h]

/-! ### Reading -/

/-- The answer of a source, and the source as it is for the next call. A script without answers
fails at every call. -/
def callSource (s : Store) : Source → Except Fault Value × Source
  | .script [] => (.error (.raised "IndexError" "list index out of range"), .script [])
  | .script (answer :: rest) =>
    (match answer with
      | .value v => .ok v
      | .fault kind detail => .error (.raised kind detail),
     .script (if rest.isEmpty then [answer] else rest))
  | .backlog queue => (.ok (.int (s.backlog queue)), .backlog queue)

def value (s : Store) (r : Ref) : Except Fault Value × Store :=
  match s.get? r with
  | some (.settable v) => (.ok v, s)
  | some (.function source) =>
    let (answer, source) := s.callSource source
    (answer, s.set r (.function source))
  | _ => (.error (s.noOperation r "get_value"), s)

/-- Read a counter. A counter over a gauge reads the gauge's value narrowed to 64 bits. -/
def count (s : Store) (r : Ref) : Except Fault Number × Store :=
  match s.get? r with
  | some (.counter count) => (.ok count, s)
  | some (.gaugeCounter gauge) =>
    let (answer, s) := s.value gauge
    (do return .int (← (← answer).clamped), s)
  | _ => (.error (s.noOperation r "get_count"), s)

def meterCount (s : Store) (r : Ref) : Except Fault Number × Store :=
  match s.get? r with
  | some (.meter counter _) => s.count counter
  | _ => (.error (s.noOperation r "current_count"), s)

/-- The rate of a meter, as of its last sample. -/
def meterRate (s : Store) (r : Ref) : Except Fault Binary64 :=
  match s.get? r with
  | some (.meter _ window) => .ok window.rate
  | _ => .error (s.noOperation r "current_rate")

/-- A count as messages show it, unless it is too long. -/
def countText (count : Number) : Except Fault String :=
  if count.value.isWritable then .ok count.value.text else .error .integerTooLong

/-- A metric as messages show it. The count of a meter is read for that. -/
def describe (s : Store) (r : Ref) : Except Fault String × Store :=
  match s.get? r with
  | some (.counter count) =>
    (do return "SimpleCounter(count=" ++ (← countText count) ++ ")", s)
  | some (.meter counter window) =>
    let (count, s) := s.count counter
    (do return "MeterView(time_span_seconds=" ++ Value.intText window.span ++ ", count="
          ++ (← countText (← count)) ++ ", rate=" ++ window.rate.thousandths ++ ")", s)
  | some (.view _ calls) => (.ok ("View(" ++ Value.intText calls ++ ")"), s)
  | some m => (.ok ("<" ++ m.typeName ++ ">"), s)
  | none => (.error (s.noOperation r "describe"), s)

/-! ### Changing -/

/-- The two ways to change a counter. -/
inductive Change where
  | increase
  | decrease
  deriving DecidableEq

def Change.operator : Change → String
  | increase => "+="
  | decrease => "-="

def Change.verb : Change → String
  | increase => "increment"
  | decrease => "decrement"

def Change.operation : Change → String
  | increase => "inc"
  | decrease => "dec"

def Change.apply : Change → Number → Number → Except Fault Number
  | increase => Number.add
  | decrease => Number.sub

/-- Change a counter by an amount. A counter over a gauge cannot be changed. -/
def change (s : Store) (c : Change) (r : Ref) (amount : Value) : Except Fault Store :=
  match s.get? r with
  | some (.counter count) =>
    match Number.ofValue? amount with
    | some n => do return s.set r (.counter (← c.apply count n))
    | none => .error (.badOperands c.operator count.typeName amount.typeName)
  | some (.gaugeCounter _) => .error (.readOnlyCounter c.verb)
  | _ => .error (s.noOperation r c.operation)

/-- Record events on a meter: its counter is increased. -/
def recordEvent (s : Store) (r : Ref) (amount : Value) : Except Fault Store :=
  match s.get? r with
  | some (.meter counter _) => s.change .increase counter amount
  | _ => .error (s.noOperation r "record_event")

theorem backlogs_change {s t : Store} {c : Change} {r : Ref} {amount : Value}
    (h : s.change c r amount = .ok t) : t.backlogs = s.backlogs := by
  unfold change at h
  split at h
  · next count _ =>
    split at h
    · next n _ =>
      cases hsum : c.apply count n with
      | error fault => rw [hsum] at h; cases h
      | ok sum => rw [hsum] at h; cases h; rfl
    · cases h
  · cases h
  · cases h

theorem backlogs_recordEvent {s t : Store} {r : Ref} {amount : Value}
    (h : s.recordEvent r amount = .ok t) : t.backlogs = s.backlogs := by
  unfold recordEvent at h
  split at h
  · exact backlogs_change h
  · cases h

def assign (s : Store) (r : Ref) (v : Value) : Except Fault Store :=
  match s.get? r with
  | some (.settable _) => .ok (s.set r (.settable v))
  | _ => .error (s.noOperation r "set")

/-- Sample a view. A meter reads its counter, and then takes a sample of its window; if the counter
cannot be read, the window stays. -/
def sample (s : Store) (r : Ref) : Except Fault Unit × Store :=
  match s.get? r with
  | some (.meter counter window) =>
    match s.count counter with
    | (.error fault, s) => (.error fault, s)
    | (.ok reading, s) =>
      let (result, window) := window.sample reading
      (result, s.set r (.meter counter window))
  | some (.view failure calls) =>
    (match failure with
      | none => .ok ()
      | some detail => .error (.raised "ZeroDivisionError" detail),
     s.set r (.view failure (calls + 1)))
  | _ => (.error (s.noOperation r "sample"), s)

/-! ### Building -/

/-- A counter with an initial count, any value that stands for an integer. -/
def newCounter (s : Store) (initial : Value) : Except Fault (Ref × Store) := do
  return s.alloc (.counter (.int (← initial.toInteger)))

/-- What is offered where a gauge is expected. -/
inductive Offer where
  /-- An object of the store. -/
  | metric (r : Ref)
  /-- A function. -/
  | function (source : Source)
  /-- A value, which is no function. -/
  | value (v : Value)

/-- The gauge that is offered: a function becomes a function gauge. -/
def gaugeOf (s : Store) : Offer → Except Fault (Ref × Store)
  | .metric r =>
    if ((s.get? r).map Metric.isGauge).getD false then .ok (r, s) else .error .gaugeNotCallable
  | .function source => .ok (s.alloc (.function source))
  | .value _ => .error .gaugeNotCallable

/-- A meter over a counter, or over a counter of its own. -/
def newMeter (s : Store) (room : Nat) (counter : Option Ref) (span interval : Value) :
    Except Fault (Ref × Store) := do
  let window ← Window.create room span interval
  match counter with
  | some counter => return s.alloc (.meter counter window)
  | none =>
    let (counter, s) := s.alloc (.counter (.int 0))
    return s.alloc (.meter counter window)

/-- A meter of the rate of change of a gauge. -/
def newGaugeMeter (s : Store) (room : Nat) (gauge : Ref) (span interval : Value) :
    Except Fault (Ref × Store) := do
  let window ← Window.create room span interval
  let (counter, s) := s.alloc (.gaugeCounter gauge)
  return s.alloc (.meter counter window)

/-! ### Snapshots -/

/-- The entries that a metric contributes to a snapshot: two for a meter, one for a counter or a
gauge, none for anything else. -/
def readings (s : Store) (name : String) (r : Ref) : Except Fault (Table Value) × Store :=
  match s.get? r with
  | some (.meter counter window) =>
    let (count, s) := s.count counter
    (do return [(name ++ ".count", (← count).value), (name ++ ".rate", .float window.rate)], s)
  | some (.counter _) | some (.gaugeCounter _) =>
    let (count, s) := s.count r
    (do return [(name, (← count).value)], s)
  | some (.settable _) | some (.function _) =>
    let (value, s) := s.value r
    (do return [(name, ← value)], s)
  | _ => (.ok [], s)

/-- The values of named metrics, added to `values`. The first metric that cannot be read ends the
snapshot; the metrics before it have been read. -/
def snapshotFrom (values : Table Value) : List (String × Ref) → Store →
    Except Fault (Table Value) × Store
  | [], s => (.ok values, s)
  | (name, r) :: rest, s =>
    match s.readings name r with
    | (.error fault, s) => (.error fault, s)
    | (.ok entries, s) =>
      snapshotFrom (entries.foldl (fun t p => Table.set t p.1 p.2) values) rest s

/-- The values of named metrics. A key that comes up again takes the later value in the earlier
place. -/
def snapshot (s : Store) (named : Table Ref) : Except Fault (Table Value) × Store :=
  snapshotFrom [] named s

end Store

end Telemetry
