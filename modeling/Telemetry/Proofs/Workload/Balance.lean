import Telemetry.Proofs.Registry.Call
import Telemetry.Proofs.Store.Counting
import Telemetry.Workload

/-!
# A workload loses no event unseen

Producers and the consumer are loops that run side by side. A pass of a producer is two steps: it
records an event, and then offers it to the backlog, which drops it if it is full. A pass of the
consumer is two steps as well: it takes an event out, and then records it. Between any two steps of
one loop others may make theirs, and the workers of a registry may sample and read; and a loop may
stop anywhere. So at any time some events were recorded and not offered yet, and one may have been
taken and not recorded yet.

With these counted, nothing is lost.

* `Balanced` says so, and `Balanced.move` that every step keeps it.
* `balance_of_moves` says what follows for all courses.
* `metered_of_registerAll` says that a workload begins with counts of zero.
* `rests_takeTurns` says that its turns by a schedule are a course.
-/

namespace Telemetry

namespace Store

/-! ## Actions beside the loops -/

/-- Whether an action changes neither counters nor backlogs. -/
def Action.isAside : Action → Bool
  | .change _ _ _ | .recordEvent _ _ | .backlogs _ => false
  | _ => true

theorem Action.isChange_of_isAside {a : Action} (h : a.isAside = true) : a.isChange = false := by
  cases a with
  | change | recordEvent => cases h
  | _ => rfl

theorem Read.backlogs_eq {s t : Store} (h : s.Read t) : t.backlogs = s.backlogs := by
  cases h <;> rfl

theorem backlogs_act {a : Action} (h : a.isAside = true) (s : Store) :
    (s.act a).backlogs = s.backlogs := by
  have hacts := s.acts a
  revert hacts
  generalize s.act a = t
  intro hacts
  cases hacts with
  | adds m => rfl
  | reads hread => exact hread.backlogs_eq
  | changes after hchange _ =>
      rw [Action.isChange_of_isAside h] at hchange
      cases hchange
  | assigns after _ => rfl
  | samples hread _ _ _ => exact hread.backlogs_eq
  | resizes sizes => cases h

/-! ## Meters and their counts -/

/-- A meter over a counter that shows so many events. -/
structure Metered (s : Store) (meter counter : Ref) (n : Nat) : Prop where
  meter : ∃ window, s.get? meter = some (.meter counter window)
  counter : s.get? counter = some (.counter (.int n))

variable {s t : Store} {meter counter : Ref} {n : Nat}

theorem Metered.meterCount (h : s.Metered meter counter n) :
    (s.meterCount meter).1 = .ok (.int n) := by
  obtain ⟨window, hmeter⟩ := h.meter
  simp only [Store.meterCount, hmeter, count, h.counter]

theorem Metered.act (h : s.Metered meter counter n) {a : Action} (ha : a.isAside = true) :
    (s.act a).Metered meter counter n := by
  obtain ⟨window, hmeter⟩ := h.meter
  obtain ⟨m, hm, hbecomes⟩ := (s.acts a).grows meter _ hmeter
  cases hbecomes with
  | meter _ _ _ =>
      exact ⟨⟨_, hm⟩, (s.acts a).get?_counter (Action.isChange_of_isAside ha) h.counter⟩

/-- A meter shows the same in stores with the same metrics. -/
theorem Metered.of_metrics (h : s.Metered meter counter n) (hsame : t.metrics = s.metrics) :
    t.Metered meter counter n := by
  have hget : ∀ r, t.get? r = s.get? r := fun r => by rw [get?, get?, hsame]
  obtain ⟨window, hmeter⟩ := h.meter
  exact ⟨⟨window, by rw [hget, hmeter]⟩, by rw [hget, h.counter]⟩

/-- What is done aside leaves the counts of meters and the backlogs alone. -/
theorem ReachesBy.aside (h : s.ReachesBy (·.isAside = true) t) :
    t.backlogs = s.backlogs ∧ ∀ {meter counter : Ref} {n : Nat},
      s.Metered meter counter n → t.Metered meter counter n := by
  obtain ⟨actions, hactions, rfl⟩ := h
  induction actions generalizing s with
  | nil => exact ⟨rfl, id⟩
  | cons a rest ih =>
      rw [List.forall_mem_cons] at hactions
      obtain ⟨hbacklogs, hmetered⟩ := ih (s := s.act a) hactions.2
      exact ⟨hbacklogs.trans (s.backlogs_act hactions.1), fun h => hmetered (h.act hactions.1)⟩

/-- A new meter with a counter of its own shows no events. -/
theorem metered_newMeter {room : ℕ} {span interval : Value}
    (h : s.newMeter room none span interval = .ok (meter, t)) : t.Metered meter s.metrics.size 0 := by
  obtain ⟨window, -, h⟩ := Fault.bind_eq_ok.mp h
  let fresh := s.alloc (.counter (.int 0))
  have hcounter : fresh.2.get? fresh.1 = some (.counter (.int 0)) := by
    rw [get?_alloc, if_pos rfl]
  have hmeter : (fresh.2.alloc (.meter fresh.1 window)).2.get?
      (fresh.2.alloc (.meter fresh.1 window)).1 = some (.meter fresh.1 window) := by
    rw [get?_alloc, if_pos rfl]
  cases h
  exact ⟨⟨window, hmeter⟩, get?_alloc_of_some hcounter _⟩

/-- **Recording an event succeeds.** It adds one to the count, and leaves the counts of other meters
and the backlogs alone. -/
theorem Metered.recordEvent (h : s.Metered meter counter n) :
    ∃ t, s.recordEvent meter (.int 1) = .ok t ∧ t.Metered meter counter (n + 1) ∧
      t.backlogs = s.backlogs ∧ ∀ {other below : Ref} {k : Nat}, below ≠ counter →
        s.Metered other below k → t.Metered other below k := by
  obtain ⟨window, hmeter⟩ := h.meter
  refine ⟨s.set counter (.counter (.int (n + 1 : Nat))), ?_, ⟨?_, ?_⟩, rfl, ?_⟩
  · simp only [Store.recordEvent, hmeter]
    have hone : (Value.int 1).integer? = some 1 := rfl
    exact change_integer h.counter hone .increase
  · exact ⟨window, get?_set_of_other hmeter h.counter nofun _⟩
  · rw [get?_set, if_pos rfl, h.counter]
    rfl
  · rintro other below k hne ⟨⟨window', hother⟩, hbelow⟩
    refine ⟨⟨window', get?_set_of_other hother h.counter nofun _⟩, ?_⟩
    rw [get?_set, if_neg hne.symm, hbelow]

end Store

namespace Workload

/-! ## Courses -/

/-- Who makes a step. -/
inductive Move where
  | producer (index : Nat)
  | consumer
  /-- Somebody else, who leaves counters and backlogs alone. -/
  | aside (action : Store.Action) (h : action.isAside = true)

namespace Loops

section

variable (limit queue : Nat) (produced processed : Ref)

/-- One step. -/
def move (l : Loops) : Move → Loops
  | .producer index => l.stepProducer queue limit produced index
  | .consumer => l.stepConsumer queue processed
  | .aside action _ => { l with store := l.store.act action }

/-- A course: any steps in any order. What makes no step any more has stopped. -/
def moves (l : Loops) (course : List Move) : Loops :=
  course.foldl (move limit queue produced processed) l

end

/-! ## The balance -/

/-- All events are accounted for, and no loop has failed. -/
structure Balanced (limit queue : Nat) (produced processed made done : Ref) (l : Loops) : Prop where
  apart : made ≠ done
  /-- What was recorded was offered with one of two outcomes, or is still to be offered. -/
  produced : l.store.Metered produced made (l.puts + l.drops + l.pending)
  /-- What found room is in the backlog still, or was taken, and then recorded. -/
  processed : ∃ count, l.store.Metered processed done count ∧
    count + l.held + l.store.backlog queue = l.puts
  backlog : queue < l.store.backlogs.size
  bounded : limit = 0 ∨ l.store.backlog queue ≤ limit
  producers : ∀ loop ∈ l.producers, loop.hasFailed = false
  consumer : l.consumer.hasFailed = false

variable {limit queue : Nat} {produced processed made done : Ref} {l : Loops}

theorem balanced_start {s : Store} (hapart : made ≠ done) (hproduced : s.Metered produced made 0)
    (hprocessed : s.Metered processed done 0) (hempty : s.backlogs[queue]? = some 0)
    (producers : Nat) :
    (start s producers).Balanced limit queue produced processed made done := by
  have hbacklog : s.backlog queue = 0 := by
    rw [Store.backlog, hempty]
    rfl
  refine ⟨hapart, ?_, ⟨0, hprocessed, ?_⟩, (Array.getElem?_eq_some_iff.mp hempty).1, .inr ?_, ?_, rfl⟩
  · have hnone : (start s producers).pending = 0 := by
      rw [pending, start, List.countP_replicate]
      rfl
    rw [hnone]
    exact hproduced
  · rw [start, hbacklog]
    rfl
  · rw [start, hbacklog]
    exact Nat.zero_le limit
  · intro loop hloop
    rw [List.eq_of_mem_replicate hloop]
    rfl

theorem forall_mem_set {index : Nat} {loop : Loop} (h : ∀ a ∈ l.producers, a.hasFailed = false)
    (hloop : loop.hasFailed = false) :
    ∀ a ∈ l.producers.set index loop, a.hasFailed = false := by
  intro a ha
  rcases List.mem_or_eq_of_mem_set ha with hmem | rfl
  · exact h a hmem
  · exact hloop

/-- A producer that becomes busy has one event more to offer. -/
theorem countP_set_busy {producers : List Loop} {index : Nat}
    (h : producers[index]? = some .free) :
    (producers.set index .busy).countP Loop.isBusy = producers.countP Loop.isBusy + 1 := by
  obtain ⟨hlt, hfree⟩ := List.getElem?_eq_some_iff.mp h
  rw [List.countP_set hlt, hfree]
  rfl

theorem countP_set_free {producers : List Loop} {index : Nat}
    (h : producers[index]? = some .busy) :
    (producers.set index .free).countP Loop.isBusy + 1 = producers.countP Loop.isBusy := by
  obtain ⟨hlt, hbusy⟩ := List.getElem?_eq_some_iff.mp h
  have hsome : 0 < producers.countP Loop.isBusy :=
    List.countP_pos_iff.mpr ⟨_, List.getElem_mem hlt, by rw [hbusy]; rfl⟩
  rw [List.countP_set hlt, hbusy]
  show producers.countP Loop.isBusy - 1 + 0 + 1 = _
  omega

/-- A producer records an event. -/
theorem Balanced.move_record (h : l.Balanced limit queue produced processed made done) {index : Nat}
    (hfree : l.producers[index]? = some .free) :
    ∃ recorded, l.store.recordEvent produced (.int 1) = .ok recorded ∧
      Balanced limit queue produced processed made done
        { l with store := recorded, producers := l.producers.set index .busy } := by
  obtain ⟨recorded, hrecorded, hmade, hbacklogs, hothers⟩ := h.produced.recordEvent
  have hbacklog := Store.backlog_congr hbacklogs queue
  obtain ⟨count, hdone, hcount⟩ := h.processed
  refine ⟨recorded, hrecorded, h.apart, ?_, ⟨count, hothers h.apart.symm hdone, ?_⟩,
    hbacklogs ▸ h.backlog, ?_, forall_mem_set h.producers rfl, h.consumer⟩
  · have hpending := countP_set_busy hfree
    show recorded.Metered produced made (l.puts + l.drops + List.countP _ _)
    rw [hpending]
    exact hmade
  · show count + l.held + recorded.backlog queue = l.puts
    rw [hbacklog, hcount]
  · show limit = 0 ∨ recorded.backlog queue ≤ limit
    rw [hbacklog]
    exact h.bounded

/-- An offer makes one event that was to be offered one that was, whatever came of it. -/
theorem Balanced.total_offer (h : l.Balanced limit queue produced processed made done) {index : Nat}
    (hbusy : l.producers[index]? = some .busy) (room : Bool) :
    l.store.Metered produced made ((l.offers ++ [room]).count true +
      (l.offers ++ [room]).count false + (l.producers.set index .free).countP Loop.isBusy) := by
  have hpending := countP_set_free hbusy
  have hoffer : [room].count true + [room].count false = 1 := by cases room <;> rfl
  have hsame : (l.offers ++ [room]).count true + (l.offers ++ [room]).count false +
      (l.producers.set index .free).countP Loop.isBusy = l.puts + l.drops + l.pending := by
    rw [List.count_append, List.count_append, puts, drops, pending, ← hpending]
    omega
  rw [hsame]
  exact h.produced

/-- A producer offers an event, and it is put into the backlog. -/
theorem Balanced.move_put (h : l.Balanced limit queue produced processed made done) {index : Nat}
    (hbusy : l.producers[index]? = some .busy) {store : Store}
    (hput : put? queue limit l.store = some store) :
    Balanced limit queue produced processed made done
      { l with store, producers := l.producers.set index .free, offers := l.offers ++ [true] } := by
  obtain ⟨hroom, rfl⟩ := put?_eq_some hput
  obtain ⟨count, hdone, hcount⟩ := h.processed
  have hbacklog := Store.backlog_resize h.backlog (l.store.backlog queue + 1)
  refine ⟨h.apart, (h.total_offer hbusy true).of_metrics rfl, ⟨count, hdone.of_metrics rfl, ?_⟩,
    (Store.size_backlogs_resize ..).symm ▸ h.backlog, ?_, forall_mem_set h.producers rfl, h.consumer⟩
  · show count + l.held + (l.store.resize queue _).backlog queue = (l.offers ++ [true]).count true
    rw [hbacklog, List.count_append, ← Nat.add_assoc, hcount]
    rfl
  · show limit = 0 ∨ (l.store.resize queue _).backlog queue ≤ limit
    rw [hbacklog]
    exact hroom

/-- A producer offers an event, and it is dropped. -/
theorem Balanced.move_drop (h : l.Balanced limit queue produced processed made done) {index : Nat}
    (hbusy : l.producers[index]? = some .busy) :
    Balanced limit queue produced processed made done
      { l with producers := l.producers.set index .free, offers := l.offers ++ [false] } := by
  obtain ⟨count, hdone, hcount⟩ := h.processed
  refine ⟨h.apart, h.total_offer hbusy false, ⟨count, hdone, ?_⟩, h.backlog, h.bounded,
    forall_mem_set h.producers rfl, h.consumer⟩
  show count + l.held + l.store.backlog queue = (l.offers ++ [false]).count true
  rw [List.count_append, hcount]
  rfl

/-- The consumer takes an event. -/
theorem Balanced.move_take (h : l.Balanced limit queue produced processed made done)
    (hfree : l.consumer = .free) {store : Store} (htake : take? queue l.store = some store) :
    Balanced limit queue produced processed made done { l with store, consumer := .busy } := by
  obtain ⟨hsome, rfl⟩ := take?_eq_some htake
  obtain ⟨count, hdone, hcount⟩ := h.processed
  have hbacklog := Store.backlog_resize h.backlog (l.store.backlog queue - 1)
  refine ⟨h.apart, h.produced.of_metrics rfl, ⟨count, hdone.of_metrics rfl, ?_⟩,
    (Store.size_backlogs_resize ..).symm ▸ h.backlog, ?_, h.producers, rfl⟩
  · rw [held, hfree] at hcount
    show count + 1 + (l.store.resize queue _).backlog queue = l.puts
    have hnone : Loop.free.isBusy.toNat = 0 := rfl
    omega
  · show limit = 0 ∨ (l.store.resize queue _).backlog queue ≤ limit
    exact h.bounded.imp_right (by omega)

/-- The consumer records an event. -/
theorem Balanced.move_recordTaken (h : l.Balanced limit queue produced processed made done)
    (hbusy : l.consumer = .busy) :
    ∃ recorded, l.store.recordEvent processed (.int 1) = .ok recorded ∧
      Balanced limit queue produced processed made done
        { l with store := recorded, consumer := .free } := by
  obtain ⟨count, hdone, hcount⟩ := h.processed
  obtain ⟨recorded, hrecorded, hmore, hbacklogs, hothers⟩ := hdone.recordEvent
  have hbacklog := Store.backlog_congr hbacklogs queue
  refine ⟨recorded, hrecorded, h.apart, hothers h.apart h.produced, ⟨count + 1, hmore, ?_⟩,
    hbacklogs ▸ h.backlog, ?_, h.producers, rfl⟩
  · rw [held, hbusy] at hcount
    show count + 1 + 0 + recorded.backlog queue = l.puts
    have hone : Loop.busy.isBusy.toNat = 1 := rfl
    omega
  · show limit = 0 ∨ recorded.backlog queue ≤ limit
    rw [hbacklog]
    exact h.bounded

/-- **Every step keeps the balance.** -/
theorem Balanced.move (h : l.Balanced limit queue produced processed made done) (m : Move) :
    (l.move limit queue produced processed m).Balanced limit queue produced processed made done := by
  cases m with
  | producer index =>
      cases hloop : l.producers[index]? with
      | none => simpa only [Loops.move, stepProducer, hloop] using h
      | some loop =>
          simp only [Loops.move, stepProducer, hloop]
          cases loop with
          | free =>
              obtain ⟨recorded, hrecorded, hbalanced⟩ := h.move_record hloop
              simpa [producerStep, hrecorded] using hbalanced
          | busy =>
              cases hput : put? queue limit l.store with
              | none =>
                  simpa only [producerStep, hput, Option.toList_some] using h.move_drop hloop
              | some store =>
                  simpa only [producerStep, hput, Option.toList_some] using h.move_put hloop hput
          | failed fault =>
              cases h.producers _ (List.mem_of_getElem? hloop)
  | consumer =>
      simp only [Loops.move, stepConsumer]
      cases hloop : l.consumer with
      | free =>
          cases htake : take? queue l.store with
          | none => simpa only [consumerStep, htake, ← hloop] using h
          | some store => simpa only [consumerStep, htake] using h.move_take hloop htake
      | busy =>
          obtain ⟨recorded, hrecorded, hbalanced⟩ := h.move_recordTaken hloop
          simpa only [consumerStep, hrecorded] using hbalanced
      | failed fault =>
          have hnot := h.consumer
          rw [hloop] at hnot
          cases hnot
  | aside action haside =>
      have hbacklogs := Store.backlogs_act haside l.store
      have hbacklog := Store.backlog_congr hbacklogs queue
      obtain ⟨count, hdone, hcount⟩ := h.processed
      refine ⟨h.apart, h.produced.act haside, ⟨count, hdone.act haside, ?_⟩,
        hbacklogs ▸ h.backlog, ?_, h.producers, h.consumer⟩
      · show count + l.held + (l.store.act action).backlog queue = l.puts
        rw [hbacklog, hcount]
      · show limit = 0 ∨ (l.store.act action).backlog queue ≤ limit
        rw [hbacklog]
        exact h.bounded

/-- Every course keeps the balance. -/
theorem Balanced.moves (h : l.Balanced limit queue produced processed made done) (course : List Move) :
    (l.moves limit queue produced processed course).Balanced limit queue produced processed made
      done := by
  induction course generalizing l with
  | nil => exact h
  | cons m rest ih => exact ih (h.move m)

end Loops

/-- **No event is lost unseen.** Any number of producers and a consumer start at an empty backlog with
counts of zero, and make any steps in any order, up to any point; meanwhile others may do what they
like, as long as they leave counters and backlogs alone. Then the backlog is within its limit, if it
has one. What was counted as processed, what was taken but not counted yet and what is in the backlog
are the offers that found room; what was counted as produced are all offers, and what was not offered
yet. So at no time more events count as processed than as produced, and no loop ever fails.

The steps are those of a workload: its turns by a schedule are such a course (`rests_takeTurns`), and
`balance_of_run` says what follows for the end of a run. -/
theorem balance_of_moves {limit queue : Nat} {produced processed made done : Ref} {s : Store}
    (hapart : made ≠ done) (hproduced : s.Metered produced made 0)
    (hprocessed : s.Metered processed done 0) (hempty : s.backlogs[queue]? = some 0)
    (producers : Nat) (course : List Move) :
    let l := (Loops.start s producers).moves limit queue produced processed course
    (0 < limit → l.store.backlog queue ≤ limit) ∧
      (∃ recorded finished : Nat,
        (l.store.meterCount produced).1 = .ok (.int recorded) ∧
        (l.store.meterCount processed).1 = .ok (.int finished) ∧
        finished + l.held + l.store.backlog queue = l.puts ∧
        recorded = l.puts + l.drops + l.pending ∧ finished ≤ recorded) ∧
      (∀ loop ∈ l.producers, loop.hasFailed = false) ∧ l.consumer.hasFailed = false := by
  intro l
  have h : l.Balanced limit queue produced processed made done :=
    (Loops.balanced_start hapart hproduced hprocessed hempty producers).moves course
  obtain ⟨finished, hfinished, hcount⟩ := h.processed
  refine ⟨fun hlimit => ?_, ⟨_, finished, h.produced.meterCount, hfinished.meterCount, hcount, rfl,
    by omega⟩, h.producers, h.consumer⟩
  rcases h.bounded with hnone | hbounded
  · omega
  · exact hbounded

/-- Two meters over counters of their own, and an empty backlog. -/
def twoMeters : Store where
  metrics := #[.counter (.int 0), .meter 0 (.empty 2 1 Nat.one_pos), .counter (.int 0),
    .meter 2 (.empty 2 1 Nat.one_pos)]
  backlogs := #[0]

/-- At a backlog with room for one event, the second of two is dropped; the first has been taken. -/
theorem balance_of_twoMeters :
    let l := (Loops.start twoMeters 2).moves 1 0 1 3 [.producer 0, .producer 1, .producer 1,
      .aside (.meterCount 1) rfl, .producer 0, .consumer, .producer 1]
    l.puts = 1 ∧ l.drops = 1 ∧ l.pending = 1 ∧ l.held = 1 ∧
      l.store.backlog 0 ≤ 1 ∧ (l.store.meterCount 1).1 = .ok (.int 3) := by
  intro l
  have hproduced : twoMeters.Metered 1 0 0 := ⟨⟨_, rfl⟩, rfl⟩
  have hprocessed : twoMeters.Metered 3 2 0 := ⟨⟨_, rfl⟩, rfl⟩
  obtain ⟨hbounded, ⟨recorded, finished, hrecorded, -, -, hcount, -⟩, -⟩ :=
    @balance_of_moves 1 0 _ _ _ _ _ (by decide) hproduced hprocessed rfl 2
      [.producer 0, .producer 1, .producer 1, .aside (.meterCount 1) rfl, .producer 0, .consumer,
        .producer 1]
  have hputs : l.puts = 1 := rfl
  have hdrops : l.drops = 1 := rfl
  have hpending : l.pending = 1 := rfl
  refine ⟨hputs, hdrops, hpending, rfl, hbounded Nat.one_pos, ?_⟩
  rw [hrecorded, hcount]
  rfl

/-! ## Turns by a schedule -/

namespace Loops

/-- One producer and the consumer, both at the start of a pass. -/
structure AtRest (l : Loops) : Prop where
  producers : l.producers = [.free]
  consumer : l.consumer = .free

/-- Some course leads to loops at rest with the given store. -/
def Rests (queue : Nat) (produced processed : Ref) (l : Loops) (s : Store) : Prop :=
  ∃ course, (l.moves backlogLimit queue produced processed course).AtRest ∧
    (l.moves backlogLimit queue produced processed course).store = s

variable {queue : Nat} {produced processed made done : Ref} {l : Loops}

theorem rests_self (hrest : l.AtRest) : l.Rests queue produced processed l.store := ⟨[], hrest, rfl⟩

/-- Where a course has led, others go on. -/
theorem Rests.trans {course : List Move} {s : Store}
    (h : (l.moves backlogLimit queue produced processed course).Rests queue produced processed s) :
    l.Rests queue produced processed s := by
  obtain ⟨rest, hrest, hstore⟩ := h
  have happend : l.moves backlogLimit queue produced processed (course ++ rest) =
      (l.moves backlogLimit queue produced processed course).moves backlogLimit queue produced
        processed rest := List.foldl_append
  exact ⟨course ++ rest, by rwa [happend], by rwa [happend]⟩

/-- A pass of a producer is two of its steps. -/
theorem rests_produceOnce (h : l.Balanced backlogLimit queue produced processed made done)
    (hrest : l.AtRest) :
    ∃ s, produceOnce queue produced l.store = .ok s ∧ l.Rests queue produced processed s := by
  obtain ⟨recorded, hrecorded, -⟩ := h.produced.recordEvent
  refine ⟨put queue recorded, by rw [produceOnce, hrecorded]; rfl, [.producer 0, .producer 0], ?_⟩
  have hfirst : l.move backlogLimit queue produced processed (.producer 0) =
      { l with store := recorded, producers := [.busy] } := by
    simp [move, stepProducer, hrest.producers, producerStep, hrecorded]
  rw [moves, List.foldl_cons, hfirst, put]
  cases hput : put? queue backlogLimit recorded with
  | none => exact ⟨⟨by simp [move, stepProducer, producerStep, hput], hrest.consumer⟩, by
      simp [move, stepProducer, producerStep, hput]⟩
  | some offered => exact ⟨⟨by simp [move, stepProducer, producerStep, hput], hrest.consumer⟩, by
      simp [move, stepProducer, producerStep, hput]⟩

theorem rests_produce (h : l.Balanced backlogLimit queue produced processed made done)
    (hrest : l.AtRest) (passes : Nat) :
    ∃ s, produce queue produced passes l.store = (s, passes, none) ∧
      l.Rests queue produced processed s := by
  induction passes generalizing l with
  | zero => exact ⟨l.store, rfl, rests_self hrest⟩
  | succ passes ih =>
      obtain ⟨_, honce, course, hafter, rfl⟩ := rests_produceOnce h hrest
      obtain ⟨s, hs, hrests⟩ := ih (h.moves course) hafter
      exact ⟨s, by rw [produce, honce]; simp only [hs], hrests.trans⟩

/-- A pass of the consumer is two of its steps, if there is an event. -/
theorem rests_consumeOnce (h : l.Balanced backlogLimit queue produced processed made done)
    (hrest : l.AtRest) :
    ∃ taken s, consumeOnce queue processed l.store = (.ok taken, s) ∧
      l.Rests queue produced processed s := by
  cases htake : take? queue l.store with
  | none => exact ⟨false, l.store, by rw [consumeOnce, htake], rests_self hrest⟩
  | some store =>
      obtain ⟨recorded, hrecorded, -⟩ :=
        (h.move_take hrest.consumer htake).move_recordTaken rfl
      refine ⟨true, recorded, ?_, [.consumer, .consumer], ?_⟩
      · rw [consumeOnce, htake]
        simp only [hrecorded]
      · have hsteps : l.moves backlogLimit queue produced processed [.consumer, .consumer] =
            { l with store := recorded, consumer := .free } := by
          simp [moves, move, stepConsumer, hrest.consumer, consumerStep, htake, hrecorded]
        rw [hsteps]
        exact ⟨⟨hrest.producers, rfl⟩, rfl⟩

theorem rests_consume (h : l.Balanced backlogLimit queue produced processed made done)
    (hrest : l.AtRest) (passes : Nat) :
    ∃ s finished, consume queue processed passes l.store = (s, finished, none) ∧
      l.Rests queue produced processed s := by
  induction passes generalizing l with
  | zero => exact ⟨l.store, 0, rfl, rests_self hrest⟩
  | succ passes ih =>
      obtain ⟨taken, _, honce, course, hafter, rfl⟩ := rests_consumeOnce h hrest
      obtain ⟨s, finished, hs, hrests⟩ := ih (h.moves course) hafter
      exact ⟨s, finished + taken.toNat, by rw [consume, honce]; simp only [hs], hrests.trans⟩

/-- Loops at rest have nothing under way. -/
theorem Balanced.settled (h : l.Balanced backlogLimit queue produced processed made done)
    (hrest : l.AtRest) :
    l.store.backlog queue ≤ backlogLimit ∧ ∃ finished : Nat,
      (l.store.meterCount produced).1 = .ok (.int (l.puts + l.drops : Nat)) ∧
      (l.store.meterCount processed).1 = .ok (.int finished) ∧
      finished + l.store.backlog queue = l.puts := by
  obtain ⟨finished, hfinished, hcount⟩ := h.processed
  have hpending : l.pending = 0 := by
    rw [pending, hrest.producers]
    rfl
  have hheld : l.held = 0 := by
    rw [held, hrest.consumer]
    rfl
  have hmade := h.produced.meterCount
  rw [hpending] at hmade
  rw [hheld] at hcount
  refine ⟨?_, finished, hmade, hfinished.meterCount, hcount⟩
  rcases h.bounded with hnone | hbounded
  · cases hnone
  · exact hbounded

/-- What the workers of a registry do is aside. -/
theorem rests_of_reachesBy (hrest : l.AtRest) {s : Store}
    (h : l.store.ReachesBy (·.isAside = true) s) : l.Rests queue produced processed s := by
  obtain ⟨actions, hactions, rfl⟩ := h
  induction actions generalizing l with
  | nil => exact rests_self hrest
  | cons a rest ih =>
      rw [List.forall_mem_cons] at hactions
      have hmove : (l.moves backlogLimit queue produced processed [.aside a hactions.1]).AtRest :=
        ⟨hrest.producers, hrest.consumer⟩
      exact (ih hmove hactions.2).trans

end Loops

theorem isAside_of_isRead (a : Store.Action) (h : a.isRead = true) : a.isAside = true := by
  cases a with
  | value | count | meterCount | describe => rfl
  | add | change | recordEvent | assign | sample | backlogs => cases h

/-- Rounds of the updater are aside. -/
theorem reachesBy_rounds (reg : Registry) (n : Nat) (w : World) :
    w.store.ReachesBy (·.isAside = true) (rounds reg n w).store := by
  induction n generalizing w with
  | zero => exact .refl w.store
  | succ n ih =>
      refine Store.ReachesBy.trans ⟨_, ?_, Updater.store_updateAll reg.updater.views w⟩
        (ih (reg.updateViews w))
      intro a ha
      rcases Updater.isSample_or_isRead_of_mem_roundActions ha with hsample | hread
      · cases a with
        | sample r => rfl
        | _ => cases hsample
      · exact isAside_of_isRead a hread

section Turns

variable (load : Workload) (reg : Registry) {queue : Nat} {produced processed made done : Ref}

theorem rests_takeTurn {l : Loops} (h : l.Balanced backlogLimit queue produced processed made done)
    (hrest : l.AtRest) (turn : Turn) {w : World} (hw : w.store = l.store) :
    l.Rests queue produced processed
      (takeTurn load reg queue produced processed w turn).2.2.store := by
  cases turn with
  | tick n => exact Loops.rests_of_reachesBy hrest (hw ▸ reachesBy_rounds reg n w)
  | producer index passes =>
      unfold takeTurn
      dsimp only
      split
      · rw [hw]
        exact Loops.rests_self hrest
      · obtain ⟨s, hs, hrests⟩ := Loops.rests_produce h hrest passes
        rw [hw]
        simp only [hs]
        exact hrests
  | consumer passes =>
      obtain ⟨s, finished, hs, hrests⟩ := Loops.rests_consume h hrest passes
      unfold takeTurn
      rw [hw]
      simp only [hs]
      exact hrests

/-- **Turns by a schedule are a course** of one producer and the consumer: whichever producer has a
turn, they are all alike. -/
theorem rests_takeTurns {l : Loops} (h : l.Balanced backlogLimit queue produced processed made done)
    (hrest : l.AtRest) (schedule : List Turn) {w : World} (hw : w.store = l.store) :
    l.Rests queue produced processed
      (takeTurns load reg queue produced processed schedule w).2.2.store := by
  induction schedule generalizing l w with
  | nil =>
      rw [takeTurns, hw]
      exact Loops.rests_self hrest
  | cons turn rest ih =>
      obtain ⟨course, hafter, hstore⟩ := rests_takeTurn load reg h hrest turn hw
      have hread := Registry.reachesBy_snapshot isAside_of_isRead reg
        (takeTurn load reg queue produced processed w turn).2.2
      rw [← hstore] at hread
      obtain ⟨reading, hafter', hstore'⟩ := Loops.rests_of_reachesBy hafter hread
      unfold takeTurns
      dsimp only
      split
      · next fault after hsnapshot =>
        rw [hsnapshot] at hstore'
        exact Loops.Rests.trans ⟨reading, hafter', hstore'⟩
      · next snapshot after hsnapshot =>
        rw [hsnapshot] at hstore'
        have hrests := ih ((h.moves course).moves reading) hafter' hstore'.symm
        exact hrests.trans.trans

end Turns

/-! ## Before and after the turns -/

variable {reg last : Registry} {queue : Nat} {w world : World} {produced processed : Ref}

/-- A workload registers meters over counters of their own, and they show no events. -/
theorem metered_of_registerAll
    (h : registerAll reg queue w = (.ok (produced, processed), last, world)) :
    ∃ made done, made ≠ done ∧ world.store.Metered produced made 0 ∧
      world.store.Metered processed done 0 ∧ world.store.backlogs = w.store.backlogs := by
  have hadd : ∀ m : Metric, m.IsBlank → (Store.Action.add m).isAside = true := fun _ _ => rfl
  unfold registerAll at h
  split at h
  · cases h
  next r₁ reg₁ w₁ h₁ =>
  split at h
  · cases h
  next r₂ reg₂ w₂ h₂ =>
  split at h
  · cases h
  next r₃ reg₃ w₃ h₃ =>
  split at h
  · cases h
  next r₄ reg₄ w₄ h₄ =>
  cases h
  obtain ⟨hmake₁, -, -⟩ := Registry.registerBuilt_eq_ok h₁
  obtain ⟨hmake₂, -, -⟩ := Registry.registerBuilt_eq_ok h₂
  have hproduced := Store.metered_newMeter hmake₁
  have hprocessed := Store.metered_newMeter hmake₂
  -- the counter of the second meter is new when there is a first
  have hapart : w.store.metrics.size ≠ w₁.store.metrics.size :=
    Nat.ne_of_lt (Array.getElem?_eq_some_iff.mp hproduced.counter).1
  obtain ⟨hbacklogs₁, -⟩ := (Store.reachesBy_newMeter hadd hmake₁).aside
  obtain ⟨hbacklogs₂, hkept₂⟩ := (Store.reachesBy_newMeter hadd hmake₂).aside
  have hsize : w₂.store.ReachesBy (·.isAside = true)
      (reg₂.gauge "backlog.size" (.function (.backlog queue)) w₂).2.2.store := by
    apply Registry.reachesBy_registerBuilt
    exact fun _ _ => Store.reachesBy_gaugeOf fun _ _ => rfl
  have hgrowth : w₃.store.ReachesBy (·.isAside = true)
      (reg₃.gaugeMeter "backlog.growth" (.function (.backlog queue)) .null w₃).2.2.store := by
    apply Registry.reachesBy_gaugeMeter hadd
    exact fun _ _ => rfl
  rw [h₃] at hsize
  rw [h₄] at hgrowth
  obtain ⟨hbacklogs₃, hkept₃⟩ := (hsize.trans hgrowth).aside
  exact ⟨_, _, hapart, hkept₃ (hkept₂ hproduced), hkept₃ hprocessed,
    hbacklogs₃.trans (hbacklogs₂.trans hbacklogs₁)⟩

/-- The end of a run leaves counters and backlogs alone. -/
theorem reachesBy_finish (reg : Registry) (ended : Option Fault) (now : Value) (w : World) :
    w.store.ReachesBy (·.isAside = true) (finish reg ended now w).2.2.store := by
  cases ended with
  | some fault =>
      show w.store.ReachesBy _ (reg.close w).2.store
      rw [Registry.store_close]
      exact .refl w.store
  | none =>
      show w.store.ReachesBy _ ((reg.report now w).2.1.close (reg.report now w).2.2).2.store
      rw [Registry.store_close]
      exact Registry.reachesBy_report isAside_of_isRead reg now w

end Workload

end Telemetry
