import Telemetry.Proofs.Registry.Readings
import Telemetry.Proofs.Registry.Roll
import Telemetry.Proofs.Registry.Running
import Telemetry.Proofs.Registry.Silence
import Telemetry.Proofs.Session.Meters
import Telemetry.Proofs.Workload.Balance

/-!
# The course of a workload

A workload registers four metrics, starts the registry, lets its loops run, has a last report and
closes the registry. Each of these may go wrong. Up to the start nothing reaches the sinks, and the
workers are left as they are. From then on the registry is closed at the end, whatever happens; the
last report is published before that, or not at all.

What a workload does to a registry is part of the life of that registry, so that all that holds for
lives holds for workloads.

* `registerAll_cases`: what becomes of the registrations.
* `quietly_takeTurns`: the loops leave registry and sinks alone.
* `refused_or_started`: how a workload begins.
* `ended_of_start`: how it ends once it is past the start.
* `course_of_run`: both together, for a registry that has lived in any way.
* `balance_of_run`: in the end all events are accounted for.
-/

namespace Telemetry

namespace Workload

open Sink (Request)

/-! ## Registrations -/

/-- The names of a workload's own metrics. -/
def ownNames : List String :=
  ["events.produced", "events.processed", "backlog.size", "backlog.growth"]

/-- The keys of a workload's own metrics in a snapshot: two for each of its meters, one for its
gauge. -/
def ownKeys : List String :=
  ["events.produced.count", "events.produced.rate", "events.processed.count",
    "events.processed.rate", "backlog.size", "backlog.growth.count", "backlog.growth.rate"]

/-- The calls that register a workload's own metrics. -/
def registrations (queue : Nat) : List Registry.Turn :=
  [.call (.meter "events.produced" none .null), .call (.meter "events.processed" none .null),
    .call (.gauge "backlog.size" (.function (.backlog queue))),
    .call (.gaugeMeter "backlog.growth" (.function (.backlog queue)) .null)]

/-- The calls up to the start of the registry. -/
def opening (queue : Nat) : List Registry.Turn := registrations queue ++ [.call .start]

/-- Turns have registered own metrics behind all others. -/
structure Registers (reg : Registry) (w : World) (turns : List Registry.Turn)
    (now : Registry × World) (own : Table Ref) (keys : List String) : Prop where
  live : reg.live w turns = now
  free : ∀ name ∈ own.keys, name ∉ reg.metrics.keys
  metrics : now.1.metrics = reg.metrics ++ own
  exists_metric : ∀ p ∈ own, ∃ m, now.2.store.get? p.2 = some m
  keys : own.flatMap now.2.store.keysOf = keys

theorem registers_nil (reg : Registry) (w : World) : Registers reg w [] (reg, w) [] [] :=
  ⟨rfl, nofun, (List.append_nil _).symm, nofun, rfl⟩

variable {queue : Nat} {reg : Registry} {w : World} {turns : List Registry.Turn}
  {now next : Registry × World} {own : Table Ref} {keys : List String}

/-- One call more. -/
theorem live_concat (h : reg.live w turns = now) (c : Registry.Call)
    (hcall : now.1.call now.2 c = next) : reg.live w (turns ++ [.call c]) = next := by
  rw [Registry.live_append, h]
  exact hcall

/-- What is registered next comes behind, with its own keys. -/
theorem Registers.add (h : Registers reg w turns now own keys) {c : Registry.Call} {name : String}
    {built : Except Fault (Ref × Store)} {r : Ref} {m : Metric}
    (hcall : now.1.call now.2 c = next)
    (hbuilt : now.1.registerBuilt name built now.2 = (.ok r, next))
    (hm : next.2.store.get? r = some m) :
    Registers reg w (turns ++ [.call c]) next (own ++ [(name, r)]) (keys ++ m.keys name) := by
  obtain ⟨-, hfree, hmetrics⟩ := Registry.registerBuilt_eq_ok hbuilt
  have hgrows : now.2.store.Grows next.2.store := by
    have hreaches := now.1.reaches_call now.2 c
    rw [hcall] at hreaches
    exact hreaches.grows
  rw [h.metrics, Table.keys, List.map_append, List.mem_append, not_or] at hfree
  refine ⟨live_concat h.live c hcall, ?_, ?_, ?_, ?_⟩
  · intro k hk
    rw [Table.keys, List.map_append, List.mem_append, List.map_singleton, List.mem_singleton] at hk
    rcases hk with hk | rfl
    · exact h.free k hk
    · exact hfree.1
  · rw [hmetrics, h.metrics, List.append_assoc]
  · intro p hp
    rcases List.mem_append.mp hp with hp | hp
    · obtain ⟨before, hbefore⟩ := h.exists_metric p hp
      obtain ⟨after, hafter, -⟩ := hgrows p.2 before hbefore
      exact ⟨after, hafter⟩
    · rw [List.mem_singleton.mp hp]
      exact ⟨m, hm⟩
  · have hsame : own.flatMap next.2.store.keysOf = own.flatMap now.2.store.keysOf := by
      refine List.flatMap_congr fun p hp => ?_
      obtain ⟨before, hbefore⟩ := h.exists_metric p hp
      exact Store.keysOf_of_grows hgrows hbefore
    rw [List.flatMap_append, hsame, h.keys, List.flatMap_singleton, Store.keysOf, hm]
    rfl

/-- The next metric is a meter. -/
theorem Registers.addMeter (h : Registers reg w turns now own keys) {c : Registry.Call}
    {name : String} {built : Except Fault (Ref × Store)} {r : Ref} {room : ℕ}
    {span interval : Value} (hbuilds : Store.Builds room span interval built)
    (hcall : now.1.call now.2 c = next)
    (hbuilt : now.1.registerBuilt name built now.2 = (.ok r, next)) :
    Registers reg w (turns ++ [.call c]) next (own ++ [(name, r)])
      (keys ++ [name ++ ".count", name ++ ".rate"]) := by
  obtain ⟨place, hplace, hmeter⟩ := hbuilds
  obtain ⟨hdone, -, -⟩ := Registry.registerBuilt_eq_ok hbuilt
  rw [hplace] at hdone
  obtain ⟨window, -, hwindow⟩ := Sorting.exists_of_map_eq_ok hdone
  obtain ⟨counter, hcounter⟩ := hmeter window
  rw [hwindow] at hcounter
  exact h.add hcall hbuilt hcounter

/-- **The registrations of a workload**, up to the first that is refused. -/
theorem registerAll_cases (queue : Nat) (reg : Registry) (w : World) :
    (∃ fault turns, turns <+: registrations queue ∧
      registerAll reg queue w = (.error fault, reg.live w turns)) ∨
    ∃ produced processed now own, registerAll reg queue w = (.ok (produced, processed), now) ∧
      own.keys = ownNames ∧ Registers reg w (registrations queue) now own ownKeys := by
  unfold registerAll
  have hnone := registers_nil reg w
  split
  · next fault reg₁ w₁ h₁ =>
    refine .inl ⟨fault, (registrations queue).take 1, List.take_prefix 1 _, ?_⟩
    exact congrArg (Prod.mk _)
      (live_concat hnone.live (.meter _ none .null) (congrArg Prod.snd h₁)).symm
  next produced reg₁ w₁ h₁ =>
  have hcall₁ : reg.call w (.meter "events.produced" none .null) = (reg₁, w₁) :=
    congrArg Prod.snd h₁
  have hfirst := hnone.addMeter (w.store.builds_newMeter _ none _ _) hcall₁ h₁
  split
  · next fault reg₂ w₂ h₂ =>
    refine .inl ⟨fault, (registrations queue).take 2, List.take_prefix 2 _, ?_⟩
    exact congrArg (Prod.mk _)
      (live_concat hfirst.live (.meter _ none .null) (congrArg Prod.snd h₂)).symm
  next processed reg₂ w₂ h₂ =>
  have hcall₂ : reg₁.call w₁ (.meter "events.processed" none .null) = (reg₂, w₂) :=
    congrArg Prod.snd h₂
  have hsecond := hfirst.addMeter (w₁.store.builds_newMeter _ none _ _) hcall₂ h₂
  split
  · next fault reg₃ w₃ h₃ =>
    refine .inl ⟨fault, (registrations queue).take 3, List.take_prefix 3 _, ?_⟩
    exact congrArg (Prod.mk _)
      (live_concat hsecond.live (.gauge _ (.function (.backlog queue))) (congrArg Prod.snd h₃)).symm
  next size reg₃ w₃ h₃ =>
  have hcall₃ : reg₂.call w₂ (.gauge "backlog.size" (.function (.backlog queue))) = (reg₃, w₃) :=
    congrArg Prod.snd h₃
  have hgauge : w₃.store.get? size = some (.function (.backlog queue)) := by
    obtain ⟨hdone, -, -⟩ := Registry.registerBuilt_eq_ok h₃
    obtain ⟨rfl, hstore⟩ := Prod.mk.inj (Except.ok.inj hdone)
    rw [← hstore]
    exact w₂.store.get?_alloc_self _
  have hthird := hsecond.add hcall₃ h₃ hgauge
  split
  · next fault reg₄ w₄ h₄ =>
    refine .inl ⟨fault, registrations queue, List.prefix_rfl, ?_⟩
    exact congrArg (Prod.mk _) (live_concat hthird.live
      (.gaugeMeter _ (.function (.backlog queue)) .null) (congrArg Prod.snd h₄)).symm
  next growth reg₄ w₄ h₄ =>
  have hcall₄ : reg₃.call w₃ (.gaugeMeter "backlog.growth" (.function (.backlog queue)) .null) =
      (reg₄, w₄) := congrArg Prod.snd h₄
  have hlast := hthird.addMeter
    ((w₃.store.alloc (.function (.backlog queue))).2.builds_newGaugeMeter _ _ _ _) hcall₄ h₄
  exact .inr ⟨produced, processed, (reg₄, w₄), _, rfl, rfl, hlast⟩

/-! ## The loops -/

/-- Some quiet turns lead from one world to another, and meanwhile no sink notes anything. -/
def Quietly (reg : Registry) (before after : World) : Prop :=
  ∃ turns : List Registry.Turn, (∀ t ∈ turns, t.isQuiet = true) ∧
    reg.live before turns = (reg, after) ∧ after.host.calls = before.host.calls

theorem Quietly.refl (reg : Registry) (w : World) : Quietly reg w w := ⟨[], nofun, rfl, rfl⟩

theorem Quietly.trans {u v : World} (huv : Quietly reg u v) (hvw : Quietly reg v w) :
    Quietly reg u w := by
  obtain ⟨first, hfirst, hlive, hcalls⟩ := huv
  obtain ⟨second, hsecond, hlive', hcalls'⟩ := hvw
  refine ⟨first ++ second, ?_, ?_, hcalls'.trans hcalls⟩
  · intro t ht
    exact (List.mem_append.mp ht).elim (hfirst t) (hsecond t)
  · rw [Registry.live_append, hlive]
    exact hlive'

/-- What is done to the metrics alone is quiet. -/
theorem quietly_of_reaches (reg : Registry) {s : Store} (h : w.store.Reaches s) :
    Quietly reg w { w with store := s } := by
  obtain ⟨actions, rfl⟩ := h
  exact ⟨[.aside actions w.host], by simp [Registry.Turn.isQuiet], rfl, rfl⟩

theorem quietly_rounds (reg : Registry) (n : Nat) (w : World) :
    Quietly reg w (rounds reg n w) := by
  induction n generalizing w with
  | zero => exact .refl reg w
  | succ n ih =>
      have hround : Quietly reg w (reg.updateViews w) :=
        ⟨[.call .updateViews], by simp [Registry.Turn.isQuiet], rfl, reg.calls_updateViews w⟩
      exact hround.trans (ih (reg.updateViews w))

theorem reaches_recordEvent {s t : Store} {meter : Ref} {amount : Value}
    (h : s.recordEvent meter amount = .ok t) : s.Reaches t := by
  have hact : s.act (.recordEvent meter amount) = t := by
    show (s.recordEvent meter amount).toOption.getD s = t
    rw [h]
    rfl
  exact hact ▸ s.reaches_act _

theorem reaches_resize (s : Store) (queue size : Nat) : s.Reaches (s.resize queue size) :=
  s.reaches_act (.backlogs (s.resize queue size).backlogs)

theorem reaches_produce (queue : Nat) (produced : Ref) (passes : Nat) (s : Store) :
    s.Reaches (produce queue produced passes s).1 := by
  induction passes generalizing s with
  | zero => exact .refl s
  | succ passes ih =>
      rw [produce]
      cases hrecord : s.recordEvent produced (.int 1) with
      | error fault =>
          rw [produceOnce, hrecord]
          exact .refl s
      | ok recorded =>
          rw [produceOnce, hrecord]
          have hput : recorded.Reaches (put queue recorded) := by
            unfold put
            cases hroom : put? queue backlogLimit recorded with
            | none => exact .refl recorded
            | some offered =>
                rw [(put?_eq_some hroom).2]
                exact reaches_resize recorded queue _
          exact (reaches_recordEvent hrecord).trans (hput.trans (ih _))

theorem reaches_consumeOnce (queue : Nat) (processed : Ref) (s : Store) :
    s.Reaches (consumeOnce queue processed s).2 := by
  rw [consumeOnce]
  split
  · exact .refl s
  · next taken htake =>
    have htaken : s.Reaches taken := by
      rw [(take?_eq_some htake).2]
      exact reaches_resize s queue _
    split
    · exact htaken
    · next recorded hrecord => exact htaken.trans (reaches_recordEvent hrecord)

theorem reaches_consume (queue : Nat) (processed : Ref) (passes : Nat) (s : Store) :
    s.Reaches (consume queue processed passes s).1 := by
  induction passes generalizing s with
  | zero => exact .refl s
  | succ passes ih =>
      have honce := reaches_consumeOnce queue processed s
      rw [consume]
      split
      · next hfailed =>
        rw [hfailed] at honce
        exact honce
      · next hdone =>
        rw [hdone] at honce
        exact honce.trans (ih _)

theorem quietly_takeTurn (load : Workload) (reg : Registry) (queue : Nat)
    (produced processed : Ref) (w : World) (turn : Turn) :
    Quietly reg w (takeTurn load reg queue produced processed w turn).2.2 := by
  cases turn with
  | tick n => exact quietly_rounds reg n w
  | producer index passes =>
      unfold takeTurn
      dsimp only
      split
      · exact .refl reg w
      · exact quietly_of_reaches reg (reaches_produce queue produced passes w.store)
  | consumer passes =>
      exact quietly_of_reaches reg (reaches_consume queue processed passes w.store)

/-- **The loops leave registry and sinks alone.** -/
theorem quietly_takeTurns (load : Workload) (reg : Registry) (queue : Nat)
    (produced processed : Ref) (schedule : List Turn) (w : World) :
    Quietly reg w (takeTurns load reg queue produced processed schedule w).2.2 := by
  induction schedule generalizing w with
  | nil => exact .refl reg w
  | cons turn rest ih =>
      have hturn := quietly_takeTurn load reg queue produced processed w turn
      have hread : Quietly reg (takeTurn load reg queue produced processed w turn).2.2
          (reg.snapshot (takeTurn load reg queue produced processed w turn).2.2).2 :=
        ⟨[.call .snapshot], by simp [Registry.Turn.isQuiet], rfl, rfl⟩
      unfold takeTurns
      dsimp only
      split
      · next fault after hsnapshot =>
        rw [hsnapshot] at hread
        exact hturn.trans hread
      · next snapshot after hsnapshot =>
        rw [hsnapshot] at hread
        exact (hturn.trans hread).trans (ih after)

/-! ## Beginning and end -/

/-- A workload went this way in the life of its registry, and asked this of every sink. -/
structure Went (reg : Registry) (w : World) (turns : List Registry.Turn) (requests : List Request)
    (out : WorkloadRun) : Prop where
  registry : out.registry = some (reg.live w turns).1
  store : out.world.store = (reg.live w turns).2.store
  asked : ∀ place < reg.sinks.length, reg.asked place w turns = requests
  calls : out.world.host.calls = w.host.calls ++ requests.flatMap reg.notesOfAll

/-- How a workload ends whose loops have had quiet turns. -/
inductive Ended (queue : Nat) (reg : Registry) (w : World) (now : Value)
    (middle : List Registry.Turn) (out : WorkloadRun) : Prop where
  /-- The last report is published, and then the registry is closed. Under each of the workload's
  own keys the event has what one of its metrics answers. -/
  | published {event : Event} (result : out.result = .ok event.metrics)
      (went : Went reg w (opening queue ++ middle ++ [.call (.report now), .call .close])
        [.write event, .close] out)
      (own : ∀ key ∈ ownKeys, ∃ v ∈ Store.visits (reg.live w (opening queue ++ middle)).1.metrics
          (reg.live w (opening queue ++ middle)).2.store,
        v.name ∈ ownNames ∧ ∃ x, v.Gives key x ∧ event.metrics.get? key = some x)
  /-- The last report fails, and the registry is closed. -/
  | failed {fault : Fault} (result : out.result = .error fault)
      (went : Went reg w (opening queue ++ middle ++ [.call (.report now), .call .close]) [.close] out)
  /-- Something goes wrong before the last report, and the registry is closed. -/
  | interrupted {fault : Fault} (result : out.result = .error fault)
      (went : Went reg w (opening queue ++ middle ++ [.call .close]) [.close] out)

/-- Silent turns, and then calls that are all asked of the sinks. -/
theorem went_append {reg after : Registry} {w world : World} {front rest : List Registry.Turn}
    (hsilent : ∀ t ∈ front, t.isSilent = true) (hfront : reg.live w front = (after, world))
    (hcalls : world.host.calls = w.host.calls) (hrest : ∀ t ∈ rest, ∃ c, t = .call c)
    {out : WorkloadRun} (hregistry : out.registry = some (after.live world rest).1)
    (hstore : out.world.store = (after.live world rest).2.store)
    (hnoted : out.world.host.calls = (after.live world rest).2.host.calls) :
    Went reg w (front ++ rest) (after.requests world rest) out := by
  have hlive : reg.live w (front ++ rest) = after.live world rest := by
    rw [Registry.live_append, hfront]
  have hnotes := Registry.notesOfAll_of_silent hsilent reg w
  rw [hfront] at hnotes
  refine ⟨by rw [hlive, hregistry], by rw [hlive, hstore], ?_, ?_⟩
  · intro place hplace
    rw [Registry.asked_eq hplace, Registry.requests_append_of_silent hsilent, hfront]
  · rw [hnoted, Registry.calls_live hrest, hcalls, hnotes]

theorem silent_of_mem_opening {t : Registry.Turn} (h : t ∈ opening queue) :
    t.isSilent = true ∧ ∃ c, t = .call c := by
  simp only [opening, registrations, List.cons_append, List.nil_append, List.mem_cons,
    List.not_mem_nil, or_false] at h
  rcases h with rfl | rfl | rfl | rfl | rfl <;> exact ⟨rfl, _, rfl⟩

/-- A prefix of the opening asks nothing. -/
theorem went_of_prefix {reg after : Registry} {w world : World} {turns : List Registry.Turn}
    (hpart : turns <+: opening queue) (hlive : reg.live w turns = (after, world)) {out : WorkloadRun}
    (hregistry : out.registry = some after) (hworld : out.world = world) :
    Went reg w turns [] out := by
  have hsilent : ∀ t ∈ turns, t.isSilent = true :=
    fun t ht => (silent_of_mem_opening (hpart.subset ht)).1
  have hcalls : ∀ t ∈ turns, ∃ c, t = .call c :=
    fun t ht => (silent_of_mem_opening (hpart.subset ht)).2
  refine ⟨by rw [hlive, hregistry], by rw [hlive, hworld], ?_, ?_⟩
  · intro place hplace
    rw [Registry.asked_eq hplace, Registry.requests_of_silent hsilent]
  · have hnoted := Registry.calls_live hcalls reg w
    rw [hlive, Registry.requests_of_silent hsilent] at hnoted
    rw [hworld, hnoted]

/-- Registrations leave the workers and the sinks alone. -/
theorem sameWorkers_of_registrations {turns : List Registry.Turn}
    (h : ∀ t ∈ turns, t ∈ registrations queue) (reg : Registry) (w : World) :
    reg.SameWorkers (reg.live w turns).1 ∧ (reg.live w turns).1.sinks = reg.sinks := by
  induction turns generalizing reg w with
  | nil => exact ⟨.refl reg, rfl⟩
  | cons t rest ih =>
      rw [List.forall_mem_cons] at h
      have hone : reg.SameWorkers (reg.turn w t).1 ∧ (reg.turn w t).1.sinks = reg.sinks := by
        have hmem := h.1
        simp only [registrations, List.mem_cons, List.not_mem_nil, or_false] at hmem
        rcases hmem with rfl | rfl | rfl | rfl <;>
          exact ⟨reg.sameWorkers_registerBuilt _ _ w, (reg.step_sinks_registerBuilt _ _ w).2⟩
      obtain ⟨hsame, hsinks⟩ := hone
      obtain ⟨hsame', hsinks'⟩ := ih h.2 (reg.turn w t).1 (reg.turn w t).2
      exact ⟨hsame.trans hsame', hsinks'.trans hsinks⟩

variable {produced processed : Ref} {reg₁ reg₂ : Registry} {w₁ w₂ : World} {n : Nat}

/-- What is left to do once the registry is started. -/
def looped (load : Workload) (queue : Nat) (schedule : List Turn) (sleep : Value → Option Fault)
    (now : Value) (reg : Registry) (produced processed : Ref) (w : World) :
    Except Fault (Table Value) × Registry × World :=
  let (_, ended, w) := takeTurns load reg queue produced processed schedule w
  finish reg (ended <|> sleep load.duration) now w

/-- A run that is past the start is known by what its loops and its end do. -/
theorem runAt_of_start (load : Workload) (schedule : List Turn) (now : Value)
    (sleep : Value → Option Fault)
    (hregister : registerAll reg queue w = (.ok (produced, processed), reg₁, w₁))
    (hcount : producerCount load.producers = .ok n) (hstart : reg₁.start w₁ = (.ok (), reg₂, w₂)) :
    let out := load.runAt queue reg schedule now w sleep
    let done := looped load queue schedule sleep now reg₂ produced processed w₂
    out.duration = some load.duration ∧ out.result = done.1 ∧ out.registry = some done.2.1 ∧
      out.world.store = done.2.2.store ∧ out.world.host.calls = done.2.2.host.calls := by
  unfold runAt looped
  simp only [hregister, hcount, hstart]
  generalize finish reg₂ _ now _ = done
  obtain ⟨result, last, world⟩ := done
  cases result with
  | error fault => exact ⟨trivial, trivial, trivial, rfl, rfl⟩
  | ok metrics =>
      refine ⟨trivial, trivial, trivial, rfl, ?_⟩
      -- the message at the end is no call
      show (Host.log _ _ _ _).calls = _
      unfold Host.log
      split <;> rfl

/-- The own metrics are still there, with the same keys. -/
theorem Registers.grows {w₀ : World} {turns : List Registry.Turn} {own : Table Ref}
    {keys : List String} (h : Registers reg w₀ turns (reg₁, w₁) own keys) {s : Store}
    (hgrows : w₁.store.Grows s) :
    (∀ p ∈ own, ∃ m, s.get? p.2 = some m) ∧ own.flatMap s.keysOf = keys := by
  constructor
  · intro p hp
    obtain ⟨m, hm⟩ := h.exists_metric p hp
    obtain ⟨m', hm', -⟩ := hgrows p.2 m hm
    exact ⟨m', hm'⟩
  · rw [← h.keys]
    refine List.flatMap_congr fun p hp => ?_
    obtain ⟨m, hm⟩ := h.exists_metric p hp
    exact Store.keysOf_of_grows hgrows hm

theorem silent_before_report {middle : List Registry.Turn} (h : ∀ t ∈ middle, t.isQuiet = true) :
    ∀ t ∈ opening queue ++ middle, t.isSilent = true := by
  intro t ht
  rcases List.mem_append.mp ht with ht | ht
  · exact (silent_of_mem_opening ht).1
  · exact Registry.Turn.isSilent_of_isQuiet (h t ht)

/-- No sink notes anything up to the start. -/
theorem calls_of_opening (h : reg.live w (opening queue) = (reg₂, w₂)) :
    w₂.host.calls = w.host.calls := by
  have hsilent : ∀ t ∈ opening queue, t.isSilent = true := fun t ht => (silent_of_mem_opening ht).1
  have hcalls : ∀ t ∈ opening queue, ∃ c, t = .call c := fun t ht => (silent_of_mem_opening ht).2
  have hopened := Registry.calls_live hcalls reg w
  rw [h, Registry.requests_of_silent hsilent] at hopened
  rw [hopened, List.flatMap_nil, List.append_nil]

/-- Under each of its keys, a snapshot holds what one of the own metrics answers, whatever other
metrics there are. -/
theorem own_of_snapshot {own : Table Ref} {s : Store} {metrics : Table Value}
    (hown : Registers reg w (registrations queue) (reg₁, w₁) own ownKeys) (hnames : own.keys = ownNames)
    (hgrows : w₁.store.Grows s) (hsnapshot : (s.snapshot reg₁.metrics).1 = .ok metrics) :
    ∀ key ∈ ownKeys, ∃ v ∈ Store.visits reg₁.metrics s,
      v.name ∈ ownNames ∧ ∃ x, v.Gives key x ∧ metrics.get? key = some x := by
  obtain ⟨hexists, hkeys⟩ := hown.grows hgrows
  have hmetrics : reg₁.metrics = reg.metrics ++ own := hown.metrics
  rw [hmetrics] at hsnapshot
  intro key hkey
  rw [← hkeys] at hkey
  obtain ⟨v, hv, hmem, hgives⟩ := Store.get?_snapshot_of_last hexists hsnapshot hkey
  rw [hmetrics, ← hnames]
  exact ⟨v, hv, List.mem_map_of_mem hmem, hgives⟩

/-- The end of a workload, from where its loops have left it. -/
theorem ended_of_finish {middle : List Registry.Turn} {ended : Option Fault} {now : Value}
    {out : WorkloadRun}
    (hquiet : ∀ t ∈ middle, t.isQuiet = true)
    (hfront : reg.live w (opening queue ++ middle) = (reg₂, w₂))
    (hnoted : w₂.host.calls = w.host.calls)
    (hown : ∀ metrics, (reg₂.snapshot w₂).1 = .ok metrics →
      ∀ key ∈ ownKeys, ∃ v ∈ Store.visits reg₂.metrics w₂.store,
        v.name ∈ ownNames ∧ ∃ x, v.Gives key x ∧ metrics.get? key = some x)
    (hresult : out.result = (finish reg₂ ended now w₂).1)
    (hregistry : out.registry = some (finish reg₂ ended now w₂).2.1)
    (hstore : out.world.store = (finish reg₂ ended now w₂).2.2.store)
    (hcalls : out.world.host.calls = (finish reg₂ ended now w₂).2.2.host.calls) :
    Ended queue reg w now middle out := by
  have hsilent : ∀ t ∈ opening queue ++ middle, t.isSilent = true :=
    silent_before_report hquiet
  cases ended with
  | some fault =>
      have hrequests : reg₂.requests w₂ [.call .close] = [.close] := by
        rw [Registry.requests_cons]
        rfl
      refine .interrupted hresult ?_
      rw [← hrequests]
      exact went_append hsilent hfront hnoted (by simp) hregistry hstore hcalls
  | none =>
      have hrequests : reg₂.requests w₂ [.call (.report now), .call .close] =
          ((reg₂.report now w₂).1.toOption.map .write).toList ++ [.close] := by
        rw [Registry.requests_cons, Registry.requests_cons]
        rfl
      have hwent : Went reg w (opening queue ++ middle ++ [.call (.report now), .call .close])
          (((reg₂.report now w₂).1.toOption.map .write).toList ++ [.close]) out := by
        rw [← hrequests]
        exact went_append hsilent hfront hnoted (by simp) hregistry hstore hcalls
      rcases reg₂.report_cases now w₂ with
        ⟨fault, -, hreport⟩ | ⟨metrics, deeds, hsnapshot, -, hreport⟩
      · have hfailed : out.result = .error fault := by
          rw [hresult, finish, hreport]
          rfl
        rw [hreport] at hwent
        exact .failed hfailed hwent
      · have hdone : out.result = .ok (reg₂.event reg₂.step metrics now).metrics := by
          rw [hresult, finish, hreport]
          rfl
        rw [hreport] at hwent
        refine .published hdone hwent ?_
        rw [hfront]
        exact hown metrics hsnapshot

/-- **A workload that got past the start closes the registry**, and publishes its last report before
that if it comes to one. -/
theorem ended_of_start (load : Workload) (schedule : List Turn) (now : Value)
    (sleep : Value → Option Fault) {own : Table Ref}
    (hregister : registerAll reg queue w = (.ok (produced, processed), reg₁, w₁))
    (hown : Registers reg w (registrations queue) (reg₁, w₁) own ownKeys) (hnames : own.keys = ownNames)
    (hcount : producerCount load.producers = .ok n) (hstart : reg₁.start w₁ = (.ok (), reg₂, w₂)) :
    ∃ middle, (∀ t ∈ middle, t.isQuiet = true) ∧
      Ended queue reg w now middle (load.runAt queue reg schedule now w sleep) := by
  obtain ⟨-, hresult, hregistry, hstore, hcalls⟩ :=
    runAt_of_start load schedule now sleep hregister hcount hstart
  obtain ⟨middle, hquiet, hmiddle, hkept⟩ :=
    quietly_takeTurns load reg₂ queue produced processed schedule w₂
  have hopening : reg.live w (opening queue) = (reg₂, w₂) :=
    live_concat hown.live .start (congrArg Prod.snd hstart)
  refine ⟨middle, hquiet, ended_of_finish hquiet ?_ ?_ ?_ hresult hregistry hstore hcalls⟩
  · rw [Registry.live_append, hopening]
    exact hmiddle
  · exact hkept.trans (calls_of_opening hopening)
  · -- neither the start nor the loops take a metric away
    have hmetrics : reg₂.metrics = reg₁.metrics := by
      have hsame := reg₁.metrics_start w₁
      rw [hstart] at hsame
      exact hsame
    have hstored : w₂.store = w₁.store := by
      have hsame := reg₁.store_start w₁
      rw [hstart] at hsame
      exact hsame
    have hgrows := reg₂.grows_live w₂ middle
    rw [hmiddle, hstored] at hgrows
    intro metrics hsnapshot
    rw [hmetrics]
    exact own_of_snapshot hown hnames hgrows (hmetrics ▸ hsnapshot)

/-- How a workload ends that does not get past the start: the registry is as it was, but for metrics
that were registered. -/
structure Refused (queue : Nat) (reg : Registry) (w : World) (out : WorkloadRun) : Prop where
  result : ∃ fault, out.result = .error fault
  went : ∃ turns, turns <+: opening queue ∧ Went reg w turns [] out
  workers : ∃ last, out.registry = some last ∧ reg.SameWorkers last ∧ last.sinks = reg.sinks

theorem refused_of_prefix {turns : List Registry.Turn} {fault : Fault} {out : WorkloadRun}
    (hpart : turns <+: registrations queue) (hresult : out.result = .error fault)
    (hregistry : out.registry = some (reg.live w turns).1)
    (hworld : out.world = (reg.live w turns).2) : Refused queue reg w out where
  result := ⟨fault, hresult⟩
  went := ⟨turns, hpart.trans (List.prefix_append _ _), went_of_prefix
    (hpart.trans (List.prefix_append _ _)) rfl hregistry hworld⟩
  workers := ⟨_, hregistry, sameWorkers_of_registrations (fun _ ht => hpart.subset ht) reg w⟩

/-- **How a workload begins**: it is refused, or it gets past the start with its metrics registered.
-/
theorem refused_or_started (hin : reg.InStep) (load : Workload) (queue : Nat)
    (schedule : List Turn) (now : Value) (w : World) (sleep : Value → Option Fault) :
    ((load.runAt queue reg schedule now w sleep).duration = none ∧
      Refused queue reg w (load.runAt queue reg schedule now w sleep)) ∨
    ∃ produced processed reg₁ w₁ reg₂ w₂ own n,
      registerAll reg queue w = (.ok (produced, processed), reg₁, w₁) ∧
      own.keys = ownNames ∧ Registers reg w (registrations queue) (reg₁, w₁) own ownKeys ∧
      producerCount load.producers = .ok n ∧ reg.started = false ∧
      reg₁.start w₁ = (.ok (), reg₂, w₂) := by
  rcases registerAll_cases queue reg w with
    ⟨fault, turns, hpart, hfailed⟩ | ⟨produced, processed, ⟨reg₁, w₁⟩, own, hdone, hnames, hown⟩
  · left
    simp only [runAt, hfailed]
    exact ⟨trivial, refused_of_prefix hpart rfl rfl rfl⟩
  have hlive : reg.live w (registrations queue) = (reg₁, w₁) := hown.live
  obtain ⟨hsame, hsinks⟩ :=
    sameWorkers_of_registrations (fun t (ht : t ∈ registrations queue) => ht) reg w
  rw [hlive] at hsame hsinks
  cases hcount : producerCount load.producers with
  | error fault =>
      left
      simp only [runAt, hdone, hcount]
      exact ⟨trivial, refused_of_prefix List.prefix_rfl rfl (by rw [hlive]) (by rw [hlive])⟩
  | ok n =>
      cases hstarted : reg.started with
      | true =>
          left
          have hstart := Registry.start_of_started (hsame.started.trans hstarted) w₁
          have hopening : reg.live w (opening queue) = (reg₁, w₁) :=
            live_concat hlive .start (congrArg Prod.snd hstart)
          simp only [runAt, hdone, hcount, hstart]
          exact ⟨trivial, ⟨_, rfl⟩, ⟨opening queue, List.prefix_rfl,
            went_of_prefix List.prefix_rfl hopening rfl rfl⟩, ⟨reg₁, rfl, hsame, hsinks⟩⟩
      | false =>
          right
          obtain ⟨host, hstart⟩ :=
            Registry.start_of_inStep (hin.same hsame) (hsame.started.trans hstarted) w₁
          exact ⟨produced, processed, reg₁, w₁, _, _, own, n, hdone, hnames, hown, rfl, rfl, hstart⟩

/-- In the end nothing runs and no sink is left. -/
theorem closed_of_ended {middle : List Registry.Turn} {now : Value} {out : WorkloadRun}
    (h : Ended queue reg w now middle out) : ∃ last, out.registry = some last ∧ last.started = false ∧
      last.updater.worker.running = false ∧ last.reporter.running = false ∧ last.sinks = [] := by
  -- the last turn is the close, whichever way it went
  cases h with
  | published result went own | failed result went =>
      refine ⟨_, went.registry, ?_⟩
      rw [Registry.live_append]
      exact ⟨rfl, rfl, rfl, rfl⟩
  | interrupted result went =>
      refine ⟨_, went.registry, ?_⟩
      rw [Registry.live_append]
      exact ⟨rfl, rfl, rfl, rfl⟩

/-- **The course of a workload**, on a registry that has lived in any way. Once it is past the
start, the registry is closed in the end, whatever goes wrong: the workers have stopped, and every
sink has been closed once. If it succeeds, it returns the metrics of an event that every sink was
asked to write just before the close, its own metrics among them. A workload that does not get past
the start, say because one of its names is taken or because the registry is started, asks nothing of
the sinks and leaves the workers as they are.

Sinks go by their places: an object that was given as a sink twice is asked once for each place. The
workers make no rounds of their own but those of the schedule. -/
theorem course_of_run {settings : Settings} {sinks : List Sink} {before after : Host}
    {reg₀ : Registry} (hcreate : Registry.create settings sinks before = (.ok reg₀, after))
    (w₀ : World) (turns₀ : List Registry.Turn) (load : Workload) (schedule : List Turn)
    (now : Value) (sleep : Value → Option Fault) :
    let reg := (reg₀.live w₀ turns₀).1
    let w := (reg₀.live w₀ turns₀).2
    let queue := w.store.newBacklog.1
    let out := load.run reg schedule now w sleep
    (out.duration.isSome = true →
      (∃ last, out.registry = some last ∧ last.started = false ∧
        last.updater.worker.running = false ∧ last.reporter.running = false ∧ last.sinks = []) ∧
      ∃ middle, (∀ t ∈ middle, t.isQuiet = true) ∧
        Ended queue reg (withBacklog w) now middle out) ∧
    (out.duration = none → Refused queue reg (withBacklog w) out) ∧
    ((∃ name ∈ ownNames, name ∈ reg.metrics.keys) ∨ reg.started = true → out.duration = none) := by
  intro reg w queue out
  rcases refused_or_started (Registry.inStep_live hcreate w₀ turns₀) load queue schedule now
      (withBacklog w) sleep with
    ⟨hnone, hrefused⟩ | ⟨produced, processed, reg₁, w₁, reg₂, w₂, own, n, hregister, hnames, hown,
      hcount, hstopped, hstart⟩
  · refine ⟨fun hsome => ?_, fun _ => hrefused, fun _ => hnone⟩
    rw [show out.duration = none from hnone] at hsome
    cases hsome
  · obtain ⟨hduration, -⟩ :=
      runAt_of_start load schedule now sleep hregister hcount hstart
    refine ⟨fun _ => ?_, fun hnone => ?_, fun hrefuses => ?_⟩
    · obtain ⟨middle, hquiet, hended⟩ :=
        ended_of_start load schedule now sleep hregister hown hnames hcount hstart
      exact ⟨closed_of_ended hended, middle, hquiet, hended⟩
    · rw [show out.duration = some load.duration from hduration] at hnone
      cases hnone
    · rcases hrefuses with ⟨name, hname, htaken⟩ | hstarted
      · exact absurd htaken (hown.free name (hnames ▸ hname))
      · rw [show reg.started = false from hstopped] at hstarted
        cases hstarted

/-- A workload with one producer. -/
def brief : Workload := ⟨.int 1, .int 100, .int 2⟩

/-- Two guests are attended to the end by a workload, one of them shaky. On the same registry it is
refused once that is started. -/
theorem course_of_brief :
    let schedule := [.producer 0 2, .tick 1, .consumer 1]
    let out := brief.run Registry.attended schedule .null Registry.twoViews
    let started := Registry.attended.live Registry.twoViews [.call .start]
    let late := brief.run started.1 schedule .null started.2
    (∃ event turns, out.result = .ok event.metrics ∧
      (∀ place < 2,
        Registry.attended.asked place (withBacklog Registry.twoViews) turns =
          [.write event, .close]) ∧
      ∀ key ∈ ownKeys, ∃ x, event.metrics.get? key = some x) ∧
    Refused 0 started.1 (withBacklog started.2) late := by
  intro schedule out started late
  have hcreate : Registry.create Registry.bare.settings Registry.attended.sinks
      Registry.twoViews.host = (.ok Registry.attended, Registry.twoViews.host) := rfl
  obtain ⟨hends, -, -⟩ := course_of_run hcreate Registry.twoViews [] brief schedule .null sleepFault
  obtain ⟨-, hrefused, hrefuses⟩ :=
    course_of_run hcreate Registry.twoViews [.call .start] brief schedule .null sleepFault
  refine ⟨?_, hrefused (hrefuses (.inr (by decide +kernel)))⟩
  obtain ⟨-, middle, -, hended⟩ := hends (by decide +kernel)
  have hsucceeds : out.result.toOption.isSome = true := by decide +kernel
  cases hended with
  | @published event result went own =>
      refine ⟨event, _, result, went.asked, fun key hkey => ?_⟩
      obtain ⟨v, -, -, x, -, hx⟩ := own key hkey
      exact ⟨x, hx⟩
  | @failed fault result went =>
      rw [show out.result = .error fault from result] at hsucceeds
      cases hsucceeds
  | @interrupted fault result went =>
      rw [show out.result = .error fault from result] at hsucceeds
      cases hsucceeds

/-! ## The balance in the end -/

/-- Nothing is under way at the end of a run at a backlog that was empty. -/
theorem balance_of_runAt (load : Workload) (schedule : List Turn) (now : Value)
    (sleep : Value → Option Fault) (hempty : w.store.backlogs[queue]? = some 0)
    (hregister : registerAll reg queue w = (.ok (produced, processed), reg₁, w₁))
    (hcount : producerCount load.producers = .ok n) (hstart : reg₁.start w₁ = (.ok (), reg₂, w₂)) :
    let s := (load.runAt queue reg schedule now w sleep).world.store
    s.backlog queue ≤ backlogLimit ∧ ∃ puts drops finished : Nat,
      (s.meterCount produced).1 = .ok (.int (puts + drops : Nat)) ∧
      (s.meterCount processed).1 = .ok (.int finished) ∧ finished + s.backlog queue = puts := by
  intro s
  obtain ⟨-, -, -, hstore, -⟩ :=
    runAt_of_start load schedule now sleep hregister hcount hstart
  obtain ⟨made, done, hapart, hproduced, hprocessed, hsame⟩ := metered_of_registerAll hregister
  rw [← hsame] at hempty
  have h : (Loops.start w₁.store 1).Balanced backlogLimit queue produced processed made done :=
    Loops.balanced_start hapart hproduced hprocessed hempty 1
  have hstarted : w₂.store = w₁.store := by
    have hkept := reg₁.store_start w₁
    rw [hstart] at hkept
    exact hkept
  obtain ⟨course, hafter, hturns⟩ :=
    rests_takeTurns load reg₂ h ⟨rfl, rfl⟩ schedule hstarted
  have hfinish := reachesBy_finish reg₂
    ((takeTurns load reg₂ queue produced processed schedule w₂).2.1 <|> sleep load.duration) now
    (takeTurns load reg₂ queue produced processed schedule w₂).2.2
  rw [← hturns] at hfinish
  obtain ⟨ending, hend, hended⟩ := Loops.rests_of_reachesBy hafter hfinish
  obtain ⟨hbounded, finished, hsettled⟩ := ((h.moves course).moves ending).settled hend
  rw [show s = _ from hstore.trans hended.symm]
  exact ⟨hbounded, _, _, finished, hsettled⟩

/-- **No event is lost in a run.** In the end nothing is under way: each event that counts as
produced was put into the backlog or dropped, and each that was put there counts as processed or is
there still. -/
theorem balance_of_run (load : Workload) (schedule : List Turn) (now : Value)
    (sleep : Value → Option Fault)
    (hregister : registerAll reg w.store.newBacklog.1 (withBacklog w) =
      (.ok (produced, processed), reg₁, w₁))
    (hcount : producerCount load.producers = .ok n) (hstart : reg₁.start w₁ = (.ok (), reg₂, w₂)) :
    let queue := w.store.newBacklog.1
    let s := (load.run reg schedule now w sleep).world.store
    s.backlog queue ≤ backlogLimit ∧ ∃ puts drops finished : Nat,
      (s.meterCount produced).1 = .ok (.int (puts + drops : Nat)) ∧
      (s.meterCount processed).1 = .ok (.int finished) ∧ finished + s.backlog queue = puts :=
  balance_of_runAt load schedule now sleep w.store.backlogs_newBacklog hregister hcount hstart

end Workload

end Telemetry
