import Telemetry.Proofs.Session.Alike
import Telemetry.Proofs.Store.Counting
import Telemetry.Proofs.Store.Sampling

/-!
# Effects of commands

What a command can do to the objects of a session depends on what kind of command it is. Only three
operations sample: a sample itself, and the rounds of updaters and of registries. Only two change
counters, and a new counter starts where the command says. Reading commands do nothing but read, and
new function gauges are made of nothing but the functions that a command offers.

Main statements: `does_execute` (what a command does to the store), `execute_of_isReading` (a
reading command leaves the rest of the session alone) and `alike_step_of_isReading` (if all
function gauges are steady, it leaves everything alone).
-/

namespace Telemetry

/-! ## Kinds of commands -/

/-- Whether an operation samples views. -/
def Operation.isSampling : Operation → Bool
  | .sample | .updateAll | .updateViews => true
  | _ => false

/-- Whether an operation only reads. -/
def Operation.isReading : Operation → Bool
  | .count | .value | .meterCount | .meterRate | .properties | .counterOf | .describe | .calls
  | .size | .running | .get _ | .names | .contains _ | .views | .snapshot => true
  | _ => false

/-- Whether an operation changes counters. -/
def Operation.isChange : Operation → Bool
  | .change _ _ | .recordEvent _ => true
  | _ => false

/-- The function that is offered as a gauge, if one is. -/
def GaugeArgument.functions : GaugeArgument → List (List Answer)
  | .function answers => [answers]
  | .object _ | .value _ => []

/-- The functions that an operation offers as gauges. -/
def Operation.functions : Operation → List (List Answer)
  | .gauge _ _ offer | .gaugeMeter _ _ offer _ => offer.functions
  | _ => []

namespace Command

/-- Whether a command samples views. -/
def isSampling : Command → Bool
  | perform _ operation => operation.isSampling
  | _ => false

/-- Whether a command only reads. -/
def isReading : Command → Bool
  | perform _ operation => operation.isReading
  | fileContent _ | files => true
  | _ => false

/-- Whether a command changes counters. -/
def isChange : Command → Bool
  | perform _ operation => operation.isChange
  | _ => false

/-- The count at which a command lets a new counter start. -/
def opening : Command → Except Fault Int
  | newCounter _ initial => initial.toInteger
  | _ => .ok 0

/-- The functions that a command offers as gauges. -/
def functions : Command → List (List Answer)
  | newFunctionGauge _ offer => offer.functions
  | perform _ operation => operation.functions
  | _ => []

end Command

/-- What is done to the store by an operation of some kind: it may read, sample if it is to sample,
make function gauges of the functions that it offers, and change and add other things if it is to do
more than read. Meters are added with new windows. -/
def Permitted (sampling reading : Bool) (functions : List (List Answer)) : Store.Action → Prop
  | .value _ | .count _ | .meterCount _ | .describe _ => True
  | .sample _ => sampling = true
  | .add (.function source) => ∃ answers ∈ functions, source = .script answers
  | .add (.meter _ window) => reading = false ∧ window.IsNew
  | .add _ | .change _ _ _ | .recordEvent _ _ | .assign _ _ => reading = false
  | .backlogs _ => False

/-- What an operation may do to the store. -/
def Operation.Permits (operation : Operation) : Store.Action → Prop :=
  Permitted operation.isSampling operation.isReading operation.functions

/-- What a command may do to the store. -/
def Command.Permits (command : Command) : Store.Action → Prop :=
  Permitted command.isSampling command.isReading command.functions

/-- What an operation may do to the store, counters included. -/
def Operation.Does (operation : Operation) (a : Store.Action) : Prop :=
  operation.Permits a ∧ a.Counts operation.isChange (.ok 0)

/-- What a command may do to the store, counters included. -/
def Command.Does (command : Command) (a : Store.Action) : Prop :=
  command.Permits a ∧ a.Counts command.isChange command.opening

section

variable {sampling reading changing : Bool} {functions : List (List Answer)}
  {opening : Except Fault Int} {a : Store.Action}

theorem permitted_of_isRead (h : a.isRead = true) :
    Permitted sampling reading functions a ∧ a.Counts changing opening := by
  cases a with
  | value | count | meterCount | describe => exact ⟨trivial, trivial⟩
  | add | change | recordEvent | assign | sample | backlogs => cases h

theorem permitted_add (hreading : reading = false) {m : Metric} (hm : m.IsBlank) :
    Permitted sampling reading functions (.add m) ∧
      (Store.Action.add m).Counts changing (.ok 0) := by
  cases m with
  | function source => exact hm.elim
  | counter count => exact ⟨hreading, 0, rfl, hm⟩
  | meter counter window => exact ⟨⟨hreading, hm⟩, trivial⟩
  | _ => exact ⟨hreading, trivial⟩

theorem isRead_of_permitted (h : Permitted false true [] a) : a.isRead = true := by
  cases a with
  | value | count | meterCount | describe => rfl
  | sample r => cases h
  | change | recordEvent | assign => cases h
  | backlogs sizes => exact h.elim
  | add m =>
      cases m with
      | function source =>
          obtain ⟨answers, hmem, -⟩ := h
          cases hmem
      | meter counter window => cases h.1
      | _ => cases h

end

namespace Session

/-! ## Metrics -/

theorem onKind_snd (s : Session) (r : Ref) (operation : Operation) :
    (s.onKind r operation).2 = s := by
  have hgiven {α : Type} (counter : Ref) (found : Except Fault α) :
      (s.refuseCall counter found).2 = s := by
    cases found <;> rfl
  unfold onKind
  split
  · rfl
  · rfl
  · exact hgiven _ _
  · exact hgiven _ _
  · rfl
  · rfl

theorem does_changed {s : Session} {P : Store.Action → Prop} {done : Except Fault Store}
    (hdone : ∀ t, done = .ok t → s.world.store.ReachesBy P t) :
    s.world.store.ReachesBy P (s.changed done).2.world.store := by
  cases done with
  | error fault => exact .refl _
  | ok t => exact hdone t rfl

theorem does_onMetric (s : Session) (r : Ref) (operation : Operation) :
    s.world.store.ReachesBy operation.Does (s.onMetric r operation).2.world.store := by
  have hact {P : Store.Action → Prop} {a : Store.Action} (ha : P a) :
      s.world.store.ReachesBy P (s.world.store.act a) := s.world.store.reachesBy_act ha
  cases operation with
  | change c amount =>
      refine does_changed fun t h => ?_
      have hchange := @hact (Operation.Does (.change c amount)) (.change c r amount) ⟨rfl, rfl⟩
      rw [Store.act, h] at hchange
      exact hchange
  | recordEvent amount =>
      refine does_changed fun t h => ?_
      have hrecord := @hact (Operation.Does (.recordEvent amount)) (.recordEvent r amount) ⟨rfl, rfl⟩
      rw [Store.act, h] at hrecord
      exact hrecord
  | assign v =>
      refine does_changed fun t h => ?_
      have hassign := @hact (Operation.Does (.assign v)) (.assign r v) ⟨rfl, trivial⟩
      rw [Store.act, h] at hassign
      exact hassign
  | count => exact @hact _ (.count r) ⟨trivial, trivial⟩
  | meterCount => exact @hact _ (.meterCount r) ⟨trivial, trivial⟩
  | value => exact @hact _ (.value r) ⟨trivial, trivial⟩
  | describe => exact @hact _ (.describe r) ⟨trivial, trivial⟩
  | meterRate => exact .refl _
  | sample =>
      have hsample := @hact (Operation.Does .sample) (.sample r) ⟨rfl, trivial⟩
      rw [Store.act] at hsample
      show s.world.store.ReachesBy _ (s.sampleReply r).2.world.store
      unfold sampleReply
      split
      · next hresult =>
        rw [hresult] at hsample
        exact hsample
      · next hresult =>
        rw [hresult] at hsample
        exact hsample
  | _ =>
      simp only [onMetric]
      rw [onKind_snd]
      exact .refl _

/-! ## Updaters and registries -/

theorem does_given {α : Type} {s : Session} {P : Store.Action → Prop} {found : Except Fault α}
    {next : α → Except Fault Reply × Session}
    (hnext : ∀ a, found = .ok a → s.world.store.ReachesBy P (next a).2.world.store) :
    s.world.store.ReachesBy P (s.given found next).2.world.store := by
  cases found with
  | error fault => exact .refl _
  | ok a => exact hnext a rfl

theorem does_updateAll {P : Store.Action → Prop} (hread : ∀ a, a.isRead = true → P a)
    (hsample : ∀ r, P (.sample r)) (views : List Ref) (w : World) :
    w.store.ReachesBy P (Updater.updateAll views w).store := by
  refine ⟨_, fun a ha => ?_, Updater.store_updateAll views w⟩
  rcases Updater.isSample_or_isRead_of_mem_roundActions ha with h | h
  · cases a with
    | sample r => exact hsample r
    | _ => cases h
  · exact hread a h

theorem does_onUpdater (s : Session) (r : Ref) (index : Nat) (u : Updater)
    (operation : Operation) :
    s.world.store.ReachesBy operation.Does (s.onUpdater r index u operation).2.world.store := by
  cases operation with
  | add id => exact does_given fun _ _ => .refl _
  | remove id =>
      exact does_given fun view _ =>
        Updater.reachesBy_remove (fun _ => permitted_of_isRead) u view s.world
  | updateAll => exact does_updateAll (fun _ => permitted_of_isRead) (fun _ => ⟨rfl, trivial⟩) u.views s.world
  | start =>
      simp only [onUpdater]
      split <;> exact .refl _
  | stop => exact .refl _
  | describe => exact s.does_onMetric r .describe
  | _ => exact .refl _

theorem does_registered {s : Session} {P : Store.Action → Prop} {index : Nat}
    {id : Option String} {done : Except Fault Ref × Registry × World}
    (hdone : s.world.store.ReachesBy P done.2.2.store) :
    s.world.store.ReachesBy P (s.registered index id done).2.world.store := by
  obtain ⟨result, reg, world⟩ := done
  cases result with
  | error fault => exact hdone
  | ok r => cases id <;> exact hdone

/-- A function that becomes a gauge is one that was offered. -/
theorem mem_functions_of_offer {s : Session} {argument : GaugeArgument} {source : Source}
    (h : s.offer argument = .ok (.function source)) :
    ∃ answers ∈ argument.functions, source = .script answers := by
  cases argument with
  | object id =>
      obtain ⟨r, -, hr⟩ := Fault.bind_eq_ok.mp h
      cases hr
  | function answers =>
      cases h
      exact ⟨answers, List.mem_singleton_self _, rfl⟩
  | value v => cases h

theorem does_onRegistry (s : Session) (r : Ref) (index : Nat) (reg : Registry)
    (operation : Operation) :
    s.world.store.ReachesBy operation.Does
      (s.onRegistry r index reg operation).2.world.store := by
  cases operation with
  | register id name metric =>
      refine does_given fun metric _ => does_registered ?_
      show s.world.store.ReachesBy _ (reg.register name metric s.world).2.2.store
      rw [Registry.store_register]
      exact .refl _
  | counter id name given =>
      exact does_given fun counter _ => does_registered
        (Registry.reachesBy_counter (fun _ => permitted_add rfl) reg name counter s.world)
  | gauge id name argument =>
      refine does_given fun offer hoffer => does_registered ?_
      refine Registry.reachesBy_registerBuilt fun _ _ => Store.reachesBy_gaugeOf ?_
      rintro source rfl
      exact ⟨mem_functions_of_offer hoffer, trivial⟩
  | meter id name counter span =>
      exact does_given fun counter _ => does_registered
        (Registry.reachesBy_registerBuilt fun _ _ =>
          Store.reachesBy_newMeter fun _ => permitted_add rfl)
  | gaugeMeter id name argument span =>
      refine does_given fun offer hoffer => does_registered ?_
      refine Registry.reachesBy_gaugeMeter (fun _ => permitted_add rfl) ?_ reg name span s.world
      rintro source rfl
      exact ⟨mem_functions_of_offer hoffer, trivial⟩
  | unregister name => exact Registry.reachesBy_unregister (fun _ => permitted_of_isRead) reg name s.world
  | updateViews =>
      exact does_updateAll (fun _ => permitted_of_isRead) (fun _ => ⟨rfl, trivial⟩) reg.updater.views s.world
  | snapshot => exact Registry.reachesBy_snapshot (fun _ => permitted_of_isRead) reg s.world
  | report now => exact Registry.reachesBy_report (fun _ => permitted_of_isRead) reg now s.world
  | start | enter =>
      show s.world.store.ReachesBy _ (reg.start s.world).2.2.store
      rw [Registry.store_start]
      exact .refl _
  | leave | close =>
      show s.world.store.ReachesBy _ (reg.close s.world).2.store
      rw [Registry.store_close]
      exact .refl _
  | describe => exact s.does_onMetric r .describe
  | _ => exact .refl _

/-! ## Commands -/

theorem does_onObject (s : Session) (r : Ref) (operation : Operation) :
    s.world.store.ReachesBy operation.Does (s.onObject r operation).2.world.store := by
  unfold onObject
  split
  · split
    · exact s.does_onUpdater r _ _ operation
    · exact .refl _
  · split
    · exact s.does_onRegistry r _ _ operation
    · exact .refl _
  · exact s.does_onMetric r operation

theorem does_create (s : Session) {P : Store.Action → Prop} (id : String)
    {built : Except Fault (Ref × Store)}
    (hbuilt : ∀ r t, built = .ok (r, t) → s.world.store.ReachesBy P t) :
    s.world.store.ReachesBy P (s.create id built).2.world.store := by
  cases built with
  | error fault => exact .refl _
  | ok made => exact hbuilt made.1 made.2 rfl

/-- **A command does to the store what commands of its kind may do.** -/
theorem does_execute (s : Session) (command : Command) :
    s.world.store.ReachesBy command.Does (s.execute command).2.world.store := by
  have halloc {P : Store.Action → Prop} {m : Metric} (hm : P (.add m)) :
      s.world.store.ReachesBy P (s.world.store.alloc m).2 := s.world.store.reachesBy_act hm
  cases command with
  | newCounter id initial =>
      refine s.does_create id fun r t h => ?_
      obtain ⟨n, hn, h⟩ := Fault.bind_eq_ok.mp h
      cases h
      exact @halloc _ (.counter (.int n)) ⟨rfl, n, hn, rfl⟩
  | newGauge id v => exact @halloc _ (.settable v) ⟨rfl, trivial⟩
  | newFunctionGauge id offer =>
      cases offer with
      | function answers =>
          exact @halloc _ (.function (.script answers))
            ⟨⟨answers, List.mem_singleton_self _, rfl⟩, trivial⟩
      | object _ => exact .refl _
      | value _ => exact .refl _
  | newGaugeCounter id gauge =>
      exact does_given fun gauge _ => @halloc _ (.gaugeCounter gauge) ⟨rfl, trivial⟩
  | newMeter id counter span interval =>
      exact does_given fun counter _ => s.does_create id fun _ _ =>
        Store.reachesBy_newMeter fun _ => permitted_add rfl
  | newGaugeMeter id gauge span interval =>
      exact does_given fun gauge _ => s.does_create id fun _ _ =>
        Store.reachesBy_newGaugeMeter fun _ => permitted_add rfl
  | newView id failure => exact @halloc _ (.view failure 0) ⟨rfl, trivial⟩
  | newMarker id => exact @halloc _ .marker ⟨rfl, trivial⟩
  | newUpdater id interval =>
      show s.world.store.ReachesBy _ (s.createUpdater id interval).2.world.store
      unfold createUpdater
      split
      · exact .refl _
      · exact @halloc _ (.updater s.updaters.size) ⟨rfl, trivial⟩
  | newRegistry id form sinks =>
      show s.world.store.ReachesBy _ (s.createRegistry id form sinks).2.world.store
      unfold createRegistry
      split
      · exact .refl _
      · split
        · exact .refl _
        · exact @halloc _ (.registry s.registries.size) ⟨rfl, trivial⟩
  | perform id operation => exact does_given fun r _ => s.does_onObject r operation
  | fileContent path => exact .refl _
  | files => exact .refl _

/-! ## Reading commands -/

theorem functions_of_isReading {command : Command} (h : command.isReading = true) :
    command.functions = [] := by
  cases command with
  | perform id operation => cases operation <;> first | rfl | cases h
  | fileContent | files => rfl
  | _ => cases h

theorem isSampling_of_isReading {command : Command} (h : command.isReading = true) :
    command.isSampling = false := by
  cases command with
  | perform id operation => cases operation <;> first | rfl | cases h
  | fileContent | files => rfl
  | _ => cases h

theorem reads_execute {s : Session} {command : Command} (h : command.isReading = true) :
    s.world.store.ReachesBy (fun a => a.isRead = true) (s.execute command).2.world.store := by
  obtain ⟨actions, hdoes, hrun⟩ := s.does_execute command
  refine ⟨actions, fun a ha => isRead_of_permitted ?_, hrun⟩
  have hpermitted := (hdoes a ha).1
  rw [Command.Permits, isSampling_of_isReading h, h, functions_of_isReading h] at hpermitted
  exact hpermitted

theorem onMetric_of_isReading {s : Session} {operation : Operation}
    (h : operation.isReading = true) (r : Ref) :
    (s.onMetric r operation).2 = s.withStore (s.onMetric r operation).2.world.store := by
  cases operation with
  | count | meterCount | value | describe | meterRate => rfl
  | properties | counterOf | calls | size | running | get | names | contains | views | snapshot =>
      simp only [onMetric]
      rw [onKind_snd]
      rfl
  | _ => cases h

/-- **A reading command leaves all but the store alone.** -/
theorem execute_of_isReading {s : Session} {command : Command} (h : command.isReading = true) :
    (s.execute command).2 = s.withStore (s.execute command).2.world.store := by
  have hobject {operation : Operation} (h : operation.isReading = true) (r : Ref) :
      (s.onObject r operation).2 = s.withStore (s.onObject r operation).2.world.store := by
    have hmetric := onMetric_of_isReading (s := s) h r
    unfold onObject
    split
    · split
      · cases operation with
        | describe => exact hmetric
        | _ => first | rfl | cases h
      · rfl
    · split
      · cases operation with
        | describe => exact hmetric
        | _ => first | rfl | cases h
      · rfl
    · exact hmetric
  cases command with
  | perform id operation =>
      show (s.given (s.find id) _).2 = s.withStore (s.given (s.find id) _).2.world.store
      cases s.find id with
      | error fault => rfl
      | ok r => exact hobject h r
  | fileContent | files => rfl
  | _ => cases h

/-! ## Steps -/

/-- No session takes an object away or turns it into another kind. -/
theorem grows_run (s : Session) (commands : List Command) :
    s.world.store.Grows (s.run commands).2.world.store := by
  induction commands generalizing s with
  | nil => exact .refl _
  | cons command rest ih =>
      have hstep : s.world.store.Grows (s.step command).2.world.store :=
        (s.drained.does_execute command).reaches.grows
      exact hstep.trans (ih (s.step command).2)

/-- Commands that do not sample leave every meter as it is. -/
theorem get?_step_of_not_isSampling {s : Session} {command : Command}
    (h : command.isSampling = false) {r : Ref} {m : Metric} (hview : m.isView = true)
    (hr : s.world.store.get? r = some m) : (s.step command).2.world.store.get? r = some m := by
  obtain ⟨actions, hdoes, hrun⟩ := s.drained.does_execute command
  show (s.drained.execute command).2.world.store.get? r = some m
  rw [hrun]
  refine Store.get?_run_of_not_samples hview hr fun a ha => ?_
  cases hsamples : a.samples r with
  | false => rfl
  | true =>
      rw [Store.eq_sample_of_samples hsamples] at ha
      have hsampling : command.isSampling = true := (hdoes _ ha).1
      rw [h] at hsampling
      cases hsampling

/-- A steady store stays steady, if the functions that a command offers are steady. -/
theorem steady_step {s : Session} (hs : s.world.store.Steady) {command : Command}
    (h : ∀ answers ∈ command.functions, (Source.script answers).Steady) :
    (s.step command).2.world.store.Steady := by
  obtain ⟨actions, hdoes, hrun⟩ := s.drained.does_execute command
  show (s.drained.execute command).2.world.store.Steady
  rw [hrun]
  refine hs.run fun source hmem => ?_
  obtain ⟨answers, hanswers, rfl⟩ := (hdoes _ hmem).1
  exact h answers hanswers

/-- **A reading command leaves a session as it was**, if its function gauges are steady: nothing that
is done later can tell. -/
theorem alike_step_of_isReading {s : Session} (hs : s.world.store.Steady) {command : Command}
    (h : command.isReading = true) :
    (s.step command).2.drained.Alike s.world.host.loggers s.world.host.loggers s.drained := by
  have hstore : (s.step command).2.world.store.Alike s.world.store := by
    obtain ⟨actions, hreads, hrun⟩ := reads_execute (s := s.drained) h
    show (s.drained.execute command).2.world.store.Alike s.world.store
    rw [hrun]
    exact hs.alike_run hreads
  have hrest : (s.step command).2 = s.drained.withStore (s.step command).2.world.store :=
    execute_of_isReading (s := s.drained) h
  rw [hrest]
  exact ⟨⟨hstore, Host.alike_self s.world.host.drained⟩, rfl, rfl, rfl⟩

end Session

end Telemetry
