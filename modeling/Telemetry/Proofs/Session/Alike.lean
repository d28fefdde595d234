import Telemetry.Proofs.Registry.Levels
import Telemetry.Proofs.Session.Step

/-!
# Sessions in step

Two sessions are alike if they have the same updaters, registries and identifiers in worlds that are
alike. A command that is given to both has the same reply, and leaves them alike. For this they need
not have the same levels of loggers, as long as what is shown in messages of the one session only
changes no answer by being shown.

Main statement: `alike_step` (one command in two sessions that are alike).
-/

namespace Telemetry

namespace Session

variable {l m : Loggers}

/-! ## What is shown -/

/-- What an operation on an updater shows in messages. -/
def shownByUpdater (s : Session) (u : Updater) : Operation → List Showing
  | .remove id => match s.find id with
    | .ok view => u.shownByRemove view s.world
    | .error _ => []
  | .updateAll => Updater.shownByRound u.views s.world
  | _ => []

/-- What an operation on a registry shows in messages. -/
def shownByRegistry (s : Session) (reg : Registry) : Operation → List Showing
  | .unregister name => reg.shownByUnregister name s.world
  | .updateViews => Updater.shownByRound reg.updater.views s.world
  | _ => []

/-- What an operation on an object shows in messages. -/
def shownByObject (s : Session) (r : Ref) (operation : Operation) : List Showing :=
  match s.world.store.get? r with
  | some (.updater index) => match s.updaters[index]? with
    | some u => s.shownByUpdater u operation
    | none => []
  | some (.registry index) => match s.registries[index]? with
    | some reg => s.shownByRegistry reg operation
    | none => []
  | _ => []

/-- What a command shows in messages. -/
def shown (s : Session) : Command → List Showing
  | .perform id operation => match s.find id with
    | .ok r => s.shownByObject r operation
    | .error _ => []
  | _ => []

/-! ## Sessions and replies -/

/-- The same updaters, registries and identifiers, in worlds that are alike. -/
structure Alike (l m : Loggers) (s t : Session) : Prop where
  world : s.world.Alike l m t.world
  updaters : s.updaters = t.updaters
  registries : s.registries = t.registries
  ids : s.ids = t.ids

/-- Sessions that are alike differ in their worlds only. -/
theorem Alike.exists {s t : Session} (h : s.Alike l m t) :
    ∃ v, s.world.Alike l m v ∧ t = s.withWorld v := by
  obtain ⟨hworld, hupdaters, hregistries, hids⟩ := h
  refine ⟨t.world, hworld, ?_⟩
  rw [withWorld, hupdaters, hregistries, hids]

theorem Alike.trans {s t u : Session} (hst : s.Alike l l t) (htu : t.Alike l l u) :
    s.Alike l l u where
  world := ⟨hst.world.store.trans htu.world.store, hst.world.host.trans htu.world.host⟩
  updaters := hst.updaters.trans htu.updaters
  registries := hst.registries.trans htu.registries
  ids := hst.ids.trans htu.ids

theorem alike_withWorld {s : Session} {v : World} (h : s.world.Alike l m v) :
    s.Alike l m (s.withWorld v) := ⟨h, rfl, rfl, rfl⟩

/-- The same reply, and sessions that are alike afterwards. -/
structure InStepWith (l m : Loggers) (x y : Except Fault Reply × Session) : Prop where
  reply : x.1 = y.1
  session : x.2.Alike l m y.2

variable {s : Session} {v : World}

theorem kindOf_withWorld (h : s.world.Alike l m v) (r : Ref) :
    (s.withWorld v).kindOf r = s.kindOf r := by
  show ((v.store.get? r).map Metric.typeName).getD _ =
    ((s.world.store.get? r).map Metric.typeName).getD _
  rw [h.store.map_get? (f := Metric.typeName) r fun _ _ => rfl]

theorem locate_withWorld (h : s.world.Alike l m v) : (s.withWorld v).locate = s.locate := by
  funext r
  rw [locate, kindOf_withWorld h]
  rfl

theorem alike_refuse (h : s.world.Alike l m v) (r : Ref) (operation : Operation) :
    InStepWith l m (s.refuse r operation) ((s.withWorld v).refuse r operation) := by
  refine ⟨?_, alike_withWorld h⟩
  rw [refuse, refuse, kindOf_withWorld h]

theorem alike_given {α : Type} (h : s.world.Alike l m v) (found : Except Fault α)
    {next next' : α → Except Fault Reply × Session} (hnext : ∀ a, InStepWith l m (next a) (next' a)) :
    InStepWith l m (s.given found next) ((s.withWorld v).given found next') := by
  cases found with
  | error fault => exact ⟨rfl, alike_withWorld h⟩
  | ok a => exact hnext a

theorem alike_createObject (h : s.world.Alike l m v) (id : String)
    {built built' : Except Fault (Ref × Store)}
    (hbuilt : Fault.Match Store.SameAnswer built built') :
    InStepWith l m (s.create id built) ((s.withWorld v).create id built') := by
  cases hbuilt with
  | error fault => exact ⟨rfl, alike_withWorld h⟩
  | ok hmade =>
      obtain ⟨r, store, store', rfl, rfl, hstore⟩ := hmade.exists
      refine ⟨?_, ⟨h.withStore hstore, rfl, rfl, rfl⟩⟩
      show Except.ok (Reply.text (((store.get? r).map Metric.typeName).getD _)) =
        .ok (.text (((store'.get? r).map Metric.typeName).getD _))
      rw [hstore.map_get? (f := Metric.typeName) r fun _ _ => rfl]

/-! ## Metrics -/

theorem alike_changed (h : s.world.Alike l m v) {done done' : Except Fault Store}
    (hdone : Fault.Match Store.Alike done done') :
    InStepWith l m (s.changed done) ((s.withWorld v).changed done') := by
  cases hdone with
  | error fault => exact ⟨rfl, alike_withWorld h⟩
  | ok hstore => exact ⟨rfl, ⟨h.withStore hstore, rfl, rfl, rfl⟩⟩

theorem alike_reading {α : Type} (h : s.world.Alike l m v) (reply : α → Reply)
    {read read' : Except Fault α × Store} (hread : Store.SameAnswer read read') :
    InStepWith l m (s.reading reply read) ((s.withWorld v).reading reply read') :=
  ⟨congrArg (Except.map reply) hread.1, ⟨h.withStore hread.2, rfl, rfl, rfl⟩⟩

theorem alike_sampleReply (h : s.world.Alike l m v) (r : Ref) :
    InStepWith l m (s.sampleReply r) ((s.withWorld v).sampleReply r) := by
  obtain ⟨answer, store, store', hs, ht, hstore⟩ := (Store.alike_sample h.store r).exists
  have ht : (s.withWorld v).world.store.sample r = (answer, store') := ht
  simp only [sampleReply, hs, ht]
  cases answer with
  | error fault => exact ⟨rfl, ⟨h.withStore hstore, rfl, rfl, rfl⟩⟩
  | ok _ =>
      refine ⟨?_, ⟨h.withStore hstore, rfl, rfl, rfl⟩⟩
      dsimp only
      rw [Store.alike_meterRate hstore]

theorem alike_refuseCall {α : Type} (h : s.world.Alike l m v) (r : Ref) (found : Except Fault α) :
    InStepWith l m (s.refuseCall r found) ((s.withWorld v).refuseCall r found) := by
  refine alike_given h found fun _ => ⟨?_, alike_withWorld h⟩
  rw [kindOf_withWorld h]

theorem alike_onKind (h : s.world.Alike l m v) (r : Ref) (operation : Operation) :
    InStepWith l m (s.onKind r operation) ((s.withWorld v).onKind r operation) := by
  have hrefuse := alike_refuse h r operation
  rcases h.store.metrics r with ⟨hs, ht⟩ | ⟨x, x', hs, ht, hx⟩
  · have ht : (s.withWorld v).world.store.get? r = none := ht
    simp only [onKind, hs, ht]
    exact hrefuse
  · have ht : (s.withWorld v).world.store.get? r = some x' := ht
    simp only [onKind, hs, ht]
    cases hx with
    | function => cases operation <;> exact hrefuse
    | same =>
        split
        · exact ⟨rfl, alike_withWorld h⟩
        · exact ⟨by rw [locate_withWorld h], alike_withWorld h⟩
        · exact alike_refuseCall h _ _
        · exact alike_refuseCall h _ _
        · exact ⟨rfl, alike_withWorld h⟩
        · exact hrefuse

theorem alike_onMetric (h : s.world.Alike l m v) (r : Ref) (operation : Operation) :
    InStepWith l m (s.onMetric r operation) ((s.withWorld v).onMetric r operation) := by
  cases operation with
  | change c amount => exact alike_changed h (Store.alike_change h.store c r amount)
  | recordEvent amount => exact alike_changed h (Store.alike_recordEvent h.store r amount)
  | assign x => exact alike_changed h (Store.alike_assign h.store r x)
  | count => exact alike_reading h _ (Store.alike_count h.store r)
  | meterCount => exact alike_reading h _ (Store.alike_meterCount h.store r)
  | value => exact alike_reading h _ (Store.alike_value h.store r)
  | describe => exact alike_reading h _ (Store.alike_describe h.store r)
  | meterRate =>
      refine ⟨?_, alike_withWorld h⟩
      show (s.world.store.meterRate r).map _ = (v.store.meterRate r).map _
      rw [Store.alike_meterRate h.store]
  | sample => exact alike_sampleReply h r
  | _ =>
      simp only [onMetric]
      exact alike_onKind h r _

/-! ## Updaters -/

theorem alike_onUpdater (h : s.world.Alike l m v) (r : Ref) (index : Nat) (u : Updater)
    (operation : Operation)
    (hshown : ∀ shown ∈ s.shownByUpdater u operation, shown.Harmless l m) :
    InStepWith l m (s.onUpdater r index u operation)
      ((s.withWorld v).onUpdater r index u operation) := by
  cases operation with
  | add id => exact alike_given h (s.find id) fun view => ⟨rfl, ⟨h, rfl, rfl, rfl⟩⟩
  | remove id =>
      simp only [shownByUpdater] at hshown
      show InStepWith l m (s.given (s.find id) _) ((s.withWorld v).given (s.find id) _)
      cases hfind : s.find id with
      | error fault => exact ⟨rfl, alike_withWorld h⟩
      | ok view =>
          rw [hfind] at hshown
          obtain ⟨hupdater, hafter⟩ := Updater.alike_remove h u view hshown
          refine ⟨rfl, ⟨hafter, ?_, rfl, rfl⟩⟩
          exact congrArg (s.updaters.setIfInBounds index) hupdater
  | updateAll => exact ⟨rfl, ⟨Updater.alike_updateAll h u.views hshown, rfl, rfl, rfl⟩⟩
  | start =>
      simp only [onUpdater]
      split
      · exact ⟨rfl, ⟨h, rfl, rfl, rfl⟩⟩
      · exact ⟨rfl, alike_withWorld h⟩
  | stop => exact ⟨rfl, ⟨h, rfl, rfl, rfl⟩⟩
  | size | running => exact ⟨rfl, alike_withWorld h⟩
  | describe => exact alike_onMetric h r .describe
  | _ =>
      simp only [onUpdater]
      exact alike_refuse h r _

/-! ## Registries -/

theorem alike_settled {α : Type} (index : Nat) (reply : α → Reply)
    {done done' : Except Fault α × Registry × World} (hdone : Registry.SameDone l m done done') :
    InStepWith l m (s.settled index reply done) ((s.withWorld v).settled index reply done') := by
  refine ⟨congrArg (Except.map reply) hdone.result, ⟨hdone.world, rfl, ?_, rfl⟩⟩
  exact congrArg (s.registries.setIfInBounds index) hdone.registry

theorem alike_registered (index : Nat) (id : Option String)
    {done done' : Except Fault Ref × Registry × World} (hdone : Registry.SameDone l m done done') :
    InStepWith l m (s.registered index id done) ((s.withWorld v).registered index id done') := by
  obtain ⟨result, reg, w, w', rfl, rfl, hw⟩ := hdone.exists
  cases result with
  | error fault => exact ⟨rfl, ⟨hw, rfl, rfl, rfl⟩⟩
  | ok r =>
      have hkind : ((w.store.get? r).map Metric.typeName).getD "NoneType" =
          ((w'.store.get? r).map Metric.typeName).getD "NoneType" := by
        rw [hw.store.map_get? (f := Metric.typeName) r fun _ _ => rfl]
      cases id with
      | none => exact ⟨congrArg (Except.ok ∘ Reply.text) hkind, ⟨hw, rfl, rfl, rfl⟩⟩
      | some id => exact ⟨congrArg (Except.ok ∘ Reply.text) hkind, ⟨hw, rfl, rfl, rfl⟩⟩

theorem alike_onRegistry (h : s.world.Alike l m v) (r : Ref) (index : Nat) (reg : Registry)
    (operation : Operation)
    (hshown : ∀ shown ∈ s.shownByRegistry reg operation, shown.Harmless l m) :
    InStepWith l m (s.onRegistry r index reg operation)
      ((s.withWorld v).onRegistry r index reg operation) := by
  cases operation with
  | register id name metric =>
      refine alike_given h (s.metricArgument metric) fun metric => alike_registered index id ?_
      obtain ⟨hresult, hregistry, hworld⟩ := Registry.alike_register h reg name metric
      exact ⟨congrArg (Except.map fun _ => metric) hresult, hregistry, hworld⟩
  | counter id name given =>
      exact alike_given h (s.find? given) fun counter =>
        alike_registered index id (Registry.alike_counter h reg name counter)
  | gauge id name offer =>
      exact alike_given h (s.offer offer) fun offer =>
        alike_registered index id (Registry.alike_gauge h reg name offer)
  | meter id name counter span =>
      exact alike_given h (s.find? counter) fun counter =>
        alike_registered index id (Registry.alike_meter h reg name counter span)
  | gaugeMeter id name offer span =>
      exact alike_given h (s.offer offer) fun offer =>
        alike_registered index id (Registry.alike_gaugeMeter h reg name offer span)
  | unregister name =>
      show InStepWith l m _ ((s.withWorld v).settled index (s.withWorld v).locate _)
      rw [locate_withWorld h]
      exact alike_settled index _ (Registry.alike_unregister h reg name hshown)
  | get name =>
      refine ⟨?_, alike_withWorld h⟩
      show (reg.get name).map s.locate = (reg.get name).map (s.withWorld v).locate
      rw [locate_withWorld h]
  | updateViews => exact ⟨rfl, ⟨Updater.alike_updateAll h reg.updater.views hshown, rfl, rfl, rfl⟩⟩
  | snapshot =>
      obtain ⟨hanswer, hafter⟩ := Registry.alike_snapshot h reg
      exact ⟨congrArg (Except.map Reply.pairs) hanswer, ⟨hafter, rfl, rfl, rfl⟩⟩
  | report now => exact alike_settled index _ (Registry.alike_report h reg now)
  | start => exact alike_settled index _ (Registry.alike_start h reg)
  | enter => exact alike_settled index _ (Registry.alike_start h reg)
  | leave | close =>
      obtain ⟨hregistry, hafter⟩ := Registry.alike_close h reg
      refine ⟨rfl, ⟨hafter, rfl, ?_, rfl⟩⟩
      exact congrArg (s.registries.setIfInBounds index) hregistry
  | names | contains | size | views | running | counterOf => exact ⟨rfl, alike_withWorld h⟩
  | assignSetting name x => exact ⟨rfl, ⟨h, rfl, rfl, rfl⟩⟩
  | describe => exact alike_onMetric h r .describe
  | _ =>
      simp only [onRegistry]
      exact alike_refuse h r _

/-! ## Commands -/

theorem alike_onObject (h : s.world.Alike l m v) (r : Ref) (operation : Operation)
    (hshown : ∀ shown ∈ s.shownByObject r operation, shown.Harmless l m) :
    InStepWith l m (s.onObject r operation) ((s.withWorld v).onObject r operation) := by
  have hmetric := alike_onMetric h r operation
  unfold shownByObject at hshown
  rcases h.store.metrics r with ⟨hs, ht⟩ | ⟨x, x', hs, ht, hx⟩
  · have ht : (s.withWorld v).world.store.get? r = none := ht
    simp only [onObject, hs, ht]
    exact hmetric
  · have ht : (s.withWorld v).world.store.get? r = some x' := ht
    simp only [onObject, hs, ht] at hshown ⊢
    cases hx with
    | function => exact hmetric
    | same =>
        cases x with
        | updater index =>
            show InStepWith l m (match s.updaters[index]? with | some u => _ | none => _)
              (match s.updaters[index]? with | some u => _ | none => _)
            cases hindex : s.updaters[index]? with
            | none => exact alike_refuse h r operation
            | some u =>
                simp only [hindex] at hshown
                exact alike_onUpdater h r index u operation hshown
        | registry index =>
            show InStepWith l m (match s.registries[index]? with | some reg => _ | none => _)
              (match s.registries[index]? with | some reg => _ | none => _)
            cases hindex : s.registries[index]? with
            | none => exact alike_refuse h r operation
            | some reg =>
                simp only [hindex] at hshown
                exact alike_onRegistry h r index reg operation hshown
        | _ => exact hmetric

theorem alike_createRegistry (h : s.world.Alike l m v) (id : String) (form : Settings.Form)
    (sinks : List Sink) :
    InStepWith l m (s.createRegistry id form sinks)
      ((s.withWorld v).createRegistry id form sinks) := by
  have hinterval : (s.withWorld v).world.host.processInterval = s.world.host.processInterval :=
    h.host.processInterval.symm
  unfold createRegistry
  rw [hinterval]
  split
  · exact ⟨rfl, alike_withWorld h⟩
  · next settings _ =>
    obtain ⟨hresult, hafter⟩ := Registry.alike_create h.host settings sinks
    dsimp only
    cases hs : Registry.create settings sinks s.world.host with
    | mk result host =>
        have ht : Registry.create settings sinks (s.withWorld v).world.host =
            (result, (Registry.create settings sinks v.host).2) := by
          rw [hs] at hresult
          exact Prod.ext hresult.symm rfl
        rw [ht]
        rw [hs] at hafter
        cases result with
        | error fault => exact ⟨rfl, ⟨⟨h.store, hafter⟩, rfl, rfl, rfl⟩⟩
        | ok reg =>
            obtain ⟨href, hstore⟩ := h.store.alloc (.registry s.registries.size)
            refine ⟨rfl, ⟨⟨hstore, hafter⟩, rfl, rfl, ?_⟩⟩
            exact congrArg (s.ids.set id) href

theorem alike_createUpdater (h : s.world.Alike l m v) (id : String) (interval : Value) :
    InStepWith l m (s.createUpdater id interval) ((s.withWorld v).createUpdater id interval) := by
  unfold createUpdater
  split
  · exact ⟨rfl, alike_withWorld h⟩
  · exact alike_createObject (s := { s with updaters := s.updaters.push _ }) h id
      (.ok (h.store.alloc (.updater s.updaters.size)))

theorem alike_execute (h : s.world.Alike l m v) (command : Command)
    (hshown : ∀ shown ∈ s.shown command, shown.Harmless l m) :
    InStepWith l m (s.execute command) ((s.withWorld v).execute command) := by
  have halloc (x : Metric) : Fault.Match Store.SameAnswer (.ok (s.world.store.alloc x))
      (.ok (v.store.alloc x)) := .ok (h.store.alloc x)
  cases command with
  | newCounter id initial => exact alike_createObject h id (Store.alike_newCounter h.store initial)
  | newGauge id x => exact alike_createObject h id (halloc _)
  | newFunctionGauge id offer =>
      cases offer with
      | function answers => exact alike_createObject h id (halloc _)
      | object _ => exact alike_createObject h id (.error _)
      | value _ => exact alike_createObject h id (.error _)
  | newGaugeCounter id gauge =>
      exact alike_given h (s.find gauge) fun gauge => alike_createObject h id (halloc _)
  | newMeter id counter span interval =>
      refine alike_given h (s.find? counter) fun counter => alike_createObject h id ?_
      show Fault.Match _ _
        (v.store.newMeter v.host.room _ _ (Registry.intervalOf v.host.processInterval _))
      rw [← h.host.processInterval, ← h.host.room]
      exact Store.alike_newMeter h.store _ counter span _
  | newGaugeMeter id gauge span interval =>
      refine alike_given h (s.find gauge) fun gauge => alike_createObject h id ?_
      show Fault.Match _ _
        (v.store.newGaugeMeter v.host.room _ _ (Registry.intervalOf v.host.processInterval _))
      rw [← h.host.processInterval, ← h.host.room]
      exact Store.alike_newGaugeMeter h.store _ gauge span _
  | newView id failure => exact alike_createObject h id (halloc _)
  | newMarker id => exact alike_createObject h id (halloc _)
  | newUpdater id interval => exact alike_createUpdater h id interval
  | newRegistry id form sinks => exact alike_createRegistry h id form sinks
  | perform id operation =>
      simp only [shown] at hshown
      show InStepWith l m (s.given (s.find id) _) ((s.withWorld v).given (s.find id) _)
      cases hfind : s.find id with
      | error fault => exact ⟨rfl, alike_withWorld h⟩
      | ok r =>
          rw [hfind] at hshown
          exact alike_onObject h r operation hshown
  | fileContent path =>
      refine ⟨?_, alike_withWorld h⟩
      show (s.world.host.files.read _).map _ = (v.host.files.read _).map _
      rw [h.host.files]
  | files =>
      refine ⟨?_, alike_withWorld h⟩
      show Except.ok (Reply.names s.world.host.files.files.keys) = .ok (.names v.host.files.files.keys)
      rw [h.host.files]

/-! ## Steps -/

/-- A session that has dropped what was recorded. -/
def drained (s : Session) : Session := s.withHost s.world.host.drained

theorem Alike.drained {t : Session} (h : s.Alike l m t) : s.drained.Alike l m t.drained :=
  ⟨⟨h.world.store, h.world.host.drained⟩, h.updaters, h.registries, h.ids⟩

/-- The same reply and the same calls of recording sinks, and the same records under the same levels.
-/
structure SameOutcome (l m : Loggers) (x y : StepOutcome) : Prop where
  result : x.result = y.result
  calls : x.calls = y.calls
  records : l = m → x.records = y.records

theorem SameOutcome.eq {x y : StepOutcome} (h : SameOutcome l l x y) : x = y := by
  obtain ⟨hresult, hcalls, hrecords⟩ := h
  cases x
  cases y
  simp_all

/-- **One command in two sessions that are alike** has the same outcome and leaves them alike, if
what it shows in messages of one session only may be shown. What had been recorded before is dropped
first, and need not have been the same. -/
theorem alike_step {t : Session} (h : s.drained.Alike l m t.drained) (command : Command)
    (hshown : ∀ shown ∈ s.drained.shown command, shown.Harmless l m) :
    SameOutcome l m (s.step command).1 (t.step command).1 ∧
      (s.step command).2.Alike l m (t.step command).2 := by
  obtain ⟨v, hv, ht⟩ := h.exists
  obtain ⟨hreply, hafter⟩ := alike_execute hv command hshown
  rw [← ht] at hreply hafter
  exact ⟨⟨hreply, hafter.world.host.calls, hafter.world.host.records⟩, hafter⟩

end Session

end Telemetry
