import Telemetry.Proofs.Registry.Call
import Telemetry.Proofs.Store.Alike

/-!
# Registries under two settings of levels

The levels of loggers decide which messages are kept, and a message that shows an object is formed
only if it is kept. Two runs that differ in the levels alone therefore differ in their records, and
in what the showing of objects does to function gauges. Where a message that is kept by one setting
only shows an object whose showing changes no answer, all else stays in step: stores are alike, and
registries, sinks, files and the calls of recording sinks are the same.

Main statements: `World.Alike.logAbout` (the one place where levels can matter), `alike_updateAll`,
`alike_unregister` and `alike_report` (rounds, removals and reports under two settings of levels).
-/

namespace Telemetry

/-! ## Levels -/

/-- Whether messages of a logger at an integer level are kept. -/
def Loggers.Keeps (loggers : Loggers) (logger : String) (level : Int) : Prop :=
  0 < level ∧ loggers.effective logger ≤ level

theorem Host.keeps_iff {host : Host} {logger : String} {level : Int} :
    host.keeps logger level = true ↔ host.loggers.Keeps logger level :=
  decide_eq_true_iff

/-- A message that shows an object: its level, the object, and the store as it is then. -/
structure Showing where
  level : Int
  store : Store
  ref : Ref

/-- Two settings of levels agree about a message, or it changes no answer to show its object. -/
def Showing.Harmless (l m : Loggers) (shown : Showing) : Prop :=
  (l.Keeps World.logger shown.level ↔ m.Keeps World.logger shown.level) ∨
    (shown.store.describe shown.ref).2.Alike shown.store

theorem Showing.harmless_self (l : Loggers) (shown : Showing) : shown.Harmless l l := .inl .rfl

variable {l m : Loggers}

/-! ## Hosts and worlds -/

/-- Two hosts with these levels that have kept different records at most, and the same ones if the
levels are the same. -/
structure Host.Alike (l m : Loggers) (a b : Host) : Prop where
  left : a.loggers = l
  right : b.loggers = m
  processInterval : a.processInterval = b.processInterval
  room : a.room = b.room
  summaries : a.summaries = b.summaries
  files : a.files = b.files
  calls : a.calls = b.calls
  records : l = m → a.records = b.records

namespace Host

variable {a b : Host}

theorem Alike.eq (h : a.Alike l l b) : a = b := by
  obtain ⟨hleft, hright, hinterval, hroom, hsummaries, hfiles, hcalls, hrecords⟩ := h
  cases a
  cases b
  simp_all

theorem Alike.trans {c : Host} (hab : a.Alike l l b) (hbc : b.Alike l l c) : a.Alike l l c :=
  hab.eq ▸ hbc

theorem alike_self (a : Host) : a.Alike a.loggers a.loggers a :=
  ⟨rfl, rfl, rfl, rfl, rfl, rfl, rfl, fun _ => rfl⟩

/-- Hosts stay alike, whatever is recorded in the one and the other. -/
theorem Alike.withRecords (h : a.Alike l m b) {left right : List Record}
    (hrecords : l = m → left = right) :
    ({ a with records := left } : Host).Alike l m { b with records := right } :=
  ⟨h.left, h.right, h.processInterval, h.room, h.summaries, h.files, h.calls, hrecords⟩

theorem Alike.withFiles (h : a.Alike l m b) (files : FileTree) :
    ({ a with files } : Host).Alike l m { b with files } :=
  ⟨h.left, h.right, h.processInterval, h.room, h.summaries, rfl, h.calls, h.records⟩

theorem Alike.addCall (h : a.Alike l m b) (call : SinkCall) :
    (a.addCall call).Alike l m (b.addCall call) :=
  ⟨h.left, h.right, h.processInterval, h.room, h.summaries, h.files, congrArg (· ++ [call]) h.calls,
    h.records⟩

theorem Alike.drained (h : a.Alike l m b) : a.drained.Alike l m b.drained :=
  ⟨h.left, h.right, h.processInterval, h.room, h.summaries, h.files, rfl, fun _ => rfl⟩

theorem Alike.log (h : a.Alike l m b) (logger : String) (level : Int) (message : String)
    (cause : Option Fault) :
    (a.log logger level message cause).Alike l m (b.log logger level message cause) := by
  obtain ⟨left, hleft⟩ := a.log_eq logger level message cause
  obtain ⟨right, hright⟩ := b.log_eq logger level message cause
  rw [hleft, hright]
  refine h.withRecords fun heq => ?_
  subst heq
  have hboth := hright
  rw [← h.eq, hleft] at hboth
  exact congrArg Host.records hboth

end Host

/-- Two worlds with alike stores on alike hosts. -/
structure World.Alike (l m : Loggers) (w v : World) : Prop where
  store : w.store.Alike v.store
  host : w.host.Alike l m v.host

namespace World

variable {w v : World}

theorem Alike.withStore (h : w.Alike l m v) {s t : Store} (hst : s.Alike t) :
    ({ w with store := s } : World).Alike l m { v with store := t } :=
  ⟨hst, h.host⟩

theorem Alike.log (h : w.Alike l m v) (level : Int) (message : String) (cause : Option Fault) :
    (w.log level message cause).Alike l m (v.log level message cause) :=
  ⟨h.store, h.host.log _ _ _ _⟩

theorem log_eq (w : World) (level : Int) (message : String) (cause : Option Fault) :
    ∃ records, w.log level message cause = { w with host := { w.host with records } } := by
  obtain ⟨records, hlog⟩ := w.host.log_eq logger level message cause
  exact ⟨records, congrArg (World.mk w.store) hlog⟩

/-- The world after a warning, if something went wrong. -/
def warned (w : World) (message : String) (result : Except Fault Unit) : World :=
  match result with
  | .ok () => w
  | .error fault => w.log Level.warning message (some fault)

/-- Under different levels a warning may be due in the one world only; it shows in records only. -/
theorem Alike.warned (h : w.Alike l m v) (message : String) {x y : Except Fault Unit}
    (hxy : l = m → x = y) : (w.warned message x).Alike l m (v.warned message y) := by
  have hrecords (w : World) (x : Except Fault Unit) :
      ∃ records, w.warned message x = { w with host := { w.host with records } } := by
    cases x with
    | ok _ => exact ⟨w.host.records, rfl⟩
    | error fault => exact w.log_eq _ _ _
  by_cases heq : l = m
  · cases hxy heq
    cases x with
    | ok _ => exact h
    | error fault => exact h.log _ _ _
  · obtain ⟨left, hleft⟩ := hrecords w x
    obtain ⟨right, hright⟩ := hrecords v y
    rw [hleft, hright]
    exact ⟨h.store, h.host.withRecords fun hsame => absurd hsame heq⟩

/-- **A message that shows an object keeps worlds in step**, if it is harmless. -/
theorem Alike.logAbout (h : w.Alike l m v) {level : Int} {r : Ref}
    (hshown : Showing.Harmless l m ⟨level, w.store, r⟩) (before after : String)
    (cause : Option Fault) :
    (w.logAbout level before r after cause).Alike l m (v.logAbout level before r after cause) := by
  obtain ⟨hanswer, hdescribed⟩ := Store.alike_describe h.store r
  have hleft : w.host.keeps logger level = true ↔ l.Keeps logger level := by
    rw [Host.keeps_iff, h.host.left]
  have hright : v.host.keeps logger level = true ↔ m.Keeps logger level := by
    rw [Host.keeps_iff, h.host.right]
  unfold World.logAbout
  by_cases hl : w.host.keeps logger level = true <;>
    by_cases hm : v.host.keeps logger level = true
  · rw [if_pos hl, if_pos hm]
    refine ⟨hdescribed, h.host.withRecords fun heq => ?_⟩
    rw [h.host.records heq, hanswer]
  · rw [if_pos hl, if_neg hm]
    -- only the left run shows the object
    rcases hshown with hiff | hinert
    · exact absurd (hright.mpr (hiff.mp (hleft.mp hl))) hm
    · refine ⟨hinert.trans h.store, h.host.withRecords fun heq => ?_⟩
      rw [hright, ← heq, ← hleft] at hm
      exact absurd hl hm
  · rw [if_neg hl, if_pos hm]
    -- only the right run shows the object, and it shows what the left run would have shown
    rcases hshown with hiff | hinert
    · exact absurd (hleft.mpr (hiff.mpr (hright.mp hm))) hl
    · refine ⟨(h.store.trans (h.store.symm.trans hinert.symm)).trans hdescribed,
        h.host.withRecords fun heq => ?_⟩
      rw [hleft, heq, ← hright] at hl
      exact absurd hm hl
  · rw [if_neg hl, if_neg hm]
    exact h

end World

/-! ## Updaters -/

namespace Updater

/-- What is shown when a view is removed: a view that is not listed. -/
def shownByRemove (u : Updater) (view : Ref) (w : World) : List Showing :=
  if view ∈ u.views then [] else [⟨Level.debug, w.store, view⟩]

/-- What is shown when a view is sampled: a view that fails, as it is after that. -/
def shownBySample (w : World) (view : Ref) : List Showing :=
  match w.store.sample view with
  | (.ok (), _) => []
  | (.error _, store) => [⟨Level.warning, store, view⟩]

/-- What is shown in a round: the views that fail. -/
def shownByRound : List Ref → World → List Showing
  | [], _ => []
  | view :: rest, w => shownBySample w view ++ shownByRound rest (sampleView w view)

theorem alike_remove {w v : World} (h : w.Alike l m v) (u : Updater) (view : Ref)
    (hshown : ∀ shown ∈ u.shownByRemove view w, shown.Harmless l m) :
    (u.remove view w).1 = (u.remove view v).1 ∧ (u.remove view w).2.Alike l m (u.remove view v).2 := by
  unfold shownByRemove at hshown
  unfold remove
  split at hshown
  · next hlisted =>
    rw [if_pos hlisted, if_pos hlisted]
    exact ⟨rfl, h⟩
  · next hlisted =>
    rw [if_neg hlisted, if_neg hlisted]
    exact ⟨rfl, h.logAbout (hshown _ (List.mem_singleton_self _)) _ _ _⟩

theorem alike_sampleView {w v : World} (h : w.Alike l m v) (view : Ref)
    (hshown : ∀ shown ∈ shownBySample w view, shown.Harmless l m) :
    (sampleView w view).Alike l m (sampleView v view) := by
  obtain ⟨answer, s, t, hs, ht, hst⟩ := (Store.alike_sample h.store view).exists
  simp only [shownBySample, hs] at hshown
  simp only [sampleView, hs, ht]
  cases answer with
  | ok _ => exact h.withStore hst
  | error fault =>
      exact (h.withStore hst).logAbout (hshown _ (List.mem_singleton_self _)) _ _ _

/-- **Under two settings of levels a round leaves worlds in step**, if the views that fail may be
shown. -/
theorem alike_updateAll {w v : World} (h : w.Alike l m v) (views : List Ref)
    (hshown : ∀ shown ∈ shownByRound views w, shown.Harmless l m) :
    (updateAll views w).Alike l m (updateAll views v) := by
  induction views generalizing w v with
  | nil => exact h
  | cons view rest ih =>
      rw [shownByRound] at hshown
      have hfirst := alike_sampleView h view fun shown hmem =>
        hshown shown (List.mem_append_left _ hmem)
      exact ih hfirst fun shown hmem => hshown shown (List.mem_append_right _ hmem)

end Updater

/-! ## Sinks -/

/-- What was done with a sink on two hosts: it has become the same sink and the hosts are alike. Only
under different levels may the one end well and the other not, because a message that is not kept
need not be formed. -/
structure Sink.InStep (l m : Loggers) (x y : Except Fault Unit × Sink × Host) : Prop where
  result : l = m → x.1 = y.1
  sink : x.2.1 = y.2.1
  host : x.2.2.Alike l m y.2.2

namespace Sink

variable {a b : Host}

theorem writeLog_eq (level : Value) (logger : String) (event : Event) (host : Host) :
    ∃ records, (writeLog level logger event host).2 = { host with records } := by
  unfold writeLog
  split
  · exact ⟨host.records, rfl⟩
  · exact ⟨host.records, rfl⟩
  · split
    · exact ⟨host.records, rfl⟩
    · split
      · exact ⟨_, rfl⟩
      · exact ⟨host.records, rfl⟩

theorem inStep_writeLog (h : a.Alike l m b) (level : Value) (logger : String) (event : Event) :
    InStep l m ((log level logger).write event a) ((log level logger).write event b) := by
  obtain ⟨left, hleft⟩ := writeLog_eq level logger event a
  obtain ⟨right, hright⟩ := writeLog_eq level logger event b
  refine ⟨fun heq => ?_, rfl, ?_⟩
  · subst heq
    rw [h.eq]
  · show (writeLog level logger event a).2.Alike l m (writeLog level logger event b).2
    rw [hleft, hright]
    refine h.withRecords fun heq => ?_
    subst heq
    have hboth := hright
    rw [← h.eq, hleft] at hboth
    exact congrArg Host.records hboth

theorem inStep_write (h : a.Alike l m b) (event : Event) (sink : Sink) :
    InStep l m (sink.write event a) (sink.write event b) := by
  cases sink with
  | log level logger => exact inStep_writeLog h level logger event
  | lines path place isOpen =>
      simp only [write, writeLine]
      split
      · exact ⟨fun _ => rfl, rfl, h⟩
      · split
        · rw [h.files]
          exact ⟨fun _ => rfl, rfl, h.withFiles _⟩
        · exact ⟨fun _ => rfl, rfl, h⟩
  | summary directory writer events calls => exact ⟨fun _ => rfl, rfl, h⟩
  | recorder name failing refuses =>
      simp only [write, record]
      split
      · exact ⟨fun _ => rfl, rfl, h⟩
      · exact ⟨fun _ => rfl, rfl, h.addCall _⟩
  | guest kind name endings => exact ⟨fun _ => rfl, rfl, h.addCall _⟩

theorem inStep_close (h : a.Alike l m b) (sink : Sink) :
    InStep l m (sink.close a) (sink.close b) := by
  cases sink with
  | log level logger => exact ⟨fun _ => rfl, rfl, h⟩
  | lines path place isOpen => exact ⟨fun _ => rfl, rfl, h⟩
  | summary directory writer events calls => exact ⟨fun _ => rfl, rfl, h⟩
  | recorder name failing refuses => exact ⟨fun _ => rfl, rfl, h.addCall _⟩
  | guest kind name endings => exact ⟨fun _ => rfl, rfl, h.addCall _⟩

theorem alike_buildKind (h : a.Alike l m b) (kind : Value) (entries : Entries Value) :
    (buildKind kind entries a).1 = (buildKind kind entries b).1 ∧
      (buildKind kind entries a).2.Alike l m (buildKind kind entries b).2 := by
  unfold buildKind
  rw [h.files]
  split
  · exact ⟨rfl, h⟩
  · split
    · exact ⟨rfl, h⟩
    · exact ⟨rfl, h.withFiles _⟩
  · rw [h.summaries]
    exact ⟨rfl, h⟩
  · exact ⟨rfl, h⟩

theorem alike_build (h : a.Alike l m b) (spec : Value) :
    (build spec a).1 = (build spec b).1 ∧ (build spec a).2.Alike l m (build spec b).2 := by
  unfold build
  split
  · exact ⟨rfl, h⟩
  · exact alike_buildKind h _ _

theorem alike_buildAll (h : a.Alike l m b) (specs : List Value) :
    (buildAll specs a).1 = (buildAll specs b).1 ∧
      (buildAll specs a).2.Alike l m (buildAll specs b).2 := by
  induction specs generalizing a b with
  | nil => exact ⟨rfl, h⟩
  | cons spec rest ih =>
      obtain ⟨hresult, hafter⟩ := alike_build h spec
      rw [buildAll, buildAll]
      cases ha : build spec a with
      | mk result left =>
          cases hb : build spec b with
          | mk result' right =>
              rw [ha, hb] at hresult hafter
              obtain rfl : result = result' := hresult
              cases result with
              | error fault => exact ⟨rfl, hafter⟩
              | ok sink =>
                  obtain ⟨hrest, hlast⟩ := ih hafter
                  dsimp only
                  cases hl : buildAll rest left with
                  | mk results last =>
                      cases hr : buildAll rest right with
                      | mk results' last' =>
                          rw [hl, hr] at hrest hlast
                          obtain rfl : results = results' := hrest
                          cases results with
                          | error fault => exact ⟨rfl, hlast⟩
                          | ok sinks => exact ⟨rfl, hlast⟩

end Sink

namespace Registry

variable {w v : World}

/-! ## Registering -/

/-- The same result and the same registry, in worlds that are alike. -/
structure SameDone {α : Type} (l m : Loggers) (x y : Except Fault α × Registry × World) :
    Prop where
  result : x.1 = y.1
  registry : x.2.1 = y.2.1
  world : x.2.2.Alike l m y.2.2

theorem SameDone.exists {α : Type} {x y : Except Fault α × Registry × World}
    (h : SameDone l m x y) : ∃ result reg w v, x = (result, reg, w) ∧ y = (result, reg, v) ∧
      World.Alike l m w v :=
  ⟨x.1, x.2.1, x.2.2, y.2.2, rfl, Prod.ext h.result.symm (Prod.ext h.registry.symm rfl), h.world⟩

theorem alike_register (h : w.Alike l m v) (reg : Registry) (name : String) (r : Ref) :
    SameDone l m (reg.register name r w) (reg.register name r v) := by
  have hkind : kindOf w.store r = kindOf v.store r := by
    rw [kindOf, kindOf, h.store.map_get? r fun _ _ => rfl]
  have htrack (reg : Registry) : reg.track r w.store = reg.track r v.store := by
    rw [track, track, h.store.map_get? r fun _ _ => rfl]
  unfold register
  rw [h.store.map_get? (f := Metric.isMetric) r fun _ _ => rfl, hkind]
  split
  · exact ⟨rfl, rfl, h⟩
  · split
    · exact ⟨rfl, rfl, h⟩
    · exact ⟨rfl, htrack _, h.log _ _ _⟩

theorem alike_registerBuilt (h : w.Alike l m v) (reg : Registry) (name : String)
    {built built' : Except Fault (Ref × Store)}
    (hbuilt : Fault.Match Store.SameAnswer built built') :
    SameDone l m (reg.registerBuilt name built w) (reg.registerBuilt name built' v) := by
  cases hbuilt with
  | error fault => exact ⟨rfl, rfl, h⟩
  | @ok made made' hmade =>
      obtain ⟨r, s, t, rfl, rfl, hst⟩ := hmade.exists
      obtain ⟨result, after, w', v', hw, hv, hafter⟩ :=
        (alike_register (h.withStore hst) reg name r).exists
      simp only [registerBuilt, hw, hv]
      cases result with
      | ok _ => exact ⟨rfl, rfl, hafter⟩
      | error fault => exact ⟨rfl, rfl, h⟩

theorem alike_counter (h : w.Alike l m v) (reg : Registry) (name : String) (given : Option Ref) :
    SameDone l m (reg.counter name given w) (reg.counter name given v) := by
  refine alike_registerBuilt h reg name ?_
  cases given with
  | some r => exact .ok ⟨rfl, h.store⟩
  | none => exact .ok (h.store.alloc _)

theorem alike_gauge (h : w.Alike l m v) (reg : Registry) (name : String) (offer : Store.Offer) :
    SameDone l m (reg.gauge name offer w) (reg.gauge name offer v) :=
  alike_registerBuilt h reg name (Store.alike_gaugeOf h.store offer)

theorem alike_meter (h : w.Alike l m v) (reg : Registry) (name : String) (counter : Option Ref)
    (span : Value) : SameDone l m (reg.meter name counter span w) (reg.meter name counter span v) := by
  unfold meter
  rw [h.host.processInterval, h.host.room]
  exact alike_registerBuilt h reg name (Store.alike_newMeter h.store _ counter _ _)

theorem alike_gaugeMeter (h : w.Alike l m v) (reg : Registry) (name : String)
    (offer : Store.Offer) (span : Value) :
    SameDone l m (reg.gaugeMeter name offer span w) (reg.gaugeMeter name offer span v) := by
  unfold gaugeMeter
  rw [h.host.processInterval, h.host.room]
  refine alike_registerBuilt h reg name ((Store.alike_gaugeOf h.store offer).bind ?_)
  intro made made' hmade
  obtain ⟨r, s, t, rfl, rfl, hst⟩ := hmade.exists
  exact Store.alike_newGaugeMeter hst _ r _ _

/-- What is shown by a removal: a view that is not listed. -/
def shownByUnregister (reg : Registry) (name : String) (w : World) : List Showing :=
  match reg.metrics.get? name with
  | none => []
  | some r =>
    if ((w.store.get? r).map Metric.isView).getD false then reg.updater.shownByRemove r w else []

theorem alike_unregister (h : w.Alike l m v) (reg : Registry) (name : String)
    (hshown : ∀ shown ∈ reg.shownByUnregister name w, shown.Harmless l m) :
    SameDone l m (reg.unregister name w) (reg.unregister name v) := by
  unfold shownByUnregister at hshown
  unfold unregister
  split
  · exact ⟨rfl, rfl, h⟩
  · next r hname =>
    simp only [hname] at hshown
    rw [h.store.map_get? (f := Metric.isView) r fun _ _ => rfl] at hshown ⊢
    split
    · next hview =>
      rw [if_pos hview] at hshown
      obtain ⟨hupdater, hafter⟩ := Updater.alike_remove h reg.updater r hshown
      refine ⟨rfl, ?_, hafter.log _ _ _⟩
      show { reg with metrics := _, updater := _ } = { reg with metrics := _, updater := _ }
      rw [hupdater]
    · exact ⟨rfl, rfl, h.log _ _ _⟩

/-! ## Reporting, starting and closing -/

theorem alike_snapshot (h : w.Alike l m v) (reg : Registry) :
    (reg.snapshot w).1 = (reg.snapshot v).1 ∧ (reg.snapshot w).2.Alike l m (reg.snapshot v).2 := by
  obtain ⟨hanswer, hafter⟩ := Store.alike_snapshotFrom h.store [] reg.metrics
  exact ⟨hanswer, h.withStore hafter⟩

/-- What keeps every sink in step keeps all of them in step; a failure shows in a record only. -/
theorem alike_forSinks (h : w.Alike l m v) {act : Sink → Host → Except Fault Unit × Sink × Host}
    (hact : ∀ sink a b, Host.Alike l m a b → Sink.InStep l m (act sink a) (act sink b))
    (warning : Sink → String) (sinks : List Sink) :
    (forSinks act warning sinks w).1 = (forSinks act warning sinks v).1 ∧
      (forSinks act warning sinks w).2.Alike l m (forSinks act warning sinks v).2 := by
  induction sinks generalizing w v with
  | nil => exact ⟨rfl, h⟩
  | cons sink rest ih =>
      obtain ⟨hresult, hsink, hhost⟩ := hact sink w.host v.host h.host
      have hworlds : World.Alike l m { w with host := (act sink w.host).2.2 }
          { v with host := (act sink v.host).2.2 } := ⟨h.store, hhost⟩
      obtain ⟨hsinks, hafter⟩ := ih (hworlds.warned (warning sink) hresult)
      rw [forSinks, forSinks]
      refine ⟨?_, hafter⟩
      show _ :: _ = _ :: _
      rw [hsink]
      exact congrArg _ hsinks

/-- **Under two settings of levels a report hands the same event to the same sinks.** -/
theorem alike_report (h : w.Alike l m v) (reg : Registry) (now : Value) :
    SameDone l m (reg.report now w) (reg.report now v) := by
  obtain ⟨hresult, hafter⟩ := alike_snapshot h { reg with step := reg.step + 1 }
  unfold report
  dsimp only
  cases hw : { reg with step := reg.step + 1 }.snapshot w with
  | mk result w' =>
      cases hv : { reg with step := reg.step + 1 }.snapshot v with
      | mk result' v' =>
          rw [hw, hv] at hresult hafter
          obtain rfl : result = result' := hresult
          cases result with
          | error fault => exact ⟨rfl, rfl, hafter⟩
          | ok metrics =>
              obtain ⟨hsinks, hlast⟩ := alike_forSinks hafter
                (fun sink _ _ hab => Sink.inStep_write hab _ sink) _ reg.sinks
              refine ⟨rfl, ?_, hlast⟩
              show { reg with step := _, sinks := _ } = { reg with step := _, sinks := _ }
              rw [hsinks]

theorem alike_start (h : w.Alike l m v) (reg : Registry) :
    SameDone l m (reg.start w) (reg.start v) := by
  unfold start
  split
  · exact ⟨rfl, rfl, h⟩
  · split
    · exact ⟨rfl, rfl, h⟩
    · dsimp only
      split
      · exact ⟨rfl, rfl, h⟩
      · exact ⟨rfl, rfl, h.log _ _ _⟩

theorem alike_close (h : w.Alike l m v) (reg : Registry) :
    (reg.close w).1 = (reg.close v).1 ∧ (reg.close w).2.Alike l m (reg.close v).2 := by
  obtain ⟨-, hafter⟩ := alike_forSinks h (fun sink _ _ hab => Sink.inStep_close hab sink)
    (fun sink => "Failed to close metrics sink " ++ sink.typeName) reg.sinks
  exact ⟨rfl, hafter.log _ _ _⟩

theorem alike_create {a b : Host} (h : a.Alike l m b) (settings : Settings) (sinks : List Sink) :
    (create settings sinks a).1 = (create settings sinks b).1 ∧
      (create settings sinks a).2.Alike l m (create settings sinks b).2 := by
  have hbuilt : (buildSinks settings a).1 = (buildSinks settings b).1 ∧
      (buildSinks settings a).2.Alike l m (buildSinks settings b).2 := by
    unfold buildSinks
    split
    · exact Sink.alike_buildAll h _
    · exact ⟨rfl, h⟩
  obtain ⟨hresult, hafter⟩ := hbuilt
  unfold create
  cases ha : buildSinks settings a with
  | mk result left =>
      cases hb : buildSinks settings b with
      | mk result' right =>
          rw [ha, hb] at hresult hafter
          obtain rfl : result = result' := hresult
          cases result with
          | error fault => exact ⟨rfl, hafter⟩
          | ok built => exact ⟨rfl, hafter⟩

end Registry

end Telemetry
