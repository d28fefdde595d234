import Telemetry.Proofs.Registry.Round
import Telemetry.Proofs.Store.Snapshot

/-!
# Calls of a registry

All that can be done to a registry is one of a few calls. A call changes the registry and the world
around it; of the store it makes a run, whatever becomes of the call itself. What is kept by every
call is kept for good, so that an invariant of registries needs one look at each call and no more.

Main statements: `reaches_call` (a call is a run of the store) and the inversions `register_cases`,
`registerBuilt_cases` and `unregister_cases` (what the calls that change the names can do).
-/

namespace Telemetry

/-! ## Building metrics -/

/-- Whether a metric reads nothing but what is in the store and, if it counts, starts at zero. The
window of a meter is new. -/
def Metric.IsBlank : Metric → Prop
  | function _ => False
  | counter count => count = .int 0
  | meter _ window => window.IsNew
  | _ => True

namespace Store

variable {P : Action → Prop}

theorem reachesBy_newMeter (hadd : ∀ m : Metric, m.IsBlank → P (.add m))
    {s t : Store} {room : Nat} {counter : Option Ref} {span interval : Value} {r : Ref}
    (h : s.newMeter room counter span interval = .ok (r, t)) : s.ReachesBy P t := by
  obtain ⟨window, hwindow, h⟩ := Fault.bind_eq_ok.mp h
  have hnew : window.IsNew := ⟨room, span, interval, hwindow⟩
  cases counter with
  | some given =>
      cases h
      exact s.reachesBy_act (hadd (.meter given window) hnew)
  | none =>
      cases h
      exact (s.reachesBy_act (hadd (.counter (.int 0)) rfl)).trans
        (reachesBy_act _ (hadd (.meter _ window) hnew))

theorem reachesBy_newGaugeMeter (hadd : ∀ m : Metric, m.IsBlank → P (.add m))
    {s t : Store} {room : Nat} {gauge : Ref} {span interval : Value} {r : Ref}
    (h : s.newGaugeMeter room gauge span interval = .ok (r, t)) : s.ReachesBy P t := by
  obtain ⟨window, hwindow, h⟩ := Fault.bind_eq_ok.mp h
  cases h
  exact (s.reachesBy_act (hadd (.gaugeCounter gauge) trivial)).trans
    (reachesBy_act _ (hadd (.meter _ window) ⟨room, span, interval, hwindow⟩))

theorem reachesBy_gaugeOf {offer : Offer}
    (hadd : ∀ source, offer = .function source → P (.add (.function source)))
    {s t : Store} {r : Ref} (h : s.gaugeOf offer = .ok (r, t)) : s.ReachesBy P t := by
  cases offer with
  | metric given =>
      rw [gaugeOf] at h
      split at h
      · cases h
        exact .refl s
      · cases h
  | function source =>
      cases h
      exact s.reachesBy_act (hadd source rfl)
  | value v => cases h

end Store

namespace Registry

/-! ## Sinks -/

/-- Sinks have no part in the store. -/
theorem store_forSinks (act : Sink → Host → Except Fault Unit × Sink × Host)
    (warning : Sink → String) (sinks : List Sink) (w : World) :
    (forSinks act warning sinks w).2.store = w.store := by
  induction sinks generalizing w with
  | nil => rfl
  | cons sink rest ih =>
      rw [forSinks]
      cases hact : act sink w.host with
      | mk result after =>
          cases result with
          | ok _ => exact ih _
          | error fault => exact ih _

/-! ## Calls -/

/-- A call of a registry. -/
inductive Call where
  | register (name : String) (r : Ref)
  | counter (name : String) (given : Option Ref)
  | gauge (name : String) (offer : Store.Offer)
  | meter (name : String) (counter : Option Ref) (span : Value)
  | gaugeMeter (name : String) (offer : Store.Offer) (span : Value)
  | unregister (name : String)
  | updateViews
  | snapshot
  | report (now : Value)
  | start
  | close
  | assign (name : String) (v : Value)

/-- What a call leaves behind, whether it is refused or not. -/
def call (reg : Registry) (w : World) : Call → Registry × World
  | .register name r => (reg.register name r w).2
  | .counter name given => (reg.counter name given w).2
  | .gauge name offer => (reg.gauge name offer w).2
  | .meter name counter span => (reg.meter name counter span w).2
  | .gaugeMeter name offer span => (reg.gaugeMeter name offer span w).2
  | .unregister name => (reg.unregister name w).2
  | .updateViews => (reg, reg.updateViews w)
  | .snapshot => (reg, (reg.snapshot w).2)
  | .report now => (reg.report now w).2
  | .start => (reg.start w).2
  | .close => reg.close w
  | .assign name v => ({ reg with settings := reg.settings.assign name v }, w)

/-- A registration is refused, and then nothing has changed, or it was one of a metric under a name
that was free: the name is set, and a view is added to the updater. -/
theorem register_cases (reg : Registry) (name : String) (r : Ref) (w : World) :
    (reg.register name r w).2 = (reg, w) ∨
      ((w.store.get? r).map Metric.isMetric).getD false = true ∧
      reg.metrics.contains name = false ∧
      (reg.register name r w).2.1 = { reg with metrics := reg.metrics.set name r }.track r w.store ∧
      (reg.register name r w).2.2.store = w.store := by
  unfold register
  split
  · exact .inl rfl
  · next hmetric =>
    split
    · exact .inl rfl
    · next hfree =>
      right
      refine ⟨?_, ?_, rfl, rfl⟩
      · simpa using hmetric
      · simpa using hfree

/-- A metric is registered under every name that is free, and put at the end. -/
theorem register_of_free {reg : Registry} {name : String} {r : Ref} {w : World}
    (hmetric : ((w.store.get? r).map Metric.isMetric).getD false = true)
    (hfree : name ∉ reg.metrics.keys) :
    (reg.register name r w).1 = .ok () ∧
      (reg.register name r w).2.1 =
        { reg with metrics := reg.metrics ++ [(name, r)] }.track r w.store := by
  have hcontains : reg.metrics.contains name = false := by
    rw [← Bool.not_eq_true, Table.contains_iff_mem_keys]
    exact hfree
  rw [← Table.set_of_not_mem hfree]
  simp only [register, hmetric, hcontains, Bool.not_true, Bool.false_eq_true, if_false, and_self]

/-- A registration that is not refused was one of a metric under a free name. -/
theorem free_of_register {reg : Registry} {name : String} {r : Ref} {w : World}
    (h : (reg.register name r w).1 = .ok ()) :
    ((w.store.get? r).map Metric.isMetric).getD false = true ∧ name ∉ reg.metrics.keys := by
  unfold register at h
  split at h
  · cases h
  · next hmetric =>
    split at h
    · cases h
    · next hfree =>
      rw [← Table.contains_iff_mem_keys]
      exact ⟨by simpa using hmetric, hfree⟩

/-- A registration of a new metric is one of a metric in a store that has it; a refused one leaves
the store as it was. -/
theorem registerBuilt_cases (reg : Registry) (name : String)
    (built : Except Fault (Ref × Store)) (w : World) :
    (reg.registerBuilt name built w).2 = (reg, w) ∨
      ∃ r store, built = .ok (r, store) ∧
        (reg.registerBuilt name built w).2 = (reg.register name r { w with store }).2 := by
  unfold registerBuilt
  cases built with
  | error fault => exact .inl rfl
  | ok made =>
      obtain ⟨r, store⟩ := made
      dsimp only
      split
      · next after world hdone =>
        right
        refine ⟨r, store, rfl, ?_⟩
        rw [hdone]
      · exact .inl rfl

/-- A removal is refused, and then nothing has changed, or it was one of a registered name: the name
is erased, and a view is removed from the updater once. -/
theorem unregister_cases (reg : Registry) (name : String) (w : World) :
    (reg.unregister name w).2 = (reg, w) ∨
      ∃ r, reg.metrics.get? name = some r ∧
        (reg.unregister name w).2.1 = { reg with
          metrics := reg.metrics.erase name
          updater := if ((w.store.get? r).map Metric.isView).getD false
            then (reg.updater.remove r w).1 else reg.updater } ∧
        w.store.Reaches (reg.unregister name w).2.2.store := by
  unfold unregister
  split
  · exact .inl rfl
  · next r hname =>
    right
    refine ⟨r, hname, ?_, ?_⟩
    · split <;> rfl
    · split
      · exact reg.updater.reaches_remove r w
      · exact .refl w.store

theorem store_register (reg : Registry) (name : String) (r : Ref) (w : World) :
    (reg.register name r w).2.2.store = w.store := by
  rcases reg.register_cases name r w with hsame | ⟨-, -, -, hstore⟩
  · rw [hsame]
  · exact hstore

/-- What was registered had been built, and its name was free; it is put at the end. -/
theorem registerBuilt_eq_ok {reg after : Registry} {name : String}
    {built : Except Fault (Ref × Store)} {w world : World} {r : Ref}
    (h : reg.registerBuilt name built w = (.ok r, after, world)) :
    built = .ok (r, world.store) ∧ name ∉ reg.metrics.keys ∧
      after.metrics = reg.metrics ++ [(name, r)] := by
  unfold registerBuilt at h
  cases built with
  | error fault => cases h
  | ok made =>
      obtain ⟨made, store⟩ := made
      dsimp only at h
      cases hdone : reg.register name made { w with store } with
      | mk result rest =>
          rw [hdone] at h
          cases result with
          | error fault => cases h
          | ok _ =>
              cases h
              obtain ⟨hmetric, hfree⟩ := free_of_register (congrArg Prod.fst hdone)
              obtain ⟨-, hafter⟩ := register_of_free hmetric hfree
              have hstore := reg.store_register name r { w with store }
              rw [hdone] at hafter hstore
              refine ⟨congrArg (fun t => Except.ok (r, t)) hstore.symm, hfree, ?_⟩
              show rest.1.metrics = _
              rw [hafter, track]
              split <;> rfl

variable {P : Store.Action → Prop}

theorem reachesBy_registerBuilt {reg : Registry} {name : String}
    {built : Except Fault (Ref × Store)} {w : World}
    (hbuilt : ∀ r t, built = .ok (r, t) → w.store.ReachesBy P t) :
    w.store.ReachesBy P (reg.registerBuilt name built w).2.2.store := by
  rcases reg.registerBuilt_cases name built w with hsame | ⟨r, store, hok, hdone⟩
  · rw [hsame]
    exact .refl w.store
  · rw [hdone, store_register]
    exact hbuilt r store hok

theorem reachesBy_counter (hadd : ∀ m : Metric, m.IsBlank → P (.add m))
    (reg : Registry) (name : String) (given : Option Ref) (w : World) :
    w.store.ReachesBy P (reg.counter name given w).2.2.store := by
  refine reachesBy_registerBuilt ?_
  intro r t h
  cases given with
  | some given =>
      cases h
      exact .refl w.store
  | none =>
      cases h
      exact w.store.reachesBy_act (hadd (.counter (.int 0)) rfl)

theorem reachesBy_gaugeMeter (hadd : ∀ m : Metric, m.IsBlank → P (.add m))
    {offer : Store.Offer}
    (hfunction : ∀ source, offer = .function source → P (.add (.function source)))
    (reg : Registry) (name : String) (span : Value) (w : World) :
    w.store.ReachesBy P (reg.gaugeMeter name offer span w).2.2.store := by
  refine reachesBy_registerBuilt ?_
  intro r t h
  obtain ⟨made, hgauge, hmeter⟩ := Fault.bind_eq_ok.mp h
  exact (Store.reachesBy_gaugeOf hfunction hgauge).trans (Store.reachesBy_newGaugeMeter hadd hmeter)

theorem reachesBy_unregister (hread : ∀ a, a.isRead = true → P a) (reg : Registry)
    (name : String) (w : World) :
    w.store.ReachesBy P (reg.unregister name w).2.2.store := by
  unfold unregister
  split
  · exact .refl w.store
  · split
    · exact Updater.reachesBy_remove hread reg.updater _ w
    · exact .refl w.store

theorem reachesBy_snapshot (hread : ∀ a, a.isRead = true → P a) (reg : Registry) (w : World) :
    w.store.ReachesBy P (reg.snapshot w).2.store :=
  Store.reachesBy_snapshotFrom hread [] reg.metrics w.store

theorem reachesBy_report (hread : ∀ a, a.isRead = true → P a) (reg : Registry) (now : Value)
    (w : World) : w.store.ReachesBy P (reg.report now w).2.2.store := by
  have hsnapshot := reachesBy_snapshot hread { reg with step := reg.step + 1 } w
  unfold report
  dsimp only
  split
  · next fault after hresult =>
    rw [hresult] at hsnapshot
    exact hsnapshot
  · next metrics after hresult =>
    rw [hresult] at hsnapshot
    -- what is left to do is with the sinks
    show w.store.ReachesBy P (forSinks _ _ reg.sinks after).2.store
    rw [store_forSinks]
    exact hsnapshot

theorem store_start (reg : Registry) (w : World) : (reg.start w).2.2.store = w.store := by
  unfold start
  split
  · rfl
  · split
    · rfl
    · dsimp only
      split <;> rfl

theorem store_close (reg : Registry) (w : World) : (reg.close w).2.store = w.store := by
  show (forSinks _ _ reg.sinks w).2.store = w.store
  rw [store_forSinks]

/-- **A call is a run of the store.** -/
theorem reaches_call (reg : Registry) (w : World) (c : Call) :
    w.store.Reaches (reg.call w c).2.store := by
  -- any action will do
  suffices h : w.store.ReachesBy (fun _ => True) (reg.call w c).2.store from h.reaches
  cases c with
  | register name r =>
      show w.store.ReachesBy _ (reg.register name r w).2.2.store
      rw [store_register]
      exact .refl w.store
  | counter name given => exact reachesBy_counter (fun _ _ => trivial) reg name given w
  | gauge name offer =>
      exact reachesBy_registerBuilt fun _ _ => Store.reachesBy_gaugeOf fun _ _ => trivial
  | meter name counter span =>
      exact reachesBy_registerBuilt fun _ _ => Store.reachesBy_newMeter fun _ _ => trivial
  | gaugeMeter name offer span =>
      exact reachesBy_gaugeMeter (fun _ _ => trivial) (fun _ _ => trivial) reg name span w
  | unregister name => exact reachesBy_unregister (fun _ _ => trivial) reg name w
  | updateViews =>
      exact ⟨_, fun _ _ => trivial, Updater.store_updateAll reg.updater.views w⟩
  | snapshot => exact reachesBy_snapshot (fun _ _ => trivial) reg w
  | report now => exact reachesBy_report (fun _ _ => trivial) reg now w
  | start =>
      show w.store.ReachesBy _ (reg.start w).2.2.store
      rw [store_start]
      exact .refl w.store
  | close =>
      show w.store.ReachesBy _ (reg.close w).2.store
      rw [store_close]
      exact .refl w.store
  | assign name v => exact .refl w.store

end Registry

end Telemetry
