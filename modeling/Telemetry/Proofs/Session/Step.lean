import Mathlib.Data.List.Induction
import Telemetry.Proofs.Registry.Life
import Telemetry.Session

/-!
# Commands and registries

To a registry, a session is a sequence of calls with other things going on in between. Most commands
leave all registries alone and make some run of the store; a few call one registry or add a new one.

Main statements: `moves_step` (what a command can do), `movesAt_step` (the same as one registry sees
it) and `exists_life` (so that every registry of a session has lived a life).
-/

namespace Telemetry

namespace Session

/-! ## What a command can do -/

/-- What becomes of the registries and the store of a session in one command. -/
inductive Moves (s : Session) : Session → Prop where
  | aside {t : Session} (hregistries : t.registries = s.registries)
      (hstore : s.world.store.Reaches t.world.store) : Moves s t
  | called {t : Session} {index : Nat} {reg : Registry} (c : Registry.Call)
      (hindex : s.registries[index]? = some reg)
      (hregistries : t.registries = s.registries.setIfInBounds index (reg.call s.world c).1)
      (hworld : t.world = (reg.call s.world c).2) : Moves s t
  | built {t : Session} {settings : Settings} {sinks : List Sink} {reg : Registry} {after : Host}
      (hbuilt : Registry.create settings sinks s.world.host = (.ok reg, after))
      (hregistries : t.registries = s.registries.push reg)
      (hstore : s.world.store.Reaches t.world.store) : Moves s t

theorem Moves.refl (s : Session) : s.Moves s := .aside rfl (.refl _)

theorem moves_create (s : Session) (id : String) {built : Except Fault (Ref × Store)}
    (hbuilt : ∀ r t, built = .ok (r, t) → s.world.store.Reaches t) :
    s.Moves (s.create id built).2 := by
  cases built with
  | error fault => exact .refl s
  | ok made => exact .aside rfl (hbuilt made.1 made.2 rfl)

theorem moves_alloc (s : Session) (id : String) (m : Metric) :
    s.Moves (s.create id (.ok (s.world.store.alloc m))).2 :=
  .aside rfl (s.world.store.reaches_act (.add m))

theorem moves_given {α : Type} {s : Session} {found : Except Fault α}
    {next : α → Except Fault Reply × Session} (hnext : ∀ a, s.Moves (next a).2) :
    s.Moves (s.given found next).2 := by
  cases found with
  | error fault => exact .refl s
  | ok a => exact hnext a

theorem moves_createUpdater (s : Session) (id : String) (interval : Value) :
    s.Moves (s.createUpdater id interval).2 := by
  unfold createUpdater
  split
  · exact .refl s
  · exact .aside rfl (s.world.store.reaches_act (.add _))

theorem moves_createRegistry (s : Session) (id : String) (form : Settings.Form)
    (sinks : List Sink) : s.Moves (s.createRegistry id form sinks).2 := by
  unfold createRegistry
  split
  · exact .refl s
  · split
    · exact .aside rfl (.refl _)
    · next hcreate => exact .built hcreate rfl (s.world.store.reaches_act (.add _))

/-! ## Metrics -/

theorem reaches_changed {s : Session} {done : Except Fault Store}
    (hdone : ∀ t, done = .ok t → s.world.store.Reaches t) : s.Moves (s.changed done).2 := by
  cases done with
  | error fault => exact .refl s
  | ok t => exact .aside rfl (hdone t rfl)

theorem moves_onKind (s : Session) (r : Ref) (operation : Operation) :
    s.Moves (s.onKind r operation).2 := by
  unfold onKind
  split
  · exact .refl s
  · exact .refl s
  · exact moves_given fun _ => .refl s
  · exact moves_given fun _ => .refl s
  · exact .refl s
  · exact .refl s

theorem moves_onMetric (s : Session) (r : Ref) (operation : Operation) :
    s.Moves (s.onMetric r operation).2 := by
  have hstore (a : Store.Action) : s.world.store.Reaches (s.world.store.act a) :=
    s.world.store.reaches_act a
  cases operation with
  | change c amount =>
      refine reaches_changed fun t h => ?_
      have hact := hstore (.change c r amount)
      rw [Store.act, h] at hact
      exact hact
  | recordEvent amount =>
      refine reaches_changed fun t h => ?_
      have hact := hstore (.recordEvent r amount)
      rw [Store.act, h] at hact
      exact hact
  | assign v =>
      refine reaches_changed fun t h => ?_
      have hact := hstore (.assign r v)
      rw [Store.act, h] at hact
      exact hact
  | count => exact .aside rfl (hstore (.count r))
  | meterCount => exact .aside rfl (hstore (.meterCount r))
  | value => exact .aside rfl (hstore (.value r))
  | meterRate => exact .refl s
  | describe => exact .aside rfl (hstore (.describe r))
  | sample =>
      have hsample := hstore (.sample r)
      rw [Store.act] at hsample
      show s.Moves (s.sampleReply r).2
      unfold sampleReply
      split
      · next hresult =>
        rw [hresult] at hsample
        exact .aside rfl hsample
      · next hresult =>
        rw [hresult] at hsample
        exact .aside rfl hsample
  | _ => exact s.moves_onKind r _

/-! ## Updaters and registries -/

theorem moves_onUpdater (s : Session) (r : Ref) (index : Nat) (u : Updater)
    (operation : Operation) : s.Moves (s.onUpdater r index u operation).2 := by
  cases operation with
  | add id => exact moves_given fun _ => .aside rfl (.refl _)
  | remove id => exact moves_given fun view => .aside rfl (u.reaches_remove view s.world)
  | updateAll => exact .aside rfl (Updater.reaches_updateAll u.views s.world)
  | start =>
      simp only [onUpdater]
      split
      · exact .aside rfl (.refl _)
      · exact .refl s
  | stop => exact .aside rfl (.refl _)
  | describe => exact s.moves_onMetric r _
  | _ => exact .refl s

/-- A registration is a call, whether an identifier is bound to the metric or not. -/
theorem moves_registered {s : Session} {index : Nat} {reg : Registry}
    (hindex : s.registries[index]? = some reg) (c : Registry.Call) (id : Option String)
    {done : Except Fault Ref × Registry × World} (hdone : done.2 = reg.call s.world c) :
    s.Moves (s.registered index id done).2 := by
  obtain ⟨result, after, world⟩ := done
  obtain rfl : after = (reg.call s.world c).1 := congrArg Prod.fst hdone
  obtain rfl : world = (reg.call s.world c).2 := congrArg Prod.snd hdone
  cases result with
  | error fault => exact .called c hindex rfl rfl
  | ok r =>
      cases id with
      | none => exact .called c hindex rfl rfl
      | some id => exact .called c hindex rfl rfl

/-- A registry that is put back in its place changes nothing. -/
theorem withRegistry_self {s : Session} {index : Nat} {reg : Registry}
    (hindex : s.registries[index]? = some reg) : s.withRegistry index reg = s := by
  have hsame : s.registries.setIfInBounds index reg = s.registries := by
    refine Array.ext_getElem? fun i => ?_
    rw [Array.getElem?_setIfInBounds]
    split
    · next heq =>
      subst heq
      rw [hindex]
      obtain ⟨hlt, -⟩ := Array.getElem?_eq_some_iff.mp hindex
      rw [if_pos hlt]
    · rfl
  rw [withRegistry, hsame]

theorem moves_onRegistry {s : Session} (r : Ref) {index : Nat} {reg : Registry}
    (hindex : s.registries[index]? = some reg) (operation : Operation) :
    s.Moves (s.onRegistry r index reg operation).2 := by
  -- a call that changes the world alone puts the registry back in its place
  have hsame : s.registries = s.registries.setIfInBounds index reg :=
    (congrArg Session.registries (withRegistry_self hindex)).symm
  cases operation with
  | register id name metric =>
      exact moves_given fun metric => moves_registered hindex (.register name metric) id rfl
  | counter id name given =>
      exact moves_given fun counter => moves_registered hindex (.counter name counter) id rfl
  | gauge id name offer =>
      exact moves_given fun offer => moves_registered hindex (.gauge name offer) id rfl
  | meter id name counter span =>
      exact moves_given fun counter => moves_registered hindex (.meter name counter span) id rfl
  | gaugeMeter id name offer span =>
      exact moves_given fun offer => moves_registered hindex (.gaugeMeter name offer span) id rfl
  | unregister name => exact .called (.unregister name) hindex rfl rfl
  | updateViews => exact .called .updateViews hindex hsame rfl
  | snapshot => exact .called .snapshot hindex hsame rfl
  | report now => exact .called (.report now) hindex rfl rfl
  | start => exact .called .start hindex rfl rfl
  | enter => exact .called .start hindex rfl rfl
  | leave => exact .called .close hindex rfl rfl
  | close => exact .called .close hindex rfl rfl
  | assignSetting name v => exact .called (.assign name v) hindex rfl rfl
  | describe => exact s.moves_onMetric r _
  | _ => exact .refl s

/-! ## Commands -/

theorem moves_perform (s : Session) (id : String) (operation : Operation) :
    s.Moves (s.perform id operation).2 := by
  refine moves_given fun r => ?_
  unfold onObject
  split
  · split
    · exact s.moves_onUpdater r _ _ operation
    · exact .refl s
  · split
    · next hindex => exact moves_onRegistry r hindex operation
    · exact .refl s
  · exact s.moves_onMetric r operation

theorem moves_execute (s : Session) (command : Command) : s.Moves (s.execute command).2 := by
  cases command with
  | newCounter id initial =>
      refine s.moves_create id fun r t h => ?_
      obtain ⟨n, -, h⟩ := Fault.bind_eq_ok.mp h
      cases h
      exact s.world.store.reaches_act (.add _)
  | newGauge id v => exact s.moves_alloc id _
  | newFunctionGauge id offer =>
      cases offer with
      | function answers => exact s.moves_alloc id _
      | object id => exact .refl s
      | value v => exact .refl s
  | newGaugeCounter id gauge => exact moves_given fun gauge => s.moves_alloc id _
  | newMeter id counter span interval =>
      exact moves_given fun counter => s.moves_create id fun _ _ h =>
        (Store.reachesBy_newMeter (P := fun _ => True) (fun _ _ => trivial) h).reaches
  | newGaugeMeter id gauge span interval =>
      exact moves_given fun gauge => s.moves_create id fun _ _ h =>
        (Store.reachesBy_newGaugeMeter (P := fun _ => True) (fun _ _ => trivial) h).reaches
  | newView id failure => exact s.moves_alloc id _
  | newMarker id => exact s.moves_alloc id _
  | newUpdater id interval => exact s.moves_createUpdater id interval
  | newRegistry id form sinks => exact s.moves_createRegistry id form sinks
  | perform id operation => exact s.moves_perform id operation
  | fileContent path => exact .refl s
  | files => exact .refl s

/-- **A command leaves the registries alone, calls one, or adds one.** What had been recorded before
is dropped first. -/
theorem moves_step (s : Session) (command : Command) :
    (s.withHost s.world.host.drained).Moves (s.step command).2 :=
  moves_execute _ command

/-! ## What a registry sees -/

/-- What becomes of one place for a registry: it stays as it is while the store moves on, its
registry is called, or a new registry takes it. -/
inductive MovesAt (i : Nat) (s t : Session) : Prop where
  | aside (hregistry : t.registries[i]? = s.registries[i]?)
      (hstore : s.world.store.Reaches t.world.store)
  | called {reg : Registry} (c : Registry.Call) (hbefore : s.registries[i]? = some reg)
      (hafter : t.registries[i]? = some (reg.call s.world c).1)
      (hworld : t.world = (reg.call s.world c).2)
  | built {settings : Settings} {sinks : List Sink} {reg : Registry} {after : Host}
      (hbuilt : Registry.create settings sinks s.world.host = (.ok reg, after))
      (hbefore : s.registries[i]? = none) (hafter : t.registries[i]? = some reg)
      (hstore : s.world.store.Reaches t.world.store)

theorem Moves.movesAt {s t : Session} (h : s.Moves t) (i : Nat) : MovesAt i s t := by
  cases h with
  | aside hregistries hstore => exact .aside (by rw [hregistries]) hstore
  | @called index reg c hindex hregistries hworld =>
      by_cases hi : index = i
      · subst hi
        obtain ⟨hlt, -⟩ := Array.getElem?_eq_some_iff.mp hindex
        refine .called c hindex ?_ hworld
        rw [hregistries, Array.getElem?_setIfInBounds, if_pos rfl, if_pos hlt]
      · -- the call of another registry is something that goes on in the store
        refine .aside ?_ ?_
        · rw [hregistries, Array.getElem?_setIfInBounds, if_neg hi]
        · rw [hworld]
          exact reg.reaches_call s.world c
  | built hbuilt hregistries hstore =>
      by_cases hi : i = s.registries.size
      · refine .built hbuilt ?_ ?_ hstore
        · rw [hi, Array.getElem?_size]
        · rw [hregistries, Array.getElem?_push, if_pos hi]
      · refine .aside ?_ hstore
        rw [hregistries, Array.getElem?_push, if_neg hi]

/-- **A command leaves the place of a registry alone, calls its registry, or puts a new one there.**
-/
theorem movesAt_step (s : Session) (command : Command) (i : Nat) :
    MovesAt i (s.withHost s.world.host.drained) (s.step command).2 :=
  (s.moves_step command).movesAt i

/-! ## Runs -/

theorem run_concat (s : Session) (commands : List Command) (command : Command) :
    (s.run (commands ++ [command])).2 = ((s.run commands).2.step command).2 := by
  induction commands generalizing s with
  | nil => rfl
  | cons first rest ih => exact ih (s.step first).2

/-- **Every registry of every session was created once and has lived since.** -/
theorem exists_life (host : Host) (commands : List Command) {i : Nat} {reg : Registry}
    (h : ((initial host).run commands).2.registries[i]? = some reg) :
    ∃ (settings : Settings) (sinks : List Sink) (before after : Host) (first : Registry)
      (w : World) (turns : List Registry.Turn),
      Registry.create settings sinks before = (.ok first, after) ∧
      first.live w turns = (reg, ((initial host).run commands).2.world) := by
  induction commands using List.reverseRecOn generalizing reg with
  | nil => cases h
  | append_singleton commands command ih =>
      rw [run_concat] at h ⊢
      cases ((initial host).run commands).2.movesAt_step command i with
      | aside hregistry hstore =>
          rw [hregistry] at h
          obtain ⟨settings, sinks, before, after, first, w, turns, hcreate, hlife⟩ := ih h
          obtain ⟨actions, hactions⟩ := hstore
          let now := (((initial host).run commands).2.step command).2.world
          refine ⟨settings, sinks, before, after, first, w,
            turns ++ [.aside actions now.host], hcreate, ?_⟩
          rw [Registry.live_append, hlife]
          exact congrArg (fun store => (reg, World.mk store now.host)) hactions.symm
      | @called now c hbefore hafter hworld =>
          obtain ⟨settings, sinks, before, after, first, w, turns, hcreate, hlife⟩ := ih hbefore
          rw [hafter] at h
          cases h
          let drained := ((initial host).run commands).2.world.host.drained
          refine ⟨settings, sinks, before, after, first, w,
            turns ++ [.aside [] drained, .call c], hcreate, ?_⟩
          rw [Registry.live_append, hlife, hworld]
          rfl
      | built hcreate _ hafter _ =>
          rw [hafter] at h
          cases h
          exact ⟨_, _, _, _, reg, _, [], hcreate, rfl⟩

end Session

end Telemetry
