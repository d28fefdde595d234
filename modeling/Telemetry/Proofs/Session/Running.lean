import Telemetry.Proofs.Registry.Running
import Telemetry.Proofs.Session.Step

/-!
# Running workers in sessions

What a session sees of the workers of a registry: the operations that start it, those that close it,
and the one that asks what is running. Entering a registry is starting it, and leaving it is closing
it.

Main statement: `workers_of_session`.
-/

namespace Telemetry

namespace Session

/-- Every registry of a session has its workers in step with its mark. -/
theorem inStep_run (host : Host) (commands : List Command) {i : Nat} {reg : Registry}
    (h : ((initial host).run commands).2.registries[i]? = some reg) : reg.InStep := by
  obtain ⟨settings, sinks, before, after, first, w, turns, hcreate, hlife⟩ :=
    exists_life host commands h
  have hin := Registry.inStep_live hcreate w turns
  rw [hlife] at hin
  exact hin

/-- The operations that start a registry. -/
def starts : List Operation := [.start, .enter]

/-- The operations that close a registry. -/
def closes : List Operation := [.close, .leave]

theorem onRegistry_starts {operation : Operation} (h : operation ∈ starts) (s : Session) (r : Ref)
    (i : Nat) (reg : Registry) :
    ∃ reply, s.onRegistry r i reg operation = s.settled i reply (reg.start s.world) := by
  rcases List.mem_pair.mp h with rfl | rfl
  · exact ⟨_, rfl⟩
  · exact ⟨_, rfl⟩

theorem onRegistry_closes {operation : Operation} (h : operation ∈ closes) (s : Session) (r : Ref)
    (i : Nat) (reg : Registry) :
    s.onRegistry r i reg operation =
      (.ok .nothing, (s.withRegistry i (reg.close s.world).1).withWorld (reg.close s.world).2) := by
  rcases List.mem_pair.mp h with rfl | rfl
  · rfl
  · rfl

/-- A registry that is put in a place is found there. -/
theorem getElem?_withRegistry {s : Session} {i : Nat} {reg : Registry}
    (h : s.registries[i]? = some reg) (after : Registry) (w : World) :
    ((s.withRegistry i after).withWorld w).registries[i]? = some after := by
  obtain ⟨hlt, -⟩ := Array.getElem?_eq_some_iff.mp h
  show (s.registries.setIfInBounds i after)[i]? = some after
  exact Array.getElem?_setIfInBounds_self_of_lt hlt

/-- A start that is refused changes nothing. -/
theorem start_refused {s : Session} {i : Nat} {reg : Registry} (h : s.registries[i]? = some reg)
    (hstarted : reg.started = true) {operation : Operation} (hstart : operation ∈ starts)
    (r : Ref) :
    s.onRegistry r i reg operation = (.error (.alreadyStarted "MetricRegistry"), s) := by
  obtain ⟨reply, hreply⟩ := onRegistry_starts hstart s r i reg
  rw [hreply, settled, Registry.start_of_started hstarted, withRegistry_self h]
  rfl

/-- A start that is not refused leaves the registry awake. -/
theorem start_done {s : Session} {i : Nat} {reg : Registry} (h : s.registries[i]? = some reg)
    (hin : reg.InStep) (hstopped : reg.started = false) {operation : Operation}
    (hstart : operation ∈ starts) (r : Ref) :
    (∃ reply, (s.onRegistry r i reg operation).1 = .ok reply) ∧
      (s.onRegistry r i reg operation).2.registries[i]? = some reg.awake := by
  obtain ⟨reply, hreply⟩ := onRegistry_starts hstart s r i reg
  obtain ⟨host, hdone⟩ := Registry.start_of_inStep hin hstopped s.world
  rw [hreply, settled, hdone]
  exact ⟨⟨_, rfl⟩, getElem?_withRegistry h _ _⟩

/-- **The workers of a registry run as its mark says**, in every state of every session: the updater
while it is started, the reporter while it is started and has sinks. Starting or entering it is
refused exactly while it is started, and changes nothing then; else it leaves all running. Closing
or leaving it leaves nothing running, and it can be started again. -/
theorem workers_of_session (host : Host) (commands : List Command) {i : Nat} {reg : Registry}
    (h : ((initial host).run commands).2.registries[i]? = some reg) (r : Ref) :
    let s := ((initial host).run commands).2
    reg.updater.worker.running = reg.started ∧
    reg.reporter.running = (reg.started && !reg.sinks.isEmpty) ∧
    s.onRegistry r i reg .running =
      (.ok (.running reg.started (some (reg.started && !reg.sinks.isEmpty))), s) ∧
    (∀ opening ∈ starts,
      ((∃ fault, (s.onRegistry r i reg opening).1 = .error fault) ↔ reg.started = true) ∧
      (reg.started = true →
        s.onRegistry r i reg opening = (.error (.alreadyStarted "MetricRegistry"), s)) ∧
      (reg.started = false →
        (s.onRegistry r i reg opening).2.registries[i]? = some reg.awake)) ∧
    ∀ closing ∈ closes, ∃ closed,
      let t := (s.onRegistry r i reg closing).2
      t.registries[i]? = some closed ∧ closed.started = false ∧
        closed.updater.worker.running = false ∧ closed.reporter.running = false ∧
        ∀ opening ∈ starts, (∃ reply, (t.onRegistry r i closed opening).1 = .ok reply) ∧
          (t.onRegistry r i closed opening).2.registries[i]? = some closed.awake := by
  intro s
  have hin := inStep_run host commands h
  refine ⟨hin.updater, hin.reporter, ?_, ?_, ?_⟩
  · rw [onRegistry, hin.updater, hin.reporter]
  · intro opening hstart
    refine ⟨?_, fun hstarted => start_refused h hstarted hstart r,
      fun hstopped => (start_done h hin hstopped hstart r).2⟩
    constructor
    · rintro ⟨fault, hfault⟩
      by_contra hstopped
      obtain ⟨⟨reply, hreply⟩, -⟩ :=
        start_done h hin (Bool.eq_false_of_not_eq_true hstopped) hstart r
      rw [hreply] at hfault
      cases hfault
    · intro hstarted
      rw [start_refused h hstarted hstart r]
      exact ⟨_, rfl⟩
  · intro closing hclose
    obtain ⟨hresting, hstopped⟩ := reg.close_inStep s.world
    refine ⟨(reg.close s.world).1, ?_⟩
    rw [onRegistry_closes hclose]
    have hthere := getElem?_withRegistry h (reg.close s.world).1 (reg.close s.world).2
    refine ⟨hthere, hstopped, rfl, rfl, ?_⟩
    intro opening hstart
    exact start_done hthere hresting hstopped hstart r

/-- A registry with a sink that is started, closed and entered again. -/
def watched : List Command :=
  [.newRegistry "r" (.value .null) [.recorder "recording0" false], .perform "r" .start, .perform "r" .close,
   .perform "r" .enter]

/-- While it is started for the first time both workers run, and it cannot be entered. After it was
closed and entered again, the reporter rests: the sink is gone. -/
theorem workers_of_session_watched :
    (∃ reg, ((initial Registry.twoViews.host).run (watched.take 2)).2.registries[0]? = some reg ∧
      reg.started = true ∧ reg.updater.worker.running = true ∧ reg.reporter.running = true ∧
      (((initial Registry.twoViews.host).run (watched.take 2)).2.onRegistry 0 0 reg .enter).1 =
        .error (.alreadyStarted "MetricRegistry")) ∧
    ∃ reg, ((initial Registry.twoViews.host).run watched).2.registries[0]? = some reg ∧
      reg.started = true ∧ reg.updater.worker.running = true ∧ reg.reporter.running = false := by
  constructor
  · have hmark : (((initial Registry.twoViews.host).run (watched.take 2)).2.registries[0]?.map
        fun reg => (reg.started, reg.sinks.isEmpty)) = some (true, false) := by decide +kernel
    obtain ⟨reg, hreg, hmark⟩ := Option.map_eq_some_iff.mp hmark
    obtain ⟨hstarted, hsinks⟩ := Prod.mk.inj hmark
    obtain ⟨hupdater, hreporter, -, hstarts, -⟩ := workers_of_session _ _ hreg 0
    obtain ⟨-, hrefused, -⟩ := hstarts .enter (List.mem_pair.mpr (.inr rfl))
    refine ⟨reg, hreg, hstarted, ?_, ?_, ?_⟩
    · rw [hupdater, hstarted]
    · rw [hreporter, hstarted, hsinks]
      rfl
    · rw [hrefused hstarted]
  · have hmark : (((initial Registry.twoViews.host).run watched).2.registries[0]?.map
        fun reg => (reg.started, reg.sinks.isEmpty)) = some (true, true) := by decide +kernel
    obtain ⟨reg, hreg, hmark⟩ := Option.map_eq_some_iff.mp hmark
    obtain ⟨hstarted, hsinks⟩ := Prod.mk.inj hmark
    obtain ⟨hupdater, hreporter, -⟩ := workers_of_session _ _ hreg 0
    refine ⟨reg, hreg, hstarted, ?_, ?_⟩
    · rw [hupdater, hstarted]
    · rw [hreporter, hstarted, hsinks]
      rfl

end Session

end Telemetry
