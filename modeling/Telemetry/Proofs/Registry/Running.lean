import Telemetry.Proofs.Registry.Life

/-!
# Running workers

A registry keeps a mark whether it is started, and its two workers know by themselves whether they
run. The three agree for life: the updater runs exactly while the registry is marked, and the
reporter exactly while it is marked and there are sinks to report to. So a start cannot get stuck
half-way between the workers: it is refused by the mark, or it succeeds.

Main statements: `InStep.call` (no call sets the three apart), `inStep_live` (they agree for life),
`start_of_inStep` and `close_inStep` (what a start and a close do).
-/

namespace Telemetry

theorem Worker.start_of_resting {w : Worker} (h : w.running = false) :
    w.start = .ok { w with running := true } := by
  simp [start, h]

namespace Registry

/-- The workers run as the mark says. -/
structure InStep (reg : Registry) : Prop where
  updater : reg.updater.worker.running = reg.started
  reporter : reg.reporter.running = (reg.started && !reg.sinks.isEmpty)

/-- The mark, the workers and whether there are sinks are as they were. -/
structure SameWorkers (reg after : Registry) : Prop where
  started : after.started = reg.started
  updater : after.updater.worker = reg.updater.worker
  reporter : after.reporter = reg.reporter
  sinks : after.sinks.isEmpty = reg.sinks.isEmpty

theorem SameWorkers.refl (reg : Registry) : reg.SameWorkers reg := ⟨rfl, rfl, rfl, rfl⟩

theorem SameWorkers.trans {reg after last : Registry} (h : reg.SameWorkers after)
    (h' : after.SameWorkers last) : reg.SameWorkers last :=
  ⟨h'.started.trans h.started, h'.updater.trans h.updater, h'.reporter.trans h.reporter,
    h'.sinks.trans h.sinks⟩

theorem InStep.same {reg after : Registry} (h : reg.InStep) (hsame : reg.SameWorkers after) :
    after.InStep where
  updater := by rw [hsame.updater, hsame.started, h.updater]
  reporter := by rw [hsame.reporter, hsame.started, hsame.sinks, h.reporter]

/-! ## Calls that leave the workers alone -/

theorem sameWorkers_register (reg : Registry) (name : String) (r : Ref) (w : World) :
    reg.SameWorkers (reg.register name r w).2.1 := by
  rcases reg.register_cases name r w with hsame | ⟨-, -, hafter, -⟩
  · rw [hsame]
    exact .refl reg
  · rw [hafter, track]
    split <;> exact ⟨rfl, rfl, rfl, rfl⟩

theorem sameWorkers_registerBuilt (reg : Registry) (name : String)
    (built : Except Fault (Ref × Store)) (w : World) :
    reg.SameWorkers (reg.registerBuilt name built w).2.1 := by
  rcases reg.registerBuilt_cases name built w with hsame | ⟨r, store, -, hdone⟩
  · rw [hsame]
    exact .refl reg
  · rw [hdone]
    exact reg.sameWorkers_register name r { w with store }

theorem worker_remove (u : Updater) (view : Ref) (w : World) :
    (u.remove view w).1.worker = u.worker := by
  unfold Updater.remove
  split <;> rfl

theorem sameWorkers_unregister (reg : Registry) (name : String) (w : World) :
    reg.SameWorkers (reg.unregister name w).2.1 := by
  rcases reg.unregister_cases name w with hsame | ⟨r, -, hafter, -⟩
  · rw [hsame]
    exact .refl reg
  · rw [hafter]
    refine ⟨rfl, ?_, rfl, rfl⟩
    show (if w.store.isView r then _ else _ : Updater).worker = _
    split
    · exact worker_remove _ r w
    · rfl

/-- Serving sinks leaves as many as there were. -/
theorem isEmpty_forSinks (act : Sink → Host → Except Fault Unit × Sink × Host)
    (warning : Sink → String) (sinks : List Sink) (w : World) :
    (forSinks act warning sinks w).1.isEmpty = sinks.isEmpty := by
  cases sinks with
  | nil => rfl
  | cons sink rest => simp [forSinks]

theorem sameWorkers_report (reg : Registry) (now : Value) (w : World) :
    reg.SameWorkers (reg.report now w).2.1 := by
  unfold report
  dsimp only
  split
  · exact ⟨rfl, rfl, rfl, rfl⟩
  · exact ⟨rfl, rfl, rfl, isEmpty_forSinks _ _ reg.sinks _⟩

/-! ## Starting and closing -/

theorem start_of_started {reg : Registry} (h : reg.started = true) (w : World) :
    reg.start w = (.error (.alreadyStarted "MetricRegistry"), reg, w) := by
  rw [start, if_pos h]

/-- A registry as a start leaves it. -/
def awake (reg : Registry) : Registry :=
  { reg with
    updater := { reg.updater with worker := { reg.updater.worker with running := true } }
    reporter := { reg.reporter with running := !reg.sinks.isEmpty }
    started := true }

/-- **A registry that is not started can be started**: no worker is in the way. -/
theorem start_of_inStep {reg : Registry} (h : reg.InStep) (hstopped : reg.started = false)
    (w : World) : ∃ host, reg.start w = (.ok (), reg.awake, { w with host }) := by
  have hupdater := Worker.start_of_resting (h.updater.trans hstopped)
  -- without sinks there is nothing to report to, and the reporter is left as it is
  have hreporter : (if reg.sinks.isEmpty then .ok reg.reporter else reg.reporter.start) =
      (.ok reg.awake.reporter : Except Fault Worker) := by
    have hresting : reg.reporter.running = false := by rw [h.reporter, hstopped, Bool.false_and]
    unfold awake
    cases reg.sinks.isEmpty with
    | true =>
        show Except.ok reg.reporter = Except.ok { reg.reporter with running := false }
        rw [← hresting]
    | false => exact Worker.start_of_resting hresting
  unfold start
  rw [if_neg (by rw [hstopped]; exact Bool.false_ne_true), hupdater]
  dsimp only
  rw [hreporter]
  exact ⟨_, rfl⟩

theorem InStep.awake {reg : Registry} : reg.awake.InStep where
  updater := rfl
  reporter := by
    show (!reg.sinks.isEmpty) = (true && !reg.sinks.isEmpty)
    rw [Bool.true_and]

theorem InStep.start {reg : Registry} (h : reg.InStep) (w : World) :
    (reg.start w).2.1.InStep := by
  cases hstarted : reg.started with
  | true =>
      rw [start_of_started hstarted]
      exact h
  | false =>
      obtain ⟨host, hstart⟩ := start_of_inStep h hstarted w
      rw [hstart]
      exact .awake

/-- **After a close nothing runs**, whatever was the case before. -/
theorem close_inStep (reg : Registry) (w : World) :
    (reg.close w).1.InStep ∧ (reg.close w).1.started = false :=
  ⟨⟨rfl, rfl⟩, rfl⟩

/-! ## Lives -/

/-- **No call sets mark and workers apart.** -/
theorem InStep.call {reg : Registry} (h : reg.InStep) (w : World) (c : Call) :
    (reg.call w c).1.InStep := by
  cases c with
  | register name r => exact h.same (reg.sameWorkers_register name r w)
  | counter name | gauge name | meter name | gaugeMeter name =>
      exact h.same (reg.sameWorkers_registerBuilt name _ w)
  | unregister name => exact h.same (reg.sameWorkers_unregister name w)
  | updateViews | snapshot => exact h
  | report now => exact h.same (reg.sameWorkers_report now w)
  | start => exact h.start w
  | close => exact (reg.close_inStep w).1
  | assign name v => exact h.same ⟨rfl, rfl, rfl, rfl⟩

theorem inStep_of_create {settings : Settings} {sinks : List Sink} {host after : Host}
    {reg : Registry} (h : create settings sinks host = (.ok reg, after)) : reg.InStep := by
  unfold create at h
  split at h
  · cases h
  · rw [Prod.mk.injEq] at h
    obtain ⟨h, -⟩ := h
    obtain ⟨updater, hupdater, h⟩ := Fault.bind_eq_ok.mp h
    obtain ⟨reporter, hreporter, h⟩ := Fault.bind_eq_ok.mp h
    obtain ⟨worker, hworker, hupdater⟩ := Fault.bind_eq_ok.mp hupdater
    -- new workers do not run, and a new registry is not marked
    obtain ⟨-, -, hworker⟩ := Fault.bind_eq_ok.mp hworker
    obtain ⟨-, -, hreporter⟩ := Fault.bind_eq_ok.mp hreporter
    cases hworker
    cases hreporter
    cases hupdater
    cases h
    exact ⟨rfl, rfl⟩

/-- **Mark and workers agree as long as a registry lives.** -/
theorem inStep_live {settings : Settings} {sinks : List Sink} {before after : Host}
    {reg : Registry} (h : create settings sinks before = (.ok reg, after)) (w : World)
    (turns : List Turn) : (reg.live w turns).1.InStep := by
  refine live_induction (P := fun reg _ => reg.InStep) ?_ (inStep_of_create h) turns
  intro reg w t hin
  cases t with
  | call c => exact hin.call w c
  | aside actions host => exact hin

end Registry

end Telemetry
