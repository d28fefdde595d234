import Telemetry.Proofs.Registry.Life
import Telemetry.Proofs.Registry.Service

/-!
# The reports of a life

Of all turns in the life of a registry only two kinds reach the sinks: a report that comes to an
event, and a close. Only reports take numbers, and a report takes its number whether it comes to an
event or not.

Main statements: `serves_turn` (what a turn has to do with reports and sinks), `calls_call` (what
recorders note), `number_of_report` (the number of an event is the place of its report), `asked_eq`
(what every sink is asked in a life) and `written_eq` (what it is handed).
-/

namespace Telemetry

/-! ## Messages -/

namespace World

/-- Messages are no calls. -/
@[simp] theorem calls_log (w : World) (level : Int) (message : String) (cause : Option Fault) :
    (w.log level message cause).host.calls = w.host.calls := by
  unfold log Host.log
  split <;> rfl

@[simp] theorem calls_logAbout (w : World) (level : Int) (before : String) (r : Ref)
    (after : String) (cause : Option Fault) :
    (w.logAbout level before r after cause).host.calls = w.host.calls := by
  unfold logAbout
  split <;> rfl

end World

namespace Registry

open Sink (Request Does Deed)

/-! ## What a turn has to do with reports and sinks -/

/-- What becomes of the report, if a turn is one. -/
def reported (reg : Registry) (w : World) : Turn → List (Except Fault Event)
  | .call (.report now) => [(reg.report now w).1]
  | _ => []

/-- What every sink is asked for in a turn. -/
def asks (reg : Registry) (w : World) : Turn → List Request
  | .call (.report now) => ((reg.report now w).1.toOption.map .write).toList
  | .call .close => [.close]
  | _ => []

/-- Whether a turn closes the registry. -/
def Turn.closes : Turn → Bool
  | .call .close => true
  | _ => false

/-- The number of the next report and the sinks, after a turn. -/
inductive Serves (reg : Registry) (w : World) (t : Turn) : Registry → Prop where
  | idle {after : Registry} (hopen : t.closes = false) (hreported : reg.reported w t = [])
      (hasks : reg.asks w t = []) (hstep : after.step = reg.step)
      (hsinks : after.sinks = reg.sinks) : Serves reg w t after
  | failed {after : Registry} {fault : Fault} (hopen : t.closes = false)
      (hreported : reg.reported w t = [.error fault]) (hasks : reg.asks w t = [])
      (hstep : after.step = reg.step + 1) (hsinks : after.sinks = reg.sinks) : Serves reg w t after
  | published {after : Registry} {event : Event} {deeds : List Deed} (hopen : t.closes = false)
      (hreported : reg.reported w t = [.ok event]) (hasks : reg.asks w t = [.write event])
      (hnumber : event.step = .int reg.step) (hstep : after.step = reg.step + 1)
      (hdeeds : List.Forall₂ (Does (.write event) w.host.loggers) reg.sinks deeds)
      (hsinks : after.sinks = deeds.map (·.sink)) : Serves reg w t after
  | closed {after : Registry} (hcloses : t.closes = true) (hreported : reg.reported w t = [])
      (hasks : reg.asks w t = [.close]) (hstep : after.step = reg.step)
      (hsinks : after.sinks = []) : Serves reg w t after

theorem step_sinks_register (reg : Registry) (name : String) (r : Ref) (w : World) :
    (reg.register name r w).2.1.step = reg.step ∧
      (reg.register name r w).2.1.sinks = reg.sinks := by
  rcases reg.register_cases name r w with hsame | ⟨-, -, hafter, -⟩
  · rw [hsame]
    exact ⟨rfl, rfl⟩
  · rw [hafter, track]
    split <;> exact ⟨rfl, rfl⟩

theorem step_sinks_registerBuilt (reg : Registry) (name : String)
    (built : Except Fault (Ref × Store)) (w : World) :
    (reg.registerBuilt name built w).2.1.step = reg.step ∧
      (reg.registerBuilt name built w).2.1.sinks = reg.sinks := by
  rcases reg.registerBuilt_cases name built w with hsame | ⟨r, store, -, hdone⟩
  · rw [hsame]
    exact ⟨rfl, rfl⟩
  · rw [hdone]
    exact reg.step_sinks_register name r { w with store }

theorem step_sinks_unregister (reg : Registry) (name : String) (w : World) :
    (reg.unregister name w).2.1.step = reg.step ∧
      (reg.unregister name w).2.1.sinks = reg.sinks := by
  rcases reg.unregister_cases name w with hsame | ⟨r, -, hafter, -⟩
  · rw [hsame]
    exact ⟨rfl, rfl⟩
  · rw [hafter]
    exact ⟨rfl, rfl⟩

theorem step_sinks_start (reg : Registry) (w : World) :
    (reg.start w).2.1.step = reg.step ∧ (reg.start w).2.1.sinks = reg.sinks := by
  unfold start
  split
  · exact ⟨rfl, rfl⟩
  · split
    · exact ⟨rfl, rfl⟩
    · dsimp only
      split <;> exact ⟨rfl, rfl⟩

theorem serves_report (reg : Registry) (now : Value) (w : World) :
    reg.Serves w (.call (.report now)) (reg.report now w).2.1 := by
  rcases reg.report_cases now w with
    ⟨fault, -, hreport⟩ | ⟨metrics, deeds, -, hdeeds, hreport⟩
  · have hreported : reg.reported w (.call (.report now)) = [.error fault] := by
      rw [reported, hreport]
    have hasks : reg.asks w (.call (.report now)) = [] := by
      rw [asks, hreport]
      rfl
    rw [hreport]
    exact .failed rfl hreported hasks rfl rfl
  · let event := reg.event reg.step metrics now
    have hreported : reg.reported w (.call (.report now)) = [.ok event] := by
      rw [reported, hreport]
    have hasks : reg.asks w (.call (.report now)) = [.write event] := by
      rw [asks, hreport]
      rfl
    rw [hreport]
    exact .published rfl hreported hasks rfl rfl hdeeds rfl

/-- **A turn takes a number exactly if it is a report.** It asks the sinks for something if it is a
report that came to an event, or closes the registry. -/
theorem serves_turn (reg : Registry) (w : World) (t : Turn) : reg.Serves w t (reg.turn w t).1 := by
  cases t with
  | aside actions host => exact .idle rfl rfl rfl rfl rfl
  | call c =>
      cases c with
      | register name r =>
          obtain ⟨hstep, hsinks⟩ := reg.step_sinks_register name r w
          exact .idle rfl rfl rfl hstep hsinks
      | counter name | gauge name | meter name | gaugeMeter name =>
          obtain ⟨hstep, hsinks⟩ := reg.step_sinks_registerBuilt name _ w
          exact .idle rfl rfl rfl hstep hsinks
      | unregister name =>
          obtain ⟨hstep, hsinks⟩ := reg.step_sinks_unregister name w
          exact .idle rfl rfl rfl hstep hsinks
      | start =>
          obtain ⟨hstep, hsinks⟩ := reg.step_sinks_start w
          exact .idle rfl rfl rfl hstep hsinks
      | updateViews | snapshot | assign => exact .idle rfl rfl rfl rfl rfl
      | report now => exact reg.serves_report now w
      | close => exact .closed rfl rfl rfl rfl rfl

/-! ## What recorders note -/

theorem calls_register (reg : Registry) (name : String) (r : Ref) (w : World) :
    (reg.register name r w).2.2.host.calls = w.host.calls := by
  unfold register
  split
  · rfl
  · split
    · rfl
    · exact w.calls_log _ _ _

theorem calls_registerBuilt (reg : Registry) (name : String)
    (built : Except Fault (Ref × Store)) (w : World) :
    (reg.registerBuilt name built w).2.2.host.calls = w.host.calls := by
  rcases reg.registerBuilt_cases name built w with hsame | ⟨r, store, -, hdone⟩
  · rw [hsame]
  · rw [hdone]
    exact reg.calls_register name r { w with store }

theorem calls_unregister (reg : Registry) (name : String) (w : World) :
    (reg.unregister name w).2.2.host.calls = w.host.calls := by
  unfold unregister
  split
  · rfl
  · rw [World.calls_log]
    split
    · unfold Updater.remove
      split
      · rfl
      · exact w.calls_logAbout _ _ _ _ _
    · rfl

theorem calls_start (reg : Registry) (w : World) :
    (reg.start w).2.2.host.calls = w.host.calls := by
  unfold start
  split
  · rfl
  · split
    · rfl
    · dsimp only
      split
      · rfl
      · exact w.calls_log _ _ _

theorem calls_updateViews (reg : Registry) (w : World) :
    (reg.updateViews w).host.calls = w.host.calls := by
  obtain ⟨new, hhost, -⟩ := Updater.host_updateAll reg.updater.views w
  rw [updateViews, hhost]

theorem calls_report (reg : Registry) (now : Value) (w : World) :
    (reg.report now w).2.2.host.calls =
      w.host.calls ++ (reg.asks w (.call (.report now))).flatMap fun request =>
        reg.sinks.flatMap (Sink.notes request) := by
  rcases reg.report_cases now w with
    ⟨fault, -, hreport⟩ | ⟨metrics, deeds, -, hdeeds, hreport⟩
  · rw [asks, hreport]
    exact (List.append_nil _).symm
  · rw [asks, hreport]
    show (served w.host writeWarning reg.sinks deeds).calls = _
    rw [calls_served hdeeds]
    exact congrArg (w.host.calls ++ ·) (List.append_nil _).symm

theorem calls_close (reg : Registry) (w : World) :
    (reg.close w).2.host.calls = w.host.calls ++ reg.sinks.flatMap (Sink.notes .close) := by
  obtain ⟨deeds, hdeeds⟩ := exists_deeds .close w.host.loggers reg.sinks
  rw [close_eq reg w hdeeds, World.calls_log]
  exact calls_served hdeeds _ _

/-- **Recorders note what the sinks are asked for**, and nothing else. -/
theorem calls_call (reg : Registry) (w : World) (c : Call) :
    (reg.call w c).2.host.calls =
      w.host.calls ++ (reg.asks w (.call c)).flatMap fun request =>
        reg.sinks.flatMap (Sink.notes request) := by
  have hquiet : ∀ calls : List SinkCall, calls = w.host.calls →
      calls = w.host.calls ++ ([] : List Request).flatMap fun request =>
        reg.sinks.flatMap (Sink.notes request) := by
    intro calls hcalls
    rw [hcalls, List.flatMap_nil, List.append_nil]
  cases c with
  | register name r => exact hquiet _ (reg.calls_register name r w)
  | counter name | gauge name | meter name | gaugeMeter name =>
      exact hquiet _ (reg.calls_registerBuilt name _ w)
  | unregister name => exact hquiet _ (reg.calls_unregister name w)
  | updateViews => exact hquiet _ (reg.calls_updateViews w)
  | start => exact hquiet _ (reg.calls_start w)
  | snapshot | assign => exact hquiet _ rfl
  | report now => exact reg.calls_report now w
  | close =>
      show (reg.close w).2.host.calls = _
      rw [calls_close, asks, List.flatMap_singleton]

/-! ## Lives -/

/-- What becomes of the reports of a life, in order. -/
def reports (reg : Registry) (w : World) : List Turn → List (Except Fault Event)
  | [] => []
  | t :: rest => reg.reported w t ++ (reg.turn w t).1.reports (reg.turn w t).2 rest

/-- What the sink at a place is asked for in a life, in order. -/
def asked (place : Nat) (reg : Registry) (w : World) : List Turn → List Request
  | [] => []
  | t :: rest => (if place < reg.sinks.length then reg.asks w t else []) ++
      asked place (reg.turn w t).1 (reg.turn w t).2 rest

/-- The events that the sink at a place is handed in a life, in order. -/
def written (place : Nat) (reg : Registry) (w : World) (turns : List Turn) : List Event :=
  (asked place reg w turns).filterMap Request.event?

theorem step_turn (reg : Registry) (w : World) (t : Turn) :
    (reg.turn w t).1.step = reg.step + (reg.reported w t).length := by
  cases reg.serves_turn w t with
  | idle _ hreported _ hstep => rw [hreported, hstep, List.length_nil, Nat.add_zero]
  | failed _ hreported _ hstep => rw [hreported, hstep, List.length_singleton]
  | published _ hreported _ _ hstep => rw [hreported, hstep, List.length_singleton]
  | closed _ hreported _ hstep => rw [hreported, hstep, List.length_nil, Nat.add_zero]

/-- **Every report of a life takes a number**, and nothing else does. -/
theorem step_live (reg : Registry) (w : World) (turns : List Turn) :
    (reg.live w turns).1.step = reg.step + (reg.reports w turns).length := by
  induction turns generalizing reg w with
  | nil => rfl
  | cons t rest ih =>
      rw [live_cons, ih, step_turn, reports, List.length_append, Nat.add_assoc]

theorem number_of_reported {reg : Registry} {w : World} {t : Turn} {i : Nat} {event : Event}
    (h : (reg.reported w t)[i]? = some (.ok event)) : event.step = .int (reg.step + i : Nat) := by
  cases reg.serves_turn w t with
  | idle _ hreported | failed _ hreported | closed _ hreported =>
      rw [hreported] at h
      cases i <;> simp at h
  | published _ hreported _ hnumber =>
      rw [hreported] at h
      cases i with
      | zero =>
          cases h
          exact hnumber
      | succ i => simp at h

/-- **The number of an event is the place of its report** among all reports, the failed ones as
well. -/
theorem number_of_report {reg : Registry} {w : World} {turns : List Turn} {i : Nat} {event : Event}
    (h : (reg.reports w turns)[i]? = some (.ok event)) :
    event.step = .int (reg.step + i : Nat) := by
  induction turns generalizing reg w i with
  | nil => cases h
  | cons t rest ih =>
      rw [reports] at h
      -- the place is in this turn, or behind it and the number has been moved on by this turn
      by_cases hi : i < (reg.reported w t).length
      · rw [List.getElem?_append_left hi] at h
        exact number_of_reported h
      · have hle : (reg.reported w t).length ≤ i := Nat.le_of_not_lt hi
        rw [List.getElem?_append_right hle] at h
        have hstep := ih h
        rw [step_turn] at hstep
        rw [hstep]
        congr 2
        omega

/-! ### What a sink is handed -/

theorem length_sinks_turn (reg : Registry) (w : World) (t : Turn) :
    (reg.turn w t).1.sinks.length = if t.closes then 0 else reg.sinks.length := by
  cases reg.serves_turn w t with
  | idle hopen _ _ _ hsinks => rw [hopen, hsinks]; rfl
  | failed hopen _ _ _ hsinks => rw [hopen, hsinks]; rfl
  | published hopen _ _ _ _ hdeeds hsinks =>
      rw [hopen, hsinks, List.length_map, hdeeds.length_eq]
      rfl
  | closed hcloses _ _ _ hsinks => rw [hcloses, hsinks]; rfl

theorem length_sinks_turn_le (reg : Registry) (w : World) (t : Turn) :
    (reg.turn w t).1.sinks.length ≤ reg.sinks.length := by
  rw [length_sinks_turn]
  split
  · exact Nat.zero_le _
  · exact Nat.le_refl _

/-- A sink that is not there is asked for nothing, and it does not come back. -/
theorem asked_of_le {place : Nat} {reg : Registry} (h : reg.sinks.length ≤ place) (w : World)
    (turns : List Turn) : reg.asked place w turns = [] := by
  induction turns generalizing reg w with
  | nil => rfl
  | cons t rest ih =>
      rw [asked, if_neg (Nat.not_lt.mpr h), List.nil_append]
      exact ih (Nat.le_trans (reg.length_sinks_turn_le w t) h) _

/-- A turn that does not close asks for its event to be written, if it comes to one. -/
theorem asks_of_open {reg : Registry} {w : World} {t : Turn} (h : t.closes = false) :
    reg.asks w t = ((reg.reported w t).filterMap Except.toOption).map .write := by
  cases reg.serves_turn w t with
  | idle _ hreported hasks => rw [hreported, hasks]; rfl
  | failed _ hreported hasks => rw [hreported, hasks]; rfl
  | published _ hreported hasks => rw [hreported, hasks]; rfl
  | closed hcloses => rw [h] at hcloses; cases hcloses

theorem asks_of_closes {reg : Registry} {w : World} {t : Turn} (h : t.closes = true) :
    reg.asks w t = [.close] ∧ (reg.turn w t).1.sinks = [] := by
  cases reg.serves_turn w t with
  | closed _ _ hasks _ hsinks => exact ⟨hasks, hsinks⟩
  | idle hopen | failed hopen | published hopen => rw [h] at hopen; cases hopen

/-- What becomes of the reports of a life up to its first close. -/
def reportsBeforeClose (reg : Registry) (w : World) (turns : List Turn) :
    List (Except Fault Event) :=
  reg.reports w (turns.takeWhile fun t => !t.closes)

/-- What a registry asks of its sinks in a life: to write the event of every report until the first
close, and then to close. -/
def requests (reg : Registry) (w : World) (turns : List Turn) : List Request :=
  ((reg.reportsBeforeClose w turns).filterMap Except.toOption).map .write ++
    if turns.any Turn.closes then [.close] else []

/-- Nothing is asked behind the first close. -/
theorem requests_cons (reg : Registry) (w : World) (t : Turn) (rest : List Turn) :
    reg.requests w (t :: rest) =
      if t.closes then [.close]
      else reg.asks w t ++ (reg.turn w t).1.requests (reg.turn w t).2 rest := by
  unfold requests reportsBeforeClose
  rw [List.takeWhile_cons, List.any_cons]
  cases hcloses : t.closes with
  | true => rfl
  | false =>
      rw [asks_of_open hcloses]
      simp [reports, List.filterMap_append]

/-- **Every sink is asked the same**, wherever it stands among the sinks. -/
theorem asked_eq {place : Nat} {reg : Registry} (h : place < reg.sinks.length) (w : World)
    (turns : List Turn) : reg.asked place w turns = reg.requests w turns := by
  induction turns generalizing reg w with
  | nil => rfl
  | cons t rest ih =>
      have hlength := reg.length_sinks_turn w t
      rw [asked, if_pos h, requests_cons]
      cases hcloses : t.closes with
      | true =>
          -- the sinks are gone, and no turn brings them back
          rw [hcloses] at hlength
          rw [asked_of_le (Nat.le_trans (Nat.le_of_eq hlength) (Nat.zero_le place)),
            (asks_of_closes hcloses).1]
          rfl
      | false =>
          rw [hcloses] at hlength
          rw [ih (Nat.lt_of_lt_of_eq h hlength.symm)]
          rfl

/-- **A sink is handed the event of every report until the registry is closed**, and nothing after
that. -/
theorem written_eq {place : Nat} {reg : Registry} (h : place < reg.sinks.length) (w : World)
    (turns : List Turn) :
    reg.written place w turns =
      (reg.reportsBeforeClose w turns).filterMap Except.toOption := by
  have hevents (events : List Event) : (events.map Request.write).filterMap Request.event? =
      events := by
    rw [List.filterMap_map]
    exact List.filterMap_some
  rw [written, asked_eq h, requests, List.filterMap_append, hevents]
  split <;> exact List.append_nil _

end Registry

end Telemetry
