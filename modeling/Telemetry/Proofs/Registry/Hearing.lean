import Telemetry.Proofs.Registry.Numbering

/-!
# What sinks hear of a registry

All sinks of a registry hear the same: the events of its reports with increasing numbers, then at
most one close, and nothing after that, however often it is reported, started or closed. It does not
matter which of the calls fail.

Main statements: `hearing_eq` (all that sinks note of a registry, in order) and `heard_of_life`
(what one of them hears).
-/

namespace Telemetry

/-! ## Notes -/

/-- The sink that a call was made of. -/
def SinkCall.sink : SinkCall → String
  | .write sink _ => sink
  | .close sink => sink

/-- What a call asked for. -/
def SinkCall.request : SinkCall → Sink.Request
  | .write _ event => .write event
  | .close _ => .close

namespace Sink

/-- The name under which a sink notes its calls. -/
def name? : Sink → Option String
  | recorder name _ _ => some name
  | guest _ name _ => some name
  | _ => none

theorem sink_of_mem_notes {request : Request} {sink : Sink} {call : SinkCall}
    (h : call ∈ sink.notes request) : sink.name? = some call.sink := by
  cases sink with
  | log | lines | summary => cases h
  | recorder name failing refuses =>
      cases request with
      | write event =>
          rw [notes] at h
          split at h
          · rw [List.mem_singleton.mp h]
            rfl
          · cases h
      | close =>
          rw [List.mem_singleton.mp h]
          rfl
  | guest kind name endings =>
      cases request with
      | write event | close =>
          rw [List.mem_singleton.mp h]
          rfl

/-- However a call ends, a sink notes the next one as it would have. -/
theorem notes_of_does {asked : Request} {loggers : Loggers} {sink : Sink} {d : Deed}
    (h : Does asked loggers sink d) (request : Request) :
    d.sink.notes request = sink.notes request := by
  have hsink : d.sink = (serve asked sink { loggers, room := 0 }).2.1 := by
    rw [h { loggers, room := 0 } rfl]
  rw [hsink]
  cases asked with
  | write event | close => cases sink <;> rfl

end Sink

namespace Registry

open Sink (Request Does Deed)

/-- What sinks note of a turn: what it adds to the calls that are noted. -/
def notesOf (reg : Registry) (w : World) : Turn → List SinkCall
  | .call c => (reg.call w c).2.host.calls.drop w.host.calls.length
  | .aside _ _ => []

/-- What sinks note of a life, in order. -/
def hearing (reg : Registry) (w : World) : List Turn → List SinkCall
  | [] => []
  | t :: rest => reg.notesOf w t ++ (reg.turn w t).1.hearing (reg.turn w t).2 rest

/-- What the sink of a name hears in a life, in order. -/
def heard (name : String) (reg : Registry) (w : World) (turns : List Turn) : List Request :=
  ((reg.hearing w turns).filter (·.sink = name)).map SinkCall.request

/-- All notes of a request. -/
def notesOfAll (reg : Registry) (request : Request) : List SinkCall :=
  reg.sinks.flatMap (Sink.notes request)

theorem notesOf_eq (reg : Registry) (w : World) (t : Turn) :
    reg.notesOf w t = (reg.asks w t).flatMap reg.notesOfAll := by
  cases t with
  | aside actions host => rfl
  | call c =>
      rw [notesOf, calls_call, List.drop_left]
      rfl

theorem flatMap_notes_of_does {asked : Request} {loggers : Loggers} {sinks : List Sink}
    {deeds : List Deed} (h : List.Forall₂ (Does asked loggers) sinks deeds) (request : Request) :
    (deeds.map (·.sink)).flatMap (Sink.notes request) = sinks.flatMap (Sink.notes request) := by
  induction h with
  | nil => rfl
  | cons hd _ ih =>
      rw [List.map_cons, List.flatMap_cons, List.flatMap_cons, Sink.notes_of_does hd, ih]

/-- As long as a registry is not closed, its sinks note what they are asked as they did before. -/
theorem notesOfAll_turn {reg : Registry} {w : World} {t : Turn} (h : t.closes = false) :
    (reg.turn w t).1.notesOfAll = reg.notesOfAll := by
  funext request
  unfold notesOfAll
  cases reg.serves_turn w t with
  | idle _ _ _ _ hsinks | failed _ _ _ _ hsinks => rw [hsinks]
  | closed hcloses => rw [h] at hcloses; cases hcloses
  | published _ _ _ _ _ hdeeds hsinks =>
      rw [hsinks]
      exact flatMap_notes_of_does hdeeds request

/-- **All that sinks note of a registry**: each of its requests in turn, and of each request all
sinks in order. -/
theorem hearing_eq (reg : Registry) (w : World) (turns : List Turn) :
    reg.hearing w turns = (reg.requests w turns).flatMap reg.notesOfAll := by
  induction turns generalizing reg w with
  | nil => rfl
  | cons t rest ih =>
      rw [hearing, notesOf_eq, ih, requests_cons]
      cases hcloses : t.closes with
      | true =>
          obtain ⟨hasks, hsinks⟩ : reg.asks w t = [.close] ∧ (reg.turn w t).1.sinks = [] :=
            asks_of_closes hcloses
          -- without sinks nothing is noted, whatever is asked
          have hsilent : (reg.turn w t).1.notesOfAll = fun _ => [] := by
            funext request
            rw [notesOfAll, hsinks]
            rfl
          rw [hasks, hsilent, if_pos rfl]
          simp
      | false =>
          rw [notesOfAll_turn hcloses, if_neg Bool.false_ne_true, List.flatMap_append]

/-! ## One sink -/

/-- There is a guest of this name among the sinks, and no other sink goes by it. -/
def HasGuest (reg : Registry) (name : String) : Prop :=
  ∃ before kind endings behind, reg.sinks = before ++ .guest kind name endings :: behind ∧
    ∀ other ∈ before ++ behind, other.name? ≠ some name

theorem filter_notes_of_ne {sinks : List Sink} {name : String}
    (h : ∀ sink ∈ sinks, sink.name? ≠ some name) (request : Request) :
    (sinks.flatMap (Sink.notes request)).filter (·.sink = name) = [] := by
  apply List.filter_eq_nil_iff.mpr
  intro call hcall hname
  obtain ⟨sink, hsink, hnote⟩ := List.mem_flatMap.mp hcall
  apply h sink hsink
  rw [Sink.sink_of_mem_notes hnote, of_decide_eq_true hname]

/-- Of all notes of a request, one is the guest's. -/
theorem filter_notesOfAll {reg : Registry} {name : String} (h : reg.HasGuest name)
    (request : Request) :
    ((reg.notesOfAll request).filter (·.sink = name)).map SinkCall.request = [request] := by
  obtain ⟨before, kind, endings, behind, hsinks, hothers⟩ := h
  have hbefore : ∀ sink ∈ before, sink.name? ≠ some name :=
    fun sink hsink => hothers sink (List.mem_append_left behind hsink)
  have hbehind : ∀ sink ∈ behind, sink.name? ≠ some name :=
    fun sink hsink => hothers sink (List.mem_append_right before hsink)
  rw [notesOfAll, hsinks, List.flatMap_append, List.flatMap_cons, List.filter_append,
    List.filter_append, filter_notes_of_ne hbefore, filter_notes_of_ne hbehind, List.nil_append,
    List.append_nil]
  cases request with
  | write event | close => simp [Sink.notes, SinkCall.sink, SinkCall.request]

theorem heard_eq {reg : Registry} {name : String} (h : reg.HasGuest name) (w : World)
    (turns : List Turn) : reg.heard name w turns = reg.requests w turns := by
  rw [heard, hearing_eq, List.filter_flatMap, List.map_flatMap]
  simp only [filter_notesOfAll h]
  exact List.flatMap_singleton' _

/-! ## Increasing numbers -/

/-- The numbers of events increase. -/
def Ascending (events : List Event) : Prop :=
  ∃ numbers : List Nat, events.map (·.step) = numbers.map (fun n : Nat => .int n) ∧
    numbers.Pairwise (· < ·)

theorem ascending_reports (reg : Registry) (w : World) (turns : List Turn) :
    Ascending ((reg.reports w turns).filterMap Except.toOption) := by
  refine ⟨(successes (reg.reports w turns)).map (reg.step + ·), ?_, ?_⟩
  · rw [List.map_map]
    exact map_filterMap_toOption fun i event h => number_of_report h
  · rw [List.pairwise_map]
    refine (pairwise_successes _).imp ?_
    intro i j hij
    exact Nat.add_lt_add_left hij reg.step

/-- **All sinks hear the same of a registry**: events with increasing numbers, then a close if it is
ever closed, and nothing after that. What a turn asks of the sinks is done by each of them once, so
that this is what every sink is asked; sinks that note their calls note it request by request and in
the order of the sinks; and it is what each of them has noted under a name of its own.

A sink is a place among the sinks: an object that was given twice has two places and is asked once for
each. The turns are taken one after another, and the workers have none of their own. -/
theorem heard_of_life (reg : Registry) (w : World) (turns : List Turn) :
    let events := (reg.reportsBeforeClose w turns).filterMap Except.toOption
    let requests := events.map Request.write ++ if turns.any Turn.closes then [.close] else []
    Ascending events ∧
    (∀ place < reg.sinks.length, reg.asked place w turns = requests) ∧
    reg.hearing w turns =
      requests.flatMap (fun request => reg.sinks.flatMap (Sink.notes request)) ∧
    (∀ name, reg.HasGuest name → reg.heard name w turns = requests) ∧
    ∀ t, (reg.live w turns).1.Serves (reg.live w turns).2 t
      ((reg.live w turns).1.turn (reg.live w turns).2 t).1 := by
  intro events requests
  refine ⟨reg.ascending_reports w _, ?_, reg.hearing_eq w turns, ?_, ?_⟩
  · intro place hplace
    exact asked_eq hplace w turns
  · intro name hguest
    exact heard_eq hguest w turns
  · exact serves_turn _ _

/-- A registry with two guests, one of which fails when it is to write its second event and when it
is to be closed. -/
def attended : Registry :=
  { bare with sinks :=
      [.guest "Feed" "shaky"
        [.ok (), .error (.raised "OSError" "disk full"), .error (.raised "OSError" "disk full")],
       .guest "Feed" "steady" []] }

/-- Both guests hear two events and one close, and nothing of what is done after that. -/
theorem heard_of_attended :
    let turns := [Turn.call (.report .null), .call .start, .call (.report .null), .call .close,
      .call (.report .null), .call .start, .call .close]
    let requests : List Request :=
      [.write (attended.event 0 [] .null), .write (attended.event 1 [] .null), .close]
    attended.heard "shaky" twoViews turns = requests ∧
      attended.heard "steady" twoViews turns = requests := by
  intro turns requests
  obtain ⟨-, -, -, hheard, -⟩ := heard_of_life attended twoViews turns
  have hshaky : attended.HasGuest "shaky" :=
    ⟨[], _, _, [.guest "Feed" "steady" []], rfl, by simp [Sink.name?]⟩
  have hsteady : attended.HasGuest "steady" :=
    ⟨attended.sinks.take 1, _, _, [], rfl, by simp [attended, Sink.name?]⟩
  exact ⟨hheard "shaky" hshaky, hheard "steady" hsteady⟩

end Registry

end Telemetry
