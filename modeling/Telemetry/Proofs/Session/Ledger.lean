import Telemetry.Proofs.Session.Effects

/-!
# The ledger of a counter

A counter is shared: it can be changed under its own identifiers and through every meter that follows
it, whether the meter is registered or not. Whatever the route, a command that succeeds posts one
change to one counter, and a command that is refused posts none. The ledger of a counter is the list
of its postings; what the counter shows is the count at which it was opened, with all that was added
and less all that was taken away.

* `request?` is what a command asks of a counter, `postings` what a run has posted to it.
* `execute_of_request` says that a command with a request is a change of the store, and
  `get?_step_of_not_isChange` that all other commands leave all counters alone.
* `count_of_postings` is the law of a run for a counter that is there, `exists_opening` finds the
  command that opened it, and `counts_of_session` puts both together.
-/

namespace Telemetry

namespace Session

/-! ## Postings -/

/-- What a command asks of a counter: which one is to be changed, how and by what amount. Events that
are recorded on a meter are to be added to the counter that it follows. -/
def request? (s : Session) : Command → Option (Ref × Store.Change × Value)
  | .perform id (.change c amount) => (s.ids.get? id).map fun r => (r, c, amount)
  | .perform id (.recordEvent amount) => (s.ids.get? id).bind fun r =>
    match s.world.store.get? r with
    | some (.meter counter _) => some (counter, .increase, amount)
    | _ => none
  | _ => none

/-- What a command posts to a counter: the change that it asks for, if it succeeds. -/
def posting? (s : Session) (r : Ref) (command : Command) : Option (Store.Change × Value) :=
  match s.request? command with
  | some (counter, c, amount) =>
    if counter = r ∧ (s.step command).1.result.isOk = true then some (c, amount) else none
  | none => none

/-- What a run posts to a counter, in order. -/
def postings (r : Ref) : Session → List Command → List (Store.Change × Value)
  | _, [] => []
  | s, command :: rest => (s.posting? r command).toList ++ postings r (s.step command).2 rest

/-- The sum of all integers that were added, or of all that were taken away. -/
def total (c : Store.Change) (posted : List (Store.Change × Value)) : Int :=
  (posted.filterMap fun p => if p.1 = c then p.2.integer? else none).sum

/-- A counter is opened in a run: a command makes it where nothing was before, and it shows the count
at which the command lets a counter start. -/
def Opens (s : Session) (r : Ref) (start : Int) (commands : List Command) : Prop :=
  ∃ before command after, commands = before ++ command :: after ∧
    (s.run before).2.world.store.get? r = none ∧ command.opening = .ok start ∧
    (s.run (before ++ [command])).2.world.store.get? r = some (.counter (.int start))

theorem total_append (c : Store.Change) (first second : List (Store.Change × Value)) :
    total c (first ++ second) = total c first + total c second := by
  simp [total]

/-- A posting moves the balance of a ledger by its amount. -/
theorem after_eq_total (c : Store.Change) {amount : Value} {n : Int}
    (hamount : amount.integer? = some n) (count : Int) :
    c.after count n = count + total .increase [(c, amount)] - total .decrease [(c, amount)] := by
  cases c <;> simp [total, Store.Change.after, hamount]

/-! ## Commands that change counters -/

/-- An operation that updaters and registries do not have is one on a metric, if what is no metric
refuses it there as well. -/
theorem onObject_eq_onMetric {s : Session} {r : Ref} {operation : Operation}
    (hupdater : ∀ index u, s.onUpdater r index u operation = s.refuse r operation)
    (hregistry : ∀ index reg, s.onRegistry r index reg operation = s.refuse r operation)
    (hrefused : ∀ m, s.world.store.get? r = some m → m.isMetric = false →
      s.refuse r operation = s.onMetric r operation) :
    s.onObject r operation = s.onMetric r operation := by
  unfold onObject
  split
  · next index h =>
    split
    · rw [hupdater]
      exact hrefused _ h rfl
    · exact hrefused _ h rfl
  · next index h =>
    split
    · rw [hregistry]
      exact hrefused _ h rfl
    · exact hrefused _ h rfl
  · rfl

theorem onObject_change (s : Session) (r : Ref) (c : Store.Change) (amount : Value) :
    s.onObject r (.change c amount) = s.changed (s.world.store.change c r amount) := by
  refine onObject_eq_onMetric (fun _ _ => rfl) (fun _ _ => rfl) ?_
  intro m h hm
  simp only [onMetric, Store.change, h]
  cases m with
  | updater | registry => rfl
  | _ => cases hm

theorem onObject_recordEvent (s : Session) (r : Ref) (amount : Value) :
    s.onObject r (.recordEvent amount) = s.changed (s.world.store.recordEvent r amount) := by
  refine onObject_eq_onMetric (fun _ _ => rfl) (fun _ _ => rfl) ?_
  intro m h hm
  simp only [onMetric, Store.recordEvent, h]
  cases m with
  | updater | registry => rfl
  | _ => cases hm

/-- **A command with a request is a change of the counter that it names**, by whatever route. -/
theorem execute_of_request {s : Session} {command : Command} {r : Ref} {c : Store.Change}
    {amount : Value} (h : s.request? command = some (r, c, amount)) :
    s.execute command = s.changed (s.world.store.change c r amount) := by
  unfold request? at h
  split at h
  · next id c' amount' =>
    obtain ⟨k, hk, hrequest⟩ := Option.map_eq_some_iff.mp h
    cases hrequest
    show s.given (s.find id) _ = _
    simp only [find, hk, given]
    exact s.onObject_change r c amount
  · next id amount' =>
    obtain ⟨meter, hk, hrequest⟩ := Option.bind_eq_some_iff.mp h
    split at hrequest
    · next counter window hmeter =>
      cases hrequest
      show s.given (s.find id) _ = _
      simp only [find, hk, given]
      rw [onObject_recordEvent]
      simp only [Store.recordEvent, hmeter]
    · cases hrequest
  · cases h

/-- A command that would change a counter and finds none is refused, and nothing changes. -/
theorem execute_of_no_request {s : Session} {command : Command} (hchange : command.isChange = true)
    (h : s.request? command = none) : ∃ fault, s.execute command = (.error fault, s) := by
  cases command with
  | perform id operation =>
      show ∃ fault, s.given (s.find id) _ = (.error fault, s)
      cases hid : s.ids.get? id with
      | none =>
          simp only [find, hid, given]
          exact ⟨_, rfl⟩
      | some r =>
          simp only [find, hid, given]
          cases operation with
          | change c amount => simp [request?, hid] at h
          | recordEvent amount =>
              rw [onObject_recordEvent]
              have hmeter : ∀ counter window,
                  s.world.store.get? r ≠ some (.meter counter window) := by
                intro counter window hr
                simp [request?, hid, hr] at h
              refine ⟨s.world.store.noOperation r "record_event", ?_⟩
              unfold Store.recordEvent
              split
              · next counter window hr => exact absurd hr (hmeter counter window)
              · rfl
          | _ => cases hchange
  | _ => cases hchange

/-! ## Steps -/

theorem step_of_changed {s : Session} {command : Command} {done : Except Fault Store}
    (h : s.drained.execute command = s.drained.changed done) :
    (s.step command).1 = ⟨done.map fun _ => .nothing, [], []⟩ ∧
      (s.step command).2 = s.drained.withStore (done.toOption.getD s.world.store) := by
  have hstep : s.step command = (⟨(s.drained.changed done).1,
      (s.drained.changed done).2.world.host.records,
      (s.drained.changed done).2.world.host.calls⟩, (s.drained.changed done).2) := by
    rw [← h]
    rfl
  rw [hstep]
  cases done <;> exact ⟨rfl, rfl⟩

/-- A step with a request is a change of the store, which succeeds or is refused with it. -/
theorem step_of_request {s : Session} {command : Command} {r : Ref} {c : Store.Change}
    {amount : Value} (h : s.request? command = some (r, c, amount)) :
    (s.step command).1 = ⟨(s.world.store.change c r amount).map fun _ => .nothing, [], []⟩ ∧
      (s.step command).2 =
        s.drained.withStore ((s.world.store.change c r amount).toOption.getD s.world.store) :=
  step_of_changed (execute_of_request (s := s.drained) h)

/-- A command that changes no counter is a run of actions that change none. -/
theorem exists_run_of_not_isChange (s : Session) {command : Command}
    (hchange : command.isChange = false) :
    ∃ actions : List Store.Action, (∀ a ∈ actions, a.Counts false command.opening) ∧
      (s.step command).2.world.store = s.world.store.run actions := by
  obtain ⟨actions, hdoes, hrun⟩ := s.drained.does_execute command
  refine ⟨actions, ?_, hrun⟩
  intro a ha
  rw [← hchange]
  exact (hdoes a ha).2

/-- **A command that changes no counter leaves all counters as they are.** -/
theorem get?_step_of_not_isChange {s : Session} {command : Command}
    (hchange : command.isChange = false) {r : Ref} {count : Number}
    (h : s.world.store.get? r = some (.counter count)) :
    (s.step command).2.world.store.get? r = some (.counter count) := by
  obtain ⟨actions, hcounts, hrun⟩ := s.exists_run_of_not_isChange hchange
  rw [hrun]
  exact Store.get?_run_counter hcounts h

/-- A step that posts nothing to a counter leaves it as it is. -/
theorem get?_step_of_no_posting {s : Session} {command : Command} {r : Ref} {count : Number}
    (hposting : s.posting? r command = none) (h : s.world.store.get? r = some (.counter count)) :
    (s.step command).2.world.store.get? r = some (.counter count) := by
  cases hchange : command.isChange with
  | false => exact get?_step_of_not_isChange hchange h
  | true =>
      cases hrequest : s.request? command with
      | none =>
          obtain ⟨fault, hrefused⟩ := execute_of_no_request (s := s.drained) hchange hrequest
          show (s.drained.execute command).2.world.store.get? r = _
          rw [hrefused]
          exact h
      | some request =>
          obtain ⟨k, c, amount⟩ := request
          obtain ⟨houtcome, hafter⟩ := step_of_request hrequest
          rw [hafter]
          show ((s.world.store.change c k amount).toOption.getD s.world.store).get? r = _
          cases hdone : s.world.store.change c k amount with
          | error fault => exact h
          | ok t =>
              -- a change that succeeds is posted, so that it is one of another counter
              have hkr : k ≠ r := by
                rintro rfl
                simp [posting?, hrequest, houtcome, hdone] at hposting
                cases hposting
              obtain ⟨before, after, -, rfl⟩ := Store.change_eq_ok hdone
              show (s.world.store.set k _).get? r = _
              rw [Store.get?_set, if_neg hkr, h]

/-- What is posted to a counter is the change that was asked for, and the step succeeds. -/
theorem request?_of_posting? {s : Session} {command : Command} {r : Ref} {c : Store.Change}
    {amount : Value} (h : s.posting? r command = some (c, amount)) :
    s.request? command = some (r, c, amount) ∧ (s.step command).1.result.isOk = true := by
  unfold posting? at h
  split at h
  · next k c' amount' hrequest =>
    split at h
    · next hposted =>
      cases h
      exact ⟨hposted.1 ▸ hrequest, hposted.2⟩
    · cases h
  · cases h

/-- Nothing is posted to a counter that is not there. -/
theorem posting?_of_none {s : Session} {r : Ref} (h : s.world.store.get? r = none)
    (command : Command) : s.posting? r command = none := by
  cases hposting : s.posting? r command with
  | none => rfl
  | some p =>
      obtain ⟨c, amount⟩ := p
      obtain ⟨hrequest, hok⟩ := request?_of_posting? hposting
      rw [(step_of_request hrequest).1] at hok
      simp only [Store.change, h] at hok
      cases hok

/-- A counter that a step brings into being shows the count at which the command lets it start. -/
theorem opening_of_step {s : Session} {command : Command} {r : Ref} {count : Number}
    (hbefore : s.world.store.get? r = none)
    (hafter : (s.step command).2.world.store.get? r = some (.counter count)) :
    ∃ start, command.opening = .ok start ∧ count = .int start := by
  cases hchange : command.isChange with
  | false =>
      obtain ⟨actions, hcounts, hrun⟩ := s.exists_run_of_not_isChange hchange
      rw [hrun] at hafter
      exact Store.opened_run hcounts hbefore hafter
  | true =>
      -- a command that changes counters adds nothing
      exfalso
      cases hrequest : s.request? command with
      | none =>
          obtain ⟨fault, hrefused⟩ := execute_of_no_request (s := s.drained) hchange hrequest
          have hfound : (s.drained.execute command).2.world.store.get? r = some (.counter count) :=
            hafter
          rw [hrefused] at hfound
          cases hbefore.symm.trans hfound
      | some request =>
          obtain ⟨k, c, amount⟩ := request
          rw [(step_of_request hrequest).2] at hafter
          cases hdone : s.world.store.change c k amount with
          | error fault =>
              rw [hdone] at hafter
              cases hbefore.symm.trans hafter
          | ok t =>
              rw [hdone] at hafter
              obtain ⟨before, after, -, rfl⟩ := Store.change_eq_ok hdone
              cases (Store.get?_set_of_none hbefore k _).symm.trans hafter

/-! ## Runs -/

/-- **The law of a ledger**: a counter shows the count at which it started, with all that was added
and less all that was taken away. -/
theorem count_of_postings {s : Session} {r : Ref} {start : Int}
    (h : s.world.store.get? r = some (.counter (.int start))) {commands : List Command}
    (hwhole : ∀ p ∈ s.postings r commands, p.2.integer?.isSome = true) :
    (s.run commands).2.world.store.get? r = some (.counter (.int (start +
      total .increase (s.postings r commands) - total .decrease (s.postings r commands)))) := by
  induction commands generalizing s start with
  | nil => simpa [run, postings, total] using h
  | cons command rest ih =>
      show ((s.step command).2.run rest).2.world.store.get? r = _
      rw [postings] at hwhole ⊢
      have hrest : ∀ p ∈ (s.step command).2.postings r rest, p.2.integer?.isSome = true :=
        fun p hp => hwhole p (List.mem_append_right _ hp)
      cases hposting : s.posting? r command with
      | none => exact ih (get?_step_of_no_posting hposting h) hrest
      | some p =>
          obtain ⟨c, amount⟩ := p
          obtain ⟨n, hn⟩ := Option.isSome_iff_exists.mp (hwhole (c, amount) (by simp [hposting]))
          obtain ⟨hrequest, -⟩ := request?_of_posting? hposting
          have hafter : (s.step command).2.world.store.get? r =
              some (.counter (.int (c.after start n))) := by
            rw [(step_of_request hrequest).2, Store.change_integer h hn]
            show (s.world.store.set r _).get? r = _
            rw [Store.get?_set, if_pos rfl, h]
            rfl
          rw [ih hafter hrest, after_eq_total c hn]
          simp only [Option.toList_some, total_append]
          congr 3
          omega

/-- **A counter of a run was opened in it**, and all its postings came later. -/
theorem exists_opening {s : Session} {r : Ref} {commands : List Command} {count : Number}
    (hbefore : s.world.store.get? r = none)
    (hafter : (s.run commands).2.world.store.get? r = some (.counter count)) :
    ∃ start, s.Opens r start commands ∧ ∃ (opened : Session) (rest : List Command),
      opened.world.store.get? r = some (.counter (.int start)) ∧
      (s.run commands).2 = (opened.run rest).2 ∧
      s.postings r commands = opened.postings r rest := by
  induction commands generalizing s with
  | nil => cases hbefore.symm.trans hafter
  | cons command rest ih =>
      have hpostings : s.postings r (command :: rest) = (s.step command).2.postings r rest := by
        rw [postings, posting?_of_none hbefore]
        rfl
      rw [hpostings]
      cases hr : (s.step command).2.world.store.get? r with
      | none =>
          obtain ⟨start, ⟨before, opener, after, rfl, hopens⟩, hopened⟩ := ih hr hafter
          exact ⟨start, ⟨command :: before, opener, after, rfl, hopens⟩, hopened⟩
      | some m =>
          -- what is a counter in the end has been one from the start
          obtain ⟨m', hm', hbecomes⟩ := (s.step command).2.grows_run rest r m hr
          cases hm'.symm.trans hafter
          cases hbecomes with
          | counter first =>
              obtain ⟨start, hstart, rfl⟩ := opening_of_step hbefore hr
              exact ⟨start, ⟨[], command, rest, rfl, hbefore, hstart, hr⟩,
                (s.step command).2, rest, hr, rfl, rfl⟩

/-- **A counter shows what its ledger says**, at every moment of every session.

* It was opened by a command of the session. If all amounts that were posted to it are integers, of
  any size and sign, it shows the count at which it was opened, with all that was added and less all
  that was taken away, by whatever route.
* A command that is no change or recording of events, and one that is refused, leaves all counters as
  they are.
* An integer amount is never refused by a counter with an integer count, and what is no number is
  always refused.
* A counter over a gauge refuses every change, by whatever route, and nothing at all changes.

A gauge that is read changes no counter: what it reads is kept outside of the metric system
(`Source`). -/
theorem counts_of_session (host : Host) (commands : List Command) :
    let s := ((initial host).run commands).2
    (∀ r count, s.world.store.get? r = some (.counter count) →
      (∀ p ∈ (initial host).postings r commands, p.2.integer?.isSome = true) →
      ∃ start, (initial host).Opens r start commands ∧
        s.world.store.count r = (.ok (.int (start +
          total .increase ((initial host).postings r commands) -
          total .decrease ((initial host).postings r commands))), s.world.store)) ∧
    (∀ command r count, s.world.store.get? r = some (.counter count) →
      command.isChange = false ∨ (s.step command).1.result.isOk = false →
        (s.step command).2.world.store.get? r = some (.counter count)) ∧
    (∀ command r c amount count, s.request? command = some (r, c, amount) →
      s.world.store.get? r = some (.counter (.int count)) →
        (∀ n, amount.integer? = some n → (s.step command).1.result = .ok .nothing) ∧
        (Number.ofValue? amount = none → (s.step command).1.result =
          .error (.badOperands c.operator "int" amount.typeName))) ∧
    ∀ command r c amount gauge, s.request? command = some (r, c, amount) →
      s.world.store.get? r = some (.gaugeCounter gauge) →
        s.step command = (⟨.error (.readOnlyCounter c.verb), [], []⟩, s.drained) := by
  intro s
  refine ⟨?_, ?_, ?_, ?_⟩
  · intro r count hr hwhole
    obtain ⟨start, hopens, opened, rest, hstart, hrun, hpostings⟩ := exists_opening rfl hr
    refine ⟨start, hopens, ?_⟩
    rw [hpostings] at hwhole ⊢
    have hcount := count_of_postings hstart hwhole
    rw [← hrun] at hcount
    simp only [Store.count]
    rw [show s.world.store.get? r = _ from hcount]
  · intro command r count hr hkept
    rcases hkept with hchange | hrefused
    · exact get?_step_of_not_isChange hchange hr
    · refine get?_step_of_no_posting ?_ hr
      cases hposting : s.posting? r command with
      | none => rfl
      | some p =>
          obtain ⟨-, hok⟩ := request?_of_posting? hposting
          rw [hrefused] at hok
          cases hok
  · intro command r c amount count hrequest hr
    rw [(step_of_request hrequest).1]
    constructor
    · intro n hn
      rw [Store.change_integer hr hn]
      rfl
    · intro hamount
      rw [Store.change_badAmount hr hamount]
      rfl
  · intro command r c amount gauge hrequest hr
    obtain ⟨houtcome, hafter⟩ := step_of_request hrequest
    rw [Store.change_gaugeCounter hr] at houtcome hafter
    exact Prod.ext houtcome hafter

/-- A counter that two meters follow, one of them registered under two names, and a counter over a
gauge with a meter that follows it. The counter is changed directly and through both meters, and once
by what is no number. -/
def shared : List Command :=
  [.newCounter "c" (.int 10), .newMeter "m" (some "c") (.int 60) (.int 5),
   .newMeter "n" (some "c") (.int 5) (.int 5), .newRegistry "r" (.value .null) [],
   .perform "r" (.register none "requests" (.object "m")),
   .perform "r" (.register none "calls" (.object "m")),
   .perform "m" (.recordEvent (.int 5)), .perform "r" .updateViews,
   .perform "c" (.change .decrease (.int (10 ^ 30))), .perform "c" (.change .increase (.str "x")),
   .perform "n" (.recordEvent (.bool true)), .perform "r" (.unregister "requests"),
   .newGauge "g" (.int 7), .newGaugeMeter "gm" "g" (.int 60) (.int 5)]

/-- The counter shows `10 + 6 - 10 ^ 30`: its ledger has three postings, none of which is the refused
change. The meter over a counter over a gauge takes no events. -/
theorem counts_of_session_shared :
    let s := ((initial Registry.twoViews.host).run shared).2
    (∃ start, (initial Registry.twoViews.host).Opens 0 start shared ∧
      s.world.store.count 0 = (.ok (.int (start + 6 - 10 ^ 30)), s.world.store)) ∧
    ∃ gauge amount, s.request? (.perform "gm" (.recordEvent (.int 1))) =
        some (gauge, .increase, amount) ∧
      s.step (.perform "gm" (.recordEvent (.int 1))) =
        (⟨.error (.readOnlyCounter "increment"), [], []⟩, s.drained) := by
  have hlaws := counts_of_session Registry.twoViews.host shared
  have hwhole : ∀ p ∈ (initial Registry.twoViews.host).postings 0 shared,
      p.2.integer?.isSome = true := by decide +kernel
  have hadded : total .increase ((initial Registry.twoViews.host).postings 0 shared) = 6 := by
    decide +kernel
  have htaken : total .decrease ((initial Registry.twoViews.host).postings 0 shared) = 10 ^ 30 := by
    decide +kernel
  have hcounter : (((initial Registry.twoViews.host).run shared).2.world.store.get? 0).map
      Metric.typeName = some "SimpleCounter" := by decide +kernel
  have hrequest : (((initial Registry.twoViews.host).run shared).2.request?
      (.perform "gm" (.recordEvent (.int 1)))).map (fun q => (q.1, q.2.1)) =
        some (5, .increase) := by decide +kernel
  have hgauge : (((initial Registry.twoViews.host).run shared).2.world.store.get? 5).map
      Metric.typeName = some "GaugeCounter" := by decide +kernel
  -- from here on nothing else counts about the session
  generalize ((initial Registry.twoViews.host).run shared).2 = s at *
  obtain ⟨hcounts, -, -, hgauges⟩ := hlaws
  constructor
  · obtain ⟨m, hm, hname⟩ := Option.map_eq_some_iff.mp hcounter
    cases m with
    | counter count =>
        obtain ⟨start, hopens, hcount⟩ := hcounts 0 count hm hwhole
        rw [hadded, htaken] at hcount
        exact ⟨start, hopens, hcount⟩
    | _ => simp [Metric.typeName] at hname
  · obtain ⟨⟨gauge, c, amount⟩, hq, hpair⟩ := Option.map_eq_some_iff.mp hrequest
    cases hpair
    obtain ⟨m, hm, hname⟩ := Option.map_eq_some_iff.mp hgauge
    cases m with
    | gaugeCounter followed => exact ⟨5, amount, hq, hgauges _ _ _ _ _ hq hm⟩
    | _ => simp [Metric.typeName] at hname

end Session

end Telemetry
