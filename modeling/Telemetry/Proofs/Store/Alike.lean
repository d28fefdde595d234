import Mathlib.Logic.Function.Iterate
import Telemetry.Proofs.Store.Action

/-!
# Stores that answer alike

A function gauge moves on when it is read, so that two stores which have been read differently are
seldom the same. They are alike if nobody can tell them apart by asking: all objects are the same but
for function gauges, and these will give the same answers from now on and for ever. A gauge that
gives the same answer on every call is steady; a store in which all of them are may be read as often
as one likes, it stays alike.

Main statements: `alike_count`, `alike_sample`, `alike_snapshotFrom` and the like (alike stores give
the same answers and stay alike), `Steady.alike_value` and the like (a steady store is left alike by
readings) and `steady_script_iff` (which scripts are steady).
-/

namespace Telemetry

/-! ## Results in step -/

namespace Fault

/-- Two results with the same fault, or two values that are related. -/
inductive Match {α β : Type} (R : α → β → Prop) : Except Fault α → Except Fault β → Prop where
  | error (fault : Fault) : Match R (.error fault) (.error fault)
  | ok {a : α} {b : β} (h : R a b) : Match R (.ok a) (.ok b)

theorem Match.refl {α : Type} (result : Except Fault α) : Match Eq result result := by
  cases result with
  | error fault => exact .error fault
  | ok a => exact .ok rfl

theorem Match.bind {α β α' β' : Type} {R : α → β → Prop} {R' : α' → β' → Prop}
    {x : Except Fault α} {y : Except Fault β} {next : α → Except Fault α'}
    {next' : β → Except Fault β'} (h : Match R x y)
    (hnext : ∀ a b, R a b → Match R' (next a) (next' b)) : Match R' (x >>= next) (y >>= next') := by
  cases h with
  | error fault => exact .error fault
  | ok hab => exact hnext _ _ hab

/-- The same first step, with next steps that match. -/
theorem Match.of_eq {α β γ : Type} {R : α → β → Prop} (first : Except Fault γ)
    {next : γ → Except Fault α} {next' : γ → Except Fault β}
    (h : ∀ c, Match R (next c) (next' c)) : Match R (first >>= next) (first >>= next') :=
  (Match.refl first).bind fun c _ hc => hc ▸ h c

end Fault

/-! ## Sources -/

/-- What an answer stands for. -/
def Answer.result : Answer → Except Fault Value
  | .value v => .ok v
  | .fault kind detail => .error (.raised kind detail)

theorem Answer.result_inj {a b : Answer} : a.result = b.result ↔ a = b := by
  cases a <;> cases b <;> simp [result]

namespace Source

/-- The answer of a source to the next call, beside backlogs of the given sizes. -/
def answer (sizes : Array Nat) : Source → Except Fault Value
  | .script [] => .error (.raised "IndexError" "list index out of range")
  | .script (first :: _) => first.result
  | .backlog queue => .ok (.int (sizes[queue]?.getD 0))

/-- A source after a call. -/
def next : Source → Source
  | .script (first :: rest) => .script (if rest.isEmpty then [first] else rest)
  | source => source

/-- Both sources give the same answers, call by call. -/
def Alike (a b : Source) : Prop := ∀ n sizes, (next^[n] a).answer sizes = (next^[n] b).answer sizes

/-- A source that gives the same answer on every call. -/
def Steady (a : Source) : Prop := ∀ n sizes, (next^[n] a).answer sizes = a.answer sizes

theorem Alike.symm {a b : Source} (h : a.Alike b) : b.Alike a := fun n sizes => (h n sizes).symm

theorem Alike.trans {a b c : Source} (hab : a.Alike b) (hbc : b.Alike c) : a.Alike c :=
  fun n sizes => (hab n sizes).trans (hbc n sizes)

theorem Alike.answer {a b : Source} (h : a.Alike b) (sizes : Array Nat) :
    a.answer sizes = b.answer sizes := h 0 sizes

theorem Alike.next {a b : Source} (h : a.Alike b) : a.next.Alike b.next := fun n => h (n + 1)

theorem Steady.alike_next {a : Source} (h : a.Steady) : a.next.Alike a :=
  fun n sizes => (h (n + 1) sizes).trans (h n sizes).symm

theorem Steady.of_alike {a b : Source} (h : a.Steady) (hab : a.Alike b) : b.Steady :=
  fun n sizes => ((hab n sizes).symm.trans (h n sizes)).trans (hab.answer sizes)

theorem steady_backlog (queue : Nat) : Steady (.backlog queue) := by
  intro n sizes
  rw [Function.iterate_fixed rfl]

theorem iterate_next_script {answers : List Answer} {n : Nat} (h : n < answers.length) :
    next^[n] (.script answers) = .script (answers.drop n) := by
  induction n with
  | zero => rfl
  | succ n ih =>
      have hdrop := List.drop_eq_getElem_cons (Nat.lt_of_succ_lt h)
      rw [Function.iterate_succ_apply', ih (Nat.lt_of_succ_lt h), hdrop, next, if_neg]
      rw [List.isEmpty_iff, List.drop_eq_nil_iff]
      omega

theorem answer_iterate_next {answers : List Answer} {n : Nat} (h : n < answers.length)
    (sizes : Array Nat) : (next^[n] (.script answers)).answer sizes = answers[n].result := by
  rw [iterate_next_script h, List.drop_eq_getElem_cons h]
  rfl

/-- **A script is steady if it is made of one answer**, however often that stands in it. -/
theorem steady_script_iff {answers : List Answer} :
    (script answers).Steady ↔ ∀ a ∈ answers, ∀ b ∈ answers, a = b := by
  constructor
  · intro h
    have hfirst : ∀ a ∈ answers, a.result = (script answers).answer #[] := by
      intro a ha
      obtain ⟨n, hn, rfl⟩ := List.mem_iff_getElem.mp ha
      rw [← h n #[], answer_iterate_next hn]
    intro a ha b hb
    rw [← Answer.result_inj, hfirst a ha, hfirst b hb]
  · intro h n sizes
    -- whatever is left of the script is made of the same answer
    have hleft : ∃ left, next^[n] (script answers) = script left ∧ left ⊆ answers ∧
        (left = [] → answers = []) := by
      induction n with
      | zero => exact ⟨answers, rfl, fun _ ha => ha, id⟩
      | succ n ih =>
          obtain ⟨left, heq, hsubset, hempty⟩ := ih
          rw [Function.iterate_succ_apply', heq]
          cases left with
          | nil => exact ⟨[], rfl, hsubset, hempty⟩
          | cons first rest =>
              refine ⟨if rest.isEmpty then [first] else rest, rfl, ?_, ?_⟩
              · split
                · exact fun a ha => hsubset (List.mem_singleton.mp ha ▸ List.mem_cons_self)
                · exact fun a ha => hsubset (List.mem_cons_of_mem _ ha)
              · cases rest <;> simp
    obtain ⟨left, heq, hsubset, hempty⟩ := hleft
    rw [heq]
    cases left with
    | nil => rw [hempty rfl]
    | cons first rest =>
        cases answers with
        | nil => cases hsubset List.mem_cons_self
        | cons head tail =>
            exact congrArg Answer.result (h _ (hsubset List.mem_cons_self) _ List.mem_cons_self)

theorem steady_single (answer : Answer) : Steady (.script [answer]) := by
  rw [steady_script_iff]
  intro a ha b hb
  rw [List.mem_singleton.mp ha, List.mem_singleton.mp hb]

end Source

/-! ## Objects and stores -/

/-- The same object, or two function gauges over sources that are alike. -/
inductive Metric.Alike : Metric → Metric → Prop where
  | same (m : Metric) : Alike m m
  | function {a b : Source} (h : a.Alike b) : Alike (.function a) (.function b)

namespace Metric

theorem Alike.symm {m m' : Metric} (h : m.Alike m') : m'.Alike m := by
  cases h with
  | same => exact .same m
  | function h => exact .function h.symm

theorem Alike.trans {m m' m'' : Metric} (h : m.Alike m') (h' : m'.Alike m'') : m.Alike m'' := by
  cases h with
  | same => exact h'
  | function h =>
      cases h' with
      | same => exact .function h
      | function h' => exact .function (h.trans h')

end Metric

namespace Store

theorem callSource_eq (s : Store) (source : Source) :
    s.callSource source = (source.answer s.backlogs, source.next) := by
  cases source with
  | backlog queue => rfl
  | script answers =>
      cases answers with
      | nil => rfl
      | cons first rest => cases first <;> rfl

/-- Two stores that cannot be told apart by asking. -/
structure Alike (s t : Store) : Prop where
  backlogs : s.backlogs = t.backlogs
  size : s.metrics.size = t.metrics.size
  metrics : ∀ r, s.get? r = none ∧ t.get? r = none ∨
    ∃ m m', s.get? r = some m ∧ t.get? r = some m' ∧ m.Alike m'

theorem Alike.refl (s : Store) : s.Alike s where
  backlogs := rfl
  size := rfl
  metrics := by
    intro r
    cases h : s.get? r with
    | none => exact .inl ⟨rfl, rfl⟩
    | some m => exact .inr ⟨m, m, rfl, rfl, .same m⟩

theorem Alike.symm {s t : Store} (h : s.Alike t) : t.Alike s where
  backlogs := h.backlogs.symm
  size := h.size.symm
  metrics := by
    intro r
    rcases h.metrics r with ⟨hs, ht⟩ | ⟨m, m', hs, ht, hm⟩
    · exact .inl ⟨ht, hs⟩
    · exact .inr ⟨m', m, ht, hs, hm.symm⟩

theorem Alike.trans {s t u : Store} (hst : s.Alike t) (htu : t.Alike u) : s.Alike u where
  backlogs := hst.backlogs.trans htu.backlogs
  size := hst.size.trans htu.size
  metrics := by
    intro r
    rcases hst.metrics r with ⟨hs, ht⟩ | ⟨m, m', hs, ht, hm⟩ <;>
      rcases htu.metrics r with ⟨ht', hu⟩ | ⟨n, n', ht', hu, hn⟩
    · exact .inl ⟨hs, hu⟩
    · rw [ht] at ht'
      cases ht'
    · rw [ht] at ht'
      cases ht'
    · rw [ht] at ht'
      cases ht'
      exact .inr ⟨m, n', hs, hu, hm.trans hn⟩

/-- What is not a function gauge is the same in both. -/
theorem Alike.get? {s t : Store} (h : s.Alike t) {r : Ref} {m : Metric} (hr : s.get? r = some m)
    (hother : ∀ source, m ≠ .function source) : t.get? r = some m := by
  rcases h.metrics r with ⟨hs, -⟩ | ⟨m', m'', hs, ht, hm⟩
  · rw [hs] at hr
    cases hr
  · rw [hs] at hr
    cases hr
    cases hm with
    | same => exact ht
    | function => exact absurd rfl (hother _)

/-- What does not look at the source of a function gauge is the same for both. -/
theorem Alike.map_get? {α : Type} {f : Metric → α} {s t : Store} (h : s.Alike t) (r : Ref)
    (hf : ∀ a b, f (.function a) = f (.function b)) : (s.get? r).map f = (t.get? r).map f := by
  rcases h.metrics r with ⟨hs, ht⟩ | ⟨m, m', hs, ht, hm⟩
  · rw [hs, ht]
  · rw [hs, ht]
    cases hm with
    | same => rfl
    | function => exact congrArg some (hf _ _)

theorem Alike.noOperation {s t : Store} (h : s.Alike t) (r : Ref) (operation : String) :
    s.noOperation r operation = t.noOperation r operation := by
  rw [Store.noOperation, Store.noOperation, h.map_get? r fun _ _ => rfl]

theorem Alike.set {s t : Store} (h : s.Alike t) (r : Ref) {m m' : Metric} (hm : m.Alike m') :
    (s.set r m).Alike (t.set r m') where
  backlogs := h.backlogs
  size := by simp [Store.set, h.size]
  metrics := by
    intro k
    rw [get?_set, get?_set]
    split
    · rcases h.metrics r with ⟨hs, ht⟩ | ⟨n, n', hs, ht, -⟩
      · rw [hs, ht]
        exact .inl ⟨rfl, rfl⟩
      · rw [hs, ht]
        exact .inr ⟨m, m', rfl, rfl, hm⟩
    · exact h.metrics k

/-- A new metric gets the same reference in both. -/
theorem Alike.alloc {s t : Store} (h : s.Alike t) (m : Metric) :
    (s.alloc m).1 = (t.alloc m).1 ∧ (s.alloc m).2.Alike (t.alloc m).2 := by
  have hsize : (s.alloc m).1 = (t.alloc m).1 := h.size
  refine ⟨hsize, ⟨h.backlogs, ?_, ?_⟩⟩
  · simp [Store.alloc, h.size]
  · intro k
    rw [get?_alloc, get?_alloc, hsize]
    split
    · exact .inr ⟨m, m, rfl, rfl, .same m⟩
    · exact h.metrics k

/-! ## Readings -/

/-- The same answer, and stores that are alike afterwards. -/
def SameAnswer {α : Type} (x y : α × Store) : Prop := x.1 = y.1 ∧ x.2.Alike y.2

theorem SameAnswer.exists {α : Type} {x y : α × Store} (h : SameAnswer x y) :
    ∃ answer s t, x = (answer, s) ∧ y = (answer, t) ∧ s.Alike t :=
  ⟨x.1, x.2, y.2, rfl, Prod.ext h.1.symm rfl, h.2⟩

theorem alike_value {s t : Store} (h : s.Alike t) (r : Ref) :
    SameAnswer (s.value r) (t.value r) := by
  rcases h.metrics r with ⟨hs, ht⟩ | ⟨m, m', hs, ht, hm⟩
  · simp only [value, hs, ht]
    exact ⟨congrArg Except.error (h.noOperation r _), h⟩
  · simp only [value, hs, ht]
    cases hm with
    | function hsource =>
        simp only [callSource_eq]
        refine ⟨?_, h.set r (.function hsource.next)⟩
        rw [h.backlogs]
        exact hsource.answer t.backlogs
    | same =>
        cases m with
        | settable v => exact ⟨rfl, h⟩
        | function source =>
            simp only [callSource_eq]
            exact ⟨by rw [h.backlogs], h.set r (.same _)⟩
        | _ => exact ⟨congrArg Except.error (h.noOperation r _), h⟩

theorem alike_count {s t : Store} (h : s.Alike t) (r : Ref) :
    SameAnswer (s.count r) (t.count r) := by
  rcases h.metrics r with ⟨hs, ht⟩ | ⟨m, m', hs, ht, hm⟩
  · simp only [count, hs, ht]
    exact ⟨congrArg Except.error (h.noOperation r _), h⟩
  · simp only [count, hs, ht]
    cases hm with
    | function => exact ⟨congrArg Except.error (h.noOperation r _), h⟩
    | same =>
        cases m with
        | counter count => exact ⟨rfl, h⟩
        | gaugeCounter gauge =>
            obtain ⟨hanswer, hafter⟩ := alike_value h gauge
            exact ⟨by dsimp only; rw [hanswer], hafter⟩
        | _ => exact ⟨congrArg Except.error (h.noOperation r _), h⟩

theorem alike_meterCount {s t : Store} (h : s.Alike t) (r : Ref) :
    SameAnswer (s.meterCount r) (t.meterCount r) := by
  rcases h.metrics r with ⟨hs, ht⟩ | ⟨m, m', hs, ht, hm⟩
  · simp only [meterCount, hs, ht]
    exact ⟨congrArg Except.error (h.noOperation r _), h⟩
  · simp only [meterCount, hs, ht]
    cases hm with
    | function => exact ⟨congrArg Except.error (h.noOperation r _), h⟩
    | same =>
        cases m with
        | meter counter window => exact alike_count h counter
        | _ => exact ⟨congrArg Except.error (h.noOperation r _), h⟩

theorem alike_meterRate {s t : Store} (h : s.Alike t) (r : Ref) :
    s.meterRate r = t.meterRate r := by
  rcases h.metrics r with ⟨hs, ht⟩ | ⟨m, m', hs, ht, hm⟩
  · simp only [meterRate, hs, ht, h.noOperation r]
  · simp only [meterRate, hs, ht, h.noOperation r]
    cases hm with
    | function => rfl
    | same => rfl

theorem alike_describe {s t : Store} (h : s.Alike t) (r : Ref) :
    SameAnswer (s.describe r) (t.describe r) := by
  rcases h.metrics r with ⟨hs, ht⟩ | ⟨m, m', hs, ht, hm⟩
  · simp only [describe, hs, ht]
    exact ⟨congrArg Except.error (h.noOperation r _), h⟩
  · simp only [describe, hs, ht]
    cases hm with
    | function => exact ⟨rfl, h⟩
    | same =>
        cases m with
        | meter counter window =>
            obtain ⟨hanswer, hafter⟩ := alike_count h counter
            exact ⟨by dsimp only; rw [hanswer], hafter⟩
        | _ => exact ⟨rfl, h⟩

theorem alike_readings {s t : Store} (h : s.Alike t) (name : String) (r : Ref) :
    SameAnswer (s.readings name r) (t.readings name r) := by
  rcases h.metrics r with ⟨hs, ht⟩ | ⟨m, m', hs, ht, hm⟩
  · simp only [readings, hs, ht]
    exact ⟨rfl, h⟩
  · obtain ⟨hvalue, hvalued⟩ := alike_value h r
    obtain ⟨hcount, hcounted⟩ := alike_count h r
    simp only [readings, hs, ht]
    cases hm with
    | function => exact ⟨by dsimp only; rw [hvalue], hvalued⟩
    | same =>
        cases m with
        | meter counter window =>
            obtain ⟨hanswer, hafter⟩ := alike_count h counter
            exact ⟨by dsimp only; rw [hanswer], hafter⟩
        | counter | gaugeCounter => exact ⟨by dsimp only; rw [hcount], hcounted⟩
        | settable | function => exact ⟨by dsimp only; rw [hvalue], hvalued⟩
        | view | marker | updater | registry => exact ⟨rfl, h⟩

theorem alike_snapshotFrom {s t : Store} (h : s.Alike t) (values : Table Value)
    (named : List (String × Ref)) :
    SameAnswer (snapshotFrom values named s) (snapshotFrom values named t) := by
  induction named generalizing values s t with
  | nil => exact ⟨rfl, h⟩
  | cons entry rest ih =>
      obtain ⟨answer, after, after', hs, ht, hafter⟩ := (alike_readings h entry.1 entry.2).exists
      simp only [snapshotFrom, hs, ht]
      cases answer with
      | error fault => exact ⟨rfl, hafter⟩
      | ok entries => exact ih hafter _

/-! ## Changes -/

theorem alike_change {s t : Store} (h : s.Alike t) (c : Change) (r : Ref) (amount : Value) :
    Fault.Match Alike (s.change c r amount) (t.change c r amount) := by
  rcases h.metrics r with ⟨hs, ht⟩ | ⟨m, m', hs, ht, hm⟩
  · simp only [change, hs, ht, h.noOperation r]
    exact .error _
  · simp only [change, hs, ht, h.noOperation r]
    cases hm with
    | function => exact .error _
    | same =>
        cases m with
        | counter count =>
            dsimp only
            split
            · exact .of_eq _ fun _ => .ok (h.set r (.same _))
            · exact .error _
        | _ => exact .error _

theorem alike_recordEvent {s t : Store} (h : s.Alike t) (r : Ref) (amount : Value) :
    Fault.Match Alike (s.recordEvent r amount) (t.recordEvent r amount) := by
  rcases h.metrics r with ⟨hs, ht⟩ | ⟨m, m', hs, ht, hm⟩
  · simp only [recordEvent, hs, ht, h.noOperation r]
    exact .error _
  · simp only [recordEvent, hs, ht, h.noOperation r]
    cases hm with
    | function => exact .error _
    | same =>
        cases m with
        | meter counter window => exact alike_change h .increase counter amount
        | _ => exact .error _

theorem alike_assign {s t : Store} (h : s.Alike t) (r : Ref) (v : Value) :
    Fault.Match Alike (s.assign r v) (t.assign r v) := by
  rcases h.metrics r with ⟨hs, ht⟩ | ⟨m, m', hs, ht, hm⟩
  · simp only [assign, hs, ht, h.noOperation r]
    exact .error _
  · simp only [assign, hs, ht, h.noOperation r]
    cases hm with
    | function => exact .error _
    | same =>
        cases m with
        | settable held => exact .ok (h.set r (.same _))
        | _ => exact .error _

theorem alike_sample {s t : Store} (h : s.Alike t) (r : Ref) :
    SameAnswer (s.sample r) (t.sample r) := by
  rcases h.metrics r with ⟨hs, ht⟩ | ⟨m, m', hs, ht, hm⟩
  · simp only [sample, hs, ht]
    exact ⟨congrArg Except.error (h.noOperation r _), h⟩
  · simp only [sample, hs, ht]
    cases hm with
    | function => exact ⟨congrArg Except.error (h.noOperation r _), h⟩
    | same =>
        cases m with
        | view failure calls => exact ⟨rfl, h.set r (.same _)⟩
        | meter counter window =>
            obtain ⟨answer, after, after', hcount, hcount', hafter⟩ := (alike_count h counter).exists
            simp only [hcount, hcount']
            cases answer with
            | error fault => exact ⟨rfl, hafter⟩
            | ok reading => exact ⟨rfl, hafter.set r (.same _)⟩
        | _ => exact ⟨congrArg Except.error (h.noOperation r _), h⟩

/-! ## Building -/

theorem alike_newCounter {s t : Store} (h : s.Alike t) (initial : Value) :
    Fault.Match SameAnswer (s.newCounter initial) (t.newCounter initial) :=
  .of_eq _ fun _ => .ok (h.alloc _)

/-- Two new metrics, the second of which is made over the first. -/
theorem Alike.alloc_above {s t : Store} (h : s.Alike t) (m : Metric) (above : Ref → Metric) :
    SameAnswer ((s.alloc m).2.alloc (above (s.alloc m).1))
      ((t.alloc m).2.alloc (above (t.alloc m).1)) := by
  obtain ⟨href, hafter⟩ := h.alloc m
  rw [href]
  exact hafter.alloc _

theorem alike_newMeter {s t : Store} (h : s.Alike t) (room : Nat) (counter : Option Ref)
    (span interval : Value) :
    Fault.Match SameAnswer (s.newMeter room counter span interval)
      (t.newMeter room counter span interval) := by
  refine .of_eq _ fun window => ?_
  cases counter with
  | some counter => exact .ok (h.alloc _)
  | none => exact .ok (h.alloc_above (.counter (.int 0)) (.meter · window))

theorem alike_newGaugeMeter {s t : Store} (h : s.Alike t) (room : Nat) (gauge : Ref)
    (span interval : Value) :
    Fault.Match SameAnswer (s.newGaugeMeter room gauge span interval)
      (t.newGaugeMeter room gauge span interval) :=
  .of_eq _ fun window => .ok (h.alloc_above (.gaugeCounter gauge) (.meter · window))

theorem alike_gaugeOf {s t : Store} (h : s.Alike t) (offer : Offer) :
    Fault.Match SameAnswer (s.gaugeOf offer) (t.gaugeOf offer) := by
  cases offer with
  | value v => exact .error _
  | function source => exact .ok (h.alloc _)
  | metric r =>
      simp only [gaugeOf, h.map_get? (f := Metric.isGauge) r fun _ _ => rfl]
      split
      · exact .ok ⟨rfl, h⟩
      · exact .error _

/-! ## Steady stores -/

/-- All function gauges give the same answer on every call. -/
def Steady (s : Store) : Prop :=
  ∀ r source, s.get? r = some (.function source) → source.Steady

theorem Steady.of_alike {s t : Store} (h : s.Steady) (hst : s.Alike t) : t.Steady := by
  intro r source hr
  rcases hst.metrics r with ⟨-, ht⟩ | ⟨m, m', hs, ht, hm⟩
  · rw [ht] at hr
    cases hr
  · rw [ht] at hr
    cases hr
    cases hm with
    | same => exact h r source hs
    | function hsource => exact (h r _ hs).of_alike hsource

/-- Putting the metric in its place that is there already changes nothing that could be asked. -/
theorem alike_set_self {s : Store} {r : Ref} {m m' : Metric} (h : s.get? r = some m)
    (hm : m'.Alike m) : (s.set r m').Alike s where
  backlogs := rfl
  size := by simp [Store.set]
  metrics := by
    intro k
    rw [get?_set]
    split
    · next hk =>
      subst hk
      rw [h]
      exact .inr ⟨m', m, rfl, rfl, hm⟩
    · exact (Alike.refl s).metrics k

theorem Steady.alike_value {s : Store} (h : s.Steady) (r : Ref) : (s.value r).2.Alike s := by
  unfold value
  split
  · exact .refl s
  · next source hr =>
    rw [callSource_eq]
    exact alike_set_self hr (.function (h r source hr).alike_next)
  · exact .refl s

theorem Steady.alike_count {s : Store} (h : s.Steady) (r : Ref) : (s.count r).2.Alike s := by
  unfold count
  split
  · exact .refl s
  · exact h.alike_value _
  · exact .refl s

theorem Steady.alike_meterCount {s : Store} (h : s.Steady) (r : Ref) :
    (s.meterCount r).2.Alike s := by
  unfold meterCount
  split
  · exact h.alike_count _
  · exact .refl s

theorem Steady.alike_describe {s : Store} (h : s.Steady) (r : Ref) : (s.describe r).2.Alike s := by
  unfold describe
  split
  · exact .refl s
  · exact h.alike_count _
  · exact .refl s
  · exact .refl s
  · exact .refl s

theorem Steady.set {s : Store} (h : s.Steady) (r : Ref) {m : Metric}
    (hm : ∀ source, m ≠ .function source) : (s.set r m).Steady := by
  intro k source hk
  rw [get?_set] at hk
  split at hk
  · obtain ⟨-, -, hsource⟩ := Option.map_eq_some_iff.mp hk
    exact absurd hsource (hm source)
  · exact h k source hk

theorem Steady.alloc {s : Store} (h : s.Steady) {m : Metric}
    (hm : ∀ source, m = .function source → source.Steady) : (s.alloc m).2.Steady := by
  intro k source hk
  rw [get?_alloc] at hk
  split at hk
  · cases hk
    exact hm source rfl
  · exact h k source hk

theorem Steady.sample {s : Store} (h : s.Steady) (r : Ref) : (s.sample r).2.Steady := by
  rcases s.sample_snd_cases r with ⟨counter, w, -, hafter | ⟨reading, hafter⟩⟩ |
    ⟨failure, calls, -, hafter⟩ | hafter
  · rw [hafter]
    exact h.of_alike (h.alike_count counter).symm
  · rw [hafter]
    exact (h.of_alike (h.alike_count counter).symm).set r fun _ => nofun
  · rw [hafter]
    exact h.set r fun _ => nofun
  · rw [hafter]
    exact h

theorem Steady.change {s t : Store} (h : s.Steady) {c : Change} {r : Ref} {amount : Value}
    (hchange : s.change c r amount = .ok t) : t.Steady := by
  obtain ⟨before, after, -, rfl⟩ := change_eq_ok hchange
  exact h.set r fun _ => nofun

/-- **An action leaves a store steady**, unless it adds a function gauge that is not. -/
theorem Steady.act {s : Store} (h : s.Steady) {a : Action}
    (hadd : ∀ source, a = .add (.function source) → source.Steady) : (s.act a).Steady := by
  cases a with
  | add m => exact h.alloc fun source hm => hadd source (congrArg _ hm)
  | change c r amount =>
      show ((s.change c r amount).toOption.getD s).Steady
      cases hchange : s.change c r amount with
      | error fault => exact h
      | ok t => exact h.change hchange
  | recordEvent r amount =>
      show ((s.recordEvent r amount).toOption.getD s).Steady
      cases hrecord : s.recordEvent r amount with
      | error fault => exact h
      | ok t =>
          obtain ⟨_, _, _, hchange⟩ := recordEvent_eq_ok hrecord
          exact h.change hchange
  | assign r v =>
      show ((s.assign r v).toOption.getD s).Steady
      cases hassign : s.assign r v with
      | error fault => exact h
      | ok t =>
          obtain ⟨before, -, rfl⟩ := assign_eq_ok hassign
          exact h.set r fun _ => nofun
  | sample r => exact h.sample r
  | value r => exact h.of_alike (h.alike_value r).symm
  | count r => exact h.of_alike (h.alike_count r).symm
  | meterCount r => exact h.of_alike (h.alike_meterCount r).symm
  | describe r => exact h.of_alike (h.alike_describe r).symm
  | backlogs sizes => exact h

theorem Steady.run {s : Store} (h : s.Steady) {actions : List Action}
    (hadd : ∀ source, .add (.function source) ∈ actions → source.Steady) :
    (s.run actions).Steady := by
  induction actions generalizing s with
  | nil => exact h
  | cons a rest ih =>
      have hfirst := h.act (a := a) fun source ha => hadd source (ha ▸ List.mem_cons_self)
      exact ih hfirst fun source hmem => hadd source (List.mem_cons_of_mem a hmem)

theorem Steady.alike_act {s : Store} (h : s.Steady) {a : Action} (ha : a.isRead = true) :
    (s.act a).Alike s := by
  cases a with
  | value r => exact h.alike_value r
  | count r => exact h.alike_count r
  | meterCount r => exact h.alike_meterCount r
  | describe r => exact h.alike_describe r
  | add | change | recordEvent | assign | sample | backlogs => cases ha

/-- **A steady store is left alike by any number of readings.** -/
theorem Steady.alike_run {s : Store} (h : s.Steady) {actions : List Action}
    (hread : ∀ a ∈ actions, a.isRead = true) : (s.run actions).Alike s := by
  induction actions generalizing s with
  | nil => exact .refl s
  | cons a rest ih =>
      have hfirst := h.alike_act (hread a List.mem_cons_self)
      exact (ih (h.of_alike hfirst.symm) fun b hb => hread b (List.mem_cons_of_mem a hb)).trans
        hfirst

end Store

end Telemetry
