import Telemetry.Proofs.Store.Sampling

/-!
# The rate of a meter

A meter over integers shows, after every sample, the quotient of the change over its span: the
newest reading less the one taken a span before it, divided by the span. Nothing else that happened
meanwhile matters, neither to the meter nor to its counter, and it does not matter how often the
ring has wrapped.

Main statement: `rate_of_readings`.
-/

namespace Telemetry

namespace Store

/-- Along a run without failing samples, the window stays up to date with the integers that its
counter answered. -/
theorem follows_run {s : Store} {r counter : Ref} {w : Window} {past : List Int}
    (h : s.get? r = some (.meter counter w)) (hw : w.Follows past) (actions : List Action)
    (readings : List Int)
    (hread : s.heard r counter actions = readings.map fun v => .ok (.int v))
    (hok : ∀ t ∈ s.sampledAt r actions, (t.sample r).1 = .ok ()) :
    (w.attempts (s.heard r counter actions)).Follows (past ++ readings) := by
  -- every sample takes one integer off `readings` and puts it behind `past`
  induction actions generalizing s w past readings with
  | nil =>
      have hnone : readings = [] := List.map_eq_nil_iff.mp hread.symm
      subst hnone
      simpa [heard, sampledAt] using hw
  | cons a rest ih =>
      cases ha : a.samples r with
      | false =>
          rw [sampledAt_cons_of_not_samples ha] at hok
          simp only [heard, sampledAt_cons_of_not_samples ha] at hread ⊢
          exact ih (get?_act_of_not_samples rfl h ha) hw readings hread hok
      | true =>
          obtain rfl := eq_sample_of_samples ha
          obtain ⟨hresult, hafter⟩ := sample_meter h
          rw [sampledAt_cons_of_samples ha, List.forall_mem_cons, hresult] at hok
          simp only [heard, sampledAt_cons_of_samples ha, List.map_cons] at hread ⊢
          obtain ⟨hfirst, hrest⟩ := hok
          cases readings with
          | nil => cases hread
          | cons v later =>
              rw [List.map_cons, List.cons.injEq] at hread
              obtain ⟨hv, hlater⟩ := hread
              rw [hv] at hfirst hafter
              have hnext : (w.sample (.int v)).2.Follows (past ++ [v]) := hw.sample hfirst
              have hend := ih hafter hnext later hlater hrest
              rw [List.append_assoc, List.singleton_append] at hend
              rw [Window.attempts_cons, hv]
              exact hend

/-- **The rate of a meter over integers.** Let a meter be new in some store, let a run sample it and
do anything else in between, and let no sample of it fail. Where `v j` is the integer that its counter
answered at sample number `j`, and zero before the first, the newest slot of the ring holds the last
of them, `v k`, and the rate is the double nearest to `(v k - v (k - W)) / T` for the span `T` and
the number `W` of intervals in it; before the first sample it is zero. -/
theorem rate_of_readings {s : Store} {r counter : Ref} {room : Nat}
    {requested interval : Value} {w : Window}
    (hnew : Window.create room requested interval = .ok w)
    (hmeter : s.get? r = some (.meter counter w)) (actions : List Action) (readings : List Int)
    (hread : s.heard r counter actions = readings.map fun v => .ok (.int v))
    (hok : ∀ t ∈ s.sampledAt r actions, (t.sample r).1 = .ok ()) :
    let v := Window.readingAt 0 readings
    let k := readings.length
    k = actions.countP (·.samples r) ∧
    ∃ after : Window, (s.run actions).get? r = some (.meter counter after) ∧
      after.newest = .int (v k) ∧
      (s.run actions).meterRate r = .ok after.rate ∧
      Binary64.ofQuotient? (v k - v (k - w.span / w.interval)) w.span = some after.rate ∧
      (k = 0 → after.rate = 0) := by
  intro v k
  have hcount := congrArg List.length hread
  rw [heard, List.length_map, List.length_map, length_sampledAt] at hcount
  obtain ⟨hempty, hzero⟩ := Window.follows_create hnew
  have hafter := get?_run_meter hmeter actions
  have hfollows := follows_run hmeter hempty actions readings hread hok
  rw [List.nil_append] at hfollows
  refine ⟨hcount.symm, _, hafter, ?_, ?_, ?_, ?_⟩
  · rw [hfollows.holds.newest, List.length_map]
    exact Window.readingAt_map Number.int 0 readings k
  · simp only [meterRate, hafter]
  · have hrate := hfollows.rate
    rw [Window.span_attempts, Window.panes_attempts] at hrate
    rw [Window.span_div_interval]
    exact hrate
  · intro hnone
    have hnil : readings = [] := List.eq_nil_of_length_eq_zero hnone
    rw [hread, hnil]
    exact hzero

/-! ### Around the ring and on -/

/-- A counter, and a meter of it over two intervals of five seconds. -/
def twoPanes : Store where
  metrics := #[.counter (.int 0), .meter 0 (Window.fives 2)]

/-- Four samples with changes and readings in between. The ring has three slots. -/
def fourSamples : List Action :=
  [.recordEvent 1 (.int 50), .sample 1, .change .increase 0 (.int 20), .sample 1, .count 0,
   .recordEvent 1 (.int 30), .describe 1, .sample 1, .change .increase 0 (.int 60), .sample 1]

theorem eq_map_ok_of_toOption {answers : List (Except Fault Number)} {readings : List Int}
    (h : answers.map Except.toOption = readings.map fun v => some (.int v)) :
    answers = readings.map fun v => .ok (.int v) := by
  induction answers generalizing readings with
  | nil =>
      have hnone : readings = [] := List.map_eq_nil_iff.mp h.symm
      rw [hnone]
      rfl
  | cons answer rest ih =>
      cases readings with
      | nil => cases h
      | cons v later =>
          rw [List.map_cons, List.map_cons, List.cons.injEq] at h
          obtain ⟨hfirst, hrest⟩ := h
          cases answer with
          | error fault => cases hfirst
          | ok n =>
              obtain rfl : n = .int v := Option.some.inj hfirst
              rw [ih hrest]
              rfl

/-- The fourth sample overwrites the first, and compares with the second. -/
theorem rate_of_fourSamples :
    ∃ after : Window, (twoPanes.run fourSamples).get? 1 = some (.meter 0 after) ∧
      after.newest = .int 160 ∧
      (twoPanes.run fourSamples).meterRate 1 = .ok after.rate ∧
      Binary64.ofQuotient? (160 - 70) 10 = some after.rate := by
  have hnew : Window.create 3 (.int 10) (.int 5) = .ok (Window.fives 2) := rfl
  have hmeter : twoPanes.get? 1 = some (.meter 0 (Window.fives 2)) := rfl
  have hsucceed : (twoPanes.sampledAt 1 fourSamples).all (fun t => (t.sample 1).1.isOk) = true := by
    decide +kernel
  have hok : ∀ t ∈ twoPanes.sampledAt 1 fourSamples, (t.sample 1).1 = .ok () := by
    intro t ht
    exact Fault.eq_ok_of_isOk (List.all_eq_true.mp hsucceed t ht)
  obtain ⟨-, after, hafter, hnewest, hshown, hrate, -⟩ :=
    rate_of_readings hnew hmeter fourSamples [50, 70, 100, 160]
      (eq_map_ok_of_toOption (by decide +kernel)) hok
  exact ⟨after, hafter, hnewest, hshown, hrate⟩

end Store

end Telemetry
