import Telemetry.Proofs.Session.Meters
import Telemetry.Proofs.Window.Bounded

/-!
# Meters over gauges

A gauge may read anything or fail, and a counter over it answers an integer of 64 bits or nothing. So
the window of a meter over such a counter is bounded from the beginning, whatever the gauge did at
earlier readings, and a sample fails only if the gauge gives no number.

Main statement: `gaugeMeter_of_session`.
-/

namespace Telemetry

namespace Store

/-! ## Counters over gauges -/

variable {s : Store} {counter gauge : Ref}

/-- A counter over a gauge answers nothing but integers of 64 bits. -/
theorem isInt64_of_count (h : s.get? counter = some (.gaugeCounter gauge)) {n : Number}
    (hn : (s.count counter).1 = .ok n) : n.IsInt64 := by
  simp only [count, h] at hn
  obtain ⟨v, -, hn⟩ := Fault.bind_eq_ok.mp hn
  obtain ⟨i, hi, hn⟩ := Fault.bind_eq_ok.mp hn
  exact ⟨i, (Except.ok.inj hn).symm, Value.clamped_mem hi⟩

/-- A counter over a gauge that gives a number answers. -/
theorem exists_count_of_number (h : s.get? counter = some (.gaugeCounter gauge)) {v : Value}
    (hv : (s.value gauge).1 = .ok v) {n : Number} (hn : Number.ofValue? v = some n) :
    ∃ reading, (s.count counter).1 = .ok reading := by
  refine ⟨.int (n.place?.elim 0 Value.narrowed), ?_⟩
  simp only [count, h, hv, Fault.ok_bind, Value.clamped_eq_narrowed hn]
  rfl

/-! ## Windows of meters over gauges -/

/-- A run goes on from every store in which an object was sampled. -/
theorem grows_of_mem_sampledAt {t : Store} {r : Ref} {actions : List Action}
    (h : t ∈ s.sampledAt r actions) : t.Grows (s.run actions) := by
  induction actions generalizing s with
  | nil => cases h
  | cons a rest ih =>
      cases ha : a.samples r with
      | true =>
          rw [sampledAt_cons_of_samples ha] at h
          rcases List.mem_cons.mp h with rfl | hlater
          · exact t.grows_run (a :: rest)
          · exact ih hlater
      | false =>
          rw [sampledAt_cons_of_not_samples ha] at h
          exact ih h

/-- **The window of a meter is bounded if a gauge is behind it.** -/
theorem bounded_of_run {r : Ref} {w : Window} (hnew : w.IsNew) (actions : List Action)
    (hgauge : (s.run actions).get? counter = some (.gaugeCounter gauge)) :
    (w.attempts (s.heard r counter actions)).Bounded := by
  obtain ⟨asked, seconds, hpos, rfl⟩ := hnew.eq_empty
  apply (Window.bounded_empty asked hpos).attempts
  intro n hn
  obtain ⟨t, ht, hcount⟩ := List.mem_map.mp hn
  -- what is a counter over a gauge in the end was one at every sample, if it was there at all
  cases hr : t.get? counter with
  | none =>
      simp only [count, hr] at hcount
      cases hcount
  | some m =>
      obtain ⟨m', hm', hbecomes⟩ := grows_of_mem_sampledAt ht counter m hr
      rw [hgauge] at hm'
      cases hm'
      cases hbecomes
      exact isInt64_of_count hr hcount

end Store

namespace Session

/-- **Meters over gauges are total.** In every state that the commands of a session lead to, and
whatever the gauge gave or failed with before, the history of a meter over a gauge holds nothing but
integers of 64 bits, and its rate is a finite double that is no greater than the one nearest to the
greatest change, `2 ^ 64 - 1`, by the span. A sample succeeds whenever the gauge gives a number. -/
theorem gaugeMeter_of_session (host : Host) (commands : List Command) {r counter gauge : Ref}
    {w : Window}
    (hmeter : ((initial host).run commands).2.world.store.get? r = some (.meter counter w))
    (hgauge : ((initial host).run commands).2.world.store.get? counter =
      some (.gaugeCounter gauge)) :
    let s := ((initial host).run commands).2.world.store
    (∀ n ∈ w.readings.toList, n.IsInt64) ∧
    (w.rate.IsFinite ∧ ∃ limit, (Number.int (2 ^ 64 - 1)).divide w.span = .ok limit ∧
      limit.IsNearest ((2 ^ 64 - 1 : ℤ) / w.span) ∧ |w.rate.toRat| ≤ limit.toRat) ∧
    ∀ v n, (s.value gauge).1 = .ok v → Number.ofValue? v = some n → (s.sample r).1 = .ok () := by
  have hbounded : w.Bounded := by
    obtain ⟨t, first, actions, hnew, hfirst, hrun⟩ := exists_isNew host commands hmeter
    have hafter := Store.get?_run_meter hfirst actions
    rw [hrun] at hmeter hgauge
    rw [hmeter, Option.some.injEq, Metric.meter.injEq] at hafter
    rw [hafter.2]
    exact Store.bounded_of_run hnew actions hgauge
  refine ⟨hbounded.readings, ⟨hbounded.isFinite, ?_⟩, ?_⟩
  · obtain ⟨limit, hlimit⟩ := Window.exists_limit w.span_pos
    refine ⟨limit, ?_, Binary64.isNearest_of_ofQuotient? w.span_pos hlimit,
      hbounded.rate_le limit hlimit⟩
    rw [Number.divide, hlimit]
    rfl
  · intro v n hv hn
    obtain ⟨reading, hreading⟩ := Store.exists_count_of_number hgauge hv hn
    rw [(Store.sample_meter hmeter).1, hreading]
    exact (hbounded.sample (Store.isInt64_of_count hgauge hreading)).1

/-- A host that keeps warnings. -/
def quiet : Host where
  loggers := { root := Level.warning }
  room := 100

/-- A gauge that gives more than 64 bits, fails, and gives what is not a number from then on; a meter
over it is sampled twice. -/
def unruly : List Command :=
  [.newFunctionGauge "g" (.function [.value (.int (10 ^ 30)), .fault "ValueError" "no reading",
    .value (.float .nan)]),
   .newGaugeMeter "m" "g" (.int 5) (.int 5), .perform "m" .sample, .perform "m" .sample]

/-- The object that a metric reads, if there is one. -/
def followed? : Metric → Option Ref
  | .meter counter _ => some counter
  | .gaugeCounter gauge => some gauge
  | _ => none

/-- The next sample succeeds, although what the gauge gives is not a number. -/
theorem gaugeMeter_of_unruly :
    let s := ((initial quiet).run unruly).2.world.store
    (∃ w, s.get? 2 = some (.meter 1 w) ∧ ∀ n ∈ w.readings.toList, n.IsInt64) ∧
    (s.sample 2).1 = .ok () := by
  have hlaw := @gaugeMeter_of_session quiet unruly 2 1 0
  have hmeter : (((initial quiet).run unruly).2.world.store.get? 2).map
      (fun m => (m.isView, followed? m)) = some (true, some 1) := by decide +kernel
  have hgauge : (((initial quiet).run unruly).2.world.store.get? 1).map
      (fun m => (m.isView, followed? m)) = some (false, some 0) := by decide +kernel
  have hvalue : (((initial quiet).run unruly).2.world.store.value 0).1.toOption.bind
      Number.ofValue? = some (.float .nan) := by decide +kernel
  -- from here on nothing else counts about the session
  generalize ((initial quiet).run unruly).2.world.store = s at *
  obtain ⟨m, hm, hfollows⟩ := Option.map_eq_some_iff.mp hmeter
  obtain ⟨c, hc, hreads⟩ := Option.map_eq_some_iff.mp hgauge
  cases m with
  | meter counter w =>
      cases hfollows
      cases c with
      | gaugeCounter gauge =>
          cases hreads
          obtain ⟨hreadings, -, hsample⟩ := hlaw hm hc
          refine ⟨⟨w, hm, hreadings⟩, ?_⟩
          obtain ⟨v, hv, hn⟩ := Option.bind_eq_some_iff.mp hvalue
          cases hanswer : (s.value 0).1 with
          | error fault =>
              rw [hanswer] at hv
              cases hv
          | ok answer =>
              rw [hanswer] at hv
              rw [← Option.some.inj hv] at hn
              exact hsample answer _ hanswer hn
      | _ => simp [followed?, Metric.isView] at hreads
  | _ => simp [followed?, Metric.isView] at hfollows

end Session

end Telemetry
