import Telemetry.Pacer
import Telemetry.Proofs.Value.Seconds
import Telemetry.Settings

/-!
# Which settings are accepted

The sampling interval and the usual span have to be whole numbers of seconds, at least one; what is
kept of them is that number as an integer. The report interval has to be a number above zero, but
the check only refuses what is zero or less. What is not a number is neither, so it is accepted
as well, and a pacer with such an interval never waits.

* `check_eq_ok_iff` says what the check lets pass, and what it keeps.
* `runValues_nan` is about the pacer of an interval that is not a number.
* `accepted_iff` puts both together.
* `Accepted.checked` says that the check is the same in whichever form settings are given.
-/

namespace Telemetry

/-! ## A pacer without an interval -/

namespace Pacer

theorem remaining_nan (now : Binary64) : remaining .nan now = 0 := if_neg Bool.false_ne_true

theorem following_nan (done : Binary64) : following .nan .nan done = .nan :=
  if_neg Bool.false_ne_true

/-- A pacer with a deadline that is not a number never gets another, and never waits. -/
theorem loop_nan (now : Binary64) (script : List (Pass Binary64)) :
    ∃ ticks, loop .nan now .nan none script =
      ⟨List.replicate (script.length + 1) 0, ticks, false⟩ := by
  induction script generalizing now with
  | nil => exact ⟨[], by rw [loop, remaining_nan]; rfl⟩
  | cons pass rest ih =>
      obtain ⟨ticks, hrest⟩ := ih (now + 0 + pass.late + pass.work)
      refine ⟨(now + 0 + pass.late) :: ticks, ?_⟩
      simp only [loop, remaining_nan, following_nan, Option.map_none, hrest]
      rfl

/-- A pacer whose interval is not a number goes through every script without waiting. -/
theorem runValues_nan (start : Binary64) (script : List (Pass Binary64)) :
    ∃ ticks, runValues (.float .nan) start none script =
      .ok (⟨List.replicate (script.length + 1) 0, ticks, false⟩, none) := by
  obtain ⟨ticks, hloop⟩ := loop_nan start script
  have hfirst : start + .nan = .nan := by cases start <;> rfl
  refine ⟨ticks, ?_⟩
  show Except.ok (run .nan start none script, _) = _
  rw [run, hfirst, hloop]
  rfl

end Pacer

namespace Settings

/-! ## Accepted settings -/

theorem check_eq_ok_iff {s t : Settings} :
    s.check = .ok t ↔ ∃ sampling span,
      s.samplingInterval.IsSeconds sampling ∧ 1 ≤ sampling ∧
      s.defaultSpan.IsSeconds span ∧ 1 ≤ span ∧
      (s.reportInterval.IsPositive ∨ s.reportInterval = .float .nan) ∧
      t = { s with samplingInterval := .int sampling, defaultSpan := .int span } := by
  simp only [check, Fault.bind_eq_ok, Value.wholeSeconds_eq_ok_iff]
  constructor
  · rintro ⟨sampling, hsampling, span, hspan, ⟨⟩, hleast, ⟨⟩, hreport, ⟨⟩, hspanLeast, ht⟩
    refine ⟨sampling, span, hsampling, ?_, hspan, ?_, ?_, ?_⟩
    · exact Value.requirePositive_int.mp hleast
    · exact Value.requirePositive_int.mp hspanLeast
    · exact Value.requirePositive_eq_ok_iff.mp hreport
    · exact (Except.ok.inj ht).symm
  · rintro ⟨sampling, span, hsampling, hleast, hspan, hspanLeast, hreport, rfl⟩
    refine ⟨sampling, hsampling, span, hspan, (), ?_, (), ?_, (), ?_, rfl⟩
    · exact Value.requirePositive_int.mpr hleast
    · exact Value.requirePositive_eq_ok_iff.mpr hreport
    · exact Value.requirePositive_int.mpr hspanLeast

theorem checkOptions_eq_ok_iff {owner : String} {known : List String} {options : Table Value} :
    Value.checkOptions owner known options = .ok () ↔ ∀ name ∈ options.keys, name ∈ known := by
  have hnone : options.keys.find? (· ∉ known) = none ↔ ∀ name ∈ options.keys, name ∈ known := by
    simp
  rw [← hnone, Value.checkOptions]
  cases options.keys.find? (· ∉ known) <;> simp

/-- **Accepted settings.** Settings from named options are accepted exactly if all names are known,
both spans are whole numbers of seconds, at least one, as an integer or as a double, and the report
interval is a number above zero or is not a number at all. The two spans are kept as integers of the
same value, all else as it was given. With a report interval that is not a number, a pacer waits
zero seconds before each of its passes. -/
theorem accepted_iff (processInterval : Int) (options : Table Value) (t : Settings) :
    let given := fill processInterval options
    (ofOptions processInterval options = .ok t ↔
      (∀ name ∈ options.keys, name ∈ names) ∧ ∃ sampling span,
        given.samplingInterval.IsSeconds sampling ∧ 1 ≤ sampling ∧
        given.defaultSpan.IsSeconds span ∧ 1 ≤ span ∧
        (given.reportInterval.IsPositive ∨ given.reportInterval = .float .nan) ∧
        t = { given with samplingInterval := .int sampling, defaultSpan := .int span }) ∧
    ∀ (start : Binary64) (script : List (Pass Binary64)),
      ∃ ticks, Pacer.runValues (.float .nan) start none script =
        .ok (⟨List.replicate (script.length + 1) 0, ticks, false⟩, none) := by
  intro given
  constructor
  · rw [ofOptions, Fault.bind_eq_ok]
    simp only [check_eq_ok_iff]
    constructor
    · rintro ⟨⟨⟩, hnames, haccepted⟩
      exact ⟨checkOptions_eq_ok_iff.mp hnames, haccepted⟩
    · rintro ⟨hnames, haccepted⟩
      exact ⟨(), checkOptions_eq_ok_iff.mpr hnames, haccepted⟩
  · exact Pacer.runValues_nan

/-- A report interval that is not a number is not positive, and it is accepted. -/
theorem accepted_reportInterval_nan :
    ∃ t, ofOptions 5 [("report_interval_seconds", .float .nan)] = .ok t ∧
      t.reportInterval = .float .nan ∧ ¬ t.reportInterval.IsPositive := by
  refine ⟨_, rfl, rfl, ?_⟩
  rintro ⟨n, hn, hless⟩
  cases hn
  cases hless

/-! ## Settings in any form -/

/-- Settings that were accepted, in whichever form they were given. -/
def Accepted (s : Settings) : Prop :=
  ∃ (processInterval : Int) (form : Form), ofForm processInterval form = .ok s

/-- Settings that the check let pass. -/
def Checked (s : Settings) : Prop := ∃ given : Settings, given.check = .ok s

/-- Both spans are whole numbers of seconds, at least one, and no worker refuses the report interval. -/
structure Fit (s : Settings) (seconds usual : Int) : Prop where
  interval : s.samplingInterval = .int seconds
  interval_pos : 1 ≤ seconds
  span : s.defaultSpan = .int usual
  span_pos : 1 ≤ usual
  report : ∀ field, s.reportInterval.requirePositive field = .ok ()

variable {processInterval : Int} {s : Settings}

theorem Checked.exists_fit (h : s.Checked) : ∃ seconds usual, s.Fit seconds usual := by
  obtain ⟨given, hgiven⟩ := h
  obtain ⟨seconds, usual, -, hseconds, -, husual, hreport, rfl⟩ := check_eq_ok_iff.mp hgiven
  exact ⟨seconds, usual, rfl, hseconds, rfl, husual,
    fun _ => Value.requirePositive_eq_ok_iff.mpr hreport⟩

theorem checked_of_ofOptions {options : Table Value}
    (h : ofOptions processInterval options = .ok s) : s.Checked := by
  obtain ⟨-, -, hcheck⟩ := Fault.bind_eq_ok.mp h
  exact ⟨_, hcheck⟩

theorem checked_of_ofNamed {α : Type} {read : α → Value}
    {readSinks : α → Except Fault (List (Entries Value))} {table : Table α}
    (h : ofNamed processInterval read readSinks table = .ok s) : s.Checked := by
  unfold ofNamed at h
  dsimp only at h
  split at h
  · exact checked_of_ofOptions h
  · obtain ⟨sinks, -, h⟩ := Fault.bind_eq_ok.mp h
    exact checked_of_ofOptions h

theorem checked_of_ofEntries {entries : Entries Value}
    (h : ofEntries processInterval entries = .ok s) : s.Checked := by
  obtain ⟨table, -, h⟩ := Fault.bind_eq_ok.mp h
  exact checked_of_ofNamed h

theorem checked_of_ofValue {v : Value} (h : ofValue processInterval v = .ok s) : s.Checked := by
  unfold ofValue at h
  split at h
  · exact checked_of_ofOptions h
  · obtain ⟨entries, -, h⟩ := Fault.bind_eq_ok.mp h
    exact checked_of_ofEntries h

/-- A copy that gives settings is a dictionary. -/
theorem exists_entries_of_ofCopy {v : Value} (h : ofCopy processInterval v = .ok s) :
    ∃ entries, ofEntries processInterval entries = .ok s := by
  unfold ofCopy at h
  split at h
  · exact ⟨_, h⟩
  · exact ⟨_, h⟩
  · split at h
    · cases h
    · obtain ⟨keys, -, h⟩ := Fault.bind_eq_ok.mp h
      obtain ⟨known, -, h⟩ := Fault.bind_eq_ok.mp h
      cases h

/-- **All forms of settings go through the same check.** -/
theorem Accepted.checked (h : s.Accepted) : s.Checked := by
  obtain ⟨processInterval, form, h⟩ := h
  cases form with
  | options v =>
      obtain ⟨options, -, h⟩ := Fault.bind_eq_ok.mp h
      exact checked_of_ofOptions h
  | value v => exact checked_of_ofValue h
  | tree copied =>
      obtain ⟨v, -, h⟩ := Fault.bind_eq_ok.mp h
      obtain ⟨entries, h⟩ := exists_entries_of_ofCopy h
      exact checked_of_ofEntries h
  | listed entries =>
      obtain ⟨entries, -, h⟩ := Fault.bind_eq_ok.mp h
      obtain ⟨table, -, h⟩ := Fault.bind_eq_ok.mp h
      exact checked_of_ofNamed h

end Settings

end Telemetry
