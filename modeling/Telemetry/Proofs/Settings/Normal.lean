import Telemetry.Proofs.Settings.Acceptance
import Telemetry.Proofs.Table.Lookup

/-!
# Settings in normal form

Settings may be given in many ways: some or all of them, as a dictionary or as pairs, with doubles
for whole numbers of seconds, and with sinks that are dictionaries, pairs or nothing at all. What is
made of them has one form. It is what reading leaves alone: the table of such settings, read as a
dictionary, gives the same settings.

* `IsNormal` is that form.
* `IsRead.isNormal` says that all that is read has it.
* `ofValue_toTable_iff` says that it is the form of what is read back as it is.
* `readBack_of_isRead` puts them together.
-/

namespace Telemetry

namespace Settings

/-- A value is a list of dictionaries. -/
def ListsDictionaries (v : Value) : Prop := ∃ specs, v = listOf specs

/-- Settings as they are once they have been read: both spans are integers, and the sinks are a list
of dictionaries. -/
structure IsNormal (s : Settings) : Prop where
  sampling : ∃ seconds, s.samplingInterval = .int seconds ∧ 1 ≤ seconds
  span : ∃ usual, s.defaultSpan = .int usual ∧ 1 ≤ usual
  report : s.reportInterval.IsPositive ∨ s.reportInterval = .float .nan
  sinks : ListsDictionaries s.sinks

variable {processInterval : Int} {s : Settings}

/-! ## Sinks -/

/-- Dictionaries are read as they are. -/
theorem mapM_toEntries (specs : List (Entries Value)) :
    (specs.map Value.ofEntries).mapM Value.toEntries = .ok specs := by
  induction specs with
  | nil => rfl
  | cons entries rest ih =>
      rw [List.map_cons, List.mapM_cons, Value.toEntries_ofEntries, ih]
      rfl

theorem sinkSpecs_listOf (specs : List (Entries Value)) : sinkSpecs (listOf specs) = .ok specs := by
  cases specs with
  | nil => rfl
  | cons entries rest => exact mapM_toEntries (entries :: rest)

/-! ## What is read is in normal form -/

theorem Checked.isNormal (h : s.Checked) (hsinks : ListsDictionaries s.sinks) : s.IsNormal := by
  obtain ⟨given, hgiven⟩ := h
  obtain ⟨seconds, usual, -, hseconds, -, husual, hreport, rfl⟩ := check_eq_ok_iff.mp hgiven
  exact ⟨⟨seconds, rfl, hseconds⟩, ⟨usual, rfl, husual⟩, hreport, hsinks⟩

/-- The check leaves the sinks alone. -/
theorem sinks_of_ofOptions {options : Table Value}
    (h : ofOptions processInterval options = .ok s) :
    s.sinks = (options.get? "sinks").getD (.list []) := by
  obtain ⟨-, -, hcheck⟩ := Fault.bind_eq_ok.mp h
  obtain ⟨seconds, usual, -, -, -, -, -, rfl⟩ := check_eq_ok_iff.mp hcheck
  rfl

theorem isNormal_of_ofNamed {α : Type} {read : α → Value}
    {readSinks : α → Except Fault (List (Entries Value))} {table : Table α}
    (h : ofNamed processInterval read readSinks table = .ok s) : s.IsNormal := by
  apply (checked_of_ofNamed h).isNormal
  unfold ofNamed at h
  dsimp only at h
  split at h
  · next hnone =>
    -- no sinks were given, so that the list is empty
    rw [sinks_of_ofOptions h, Table.get?_map, hnone]
    exact ⟨[], rfl⟩
  · obtain ⟨specs, -, h⟩ := Fault.bind_eq_ok.mp h
    rw [sinks_of_ofOptions h, Table.get?_set, if_pos rfl]
    exact ⟨specs, rfl⟩

theorem isNormal_of_ofEntries {entries : Entries Value}
    (h : ofEntries processInterval entries = .ok s) : s.IsNormal := by
  obtain ⟨table, -, h⟩ := Fault.bind_eq_ok.mp h
  exact isNormal_of_ofNamed h

theorem isNormal_of_ofValue {v : Value} (h : ofValue processInterval v = .ok s) : s.IsNormal := by
  unfold ofValue at h
  split at h
  · apply (checked_of_ofOptions h).isNormal
    rw [sinks_of_ofOptions h]
    exact ⟨[], rfl⟩
  · obtain ⟨entries, -, h⟩ := Fault.bind_eq_ok.mp h
    exact isNormal_of_ofEntries h

/-- Settings were read: from a value, from the copy that a tree gives, or from what a list of another
make lists. -/
inductive IsRead (s : Settings) : Prop where
  | value {processInterval : Int} {v : Value} (h : ofValue processInterval v = .ok s) : IsRead s
  | tree {processInterval : Int} {v : Value} (h : ofCopy processInterval v = .ok s) : IsRead s
  | listed {processInterval : Int} {entries : Entries Listed}
      (h : ofListed processInterval entries = .ok s) : IsRead s

/-- **All that is read has the normal form.** -/
theorem IsRead.isNormal (h : s.IsRead) : s.IsNormal := by
  cases h with
  | value h => exact isNormal_of_ofValue h
  | tree h =>
      obtain ⟨entries, h⟩ := exists_entries_of_ofCopy h
      exact isNormal_of_ofEntries h
  | listed h =>
      obtain ⟨table, -, h⟩ := Fault.bind_eq_ok.mp h
      exact isNormal_of_ofNamed h

/-! ## What is in normal form is read as it is -/

/-- Keys that are names of settings are a table as they are. -/
theorem named_of_known {α : Type} {t : Table α} (h : ∀ name ∈ t.keys, name ∈ names) :
    named (Entries.ofTable t) = .ok t := by
  have hunknown : ((Entries.ofTable t).map (·.1)).filter isUnknown = [] := by
    rw [List.filter_eq_nil_iff, Entries.ofTable, List.map_map, List.forall_mem_map]
    intro p hp
    simpa [isUnknown] using h p.1 (List.mem_map_of_mem hp)
  rw [named, hunknown, Entries.texts?_ofTable]

/-- **A dictionary of settings is read as options** if its sinks are dictionaries already. -/
theorem ofValue_eq_ofOptions {t : Table Value} (hknown : ∀ name ∈ t.keys, name ∈ names)
    (hsinks : ∀ v, t.get? "sinks" = some v → ListsDictionaries v) :
    ofValue processInterval (.dict t) = ofOptions processInterval t := by
  show (named (Entries.ofTable t) >>= ofNamed processInterval id sinkSpecs) = _
  rw [named_of_known hknown, Fault.ok_bind, ofNamed]
  have hsame : t.map (fun p => (p.1, id p.2)) = t := List.map_id t
  simp only [hsame]
  split
  · rfl
  · next v hv =>
    -- the sinks are set to what they are
    obtain ⟨specs, rfl⟩ := hsinks v hv
    rw [sinkSpecs_listOf, Fault.ok_bind, Table.set_of_get? hv]

theorem keys_toTable (s : Settings) : s.toTable.keys = names := rfl

theorem fill_toTable (processInterval : Int) (s : Settings) :
    fill processInterval s.toTable = s := rfl

theorem ofOptions_toTable (processInterval : Int) (s : Settings) :
    ofOptions processInterval s.toTable = s.check := by
  have hnames : Value.checkOptions owner names s.toTable = .ok () :=
    Value.checkOptions_eq_ok owner fun _ hname => keys_toTable s ▸ hname
  rw [ofOptions, hnames, fill_toTable]
  rfl

/-- The check leaves settings in normal form alone. -/
theorem IsNormal.check_eq (h : s.IsNormal) : s.check = .ok s := by
  obtain ⟨seconds, hseconds, hleast⟩ := h.sampling
  obtain ⟨usual, husual, hspanLeast⟩ := h.span
  refine check_eq_ok_iff.mpr ⟨seconds, usual, .inl hseconds, hleast, .inl husual, hspanLeast,
    h.report, ?_⟩
  rw [← hseconds, ← husual]

/-- **What is read back as it is has the normal form**, and nothing else is. -/
theorem ofValue_toTable_iff :
    ofValue processInterval (.dict s.toTable) = .ok s ↔ s.IsNormal := by
  refine ⟨isNormal_of_ofValue, fun h => ?_⟩
  have hsinks : ∀ v, Table.get? s.toTable "sinks" = some v → ListsDictionaries v := by
    intro v hv
    cases hv
    exact h.sinks
  rw [ofValue_eq_ofOptions (fun _ hname => keys_toTable s ▸ hname) hsinks, ofOptions_toTable,
    h.check_eq]

/-- **Reading settings a second time changes nothing.** Settings that were read, whether from nothing,
from a dictionary of any form, from a tree or from a list, are read back from the table of them just
as they are: each with its value and its type, the sinks one by one and in order. The sampling
interval of the process does not matter any more. -/
theorem readBack_of_isRead (h : s.IsRead) :
    s.IsNormal ∧ s.toTable.keys = names ∧
      ∀ processInterval : Int, ofValue processInterval (.dict s.toTable) = .ok s :=
  ⟨h.isNormal, s.keys_toTable, fun _ => ofValue_toTable_iff.mpr h.isNormal⟩

/-- Settings as pairs: an interval twice, the second time as a double, and sinks as pairs and as a
dictionary. -/
def paired (interval : Binary64) : Value :=
  .list [.list [.str "sampling_interval_seconds", .int 9],
    .list [.str "report_interval_seconds", .bool true],
    .list [.str "sinks", .list [
      .list [.list [.str "type", .str "jsonl"], .list [.str "path", .str "a"],
        .list [.str "path", .str "b"]],
      .dict [("type", .str "logging")]]],
    .list [.str "sampling_interval_seconds", .float interval]]

/-- What is made of them, if the interval is two seconds. -/
def pairedRead : Settings where
  scope := .str "meterkit"
  samplingInterval := .int 2
  defaultSpan := .int 60
  reportInterval := .bool true
  sinks := .list [.dict [("type", .str "jsonl"), ("path", .str "b")],
    .dict [("type", .str "logging")]]

theorem readBack_of_paired :
    let interval := Binary64.ofQuotient 2 1
    ofValue 5 (paired interval) = .ok pairedRead ∧
      ofValue 7 (.dict pairedRead.toTable) = .ok pairedRead := by
  intro interval
  have hwhole : interval.IsWhole 2 := Binary64.whole?_eq_some_iff.mp (by decide +kernel)
  -- the last of equal keys counts, in the place of the first
  have hpairs : ∀ x, ofValue 5 (paired x) =
      Settings.check { pairedRead with samplingInterval := .float x } := fun x => rfl
  have hread : ofValue 5 (paired interval) = .ok pairedRead := by
    rw [hpairs, check_eq_ok_iff]
    exact ⟨2, 60, .inr ⟨interval, rfl, hwhole⟩, by decide, .inl rfl, by decide,
      .inl ⟨.int 1, rfl, rfl⟩, rfl⟩
  obtain ⟨-, -, hback⟩ := readBack_of_isRead (.value hread)
  exact ⟨hread, hback 7⟩

end Settings

end Telemetry
