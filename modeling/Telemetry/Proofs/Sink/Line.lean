import Telemetry.Proofs.Json.RoundTrip
import Telemetry.Proofs.Sink.Journal

/-!
# Lines of events

The line that an event becomes is a record of its six fields, and reading the line gives them back:
as the same data, up to the order of the entries of dictionaries. What else is to be published is
nothing if it does not count as given, and otherwise has to be a dictionary. So events with one line
have the same fields, to the last leaf.

There is no line for every event: an integer that is too long cannot be written, and no more can what
is to be published besides and counts as given, but is no dictionary. A list is none either, but is
taken as the one that it lists, if it lists one. This is the one case in which a line gives something
else back than what the event held.

Main statements: `appends_iff` (what a line sink appends), `exists_write_of_appends` (a line is a
record of what its event publishes) and `fields_of_line`.
-/

namespace Telemetry

/-- What an event publishes: its fields under their names, and nothing in place of what does not
count as given. -/
def Event.published (event : Event) : Value :=
  .dict [("timestamp", event.timestamp), ("scope", event.scope), ("metrics", .dict event.metrics),
    ("step", event.step), ("process_id", event.processId),
    ("extra", if event.extra.isTruthy then event.extra else .null)]

/-- An event whose fields are all data. -/
structure Event.IsData (event : Event) : Prop where
  timestamp : event.timestamp.IsData
  scope : event.scope.IsData
  metrics : (Value.dict event.metrics).IsData
  step : event.step.IsData
  processId : event.processId.IsData
  extra : event.extra.IsData

/-- What else is to be published lists nothing. -/
def Event.ListsNothing (event : Event) : Prop := ∀ items, event.extra = .list items → items = []

theorem Event.listsNothing_of_dict {event : Event} {entries : Table Value}
    (h : event.extra = .dict entries) : event.ListsNothing := by
  intro items hitems
  rw [h] at hitems
  cases hitems

theorem Event.IsData.published {event : Event} (h : event.IsData) : event.published.IsData := by
  have hextra : (if event.extra.isTruthy then event.extra else .null).IsData := by
    split
    · exact h.extra
    · exact .null
  have hkeys : ["timestamp", "scope", "metrics", "step", "process_id", "extra"].Nodup := by decide
  refine .dict hkeys ?_
  simp only [List.forall_mem_cons]
  exact ⟨h.timestamp, h.scope, h.metrics, h.step, h.processId, hextra, nofun⟩

namespace Sink

/-- An open line sink appends a line, and nothing else, when it is asked to write an event. -/
def Appends (event : Event) (line : String) : Prop :=
  ∀ (path place : Path) (host : Host),
    serve (.write event) (.lines path place true) host =
      (.ok (), .lines path place true, { host with files := host.files.append place line })

/-- **What a line sink appends is the line of the event.** -/
theorem appends_iff {event : Event} {line : String} :
    Appends event line ↔ lineText event = .ok line := by
  constructor
  · intro h
    -- a file that is empty shows what is appended
    let host : Host :=
      { loggers := { root := Level.warning }, room := 0, files := ⟨[(["log"], .file "")]⟩ }
    have hserve := h [] ["log"] host
    rw [serve_lines_write] at hserve
    cases hline : lineText event with
    | error fault =>
        rw [hline] at hserve
        cases hserve
    | ok written =>
        rw [hline] at hserve
        have hfiles := congrArg (fun served => served.2.2.files.entries) hserve
        simpa [host, FileTree.append] using hfiles
  · intro h path place host
    rw [serve_lines_write, h]
    rfl

theorem appends_of_toOption {event : Event} {line : String}
    (h : (lineText event).toOption = some line) : Appends event line := by
  rw [appends_iff]
  cases htext : lineText event with
  | error fault =>
      rw [htext] at h
      cases h
  | ok written =>
      rw [htext] at h
      exact congrArg Except.ok (Option.some.inj h)

/-! ## What else is published -/

/-- A dictionary is published as it is, and nothing in place of what does not count as given. -/
theorem extraOptions_of_dict {extra : Value}
    (h : extra.isTruthy = true → ∃ entries, extra = .dict entries) :
    extraOptions extra = .ok (if extra.isTruthy then extra else .null) := by
  rw [extraOptions]
  split
  · next hgiven =>
    obtain ⟨entries, rfl⟩ := h hgiven
    rw [Value.toEntries_dict, Except.map, Value.ofEntries, Entries.texts?_ofTable]
  · rfl

/-- Data that count as given and are neither a dictionary nor a list are refused. -/
theorem dict_of_extraOptions {extra options : Value} (hdata : extra.IsData)
    (hlist : ∀ items, extra = .list items → items = []) (h : extraOptions extra = .ok options) :
    extra.isTruthy = true → ∃ entries, extra = .dict entries := by
  intro hgiven
  rw [extraOptions, if_pos hgiven] at h
  cases hdata with
  | null => cases hgiven
  | bool | int | float => cases h
  | dict => exact ⟨_, rfl⟩
  | list =>
      rw [hlist _ rfl] at hgiven
      cases hgiven
  | str s =>
      -- the first character of a text is no pair
      cases hchars : s.toList with
      | nil =>
          have hempty : s = "" := String.toList_eq_nil_iff.mp hchars
          rw [hempty] at hgiven
          cases hgiven
      | cons c rest =>
          have hrefused : (Value.str s).toEntries = .error (.pairLength 0 1) := by
            show Value.addPairs [] 0 (s.toList.map fun c => .str (String.ofList [c])) = _
            rw [hchars, List.map_cons, Value.addPairs, Value.items?, String.toList_ofList]
            rfl
          rw [hrefused] at h
          cases h

/-- A list of pairs is published as the dictionary that it lists. -/
theorem extraOptions_pairs {pairs : List (String × Value)} (hne : pairs ≠ []) :
    extraOptions (.list (pairs.map fun p => .list [.str p.1, p.2])) =
      extraOptions (.dict (Table.ofPairs pairs)) := by
  have hlist : (Value.list (pairs.map fun p => .list [.str p.1, p.2])).isTruthy = true := by
    simpa [Value.isTruthy] using hne
  have hdict : (Value.dict (Table.ofPairs pairs)).isTruthy = true := by
    simpa [Value.isTruthy] using Table.ofPairs_ne_nil hne
  rw [extraOptions, extraOptions, if_pos hlist, if_pos hdict, Value.toEntries_list,
    Value.toEntries_dict]

theorem appends_pairs_iff (event : Event) {pairs : List (String × Value)} (hne : pairs ≠ [])
    (line : String) :
    Appends { event with extra := .list (pairs.map fun p => .list [.str p.1, p.2]) } line ↔
      Appends { event with extra := .dict (Table.ofPairs pairs) } line := by
  rw [appends_iff, appends_iff, lineText, lineText]
  dsimp only
  rw [extraOptions_pairs hne]

/-- The line of an event is a record of what it publishes. -/
theorem lineText_of_dict {event : Event}
    (h : event.extra.isTruthy = true → ∃ entries, event.extra = .dict entries) :
    lineText event =
      (Json.write event.published).map fun cs => String.ofList (cs ++ ['\n']) := by
  rw [lineText, extraOptions_of_dict h, Fault.ok_bind]
  show (Json.write event.published >>= _) = _
  cases Json.write event.published <;> rfl

/-- **A line is a record of what its event publishes.** -/
theorem exists_write_of_appends {event : Event} (hdata : event.IsData) (hlist : event.ListsNothing)
    {line : String} (h : Appends event line) :
    ∃ cs, Json.write event.published = .ok cs ∧ line = String.ofList (cs ++ ['\n']) := by
  rw [appends_iff] at h
  obtain ⟨options, hoptions, -⟩ := Fault.bind_eq_ok.mp h
  rw [lineText_of_dict (dict_of_extraOptions hdata.extra hlist hoptions)] at h
  obtain ⟨cs, hcs, hline⟩ := Sorting.exists_of_map_eq_ok h
  exact ⟨cs, hcs, hline.symm⟩

/-- A line is read as the record that it holds. -/
theorem exists_read?_of_appends {event : Event} (hdata : event.IsData)
    (hlist : event.ListsNothing) {line : String} (h : Appends event line) :
    ∃ record, Json.read? line.toList = some record ∧ record.Same event.published := by
  obtain ⟨cs, hcs, rfl⟩ := exists_write_of_appends hdata hlist h
  obtain ⟨record, hsame, hread⟩ := Json.exists_read?_of_write hdata.published hcs
  refine ⟨record, ?_, hsame⟩
  rw [String.toList_ofList]
  exact hread ['\n'] (List.all_eq_true.mp rfl)

/-! ## Fields of a line -/

/-- **A line gives the fields of its event back.** The fields of an event are data, and what else is
to be published is no list that lists anything. The line, if there is one, is read as a record of the
six fields, each the same as in the event but for the order of entries; nothing is read in place of
what does not count as given. So two events that have one line have the same fields, and there is no
place at which one of them has a leaf and the other has not. -/
theorem fields_of_line (event : Event) (hdata : event.IsData) (hlist : event.ListsNothing) :
    (∀ line, Appends event line →
      ∃ record, Json.read? line.toList = some record ∧ record.Same event.published) ∧
    (∀ (other : Event) (line : String), other.IsData → other.ListsNothing →
      Appends event line → Appends other line → event.published.Same other.published) ∧
    (∀ (other : Event) (line : String) (path : List Value.Step) (leaf : Value), other.IsData →
      other.ListsNothing → leaf.isLeaf = true → event.published.at? path = some leaf →
      other.published.at? path ≠ some leaf → Appends event line → ¬ Appends other line) := by
  have hsame : ∀ (other : Event) (line : String), other.IsData → other.ListsNothing →
      Appends event line → Appends other line → event.published.Same other.published := by
    intro other line hdata' hlist' hline hline'
    obtain ⟨record, hread, hrecord⟩ := exists_read?_of_appends hdata hlist hline
    obtain ⟨record', hread', hrecord'⟩ := exists_read?_of_appends hdata' hlist' hline'
    rw [hread] at hread'
    cases hread'
    exact hrecord.symm.trans hrecord'
  refine ⟨fun line => exists_read?_of_appends hdata hlist, hsame, ?_⟩
  intro other line path leaf hdata' hlist' hleaf hat hdiffers hline hline'
  exact hdiffers ((hsame other line hdata' hlist' hline hline').at?_eq_some hat hleaf)

/-! ### A line with nested data -/

/-- An event with nested data, characters that are escaped, and a count of five. -/
def nested (count : Value) : Event where
  timestamp := .float (Binary64.ofQuotient 1 2)
  scope := .str "a\"😀\n"
  metrics := [("rate", .float (Binary64.ofQuotient 5 1)), ("count", count), ("busy", .bool true)]
  extra := .dict [("tags", .list [.null, .dict [("b", .int 1), ("a", .str "")]])]

theorem isData_nested {count : Value} (h : count.IsData) : (nested count).IsData := by
  constructor <;> simp [nested, Table.keys, h]

def nestedLine : String :=
  "\x7b\"extra\": \x7b\"tags\": [null, \x7b\"a\": \"\", \"b\": 1\x7d]\x7d, " ++
    "\"metrics\": \x7b\"busy\": true, \"count\": 5, \"rate\": 5.0\x7d, " ++
    "\"process_id\": null, \"scope\": \"a\\\"\\ud83d\\ude00\\n\", " ++
    "\"step\": null, \"timestamp\": 0.5\x7d\n"

/-- The line gives the fields back, and it is not the line of an event that counts `5.0`. -/
theorem fields_of_line_nested :
    Appends (nested (.int 5)) nestedLine ∧
      (∃ record, Json.read? nestedLine.toList = some record ∧
        record.Same (nested (.int 5)).published) ∧
      ¬ Appends (nested (.float (Binary64.ofQuotient 5 1))) nestedLine := by
  have hline : Appends (nested (.int 5)) nestedLine := appends_of_toOption (by decide +kernel)
  have hdict : ∀ count, (nested count).ListsNothing := fun _ =>
    Event.listsNothing_of_dict rfl
  obtain ⟨hread, -, hdiffer⟩ :=
    fields_of_line (nested (.int 5)) (isData_nested (.int 5)) (hdict _)
  exact ⟨hline, hread _ hline, hdiffer _ _ [.name "metrics", .name "count"] (.int 5)
    (isData_nested (.float _)) (hdict _) rfl rfl nofun hline⟩

/-! ### A list in place of a dictionary, and an integer that is too long -/

/-- An event that publishes a list of one pair. -/
def listed : Event where
  timestamp := .int 0
  scope := .str "s"
  metrics := []
  extra := .list [.list [.str "a", .int 1]]

/-- An event that publishes the dictionary of that pair. -/
def mapped : Event := { listed with extra := .dict [("a", .int 1)] }

/-- An event with an integer of one digit too many. -/
def overlong : Event :=
  { listed with timestamp := .int (power 10 Decimal.digitLimit), extra := .null }

def listedLine : String :=
  "\x7b\"extra\": \x7b\"a\": 1\x7d, \"metrics\": \x7b\x7d, \"process_id\": null, " ++
    "\"scope\": \"s\", \"step\": null, \"timestamp\": 0\x7d\n"

theorem not_same_listed : ¬ mapped.published.Same listed.published := by
  intro h
  have hat : listed.published.at? [.name "extra", .name "a"] = some (.int 1) :=
    h.at?_eq_some rfl rfl
  cases hat

theorem not_appends_overlong (line : String) : ¬ Appends overlong line := by
  intro h
  have hnone : (lineText overlong).toOption = none := by decide +kernel
  rw [appends_iff.mp h] at hnone
  cases hnone

/-- **A list of pairs is read as a dictionary**, so two events that differ have one line; and an
integer that is too long has no line at all. -/
theorem line_of_listed :
    (listed.IsData ∧ mapped.IsData ∧ overlong.IsData) ∧
      ¬ mapped.published.Same listed.published ∧
      (Appends listed listedLine ∧ Appends mapped listedLine) ∧
      (∃ record, Json.read? listedLine.toList = some record ∧ ¬ record.Same listed.published) ∧
      ¬ ∃ line, Appends overlong line := by
  have hlisted : listed.IsData := by
    constructor <;> simp [listed, Table.keys]
  have hmapped : mapped.IsData := by
    constructor <;> simp [mapped, listed, Table.keys]
  have hoverlong : overlong.IsData := { hlisted with timestamp := .int _, extra := .null }
  have hline : Appends mapped listedLine := appends_of_toOption (by decide +kernel)
  have hpairs := appends_pairs_iff listed (List.cons_ne_nil ("a", Value.int 1) []) listedLine
  obtain ⟨record, hread, hrecord⟩ :=
    exists_read?_of_appends hmapped (Event.listsNothing_of_dict rfl) hline
  refine ⟨⟨hlisted, hmapped, hoverlong⟩, not_same_listed, ⟨hpairs.mpr hline, hline⟩,
    ⟨record, hread, fun hsame => not_same_listed (hrecord.symm.trans hsame)⟩, ?_⟩
  rintro ⟨line, hoverlong⟩
  exact not_appends_overlong line hoverlong

end Sink

end Telemetry
