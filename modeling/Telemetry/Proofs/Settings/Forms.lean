import Mathlib.Data.String.Basic
import Telemetry.Proofs.Settings.Normal
import Telemetry.Proofs.Sorting.Order
import Telemetry.Value.Plain

/-!
# Settings in different forms

A table of settings may be given as named options, as a dictionary or as a tree. Of a tree nothing is
asked but that it gives back plain data as it was and keeps the keys of all else; its copy is read like
a dictionary. A dictionary is read like options, with two differences: names that are not known are
looked for first, and all of them are given in order; and the sinks are made dictionaries.

* `Copies` is what is asked of trees.
* `named_of_unknown` says what comes of names that are not known.
* `forms_agree` puts both together: the forms give the same settings, or fail alike.
* `unknown_of_number` says that this takes keys that are texts: others cannot be listed.
-/

namespace Telemetry

namespace Settings

variable {processInterval : Int} {t : Table Value}

/-! ## Copies of trees -/

/-- A tree is made of a dictionary and copied again: plain data is its own copy, and the copy of any
dictionary has the same keys. -/
structure Copies (copy : Value → Except Fault Value) : Prop where
  plain : ∀ t : Table Value, (Value.dict t).isPlain = true → copy (.dict t) = .ok (.dict t)
  keys : ∀ (t : Table Value) (v : Value), copy (.dict t) = .ok v →
    ∃ copied : Table Value, v = .dict copied ∧ copied.keys = t.keys

/-- What a tree gives is read like a dictionary. -/
theorem ofCopy_dict (processInterval : Int) (t : Table Value) :
    ofCopy processInterval (.dict t) = ofValue processInterval (.dict t) := rfl

/-! ## Names that are not known -/

/-- The names in a table that are no names of settings. -/
def unknownNames (t : Table Value) : List String := t.keys.filter (· ∉ names)

/-- Texts in increasing order. -/
def inOrder (texts : List String) : List String := texts.mergeSort fun a b => decide (a ≤ b)

theorem perm_inOrder (texts : List String) : (inOrder texts).Perm texts :=
  List.mergeSort_perm texts _

theorem pairwise_inOrder (texts : List String) : (inOrder texts).Pairwise (· ≤ ·) :=
  Sorting.pairwise_mergeSort_key id texts

/-- Texts are put in order. -/
theorem sort_texts (texts : List String) :
    Sorting.sort Value.keyLess (texts.map .str) = .ok ((inOrder texts).map .str) := by
  have hless : Sorting.ByKey Value.text (fun v => ∃ s, v = .str s) Value.keyLess := by
    rintro _ _ ⟨s, rfl⟩ ⟨t, rfl⟩
    rfl
  have htexts : ∀ v ∈ texts.map Value.str, ∃ s, v = .str s := by
    rw [List.forall_mem_map]
    exact fun s _ => ⟨s, rfl⟩
  have hapart : ∀ v ∈ texts.map Value.str, ∀ w ∈ texts.map Value.str, v.text = w.text → v = w := by
    intro v hv w hw h
    obtain ⟨a, rfl⟩ := htexts v hv
    obtain ⟨b, rfl⟩ := htexts w hw
    exact congrArg Value.str h
  rw [Sorting.sort_eq_mergeSort hless htexts hapart]
  congr 1
  symm
  apply List.map_mergeSort
  intro a _ b _
  rfl

theorem unknownFault_texts (texts : List String) :
    unknownFault (texts.map .str) = .unknownSettings (inOrder texts) := by
  have hnone : ((inOrder texts).map Value.str).zipIdx.find? (isNoText ·.1) = none := by
    rw [List.find?_eq_none]
    intro p hp
    obtain ⟨s, -, hs⟩ := List.mem_map.mp (List.fst_mem_of_mem_zipIdx hp)
    rw [← hs]
    exact Bool.false_ne_true
  rw [unknownFault, sort_texts]
  dsimp only
  rw [hnone, List.map_map]
  exact congrArg Fault.unknownSettings (List.map_id _)

/-- **Names that are not known are all given, in order**, whatever stands under them. -/
theorem named_of_unknown (h : ∃ name ∈ t.keys, name ∉ names) :
    named (Entries.ofTable t) = .error (.unknownSettings (inOrder (unknownNames t))) := by
  have hkeys : ((Entries.ofTable t).map (·.1)).filter isUnknown =
      (unknownNames t).map .str := by
    rw [Entries.ofTable, List.map_map, unknownNames, Table.keys, List.filter_map, List.filter_map,
      List.map_map]
    rfl
  have hsome : unknownNames t ≠ [] := by
    obtain ⟨name, hname, hunknown⟩ := h
    exact List.ne_nil_of_mem (List.mem_filter.mpr ⟨hname, by simpa using hunknown⟩)
  unfold named
  rw [hkeys]
  split
  · next hnil _ => exact absurd (List.map_eq_nil_iff.mp hnil) hsome
  · rw [unknownFault_texts]

/-- The names that are given are those that are not known. -/
theorem mem_inOrder_unknownNames {name : String} :
    name ∈ inOrder (unknownNames t) ↔ name ∈ t.keys ∧ name ∉ names := by
  rw [(perm_inOrder _).mem_iff, unknownNames, List.mem_filter, decide_eq_true_iff]

theorem ofValue_of_unknown (h : ∃ name ∈ t.keys, name ∉ names) :
    ofValue processInterval (.dict t) =
      .error (.unknownSettings (inOrder (unknownNames t))) := by
  show (named (Entries.ofTable t) >>= ofNamed processInterval id sinkSpecs) = _
  rw [named_of_unknown h, Fault.error_bind]

/-- Unknown names come before everything else in a tree as well, once it is copied. -/
theorem ofForm_tree_of_unknown {copy : Value → Except Fault Value} (hcopy : Copies copy) {v : Value}
    (h : ∃ name ∈ t.keys, name ∉ names) (hv : copy (.dict t) = .ok v) :
    ofForm processInterval (.tree (copy (.dict t))) =
      .error (.unknownSettings (inOrder (unknownNames t))) := by
  obtain ⟨copied, rfl, hkeys⟩ := hcopy.keys t v hv
  rw [ofForm, hv, Fault.ok_bind, ofCopy_dict, ofValue_of_unknown (by rwa [hkeys]), unknownNames,
    hkeys]
  rfl

/-! ## All forms agree -/

/-- **The forms of settings agree.** Settings under known names, with sinks that are dictionaries, are
the same as options, as a dictionary and as a tree of plain data: either all forms give equal
settings, or all fail with the same fault. If some name is not known, a dictionary and a tree both
fail, and the message lists exactly the unknown names in increasing order, each of them once, whatever
the values are; the tree does so if it is plain data, and also if it is not but can be copied. -/
theorem forms_agree {copy : Value → Except Fault Value} (hcopy : Copies copy)
    (processInterval : Int) (t : Table Value) :
    ((∀ name ∈ t.keys, name ∈ names) → (∀ v, t.get? "sinks" = some v → ListsDictionaries v) →
      ofForm processInterval (.value (.dict t)) = ofForm processInterval (.options (.dict t)) ∧
      ((Value.dict t).isPlain = true →
        ofForm processInterval (.tree (copy (.dict t))) =
          ofForm processInterval (.options (.dict t)))) ∧
    ((∃ name ∈ t.keys, name ∉ names) →
      let unknown := inOrder (unknownNames t)
      (∀ name, name ∈ unknown ↔ name ∈ t.keys ∧ name ∉ names) ∧ unknown.Pairwise (· ≤ ·) ∧
      (t.keys.Nodup → unknown.Nodup) ∧
      (Fault.unknownSettings unknown).message =
        "Unknown registry config keys: " ++ ", ".intercalate unknown ∧
      ofForm processInterval (.value (.dict t)) = .error (.unknownSettings unknown) ∧
      ((Value.dict t).isPlain = true →
        ofForm processInterval (.tree (copy (.dict t))) = .error (.unknownSettings unknown)) ∧
      ∀ v, copy (.dict t) = .ok v →
        ofForm processInterval (.tree (copy (.dict t))) = .error (.unknownSettings unknown)) := by
  refine ⟨?_, ?_⟩
  · intro hknown hsinks
    have hvalue : ofValue processInterval (.dict t) = ofOptions processInterval t :=
      ofValue_eq_ofOptions hknown hsinks
    refine ⟨hvalue, fun hplain => ?_⟩
    rw [hcopy.plain t hplain]
    exact hvalue
  · intro hunknown
    refine ⟨fun _ => mem_inOrder_unknownNames, pairwise_inOrder _, ?_, rfl,
      ofValue_of_unknown hunknown, fun hplain => ?_, fun v hv => ?_⟩
    · intro hkeys
      exact (perm_inOrder _).nodup_iff.mpr (hkeys.filter _)
    · exact ofForm_tree_of_unknown hcopy hunknown (hcopy.plain t hplain)
    · exact ofForm_tree_of_unknown hcopy hunknown hv

/-- Of several intervals that are refused, all forms name the same one first. -/
def refused : Table Value :=
  [("report_interval_seconds", .int 0), ("sampling_interval_seconds", .int (-3)),
    ("sinks", .list [.dict [("type", .str "logging")]]), ("default_time_span_seconds", .int 0)]

/-- Two names that are not known, and sinks that are no list. -/
def misspelt : Table Value :=
  [("spoce", .str "demo"), ("sinks", .int 1), ("sink", .null)]

theorem forms_agree_of_refused :
    Copies .ok ∧
      ofForm 5 (.options (.dict refused)) = .error (.notPositive "sampling_interval_seconds") ∧
      ofForm 5 (.value (.dict refused)) = .error (.notPositive "sampling_interval_seconds") ∧
      ofForm 5 (.tree (.ok (.dict refused))) = .error (.notPositive "sampling_interval_seconds") ∧
      ofForm 5 (.value (.dict misspelt)) = .error (.unknownSettings ["sink", "spoce"]) ∧
      ofForm 5 (.tree (.ok (.dict misspelt))) = .error (.unknownSettings ["sink", "spoce"]) := by
  -- trees that hold nothing but plain data are copied as they are
  have hcopy : Copies .ok := by
    refine ⟨fun _ _ => rfl, ?_⟩
    rintro t _ ⟨⟩
    exact ⟨t, rfl, rfl⟩
  have hoptions : ofForm 5 (.options (.dict refused)) =
      .error (.notPositive "sampling_interval_seconds") := rfl
  have hsinks : ∀ v, Table.get? refused "sinks" = some v → ListsDictionaries v := by
    intro v hv
    cases hv
    exact ⟨[[(.str "type", .str "logging")]], rfl⟩
  have hordered : inOrder (unknownNames misspelt) = ["sink", "spoce"] := by
    refine ((perm_inOrder _).trans (.swap ..)).eq_of_pairwise (fun _ _ _ _ => le_antisymm)
      (pairwise_inOrder _) ?_
    decide
  obtain ⟨hknown, -⟩ := forms_agree hcopy 5 refused
  obtain ⟨hvalue, htree⟩ := hknown (by decide) hsinks
  obtain ⟨-, hunknown⟩ := forms_agree hcopy 5 misspelt
  obtain ⟨-, -, -, -, hvalue', htree', -⟩ := hunknown ⟨"spoce", by decide, by decide⟩
  rw [hordered] at hvalue' htree'
  exact ⟨hcopy, hoptions, hvalue.trans hoptions, (htree (by decide)).trans hoptions, hvalue',
    htree' (by decide)⟩

/-- A key that is no text is no name of a setting, and cannot be listed among those that are not known:
what fails is the list. -/
theorem unknown_of_number :
    let numbered := Value.assoc [(.int 1, .null)]
    numbered.isPlain = true ∧ isUnknown (.int 1) = true ∧
      ofForm 5 (.value numbered) = .error (.nameNotText 0 "int") ∧
      ofForm 5 (.tree (.ok numbered)) = .error (.nameNotText 0 "int") ∧
      ∀ unknown, ofForm 5 (.value numbered) ≠ .error (.unknownSettings unknown) := by
  intro numbered
  have hfault : unknownFault [.int 1] = .nameNotText 0 "int" := by
    rw [unknownFault, Sorting.sort_singleton]
    rfl
  have hvalue : ofForm 5 (.value numbered) = .error (.nameNotText 0 "int") := by
    show Except.error (unknownFault [.int 1]) = _
    rw [hfault]
  refine ⟨rfl, rfl, hvalue, hvalue, ?_⟩
  intro unknown
  rw [hvalue]
  nofun

end Settings

end Telemetry
