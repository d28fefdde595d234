import Telemetry.Proofs.Settings.Forms
import Telemetry.Reference.Settings

/-!
# Copies of trees with references

A dictionary of plain data has no references, so that its tree may be planted and is its own copy. In
the copy of any other dictionary the values may be others, but the keys are the same.

Main statement: `copies_copy` (trees with references are copied as settings need it).
-/

namespace Telemetry

namespace Reference

theorem isPlausible_of_not_refers {s : String} (h : Text.refers s.toList = false) :
    isPlausible s = true := by
  rw [isPlausible, pieces?, (scan_of_not_refers h 0 []).1]
  simp

mutual

/-- Plain data may stand in a tree. -/
theorem checkTexts_of_isPlain (v : Value) (h : v.isPlain = true) : checkTexts v = .ok () := by
  match v with
  | .str s =>
    have hs : Text.refers s.toList = false := by simpa [Value.isPlain] using h
    rw [checkTexts, if_pos (isPlausible_of_not_refers hs)]
  | .list items =>
    rw [Value.isPlain] at h
    rw [checkTexts, checkItems_of_arePlain items h]
  | .dict entries =>
    rw [Value.isPlain] at h
    rw [checkTexts, checkEntries_of_entriesPlain entries h]
  | .assoc entries =>
    rw [Value.isPlain] at h
    rw [checkTexts, if_pos h]
  | .subtree _ => cases h
  | .null | .bool _ | .int _ | .float _ | .bytes _ => rfl

theorem checkItems_of_arePlain (items : List Value) (h : Value.arePlain items = true) :
    checkItems items = .ok () := by
  match items with
  | [] => rfl
  | item :: rest =>
    rw [Value.arePlain, Bool.and_eq_true] at h
    rw [checkItems, checkTexts_of_isPlain item h.1, checkItems_of_arePlain rest h.2]
    rfl

theorem checkEntries_of_entriesPlain (entries : List (String × Value))
    (h : Value.entriesPlain entries = true) : checkEntries entries = .ok () := by
  match entries with
  | [] => rfl
  | (key, v) :: rest =>
    rw [Value.entriesPlain, Bool.and_eq_true] at h
    rw [checkEntries, checkTexts_of_isPlain v h.1, checkEntries_of_entriesPlain rest h.2]
    rfl

end

/-- **A dictionary without references is its own copy.** -/
theorem copy_of_isPlain {t : Table Value} (h : (Value.dict t).isPlain = true) :
    copy (.dict t) = .ok (.dict t) := by
  have hplant : plant (.dict t) = .ok (.dict t) := by
    show (checkTexts (.dict t) >>= fun _ => Except.ok (Value.dict t)) = _
    rw [checkTexts_of_isPlain _ h]
    rfl
  rw [copy, hplant]
  exact resolve_eq_self _ h

theorem keys_replaceEntries {target : Node → Except Fault Value} {path : List String}
    {entries done : Table Value} (h : replaceEntries target path entries = .ok done) :
    done.keys = entries.keys := by
  induction entries generalizing done with
  | nil =>
      rw [replaceEntries] at h
      cases h
      rfl
  | cons p rest ih =>
      obtain ⟨key, v⟩ := p
      rw [replaceEntries] at h
      obtain ⟨replaced, -, h⟩ := Fault.bind_eq_ok.mp h
      obtain ⟨below, hbelow, h⟩ := Fault.bind_eq_ok.mp h
      cases h
      exact congrArg (key :: ·) (ih hbelow)

/-- The copy of a dictionary has the same keys. -/
theorem exists_table_of_copy {t : Table Value} {v : Value} (h : copy (.dict t) = .ok v) :
    ∃ copied : Table Value, v = .dict copied ∧ copied.keys = t.keys := by
  obtain ⟨root, hroot, h⟩ := Fault.bind_eq_ok.mp h
  obtain ⟨-, -, hroot⟩ := Fault.bind_eq_ok.mp hroot
  cases hroot
  rw [resolve, resolveNode, replace] at h
  obtain ⟨copied, hcopied, h⟩ := Fault.bind_eq_ok.mp h
  cases h
  exact ⟨copied, rfl, keys_replaceEntries hcopied⟩

/-- **Trees with references are copied as settings need it.** -/
theorem copies_copy : Settings.Copies copy :=
  ⟨fun _ h => copy_of_isPlain h, fun _ _ h => exists_table_of_copy h⟩

end Reference

end Telemetry
