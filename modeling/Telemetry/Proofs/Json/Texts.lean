import Telemetry.Proofs.Json.Reader

/-!
# Texts are read back

A text is written character by character, each as itself, with a letter behind a backslash, or as its
units in UTF-16. Whichever it is, its units are read, and the units of a character are one if it is
among the first `2 ^ 16` and a pair otherwise. No character has a number that opens or closes a pair,
so pairs are told from characters of their own.

Main statements: `units?_escaped`, `chars?_unitsOf` and `text?_string`.
-/

namespace Telemetry.Json

open Text

/-- The units of a character in UTF-16. -/
def unitsOf (c : Char) : List Nat :=
  if c.toNat < 0x10000 then [c.toNat]
  else [0xd800 + (c.toNat - 0x10000) / 0x400, 0xdc00 + (c.toNat - 0x10000) % 0x400]

/-- The number of a character is below those of pairs or above them. -/
theorem toNat_cases (c : Char) : c.toNat < 0xd800 ∨ 0xdfff < c.toNat ∧ c.toNat < 0x110000 := c.valid

/-! ## Units -/

/-- Units in front of what was read. -/
def putUnits (units : List Nat) (r : List Nat × List Char) : List Nat × List Char :=
  units.foldr putUnit r

theorem toLower_hexDigit {d : Nat} (h : d < 16) : (hexDigit d).toLower = hexDigit d :=
  (by decide : ∀ d < 16, (hexDigit d).toLower = hexDigit d) d h

theorem map_toLower_hex (width n : Nat) : (hex width n).map Char.toLower = hex width n := by
  induction width generalizing n with
  | zero => rfl
  | succ width ih =>
      rw [hex, List.map_append, ih, List.map_singleton,
        toLower_hexDigit (Nat.mod_lt n (by decide))]

theorem backslash_ne_doubleQuote : backslash ≠ doubleQuote := by decide

theorem units?_doubleQuote (rest : List Char) : units? (doubleQuote :: rest) = some ([], rest) := by
  rw [units?.eq_def]
  exact if_pos rfl

/-- The escape of a unit is read back. -/
theorem units?_unit {n : Nat} (h : n < 0x10000) (rest : List Char) :
    units? (unit n ++ rest) = (units? rest).map (putUnits [n]) := by
  have hread : ofHex? ((hex 4 n).map Char.toLower) = some n := by
    rw [map_toLower_hex]
    exact ofHex?_hex h
  match hfour : hex 4 n, length_hex 4 n with
  | [h3, h2, h1, h0], _ =>
      rw [hfour] at hread
      rw [unit, hfour, List.cons_append, units?.eq_def]
      simp only [List.cons_append, List.nil_append, if_neg backslash_ne_doubleQuote, if_pos, hread,
        Option.bind_eq_bind, Option.bind_some]
      rfl

theorem letter?_of_shortEscape? {c letter : Char} (h : shortEscape? c = some letter) :
    letter? letter = some c.toNat ∧ letter ≠ 'u' ∧ c.toNat < 0x10000 := by
  unfold shortEscape? at h
  split at h
  · next hquote =>
    -- the two characters that are escaped by themselves
    obtain rfl := Option.some.inj h
    rcases hquote with rfl | rfl <;> decide
  · -- the letters
    repeat
      split at h
      · next hc =>
        cases h
        first
          | subst hc; decide
          | rw [hc]; decide
    cases h

theorem units?_letter {c letter : Char} (h : shortEscape? c = some letter) (rest : List Char) :
    units? (backslash :: letter :: rest) = (units? rest).map (putUnits [c.toNat]) := by
  obtain ⟨hletter, hu, -⟩ := letter?_of_shortEscape? h
  rw [units?.eq_3 _ _ _ fun _ _ _ _ _ heq _ => hu heq, if_neg backslash_ne_doubleQuote, if_pos rfl,
    hletter]
  rfl

theorem units?_plain {c : Char} (h : shortEscape? c = none) (hc : 0x20 ≤ c.toNat)
    (rest : List Char) : units? (c :: rest) = (units? rest).map (putUnits [c.toNat]) := by
  have hspecial : ¬ (c = doubleQuote ∨ c = backslash) := by
    intro hspecial
    rw [shortEscape?, if_pos hspecial] at h
    cases h
  obtain ⟨hquote, hbackslash⟩ := not_or.mp hspecial
  rw [units?.eq_def]
  simp only [if_neg hquote, if_neg hbackslash, if_neg (Nat.not_lt.mpr hc)]
  rfl

theorem putUnits_mk (units more : List Nat) (rest : List Char) :
    putUnits units (more, rest) = (units ++ more, rest) := by
  induction units with
  | nil => rfl
  | cons n units ih =>
      rw [putUnits, List.foldr_cons, ← putUnits, ih]
      rfl

theorem map_putUnits (r : Option (List Nat × List Char)) (units more : List Nat) :
    (r.map (putUnits more)).map (putUnits units) = r.map (putUnits (units ++ more)) := by
  rw [Option.map_map]
  refine Option.map_congr fun p _ => ?_
  rw [Function.comp_apply, putUnits, putUnits, putUnits, List.foldr_append]

theorem units?_unitEscape (c : Char) (rest : List Char) :
    units? (unitEscape c.toNat ++ rest) = (units? rest).map (putUnits (unitsOf c)) := by
  have hbound := toNat_cases c
  rw [unitEscape, unitsOf]
  split
  · next hsmall => exact units?_unit hsmall rest
  · rw [List.append_assoc, units?_unit (by omega), units?_unit (by omega), map_putUnits]
    rfl

/-- A character that is written in one part is one unit. -/
theorem unitsOf_of_lt {c : Char} (h : c.toNat < 0x10000) : unitsOf c = [c.toNat] := if_pos h

/-- **The units of a character are read**, however it is written. -/
theorem units?_escaped (c : Char) (rest : List Char) :
    units? (escaped c ++ rest) = (units? rest).map (putUnits (unitsOf c)) := by
  rw [escaped]
  split
  · next letter hletter =>
    rw [unitsOf_of_lt (letter?_of_shortEscape? hletter).2.2]
    exact units?_letter hletter rest
  · next hnone =>
    split
    · next hplain =>
      rw [unitsOf_of_lt (by omega)]
      exact units?_plain hnone hplain.1 rest
    · exact units?_unitEscape c rest

theorem units?_flatMap (cs rest : List Char) :
    units? (cs.flatMap escaped ++ doubleQuote :: rest) = some (cs.flatMap unitsOf, rest) := by
  induction cs with
  | nil => exact units?_doubleQuote rest
  | cons c cs ih =>
      rw [List.flatMap_cons, List.flatMap_cons, List.append_assoc, units?_escaped, ih,
        Option.map_some, putUnits_mk]

/-! ## Characters -/

theorem char?_toNat (c : Char) : char? c.toNat = some c := by
  have hvalid : c.toNat.isValidChar := c.valid
  rw [char?, if_pos hvalid, Char.ofNat_toNat]

/-- **The units of a character are the character.** -/
theorem chars?_unitsOf (c : Char) (more : List Nat) :
    chars? (unitsOf c ++ more) = (chars? more).map (c :: ·) := by
  have hbound := toNat_cases c
  rw [unitsOf]
  split
  · have hsingle : opensPair c.toNat = false := by
      simp only [opensPair, Bool.and_eq_false_iff, decide_eq_false_iff_not]
      omega
    rw [List.singleton_append, chars?.eq_def]
    simp only [hsingle, char?_toNat]
    cases chars? more <;> rfl
  · next hlarge =>
    have hparts := Nat.div_add_mod (c.toNat - 0x10000) 0x400
    have hlow := Nat.mod_lt (c.toNat - 0x10000) (by decide : 0 < 0x400)
    generalize (c.toNat - 0x10000) / 0x400 = high at hparts ⊢
    generalize (c.toNat - 0x10000) % 0x400 = low at hparts hlow ⊢
    have hopens : opensPair (0xd800 + high) = true := by
      simp only [opensPair, Bool.and_eq_true, decide_eq_true_eq]
      omega
    have hcloses : closesPair (0xdc00 + low) = true := by
      simp only [closesPair, Bool.and_eq_true, decide_eq_true_eq]
      omega
    have hpair : ofPair (0xd800 + high) (0xdc00 + low) = c.toNat := by
      unfold ofPair
      omega
    rw [List.cons_append, List.singleton_append, chars?.eq_def]
    simp only [hopens, hcloses, hpair, char?_toNat, if_true]
    cases chars? more <;> rfl

theorem chars?_flatMap (cs : List Char) : chars? (cs.flatMap unitsOf) = some cs := by
  induction cs with
  | nil => rfl
  | cons c cs ih => rw [List.flatMap_cons, chars?_unitsOf, ih, Option.map_some]

/-- **A text is read back.** -/
theorem text?_string (s : String) (rest : List Char) :
    text? (s.toList.flatMap escaped ++ doubleQuote :: rest) = some (s, rest) := by
  rw [text?, units?_flatMap]
  simp only [Option.bind_eq_bind, Option.bind_some, chars?_flatMap, String.ofList_toList]
  rfl

end Telemetry.Json
