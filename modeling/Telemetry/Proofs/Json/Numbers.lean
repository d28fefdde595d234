import Telemetry.Proofs.Json.Reader
import Telemetry.Proofs.Number.Numeral

/-!
# Numbers are read back

An integer is written as a numeral without a fraction or an exponent, a double as one that has either
of them or under a name of its own. A numeral is read in its parts, so integers and doubles are told
apart, and each is the number that was written.

Main statements: `magnitude?_numeral` (numerals are read in their parts), `standsFor_ofInt` and
`standsFor_float`.
-/

namespace Telemetry.Json

open Decimal

/-! ## What follows a run of characters -/

/-- The next character, if there is one, does not pass the test. -/
def Stops (test : Char → Bool) (rest : List Char) : Prop := ∀ c ∈ rest.head?, test c = false

theorem stops_nil (test : Char → Bool) : Stops test [] := nofun

theorem stops_cons {test : Char → Bool} {c : Char} (h : test c = false) (rest : List Char) :
    Stops test (c :: rest) := by
  intro d hd
  rw [← Option.some.inj hd]
  exact h

theorem Stops.takeWhile {test : Char → Bool} {rest : List Char} (h : Stops test rest) :
    rest.takeWhile test = [] ∧ rest.dropWhile test = rest := by
  cases rest with
  | nil => exact ⟨rfl, rfl⟩
  | cons c rest =>
      have hc : test c = false := h c rfl
      simp [hc]

/-- A run of characters that pass a test ends where they do not. -/
theorem takeWhile_append {test : Char → Bool} {run rest : List Char} (hrun : ∀ c ∈ run, test c = true)
    (hrest : Stops test rest) :
    (run ++ rest).takeWhile test = run ∧ (run ++ rest).dropWhile test = rest := by
  rw [List.takeWhile_append_of_pos hrun, List.dropWhile_append_of_pos hrun, hrest.takeWhile.1,
    hrest.takeWhile.2, List.append_nil]
  exact ⟨rfl, rfl⟩

/-! ## Numerals -/

theorem digits?_append {ds rest : List Char} (hne : ds ≠ []) (hdigits : ∀ c ∈ ds, c.isDigit = true)
    (hrest : Stops Char.isDigit rest) : digits? (ds ++ rest) = some (ds, rest) := by
  obtain ⟨htake, hdrop⟩ := takeWhile_append hdigits hrest
  rw [digits?, htake, hdrop, if_neg hne]

theorem whole?_append {ds rest : List Char} (h : IsWhole ds) (hrest : Stops Char.isDigit rest) :
    whole? (ds ++ rest) = some (ds, rest) := by
  have hplain : ¬ (ds.head? = some '0' ∧ ds ≠ ['0']) := by
    rintro ⟨hhead, hne⟩
    exact hne (h.of_zero hhead)
  rw [whole?, digits?_append h.ne_nil h.isDigit hrest]
  simp only [Option.bind_eq_bind, Option.bind_some, if_neg hplain]
  rfl

theorem natural?_digits {ds : List Char} (hne : ds ≠ []) (hdigits : ∀ c ∈ ds, c.isDigit = true) :
    natural? ds = some (ofDigits ds) := by
  have hread := digits?_append hne hdigits (stops_nil _)
  rw [List.append_nil] at hread
  rw [natural?, hread]
  rfl

theorem natural?_padded (n : Nat) :
    natural? (if (digits n).length < 2 then '0' :: digits n else digits n) = some n := by
  have hdigits := (isWhole_digits n).isDigit
  split
  · rw [natural?_digits (List.cons_ne_nil _ _), ofDigits_zero_cons, ofDigits_digits]
    rw [List.forall_mem_cons]
    exact ⟨rfl, hdigits⟩
  · rw [natural?_digits (isWhole_digits n).ne_nil hdigits, ofDigits_digits]

/-- An exponent is read back. -/
theorem exponent?_exponentText (exponent : Int) :
    exponent? (exponentText exponent) = some exponent := by
  have hread := natural?_padded exponent.natAbs
  by_cases hneg : exponent < 0
  · have hsame : -(exponent.natAbs : Int) = exponent := by omega
    rw [exponentText, if_pos hneg, exponent?, hread, Option.map_some, hsame]
  · have hsame : (exponent.natAbs : Int) = exponent := by omega
    rw [exponentText, if_neg hneg, exponent?, hread, Option.map_some, hsame]

/-- What a numeral stands for under a sign. -/
def ofNumeral (negative : Bool) (n : Numeral) : Value :=
  if n.isWholeNumber then ofWhole negative n.whole else .float (nearest negative n.scaled)

theorem fraction?_pointed {fraction rest : List Char} (h : ∀ c ∈ fraction, c.isDigit = true)
    (hrest : Stops Char.isDigit rest) (hpoint : rest.head? ≠ some '.') :
    fraction? ((if fraction = [] then [] else '.' :: fraction) ++ rest) = some (fraction, rest) := by
  split
  · next hnone =>
    rw [List.nil_append, hnone, fraction?]
    rintro more rfl
    exact hpoint rfl
  · next hsome => exact digits?_append hsome h hrest

/-- The exponent of a numeral in writing. -/
def exponentPart : Option Int → List Char
  | none => []
  | some exponent => 'e' :: exponentText exponent

theorem stops_exponentPart (exponent : Option Int) :
    Stops Char.isDigit (exponentPart exponent) ∧ (exponentPart exponent).head? ≠ some '.' := by
  cases exponent with
  | none => exact ⟨stops_nil _, by decide⟩
  | some exponent => exact ⟨stops_cons (by decide) _, by simp [exponentPart]⟩

/-- **A numeral is read in its parts.** -/
theorem magnitude?_numeral (negative : Bool) {n : Numeral} (h : n.WellFormed) :
    magnitude? negative n.text = some (ofNumeral negative n) := by
  obtain ⟨ds, fraction, exponent⟩ := n
  obtain ⟨hwhole, hfraction⟩ := h
  have htext : Numeral.text ⟨ds, fraction, exponent⟩ =
      ds ++ ((if fraction = [] then [] else '.' :: fraction) ++ exponentPart exponent) := by
    rw [Numeral.text, List.append_assoc]
    cases exponent <;> rfl
  obtain ⟨hstops, hpoint⟩ := stops_exponentPart exponent
  have hbehind : Stops Char.isDigit
      ((if fraction = [] then [] else '.' :: fraction) ++ exponentPart exponent) := by
    split
    · exact hstops
    · exact stops_cons (by decide) _
  rw [htext, magnitude?, whole?_append hwhole hbehind]
  simp only [Option.bind_eq_bind, Option.bind_some]
  rw [fraction?_pointed hfraction hstops hpoint]
  simp only [Option.bind_some]
  cases exponent with
  | none =>
      by_cases hnone : fraction = []
      · simp [exponentPart, ofNumeral, Numeral.isWholeNumber, hnone]
      · simp [exponentPart, ofNumeral, Numeral.isWholeNumber, hnone, ofParts, Numeral.scaled]
  | some exponent =>
      simp [exponentPart, ofNumeral, Numeral.isWholeNumber, exponent?_exponentText, ofParts,
        Numeral.scaled]

/-- A numeral begins with a digit. -/
theorem exists_text_eq_cons {n : Numeral} (h : n.WellFormed) :
    ∃ d rest, n.text = d :: rest ∧ d.isDigit = true := by
  obtain ⟨d, rest, hwhole⟩ := List.exists_cons_of_ne_nil h.isWhole.ne_nil
  have hdigit : d.isDigit = true := h.isWhole.isDigit d (by rw [hwhole]; exact List.mem_cons_self ..)
  simp only [Numeral.text, hwhole, List.cons_append]
  exact ⟨d, _, rfl, hdigit⟩

theorem number?_signed (negative : Bool) {n : Numeral} (h : n.WellFormed) :
    number? (Binary64.signed negative n.text) = some (ofNumeral negative n) := by
  cases negative with
  | true => exact magnitude?_numeral true h
  | false =>
      obtain ⟨d, rest, htext, hdigit⟩ := exists_text_eq_cons h
      have hsign : d ≠ '-' := by
        rintro rfl
        exact absurd hdigit (by decide)
      rw [← magnitude?_numeral false h]
      simp [Binary64.signed, htext, number?, hsign]

/-! ## Tokens -/

theorem inToken_of_isDigit {c : Char} (h : c.isDigit = true) : inToken c = true := by
  simp [inToken, Char.isAlphanum, h]

theorem inToken_exponentText (exponent : Int) : ∀ c ∈ exponentText exponent, inToken c = true := by
  have hdigits : ∀ c ∈ digits exponent.natAbs, inToken c = true :=
    fun c hc => inToken_of_isDigit (digits_isDigit hc)
  rw [exponentText, List.forall_mem_cons]
  constructor
  · split <;> decide
  · split
    · exact List.forall_mem_cons.mpr ⟨by decide, hdigits⟩
    · exact hdigits

theorem inToken_numeral {n : Numeral} (h : n.WellFormed) : ∀ c ∈ n.text, inToken c = true := by
  rw [Numeral.text, List.forall_mem_append, List.forall_mem_append]
  refine ⟨⟨fun c hc => inToken_of_isDigit (h.isWhole.isDigit c hc), ?_⟩, ?_⟩
  · split
    · exact List.forall_mem_nil _
    · exact List.forall_mem_cons.mpr ⟨by decide, fun c hc => inToken_of_isDigit (h.isDigit c hc)⟩
  · split
    · exact List.forall_mem_nil _
    · exact List.forall_mem_cons.mpr ⟨by decide, inToken_exponentText _⟩

theorem inToken_signed (negative : Bool) {text : List Char} (h : ∀ c ∈ text, inToken c = true) :
    ∀ c ∈ Binary64.signed negative text, inToken c = true := by
  cases negative with
  | true => exact List.forall_mem_cons.mpr ⟨by decide, h⟩
  | false => exact h

/-- A token that stands for a value: a number or a word. -/
structure StandsFor (token : List Char) (v : Value) : Prop where
  ne_nil : token ≠ []
  inToken : ∀ c ∈ token, inToken c = true
  read : (number? token).or (word? token) = some v

/-- A token is read up to its end. -/
theorem StandsFor.scalar? {token rest : List Char} {v : Value} (h : StandsFor token v)
    (hrest : Stops Json.inToken rest) : Json.scalar? (token ++ rest) = some (v, rest) := by
  obtain ⟨htake, hdrop⟩ := takeWhile_append h.inToken hrest
  rw [Json.scalar?, htake, hdrop]
  simp only [h.read, Option.map_some]

theorem standsFor_numeral (negative : Bool) {n : Numeral} (h : n.WellFormed) :
    StandsFor (Binary64.signed negative n.text) (ofNumeral negative n) := by
  refine ⟨?_, inToken_signed negative (inToken_numeral h), ?_⟩
  · obtain ⟨d, rest, htext, -⟩ := exists_text_eq_cons h
    rw [htext]
    cases negative <;> exact List.cons_ne_nil _ _
  · rw [number?_signed negative h, Option.some_or]

/-- **An integer is read back.** -/
theorem standsFor_ofInt (i : Int) : StandsFor (ofInt i) (.int i) := by
  have hwell : Numeral.WellFormed ⟨digits i.natAbs, [], none⟩ := ⟨isWhole_digits _, nofun⟩
  have htext : ofInt i =
      Binary64.signed (decide (i < 0)) (Numeral.text ⟨digits i.natAbs, [], none⟩) := by
    simp [ofInt, Binary64.signed, Numeral.text]
  have hvalue : ofNumeral (decide (i < 0)) ⟨digits i.natAbs, [], none⟩ = .int i := by
    simp only [ofNumeral, Numeral.isWholeNumber, List.isEmpty_nil, Option.isNone_none, Bool.and_self,
      if_true, ofWhole, ofDigits_digits, decide_eq_true_eq, Value.int.injEq]
    split <;> omega
  rw [htext, ← hvalue]
  exact standsFor_numeral _ hwell

/-- A decimal is nearest to the double whose code it has. -/
theorem nearest_of_code (negative : Bool) {s : Binary64.Scaled} {code : Fin Binary64.codes}
    (h : s.code = code) : nearest negative s = .finite negative code := by
  rw [Binary64.Scaled.code] at h
  simp only [nearest, Binary64.ofGrains, Binary64.ofGrains?, h, code.isLt, dif_pos,
    Option.getD_some]

/-- **A double is read back**, and so are the values that are not finite. -/
theorem standsFor_float (x : Binary64) : StandsFor (float x) (.float x) := by
  cases x with
  | nan => exact ⟨by decide, List.all_eq_true.mp rfl, rfl⟩
  | infinite negative => cases negative <;> exact ⟨by decide, List.all_eq_true.mp rfl, rfl⟩
  | finite negative code =>
      obtain ⟨n, htext, hwell, hnot, hcode⟩ := exists_numeral_of_code code
      have hfloat : float (.finite negative code) = Binary64.signed negative n.text := by
        rw [htext]
        rfl
      have hvalue : ofNumeral negative n = .float (.finite negative code) := by
        rw [ofNumeral, hnot, nearest_of_code negative hcode]
        rfl
      rw [hfloat, ← hvalue]
      exact standsFor_numeral negative hwell

end Telemetry.Json
