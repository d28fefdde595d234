import Mathlib.Data.List.TakeWhile
import Telemetry.Number.FloatText

/-!
# Numerals

A numeral is what a number looks like in decimal: digits without a zero in front of them, then
perhaps a point with digits behind it, then perhaps an exponent. Integers and doubles are written as
numerals, and so each of them is told by three parts. The decimal that the parts stand for need not
be the one that was laid out: zeros may have come off its end or filled it up to the point. But the
two are the same number, and so the same double is nearest to both.

Main statements: `code_shift` (a zero more at the end is the same number), `exists_numeral` (a
decimal that is laid out is a numeral of the same number) and `exists_numeral_of_code`.
-/

namespace Telemetry

namespace Decimal

/-! ## Digits -/

/-- Digits of a whole number: one at least, and no zero in front of others. -/
structure IsWhole (ds : List Char) : Prop where
  ne_nil : ds ≠ []
  isDigit : ∀ c ∈ ds, c.isDigit = true
  of_zero : ds.head? = some '0' → ds = ['0']

theorem digitsOnto_ne_nil (n : Nat) (rest : List Char) : digitsOnto n rest ≠ [] := by
  fun_induction digitsOnto n rest with
  | case1 => exact List.cons_ne_nil _ _
  | case2 _ _ _ ih => exact ih

theorem digitChar_ne_zero {d : Nat} (hpos : 0 < d) (h : d < 10) : digitChar d ≠ '0' :=
  (by decide : ∀ d < 10, 0 < d → digitChar d ≠ '0') d h hpos

theorem head?_digitsOnto {n : Nat} (hpos : 0 < n) (rest : List Char) :
    (digitsOnto n rest).head? ≠ some '0' := by
  fun_induction digitsOnto n rest with
  | case1 n rest h =>
      intro hhead
      exact digitChar_ne_zero hpos h (Option.some.inj hhead)
  | case2 n rest h ih => exact ih (by omega)

/-- No zero stands in front of the digits of a number. -/
theorem isWhole_digits (n : Nat) : IsWhole (digits n) := by
  refine ⟨digitsOnto_ne_nil n [], fun c => digits_isDigit, ?_⟩
  intro h
  have hzero : n = 0 := by
    by_contra hne
    exact head?_digitsOnto (Nat.pos_of_ne_zero hne) [] h
  rw [hzero, digits, digitsOnto, if_pos (by decide)]
  rfl

theorem ofDigitsFrom_append (high : Nat) (ds es : List Char) :
    ofDigitsFrom high (ds ++ es) = ofDigitsFrom (ofDigitsFrom high ds) es := by
  rw [ofDigitsFrom, List.foldl_append]
  rfl

/-- A zero in front counts for nothing. -/
theorem ofDigits_zero_cons (ds : List Char) : ofDigits ('0' :: ds) = ofDigits ds := rfl

theorem ofDigits_zeros_append (k : Nat) (ds : List Char) :
    ofDigits (List.replicate k '0' ++ ds) = ofDigits ds := by
  induction k with
  | zero => rfl
  | succ k ih => rw [List.replicate_succ, List.cons_append, ofDigits_zero_cons, ih]

/-- A zero at the end counts for a factor of ten. -/
theorem ofDigits_append_zeros (ds : List Char) (k : Nat) :
    ofDigits (ds ++ List.replicate k '0') = ofDigits ds * power 10 k := by
  induction k with
  | zero => rw [List.replicate_zero, List.append_nil, power_zero, Nat.mul_one]
  | succ k ih =>
      rw [List.replicate_succ', ← List.append_assoc, power_succ, ← Nat.mul_assoc, ← ih, ofDigits,
        ofDigitsFrom_append]
      rfl

/-! ### Zeros at the end -/

theorem trimZeros_ne_nil {ds : List Char} (h : ds ≠ []) : trimZeros ds ≠ [] := by
  rw [trimZeros]
  split
  · cases ds with
    | nil => exact absurd rfl h
    | cons d rest => exact List.cons_ne_nil _ _
  · next hkept => exact fun heq => hkept heq

/-- Only zeros are taken off the end. -/
theorem exists_trimZeros_append (ds : List Char) :
    ∃ k, ds = trimZeros ds ++ List.replicate k '0' := by
  have hzeros : ∀ {cs : List Char}, (∀ c ∈ cs, c = '0') → ∃ k, cs = List.replicate k '0' :=
    fun h => ⟨_, List.eq_replicate_of_mem h⟩
  have hreverse : ds = (ds.reverse.dropWhile (· == '0')).reverse ++
      (ds.reverse.takeWhile (· == '0')).reverse := by
    rw [← List.reverse_append, List.takeWhile_append_dropWhile, List.reverse_reverse]
  have htaken : ∀ c ∈ (ds.reverse.takeWhile (· == '0')).reverse, c = '0' := by
    intro c hc
    simpa using List.mem_takeWhile_imp (List.mem_reverse.mp hc)
  rw [trimZeros]
  split
  · next hnone =>
    -- all digits are zeros, and the first one is kept
    rw [hnone, List.nil_append] at hreverse
    rw [← hreverse] at htaken
    obtain ⟨k, hk⟩ := hzeros fun c hc => htaken c (List.mem_of_mem_drop hc)
    exact ⟨k, by rw [← hk, List.take_append_drop]⟩
  · obtain ⟨k, hk⟩ := hzeros htaken
    exact ⟨k, by rw [← hk]; exact hreverse⟩

theorem isWhole_trimZeros {ds : List Char} (h : IsWhole ds) : IsWhole (trimZeros ds) := by
  obtain ⟨k, hk⟩ := exists_trimZeros_append ds
  have hne := trimZeros_ne_nil h.ne_nil
  refine ⟨hne, ?_, ?_⟩
  · intro c hc
    refine h.isDigit c ?_
    rw [hk]
    exact List.mem_append_left _ hc
  · intro hhead
    have hsingle : ds = ['0'] := h.of_zero (by rw [hk, List.head?_append, hhead]; rfl)
    rw [hsingle]
    rfl

end Decimal

/-! ## Decimals that are the same number -/

namespace Binary64

open Decimal

/-- A zero more at the end, and one place more: the number is the same. -/
theorem code_shift (coefficient k : Nat) (places : Int) :
    (Scaled.mk (coefficient * power 10 k) (places + k)).code =
      (Scaled.mk coefficient places).code := by
  simp only [Scaled.code, scale, Nat.one_mul]
  refine nearestCode_eq_of_cross (power_pos (by decide) _) (power_pos (by decide) _) ?_
  -- on both sides the powers of ten come to the same exponent
  have hexponent : k + (-(places + k)).toNat + (- -places).toNat =
      (- -(places + k)).toNat + (-places).toNat := by omega
  have hpower := congrArg (power 10) hexponent
  rw [power_add, power_add, power_add] at hpower
  generalize grain = g at *
  calc coefficient * power 10 k * g * power 10 (-(places + k)).toNat * power 10 (- -places).toNat
      = coefficient * g *
          (power 10 k * power 10 (-(places + k)).toNat * power 10 (- -places).toNat) := by ac_rfl
    _ = coefficient * g * (power 10 (- -(places + k)).toNat * power 10 (-places).toNat) := by
        rw [hpower]
    _ = coefficient * g * power 10 (-places).toNat * power 10 (- -(places + k)).toNat := by ac_rfl

theorem code_zero (places : Int) : (Scaled.mk 0 places).code = 0 := by
  simp only [Scaled.code, scale, Nat.zero_mul, Nat.one_mul]
  have hcross : 0 * 1 = 0 * power 10 (- -places).toNat := by rw [Nat.zero_mul, Nat.zero_mul]
  rw [nearestCode_eq_of_cross (power_pos (by decide) _) Nat.one_pos hcross]
  exact nearestCode_grains 0

end Binary64

namespace Decimal

open Binary64

/-! ## Numerals -/

/-- Digits, perhaps a point with digits behind it, and perhaps an exponent. -/
structure Numeral where
  whole : List Char
  fraction : List Char
  exponent : Option Int

namespace Numeral

def text (n : Numeral) : List Char :=
  n.whole ++ (if n.fraction = [] then [] else '.' :: n.fraction) ++
    match n.exponent with
    | none => []
    | some exponent => 'e' :: exponentText exponent

/-- The number that a numeral is, as a decimal. -/
def scaled (n : Numeral) : Scaled :=
  ⟨ofDigits (n.whole ++ n.fraction), n.fraction.length - n.exponent.getD 0⟩

/-- The parts of a numeral are in order. -/
structure WellFormed (n : Numeral) : Prop where
  isWhole : IsWhole n.whole
  isDigit : ∀ c ∈ n.fraction, c.isDigit = true

/-- Whether a numeral has no more than its whole part. -/
def isWholeNumber (n : Numeral) : Bool := n.fraction.isEmpty && n.exponent.isNone

end Numeral

/-- The number whose digits are laid out. -/
def Scientific.scaled (s : Scientific) : Scaled :=
  ⟨ofDigits s.digits, s.digits.length - 1 - s.exponent⟩

/-- A numeral that a decimal is laid out as. -/
structure Numeral.Shows (n : Numeral) (s : Scientific) (text : List Char) : Prop where
  text_eq : n.text = text
  wellFormed : n.WellFormed
  not_whole : n.isWholeNumber = false
  code_eq : n.scaled.code = s.scaled.code

theorem exists_shows_exponential {s : Scientific} (h : IsWhole s.digits) :
    ∃ n : Numeral, n.Shows s (exponential s) := by
  obtain ⟨digits, exponent⟩ := s
  match digits, h with
  | d :: rest, h =>
      have hfirst : IsWhole [d] := by
        refine ⟨List.cons_ne_nil _ _, ?_, ?_⟩
        · intro c hc
          exact h.isDigit c (List.mem_cons.mpr (.inl (List.mem_singleton.mp hc)))
        · intro hd
          rw [Option.some.inj hd]
      refine ⟨⟨[d], rest, some exponent⟩, ?_, ⟨hfirst, ?_⟩, ?_, ?_⟩
      · cases rest <;> simp [Numeral.text, exponential]
      · intro c hc
        exact h.isDigit c (List.mem_cons_of_mem _ hc)
      · simp [Numeral.isWholeNumber]
      · simp [Numeral.scaled, Scientific.scaled]
  | [], h => exact absurd rfl h.ne_nil

/-- A decimal below one, positionally. -/
theorem exists_shows_below {layout : Layout} {s : Scientific} (h : IsWhole s.digits)
    (hbelow : s.exponent < 0) : ∃ n : Numeral, n.Shows s (positional layout s) := by
  have hzero : IsWhole ['0'] := ⟨by decide, List.all_eq_true.mp rfl, by decide⟩
  refine ⟨⟨['0'], List.replicate (-s.exponent - 1).toNat '0' ++ s.digits, none⟩, ?_, ⟨hzero, ?_⟩, ?_,
    ?_⟩
  · simp [Numeral.text, positional, hbelow, h.ne_nil]
  · intro c hc
    rcases List.mem_append.mp hc with hc | hc
    · rw [List.eq_of_mem_replicate hc]
      rfl
    · exact h.isDigit c hc
  · simp [Numeral.isWholeNumber, h.ne_nil]
  · have hplaces : ((-s.exponent - 1).toNat + s.digits.length : Nat) - (0 : Int) =
        s.digits.length - 1 - s.exponent := by omega
    simp only [Numeral.scaled, Scientific.scaled, List.cons_append, List.nil_append,
      ofDigits_zero_cons, ofDigits_zeros_append, List.length_append, List.length_replicate,
      Option.getD_none, hplaces]

/-- Zeros behind digits make no zero stand in front, but for zeros alone. -/
theorem isWhole_append_zeros {ds : List Char} (h : IsWhole ds) {k : Nat}
    (hzero : ds = ['0'] → k = 0) : IsWhole (ds ++ List.replicate k '0') := by
  refine ⟨List.append_ne_nil_of_left_ne_nil h.ne_nil _, ?_, ?_⟩
  · intro c hc
    rcases List.mem_append.mp hc with hc | hc
    · exact h.isDigit c hc
    · rw [List.eq_of_mem_replicate hc]
      rfl
  · intro hhead
    obtain ⟨d, rest, hd⟩ := List.exists_cons_of_ne_nil h.ne_nil
    rw [hd, List.cons_append, List.head?_cons, ← List.head?_cons, ← hd] at hhead
    have hsingle := h.of_zero hhead
    rw [hzero hsingle, List.replicate_zero, List.append_nil, hsingle]

/-- The first of several digits. -/
theorem isWhole_take {ds : List Char} (h : IsWhole ds) {n : Nat} (hlong : n + 1 < ds.length) :
    IsWhole (ds.take (n + 1)) := by
  refine ⟨?_, fun c hc => h.isDigit c (List.mem_of_mem_take hc), ?_⟩
  · simp [h.ne_nil]
  · intro hhead
    rw [List.head?_take, if_neg (Nat.succ_ne_zero _)] at hhead
    rw [h.of_zero hhead] at hlong
    exact absurd hlong (by simp)

/-- A decimal whose digits do not reach beyond the point: zeros fill up to it, and one more stands
behind it. -/
theorem exists_shows_filled {layout : Layout} (hkeeps : layout.keepsPoint = true) {s : Scientific}
    (h : IsWhole s.digits) (hzero : s.digits = ['0'] → s.exponent ≤ 0)
    (habove : ¬ s.exponent < 0) (hfill : s.digits.length ≤ s.exponent.toNat + 1) :
    ∃ n : Numeral, n.Shows s (positional layout s) := by
  obtain ⟨k, hk⟩ := Nat.exists_eq_add_of_le hfill
  have hwhole : IsWhole (s.digits ++ List.replicate k '0') := by
    refine isWhole_append_zeros h fun hsingle => ?_
    have hone := hzero hsingle
    rw [hsingle, List.length_singleton] at hk
    omega
  refine ⟨⟨s.digits ++ List.replicate k '0', ['0'], none⟩, ?_, ⟨hwhole, ?_⟩, rfl, ?_⟩
  · simp [Numeral.text, positional, habove, hkeeps, hk]
  · intro c hc
    rw [List.mem_singleton.mp hc]
    rfl
  · have hplaces : ((1 : Nat) : Int) - 0 =
        s.digits.length - 1 - s.exponent + (k + 1 : Nat) := by omega
    have hdigits : s.digits ++ List.replicate k '0' ++ ['0'] =
        s.digits ++ List.replicate (k + 1) '0' := by
      rw [List.append_assoc, ← List.replicate_succ']
    rw [Numeral.scaled, Option.getD_none, hdigits, ofDigits_append_zeros, List.length_singleton,
      hplaces, code_shift]
    rfl

/-- A decimal whose digits stand on both sides of the point. -/
theorem exists_shows_split {layout : Layout} {s : Scientific} (h : IsWhole s.digits)
    (habove : ¬ s.exponent < 0) (hlong : s.exponent.toNat + 1 < s.digits.length) :
    ∃ n : Numeral, n.Shows s (positional layout s) := by
  have hfraction : s.digits.drop (s.exponent.toNat + 1) ≠ [] := by
    simpa using hlong
  refine ⟨⟨s.digits.take (s.exponent.toNat + 1), s.digits.drop (s.exponent.toNat + 1), none⟩, ?_,
    ⟨isWhole_take h hlong, fun c hc => h.isDigit c (List.mem_of_mem_drop hc)⟩, ?_, ?_⟩
  · simp [Numeral.text, positional, habove, Nat.not_le.mpr hlong, hfraction]
  · simp [Numeral.isWholeNumber, hfraction]
  · have hplaces : ((s.digits.length - (s.exponent.toNat + 1) : Nat) : Int) - 0 =
        s.digits.length - 1 - s.exponent := by omega
    simp only [Numeral.scaled, Scientific.scaled, List.take_append_drop, List.length_drop,
      Option.getD_none, hplaces]

/-- A decimal of one or more, positionally. -/
theorem exists_shows_above {layout : Layout} (hkeeps : layout.keepsPoint = true) {s : Scientific}
    (h : IsWhole s.digits) (hzero : s.digits = ['0'] → s.exponent ≤ 0)
    (habove : ¬ s.exponent < 0) : ∃ n : Numeral, n.Shows s (positional layout s) := by
  by_cases hfill : s.digits.length ≤ s.exponent.toNat + 1
  · exact exists_shows_filled hkeeps h hzero habove hfill
  · exact exists_shows_split h habove (Nat.lt_of_not_le hfill)

/-- **A decimal that is laid out is a numeral of the same number**, and one with a fraction or an
exponent if whole numbers keep their point. -/
theorem exists_numeral {layout : Layout} (hkeeps : layout.keepsPoint = true) {s : Scientific}
    (h : IsWhole s.digits) (hzero : s.digits = ['0'] → s.exponent ≤ 0) :
    ∃ n : Numeral, n.Shows s (layout.write s) := by
  rw [Layout.write]
  split
  · by_cases hbelow : s.exponent < 0
    · exact exists_shows_below h hbelow
    · exact exists_shows_above hkeeps h hzero hbelow
  · exact exists_shows_exponential h

/-! ## Shortest texts -/

theorem code_scaled_ofScaled (coefficient : Nat) (places : Int) :
    (Scientific.ofScaled coefficient places).scaled.code = (Scaled.mk coefficient places).code := by
  obtain ⟨k, hk⟩ := exists_trimZeros_append (digits coefficient)
  have hvalue := ofDigits_append_zeros (trimZeros (digits coefficient)) k
  rw [← hk, ofDigits_digits] at hvalue
  have hlength := congrArg List.length hk
  rw [List.length_append, List.length_replicate] at hlength
  have hplaces : places = (trimZeros (digits coefficient)).length - 1 -
      ((digits coefficient).length - 1 - places) + k := by omega
  calc (Scientific.ofScaled coefficient places).scaled.code
      = (Scaled.mk (ofDigits (trimZeros (digits coefficient)) * power 10 k)
          ((trimZeros (digits coefficient)).length - 1 -
            ((digits coefficient).length - 1 - places) + k)).code := (code_shift _ _ _).symm
    _ = (Scaled.mk coefficient places).code := by rw [← hvalue, ← hplaces]

/-- The shortest text lays out a decimal to which the magnitude is nearest, and zero has no places. -/
theorem exists_scaled_of_code (code : Nat) :
    ∃ coefficient places, shortestMagnitude code =
        shortestLayout.write (Scientific.ofScaled coefficient places) ∧
      (Scaled.mk coefficient places).code = code ∧ (coefficient = 0 → places = 0) := by
  by_cases hcode : code = 0
  · refine ⟨0, 0, ?_, ?_, fun _ => rfl⟩
    · rw [shortestMagnitude, if_pos hcode]
    · rw [hcode, code_zero]
  · have hreads := code_shortestScaled code
    cases hs : shortestScaled code with
    | mk coefficient places =>
        rw [hs] at hreads
        refine ⟨coefficient, places, ?_, hreads, ?_⟩
        · rw [shortestMagnitude, if_neg hcode, hs]
        · intro hzero
          rw [hzero, code_zero] at hreads
          exact absurd hreads.symm hcode

/-- Only zero has the digit zero alone. -/
theorem digits_eq_of_trimZeros {coefficient : Nat} (h : trimZeros (digits coefficient) = ['0']) :
    coefficient = 0 ∧ digits coefficient = ['0'] := by
  obtain ⟨k, hk⟩ := exists_trimZeros_append (digits coefficient)
  have hsame : digits coefficient = ['0'] := by
    refine (isWhole_digits coefficient).of_zero ?_
    rw [hk, h]
    rfl
  refine ⟨?_, hsame⟩
  rw [← ofDigits_digits coefficient, hsame]
  rfl

/-- **The shortest text of a magnitude is a numeral of the magnitude**, and not that of a whole
number. -/
theorem exists_numeral_of_code (code : Nat) :
    ∃ n : Numeral, n.text = shortestMagnitude code ∧ n.WellFormed ∧ n.isWholeNumber = false ∧
      n.scaled.code = code := by
  obtain ⟨coefficient, places, hmagnitude, hcode, hzero⟩ := exists_scaled_of_code code
  have hdigits : IsWhole (Scientific.ofScaled coefficient places).digits :=
    isWhole_trimZeros (isWhole_digits coefficient)
  have hexponent : (Scientific.ofScaled coefficient places).digits = ['0'] →
      (Scientific.ofScaled coefficient places).exponent ≤ 0 := by
    intro hsingle
    obtain ⟨hnone, hsame⟩ := digits_eq_of_trimZeros hsingle
    simp [Scientific.ofScaled, hsame, hzero hnone]
  have hkeeps : shortestLayout.keepsPoint = true := rfl
  obtain ⟨n, hn⟩ := exists_numeral hkeeps hdigits hexponent
  refine ⟨n, ?_, hn.wellFormed, hn.not_whole, ?_⟩
  · rw [hn.text_eq, hmagnitude]
  · rw [hn.code_eq, code_scaled_ofScaled, hcode]

end Decimal

end Telemetry
