import Telemetry.Number.Power
import Telemetry.Number.Rounding

/-!
# Decimal digits

Natural numbers in base ten, quotients rounded to a number of significant digits or of places, and
the layout of a decimal as text: positional, or with an exponent.

Main statements: `ofDigits_digits` (the digits of a number are read back) and `digits_isDigit`.
-/

namespace Telemetry.Decimal

/-! ### Digits of natural numbers -/

/-- The character of a digit below ten. -/
def digitChar (d : Nat) : Char := Char.ofNat (0x30 + d)

def digitValue (c : Char) : Nat := c.toNat - 0x30

/-- The digits of a natural number, most significant first, in front of `rest`. -/
def digitsOnto (n : Nat) (rest : List Char) : List Char :=
  if n < 10 then digitChar n :: rest else digitsOnto (n / 10) (digitChar (n % 10) :: rest)

/-- The digits of a natural number, most significant first. -/
def digits (n : Nat) : List Char := digitsOnto n []

/-- The number with the given digits, read from the left on top of `high`. -/
def ofDigitsFrom (high : Nat) (ds : List Char) : Nat :=
  ds.foldl (fun n c => n * 10 + digitValue c) high

def ofDigits (ds : List Char) : Nat := ofDigitsFrom 0 ds

def digitCount (n : Nat) : Nat := (digits n).length

theorem digitValue_digitChar {d : Nat} (h : d < 10) : digitValue (digitChar d) = d :=
  (by decide : ∀ d < 10, digitValue (digitChar d) = d) d h

theorem digitChar_isDigit {d : Nat} (h : d < 10) : (digitChar d).isDigit = true :=
  (by decide : ∀ d < 10, (digitChar d).isDigit = true) d h

theorem ofDigitsFrom_cons (high : Nat) (c : Char) (ds : List Char) :
    ofDigitsFrom high (c :: ds) = ofDigitsFrom (high * 10 + digitValue c) ds := by
  simp only [ofDigitsFrom, List.foldl_cons]

theorem ofDigits_digitsOnto (n : Nat) (rest : List Char) :
    ofDigits (digitsOnto n rest) = ofDigitsFrom n rest := by
  fun_induction digitsOnto n rest with
  | case1 n rest h => simp [ofDigits, ofDigitsFrom_cons, digitValue_digitChar h]
  | case2 n rest h ih =>
    rw [ih, ofDigitsFrom_cons, digitValue_digitChar (Nat.mod_lt _ (by decide)),
      Nat.mul_comm, Nat.div_add_mod]

/-- A number is read back from its digits. -/
theorem ofDigits_digits (n : Nat) : ofDigits (digits n) = n := ofDigits_digitsOnto n []

/-- All digits are digits. -/
theorem digits_isDigit {n : Nat} {c : Char} (h : c ∈ digits n) : c.isDigit = true := by
  suffices H : ∀ n rest, (∀ c ∈ rest, c.isDigit = true) →
      ∀ c ∈ digitsOnto n rest, c.isDigit = true from
    H n [] (by simp) c h
  intro n rest
  fun_induction digitsOnto n rest with
  | case1 n rest h =>
    intro hr c hc
    rcases List.mem_cons.1 hc with rfl | hc
    · exact digitChar_isDigit h
    · exact hr c hc
  | case2 n rest h ih =>
    intro hr
    refine ih fun c hc => ?_
    rcases List.mem_cons.1 hc with rfl | hc
    · exact digitChar_isDigit (Nat.mod_lt _ (by decide))
    · exact hr c hc

def ofInt (i : Int) : List Char :=
  if i < 0 then '-' :: digits i.natAbs else digits i.natAbs

/-! ### Quotients to a number of digits -/

/-- The quotient `num / den` times `10 ^ places`, as a quotient. -/
def scale (num den : Nat) (places : Int) : Nat × Nat :=
  (num * power 10 places.toNat, den * power 10 (-places).toNat)

/-- The exponent of the leading digit of `num / den`, which is positive. Below one, it is the
number of digits that a whole number needs to be less than the inverse. -/
def leadingExponent (num den : Nat) : Int :=
  if den ≤ num then (digitCount (num / den) : Int) - 1
  else -(digitCount ((den + num - 1) / num - 1) : Int)

/-- Digits with the exponent of the first one. -/
structure Scientific where
  /-- The digits, the first of which is not zero unless it is the only one. -/
  digits : List Char
  /-- The power of ten of the first digit. -/
  exponent : Int

/-- Take the zeros off the end, but keep the first digit. -/
def trimZeros (ds : List Char) : List Char :=
  match (ds.reverse.dropWhile (· == '0')).reverse with
  | [] => ds.take 1
  | kept => kept

/-- The decimal `coefficient / 10 ^ places` without zeros at its end. -/
def Scientific.ofScaled (coefficient : Nat) (places : Int) : Scientific :=
  let ds := Decimal.digits coefficient
  ⟨trimZeros ds, (ds.length : Int) - 1 - places⟩

/-- The positive quotient `num / den` rounded to `count` significant digits, a half going to the
even digit. -/
def Scientific.rounded (count : Nat) (num den : Nat) : Scientific :=
  let places := (count : Int) - 1 - leadingExponent num den
  let scaled := scale num den places
  Scientific.ofScaled (roundHalfEven scaled.1 scaled.2) places

/-! ### Layout -/

/-- When a decimal is written positionally, and whether a whole number keeps a point. -/
structure Layout where
  /-- The least exponent that is written positionally. -/
  least : Int
  /-- The least exponent above those. -/
  bound : Int
  /-- Whether a whole number written positionally ends in a point and a zero. -/
  keepsPoint : Bool

/-- An exponent: its sign and at least two digits. -/
def exponentText (exponent : Int) : List Char :=
  let ds := digits exponent.natAbs
  (if exponent < 0 then '-' else '+') :: (if ds.length < 2 then '0' :: ds else ds)

/-- The digits without an exponent: zeros fill up to the point on either side. -/
def positional (layout : Layout) (s : Scientific) : List Char :=
  if s.exponent < 0 then
    '0' :: '.' :: (List.replicate (-s.exponent - 1).toNat '0' ++ s.digits)
  else
    let whole := s.exponent.toNat + 1
    let point := if layout.keepsPoint then ['.', '0'] else []
    if s.digits.length ≤ whole then
      s.digits ++ List.replicate (whole - s.digits.length) '0' ++ point
    else s.digits.take whole ++ '.' :: s.digits.drop whole

/-- One digit, the point and the others, then the exponent. -/
def exponential (s : Scientific) : List Char :=
  s.digits.take 1 ++ (if s.digits.length ≤ 1 then [] else '.' :: s.digits.drop 1)
    ++ 'e' :: exponentText s.exponent

def Layout.write (layout : Layout) (s : Scientific) : List Char :=
  if layout.least ≤ s.exponent ∧ s.exponent < layout.bound then positional layout s
  else exponential s

/-- The quotient `num / den` with exactly `places` places, a half going to the even digit. -/
def fixed (places : Nat) (num den : Nat) : List Char :=
  let scaled := roundHalfEven (num * power 10 places) den
  let below := digits (scaled % power 10 places)
  digits (scaled / power 10 places)
    ++ '.' :: (List.replicate (places - below.length) '0' ++ below)

end Telemetry.Decimal
