import Telemetry.Number.Decimal
import Telemetry.Text.Blank
import Telemetry.Text.Digit

/-!
# Integers from text

An integer is read from an optional sign and decimal digits of any script, with single underscores
allowed between digits and blanks around the whole. Integers are neither read nor written with more
than `digitLimit` digits; whether a text has too many is decided by its run of digits, before what
stands behind the run is looked at.

Main statement: `readSigned?_ofInt` (the decimal text of an integer is read back).
-/

namespace Telemetry.Decimal

open Text

/-- Digits on top of `high`, each of which may follow one underscore. -/
def readDigits? (high : Nat) : List Char → Option Nat
  | [] => some high
  | '_' :: c :: rest =>
    match digit? c with
    | some d => readDigits? (high * 10 + d) rest
    | none => none
  | c :: rest =>
    match digit? c with
    | some d => readDigits? (high * 10 + d) rest
    | none => none

/-- A natural number: at least one digit, and no underscore in front. -/
def readNatural? : List Char → Option Nat
  | [] => none
  | c :: rest =>
    match digit? c with
    | some d => readDigits? d rest
    | none => none

def readSigned? : List Char → Option Int
  | '+' :: rest => (readNatural? rest).map fun n : Nat => (n : Int)
  | '-' :: rest => (readNatural? rest).map fun n : Nat => -(n : Int)
  | cs => (readNatural? cs).map fun n : Nat => (n : Int)

/-! ### Reading with a limit -/

/-- The most digits of an integer that is read or written. -/
def digitLimit : Nat := 4300

/-- Why a text is not read as an integer. -/
inductive Refusal where
  | malformed
  | tooLong (digits : Nat)

def unsigned : List Char → List Char
  | '+' :: rest => rest
  | '-' :: rest => rest
  | cs => cs

/-- Whether a character can stand in a run of digits. -/
def inRun (c : Char) : Bool := c == '_' || (digit? c).isSome

/-- An integer, where `blank` says what may stand around it. -/
def readInteger (blank : Char → Bool) (cs : List Char) : Except Refusal Int :=
  let text := trimmed blank cs
  let run := (unsigned text).takeWhile inRun
  let digits := run.countP (· != '_')
  if (readNatural? run).isSome ∧ digitLimit < digits then .error (.tooLong digits)
  else match readSigned? text with
    | some i => .ok i
    | none => .error .malformed

/-- Whether an integer has no more digits than are written. -/
def isWritable (i : Int) : Bool := decide (i.natAbs < power 10 digitLimit)

/-! ### Reading back -/

theorem digit?_of_isDigit {c : Char} (h : c.isDigit = true) : digit? c = some (digitValue c) := by
  simp only [Char.isDigit, Bool.and_eq_true, decide_eq_true_eq, UInt32.le_iff_toNat_le] at h
  have h1 : 0x30 ≤ c.toNat := h.1
  have h2 : c.toNat ≤ 0x39 := h.2
  have h3 : c.toNat < 0x80 := by omega
  simp [digit?, digitValue, h1, h2, h3]

theorem readDigits?_of_isDigit {ds : List Char} (h : ∀ c ∈ ds, c.isDigit = true) (high : Nat) :
    readDigits? high ds = some (ofDigitsFrom high ds) := by
  induction ds generalizing high with
  | nil => rfl
  | cons c rest ih =>
    have hc := h c (List.mem_cons_self ..)
    have hne : c ≠ '_' := by rintro rfl; exact absurd hc (by decide)
    rw [ofDigitsFrom_cons, ← ih (fun x hx => h x (List.mem_cons_of_mem _ hx))]
    cases rest with
    | nil => simp [readDigits?, digit?_of_isDigit hc]
    | cons c' rest' => simp [readDigits?, hne, digit?_of_isDigit hc]

theorem readNatural?_digits (n : Nat) : readNatural? (digits n) = some n := by
  have hdig := @digits_isDigit n
  have hval := ofDigits_digits n
  cases hd : digits n with
  | nil =>
    exfalso
    have hne : ∀ m rest, digitsOnto m rest ≠ [] := by
      intro m rest
      fun_induction digitsOnto m rest with
      | case1 => simp
      | case2 _ _ _ ih => exact ih
    exact hne n [] hd
  | cons c rest =>
    rw [hd] at hdig hval
    have hc := hdig (List.mem_cons_self ..)
    have hrest := readDigits?_of_isDigit (fun x hx => hdig (List.mem_cons_of_mem c hx))
      (digitValue c)
    rw [ofDigits, ofDigitsFrom_cons, Nat.zero_mul, Nat.zero_add] at hval
    simp [readNatural?, digit?_of_isDigit hc, hrest, hval]

/-- The decimal text of an integer is read back. -/
theorem readSigned?_ofInt (i : Int) : readSigned? (ofInt i) = some i := by
  unfold ofInt
  split
  · next h =>
    have hnegative : -(i.natAbs : Int) = i := by omega
    rw [readSigned?, readNatural?_digits, Option.map_some, hnegative]
  · next h =>
    have hplain : readSigned? (digits i.natAbs) =
        (readNatural? (digits i.natAbs)).map fun n : Nat => (n : Int) := by
      have hdig := @digits_isDigit i.natAbs
      match hd : digits i.natAbs with
      | [] => rfl
      | c :: rest =>
        have hc := hdig (hd ▸ List.mem_cons_self ..)
        have hp : c ≠ '+' := by rintro rfl; exact absurd hc (by decide)
        have hm : c ≠ '-' := by rintro rfl; exact absurd hc (by decide)
        simp [readSigned?, hp, hm]
    have hsame : (i.natAbs : Int) = i := by omega
    rw [hplain, readNatural?_digits, Option.map_some, hsame]

end Telemetry.Decimal
