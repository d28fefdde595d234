import Telemetry.Number.Binary64
import Telemetry.Number.Decimal

/-!
# Doubles as text

Three texts of a double: the shortest decimal that reads back as the same double (`shortest`), four
significant digits (`general`) and three places (`thousandths`).

The shortest decimal is found grid by grid: of the decimals with `count` significant digits only the
two neighbours of the number can be the nearest ones that read back, and the first grid with such a
neighbour wins. Should no grid of up to seventeen digits have one, all digits are written.

Main statement: `code_shortestScaled` (the decimal that is chosen reads back).
-/

namespace Telemetry.Binary64

open Decimal

/-- A decimal `coefficient / 10 ^ places`. -/
structure Scaled where
  coefficient : Nat
  /-- How many of them stand behind the point; negative if zeros follow them. -/
  places : Int

/-- The code of the double nearest to a decimal. -/
def Scaled.code (s : Scaled) : Nat :=
  let quotient := scale (s.coefficient * grain) 1 (-s.places)
  nearestCode quotient.1 quotient.2

/-- Of two neighbours the one that reads back; `lowNearer` decides if both do. -/
def pick (code : Nat) (low high : Scaled) (lowNearer : Bool) : Option Scaled :=
  if low.code = code ∧ (lowNearer ∨ high.code ≠ code) then some low
  else if high.code = code then some high
  else none

/-- The neighbour of a magnitude with `count` significant digits that reads back as the magnitude,
the nearer one if both do. -/
def neighbour? (code count : Nat) : Option Scaled :=
  let places := (count : Int) - 1 - leadingExponent (grains code) grain
  let scaled := scale (grains code) grain places
  let low := scaled.1 / scaled.2
  pick code ⟨low, places⟩ ⟨low + 1, places⟩ (roundHalfEven scaled.1 scaled.2 == low)

/-- All digits of a magnitude: a grain is `5 ^ grainBits / 10 ^ grainBits`. -/
def allDigits (code : Nat) : Scaled := ⟨grains code * power 5 grainBits, grainBits⟩

/-- The first neighbour that reads back, from `count` significant digits on. -/
def shortestFrom (code : Nat) : (tries count : Nat) → Scaled
  | 0, _ => allDigits code
  | tries + 1, count => (neighbour? code count).getD (shortestFrom code tries (count + 1))

/-- The shortest decimal that reads back as the magnitude. -/
def shortestScaled (code : Nat) : Scaled := shortestFrom code 17 1

/-- Doubles are written positionally from `0.0001` up to below `10 ^ 16`, and a whole one keeps its
point. -/
def shortestLayout : Layout := ⟨-4, 16, true⟩

/-- Rounded doubles are written positionally up to their number of digits, without a point behind
whole ones. -/
def generalLayout : Layout := ⟨-4, 4, false⟩

/-- A minus sign in front of what has one. -/
def signed (negative : Bool) (text : List Char) : List Char :=
  if negative then '-' :: text else text

/-- The two values that have no digits, or else the signed text of the magnitude. -/
def write (magnitude : Nat → List Char) : Binary64 → List Char
  | nan => ['n', 'a', 'n']
  | infinite negative => signed negative ['i', 'n', 'f']
  | finite negative code => signed negative (magnitude code)

def shortestMagnitude (code : Nat) : List Char :=
  let s := if code = 0 then ⟨0, 0⟩ else shortestScaled code
  shortestLayout.write (Scientific.ofScaled s.coefficient s.places)

/-- The shortest text that reads back as the double. -/
def shortest (x : Binary64) : String := String.ofList (x.write shortestMagnitude)

def generalMagnitude (code : Nat) : List Char :=
  generalLayout.write <|
    if code = 0 then ⟨['0'], 0⟩ else Scientific.rounded 4 (grains code) grain

/-- The text of a double with four significant digits, zeros at the end left out. -/
def general (x : Binary64) : String := String.ofList (x.write generalMagnitude)

/-- The text of a double with three places. -/
def thousandths (x : Binary64) : String :=
  String.ofList (x.write fun code => fixed 3 (grains code) grain)

/-! ### Reading back -/

theorem code_of_pick {code : Nat} {low high s : Scaled} {lowNearer : Bool}
    (h : pick code low high lowNearer = some s) : s.code = code := by
  unfold pick at h
  split at h
  · next hlow => exact Option.some.inj h ▸ hlow.1
  · split at h
    · next hhigh => exact Option.some.inj h ▸ hhigh
    · cases h

theorem code_allDigits (code : Nat) : (allDigits code).code = code := by
  -- both sides of the quotient carry a power of ten, which cancels
  have hgrain : grains code * power 5 grainBits * grain = power 10 grainBits * grains code := by
    rw [Nat.mul_assoc, grain, ← mul_power, Nat.mul_comm]
  have hround := nearestCode_mul_left (power_pos (by decide : 0 < 10) grainBits) (grains code) 1
  rw [Nat.mul_one, nearestCode_grains] at hround
  simp only [Scaled.code, allDigits, scale, hgrain, Int.neg_neg, Int.toNat_natCast, Nat.one_mul,
    Int.toNat_neg_natCast, power_zero, Nat.mul_one]
  exact hround

theorem code_shortestFrom (code tries count : Nat) :
    (shortestFrom code tries count).code = code := by
  induction tries generalizing count with
  | zero => exact code_allDigits code
  | succ tries ih =>
    rw [shortestFrom]
    cases h : neighbour? code count with
    | none => exact ih _
    | some s => exact code_of_pick h

/-- The shortest decimal reads back. -/
theorem code_shortestScaled (code : Nat) : (shortestScaled code).code = code :=
  code_shortestFrom code 17 1

end Telemetry.Binary64
