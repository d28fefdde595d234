import Mathlib.Algebra.Order.Field.Basic
import Mathlib.Algebra.Order.Ring.Rat
import Mathlib.Tactic.Ring
import Telemetry.Number.Binary64

/-!
# Doubles as rational numbers

A finite double is a rational number, and doubles are ordered as these numbers are. Sums and
differences are rounded. They are exact if the number of grains is that of a code, as it is for whole
numbers below `2 ^ 53`.

* `lt_iff_toRat` says that the order is that of the numbers.
* `exactSum_of_grains` is the law of exact sums, `IsWhole.exactSum` what it says about whole numbers.
* `isWhole_whole` says that whole numbers are doubles.
-/

namespace Telemetry

namespace Binary64

/-! ## Values -/

/-- Whether a double is a number that is not infinite. -/
def IsFinite : Binary64 → Prop
  | finite _ _ => True
  | _ => False

/-- The number that a finite double is; all others count as zero. -/
def toRat : Binary64 → ℚ
  | finite negative code => signedGrains negative code / grain
  | _ => 0

theorem grain_pos : (0 : ℚ) < grain := by
  have hpos : 0 < grain := power_pos (by decide) grainBits
  exact_mod_cast hpos

theorem grains_zero : grains 0 = 0 := by simp [grains, binade]

theorem grains_eq_zero {code : Nat} (h : grains code = 0) : code = 0 := by
  calc code = nearestCode (grains code) 1 := (nearestCode_grains code).symm
    _ = nearestCode (grains 0) 1 := by rw [h, grains_zero]
    _ = 0 := nearestCode_grains 0

theorem signedGrains_zero (negative : Bool) : signedGrains negative 0 = 0 := by
  simp [signedGrains, grains_zero]

@[simp] theorem toRat_zero : (0 : Binary64).toRat = 0 := by
  show ((signedGrains false 0 : ℤ) : ℚ) / grain = 0
  rw [signedGrains_zero, Int.cast_zero, zero_div]

theorem isFinite_zero : (0 : Binary64).IsFinite := trivial

theorem signedGrains_not (negative : Bool) (code : Nat) :
    signedGrains (!negative) code = -signedGrains negative code := by
  cases negative <;> simp [signedGrains]

theorem isFinite_neg {x : Binary64} (hx : x.IsFinite) : (-x).IsFinite := by
  cases x with
  | finite negative code => trivial
  | _ => cases hx

theorem toRat_neg (x : Binary64) : (-x).toRat = -x.toRat := by
  cases x with
  | finite negative code =>
      show ((signedGrains (!negative) code : ℤ) : ℚ) / grain = -(signedGrains negative code / grain)
      rw [signedGrains_not]
      push_cast
      ring
  | _ => exact neg_zero.symm

/-- Finite doubles are ordered as the numbers that they are. -/
theorem lt_iff_toRat {x y : Binary64} (hx : x.IsFinite) (hy : y.IsFinite) :
    x < y ↔ x.toRat < y.toRat := by
  cases x with
  | finite s a =>
      cases y with
      | finite t b =>
          rw [toRat, toRat, div_lt_div_iff_of_pos_right grain_pos, Int.cast_lt]
          exact decide_eq_true_iff
      | _ => cases hy
  | _ => cases hx

/-! ## Exact sums -/

/-- Both terms are finite, and their sum is not rounded. -/
structure ExactSum (x y : Binary64) : Prop where
  left : x.IsFinite
  right : y.IsFinite
  isFinite : (x + y).IsFinite
  toRat_add : (x + y).toRat = x.toRat + y.toRat

/-- Both terms are finite, and their difference is not rounded. -/
def ExactDifference (x y : Binary64) : Prop := ExactSum x (-y)

theorem ExactDifference.isFinite {x y : Binary64} (h : ExactDifference x y) : (x - y).IsFinite :=
  ExactSum.isFinite h

theorem ExactDifference.toRat_sub {x y : Binary64} (h : ExactDifference x y) :
    (x - y).toRat = x.toRat - y.toRat := by
  have hsum : (x - y).toRat = x.toRat + (-y).toRat := ExactSum.toRat_add h
  rw [hsum, toRat_neg, sub_eq_add_neg]

/-- Grains that are those of a code are not rounded. -/
theorem ofSignedGrains_of_grains {code : Nat} (bothNegative : Bool) (sum : Int)
    (hcode : code < codes) (hsum : grains code = sum.natAbs) :
    (ofSignedGrains bothNegative sum).IsFinite ∧
      (ofSignedGrains bothNegative sum).toRat = sum / grain := by
  have hround : nearestCode sum.natAbs 1 = code := by
    rw [← hsum]
    exact nearestCode_grains code
  have hfinite : ∀ negative, ofGrains negative sum.natAbs 1 = finite negative ⟨code, hcode⟩ := by
    intro negative
    simp [ofGrains, ofGrains?, hround, hcode]
  rw [ofSignedGrains, hfinite]
  refine ⟨trivial, ?_⟩
  have hsigned : signedGrains (if sum = 0 then bothNegative else decide (sum < 0)) code = sum := by
    rcases lt_trichotomy sum 0 with hneg | rfl | hpos
    · rw [if_neg hneg.ne, decide_eq_true hneg, signedGrains, if_pos rfl, hsum]
      omega
    · rw [grains_eq_zero hsum, signedGrains_zero]
    · rw [if_neg hpos.ne', decide_eq_false hpos.not_gt, signedGrains, if_neg (by decide), hsum]
      omega
  rw [toRat, hsigned]

theorem finite_add_finite (s t : Bool) (a b : Fin codes) :
    finite s a + finite t b =
      ofSignedGrains (s && t) (signedGrains s a + signedGrains t b) := by
  show add (finite s a) (finite t b) = _
  rw [add]

/-- A sum of finite doubles is exact if its grains are those of a code. -/
theorem exactSum_of_grains {s t : Bool} {a b : Fin codes} {code : Nat} (hcode : code < codes)
    (hsum : grains code = (signedGrains s a + signedGrains t b).natAbs) :
    ExactSum (finite s a) (finite t b) := by
  obtain ⟨hfinite, hvalue⟩ := ofSignedGrains_of_grains (s && t) _ hcode hsum
  rw [← finite_add_finite] at hfinite hvalue
  refine ⟨trivial, trivial, hfinite, ?_⟩
  rw [hvalue, toRat, toRat]
  push_cast
  ring

/-! ## Whole numbers -/

/-- The magnitude of a code by its binade and the fraction in it. -/
theorem grains_binade {fraction : Nat} (hfraction : fraction < binade) (place : Nat) :
    grains (fraction + binade * (place + 1)) = (binade + fraction) * power 2 place := by
  have hbinade : 0 < binade := by decide
  have hmod : (fraction + binade * (place + 1)) % binade = fraction := by
    rw [Nat.add_mul_mod_self_left, Nat.mod_eq_of_lt hfraction]
  have hdiv : (fraction + binade * (place + 1)) / binade = place + 1 := by
    rw [Nat.add_mul_div_left _ _ hbinade, Nat.div_eq_of_lt hfraction, Nat.zero_add]
  have hlater : ¬ fraction + binade * (place + 1) < binade := by
    rw [Nat.mul_succ]
    omega
  rw [grains, if_neg hlater, hmod, hdiv, Nat.add_sub_cancel]

/-- Shifted to 53 bits, a number is the fraction of its binade, with one bit in front. -/
theorem exists_fraction {n : Nat} (hpos : 0 < n) (hn : n < 2 ^ 53) :
    ∃ shift bits fraction, shift + bits = 52 ∧ fraction < binade ∧
      n * power 2 shift = binade + fraction := by
  have hlow : power 2 n.log2 ≤ n := Nat.log2_self_le (by omega)
  have hhigh : n < power 2 (n.log2 + 1) := Nat.lt_log2_self
  have hbits : n.log2 < 53 := (Nat.log2_lt (by omega)).mpr hn
  obtain ⟨shift, hshift⟩ := Nat.exists_eq_add_of_le' (Nat.le_of_lt_succ hbits)
  generalize n.log2 = bits at *
  have hone : power 2 bits * power 2 shift = binade := by
    rw [← power_add, Nat.add_comm, ← hshift]
    rfl
  have hleast : binade ≤ n * power 2 shift := by
    rw [← hone]
    exact Nat.mul_le_mul_right _ hlow
  have hgreatest : n * power 2 shift < 2 * binade := by
    calc n * power 2 shift < power 2 (bits + 1) * power 2 shift :=
          Nat.mul_lt_mul_of_pos_right hhigh (power_pos (by decide) shift)
      _ = 2 * binade := by rw [power_succ, Nat.mul_right_comm, hone, Nat.mul_comm]
  obtain ⟨fraction, hfraction⟩ := Nat.exists_eq_add_of_le hleast
  exact ⟨shift, bits, fraction, hshift.symm, by omega, hfraction⟩

/-- A whole number below `2 ^ 53` has a code. -/
theorem exists_code_of_whole {n : Nat} (hn : n < 2 ^ 53) :
    ∃ code, code < codes ∧ grains code = n * grain := by
  rcases Nat.eq_zero_or_pos n with rfl | hpos
  · exact ⟨0, by decide, by rw [grains_zero, Nat.zero_mul]⟩
  · obtain ⟨shift, bits, fraction, hplaces, hless, hshifted⟩ := exists_fraction hpos hn
    refine ⟨fraction + binade * (bits + 1022 + 1), ?_, ?_⟩
    · calc fraction + binade * (bits + 1022 + 1) < binade + binade * (bits + 1022 + 1) :=
            Nat.add_lt_add_right hless _
        _ = binade * (bits + 1024) := by ring
        _ ≤ binade * 2047 := Nat.mul_le_mul_left _ (by omega)
    · have hgrain : grain = power 2 shift * power 2 (bits + 1022) := by
        have hgrainBits : grainBits = shift + (bits + 1022) := by
          rw [grainBits]
          omega
        rw [← power_add, ← hgrainBits, grain]
      rw [grains_binade hless, ← hshifted, hgrain, Nat.mul_assoc]

/-- A double that is the whole number `n`. -/
def IsWhole (x : Binary64) (n : Int) : Prop := x.IsFinite ∧ x.toRat = n

theorem isWhole_finite_iff {s : Bool} {a : Fin codes} {n : Int} :
    (finite s a).IsWhole n ↔ signedGrains s a = n * grain := by
  have hvalue : (signedGrains s a : ℚ) / grain = n ↔ signedGrains s a = n * grain := by
    rw [div_eq_iff grain_pos.ne']
    exact_mod_cast Iff.rfl
  exact (and_iff_right trivial).trans hvalue

theorem natAbs_signedGrains (s : Bool) (code : Nat) : (signedGrains s code).natAbs = grains code := by
  cases s <;> simp [signedGrains]

/-- The whole number that a double is, as it is computed. -/
theorem whole?_eq_some_iff {x : Binary64} {n : Int} : x.whole? = some n ↔ x.IsWhole n := by
  cases x with
  | finite s a =>
      rw [isWhole_finite_iff, whole?, ← natAbs_signedGrains s]
      have hgrain : (grain : Int) ≠ 0 := by exact_mod_cast grain_pos.ne'
      constructor
      · intro h
        obtain ⟨hmod, hn⟩ := Option.ite_none_right_eq_some.mp h
        rw [← Option.some.inj hn]
        exact (Int.tdiv_mul_cancel (Int.natCast_dvd.mpr (Nat.dvd_of_mod_eq_zero hmod))).symm
      · intro h
        rw [h, Int.natAbs_mul, Int.natAbs_natCast, Nat.mul_mod_left, if_pos rfl,
          Int.mul_tdiv_cancel _ hgrain]
  | _ => simp [whole?, IsWhole, IsFinite]

theorem IsWhole.neg {x : Binary64} {n : Int} (h : x.IsWhole n) : (-x).IsWhole (-n) := by
  refine ⟨isFinite_neg h.1, ?_⟩
  rw [toRat_neg, h.2]
  push_cast
  rfl

/-- Sums of whole numbers are exact as long as they are below `2 ^ 53`. -/
theorem IsWhole.exactSum {x y : Binary64} {m n : Int} (hx : x.IsWhole m) (hy : y.IsWhole n)
    (hbound : (m + n).natAbs < 2 ^ 53) : ExactSum x y := by
  cases x with
  | finite s a =>
      cases y with
      | finite t b =>
          obtain ⟨code, hcode, hgrains⟩ := exists_code_of_whole hbound
          apply exactSum_of_grains hcode
          rw [isWhole_finite_iff.mp hx, isWhole_finite_iff.mp hy, ← Int.add_mul, Int.natAbs_mul,
            Int.natAbs_natCast, hgrains]
      | _ => cases hy.1
  | _ => cases hx.1

theorem IsWhole.add {x y : Binary64} {m n : Int} (hx : x.IsWhole m) (hy : y.IsWhole n)
    (hbound : (m + n).natAbs < 2 ^ 53) : (x + y).IsWhole (m + n) := by
  have hexact := hx.exactSum hy hbound
  refine ⟨hexact.isFinite, ?_⟩
  rw [hexact.toRat_add, hx.2, hy.2]
  push_cast
  rfl

theorem IsWhole.exactDifference {x y : Binary64} {m n : Int} (hx : x.IsWhole m) (hy : y.IsWhole n)
    (hbound : (m - n).natAbs < 2 ^ 53) : ExactDifference x y :=
  hx.exactSum hy.neg hbound

/-- Whole numbers below `2 ^ 53` are not rounded. -/
theorem exists_ofGrains?_whole (negative : Bool) {n : Nat} (hn : n < 2 ^ 53) :
    ∃ code : Fin codes, ofGrains? negative (n * grain) 1 = some (finite negative code) ∧
      grains code = n * grain := by
  obtain ⟨code, hcode, hgrains⟩ := exists_code_of_whole hn
  have hround : nearestCode (n * grain) 1 = code := by
    rw [← hgrains]
    exact nearestCode_grains code
  exact ⟨⟨code, hcode⟩, by simp [ofGrains?, hround, hcode], hgrains⟩

/-- The double nearest to a whole number. -/
def whole (n : Nat) : Binary64 := ofQuotient n 1

/-- Whole numbers are doubles as long as they are below `2 ^ 53`. -/
theorem isWhole_whole {n : Nat} (hn : n < 2 ^ 53) : (whole n).IsWhole n := by
  obtain ⟨code, hfinite, hgrains⟩ := exists_ofGrains?_whole false hn
  rw [whole, ofQuotient, ofGrains, hfinite, Option.getD_some, isWhole_finite_iff, signedGrains,
    hgrains]
  push_cast
  rfl

theorem ofInt?_natCast {n : Nat} (hn : n < 2 ^ 53) : ofInt? n = some (whole n) := by
  obtain ⟨code, hfinite, -⟩ := exists_ofGrains?_whole false hn
  have hsign : decide ((n : Int) < 0) = false := by simp
  rw [ofInt?, ofQuotient?, whole, ofQuotient, ofGrains, Int.natAbs_natCast, hsign, hfinite]
  rfl

end Binary64

end Telemetry
