import Mathlib.Algebra.Order.Group.Unbundled.Abs
import Mathlib.Tactic.FieldSimp
import Mathlib.Tactic.Linarith
import Telemetry.Proofs.Number.Rational

/-!
# The nearest double

A quotient is rounded to the nearest double, and if two doubles are equally near, to the one whose
code is even. Around a quotient the doubles lie on a grid of equal steps, and there rounding is
rounding to whole numbers. Where the grid ends below, the doubles lie closer together, but all of
them are further away than the end of the grid.

* `abs_sub_roundHalfEven_le_abs_sub` and `even_roundHalfEven_of_tie` are the laws of rounding to
  whole numbers, `abs_sub_grains_nearestCode_le` and `even_nearestCode_of_tie` those of codes.
* `nearestCode_mono` says that a greater quotient does not get a smaller code.
* `isNearest_of_ofQuotient?` is the law of quotients as doubles.
-/

namespace Telemetry

/-! ## Nearest whole numbers -/

/-- A quotient is a whole number and a part of one. It is rounded down, rounded up, or it lies
between two neighbours that are equally near and is rounded to the even one. -/
theorem roundHalfEven_cases {den : Nat} (hden : 0 < den) (num : Nat) :
    ∃ (low : Nat) (part : ℚ), (num / den : ℚ) = low + part ∧ 0 ≤ part ∧ part < 1 ∧
      ((roundHalfEven num den = low ∧ part < 1 / 2) ∨
        (roundHalfEven num den = low + 1 ∧ 1 / 2 < part) ∨
        ((roundHalfEven num den = low ∨ roundHalfEven num den = low + 1) ∧ part = 1 / 2 ∧
          roundHalfEven num den % 2 = 0)) := by
  have hpos : (0 : ℚ) < den := by exact_mod_cast hden
  refine ⟨num / den, (num % den : ℕ) / den, ?_, by positivity, ?_, ?_⟩
  · have hsplit := Nat.div_add_mod num den
    generalize num / den = low at hsplit ⊢
    generalize num % den = rest at hsplit ⊢
    field_simp
    exact_mod_cast hsplit.symm
  · rw [div_lt_one hpos]
    exact_mod_cast Nat.mod_lt num hden
  · have hbelow : ((num % den : ℕ) / den : ℚ) < 1 / 2 ↔ 2 * (num % den) < den := by
      rw [div_lt_div_iff₀ hpos two_pos, one_mul, mul_comm]
      exact_mod_cast Iff.rfl
    have habove : (1 / 2 : ℚ) < (num % den : ℕ) / den ↔ den < 2 * (num % den) := by
      rw [div_lt_div_iff₀ two_pos hpos, one_mul, mul_comm]
      exact_mod_cast Iff.rfl
    have hmiddle : ((num % den : ℕ) / den : ℚ) = 1 / 2 ↔ 2 * (num % den) = den := by
      rw [div_eq_div_iff hpos.ne' two_ne_zero, one_mul, mul_comm]
      exact_mod_cast Iff.rfl
    rw [hbelow, habove, hmiddle]
    simp only [roundHalfEven]
    split
    · simp_all
    · split
      · simp_all
      · split <;> omega

section

variable {den : Nat} (hden : 0 < den) (num : Nat)

include hden

/-- What a quotient is rounded to is at most one half away. -/
theorem abs_sub_roundHalfEven_le_half : |(num / den : ℚ) - roundHalfEven num den| ≤ 1 / 2 := by
  obtain ⟨low, part, hquotient, hpart, hless, hcases⟩ := roundHalfEven_cases hden num
  rw [hquotient, abs_le]
  rcases hcases with ⟨hround, hhalf⟩ | ⟨hround, hhalf⟩ | ⟨hround | hround, hhalf, -⟩
  all_goals
    rw [hround]
    push_cast
    constructor <;> linarith

/-- What a quotient is rounded to is even, if it is one half away. -/
theorem even_roundHalfEven_of_half (h : |(num / den : ℚ) - roundHalfEven num den| = 1 / 2) :
    roundHalfEven num den % 2 = 0 := by
  obtain ⟨low, part, hquotient, hpart, hless, hcases⟩ := roundHalfEven_cases hden num
  rw [hquotient] at h
  rcases hcases with ⟨hround, hhalf⟩ | ⟨hround, hhalf⟩ | ⟨-, -, heven⟩
  · exfalso
    rw [hround, add_sub_cancel_left, abs_of_nonneg hpart] at h
    linarith
  · exfalso
    rw [hround, Nat.cast_add, Nat.cast_one, add_sub_add_left_eq_sub, abs_of_neg (by linarith)] at h
    linarith
  · exact heven

/-- Any other whole number is at least one half away. -/
theorem half_le_abs_sub_of_ne {m : Nat} (hne : m ≠ roundHalfEven num den) :
    1 / 2 ≤ |(num / den : ℚ) - m| := by
  have hnear := abs_sub_roundHalfEven_le_half hden num
  have hapart : (1 : ℚ) ≤ |(m : ℚ) - roundHalfEven num den| := by
    have hint : 1 ≤ |(m : ℤ) - roundHalfEven num den| := Int.one_le_abs (by omega)
    exact_mod_cast hint
  have htriangle := abs_sub_le (m : ℚ) (num / den) (roundHalfEven num den)
  rw [abs_sub_comm (m : ℚ) (num / den)] at htriangle
  linarith

/-- **A quotient is rounded to a nearest whole number.** -/
theorem abs_sub_roundHalfEven_le_abs_sub (m : Nat) :
    |(num / den : ℚ) - roundHalfEven num den| ≤ |(num / den : ℚ) - m| := by
  by_cases hm : m = roundHalfEven num den
  · rw [hm]
  · exact (abs_sub_roundHalfEven_le_half hden num).trans (half_le_abs_sub_of_ne hden num hm)

/-- **Of two nearest whole numbers it is the even one.** -/
theorem even_roundHalfEven_of_tie {m : Nat} (hne : m ≠ roundHalfEven num den)
    (htie : |(num / den : ℚ) - m| = |(num / den : ℚ) - roundHalfEven num den|) :
    roundHalfEven num den % 2 = 0 := by
  apply even_roundHalfEven_of_half hden
  have hfar := half_le_abs_sub_of_ne hden num hne
  rw [htie] at hfar
  exact le_antisymm (abs_sub_roundHalfEven_le_half hden num) hfar

end

namespace Binary64

/-! ## Codes on a grid -/

/-- The codes of one binade lie on a grid, its end included. -/
theorem grains_shifted {shift n : Nat} (hmost : n ≤ 2 * binade)
    (hleast : shift = 0 ∨ binade ≤ n) : grains (shift * binade + n) = n * power 2 shift := by
  rcases Nat.lt_or_ge n binade with hless | hge
  · have hshift : shift = 0 := hleast.resolve_right (Nat.not_le_of_lt hless)
    rw [hshift, Nat.zero_mul, Nat.zero_add, grains, if_pos hless, power_zero, Nat.mul_one]
  · obtain ⟨fraction, rfl⟩ := Nat.exists_eq_add_of_le hge
    rcases Nat.lt_or_ge fraction binade with hfraction | hend
    · have hcode : shift * binade + (binade + fraction) = fraction + binade * (shift + 1) := by ring
      rw [hcode, grains_binade hfraction]
    · -- the end of the grid is the beginning of the next binade
      have hfraction : fraction = binade := by omega
      have hcode : shift * binade + (binade + fraction) = 0 + binade * (shift + 1 + 1) := by
        rw [hfraction]
        ring
      rw [hcode, grains_binade (by decide), power_succ, hfraction]
      ring

/-- Every code lies on the grid of its binade, and not at the end of it. -/
theorem exists_shifted (code : Nat) :
    ∃ shift n, code = shift * binade + n ∧ n < 2 * binade ∧ (shift = 0 ∨ binade ≤ n) := by
  have hbinade : 0 < binade := by decide
  have hcode := Nat.div_add_mod' code binade
  have hrest := Nat.mod_lt code hbinade
  cases hplace : code / binade with
  | zero =>
      rw [hplace] at hcode
      exact ⟨0, code % binade, hcode.symm, by omega, .inl rfl⟩
  | succ place =>
      rw [hplace, Nat.succ_mul] at hcode
      exact ⟨place, binade + code % binade, by omega, by omega, .inr (by omega)⟩

/-- A greater code has a greater magnitude. -/
theorem strictMono_grains : StrictMono grains := by
  apply strictMono_nat_of_lt_succ
  intro code
  obtain ⟨shift, n, rfl, hless, hleast⟩ := exists_shifted code
  have hnext : grains (shift * binade + (n + 1)) = (n + 1) * power 2 shift :=
    grains_shifted hless (by omega)
  rw [grains_shifted hless.le hleast, Nat.add_assoc, hnext]
  exact Nat.mul_lt_mul_of_pos_right (Nat.lt_succ_self n) (power_pos (by decide) shift)

/-- The nearest code lies on the grid of the binade that the quotient is in. -/
theorem nearestCode_cases {den : Nat} (hden : 0 < den) (num : Nat) :
    ∃ shift, nearestCode num den = shift * binade + roundHalfEven num (den * power 2 shift) ∧
      roundHalfEven num (den * power 2 shift) ≤ 2 * binade ∧
      (shift = 0 ∨ binade ≤ roundHalfEven num (den * power 2 shift) ∧
        binade * power 2 shift * den ≤ num) := by
  refine ⟨Nat.log2 (num / den) - 52, rfl, ?_⟩
  generalize hshift : Nat.log2 (num / den) - 52 = shift
  have hstep := power_pos (by decide : 0 < 2) shift
  have hbinade : binade = power 2 52 := rfl
  have hhigh : num / den < 2 * binade * power 2 shift := by
    calc num / den < power 2 (Nat.log2 (num / den) + 1) := Nat.lt_log2_self
      _ ≤ power 2 (52 + shift + 1) := Nat.pow_le_pow_right (by decide) (by omega)
      _ = 2 * binade * power 2 shift := by
          rw [power_succ, power_add, hbinade]
          ring
  constructor
  · have hless : num / (den * power 2 shift) < 2 * binade := by
      rw [← Nat.div_div_eq_div_mul, Nat.div_lt_iff_lt_mul hstep]
      exact hhigh
    exact (roundHalfEven_le_succ_div num _).trans hless
  · rcases Nat.eq_zero_or_pos shift with hzero | hpos
    · exact .inl hzero
    · right
      have hlog : Nat.log2 (num / den) = 52 + shift := by omega
      have hne : num / den ≠ 0 := by
        intro hnone
        rw [hnone, Nat.log2_zero] at hlog
        omega
      have hlow : binade * power 2 shift ≤ num / den := by
        rw [hbinade, ← power_add, ← hlog]
        exact Nat.log2_self_le hne
      constructor
      · refine le_trans ?_ (div_le_roundHalfEven num _)
        rw [← Nat.div_div_eq_div_mul, Nat.le_div_iff_mul_le hstep]
        exact hlow
      · exact (Nat.le_div_iff_mul_le hden).mp hlow

/-- Seen from a quotient, every code lies on the grid of the nearest code, or further away than the
beginning of that grid. -/
theorem exists_grid {den : Nat} (hden : 0 < den) (num : Nat) :
    ∃ shift : Nat,
      nearestCode num den = shift * binade + roundHalfEven num (den * power 2 shift) ∧
      grains (nearestCode num den) = roundHalfEven num (den * power 2 shift) * power 2 shift ∧
      ∀ code, (∃ m, grains code = m * power 2 shift) ∨
        |(num / den : ℚ) - (binade * power 2 shift : ℕ)| < |(num / den : ℚ) - grains code| := by
  obtain ⟨shift, hcode, hmost, hleast⟩ := nearestCode_cases hden num
  refine ⟨shift, hcode, ?_, ?_⟩
  · rw [hcode, grains_shifted hmost (hleast.imp_right And.left)]
  · intro code
    obtain ⟨place, n, rfl, hless, hplace⟩ := exists_shifted code
    rw [grains_shifted hless.le hplace]
    rcases Nat.lt_or_ge place shift with hbelow | habove
    · right
      obtain ⟨-, hbegin⟩ := hleast.resolve_left (by omega)
      have hquotient : ((binade * power 2 shift : ℕ) : ℚ) ≤ num / den := by
        rw [le_div_iff₀ (by exact_mod_cast hden)]
        exact_mod_cast hbegin
      have hfar : n * power 2 place < binade * power 2 shift := by
        calc n * power 2 place < 2 * binade * power 2 place :=
              Nat.mul_lt_mul_of_pos_right hless (power_pos (by decide) place)
          _ = binade * power 2 (place + 1) := by
              rw [power_succ]
              ring
          _ ≤ binade * power 2 shift :=
              Nat.mul_le_mul_left _ (Nat.pow_le_pow_right (by decide) hbelow)
      have hfarther : ((n * power 2 place : ℕ) : ℚ) < (binade * power 2 shift : ℕ) := by
        exact_mod_cast hfar
      rw [abs_of_nonneg (by linarith), abs_of_nonneg (by linarith)]
      linarith
    · left
      obtain ⟨more, rfl⟩ := Nat.exists_eq_add_of_le habove
      refine ⟨n * power 2 more, ?_⟩
      rw [power_add]
      ring

/-- On a grid, distances are those of whole numbers. -/
theorem abs_sub_grid {den : Nat} (num shift m : Nat) :
    |(num / den : ℚ) - (m * power 2 shift : ℕ)| =
      |(num / (den * power 2 shift : ℕ) : ℚ) - m| * power 2 shift := by
  have hstep : (0 : ℚ) < power 2 shift := by exact_mod_cast power_pos (by decide) shift
  have hscaled : (num / den : ℚ) - (m * power 2 shift : ℕ) =
      (num / (den * power 2 shift : ℕ) - m) * power 2 shift := by
    push_cast
    field_simp
  rw [hscaled, abs_mul, abs_of_pos hstep]

/-! ## Nearest codes -/

/-- **No code is nearer to a quotient than the nearest code.** -/
theorem abs_sub_grains_nearestCode_le {den : Nat} (hden : 0 < den) (num code : Nat) :
    |(num / den : ℚ) - grains (nearestCode num den)| ≤ |(num / den : ℚ) - grains code| := by
  obtain ⟨shift, -, hnearest, hgrid⟩ := exists_grid hden num
  have hstep : (0 : ℚ) ≤ power 2 shift := by positivity
  have hfine : 0 < den * power 2 shift := Nat.mul_pos hden (power_pos (by decide) shift)
  -- on the grid this is the law of whole numbers
  have hwhole (m : Nat) : |(num / den : ℚ) - grains (nearestCode num den)| ≤
      |(num / den : ℚ) - (m * power 2 shift : ℕ)| := by
    rw [hnearest, abs_sub_grid, abs_sub_grid]
    exact mul_le_mul_of_nonneg_right (abs_sub_roundHalfEven_le_abs_sub hfine num m) hstep
  rcases hgrid code with ⟨m, hm⟩ | hfar
  · rw [hm]
    exact hwhole m
  · exact (hwhole binade).trans hfar.le

/-- **Of two nearest codes it is the even one.** -/
theorem even_nearestCode_of_tie {den : Nat} (hden : 0 < den) {num code : Nat}
    (hne : code ≠ nearestCode num den)
    (htie : |(num / den : ℚ) - grains code| = |(num / den : ℚ) - grains (nearestCode num den)|) :
    nearestCode num den % 2 = 0 := by
  obtain ⟨shift, hcode, hnearest, hgrid⟩ := exists_grid hden num
  have hstep : (power 2 shift : ℚ) ≠ 0 := by
    exact_mod_cast (power_pos (by decide) shift).ne'
  have hfine : 0 < den * power 2 shift := Nat.mul_pos hden (power_pos (by decide) shift)
  have heven : roundHalfEven num (den * power 2 shift) % 2 = 0 := by
    rcases hgrid code with ⟨m, hm⟩ | hfar
    · apply even_roundHalfEven_of_tie hfine num (m := m)
      · rintro rfl
        exact hne (strictMono_grains.injective (hm.trans hnearest.symm))
      · rw [hm, hnearest, abs_sub_grid, abs_sub_grid] at htie
        exact mul_right_cancel₀ hstep htie
    · -- what is off the grid is not equally near
      have hless := abs_sub_roundHalfEven_le_abs_sub hfine num binade
      rw [htie, hnearest, abs_sub_grid, abs_sub_grid] at hfar
      have hlarger := lt_of_mul_lt_mul_right hfar (by positivity)
      exact absurd hless (not_le_of_gt hlarger)
  have hbinade : binade = 2 * 0x8000000000000 := rfl
  rw [hcode, hbinade, Nat.add_mod, heven, Nat.mul_left_comm, Nat.mul_mod_right]

/-- **A greater quotient does not get a smaller code.** -/
theorem nearestCode_mono {a b c d : Nat} (hb : 0 < b) (hd : 0 < d) (h : a * d ≤ c * b) :
    nearestCode a b ≤ nearestCode c d := by
  by_contra hless
  have hgrains : (grains (nearestCode c d) : ℚ) < grains (nearestCode a b) := by
    exact_mod_cast strictMono_grains (Nat.lt_of_not_le hless)
  have hb' : (0 : ℚ) < b := by exact_mod_cast hb
  have hd' : (0 : ℚ) < d := by exact_mod_cast hd
  have hle : (a / b : ℚ) ≤ c / d := by
    rw [div_le_div_iff₀ hb' hd']
    exact_mod_cast h
  have hfirst := abs_sub_grains_nearestCode_le hb a (nearestCode c d)
  have hsecond := abs_sub_grains_nearestCode_le hd c (nearestCode a b)
  -- both quotients would have to lie in the middle between the two codes
  have hsame : (a / b : ℚ) = c / d := by
    rw [← sq_le_sq] at hfirst hsecond
    nlinarith
  apply hless
  apply le_of_eq
  apply nearestCode_eq_of_cross hb hd
  rw [div_eq_div_iff hb'.ne' hd'.ne'] at hsame
  exact_mod_cast hsame

/-! ## Nearest doubles -/

/-- Whether the code of a finite double is even. -/
def IsEven : Binary64 → Prop
  | finite _ code => code.val % 2 = 0
  | _ => False

/-- The double that a number is rounded to: no other is nearer to the number, and if another one is
equally near, it is the one with an even code. -/
structure IsNearest (x : Binary64) (q : ℚ) : Prop where
  isFinite : x.IsFinite
  nearest : ∀ y : Binary64, y.IsFinite → |q - x.toRat| ≤ |q - y.toRat|
  even : ∀ y : Binary64, y.IsFinite → y.toRat ≠ x.toRat →
    |q - y.toRat| = |q - x.toRat| → x.IsEven

theorem abs_toRat_finite (negative : Bool) (code : Fin codes) :
    |(finite negative code).toRat| = grains code / grain := by
  rw [toRat, abs_div, abs_of_pos grain_pos, ← Int.cast_abs, Int.abs_eq_natAbs,
    natAbs_signedGrains]
  rfl

theorem ofQuotient?_eq_some_iff {num : Int} {den : Nat} {x : Binary64} :
    ofQuotient? num den = some x ↔ ∃ h : nearestCode (num.natAbs * grain) den < codes,
      x = finite (decide (num < 0)) ⟨nearestCode (num.natAbs * grain) den, h⟩ := by
  rw [ofQuotient?, ofGrains?]
  split
  · next h =>
    constructor
    · intro hx
      exact ⟨h, (Option.some.inj hx).symm⟩
    · rintro ⟨-, rfl⟩
      rfl
  · next h =>
    constructor
    · intro hx
      cases hx
    · rintro ⟨hcode, -⟩
      exact absurd hcode h

/-- Seen without their signs, a quotient and a double are as far apart as the grains of the quotient
and those of the code. -/
theorem abs_abs_sub_abs_toRat (num : Int) (den : Nat) (negative : Bool) (code : Fin codes) :
    |(|(num / den : ℚ)| - |(finite negative code).toRat|)| =
      |((num.natAbs * grain : ℕ) / den : ℚ) - grains code| / grain := by
  have hgrain := grain_pos.ne'
  have hscaled : ((num.natAbs : ℚ) / den - grains code / grain) * grain =
      (num.natAbs * grain : ℕ) / den - grains code := by
    rw [sub_mul, div_mul_cancel₀ _ hgrain, div_mul_eq_mul_div, Nat.cast_mul]
  rw [abs_toRat_finite, abs_div, Nat.abs_cast, ← Int.cast_abs, ← Nat.cast_natAbs, ← hscaled,
    abs_mul, abs_of_pos grain_pos, mul_div_cancel_right₀ _ hgrain]

/-- A double with the sign of a quotient is as far from it as without the sign. -/
theorem abs_sub_toRat_of_sign (num : Int) (den : Nat) (code : Fin codes) :
    |(num / den : ℚ) - (finite (decide (num < 0)) code).toRat| =
      |(|(num / den : ℚ)| - |(finite (decide (num < 0)) code).toRat|)| := by
  have hsize : (0 : ℚ) ≤ grains code / grain := div_nonneg (Nat.cast_nonneg _) grain_pos.le
  rcases lt_or_ge num 0 with hneg | hnonneg
  · have hquotient : (num / den : ℚ) ≤ 0 :=
      div_nonpos_of_nonpos_of_nonneg (Int.cast_nonpos.mpr hneg.le) (Nat.cast_nonneg den)
    have hdouble : (finite (decide (num < 0)) code).toRat = -(grains code / grain) := by
      rw [toRat, decide_eq_true hneg, signedGrains, if_pos rfl, Int.cast_neg, neg_div]
      rfl
    rw [abs_of_nonpos hquotient, hdouble, abs_neg, abs_of_nonneg hsize, ← abs_neg]
    congr 1
    ring
  · have hquotient : 0 ≤ (num / den : ℚ) :=
      div_nonneg (Int.cast_nonneg hnonneg) (Nat.cast_nonneg den)
    have hdouble : (finite (decide (num < 0)) code).toRat = grains code / grain := by
      rw [toRat, decide_eq_false hnonneg.not_gt, signedGrains, if_neg (by decide)]
      rfl
    rw [abs_of_nonneg hquotient, hdouble, abs_of_nonneg hsize]

/-- **A quotient of whole numbers is rounded to the nearest double**, if it is not too large. -/
theorem isNearest_of_ofQuotient? {num : Int} {den : Nat} (hden : 0 < den) {x : Binary64}
    (h : ofQuotient? num den = some x) : x.IsNearest (num / den) := by
  obtain ⟨hcode, rfl⟩ := ofQuotient?_eq_some_iff.mp h
  -- the signs of the other doubles are left out, so that distances are those of codes
  have hbelow (negative : Bool) (code : Fin codes) :
      |((num.natAbs * grain : ℕ) / den : ℚ) - grains code| / grain ≤
        |(num / den : ℚ) - (finite negative code).toRat| := by
    rw [← abs_abs_sub_abs_toRat num den negative code]
    exact abs_abs_sub_abs_le _ _
  have hself := abs_sub_toRat_of_sign num den ⟨_, hcode⟩
  rw [abs_abs_sub_abs_toRat] at hself
  have hnearest : ∀ y : Binary64, y.IsFinite →
      |(num / den : ℚ) - (finite (decide (num < 0)) ⟨_, hcode⟩).toRat| ≤
        |(num / den : ℚ) - y.toRat| := by
    intro y hy
    cases y with
    | finite negative code =>
        rw [hself]
        refine le_trans ?_ (hbelow negative code)
        exact div_le_div_of_nonneg_right (abs_sub_grains_nearestCode_le hden _ _) grain_pos.le
    | _ => cases hy
  refine ⟨trivial, hnearest, ?_⟩
  intro y hy hne htie
  cases y with
  | finite negative code =>
      by_cases hsame : code.val = nearestCode (num.natAbs * grain) den
      · -- the same code with the other sign is only equally near to zero, which it cannot be
        exfalso
        have hsize : |(finite negative code).toRat| =
            |(finite (decide (num < 0)) ⟨_, hcode⟩).toRat| := by
          rw [abs_toRat_finite, abs_toRat_finite, hsame]
        have hzero := hnearest 0 isFinite_zero
        rw [toRat_zero, sub_zero] at hzero
        rcases abs_eq_abs.mp hsize with heq | hopposite
        · exact hne heq
        · rcases abs_eq_abs.mp htie with heq | hmiddle
          · exact hne (sub_right_injective heq)
          · have hquotient : (num / den : ℚ) = 0 := by linarith
            rw [hquotient, abs_zero, zero_sub, abs_neg, abs_nonpos_iff] at hzero
            rw [hzero, neg_zero] at hopposite
            exact hne (hopposite.trans hzero.symm)
      · apply even_nearestCode_of_tie hden hsame
        have hle := hbelow negative code
        rw [htie, hself, div_le_div_iff_of_pos_right grain_pos] at hle
        exact le_antisymm hle (abs_sub_grains_nearestCode_le hden _ _)
  | _ => cases hy

/-- **A quotient that is not greater is rounded to a double that is not greater**, signs left out. -/
theorem exists_ofQuotient?_of_le {i j : Int} {d e : Nat} (hd : 0 < d) (he : 0 < e)
    (h : i.natAbs * e ≤ j.natAbs * d) {bound : Binary64} (hbound : ofQuotient? j e = some bound) :
    ∃ x, ofQuotient? i d = some x ∧ |x.toRat| ≤ |bound.toRat| := by
  obtain ⟨hcode, rfl⟩ := ofQuotient?_eq_some_iff.mp hbound
  have hle : nearestCode (i.natAbs * grain) d ≤ nearestCode (j.natAbs * grain) e := by
    apply nearestCode_mono hd he
    rw [Nat.mul_right_comm, Nat.mul_right_comm _ grain]
    exact Nat.mul_le_mul_right grain h
  refine ⟨_, ofQuotient?_eq_some_iff.mpr ⟨hle.trans_lt hcode, rfl⟩, ?_⟩
  rw [abs_toRat_finite, abs_toRat_finite, div_le_div_iff_of_pos_right grain_pos]
  exact_mod_cast strictMono_grains.monotone hle

/-- A common factor of a quotient does not matter. -/
theorem ofQuotient?_mul_right (num : Int) (den : Nat) {factor : Nat} (hfactor : 0 < factor) :
    ofQuotient? (num * factor) (den * factor) = ofQuotient? num den := by
  have hpos : (0 : ℤ) < factor := by exact_mod_cast hfactor
  have hsign : num * factor < 0 ↔ num < 0 := by
    rw [mul_neg_iff]
    omega
  have hcode : nearestCode (num.natAbs * factor * grain) (den * factor) =
      nearestCode (num.natAbs * grain) den := by
    rw [Nat.mul_right_comm, Nat.mul_comm _ factor, Nat.mul_comm den, nearestCode_mul_left hfactor]
  simp only [ofQuotient?, ofGrains?, Int.natAbs_mul, Int.natAbs_natCast, hsign, hcode]

/-- A double that is zero is not nearest to a positive whole number. -/
theorem isZero_of_ofInt? {n : Nat} (hn : 0 < n) {x : Binary64} (h : ofInt? n = some x) :
    x.isZero = false := by
  have hnearest := isNearest_of_ofQuotient? Nat.one_pos h
  obtain ⟨one, hfinite, hone⟩ : ∃ y : Binary64, y.IsWhole (1 : ℕ) :=
    ⟨whole 1, isWhole_whole (by decide)⟩
  rw [Nat.cast_one, div_one, Int.cast_natCast] at hnearest
  cases hzero : x.isZero with
  | false => rfl
  | true =>
      exfalso
      have hvalue : x.toRat = 0 := by
        cases x with
        | finite negative code =>
            rw [toRat, of_decide_eq_true hzero, signedGrains_zero, Int.cast_zero, zero_div]
        | _ => cases hzero
      -- one is nearer
      have hless := hnearest.nearest one hfinite
      have hleast : (1 : ℚ) ≤ n := by exact_mod_cast hn
      rw [hvalue, hone, sub_zero, abs_of_nonneg (by linarith), Nat.cast_one, Int.cast_one,
        abs_of_nonneg (by linarith)] at hless
      linarith

end Binary64

end Telemetry
