import IcpcVerify.Core.Rounding

/-!
# Rounding to a binary floating-point format

A format has a precision and a least exponent, and its numbers are the multiples
`m * 2 ^ e` with `m` below the precision.  A result is rounded to the nearest of them, ties
to the even one.  Rounding keeps the order and the numbers of the format; and two numbers
that are not farther apart than from zero have a difference that needs no rounding.
-/

namespace IcpcVerify

open Rounding

structure FloatFormat where
  precision : ℕ
  leastExponent : ℤ
  precision_pos : 0 < precision

namespace FloatFormat

variable (F : FloatFormat)

/-- A number of the format, whatever its size. -/
def Representable (x : ℚ) : Prop :=
  ∃ m e : ℤ, |m| < 2 ^ F.precision ∧ F.leastExponent ≤ e ∧ x = m * 2 ^ e

/-- The exponent of the spacing around a number. -/
def exponent (x : ℚ) : ℤ :=
  max (Int.log 2 |x| - (F.precision - 1)) F.leastExponent

/-- The nearest number of the format. -/
def round (x : ℚ) : ℚ :=
  halfEven (x / 2 ^ F.exponent x) * 2 ^ F.exponent x

variable {F} {x y : ℚ}

@[simp]
theorem round_zero : F.round 0 = 0 := by
  have hzero : halfEven 0 = 0 := halfEven_intCast 0
  simp [round, hzero]

theorem round_neg (x : ℚ) : F.round (-x) = -F.round x := by
  rw [round, round, exponent, exponent, abs_neg, neg_div, halfEven_neg]
  push_cast
  ring

theorem round_nonneg (hx : 0 ≤ x) : 0 ≤ F.round x := by
  have hscaled : 0 ≤ halfEven (x / 2 ^ F.exponent x) := halfEven_nonneg (by positivity)
  rw [round]
  positivity

theorem abs_round (x : ℚ) : |F.round x| = F.round |x| := by
  rcases abs_cases x with ⟨heq, hx⟩ | ⟨heq, hx⟩
  · rw [heq, abs_of_nonneg (round_nonneg hx)]
  · rw [heq, round_neg, abs_of_nonpos]
    have hneg := round_nonneg (F := F) (neg_nonneg.2 hx.le)
    rw [round_neg] at hneg
    linarith

/-! ## The numbers of the format -/

theorem exponent_le {m e : ℤ} (hm : |m| < 2 ^ F.precision) (he : F.leastExponent ≤ e)
    (hx : x = m * 2 ^ e) (hne : x ≠ 0) : F.exponent x ≤ e := by
  apply max_le _ he
  have hpos : (0 : ℚ) < |x| := abs_pos.2 hne
  have hcast : |(m : ℚ)| < 2 ^ F.precision := by exact_mod_cast hm
  have hlt : |x| < ((2 : ℕ) : ℚ) ^ ((F.precision : ℤ) + e) := by
    have htwo : (0 : ℚ) < 2 ^ e := by positivity
    rw [hx, abs_mul, abs_of_pos htwo, Nat.cast_ofNat, zpow_add₀ two_ne_zero, zpow_natCast]
    exact mul_lt_mul_of_pos_right hcast htwo
  have hlog := (Int.lt_zpow_iff_log_lt one_lt_two hpos).1 hlt
  omega

/-- A power of two scaled to a spacing that divides it is an integer. -/
theorem zpow_div_eq_natCast {e e' : ℤ} (hle : e ≤ e') :
    (2 : ℚ) ^ e' / 2 ^ e = ((2 ^ (e' - e).toNat : ℤ) : ℚ) := by
  have hexponent : (((e' - e).toNat : ℕ) : ℤ) = e' - e := Int.toNat_of_nonneg (by omega)
  rw [← zpow_sub₀ two_ne_zero, ← hexponent, zpow_natCast]
  push_cast
  rfl

theorem round_of_representable (hx : F.Representable x) : F.round x = x := by
  obtain ⟨m, e, hm, he, heq⟩ := hx
  by_cases hne : x = 0
  · rw [hne, round_zero]
  · have hle : F.exponent x ≤ e := exponent_le hm he heq hne
    have hscaled : x / 2 ^ F.exponent x = ((m * 2 ^ (e - F.exponent x).toNat : ℤ) : ℚ) := by
      conv_lhs => rw [heq, mul_div_assoc]
      rw [← heq, zpow_div_eq_natCast hle]
      push_cast
      rfl
    rw [round, hscaled, halfEven_intCast, ← hscaled, div_mul_cancel₀ _ (by positivity)]

/-- Below the next power of two the scaled number is below the precision. -/
theorem div_exponent_lt (hx : 0 < x) : x / 2 ^ F.exponent x < 2 ^ F.precision := by
  have hlog : x < ((2 : ℕ) : ℚ) ^ (Int.log 2 |x| + 1) := by
    rw [abs_of_pos hx]
    exact Int.lt_zpow_succ_log_self one_lt_two x
  have hexponent : Int.log 2 |x| + 1 ≤ F.precision + F.exponent x := by
    have hmax := le_max_left (Int.log 2 |x| - (F.precision - 1)) F.leastExponent
    rw [← exponent] at hmax
    omega
  rw [div_lt_iff₀ (by positivity), ← zpow_natCast, ← zpow_add₀ two_ne_zero]
  exact hlog.trans_le (zpow_le_zpow_right₀ one_le_two hexponent)

theorem Representable.neg (hx : F.Representable x) : F.Representable (-x) := by
  obtain ⟨m, e, hm, he, rfl⟩ := hx
  exact ⟨-m, e, by rwa [abs_neg], he, by push_cast; ring⟩

theorem representable_round_of_pos (hx : 0 < x) : F.Representable (F.round x) := by
  have hlt := div_exponent_lt (F := F) hx
  have hnonneg : 0 ≤ halfEven (x / 2 ^ F.exponent x) := halfEven_nonneg (by positivity)
  have hle : halfEven (x / 2 ^ F.exponent x) ≤ 2 ^ F.precision := by
    have hmono := halfEven_mono hlt.le
    have hpower : ((2 : ℚ) ^ F.precision) = ((2 ^ F.precision : ℤ) : ℚ) := by push_cast; rfl
    rwa [hpower, halfEven_intCast] at hmono
  have hleast : F.leastExponent ≤ F.exponent x := le_max_right _ _
  rcases hle.lt_or_eq with hbelow | hpower
  · exact ⟨_, F.exponent x, by rwa [abs_of_nonneg hnonneg], hleast, rfl⟩
  · -- rounded up to the next power of two
    refine ⟨1, F.precision + F.exponent x, ?_, by omega, ?_⟩
    · rw [abs_one]
      exact one_lt_pow₀ one_lt_two F.precision_pos.ne'
    · rw [round, hpower, zpow_add₀ two_ne_zero, zpow_natCast]
      push_cast
      ring

theorem representable_round (x : ℚ) : F.Representable (F.round x) := by
  rcases lt_trichotomy x 0 with hneg | rfl | hpos
  · have hround := (representable_round_of_pos (F := F) (neg_pos.2 hneg)).neg
    rwa [round_neg, neg_neg] at hround
  · rw [round_zero]
    exact ⟨0, F.leastExponent, by rw [abs_zero]; positivity, le_rfl, by simp⟩
  · exact representable_round_of_pos hpos

/-! ## Order -/

theorem halfEven_zpow_div {e e' : ℤ} (hle : e ≤ e') :
    (halfEven ((2 : ℚ) ^ e' / 2 ^ e) : ℚ) = 2 ^ e' / 2 ^ e := by
  rw [zpow_div_eq_natCast hle, halfEven_intCast]

/-- A power of two on the grid of spacing around a number is not passed by rounding it. -/
theorem round_le_zpow {e : ℤ} (he : F.exponent x ≤ e) (hle : x ≤ 2 ^ e) :
    F.round x ≤ 2 ^ e := by
  have hscaled : x / 2 ^ F.exponent x ≤ 2 ^ e / 2 ^ F.exponent x := by gcongr
  have hmono : (halfEven (x / 2 ^ F.exponent x) : ℚ) ≤ 2 ^ e / 2 ^ F.exponent x := by
    rw [← halfEven_zpow_div he]
    exact_mod_cast halfEven_mono hscaled
  rwa [round, ← le_div_iff₀ (by positivity)]

theorem zpow_le_round {e : ℤ} (he : F.exponent x ≤ e) (hle : 2 ^ e ≤ x) :
    2 ^ e ≤ F.round x := by
  have hscaled : 2 ^ e / 2 ^ F.exponent x ≤ x / 2 ^ F.exponent x := by gcongr
  have hmono : (2 : ℚ) ^ e / 2 ^ F.exponent x ≤ halfEven (x / 2 ^ F.exponent x) := by
    rw [← halfEven_zpow_div he]
    exact_mod_cast halfEven_mono hscaled
  rwa [round, ← div_le_iff₀ (by positivity)]

theorem exponent_mono (hx : 0 < x) (hle : x ≤ y) : F.exponent x ≤ F.exponent y := by
  have hlogs : Int.log 2 |x| ≤ Int.log 2 |y| := by
    rw [abs_of_pos hx, abs_of_pos (hx.trans_le hle)]
    exact Int.log_mono_right hx hle
  exact max_le_max_right _ (by omega)

theorem round_mono_of_nonneg (hx : 0 ≤ x) (hle : x ≤ y) : F.round x ≤ F.round y := by
  rcases hx.eq_or_lt with rfl | hpos
  · rw [round_zero]
    exact round_nonneg hle
  · have hypos := hpos.trans_le hle
    rcases (exponent_mono (F := F) hpos hle).eq_or_lt with heq | hlt
    · have hscaled : x / 2 ^ F.exponent y ≤ y / 2 ^ F.exponent y := by gcongr
      rw [round, round, heq]
      gcongr
      exact halfEven_mono hscaled
    · -- the power of two below `y` is between the two
      have hleast : F.leastExponent ≤ F.exponent x := le_max_right _ _
      have hlower : Int.log 2 |x| - (F.precision - 1) ≤ F.exponent x := le_max_left _ _
      have hspacing : F.exponent y = Int.log 2 |y| - (F.precision - 1) := by
        apply (max_choice _ _).resolve_right
        intro hequal
        have hexponent : F.exponent y = F.leastExponent := hequal
        omega
      rw [abs_of_pos hpos] at hlower
      rw [abs_of_pos hypos] at hspacing
      have hprecision := F.precision_pos
      have hbelow : x ≤ 2 ^ Int.log 2 y := by
        have hlog : x < 2 ^ (Int.log 2 x + 1) := by
          exact_mod_cast Int.lt_zpow_succ_log_self one_lt_two x
        exact hlog.le.trans (zpow_le_zpow_right₀ one_le_two (by omega))
      have habove : (2 : ℚ) ^ Int.log 2 y ≤ y := by
        exact_mod_cast Int.zpow_log_le_self one_lt_two hypos
      calc F.round x ≤ 2 ^ Int.log 2 y := round_le_zpow (by omega) hbelow
        _ ≤ F.round y := zpow_le_round (by omega) habove

/-- Rounding does not carry a number past one of the format. -/
theorem round_le_of_representable (hx : 0 ≤ x) (hle : x ≤ y) (hy : F.Representable y) :
    F.round x ≤ y :=
  (round_mono_of_nonneg hx hle).trans_eq (round_of_representable hy)

/-! ## Differences -/

theorem representable_sub_of_le {m n e f : ℤ} (hm : |m| < 2 ^ F.precision)
    (he : F.leastExponent ≤ e) (hef : e ≤ f)
    (hclose : |(m * 2 ^ e - n * 2 ^ f : ℚ)| ≤ |(m * 2 ^ e : ℚ)|) :
    F.Representable (m * 2 ^ e - n * 2 ^ f) := by
  have hscale : (2 : ℚ) ^ f = ((2 ^ (f - e).toNat : ℤ) : ℚ) * 2 ^ e := by
    rw [← zpow_div_eq_natCast hef, div_mul_cancel₀ _ (by positivity)]
  have hdifference : (m * 2 ^ e - n * 2 ^ f : ℚ) =
      ((m - n * 2 ^ (f - e).toNat : ℤ) : ℚ) * 2 ^ e := by
    rw [hscale]
    push_cast
    ring
  refine ⟨m - n * 2 ^ (f - e).toNat, e, ?_, he, hdifference⟩
  have htwo : (0 : ℚ) < 2 ^ e := by positivity
  rw [hdifference, abs_mul, abs_mul, mul_le_mul_iff_left₀ (abs_pos.2 htwo.ne')] at hclose
  have hle : |m - n * 2 ^ (f - e).toNat| ≤ |m| := by exact_mod_cast hclose
  exact hle.trans_lt hm

/-- Two numbers whose distance is at most that of each from zero have a difference in the
format. -/
theorem representable_sub (hx : F.Representable x) (hy : F.Representable y)
    (hleft : |x - y| ≤ |x|) (hright : |x - y| ≤ |y|) : F.Representable (x - y) := by
  obtain ⟨m, e, hm, he, rfl⟩ := hx
  obtain ⟨n, f, hn, hf, rfl⟩ := hy
  rcases le_total e f with hef | hfe
  · exact representable_sub_of_le hm he hef hleft
  · rw [← neg_sub]
    apply Representable.neg
    apply representable_sub_of_le hn hf hfe
    rwa [abs_sub_comm]

end FloatFormat

end IcpcVerify
