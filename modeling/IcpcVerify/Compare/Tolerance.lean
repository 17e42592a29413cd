import IcpcVerify.Compare.Flags
import IcpcVerify.Compare.Strictness
import IcpcVerify.Python.Double

/-!
# Tolerances

A pair of numbers within a tolerance is accepted token by token, up to the rounding of the
difference and of its quotient: what is lost by it needs a relative tolerance of more than
one half.  With `space_change_sensitive` the tolerances are not looked at.
-/

namespace IcpcVerify.Compare

open IcpcVerify.Python
open IcpcVerify.Tokens

variable {rt : Runtime} {flags : CompareFlags}

/-! ## Tolerances of accepted lists -/

/-- An accepted list with the name of a tolerance in it, be it as a value, sets one. -/
theorem exists_setting_of_mem {read : List (FlagItem rt)} {flag : PyStr}
    (hmem : flag ∈ read.flatMap FlagItem.written) (hflag : flag ∈ toleranceFlags) :
    ∃ item ∈ read, (item.setting absoluteFlags).isSome = true ∨
      (item.setting relativeFlags).isSome = true := by
  obtain ⟨item, hitem, hwritten⟩ := List.mem_flatMap.1 hmem
  refine ⟨item, hitem, ?_⟩
  cases item with
  | switch name hname =>
      rw [← List.mem_singleton.1 hwritten] at hname
      exact absurd hname (not_mem_boolFlags_of_toleranceFlag hflag)
  | tolerance name text value hname hvalue =>
      have hsets : ∀ name ∈ toleranceFlags, name ∈ absoluteFlags ∨ name ∈ relativeFlags := by
        decide
      exact (hsets name hname).imp (fun habsolute => by simp [FlagItem.setting, habsolute])
        fun hrelative => by simp [FlagItem.setting, hrelative]

theorem compareFloats_of_parseCompareFlags {items : List PyStr}
    (hparsed : parseCompareFlags rt items = .ok flags)
    (htolerance : ∃ item ∈ items, item ∈ toleranceFlags) : flags.compareFloats = true := by
  obtain ⟨read, rfl, rfl⟩ := (parseCompareFlags_eq_ok_iff items flags).1 hparsed
  obtain ⟨flag, hmem, hflag⟩ := htolerance
  obtain ⟨item, hitem, hsets⟩ := exists_setting_of_mem hmem hflag
  have hset : ∀ names, (item.setting names).isSome = true →
      (read.filterMap (FlagItem.setting names)).getLast?.isSome = true := by
    intro names hsome
    obtain ⟨value, hvalue⟩ := Option.isSome_iff_exists.1 hsome
    exact List.getLast?_isSome.2 (List.ne_nil_of_mem (List.mem_filterMap.2 ⟨item, hitem, hvalue⟩))
  rw [foldl_apply, CompareFlags.compareFloats, Bool.or_eq_true]
  simp only [CompareFlags.initial, Option.or_none]
  exact hsets.imp (hset absoluteFlags) (hset relativeFlags)

/-- A tolerance of an accepted list is a value of `float`. -/
theorem isDouble_of_parseCompareFlags (hdoubles : DoubleArithmetic rt) {items : List PyStr}
    (hparsed : parseCompareFlags rt items = .ok flags) {tolerance : PyFloat}
    (hset : flags.floatAbsoluteTolerance = some tolerance ∨
      flags.floatRelativeTolerance = some tolerance) : tolerance.IsDouble := by
  obtain ⟨read, -, rfl⟩ := (parseCompareFlags_eq_ok_iff items flags).1 hparsed
  have hread : ∀ names, (read.filterMap (FlagItem.setting names)).getLast? = some tolerance →
      tolerance.IsDouble := by
    intro names hlast
    obtain ⟨item, -, hitem⟩ := List.mem_filterMap.1 (List.mem_of_getLast? hlast)
    cases item with
    | switch name hname => cases hitem
    | tolerance name text value hname hvalue =>
        rw [FlagItem.setting] at hitem
        split_ifs at hitem
        rw [← Option.some.inj hitem]
        exact hdoubles.parseFloat text value hvalue
  rw [foldl_apply] at hset
  simp only [CompareFlags.initial, Option.or_none] at hset
  exact hset.elim (hread absoluteFlags) (hread relativeFlags)

/-! ## Close outputs -/

/-- What holds of Python's case mapping and of `float`: lower-casing keeps to the
tokens, and case is not significant in a number. -/
structure CaseRules (rt : Runtime) : Prop where
  lower : ActsOnTokens isSpace rt.lower
  parseFloat : ∀ s, rt.parseFloat (rt.lower s) = rt.parseFloat s

/-- The tokens are equal as text, or two finite numbers within one of the tolerances. -/
def PairClose (rt : Runtime) (flags : CompareFlags) (t a : PyStr) : Prop :=
  SameText rt flags t a ∨
    ∃ x y : ℚ, rt.parseFloat t = some (.finite x) ∧ rt.parseFloat a = some (.finite y) ∧
      (WithinAbsolute flags x y ∨ WithinRelative flags x y)

/-- Two outputs that differ in no separator, and in tokens at most up to the tolerances. -/
structure CloseOutputs (rt : Runtime) (flags : CompareFlags) (team answer : PyStr) : Prop where
  separators : layout isSpace team = layout isSpace answer
  noNan : ∀ token ∈ splitWhitespace team ++ splitWhitespace answer,
    rt.parseFloat token ≠ some .nan
  close : List.Forall₂ (PairClose rt flags) (splitWhitespace team) (splitWhitespace answer)

theorem parseFloat_eq_of_sameText (hcase : CaseRules rt) {t a : PyStr}
    (hsame : SameText rt flags t a) : rt.parseFloat t = rt.parseFloat a := by
  rw [SameText] at hsame
  split_ifs at hsame
  · rw [hsame]
  · rw [← hcase.parseFloat t, hsame, hcase.parseFloat]

/-! ## Rounding -/

/-- Different numbers whose difference, rounded to a double, is above the absolute tolerance,
and whose quotient of it by the answer, rounded again, is above the relative one. -/
structure LostByRounding (flags : CompareFlags) (x y : ℚ) : Prop where
  differ : x ≠ y
  absolute : ∀ tolerance, flags.floatAbsoluteTolerance = some tolerance →
    (roundDouble |x - y|).le tolerance = false
  relative : ∀ tolerance, flags.floatRelativeTolerance = some tolerance →
    ((roundDouble |x - y|).divPositive roundDouble |y|).le tolerance = false

/-- The tokens are numbers that are lost by rounding. -/
def PairLost (rt : Runtime) (flags : CompareFlags) (t a : PyStr) : Prop :=
  ∃ x y : ℚ, rt.parseFloat t = some (.finite x) ∧ rt.parseFloat a = some (.finite y) ∧
    LostByRounding flags x y

/-- Numbers that differ are accepted unless they are lost by rounding. -/
theorem withinTolerance_double_iff (hdoubles : DoubleArithmetic rt) {x y : ℚ} (hne : x ≠ y)
    (hy : y ≠ 0) :
    floatsMatch.withinTolerance rt flags x y = true ↔ ¬LostByRounding flags x y := by
  rw [withinTolerance_iff, hdoubles.roundFloat, abs_roundDouble]
  constructor
  · rintro (⟨tolerance, hset, hle⟩ | ⟨-, tolerance, hset, hle⟩) hlost
    · exact absurd hle (Bool.eq_false_iff.1 (hlost.absolute tolerance hset))
    · exact absurd hle (Bool.eq_false_iff.1 (hlost.relative tolerance hset))
  · intro hkept
    by_contra hneither
    push Not at hneither
    exact hkept ⟨hne, fun tolerance hset => Bool.eq_false_iff.2 (hneither.1 tolerance hset),
      fun tolerance hset => Bool.eq_false_iff.2 (hneither.2 hy tolerance hset)⟩

/-- The tolerances are values of `float`. -/
def DoubleTolerances (flags : CompareFlags) : Prop :=
  ∀ tolerance, flags.floatAbsoluteTolerance = some tolerance ∨
    flags.floatRelativeTolerance = some tolerance → tolerance.IsDouble

/-- The absolute tolerance loses nothing. -/
theorem not_lost_of_withinAbsolute (htolerances : DoubleTolerances flags) {x y : ℚ}
    (hwithin : WithinAbsolute flags x y) : ¬LostByRounding flags x y := by
  obtain ⟨tolerance, hset, hle⟩ := hwithin
  intro hlost
  have hrounded := roundDouble_le (abs_nonneg _) (htolerances tolerance (.inl hset)) hle
  exact absurd hrounded (Bool.eq_false_iff.1 (hlost.absolute tolerance hset))

/-- Nor does a relative one of at most one half: the difference is not rounded then. -/
theorem not_lost_of_withinRelative (htolerances : DoubleTolerances flags)
    (hhalf : ∀ tolerance, flags.floatRelativeTolerance = some (.finite tolerance) →
      tolerance ≤ 1 / 2) {x y : ℚ} (hx : IsDouble x) (hy : IsDouble y)
    (hwithin : WithinRelative flags x y) : ¬LostByRounding flags x y := by
  obtain ⟨tolerance, hset, hle⟩ := hwithin
  intro hlost
  have hlimit := Bool.eq_false_iff.1 (hlost.relative tolerance hset)
  have hyne : y ≠ 0 := by
    rintro rfl
    rw [abs_zero, sub_zero] at hle
    exact hlost.differ (PyFloat.eq_zero_of_finiteLe_mulFinite_zero hle)
  have hpos : 0 < |y| := abs_pos.2 hyne
  cases tolerance with
  | finite r =>
      have hr := hhalf r hset
      have hclose : |x - y| ≤ r * |y| := by simpa [PyFloat.finiteLe, PyFloat.mulFinite] using hle
      have hnear : |x - y| ≤ |y| / 2 := by nlinarith
      have htriangle : |y| ≤ |x| + |x - y| := by
        have hsub := abs_sub_abs_le_abs_sub y x
        rw [abs_sub_comm y x] at hsub
        linarith
      have hdifference : IsDouble |x - y| := by
        have hrepresentable : double.Representable (x - y) :=
          FloatFormat.representable_sub hx.1 hy.1 (by linarith) (by linarith)
        refine ⟨?_, by rw [abs_abs]; linarith [hy.2]⟩
        rcases abs_choice (x - y) with heq | heq
        · rwa [heq]
        · rw [heq]
          exact hrepresentable.neg
      apply hlimit
      rw [roundDouble_of_isDouble hdifference]
      refine roundDouble_le (by positivity) (htolerances _ (.inr hset)) ?_
      exact (PyFloat.finiteLe_div_iff hpos _).2 hle
  | posInf => exact hlimit (divPositive_le_posInf _ _)
  | negInf => simp [PyFloat.mulFinite, PyFloat.finiteLe, hpos, hpos.ne'] at hle
  | nan => cases hle

/-! ## Accepted pairs -/

theorem pairLost_iff {t a : PyStr} {x y : ℚ} (hx : rt.parseFloat t = some (.finite x))
    (hy : rt.parseFloat a = some (.finite y)) :
    PairLost rt flags t a ↔ LostByRounding flags x y := by
  constructor
  · rintro ⟨x', y', hx', hy', hlost⟩
    rw [hx] at hx'
    rw [hy] at hy'
    rwa [PyFloat.finite.inj (Option.some.inj hx'), PyFloat.finite.inj (Option.some.inj hy')]
  · exact fun hlost => ⟨x, y, hx, hy, hlost⟩

/-- Tokens that are equal as text are equal as numbers, and not lost. -/
theorem not_pairLost_of_sameText (hcase : CaseRules rt) {t a : PyStr}
    (hsame : SameText rt flags t a) : ¬PairLost rt flags t a := by
  rintro ⟨x, y, hx, hy, hlost⟩
  rw [parseFloat_eq_of_sameText hcase hsame, hy] at hx
  exact hlost.differ (PyFloat.finite.inj (Option.some.inj hx)).symm

theorem tokenMatches_of_sameText (hcase : CaseRules rt) (hfloats : flags.compareFloats = true)
    {t a : PyStr} (ht : rt.parseFloat t ≠ some .nan) (hsame : SameText rt flags t a) :
    tokenMatches rt flags t a = true := by
  have hvalue := parseFloat_eq_of_sameText hcase hsame
  cases hread : rt.parseFloat t with
  | none => exact (tokenMatches_of_text rt flags (by simp [hread])).2 hsame
  | some x =>
      have hx : x ≠ .nan := fun hnan => ht (hnan ▸ hread)
      exact (tokenMatches_of_numbers rt flags hfloats hread (hvalue ▸ hread)).2
        ⟨hx, hx, .inl rfl⟩

/-- Close tokens match unless they are lost by rounding. -/
theorem tokenMatches_iff_of_close (hcase : CaseRules rt) (hdoubles : DoubleArithmetic rt)
    (htolerances : DoubleTolerances flags) (hfloats : flags.compareFloats = true) {t a : PyStr}
    (ht : rt.parseFloat t ≠ some .nan) (hclose : PairClose rt flags t a) :
    tokenMatches rt flags t a = true ↔ ¬PairLost rt flags t a := by
  rcases hclose with hsame | ⟨x, y, hx, hy, hwithin⟩
  · exact iff_of_true (tokenMatches_of_sameText hcase hfloats ht hsame)
      (not_pairLost_of_sameText hcase hsame)
  · rw [tokenMatches_of_numbers rt flags hfloats hx hy, pairLost_iff hx hy]
    by_cases heq : x = y
    · subst heq
      exact iff_of_true ⟨by simp, by simp, .inl rfl⟩ fun hlost => hlost.differ rfl
    · have haccepted : NumbersAccepted rt flags (.finite x) (.finite y) ↔
          floatsMatch.withinTolerance rt flags x y = true := by
        simp [NumbersAccepted, heq]
      rw [haccepted]
      by_cases hyzero : y = 0
      · -- nothing else is within a relative tolerance of zero
        subst hyzero
        have habsolute : WithinAbsolute flags x 0 := by
          apply hwithin.resolve_right
          rintro ⟨tolerance, -, hle⟩
          rw [abs_zero, sub_zero] at hle
          exact heq (PyFloat.eq_zero_of_finiteLe_mulFinite_zero hle)
        refine iff_of_true ?_ (not_lost_of_withinAbsolute htolerances habsolute)
        obtain ⟨tolerance, hset, hle⟩ := habsolute
        rw [withinTolerance_iff, hdoubles.roundFloat, abs_roundDouble]
        exact .inl ⟨tolerance, hset,
          roundDouble_le (abs_nonneg _) (htolerances tolerance (.inl hset)) hle⟩
      · exact withinTolerance_double_iff hdoubles heq hyzero

/-- With a relative tolerance of at most one half no close pair is lost. -/
theorem not_pairLost_of_half (hcase : CaseRules rt) (hdoubles : DoubleArithmetic rt)
    (htolerances : DoubleTolerances flags)
    (hhalf : ∀ tolerance, flags.floatRelativeTolerance = some (.finite tolerance) →
      tolerance ≤ 1 / 2) {t a : PyStr} (hclose : PairClose rt flags t a) :
    ¬PairLost rt flags t a := by
  rcases hclose with hsame | ⟨x, y, hx, hy, hwithin⟩
  · exact not_pairLost_of_sameText hcase hsame
  · rw [pairLost_iff hx hy]
    rcases hwithin with habsolute | hrelative
    · exact not_lost_of_withinAbsolute htolerances habsolute
    · exact not_lost_of_withinRelative htolerances hhalf (hdoubles.parseFloat t _ hx)
        (hdoubles.parseFloat a _ hy) hrelative

/-! ## Accepted outputs -/

/-- The pairs of tokens that the comparison goes through. -/
def tokenPairs (team answer : PyStr) : List (PyStr × PyStr) :=
  (splitWhitespace team).zip (splitWhitespace answer)

theorem compareTokens_iff_of_close (hcase : CaseRules rt) (hdoubles : DoubleArithmetic rt)
    (htolerances : DoubleTolerances flags) (hfloats : flags.compareFloats = true)
    {team answer : PyStr} (houtputs : CloseOutputs rt flags team answer) :
    (compareTokens rt team answer flags).1 = true ↔
      ∀ pair ∈ tokenPairs team answer, ¬PairLost rt flags pair.1 pair.2 := by
  obtain ⟨hlength, hclose⟩ := List.forall₂_iff_zip.1 houtputs.close
  have hmatches : ∀ pair ∈ tokenPairs team answer,
      (tokenMatches rt flags pair.1 pair.2 = true ↔ ¬PairLost rt flags pair.1 pair.2) := by
    intro pair hpair
    apply tokenMatches_iff_of_close hcase hdoubles htolerances hfloats _ (hclose hpair)
    exact houtputs.noNan _ (List.mem_append_left _ (List.of_mem_zip hpair).1)
  rw [compareTokens_accepts_iff, List.forall₂_iff_zip]
  constructor
  · rintro ⟨-, hall⟩ pair hpair
    exact (hmatches pair hpair).1 (hall hpair)
  · intro hkept
    exact ⟨hlength, fun {t a} hpair => (hmatches (t, a) hpair).2 (hkept (t, a) hpair)⟩

/-- Without `space_change_sensitive` the tolerances apply up to the rounding of the numbers,
which no relative tolerance up to one half lets matter; with it they are not looked at, and
the tokens have to be equal as text. -/
theorem compareOutput_tolerance_iff (hcase : CaseRules rt) (hdoubles : DoubleArithmetic rt)
    {items : List PyStr} (hparsed : parseCompareFlags rt items = .ok flags)
    (htolerance : ∃ item ∈ items, item ∈ toleranceFlags) {team answer : Bytes}
    (houtputs : CloseOutputs rt flags (rt.decodeSurrogateescape team)
      (rt.decodeSurrogateescape answer)) :
    ((compareOutput rt team answer flags).1 = true ↔
      (flags.spaceChangeSensitive = false ∧
        ∀ pair ∈ tokenPairs (rt.decodeSurrogateescape team) (rt.decodeSurrogateescape answer),
          ¬PairLost rt flags pair.1 pair.2) ∨
        List.Forall₂ (SameText rt flags) (splitWhitespace (rt.decodeSurrogateescape team))
          (splitWhitespace (rt.decodeSurrogateescape answer))) ∧
      ((∀ tolerance, flags.floatRelativeTolerance = some (.finite tolerance) →
          tolerance ≤ 1 / 2) →
        ∀ pair ∈ tokenPairs (rt.decodeSurrogateescape team) (rt.decodeSurrogateescape answer),
          ¬PairLost rt flags pair.1 pair.2) := by
  have hfloats := compareFloats_of_parseCompareFlags hparsed htolerance
  have htolerances : DoubleTolerances flags :=
    fun _ hset => isDouble_of_parseCompareFlags hdoubles hparsed hset
  obtain ⟨-, hclose⟩ := List.forall₂_iff_zip.1 houtputs.close
  refine ⟨?_, fun hhalf pair hpair =>
    not_pairLost_of_half hcase hdoubles htolerances hhalf (hclose hpair)⟩
  rw [compareOutput]
  cases hspace : flags.spaceChangeSensitive with
  | false =>
      rw [if_neg Bool.false_ne_true,
        compareTokens_iff_of_close hcase hdoubles htolerances hfloats houtputs]
      constructor
      · exact fun hkept => .inl ⟨rfl, hkept⟩
      · rintro (⟨-, hkept⟩ | hsame)
        · exact hkept
        · obtain ⟨-, hall⟩ := List.forall₂_iff_zip.1 hsame
          exact fun pair hpair => not_pairLost_of_sameText hcase (hall hpair)
  | true =>
      rw [if_pos rfl, compareExact_iff_of_layout hcase.lower houtputs.separators]
      simp

/-! ## Doubles on ASCII texts -/

theorem spanDigits_lower (s : PyStr) :
    spanDigits (s.map asciiLower) = ((spanDigits s).1, (spanDigits s).2.map asciiLower) := by
  induction s with
  | nil => rfl
  | cons c s ih =>
      rw [List.map_cons, spanDigits, spanDigits, (asciiLower_keeps c).2.1, ih]
      cases digitValue c <;> rfl

theorem numeralValue_lower (s : PyStr) : numeralValue (s.map asciiLower) = numeralValue s := by
  rw [numeralValue, numeralValue, spanDigits_lower]
  rcases spanDigits s with ⟨whole, rest⟩
  cases whole with
  | nil => rfl
  | cons d whole =>
      cases rest with
      | nil => rfl
      | cons dot rest =>
          simp only [List.map_cons, (asciiLower_keeps dot).2.2, spanDigits_lower]
          rcases spanDigits rest with ⟨fraction, after⟩
          cases fraction <;> cases after <;> rfl

theorem doubles_caseRules : CaseRules Runtime.doubles where
  lower := ascii_lowersByCharacter.actsOnTokens
  parseFloat s := congrArg (Option.map roundDouble) (numeralValue_lower s)

/-- `1.0` for `1.25`, with a tolerance of one half. -/
theorem closeOutputs_half (spaceChangeSensitive : Bool) :
    CloseOutputs Runtime.doubles
      ⟨false, spaceChangeSensitive, some (.finite (1 / 2)), some (.finite (1 / 2))⟩
      (Runtime.doubles.decodeSurrogateescape [49, 46, 48])
      (Runtime.doubles.decodeSurrogateescape [49, 46, 50, 53]) where
  separators := by decide +kernel
  noNan := by decide +kernel
  close := .cons (.inr ⟨1, 5 / 4, by decide +kernel, by decide +kernel,
    .inl ⟨.finite (1 / 2), rfl, by decide +kernel⟩⟩) .nil

/-- Without `space_change_sensitive` it is accepted. -/
theorem compareOutput_tolerance_applied :
    (compareOutput Runtime.doubles [49, 46, 48] [49, 46, 50, 53]
      ⟨false, false, some (.finite (1 / 2)), some (.finite (1 / 2))⟩).1 = true := by
  have hparsed : parseCompareFlags Runtime.doubles [py "float_tolerance", py "0.5"] =
      .ok ⟨false, false, some (.finite (1 / 2)), some (.finite (1 / 2))⟩ := by decide +kernel
  obtain ⟨haccepted, hhalf⟩ := compareOutput_tolerance_iff doubles_caseRules
    doubles_doubleArithmetic hparsed ⟨py "float_tolerance", by decide, by decide⟩
    (closeOutputs_half false)
  apply haccepted.2
  refine .inl ⟨rfl, hhalf fun tolerance hset => ?_⟩
  exact (PyFloat.finite.inj (Option.some.inj hset)).ge

/-- With it, it is rejected although the tolerance is set. -/
theorem compareOutput_tolerance_ignored :
    ∃ flags, parseCompareFlags Runtime.doubles
        [py "float_tolerance", py "0.5", py "space_change_sensitive"] = .ok flags ∧
      CloseOutputs Runtime.doubles flags (Runtime.doubles.decodeSurrogateescape [49, 46, 48])
          (Runtime.doubles.decodeSurrogateescape [49, 46, 50, 53]) ∧
        (compareOutput Runtime.doubles [49, 46, 48] [49, 46, 50, 53] flags).1 = false :=
  ⟨⟨false, true, some (.finite (1 / 2)), some (.finite (1 / 2))⟩, by decide +kernel,
    closeOutputs_half true, by decide +kernel⟩

/-- `0.4` is rejected for `0.1` with a relative tolerance of three: the difference of the two
doubles is three times the answer, and rounded it is more. -/
example :
    Runtime.doubles.parseFloat (py "0.4") = some (.finite (4 * 3602879701896397 / 2 ^ 55)) ∧
      Runtime.doubles.parseFloat (py "0.1") = some (.finite (3602879701896397 / 2 ^ 55)) ∧
      (compareOutput Runtime.doubles [48, 46, 52] [48, 46, 49]
        ⟨false, false, none, some (.finite 3)⟩).1 = false := by
  decide +kernel

end IcpcVerify.Compare
