import IcpcVerify.Compare
import IcpcVerify.Core.FallibleRun

/-!
# The reference of the token comparison

When a pair of tokens matches, said without the order of the checks that
`_floats_match` makes.  With exact arithmetic the comparison of two texts is this relation
on their token lists; with any rounding it never divides by zero.
-/

namespace IcpcVerify.Compare

open IcpcVerify.Python
open IcpcVerify.FallibleRun

variable (rt : Runtime) (flags : CompareFlags)

/-! ## Pairs of tokens -/

/-- The numbers are at most the absolute tolerance apart. -/
def WithinAbsolute (t a : ℚ) : Prop :=
  ∃ tolerance, flags.floatAbsoluteTolerance = some tolerance ∧
    PyFloat.finiteLe |t - a| tolerance = true

/-- The numbers are at most the relative tolerance times the answer apart. -/
def WithinRelative (t a : ℚ) : Prop :=
  ∃ tolerance, flags.floatRelativeTolerance = some tolerance ∧
    PyFloat.finiteLe |t - a| (tolerance.mulFinite |a|) = true

/-- Neither is NaN, and they are equal or finite and within one of the tolerances. -/
def NumbersMatch (t a : PyFloat) : Prop :=
  t ≠ .nan ∧ a ≠ .nan ∧
    (t = a ∨ ∃ x y : ℚ, t = .finite x ∧ a = .finite y ∧
      (WithinAbsolute flags x y ∨ (y ≠ 0 ∧ WithinRelative flags x y)))

/-- The tokens are equal as text, up to case unless it matters. -/
def SameText (t a : PyStr) : Prop :=
  if flags.caseSensitive then t = a else rt.lower t = rt.lower a

/-- The token of the team matches the token of the answer: as numbers if a tolerance
is set and both are numbers, and as text otherwise. -/
inductive PairMatches (t a : PyStr) : Prop where
  | number (x y : PyFloat) (htolerance : flags.compareFloats = true)
      (hteam : rt.parseFloat t = some x) (hanswer : rt.parseFloat a = some y)
      (hmatch : NumbersMatch flags x y)
  | text
      (htext : ¬(flags.compareFloats = true ∧ (rt.parseFloat t).isSome ∧
        (rt.parseFloat a).isSome))
      (hsame : SameText rt flags t a)

theorem eq_iff_of_not_nan {t a : PyFloat} (ht : t ≠ .nan) : t.eq a = true ↔ t = a := by
  cases t <;> cases a <;> simp_all [PyFloat.eq]

theorem isNan_iff (t : PyFloat) : t.isNan = true ↔ t = .nan := by
  cases t <;> simp [PyFloat.isNan]

/-- The two tests of `_floats_match`, whatever the rounding. -/
theorem withinTolerance_iff (t a : ℚ) :
    floatsMatch.withinTolerance rt flags t a = true ↔
      (∃ tolerance, flags.floatAbsoluteTolerance = some tolerance ∧
        (rt.roundFloat (t - a)).abs.le tolerance = true) ∨
      (a ≠ 0 ∧ ∃ tolerance, flags.floatRelativeTolerance = some tolerance ∧
        ((rt.roundFloat (t - a)).abs.divPositive rt.roundFloat |a|).le tolerance = true) := by
  have habsolute : flags.floatAbsoluteTolerance.any (rt.roundFloat (t - a)).abs.le = true ↔
      ∃ tolerance, flags.floatAbsoluteTolerance = some tolerance ∧
        (rt.roundFloat (t - a)).abs.le tolerance = true :=
    Option.any_eq_true _ _
  simp only [floatsMatch.withinTolerance]
  rw [← habsolute]
  by_cases hwithin : flags.floatAbsoluteTolerance.any (rt.roundFloat (t - a)).abs.le = true
  · simp [hwithin]
  · cases hset : flags.floatRelativeTolerance with
    | none => simp [hwithin]
    | some tolerance => simp [hwithin]

/-- Without rounding they are those of the tolerances. -/
theorem withinTolerance_exact_iff (t a : ℚ) :
    floatsMatch.withinTolerance rt.exact flags t a = true ↔
      WithinAbsolute flags t a ∨ (a ≠ 0 ∧ WithinRelative flags t a) := by
  rw [withinTolerance_iff]
  apply or_congr Iff.rfl
  apply and_congr_right
  intro ha
  apply exists_congr
  intro tolerance
  exact and_congr_right fun _ => PyFloat.finiteLe_div_iff (abs_pos.2 ha) tolerance

/-- What `_floats_match` decides for two numbers. -/
def NumbersAccepted (t a : PyFloat) : Prop :=
  t ≠ .nan ∧ a ≠ .nan ∧
    (t = a ∨ ∃ x y : ℚ, t = .finite x ∧ a = .finite y ∧
      floatsMatch.withinTolerance rt flags x y = true)

theorem numbersAccepted_exact_iff (t a : PyFloat) :
    NumbersAccepted rt.exact flags t a ↔ NumbersMatch flags t a := by
  simp only [NumbersAccepted, NumbersMatch, withinTolerance_exact_iff]

theorem floatsMatch_of_numbers {team answer : PyStr} {t a : PyFloat}
    (hteam : rt.parseFloat team = some t) (hanswer : rt.parseFloat answer = some a) :
    ∃ verdict, floatsMatch rt team answer flags = some verdict ∧
      (verdict = true ↔ NumbersAccepted rt flags t a) := by
  simp only [floatsMatch, hteam, hanswer]
  by_cases hnan : t = .nan ∨ a = .nan
  · refine ⟨false, ?_, ?_⟩
    · simp [isNan_iff, hnan]
    · apply iff_of_false Bool.false_ne_true
      intro hmatch
      exact hnan.elim hmatch.1 hmatch.2.1
  · push Not at hnan
    simp only [Bool.or_eq_true, isNan_iff, hnan.1, hnan.2, or_self, if_false]
    by_cases heq : t = a
    · refine ⟨true, ?_, ?_⟩
      · simp [(eq_iff_of_not_nan hnan.1).2 heq]
      · exact iff_of_true rfl ⟨hnan.1, hnan.2, .inl heq⟩
    · have hne : t.eq a ≠ true := fun h => heq ((eq_iff_of_not_nan hnan.1).1 h)
      simp only [hne, NumbersAccepted, heq, false_or]
      cases t <;> cases a <;> simp_all

/-- Two tokens that are numbers, with a tolerance set. -/
theorem tokenMatches_of_numbers (htolerance : flags.compareFloats = true) {t a : PyStr}
    {x y : PyFloat} (ht : rt.parseFloat t = some x) (ha : rt.parseFloat a = some y) :
    tokenMatches rt flags t a = true ↔ NumbersAccepted rt flags x y := by
  obtain ⟨verdict, hverdict, hmatch⟩ := floatsMatch_of_numbers rt flags ht ha
  simp only [tokenMatches, htolerance, if_true, hverdict]
  exact hmatch

/-- Two tokens that are not compared as numbers. -/
theorem tokenMatches_of_text {t a : PyStr}
    (htext : ¬(flags.compareFloats = true ∧ (rt.parseFloat t).isSome ∧
      (rt.parseFloat a).isSome)) :
    tokenMatches rt flags t a = true ↔ SameText rt flags t a := by
  have hnone : (if flags.compareFloats then floatsMatch rt t a flags else none) = none := by
    by_cases htolerance : flags.compareFloats = true
    · rw [if_pos htolerance, floatsMatch]
      split
      · next hx hy => simp [htolerance, hx, hy] at htext
      · rfl
    · rw [if_neg htolerance]
  simp only [tokenMatches, hnone, SameText]
  split_ifs <;> simp

theorem tokenMatches_exact_iff (t a : PyStr) :
    tokenMatches rt.exact flags t a = true ↔ PairMatches rt flags t a := by
  by_cases hnumbers : flags.compareFloats = true ∧ (rt.parseFloat t).isSome ∧
      (rt.parseFloat a).isSome
  · obtain ⟨htolerance, ht, ha⟩ := hnumbers
    obtain ⟨x, hx⟩ := Option.isSome_iff_exists.1 ht
    obtain ⟨y, hy⟩ := Option.isSome_iff_exists.1 ha
    rw [tokenMatches_of_numbers rt.exact flags htolerance hx hy, numbersAccepted_exact_iff]
    constructor
    · exact .number x y htolerance hx hy
    · intro hpair
      cases hpair with
      | number x' y' _ hx' hy' hnumbers =>
          rw [hx] at hx'
          rw [hy] at hy'
          rwa [Option.some.inj hx', Option.some.inj hy']
      | text htext _ => exact absurd ⟨htolerance, ht, ha⟩ htext
  · have htext : tokenMatches rt.exact flags t a = true ↔ SameText rt flags t a :=
      tokenMatches_of_text rt.exact flags hnumbers
    rw [htext]
    constructor
    · exact .text hnumbers
    · intro hpair
      cases hpair with
      | number x y htolerance hx hy _ => simp [htolerance, hx, hy] at hnumbers
      | text _ hsame => exact hsame

/-! ## Lists of tokens -/

theorem firstTokenDifference_eq_none_iff (index : ℕ) (pairs : List (PyStr × PyStr)) :
    firstTokenDifference rt flags index pairs = none ↔
      ∀ pair ∈ pairs, tokenMatches rt flags pair.1 pair.2 = true := by
  induction pairs generalizing index with
  | nil => simp [firstTokenDifference]
  | cons pair pairs ih =>
      rw [firstTokenDifference, List.forall_mem_cons]
      split_ifs with hmatches
      · simp [hmatches, ih]
      · simp [hmatches]

/-- The loop over the shorter list and the length check after it come to one relation
between the two lists. -/
theorem compareTokens_accepts_iff (team answer : PyStr) :
    (compareTokens rt team answer flags).1 = true ↔
      List.Forall₂ (fun t a => tokenMatches rt flags t a = true) (splitWhitespace team)
        (splitWhitespace answer) := by
  rw [List.forall₂_iff_zip]
  have hloop := firstTokenDifference_eq_none_iff rt flags 1
    ((splitWhitespace team).zip (splitWhitespace answer))
  simp only [compareTokens]
  cases hfirst : firstTokenDifference rt flags 1
      ((splitWhitespace team).zip (splitWhitespace answer)) with
  | some message =>
      apply iff_of_false Bool.false_ne_true
      rintro ⟨-, hpairs⟩
      rw [hfirst] at hloop
      exact absurd (hloop.2 fun pair hpair => hpairs hpair) (by simp)
  | none =>
      have hpairs := hloop.1 hfirst
      split_ifs with hlength
      · simp [hlength]
      · simp only [true_iff]
        exact ⟨not_not.1 hlength, fun hpair => hpairs _ hpair⟩

/-! ## Division -/

/-- Python's `/` by a finite number that is not negative. -/
def trueDivide (x : PyFloat) (y : ℚ) : PyM PyFloat :=
  if y = 0 then throw ⟨.zeroDivision, py "float division by zero"⟩
  else return x.divPositive rt.roundFloat y

/-- The tolerance tests of `_floats_match`, with the division as Python executes it. -/
def withinToleranceDividing (t a : ℚ) : PyM Bool :=
  let diff := (rt.roundFloat (t - a)).abs
  if flags.floatAbsoluteTolerance.any diff.le then return true
  else
    match flags.floatRelativeTolerance with
    | some tolerance =>
        if a ≠ 0 then (trueDivide rt diff |a|).map fun ratio => ratio.le tolerance
        else return false
    | none => return false

/-- `_floats_match` with its division as Python executes it. -/
def floatsMatchDividing (team answer : PyStr) : PyM (Option Bool) :=
  match rt.parseFloat team, rt.parseFloat answer with
  | some t, some a =>
      if t.isNan || a.isNan then return some false
      else if t.eq a then return some true
      else
        match t, a with
        | .finite t, .finite a => (withinToleranceDividing rt flags t a).map some
        | _, _ => return some false
  | _, _ => return none

def tokenMatchesDividing (t a : PyStr) : PyM Bool := do
  match ← if flags.compareFloats then floatsMatchDividing rt flags t a else pure none with
  | some verdict => return verdict
  | none => return if flags.caseSensitive then t = a else rt.lower t = rt.lower a

def firstTokenDifferenceDividing : ℕ → List (PyStr × PyStr) → PyM (Option PyStr)
  | _, [] => return none
  | index, (t, a) :: rest => do
      if ← tokenMatchesDividing rt flags t a then
        firstTokenDifferenceDividing (index + 1) rest
      else return some (tokenDiffers rt index t a)

/-- `compare_output` with every division as Python executes it. -/
def compareOutputDividing (team answer : Bytes) : PyM (Bool × PyStr) :=
  let teamText := rt.decodeSurrogateescape team
  let answerText := rt.decodeSurrogateescape answer
  if flags.spaceChangeSensitive then return compareExact rt teamText answerText flags
  else do
    let teamTokens := splitWhitespace teamText
    let answerTokens := splitWhitespace answerText
    match ← firstTokenDifferenceDividing rt flags 1 (teamTokens.zip answerTokens) with
    | some message => return (false, message)
    | none =>
        if teamTokens.length ≠ answerTokens.length then
          return (false, py "token 개수가 다릅니다: 기대 " ++ formatNat answerTokens.length ++
            py "개, 실제 " ++ formatNat teamTokens.length ++ py "개")
        else return (true, [])

/-- The division is only reached when the answer is not zero. -/
theorem withinToleranceDividing_eq (t a : ℚ) :
    withinToleranceDividing rt flags t a = .ok (floatsMatch.withinTolerance rt flags t a) := by
  simp only [withinToleranceDividing, floatsMatch.withinTolerance]
  by_cases habsolute :
      flags.floatAbsoluteTolerance.any (rt.roundFloat (t - a)).abs.le = true
  · rw [if_pos habsolute, if_pos habsolute]
    rfl
  · rw [if_neg habsolute, if_neg habsolute]
    cases flags.floatRelativeTolerance with
    | none => rfl
    | some tolerance =>
        by_cases ha : a = 0
        · simp [ha, pure, Except.pure]
        · simp [ha, trueDivide, Except.map, pure, Except.pure]

theorem floatsMatchDividing_eq (team answer : PyStr) :
    floatsMatchDividing rt flags team answer = .ok (floatsMatch rt team answer flags) := by
  rw [floatsMatchDividing, floatsMatch]
  cases rt.parseFloat team with
  | none => rfl
  | some t =>
      cases rt.parseFloat answer with
      | none => rfl
      | some a =>
          dsimp only
          split_ifs
          · rfl
          · rfl
          · cases t <;> cases a <;> simp [withinToleranceDividing_eq, Except.map, pure, Except.pure]

theorem tokenMatchesDividing_eq (t a : PyStr) :
    tokenMatchesDividing rt flags t a = .ok (tokenMatches rt flags t a) := by
  rw [tokenMatchesDividing, tokenMatches]
  by_cases htolerance : flags.compareFloats = true
  · rw [if_pos htolerance, if_pos htolerance, floatsMatchDividing_eq]
    cases floatsMatch rt t a flags <;> rfl
  · rw [if_neg htolerance, if_neg htolerance]
    rfl

theorem firstTokenDifferenceDividing_eq (index : ℕ) (pairs : List (PyStr × PyStr)) :
    firstTokenDifferenceDividing rt flags index pairs =
      .ok (firstTokenDifference rt flags index pairs) := by
  induction pairs generalizing index with
  | nil => rfl
  | cons pair pairs ih =>
      rw [firstTokenDifferenceDividing, firstTokenDifference, tokenMatchesDividing_eq]
      cases tokenMatches rt flags pair.1 pair.2 with
      | true => exact ih (index + 1)
      | false => rfl

/-- No division by zero is ever attempted. -/
theorem compareOutputDividing_eq (team answer : Bytes) :
    compareOutputDividing rt flags team answer = .ok (compareOutput rt team answer flags) := by
  rw [compareOutputDividing, compareOutput]
  by_cases hspace : flags.spaceChangeSensitive = true
  · rw [if_pos hspace, if_pos hspace]
    rfl
  · simp only [hspace, compareTokens, firstTokenDifferenceDividing_eq]
    cases firstTokenDifference rt flags 1 _ with
    | some message => rfl
    | none =>
        simp only [bind, Except.bind, pure, Except.pure]
        split_ifs <;> rfl

/-! ## Whole outputs -/

/-- The comparison raises nothing; without `space_change_sensitive`, and with exact
arithmetic on the numbers, it is the reference relation on the token lists. -/
theorem compareOutput_reference (team answer : Bytes) :
    compareOutputDividing rt flags team answer = .ok (compareOutput rt team answer flags) ∧
      (flags.spaceChangeSensitive = false →
        ((compareOutput rt.exact team answer flags).1 = true ↔
          List.Forall₂ (PairMatches rt flags)
            (splitWhitespace (rt.decodeSurrogateescape team))
            (splitWhitespace (rt.decodeSurrogateescape answer)))) := by
  refine ⟨compareOutputDividing_eq rt flags team answer, fun hspace => ?_⟩
  rw [compareOutput, hspace, if_neg Bool.false_ne_true, compareTokens_accepts_iff]
  simp only [tokenMatches_exact_iff]
  rfl

/-- `1.25 YES` is accepted for `1 yes` with an absolute tolerance of one half. -/
theorem compareOutput_reference_tolerant :
    List.Forall₂ (PairMatches Runtime.ascii ⟨false, false, some (.finite (1 / 2)), none⟩)
      (splitWhitespace (py "1.25 YES")) (splitWhitespace (py "1 yes")) :=
  ((compareOutput_reference Runtime.ascii ⟨false, false, some (.finite (1 / 2)), none⟩
    [49, 46, 50, 53, 32, 89, 69, 83] [49, 32, 121, 101, 115]).2 rfl).1 (by decide +kernel)

theorem sameText_refl (t : PyStr) : SameText rt flags t t := by
  rw [SameText]
  split_ifs <;> rfl

/-- A token matches itself unless it is compared as a number and reads as NaN. -/
theorem tokenMatches_self_iff (t : PyStr) :
    tokenMatches rt flags t t = true ↔
      ¬(flags.compareFloats = true ∧ rt.parseFloat t = some .nan) := by
  by_cases hnumber : flags.compareFloats = true ∧ (rt.parseFloat t).isSome
  · obtain ⟨htolerance, hsome⟩ := hnumber
    obtain ⟨x, hx⟩ := Option.isSome_iff_exists.1 hsome
    rw [tokenMatches_of_numbers rt flags htolerance hx hx, NumbersAccepted, hx]
    simp [htolerance]
  · rw [tokenMatches_of_text rt flags fun h => hnumber ⟨h.1, h.2.1⟩]
    refine iff_of_true (sameText_refl rt flags t) ?_
    rintro ⟨htolerance, hnan⟩
    exact hnumber ⟨htolerance, by simp [hnan]⟩

theorem compareExact_self (text : PyStr) : compareExact rt text text flags = (true, []) := by
  simp [compareExact]

/-- An output is accepted against itself unless, with a tolerance and without
`space_change_sensitive`, one of its tokens reads as NaN. -/
theorem compareOutput_self_iff (output : Bytes) :
    (compareOutput rt output output flags).1 = true ↔
      ¬(flags.spaceChangeSensitive = false ∧ flags.compareFloats = true ∧
        ∃ token ∈ splitWhitespace (rt.decodeSurrogateescape output),
          rt.parseFloat token = some .nan) := by
  rw [compareOutput]
  cases hspace : flags.spaceChangeSensitive with
  | true => simp [compareExact_self]
  | false =>
      rw [if_neg Bool.false_ne_true, compareTokens_accepts_iff, List.forall₂_same]
      simp only [tokenMatches_self_iff]
      constructor
      · rintro hall ⟨-, htolerance, token, htoken, hnan⟩
        exact hall token htoken ⟨htolerance, hnan⟩
      · rintro hnone token htoken ⟨htolerance, hnan⟩
        exact hnone ⟨trivial, htolerance, token, htoken, hnan⟩

/-- With `float_tolerance` the word `nan` is rejected against itself. -/
theorem compareOutput_self_nan :
    ∃ flags, parseCompareFlags Runtime.asciiSpecials [py "float_tolerance", py "0.5"] =
        .ok flags ∧
      (compareOutput Runtime.asciiSpecials [110, 97, 110] [110, 97, 110] flags).1 = false :=
  ⟨⟨false, false, some (.finite (1 / 2)), some (.finite (1 / 2))⟩, by decide +kernel,
    by decide +kernel⟩

end IcpcVerify.Compare
