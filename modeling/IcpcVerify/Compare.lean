import IcpcVerify.Python.Runtime

/-!
# Default output comparison

Without flags the two texts are compared token by token, ignoring case.  The
flags ask for case, for exact whitespace, or for a tolerance under which numeric
tokens are compared as numbers.
-/

namespace IcpcVerify.Compare

open IcpcVerify.Python

structure CompareFlags where
  caseSensitive : Bool
  spaceChangeSensitive : Bool
  floatAbsoluteTolerance : Option PyFloat
  floatRelativeTolerance : Option PyFloat
  deriving DecidableEq

namespace CompareFlags

def initial : CompareFlags :=
  ⟨false, false, none, none⟩

def compareFloats (flags : CompareFlags) : Bool :=
  flags.floatAbsoluteTolerance.isSome || flags.floatRelativeTolerance.isSome

end CompareFlags

def compareFlagError (message : PyStr) : PyError :=
  ⟨.compareFlag, message⟩

/-- `_TOLERANCE_FLAGS`. -/
def toleranceFlags : List PyStr :=
  [py "float_tolerance", py "float_absolute_tolerance",
    py "float_relative_tolerance"]

/-- `_BOOL_FLAGS`. -/
def boolFlags : List PyStr :=
  [py "case_sensitive", py "space_change_sensitive"]

def setBool (flag : PyStr) (flags : CompareFlags) : CompareFlags :=
  if flag = py "case_sensitive" then { flags with caseSensitive := true }
  else { flags with spaceChangeSensitive := true }

def setTolerance (flag : PyStr) (value : PyFloat) (flags : CompareFlags) :
    CompareFlags :=
  let flags :=
    if flag = py "float_tolerance" ∨ flag = py "float_absolute_tolerance" then
      { flags with floatAbsoluteTolerance := some value }
    else flags
  if flag = py "float_tolerance" ∨ flag = py "float_relative_tolerance" then
    { flags with floatRelativeTolerance := some value }
  else flags

variable (rt : Runtime)

/-- The index loop of `parse_compare_flags`, on the items not read yet. -/
def parseItems : List PyStr → CompareFlags → PyM CompareFlags
  | [], flags => .ok flags
  | [flag], flags =>
      if flag ∈ boolFlags then .ok (setBool flag flags)
      else if flag ∈ toleranceFlags then
        .error (compareFlagError (flag ++ py " 에 값이 없습니다"))
      else .error (unknown flag)
  | flag :: value :: rest, flags =>
      if flag ∈ boolFlags then parseItems (value :: rest) (setBool flag flags)
      else if flag ∈ toleranceFlags then
        match rt.parseFloat value with
        | none => .error (compareFlagError
            (flag ++ py " 의 값이 숫자가 아닙니다: " ++ rt.repr value))
        | some number => parseItems rest (setTolerance flag number flags)
      else .error (unknown flag)
where
  unknown (flag : PyStr) : PyError :=
    compareFlagError (py "알 수 없는 validator flag 입니다: " ++ rt.repr flag)

def parseCompareFlags (items : List PyStr) : PyM CompareFlags :=
  parseItems rt items .initial

variable {rt} in
/-- The only exception of the parser is its own. -/
theorem parseItems_raises {items : List PyStr} {flags : CompareFlags} {exc : PyError}
    (hraised : parseItems rt items flags = .error exc) : exc.kind = .compareFlag := by
  fun_induction parseItems rt items flags with
  | case1 => cases hraised
  | case2 => cases hraised
  | case3 | case4 | case6 | case8 =>
      rw [← Except.error.inj hraised]
      rfl
  | case5 flags flag value rest hbool ih => exact ih hraised
  | case7 flags flag value rest hbool htolerance number hnumber ih => exact ih hraised

/-- `_floats_match`: `none` when one of the tokens is no number. -/
def floatsMatch (team answer : PyStr) (flags : CompareFlags) : Option Bool :=
  match rt.parseFloat team, rt.parseFloat answer with
  | some t, some a =>
      if t.isNan || a.isNan then some false
      else if t.eq a then some true
      else
        match t, a with
        | .finite t, .finite a => some (withinTolerance t a)
        -- at least one of the two is infinite here, and they differ
        | _, _ => some false
  | _, _ => none
where
  withinTolerance (t a : ℚ) : Bool :=
    let diff := (rt.roundFloat (t - a)).abs
    if flags.floatAbsoluteTolerance.any diff.le then true
    else
      match flags.floatRelativeTolerance with
      | some tolerance => a ≠ 0 && (diff.divPositive rt.roundFloat |a|).le tolerance
      | none => false

def tokenDiffers (index : ℕ) (t a : PyStr) : PyStr :=
  py "token " ++ formatNat index ++ py " 이 다릅니다: 기대 " ++ rt.repr a ++
    py ", 실제 " ++ rt.repr t

/-- Whether the loop of `_compare_tokens` goes on past the pair `(t, a)`. -/
def tokenMatches (flags : CompareFlags) (t a : PyStr) : Bool :=
  match if flags.compareFloats then floatsMatch rt t a flags else none with
  | some verdict => verdict
  | none =>
      if flags.caseSensitive then t = a else rt.lower t = rt.lower a

/-- First message of the loop of `_compare_tokens`, from token `index` on. -/
def firstTokenDifference (flags : CompareFlags) :
    ℕ → List (PyStr × PyStr) → Option PyStr
  | _, [] => none
  | index, (t, a) :: rest =>
      if tokenMatches rt flags t a then firstTokenDifference flags (index + 1) rest
      else some (tokenDiffers rt index t a)

/-- `_compare_tokens`. -/
def compareTokens (team answer : PyStr) (flags : CompareFlags) : Bool × PyStr :=
  let teamTokens := splitWhitespace team
  let answerTokens := splitWhitespace answer
  match firstTokenDifference rt flags 1 (teamTokens.zip answerTokens) with
  | some message => (false, message)
  | none =>
      if teamTokens.length ≠ answerTokens.length then
        (false, py "token 개수가 다릅니다: 기대 " ++ formatNat answerTokens.length ++
          py "개, 실제 " ++ formatNat teamTokens.length ++ py "개")
      else (true, [])

/-- First message of the loop of `_compare_exact`, from character `index` on. -/
def firstCharacterDifference : ℕ → List (CodePoint × CodePoint) → Option PyStr
  | _, [] => none
  | index, (lc, rc) :: rest =>
      if lc ≠ rc then
        some (formatNat index ++ py "번째 문자가 다릅니다: 기대 " ++ rt.repr [rc] ++
          py ", 실제 " ++ rt.repr [lc])
      else firstCharacterDifference (index + 1) rest

/-- `_compare_exact`. -/
def compareExact (team answer : PyStr) (flags : CompareFlags) : Bool × PyStr :=
  let left := fold (rstrip newline team)
  let right := fold (rstrip newline answer)
  if left = right then (true, [])
  else
    match firstCharacterDifference rt 1 (left.zip right) with
    | some message => (false, message)
    | none =>
        (false, py "길이가 다릅니다: 기대 " ++ formatNat right.length ++
          py ", 실제 " ++ formatNat left.length)
where
  fold (text : PyStr) : PyStr :=
    if flags.caseSensitive then text else rt.lower text

def compareOutput (team answer : Bytes) (flags : CompareFlags) : Bool × PyStr :=
  let teamText := rt.decodeSurrogateescape team
  let answerText := rt.decodeSurrogateescape answer
  if flags.spaceChangeSensitive then compareExact rt teamText answerText flags
  else compareTokens rt teamText answerText flags

end IcpcVerify.Compare
