import IcpcVerify.Core.FallibleRun
import IcpcVerify.Python.Runtime

/-!
# Time limit and hard kill

The overshoot notation is DOMjudge's: seconds `Xs`, a percentage of the limit
`Y%`, the larger of two terms `Xs|Y%` or the smaller `Xs&Y%`.
-/

namespace IcpcVerify.Timelimits

open IcpcVerify.Python
open IcpcVerify.FallibleRun

structure TimeLimits where
  limit : ℚ
  overshoot : ℚ
  hardKill : ℚ
  deriving DecidableEq

/-- What may follow the unit at `$`: nothing, or one trailing newline. -/
def atEnd (rest : PyStr) : Bool :=
  rest = [] ∨ rest = [newline]

/-- `^(\d+(?:\.\d+)?)U$` for the unit `U`, with the value of its group.  The
digits, the dot and the unit are disjoint, so the match needs no backtracking. -/
def matchTerm (unit : CodePoint) (term : PyStr) : Option ℚ :=
  match spanDigits term with
  | ([], _) => none
  | (whole, c :: rest) =>
      if c = unit ∧ atEnd rest then some (Decimal.numeral whole [])
      else if c = ord '.' then
        match spanDigits rest with
        | ([], _) => none
        | (fraction, c' :: rest') =>
            if c' = unit ∧ atEnd rest' then some (Decimal.numeral whole fraction)
            else none
        | (_, []) => none
      else none
  | (_, []) => none

def overshootSpecError (message : PyStr) : PyError :=
  ⟨.overshootSpec, message⟩

variable (rt : Runtime)

/-- `_term_to_seconds`. -/
def termToSeconds (term : PyStr) (limit : ℚ) : PyM ℚ :=
  match matchTerm (ord 's') term with
  | some seconds => .ok seconds
  | none =>
      match matchTerm (ord '%') term with
      | some percent => .ok (limit * percent / 100)
      | none => .error (overshootSpecError
          (py "overshoot 항목을 해석할 수 없습니다: " ++ rt.repr term))

/-- The overshoot of a stripped, non-empty spec. -/
def overshootOf (limit : ℚ) (overshootSpec spec : PyStr) : PyM ℚ :=
  if ord '|' ∈ spec ∧ ord '&' ∈ spec then
    .error (overshootSpecError
      (py "'|'와 '&'를 함께 쓸 수 없습니다: " ++ rt.repr overshootSpec))
  else if ord '|' ∈ spec then combine (ord '|') max
  else if ord '&' ∈ spec then combine (ord '&') min
  else termToSeconds rt spec limit
where
  combine (sep : CodePoint) (choose : ℚ → ℚ → ℚ) : PyM ℚ :=
    match (splitOn sep spec).map strip with
    | [left, right] => do
        let first ← termToSeconds rt left limit
        let second ← termToSeconds rt right limit
        return choose first second
    | _ => .error (overshootSpecError
        (py "항목이 2개여야 합니다: " ++ rt.repr overshootSpec))

def makeTimeLimits (limit : ℚ) (overshootSpec : PyStr) : PyM TimeLimits :=
  if limit ≤ 0 then
    .error (overshootSpecError
      (py "시간제한은 0보다 커야 합니다: " ++ rt.strFloat limit))
  else if strip overshootSpec = [] then
    .error (overshootSpecError (py "overshoot 표기가 비어 있습니다"))
  else do
    let overshoot ← overshootOf rt limit overshootSpec (strip overshootSpec)
    return { limit, overshoot, hardKill := limit + overshoot }

/-! ## What an accepted spec stands for -/

theorem matchTerm_nonneg {unit : CodePoint} {term : PyStr} {amount : ℚ}
    (hmatch : matchTerm unit term = some amount) : 0 ≤ amount := by
  rw [matchTerm] at hmatch
  split at hmatch
  · cases hmatch
  · split_ifs at hmatch
    · rw [← Option.some.inj hmatch]
      exact Decimal.numeral_nonneg _ _
    · split at hmatch
      · cases hmatch
      · split_ifs at hmatch
        rw [← Option.some.inj hmatch]
        exact Decimal.numeral_nonneg _ _
      · cases hmatch
  · cases hmatch

variable {rt} {limit : ℚ}

theorem termToSeconds_nonneg (hlimit : 0 < limit) {term : PyStr} {seconds : ℚ}
    (hok : termToSeconds rt term limit = .ok seconds) : 0 ≤ seconds := by
  rw [termToSeconds] at hok
  split at hok
  · next amount hmatch =>
    rw [← Except.ok.inj hok]
    exact matchTerm_nonneg hmatch
  · split at hok
    · next percent hmatch =>
      rw [← Except.ok.inj hok]
      have := matchTerm_nonneg hmatch
      positivity
    · cases hok

theorem combine_nonneg (hlimit : 0 < limit) {overshootSpec spec : PyStr} {sep : CodePoint}
    {choose : ℚ → ℚ → ℚ} (hchoose : ∀ x y, 0 ≤ x → 0 ≤ y → 0 ≤ choose x y)
    {overshoot : ℚ}
    (hok : overshootOf.combine rt limit overshootSpec spec sep choose = .ok overshoot) :
    0 ≤ overshoot := by
  rw [overshootOf.combine] at hok
  split at hok
  · next left right hterms =>
    obtain ⟨first, hfirst, hrest⟩ := bind_eq_ok_iff.1 hok
    obtain ⟨second, hsecond, hchosen⟩ := bind_eq_ok_iff.1 hrest
    rw [← Except.ok.inj hchosen]
    apply hchoose
    · exact termToSeconds_nonneg hlimit hfirst
    · exact termToSeconds_nonneg hlimit hsecond
  · cases hok

/-- The overshoot is never negative. -/
theorem overshootOf_nonneg (hlimit : 0 < limit) {overshootSpec spec : PyStr} {overshoot : ℚ}
    (hok : overshootOf rt limit overshootSpec spec = .ok overshoot) : 0 ≤ overshoot := by
  rw [overshootOf] at hok
  split_ifs at hok
  · exact combine_nonneg hlimit (fun x y hx _ => le_max_of_le_left hx) hok
  · exact combine_nonneg hlimit (fun x y hx hy => le_min hx hy) hok
  · exact termToSeconds_nonneg hlimit hok

/-- The limits of an accepted limit and spec. -/
theorem makeTimeLimits_ok_iff {overshootSpec : PyStr} {limits : TimeLimits} :
    makeTimeLimits rt limit overshootSpec = .ok limits ↔
      0 < limit ∧ strip overshootSpec ≠ [] ∧ ∃ overshoot,
        overshootOf rt limit overshootSpec (strip overshootSpec) = .ok overshoot ∧
          limits = ⟨limit, overshoot, limit + overshoot⟩ := by
  rw [makeTimeLimits]
  split_ifs with hlimit hempty
  · exact iff_of_false (by simp) fun h => absurd h.1 (not_lt.2 hlimit)
  · exact iff_of_false (by simp) fun h => h.2.1 hempty
  · have hpositive : 0 < limit := not_le.1 hlimit
    cases hovershoot : overshootOf rt limit overshootSpec (strip overshootSpec) with
    | error exc => simp [bind, Except.bind]
    | ok overshoot =>
        simp [bind, Except.bind, pure, Except.pure, hpositive, hempty, eq_comm]

end IcpcVerify.Timelimits
