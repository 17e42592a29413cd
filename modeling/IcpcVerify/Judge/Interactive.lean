import IcpcVerify.Results
import IcpcVerify.Runner.Record

/-!
# Classifying an interactive run

The order is: time of the solution, then faults of the validator (a dead or
hung validator drags the solution down with it), then memory and abnormal exit
of the solution, then the validator's answer.  `SIGPIPE` is forgiven.
-/

namespace IcpcVerify.Judge

open IcpcVerify.Python
open IcpcVerify.Timelimits
open IcpcVerify.Results
open IcpcVerify.Runner

/-- `signal.SIGPIPE`. -/
def sigpipe : ℤ := 13

/-- `solution_over_limit`. -/
def SolutionOverLimit (sol : SolutionRecord) (limits : TimeLimits) : Prop :=
  sol.timedOut = true ∨ sol.wall > limits.limit

instance (sol : SolutionRecord) (limits : TimeLimits) :
    Decidable (SolutionOverLimit sol limits) :=
  inferInstanceAs (Decidable (_ ∨ _))

/-- `_classify_interactive`. -/
def classifyInteractive (raw : InteractiveRecord) (limits : TimeLimits)
    (memoryMib : ℤ) : Verdict × PyStr :=
  let sol := raw.solution
  if raw.pairTimedOut ∧ ¬SolutionOverLimit sol limits then
    (.judgeError, py "validator 가 pair timeout 안에 끝나지 않았습니다 (solution wall " ++
      formatFixed 3 sol.wall ++ py "s <= 시간제한 " ++ formatFixed 3 limits.limit ++
        py "s)")
  else if raw.pairTimedOut ∨ SolutionOverLimit sol limits then
    (.timeLimitExceeded, overLimitMessage sol.wall limits.limit)
  else if raw.validatorExit ≠ 42 ∧ raw.validatorExit ≠ 43 then
    (.judgeError, py "validator exit code " ++ formatInt raw.validatorExit)
  else if sol.maxRssKib > memoryMib * 1024 then
    (.runTimeError, py "메모리 제한을 넘었습니다 (max RSS 기준)")
  else if sol.signal ≠ 0 ∧ sol.signal ≠ sigpipe then
    (.runTimeError, signalMessage sol.signal)
  else if sol.signal = 0 ∧ sol.exitCode ≠ 0 then
    (.runTimeError, exitCodeMessage sol.exitCode)
  else if raw.validatorExit = 42 then (.accepted, [])
  else (.wrongAnswer, [])

/-- The solution ended well: on its own with status zero, or by writing to a
validator that was already gone. -/
def EndedWell (sol : SolutionRecord) : Prop :=
  sol.signal = sigpipe ∨ (sol.signal = 0 ∧ sol.exitCode = 0)

instance (sol : SolutionRecord) : Decidable (EndedWell sol) :=
  inferInstanceAs (Decidable (_ ∨ _))

/-- The validator finished and gave one of its two answers. -/
def ValidatorAnswered (raw : InteractiveRecord) : Prop :=
  raw.pairTimedOut = false ∧ (raw.validatorExit = 42 ∨ raw.validatorExit = 43)

instance (raw : InteractiveRecord) : Decidable (ValidatorAnswered raw) :=
  inferInstanceAs (Decidable (_ ∧ _))

variable (raw : InteractiveRecord) (limits : TimeLimits) (memoryMib : ℤ)

theorem classifyInteractive_of_over
    (hover : SolutionOverLimit raw.solution limits) :
    (classifyInteractive raw limits memoryMib).1 = .timeLimitExceeded := by
  rw [classifyInteractive, if_neg (fun h => h.2 hover), if_pos (Or.inr hover)]

theorem classifyInteractive_of_not_answered
    (hin : ¬SolutionOverLimit raw.solution limits)
    (hanswer : ¬ValidatorAnswered raw) :
    (classifyInteractive raw limits memoryMib).1 = .judgeError := by
  cases hpair : raw.pairTimedOut with
  | true => rw [classifyInteractive, if_pos ⟨hpair, hin⟩]
  | false =>
      have hexit : raw.validatorExit ≠ 42 ∧ raw.validatorExit ≠ 43 := by
        simpa [ValidatorAnswered, hpair] using hanswer
      simp [classifyInteractive, hpair, hin, hexit]

/-- Once time and the validator are out of question, the rest is a plain
priority list over the solution's own record. -/
theorem classifyInteractive_of_answered
    (hin : ¬SolutionOverLimit raw.solution limits)
    (hanswer : ValidatorAnswered raw) :
    (classifyInteractive raw limits memoryMib).1 =
      if raw.solution.maxRssKib > memoryMib * 1024 then .runTimeError
      else if ¬EndedWell raw.solution then .runTimeError
      else if raw.validatorExit = 42 then .accepted else .wrongAnswer := by
  obtain ⟨hpair, hexit⟩ := hanswer
  have hexit' : ¬(raw.validatorExit ≠ 42 ∧ raw.validatorExit ≠ 43) := by omega
  by_cases hmemory : raw.solution.maxRssKib > memoryMib * 1024
  · simp [classifyInteractive, hpair, hin, hexit', hmemory]
  by_cases hpipe : raw.solution.signal = sigpipe
  · simp [classifyInteractive, hpair, hin, hexit', hmemory, EndedWell, hpipe, sigpipe]
    split_ifs <;> rfl
  by_cases hsignal : raw.solution.signal = 0
  · by_cases hcode : raw.solution.exitCode = 0
    · simp [classifyInteractive, hpair, hin, hexit', hmemory, EndedWell, hsignal, hcode]
      split_ifs <;> rfl
    · simp [classifyInteractive, hpair, hin, hexit', hmemory, EndedWell, hsignal, hcode,
        sigpipe]
  · simp [classifyInteractive, hpair, hin, hexit', hmemory, EndedWell, hsignal, hpipe]

theorem classifyInteractive_judgeError_iff :
    (classifyInteractive raw limits memoryMib).1 = .judgeError ↔
      ¬SolutionOverLimit raw.solution limits ∧ ¬ValidatorAnswered raw := by
  by_cases hover : SolutionOverLimit raw.solution limits
  · simp [classifyInteractive_of_over raw limits memoryMib hover, hover]
  by_cases hanswer : ValidatorAnswered raw
  · rw [classifyInteractive_of_answered raw limits memoryMib hover hanswer]
    split_ifs <;> simp [hanswer]
  · simp [classifyInteractive_of_not_answered raw limits memoryMib hover hanswer, hover,
      hanswer]

theorem classifyInteractive_timeLimitExceeded_iff :
    (classifyInteractive raw limits memoryMib).1 = .timeLimitExceeded ↔
      SolutionOverLimit raw.solution limits := by
  by_cases hover : SolutionOverLimit raw.solution limits
  · simp [classifyInteractive_of_over raw limits memoryMib hover, hover]
  by_cases hanswer : ValidatorAnswered raw
  · rw [classifyInteractive_of_answered raw limits memoryMib hover hanswer]
    split_ifs <;> simp [hover]
  · simp [classifyInteractive_of_not_answered raw limits memoryMib hover hanswer, hover]

theorem classifyInteractive_accepted_iff :
    (classifyInteractive raw limits memoryMib).1 = .accepted ↔
      ¬SolutionOverLimit raw.solution limits ∧ raw.pairTimedOut = false ∧
        raw.validatorExit = 42 ∧ raw.solution.maxRssKib ≤ memoryMib * 1024 ∧
          EndedWell raw.solution := by
  by_cases hover : SolutionOverLimit raw.solution limits
  · simp [classifyInteractive_of_over raw limits memoryMib hover, hover]
  by_cases hanswer : ValidatorAnswered raw
  · rw [classifyInteractive_of_answered raw limits memoryMib hover hanswer]
    have hpair := hanswer.1
    split_ifs with hmemory hended hexit <;> simp_all
  · rw [classifyInteractive_of_not_answered raw limits memoryMib hover hanswer]
    apply iff_of_false (by decide)
    rintro ⟨-, hpair, hexit, -⟩
    exact hanswer ⟨hpair, Or.inl hexit⟩

/-- The verdicts `_classify_interactive` can give. -/
theorem classifyInteractive_verdict :
    (classifyInteractive raw limits memoryMib).1 ∈
      [Verdict.accepted, .wrongAnswer, .timeLimitExceeded, .runTimeError,
        .judgeError] := by
  by_cases hover : SolutionOverLimit raw.solution limits
  · simp [classifyInteractive_of_over raw limits memoryMib hover]
  by_cases hanswer : ValidatorAnswered raw
  · rw [classifyInteractive_of_answered raw limits memoryMib hover hanswer]
    split_ifs <;> simp
  · simp [classifyInteractive_of_not_answered raw limits memoryMib hover hanswer]

end IcpcVerify.Judge
