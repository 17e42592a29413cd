import IcpcVerify.Python.Text

/-!
# Verdict names

The names are those of the subdirectories of `solutions/`, plus three that only
the judge produces.
-/

namespace IcpcVerify

open IcpcVerify.Python

inductive Verdict where
  | accepted
  | wrongAnswer
  | timeLimitExceeded
  | runTimeError
  | compilerError
  | judgeError
  | notRun
  deriving DecidableEq

namespace Verdict

/-- The string the source uses for a verdict. -/
def name : Verdict → PyStr
  | accepted => py "accepted"
  | wrongAnswer => py "wrong_answer"
  | timeLimitExceeded => py "time_limit_exceeded"
  | runTimeError => py "run_time_error"
  | compilerError => py "compiler_error"
  | judgeError => py "judge_error"
  | notRun => py "not_run"

theorem name_injective : Function.Injective name := by
  intro left right heq
  cases left <;> cases right <;> first | rfl | exact absurd heq (by decide)

end Verdict

/-- Verdict directories a solution can be discovered in. -/
def expectedVerdicts : List PyStr :=
  [Verdict.accepted.name, Verdict.wrongAnswer.name,
    Verdict.timeLimitExceeded.name, Verdict.runTimeError.name]

theorem judgeError_name_not_expected :
    Verdict.judgeError.name ∉ expectedVerdicts := by
  decide

end IcpcVerify
