import IcpcVerify.Sandbox
import IcpcVerify.Verdicts

/-!
# Output validators

The Kattis protocol: a validator exits 42 to accept, 43 to reject, and anything
else means that the validator itself is broken.
-/

namespace IcpcVerify.Validators

open IcpcVerify.Python
open IcpcVerify.Sandbox

def judgemessageCap : ℕ := 4096

def validatorMount : PyStr := py "/validator"

def validatorMemoryMib : ℤ := 2048

def validatorVerdict (exitCode : ℤ) : Verdict :=
  if exitCode = 42 then .accepted
  else if exitCode = 43 then .wrongAnswer
  else .judgeError

variable (rt : Runtime)

/-- `read_judgemessage`, given the file if it is there. -/
def readJudgemessage (file : Option Bytes) : PyStr :=
  match file with
  | none => []
  | some content => rt.decodeReplace (content.take judgemessageCap)

/-- The end of `run_custom_validator`: from the finished validator container and
its judge message to the verdict. -/
def customVerdict (result : SandboxResult) (judgemessage : PyStr) : Verdict × PyStr :=
  if result.timedOut then
    (.judgeError, py "validator 가 시간 안에 끝나지 않았습니다")
  else if validatorVerdict result.exitCode = .judgeError then
    (.judgeError,
      strip (py "validator exit code " ++ formatInt result.exitCode ++ py "\n" ++
        rt.decodeReplace (result.stderr.take judgemessageCap)))
  else (validatorVerdict result.exitCode, judgemessage)

theorem validatorVerdict_judgeError_iff (exitCode : ℤ) :
    validatorVerdict exitCode = .judgeError ↔ exitCode ≠ 42 ∧ exitCode ≠ 43 := by
  rw [validatorVerdict]
  split_ifs <;> simp_all

theorem validatorVerdict_accepted_iff (exitCode : ℤ) :
    validatorVerdict exitCode = .accepted ↔ exitCode = 42 := by
  rw [validatorVerdict]
  split_ifs <;> simp_all

/-- The verdict of a validator container, its message aside. -/
theorem customVerdict_fst (result : SandboxResult) (judgemessage : PyStr) :
    (customVerdict rt result judgemessage).1 =
      if result.timedOut then .judgeError else validatorVerdict result.exitCode := by
  rw [customVerdict]
  split_ifs with htimed hbroken
  · rfl
  · exact hbroken.symm
  · rfl

end IcpcVerify.Validators
