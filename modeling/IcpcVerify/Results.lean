import IcpcVerify.Timelimits
import IcpcVerify.Verdicts

/-!
# Verdicts from measurements

A measured run is classified in a fixed order: time, output size, memory,
abnormal exit, output content.  A solution's verdict is that of its first judged
testcase that is not accepted.
-/

namespace IcpcVerify.Results

open IcpcVerify.Python
open IcpcVerify.Timelimits

structure RunMeasurement where
  wall : ℚ
  cpu : ℚ
  maxRssKib : ℤ
  exitCode : ℤ
  signal : ℤ
  timedOut : Bool
  outputLimitExceeded : Bool
  oomKilled : Bool
  deriving DecidableEq

structure TestCaseResult where
  id : PyStr
  group : PyStr
  verdict : Verdict
  wall : ℚ
  cpu : ℚ
  memKib : ℤ
  exitCode : ℤ
  message : PyStr
  deriving DecidableEq

structure SolutionResult where
  name : PyStr
  relPath : PyStr
  expected : PyStr
  language : PyStr
  verdict : Verdict
  testcases : List TestCaseResult
  compileLog : PyStr
  machineFactor : ℚ
  cpuIsolated : Bool
  warnings : List PyStr
  deriving DecidableEq

/-- `wall ...s 가 시간제한 ...s 를 넘었습니다`. -/
def overLimitMessage (wall limit : ℚ) : PyStr :=
  py "wall " ++ formatFixed 3 wall ++ py "s 가 시간제한 " ++ formatFixed 3 limit ++
    py "s 를 넘었습니다"

def signalMessage (signal : ℤ) : PyStr :=
  py "signal " ++ formatInt signal ++ py " 로 종료했습니다"

def exitCodeMessage (exitCode : ℤ) : PyStr :=
  py "exit code " ++ formatInt exitCode ++ py " 로 종료했습니다"

def classifyRun (m : RunMeasurement) (limits : TimeLimits) (compareOk : Bool)
    (compareMessage : PyStr) : Verdict × PyStr :=
  if m.timedOut ∨ m.wall > limits.limit then
    (.timeLimitExceeded, overLimitMessage m.wall limits.limit)
  else if m.outputLimitExceeded then
    (.wrongAnswer, py "OLE. 출력이 제한을 넘었습니다")
  else if m.oomKilled then
    (.runTimeError, py "메모리 제한을 넘어 kill 되었습니다")
  else if m.signal ≠ 0 then (.runTimeError, signalMessage m.signal)
  else if m.exitCode ≠ 0 then (.runTimeError, exitCodeMessage m.exitCode)
  else if !compareOk then (.wrongAnswer, compareMessage)
  else (.accepted, [])

def solutionVerdict (testcases : List TestCaseResult) : Verdict :=
  let judged := testcases.filter (·.verdict ≠ .notRun)
  if judged = [] then .judgeError
  else
    match judged.find? (·.verdict ≠ .accepted) with
    | some case => case.verdict
    | none => .accepted

/-- `--verdict-match`: the choices of the argument parser. -/
inductive VerdictMatch where
  | exact
  | anyRejected
  deriving DecidableEq

def VerdictMatch.name : VerdictMatch → PyStr
  | exact => py "exact"
  | anyRejected => py "any-rejected"

def matchesExpectation (rt : Runtime) (expected actual mode : PyStr) : PyM Bool :=
  if mode = py "exact" then .ok (expected = actual)
  else if mode = py "any-rejected" then
    if expected = Verdict.accepted.name then
      .ok (actual = Verdict.accepted.name)
    else .ok (actual ≠ Verdict.accepted.name)
  else .error ⟨.value,
    py "알 수 없는 verdict-match 모드입니다: " ++ rt.repr mode⟩

/-! ## Measured runs -/

/-- The run stayed within every limit and ended by itself with status zero;
only its output is still open. -/
structure Healthy (m : RunMeasurement) (limits : TimeLimits) : Prop where
  in_time : m.timedOut = false ∧ m.wall ≤ limits.limit
  output : m.outputLimitExceeded = false
  memory : m.oomKilled = false
  signal : m.signal = 0
  exitCode : m.exitCode = 0

instance (m : RunMeasurement) (limits : TimeLimits) : Decidable (Healthy m limits) :=
  decidable_of_iff
    ((m.timedOut = false ∧ m.wall ≤ limits.limit) ∧ m.outputLimitExceeded = false ∧
      m.oomKilled = false ∧ m.signal = 0 ∧ m.exitCode = 0)
    ⟨fun h => ⟨h.1, h.2.1, h.2.2.1, h.2.2.2.1, h.2.2.2.2⟩,
      fun h => ⟨h.1, h.2, h.3, h.4, h.5⟩⟩

theorem healthy_iff (m : RunMeasurement) (limits : TimeLimits) :
    Healthy m limits ↔ ¬(m.timedOut = true ∨ m.wall > limits.limit) ∧
      m.outputLimitExceeded = false ∧ m.oomKilled = false ∧ m.signal = 0 ∧
        m.exitCode = 0 := by
  constructor
  · rintro ⟨⟨htimed, hwall⟩, houtput, hmemory, hsignal, hexit⟩
    refine ⟨?_, houtput, hmemory, hsignal, hexit⟩
    rw [htimed]
    simpa using hwall
  · rintro ⟨htime, houtput, hmemory, hsignal, hexit⟩
    push Not at htime
    exact ⟨⟨by simpa using htime.1, htime.2⟩, houtput, hmemory, hsignal, hexit⟩

/-- On a healthy run the comparison decides. -/
theorem classifyRun_of_healthy {m : RunMeasurement} {limits : TimeLimits}
    (hhealthy : Healthy m limits) (compareOk : Bool) (compareMessage : PyStr) :
    classifyRun m limits compareOk compareMessage =
      if compareOk then (.accepted, []) else (.wrongAnswer, compareMessage) := by
  obtain ⟨htime, houtput, hmemory, hsignal, hexit⟩ := (healthy_iff m limits).1 hhealthy
  cases compareOk <;> simp [classifyRun, htime, houtput, hmemory, hsignal, hexit]

/-- An unhealthy run is rejected, and its output is not looked at. -/
theorem classifyRun_of_not_healthy {m : RunMeasurement} {limits : TimeLimits}
    (hunhealthy : ¬Healthy m limits) (compareOk compareOk' : Bool)
    (compareMessage compareMessage' : PyStr) :
    classifyRun m limits compareOk compareMessage =
        classifyRun m limits compareOk' compareMessage' ∧
      (classifyRun m limits compareOk compareMessage).1 ≠ .accepted := by
  rw [healthy_iff] at hunhealthy
  unfold classifyRun
  by_cases htime : m.timedOut = true ∨ m.wall > limits.limit
  · simp [htime]
  by_cases houtput : m.outputLimitExceeded = true
  · simp [htime, houtput]
  by_cases hmemory : m.oomKilled = true
  · simp [htime, houtput, hmemory]
  by_cases hsignal : m.signal = 0
  · by_cases hexit : m.exitCode = 0
    · exact absurd ⟨htime, by simpa using houtput, by simpa using hmemory, hsignal, hexit⟩
        hunhealthy
    · simp [htime, houtput, hmemory, hsignal, hexit]
  · simp [htime, houtput, hmemory, hsignal]

/-- `classify_run` accepts exactly the healthy runs whose output is right. -/
theorem classifyRun_accepted_iff (m : RunMeasurement) (limits : TimeLimits)
    (compareOk : Bool) (compareMessage : PyStr) :
    (classifyRun m limits compareOk compareMessage).1 = .accepted ↔
      Healthy m limits ∧ compareOk = true := by
  by_cases hhealthy : Healthy m limits
  · rw [classifyRun_of_healthy hhealthy]
    cases compareOk <;> simp [hhealthy]
  · apply iff_of_false _ fun h => hhealthy h.1
    exact (classifyRun_of_not_healthy hhealthy compareOk compareOk
      compareMessage compareMessage).2

/-- Time is the only reason for a time verdict. -/
theorem classifyRun_timeLimitExceeded_iff (m : RunMeasurement) (limits : TimeLimits)
    (compareOk : Bool) (compareMessage : PyStr) :
    (classifyRun m limits compareOk compareMessage).1 = .timeLimitExceeded ↔
      m.timedOut = true ∨ m.wall > limits.limit := by
  rw [classifyRun]
  split_ifs <;> simp_all

/-- The verdicts `classify_run` can give. -/
theorem classifyRun_verdict (m : RunMeasurement) (limits : TimeLimits)
    (compareOk : Bool) (compareMessage : PyStr) :
    (classifyRun m limits compareOk compareMessage).1 ∈
      [Verdict.accepted, .wrongAnswer, .timeLimitExceeded, .runTimeError] := by
  rw [classifyRun]
  split_ifs <;> simp

end IcpcVerify.Results
