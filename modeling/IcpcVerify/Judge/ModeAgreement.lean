import IcpcVerify.Judge.Acceptance

/-!
# The judging modes agree

A run gets the same verdict whoever judges its output: the comparison of default
mode, a custom validator, or an interactive validator.  Forgiving `SIGPIPE` is the
one difference, and it amounts to reading the record as that of a clean exit.
-/

namespace IcpcVerify.Judge

open IcpcVerify.Python
open IcpcVerify.Timelimits
open IcpcVerify.Results
open IcpcVerify.Runner
open IcpcVerify.Sandbox
open IcpcVerify.Validators

/-- The exit code by which a validator accepts or rejects. -/
def answerExit (accept : Bool) : ℤ :=
  if accept then 42 else 43

/-- An interactive run as `classify_run` would be told about it: the memory limit
takes the place of the OOM flag. -/
def interactiveMeasurement (raw : InteractiveRecord) (memoryMib : ℤ) :
    RunMeasurement where
  wall := raw.solution.wall
  cpu := raw.solution.cpu
  maxRssKib := raw.solution.maxRssKib
  exitCode := raw.solution.exitCode
  signal := raw.solution.signal
  timedOut := raw.solution.timedOut
  outputLimitExceeded := false
  oomKilled := raw.solution.maxRssKib > memoryMib * 1024

/-- The same record for a solution that left by itself with status zero. -/
def cleanExit (raw : InteractiveRecord) : InteractiveRecord :=
  { raw with solution := { raw.solution with signal := 0, exitCode := 0 } }

theorem validatorVerdict_answerExit (accept : Bool) :
    validatorVerdict (answerExit accept) = if accept then .accepted else .wrongAnswer := by
  cases accept <;> rfl

variable (rt : Runtime) (limits : TimeLimits) (memoryMib : ℤ)

/-- Asking a validator about a healthy run only is the same as comparing first. -/
theorem classified_custom (validator : BuiltValidator) (measurement : RunMeasurement)
    (o : CaseOutcome) (accept : Bool) (compareMessage : PyStr)
    (htimed : o.validator.container.timedOut = false)
    (hexit : o.validator.container.exitCode = answerExit accept) :
    ((Judging.custom validator).classified rt limits measurement o).1 =
      (classifyRun measurement limits accept compareMessage).1 := by
  have hclassified : (Judging.custom validator).classified rt limits measurement o =
      if (classifyRun measurement limits true []).1 = .accepted then o.validator.verdict rt
      else classifyRun measurement limits true [] := rfl
  rw [hclassified]
  by_cases hhealthy : Healthy measurement limits
  · have hanswer : (o.validator.verdict rt).1 = if accept then .accepted else .wrongAnswer := by
      rw [ValidatorOutcome.verdict, customVerdict_fst, htimed, hexit,
        if_neg Bool.false_ne_true, validatorVerdict_answerExit]
    rw [if_pos ((classifyRun_accepted_iff _ _ _ _).2 ⟨hhealthy, rfl⟩), hanswer,
      classifyRun_of_healthy hhealthy]
    cases accept <;> rfl
  · obtain ⟨hsame, hrejected⟩ :=
      classifyRun_of_not_healthy hhealthy true accept [] compareMessage
    rw [if_neg hrejected, hsame]

/-- The custom path of the loop, over outcomes. -/
theorem classifyMeasured_custom (compile : CompileOutcome)
    (build : Except PyStr BuiltValidator) (session : Session) (validator : BuiltValidator)
    (hvalidator : session.validator = some validator) (case : TestCase × CaseOutcome)
    (measurement : RunMeasurement) (report : RunReport) :
    classifyMeasured rt (outcomeCalls rt compile build) session case measurement report =
      .ok ((Judging.custom validator).classified rt session.limits measurement case.2) := by
  have hclassified : (Judging.custom validator).classified rt session.limits measurement
        case.2 =
      if (classifyRun measurement session.limits true []).1 = .accepted then
        case.2.validator.verdict rt
      else classifyRun measurement session.limits true [] := rfl
  rw [classifyMeasured, hvalidator, hclassified]
  by_cases haccepted : (classifyRun measurement session.limits true []).1 = .accepted
  · simp only [haccepted, if_true]
    rfl
  · simp only [haccepted, if_false]
    rfl

/-- The two priority lists agree on a run with an answer and without `SIGPIPE`. -/
theorem classifyInteractive_eq_classifyRun (raw : InteractiveRecord) (accept : Bool)
    (compareMessage : PyStr) (hpair : raw.pairTimedOut = false)
    (hexit : raw.validatorExit = answerExit accept)
    (hpipe : raw.solution.signal ≠ sigpipe) :
    (classifyInteractive raw limits memoryMib).1 =
      (classifyRun (interactiveMeasurement raw memoryMib) limits accept
        compareMessage).1 := by
  have hanswer : ValidatorAnswered raw := by
    have hanswer : raw.validatorExit = 42 ∨ raw.validatorExit = 43 := by
      rw [hexit]
      cases accept
      · exact Or.inr rfl
      · exact Or.inl rfl
    exact ⟨hpair, hanswer⟩
  by_cases hover : SolutionOverLimit raw.solution limits
  · have htime : (classifyRun (interactiveMeasurement raw memoryMib) limits accept
        compareMessage).1 = .timeLimitExceeded := by
      rw [classifyRun_timeLimitExceeded_iff]
      exact hover
    rw [classifyInteractive_of_over raw limits memoryMib hover, htime]
  · have hin : ¬((interactiveMeasurement raw memoryMib).timedOut = true ∨
        (interactiveMeasurement raw memoryMib).wall > limits.limit) := hover
    rw [classifyInteractive_of_answered raw limits memoryMib hover hanswer, hexit,
      classifyRun, if_neg hin]
    by_cases hmemory : raw.solution.maxRssKib > memoryMib * 1024
    · simp [interactiveMeasurement, hmemory]
    by_cases hsignal : raw.solution.signal = 0
    · by_cases hcode : raw.solution.exitCode = 0
      · cases accept <;>
          simp [interactiveMeasurement, EndedWell, answerExit, hmemory, hsignal, hcode]
      · simp [interactiveMeasurement, EndedWell, sigpipe, hmemory, hsignal, hcode]
    · simp [interactiveMeasurement, EndedWell, hmemory, hsignal, hpipe]

/-- A solution that died of `SIGPIPE` is judged as one that left cleanly. -/
theorem classifyInteractive_sigpipe (raw : InteractiveRecord)
    (hpipe : raw.solution.signal = sigpipe) :
    (classifyInteractive raw limits memoryMib).1 =
      (classifyInteractive (cleanExit raw) limits memoryMib).1 := by
  have hover : SolutionOverLimit (cleanExit raw).solution limits ↔
      SolutionOverLimit raw.solution limits := Iff.rfl
  have hanswer : ValidatorAnswered (cleanExit raw) ↔ ValidatorAnswered raw := Iff.rfl
  by_cases hlate : SolutionOverLimit raw.solution limits
  · rw [classifyInteractive_of_over _ _ _ hlate,
      classifyInteractive_of_over _ _ _ (hover.2 hlate)]
  by_cases hanswered : ValidatorAnswered raw
  · have hended : EndedWell raw.solution := Or.inl hpipe
    have hended' : EndedWell (cleanExit raw).solution := Or.inr ⟨rfl, rfl⟩
    rw [classifyInteractive_of_answered _ _ _ hlate hanswered,
      classifyInteractive_of_answered _ _ _ (mt hover.1 hlate) (hanswer.2 hanswered)]
    simp only [hended, hended', not_true, if_false]
    rfl
  · rw [classifyInteractive_of_not_answered _ _ _ hlate hanswered,
      classifyInteractive_of_not_answered _ _ _ (mt hover.1 hlate) (mt hanswer.1 hanswered)]

/-- The three ways of judging the same run agree on its verdict. -/
theorem modes_agree (compile : CompileOutcome) (build : Except PyStr BuiltValidator) :
    (∀ (session : Session) (validator : BuiltValidator) (case : TestCase × CaseOutcome)
        (measurement : RunMeasurement) (report : RunReport) (accept : Bool)
        (compareMessage : PyStr),
      session.validator = some validator →
      case.2.validator.container.timedOut = false →
      case.2.validator.container.exitCode = answerExit accept →
        ∃ classified,
          classifyMeasured rt (outcomeCalls rt compile build) session case measurement
              report = .ok classified ∧
            classified.1 =
              (classifyRun measurement session.limits accept compareMessage).1) ∧
      (∀ (raw : InteractiveRecord) (accept : Bool) (compareMessage : PyStr),
        raw.pairTimedOut = false → raw.validatorExit = answerExit accept →
        raw.solution.signal ≠ sigpipe →
          (classifyInteractive raw limits memoryMib).1 =
            (classifyRun (interactiveMeasurement raw memoryMib) limits accept
              compareMessage).1) ∧
      ∀ raw : InteractiveRecord, raw.solution.signal = sigpipe →
        (classifyInteractive raw limits memoryMib).1 =
          (classifyInteractive (cleanExit raw) limits memoryMib).1 := by
  constructor
  · intro session validator case measurement report accept compareMessage hvalidator htimed
      hexit
    have hcustom := classifyMeasured_custom rt compile build session validator hvalidator case
      measurement report
    have hverdict := classified_custom rt session.limits validator measurement case.2 accept
      compareMessage htimed hexit
    exact ⟨_, hcustom, hverdict⟩
  · constructor
    · exact classifyInteractive_eq_classifyRun limits memoryMib
    · exact classifyInteractive_sigpipe limits memoryMib

/-- A prompt run whose validator accepts. -/
def promptRecord (signal : ℤ) : InteractiveRecord :=
  ⟨⟨1 / 2, 1 / 10, 1000, 0, signal, false⟩, 42, 0, false⟩

/-- What a prompt run and an accepting validator leave of a custom testcase. -/
def promptOutcome : CaseOutcome :=
  ⟨⟨some ⟨1 / 2, 1 / 10, 1000, 0, 0, false, false⟩, false, some [], some [], []⟩,
    ⟨⟨42, false, [], [], false⟩, none⟩, ⟨none, false, none, none, none, []⟩, []⟩

/-- The three agreements on a prompt run. -/
theorem modes_agree_prompt :
    (∃ classified,
      classifyMeasured Runtime.ascii (outcomeCalls Runtime.ascii ⟨true, [], []⟩ (.error []))
          ⟨⟨[], 1, 2048, 1, .custom, [], none, []⟩, [], some ⟨[], [], []⟩, none, ⟨1, 2, 3⟩,
            ⟨[], 0, false, 8, 2048, [], 1, false, []⟩⟩
          (⟨[], [], [], []⟩, promptOutcome)
          ⟨1 / 2, 1 / 10, 1000, 0, 0, false, false, false⟩
          (promptOutcome.run.report Runtime.ascii) = .ok classified ∧
        classified.1 =
          (classifyRun ⟨1 / 2, 1 / 10, 1000, 0, 0, false, false, false⟩ ⟨1, 2, 3⟩ true
            []).1) ∧
      (classifyInteractive (promptRecord 0) ⟨1, 2, 3⟩ 2048).1 =
          (classifyRun (interactiveMeasurement (promptRecord 0) 2048) ⟨1, 2, 3⟩ true []).1 ∧
        (classifyInteractive (promptRecord sigpipe) ⟨1, 2, 3⟩ 2048).1 =
          (classifyInteractive (cleanExit (promptRecord sigpipe)) ⟨1, 2, 3⟩ 2048).1 := by
  have hagree := modes_agree Runtime.ascii ⟨1, 2, 3⟩ 2048 ⟨true, [], []⟩ (.error [])
  obtain ⟨hcustom, hinteractive, hsigpipe⟩ := hagree
  constructor
  · exact hcustom _ ⟨[], [], []⟩ _ _ _ true [] rfl rfl rfl
  · constructor
    · exact hinteractive (promptRecord 0) true [] rfl rfl (by decide)
    · exact hsigpipe (promptRecord sigpipe) rfl

end IcpcVerify.Judge
