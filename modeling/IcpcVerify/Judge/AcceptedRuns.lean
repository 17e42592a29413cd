import IcpcVerify.Judge.RunnerProtocol

/-!
# Accepted solutions

A solution that is judged accepted over files was compiled, and every round of the loop
judged its testcase by itself.  Where the containers do run `runner.py`, each testcase
therefore has a run in which the solution ended well.
-/

namespace IcpcVerify.Judge

open IcpcVerify.Python
open IcpcVerify.Python.Argparse
open IcpcVerify.Timelimits
open IcpcVerify.Results
open IcpcVerify.Runner
open IcpcVerify.Sandbox
open IcpcVerify.Compare
open IcpcVerify.Validators
open IcpcVerify.StatefulRun
open IcpcVerify.LazyScan

variable {rt : Runtime} {host : Host} {removal : Removal} {before after : World}
variable {config : ProblemConfig} {limits : TimeLimits} {options : JudgeOptions}

/-! ## The loop of an accepted solution -/

/-- How the loop's validator or flags came to be. -/
def Prepared (rt : Runtime) (host : Host) (config : ProblemConfig) (options : JudgeOptions) :
    Judging → Prop
  | .default flags => parseCompareFlags rt config.validatorFlags = .ok flags
  | .custom validator | .interactive validator =>
      ∃ dir, config.validatorDir = some dir ∧
        host.build dir options.image options.cpuset = .ok (.ok validator)

theorem built_of_returns {between : World} {validator : Option BuiltValidator}
    (hmode : config.validation ≠ .default)
    (hvalidator : Returns (prepareValidator (fileCalls rt host removal) config options) before
      (.ok validator) between) :
    ∃ dir built, config.validatorDir = some dir ∧
      host.build dir options.image options.cpuset = .ok (.ok built) ∧ validator = some built := by
  have hneeded : config.validation = .custom ∨ config.validation = .customInteractive := by
    cases hvalidation : config.validation with
    | default => exact absurd hvalidation hmode
    | custom => exact Or.inl rfl
    | customInteractive => exact Or.inr rfl
  rw [prepareValidator, if_pos hneeded] at hvalidator
  cases hdir : config.validatorDir with
  | none =>
      rw [hdir] at hvalidator
      exact absurd hvalidator (returns_throw _ _)
  | some dir =>
      simp only [hdir, returns_bind, returns_pure] at hvalidator
      obtain ⟨built, _, hbuild, hbuilt, -⟩ := hvalidator
      cases built with
      | error exc => cases hbuilt
      | ok built =>
          exact ⟨dir, built, rfl, ((returns_lift _ _).1 hbuild).1, (Except.ok.inj hbuilt).symm⟩

/-- A preparation that returns without an error leaves what the mode needs. -/
theorem prepared_of_returns {between after' : World} {validator : Option BuiltValidator}
    {flags : Option CompareFlags}
    (hvalidator : Returns (prepareValidator (fileCalls rt host removal) config options) before
      (.ok validator) between)
    (hflags : Returns (prepareCompareFlags (m := IoM) rt config) between flags after') :
    ∃ judging : Judging, config.validation = judging.mode ∧ judging.validator = validator ∧
      judging.compareFlags = flags ∧ Prepared rt host config options judging := by
  have hflags' := prepareCompareFlags_returns hflags
  rw [prepareCompareFlags] at hflags'
  cases hmode : config.validation with
  | default =>
      rw [prepareValidator, if_neg (by simp [hmode]), returns_pure] at hvalidator
      rw [if_pos hmode] at hflags'
      cases hparse : parseCompareFlags rt config.validatorFlags with
      | error exc =>
          rw [hparse] at hflags'
          cases hflags'
      | ok parsed =>
          rw [hparse] at hflags'
          exact ⟨.default parsed, rfl, Except.ok.inj hvalidator.1, Except.ok.inj hflags', hparse⟩
  | custom =>
      rw [if_neg (by simp [hmode])] at hflags'
      obtain ⟨dir, built, hdir, hbuild, rfl⟩ := built_of_returns (by simp [hmode]) hvalidator
      exact ⟨.custom built, rfl, rfl, Except.ok.inj hflags', dir, hdir, hbuild⟩
  | customInteractive =>
      rw [if_neg (by simp [hmode])] at hflags'
      obtain ⟨dir, built, hdir, hbuild, rfl⟩ := built_of_returns (by simp [hmode]) hvalidator
      exact ⟨.interactive built, rfl, rfl, Except.ok.inj hflags', dir, hdir, hbuild⟩

/-- An accepted solution was compiled, and went through the whole loop. -/
theorem judgeSolution_loop {solution : Solution} {testcases : List TestCase}
    {result : SolutionResult}
    (hreturns : Returns (judgeSolution rt (fileCalls rt host removal) config solution
      testcases limits options) before result after)
    (haccepted : result.verdict = .accepted) :
    ∃ compile judging progress between,
      host.compile solution config.memoryMib
          ⟨options.image, options.cpuset, options.compileFlags⟩ = .ok compile ∧
        compile.ok = true ∧ config.validation = judging.mode ∧
        Prepared rt host config options judging ∧
        Returns (testcases.foldlM (judgeStep rt (fileCalls rt host removal)
          (judging.session compile config limits options)) ⟨[], false⟩) between progress after ∧
        solutionVerdict progress.results = .accepted := by
  simp only [judgeSolution, returns_bind] at hreturns
  obtain ⟨compile, _, hcompile, hrest⟩ := hreturns
  have hcompiled := ((returns_lift _ _).1 hcompile).1
  split at hrest
  · simp only [returns_pure] at hrest
    rw [← hrest.1] at haccepted
    cases haccepted
  · next hok =>
    simp only [returns_bind] at hrest
    obtain ⟨prepared, _, hvalidator, hrest⟩ := hrest
    cases prepared with
    | error exc =>
        simp only [returns_pure] at hrest
        rw [← hrest.1] at haccepted
        cases haccepted
    | ok validator =>
        simp only [returns_bind, returns_pure] at hrest
        obtain ⟨flags, between, hflags, progress, _, hloop, rfl, rfl⟩ := hrest
        obtain ⟨judging, hmode, rfl, rfl, hprepared⟩ := prepared_of_returns hvalidator hflags
        exact ⟨compile, judging, progress, between, hcompiled, by simpa using hok, hmode,
          hprepared, hloop, haccepted⟩

section Loop

variable {compile : CompileOutcome} {judging : Judging} {testcases : List TestCase}
variable {progress : Progress TestCaseResult}

/-- An outcome for every testcase, as a session observes it. -/
def observedCase (rt : Runtime) (host : Host) (session : Session) (case : TestCase) :
    TestCase × CaseOutcome :=
  (case, observed rt host case session)

/-- The loop over files records what the scan over outcomes records. -/
theorem progress_of_returns (hmode : config.validation = judging.mode)
    (hloop : Returns (testcases.foldlM (judgeStep rt (fileCalls rt host removal)
      (judging.session compile config limits options)) ⟨[], false⟩) before progress after) :
    progress = (testcases.map (observedCase rt host
      (judging.session compile config limits options))).foldl
        (judging.step rt limits options) ⟨[], false⟩ := by
  have hmirror := foldlM_of_returns
    (judgeStep rt (outcomeCalls rt compile (.error []))
      (judging.session compile config limits options))
    (observedCase rt host (judging.session compile config limits options))
    (fun _ _ _ _ _ hstep => judgeStep_returns compile (.error []) hstep) testcases hloop
  rw [foldlM_judgeStep_outcome rt compile (.error []) config limits options judging hmode]
    at hmirror
  exact (Except.ok.inj hmirror).symm

theorem entries_of_accepted (hmode : config.validation = judging.mode)
    (hloop : Returns (testcases.foldlM (judgeStep rt (fileCalls rt host removal)
      (judging.session compile config limits options)) ⟨[], false⟩) before progress after)
    (hverdict : solutionVerdict progress.results = .accepted) :
    testcases ≠ [] ∧ ∀ case ∈ testcases,
      (judging.entry rt limits options.memoryMib (observedCase rt host
        (judging.session compile config limits options) case)).verdict = .accepted := by
  have hresults : progress.results = judging.results rt limits options
      (testcases.map (observedCase rt host
        (judging.session compile config limits options))) := by
    rw [progress_of_returns hmode hloop]
    rfl
  rw [hresults, solutionVerdict_results,
    solutionVerdict_accepted_iff (entry_ne_notRun rt limits options.memoryMib judging)] at hverdict
  obtain ⟨hne, hall⟩ := hverdict
  rw [List.forall_mem_map] at hall
  exact ⟨fun hnil => hne (by rw [hnil]; rfl), hall⟩

/-- Every testcase of an accepted solution had its own round, before any stop. -/
theorem round_of_accepted (hmode : config.validation = judging.mode)
    (hloop : Returns (testcases.foldlM (judgeStep rt (fileCalls rt host removal)
      (judging.session compile config limits options)) ⟨[], false⟩) before progress after)
    (hverdict : solutionVerdict progress.results = .accepted) {case : TestCase}
    (hcase : case ∈ testcases) :
    ∃ middle between next between', middle.stopped = false ∧
      Returns (judgeStep rt (fileCalls rt host removal)
        (judging.session compile config limits options) middle case) between next between' := by
  obtain ⟨-, hentries⟩ := entries_of_accepted hmode hloop hverdict
  obtain ⟨earlier, later, rfl⟩ := List.append_of_mem hcase
  obtain ⟨middle, between, next, between', hearlier, hround⟩ := returns_round hloop
  refine ⟨middle, between, next, between', ?_, hround⟩
  rw [progress_of_returns hmode hearlier, Judging.step]
  apply stopped_foldl_scanStep
  rw [List.forall_mem_map]
  intro case' hcase'
  have haccepted := hentries case' (List.mem_append_left _ hcase')
  rw [isAccepted, haccepted]
  rfl

/-- A round of a default problem that got a measurement has read the answer. -/
theorem answer_of_round {flags : CompareFlags} {middle next : Progress TestCaseResult}
    {case : TestCase} {raw : RunRecord} (hmode : config.validation = .default)
    (hrunning : middle.stopped = false)
    (hjson : (observedRun rt host case compile.runArgv limits options).runJson = some raw)
    (hround : Returns (judgeStep rt (fileCalls rt host removal)
      ((Judging.default flags).session compile config limits options) middle case)
        before next after) :
    ∃ answer, host.read case.answerPath = some answer := by
  have hmode' : ¬((Judging.default flags).session compile config limits options).config.validation =
      .customInteractive := by
    simp [Judging.session, hmode]
  rw [judgeStep, if_neg (by rw [hrunning]; exact Bool.false_ne_true), if_neg hmode',
    judgeMeasuredCase, returns_bind] at hround
  obtain ⟨report, between, hreport, hrest⟩ := hround
  obtain ⟨rfl, -⟩ := runOneTestcase_returns hreport
  simp only [Judging.session, RunOutcome.report, hjson, returns_bind] at hrest
  obtain ⟨classified, _, hclassified, -⟩ := hrest
  simp only [classifyMeasured, Judging.validator, returns_bind] at hclassified
  obtain ⟨answer, _, hanswer, -⟩ := hclassified
  cases hread : host.read case.answerPath with
  | none =>
      simp only [fileCalls, hread] at hanswer
      exact absurd hanswer (returns_throw _ _)
  | some content => exact ⟨content, rfl⟩

end Loop

/-! ## Runs behind an accepted solution -/

/-- A solution container that leaves a `run.json` has run `runner.py` to its end, with a
solution that writes to its standard output only, and what `runner.py` dumps the judge reads
as the JSON it is. -/
structure RunsRunner (rt : Runtime) (host : Host) (limits : TimeLimits)
    (options : JudgeOptions) : Prop where
  run : ∀ runArgv view result left,
    host.sandbox (runSpec rt runArgv limits options) view = .ok (result, left) →
      (fileIn (left .out) (py "run.json")).isSome = true →
        Nonempty (RunnerRun rt (runSpec rt runArgv limits options) left)
  load : ∀ record content, dumpFile rt (runJson record) = some content →
    (host.loadRun content).toOption = loadRun rt content

/-- The solution was run on the testcase's input, ended well, and wrote `output`. -/
def RanWell (rt : Runtime) (host : Host) (runArgv : List PyStr) (limits : TimeLimits)
    (options : JudgeOptions) (case : TestCase) (output : Bytes) : Prop :=
  ∃ input result left, ∃ run : RunnerRun rt (runSpec rt runArgv limits options) left,
    host.read case.inputPath = some input ∧
      host.sandbox (runSpec rt runArgv limits options) (runView input) = .ok (result, left) ∧
      run.args.argv = runArgv ∧
      seenAt (runSpec rt runArgv limits options) (runView input) run.args.input = some input ∧
      leftAt (runSpec rt runArgv limits options) left run.args.stdout = some output ∧
      run.Clean limits ∧ result.oomKilled = false

/-- The output was found right, by the comparison or by the validator. -/
def OutputAccepted (rt : Runtime) (host : Host) (config : ProblemConfig) (limits : TimeLimits)
    (options : JudgeOptions) (case : TestCase) (output : Bytes) : Prop :=
  match config.validation with
  | .default => ∃ flags answer, parseCompareFlags rt config.validatorFlags = .ok flags ∧
      host.read case.answerPath = some answer ∧ (compareOutput rt output answer flags).1 = true
  | _ => ∃ dir built input answer result left, config.validatorDir = some dir ∧
      host.build dir options.image options.cpuset = .ok (.ok built) ∧
      host.read case.inputPath = some input ∧ host.read case.answerPath = some answer ∧
      host.sandbox (validatorSpec rt built .feedback config.validatorFlags options.image
        options.cpuset (limits.hardKill + 30)) (validatorView input answer output) =
          .ok (result, left) ∧
      result.timedOut = false ∧ result.exitCode = 42

section Accepted

variable {runArgv : List PyStr} {case : TestCase} {hardKill : PyFloat}

/-- The arguments of a run are the judge's. -/
theorem args_of_run {left : IoDir → Dir}
    (hhardKill : rt.parseFloat (hardKillArgument limits) = some hardKill)
    (hlimit : SmallInt (options.outputLimitMib * 1024 * 1024))
    (run : RunnerRun rt (runSpec rt runArgv limits options) left) :
    run.args.argv = runArgv ∧ run.args.input = runMount ++ py "/tc.in" ∧
      run.args.stdout = outMount ++ py "/stdout" ∧
        run.args.result = outMount ++ py "/run.json" := by
  have hparsed := run.parsed
  rw [parseArgs_runSpec runArgv hhardKill hlimit, commandOf_dashes] at hparsed
  split_ifs at hparsed
  · cases hparsed
  · rw [← Option.some.inj hparsed]
    exact ⟨rfl, rfl, rfl, rfl⟩

/-- A clean outcome of a solution container is a run in which the solution ended well. -/
theorem ranWell_of_cleanRun (hhost : RunsRunner rt host limits options)
    (hhardKill : rt.parseFloat (hardKillArgument limits) = some hardKill)
    (hlimit : SmallInt (options.outputLimitMib * 1024 * 1024))
    (hclean : CleanRun limits (observedRun rt host case runArgv limits options)) :
    RanWell rt host runArgv limits options case
      ((observedRun rt host case runArgv limits options).stdout.getD []) := by
  rw [cleanRun_iff] at hclean
  obtain ⟨raw, hjson, hhealthy⟩ := hclean
  cases hread : host.read case.inputPath with
  | none => simp [observedRun, hread] at hjson
  | some input =>
      cases hsandbox : host.sandbox (runSpec rt runArgv limits options) (runView input) with
      | error exc => simp [observedRun, hread, hsandbox] at hjson
      | ok ended =>
          obtain ⟨result, left⟩ := ended
          rw [observedRun_of_sandbox hread hsandbox] at hjson hhealthy ⊢
          obtain ⟨content, hcontent, hload⟩ := Option.bind_eq_some_iff.1 hjson
          obtain ⟨run⟩ := hhost.run _ _ _ _ hsandbox (by rw [hcontent]; rfl)
          obtain ⟨hargv, hinput, hstdout, hresult⟩ := args_of_run hhardKill hlimit run
          have hrecord : raw = run.record := by
            have hleft : leftAt (runSpec rt runArgv limits options) left run.args.result =
                some content := by
              rw [hresult]
              exact hcontent
            have hdump := run.result.symm.trans hleft
            rw [hhost.load _ _ hdump, run.loadRun_result hleft] at hload
            exact (Option.some.inj hload).symm
          rw [hrecord, run.healthy_iff_clean] at hhealthy
          obtain ⟨output, houtput⟩ : ∃ output, fileIn (left .out) (py "stdout") = some output := by
            have hkept := (Main.outputSound run.reach).kept
            rw [← run.stdout, Option.isSome_map, hstdout] at hkept
            exact Option.isSome_iff_exists.1 hkept
          rw [houtput]
          refine ⟨input, result, left, run, hread, hsandbox, hargv, ?_, ?_, hhealthy.1, hhealthy.2⟩
          · rw [hinput]
            exact seenAt_runSpec_input input
          · rw [hstdout]
            exact houtput

/-- A validator container that ended with 42 was started on the testcase's files. -/
theorem outputAccepted_of_validator {built : BuiltValidator} {dir : Path} {output : Bytes}
    (hmode : config.validation = .custom) (hdir : config.validatorDir = some dir)
    (hbuild : host.build dir options.image options.cpuset = .ok (.ok built))
    (htimed : (observedValidator rt host case built output config.validatorFlags options.image
      options.cpuset (limits.hardKill + 30)).container.timedOut = false)
    (hexit : (observedValidator rt host case built output config.validatorFlags options.image
      options.cpuset (limits.hardKill + 30)).container.exitCode = 42) :
    OutputAccepted rt host config limits options case output := by
  rw [OutputAccepted, hmode]
  cases hinput : host.read case.inputPath with
  | none => simp [observedValidator, hinput] at hexit
  | some input =>
      cases hanswer : host.read case.answerPath with
      | none => simp [observedValidator, hinput, hanswer] at hexit
      | some answer =>
          cases hsandbox : host.sandbox (validatorSpec rt built .feedback config.validatorFlags
              options.image options.cpuset (limits.hardKill + 30))
              (validatorView input answer output) with
          | error exc => simp [observedValidator, hinput, hanswer, hsandbox] at hexit
          | ok ended =>
              simp only [observedValidator, hinput, hanswer, hsandbox] at htimed hexit
              exact ⟨dir, built, input, answer, ended.1, ended.2, hdir, hbuild, rfl, rfl, hsandbox,
                htimed, hexit⟩

/-- The verdict accepted, end to end: outside interactive mode it is only given to a
solution that was compiled and, on every testcase, was run with exactly its own command
and input, was not killed, ended by itself with status zero in time, and wrote an output
that was found right. -/
theorem judgeSolution_accepted_runs {solution : Solution} {testcases : List TestCase}
    {result : SolutionResult} (hhost : RunsRunner rt host limits options)
    (hhardKill : rt.parseFloat (hardKillArgument limits) = some hardKill)
    (hlimit : SmallInt (options.outputLimitMib * 1024 * 1024))
    (hmode : config.validation ≠ .customInteractive)
    (hreturns : Returns (judgeSolution rt (fileCalls rt host removal) config solution
      testcases limits options) before result after)
    (haccepted : result.verdict = .accepted) :
    testcases ≠ [] ∧ ∃ compile, host.compile solution config.memoryMib
        ⟨options.image, options.cpuset, options.compileFlags⟩ = .ok compile ∧
      compile.ok = true ∧ ∀ case ∈ testcases, ∃ output,
        RanWell rt host compile.runArgv limits options case output ∧
          OutputAccepted rt host config limits options case output := by
  obtain ⟨compile, judging, progress, between, hcompile, hok, hvalidation, hprepared, hloop,
    hverdict⟩ := judgeSolution_loop hreturns haccepted
  obtain ⟨hne, hentries⟩ := entries_of_accepted hvalidation hloop hverdict
  refine ⟨hne, compile, hcompile, hok, fun case hcase => ?_⟩
  have hentry := (entry_accepted_iff rt limits options.memoryMib judging _).1
    (hentries case hcase)
  cases judging with
  | default flags =>
      obtain ⟨hclean, hcompare⟩ := hentry
      refine ⟨_, ranWell_of_cleanRun hhost hhardKill hlimit hclean, ?_⟩
      obtain ⟨raw, hjson, -⟩ := hclean
      obtain ⟨middle, _, next, _, hrunning, hround⟩ :=
        round_of_accepted hvalidation hloop hverdict hcase
      obtain ⟨answer, hanswer⟩ := answer_of_round hvalidation hrunning hjson hround
      simp only [observedCase, observed, hanswer] at hcompare
      rw [OutputAccepted, hvalidation]
      exact ⟨flags, answer, hprepared, hanswer, hcompare⟩
  | custom built =>
      obtain ⟨hclean, htimed, hexit⟩ := hentry
      obtain ⟨dir, hdir, hbuild⟩ := hprepared
      exact ⟨_, ranWell_of_cleanRun hhost hhardKill hlimit hclean,
        outputAccepted_of_validator hvalidation hdir hbuild htimed hexit⟩
  | interactive built => exact absurd hvalidation hmode

end Accepted

/-! ## An honest host -/

/-- A run in which the solution writes some bytes and ends at once. -/
theorem reachable_quick (hardKill : ℚ) {size : ℕ} {outputLimit : ℤ}
    (hlimit : (size : ℤ) ≤ outputLimit) :
    ∃ s, Transition.Reachable (Main.Step ⟨hardKill, outputLimit⟩) (Main.start 0) s ∧
      s.pc = .done ⟨0, 0, 0, 0, 0, false, false⟩ ∧ s.stdout = some size := by
  have hunder : (false || Main.sizeOver (some size) outputLimit) = false := by
    simpa [Main.sizeOver] using hlimit
  have hrecord : Main.makeRecord (.exited 0) ⟨0, 0, 0⟩ (0 - 0) false false =
      ⟨0, 0, 0, 0, 0, false, false⟩ := by
    decide +kernel
  rw [← congrArg (Main.makeRecord (.exited 0) ⟨0, 0, 0⟩ (0 - 0) false) hunder] at hrecord
  have hopen : ∀ record, (Main.start 0).pc ≠ .done record := fun _ => Main.Pc.noConfusion
  exact ⟨_, Transition.Reachable.here
    |>.next (.write _ 0 size rfl (Nat.zero_le _) hopen)
    |>.next (.exit _ (.exited 0) ⟨0, 0, 0⟩ rfl)
    |>.next (.pollHit _ (.exited 0) ⟨0, 0, 0⟩ rfl rfl)
    |>.next (.readWall _ (.exited 0) ⟨0, 0, 0⟩ rfl)
    |>.next (.measure _ (.exited 0) ⟨0, 0, 0⟩ _ rfl), congrArg Main.Pc.done hrecord, rfl⟩

/-- `3 4` and `5 6`, each with its sum. -/
def sumCases : List TestCase :=
  [⟨py "1", py "secret", [py "1.in"], [py "1.ans"]⟩,
    ⟨py "2", py "secret", [py "2.in"], [py "2.ans"]⟩]

def readSums (path : Path) : Option Bytes :=
  if path = [py "1.in"] then some [51, 32, 52, 10]
  else if path = [py "1.ans"] then some [55, 10]
  else if path = [py "2.in"] then some [53, 32, 54, 10]
  else if path = [py "2.ans"] then some [49, 49, 10]
  else none

/-- What a solution that adds writes for an input. -/
def sumOutput (input : Option Bytes) : Bytes :=
  if input = some [51, 32, 52, 10] then [55, 10] else [49, 49, 10]

/-- What a container leaves that has run such a solution. -/
def quickDir (output : Bytes) : Dir :=
  put (put emptyDir (py "stdout") output) (py "run.json")
    ((dumpFile Runtime.ascii (runJson ⟨0, 0, 0, 0, 0, false, false⟩)).getD [])

/-- A host on which everything compiles, and solutions add what they read and end at once. -/
def honestHost : Host where
  read := readSums
  sandbox spec view :=
    if (Runner.parseArgs Runtime.ascii (spec.argv.drop 2)).isSome then
      .ok (⟨0, false, [], [], false⟩,
        fun _ => quickDir (sumOutput (seenAt spec view (runMount ++ py "/tc.in"))))
    else .ok (⟨2, false, [], [], false⟩, fun _ => emptyDir)
  loadRun content :=
    match loadRun Runtime.ascii content with
    | some record => .ok record
    | none => .error ⟨.value, []⟩
  loadInteractive _ := .error ⟨.value, []⟩
  compile _ _ _ := .ok ⟨true, [], [py "/work/bin"]⟩
  build _ _ _ := .ok (.error [])

theorem readsBack_zero : Runtime.ascii.ReadsBack 0 := by
  constructor
  · decide +kernel
  · decide +kernel

theorem length_sumOutput_le (input : Option Bytes) :
    ((sumOutput input).length : ℤ) ≤ plainSession.options.outputLimitMib * 1024 * 1024 := by
  rw [sumOutput]
  split_ifs <;> decide

theorem runsRunner_honestHost : RunsRunner Runtime.ascii honestHost ⟨1, 1, 2⟩
    plainSession.options := by
  constructor
  · intro runArgv view result left hsandbox hjson
    have hparse := parseArgs_runSpec runArgv parseFloat_twoSeconds smallInt_eightMib
    simp only [honestHost] at hsandbox
    split at hsandbox
    · next hsome =>
      obtain ⟨rfl, rfl⟩ := Prod.mk.inj (Except.ok.inj hsandbox)
      obtain ⟨args, hargs⟩ := Option.isSome_iff_exists.1 hsome
      rw [hargs] at hparse
      obtain ⟨command, -, rfl⟩ := Option.map_eq_some_iff.1 hparse.symm
      obtain ⟨s, hreach, hdone, hstdout⟩ := reachable_quick 2 (length_sumOutput_le
        (seenAt (runSpec Runtime.ascii runArgv ⟨1, 1, 2⟩ plainSession.options) view
          (runMount ++ py "/tc.in")))
      have hmeasures : MeasuresReadBack Runtime.ascii 0 0 0 :=
        ⟨readsBack_zero, readsBack_zero, smallInt_of_lt (by decide)⟩
      obtain ⟨content, hdump, -⟩ := Main.loadRun_of_done hreach hdone hmeasures
      refine ⟨⟨_, 2, 0, s, _, hargs, rfl, hreach, hdone, hmeasures, ?_, ?_⟩⟩
      · rw [leftAt_runSpec_result, quickDir, hdump]
        exact fileIn_put_self _ _ _
      · rw [leftAt_runSpec_stdout, hstdout, quickDir, fileIn_put_of_ne _ (by decide),
          fileIn_put_self]
        rfl
    · obtain ⟨rfl, rfl⟩ := Prod.mk.inj (Except.ok.inj hsandbox)
      cases hjson
  · intro record content _
    cases hload : loadRun Runtime.ascii content with
    | none => simp [honestHost, hload, Except.toOption]
    | some record => simp [honestHost, hload, Except.toOption]

/-- A judging that evaluates to the verdict accepted returns with it. -/
theorem returns_of_accepted {judging : IoM SolutionResult}
    (haccepted : ((judging.run before).toOption.map fun returned => returned.1.verdict) =
      some .accepted) :
    ∃ result after, Returns judging before result after ∧ result.verdict = .accepted := by
  obtain ⟨⟨result, after⟩, hreturned, hverdict⟩ := Option.map_eq_some_iff.1 haccepted
  refine ⟨result, after, ?_, hverdict⟩
  rw [Returns]
  cases hrun : judging.run before with
  | error exc =>
      rw [hrun] at hreturned
      cases hreturned
  | ok returned =>
      rw [hrun] at hreturned
      rw [Option.some.inj hreturned]

/-- A solution that is judged there on the two testcases. -/
def honestJudging : IoM SolutionResult :=
  judgeSolution Runtime.ascii (fileCalls Runtime.ascii honestHost fun _ _ _ => none)
    plainSession.config ⟨[], [], [], [], none, [], [], none⟩ sumCases ⟨1, 1, 2⟩
    plainSession.options

theorem honestJudging_accepted :
    ((honestJudging.run ⟨fun _ => none, 0⟩).toOption.map fun returned => returned.1.verdict) =
      some .accepted := by
  decide +kernel

/-- It is accepted, and on both it was run to a good end and wrote what is expected. -/
theorem judgeSolution_accepted_runs_honest :
    sumCases ≠ [] ∧ ∀ case ∈ sumCases, ∃ output,
      RanWell Runtime.ascii honestHost [py "/work/bin"] ⟨1, 1, 2⟩ plainSession.options case
        output ∧
      OutputAccepted Runtime.ascii honestHost plainSession.config ⟨1, 1, 2⟩
        plainSession.options case output := by
  obtain ⟨result, after, hreturns, haccepted⟩ := returns_of_accepted honestJudging_accepted
  obtain ⟨hne, compile, hcompile, -, hcases⟩ := judgeSolution_accepted_runs
    runsRunner_honestHost parseFloat_twoSeconds smallInt_eightMib (by decide) hreturns haccepted
  obtain rfl := Except.ok.inj hcompile
  exact ⟨hne, hcases⟩

end IcpcVerify.Judge
