import IcpcVerify.Judge.Files

/-!
# Outcomes of the containers of a testcase

Every directory that a testcase reads was created anew for it, so what its containers
see and leave is a function of the testcase.  For each call that works on files, this
file tells what it returns once it returns at all, whatever the store held before.
-/

namespace IcpcVerify.Judge

open IcpcVerify.Python
open IcpcVerify.Timelimits
open IcpcVerify.Results
open IcpcVerify.Runner
open IcpcVerify.Sandbox
open IcpcVerify.Validators
open IcpcVerify.StatefulRun

/-! ## What the operations do when they return -/

section Operations

variable {host : Host} {removal : Removal} {before after : World}

/-- A directory that was recreated is empty, and the others are untouched. -/
theorem store_of_recreate {dir : IoDir} {value : Unit}
    (hreturns : Returns (recreate removal dir) before value after) :
    after.store = Function.update before.store dir (some emptyDir) := by
  rw [recreate, returns_bind] at hreturns
  obtain ⟨world, between, hget, hrest⟩ := hreturns
  rw [returns_get] at hget
  obtain ⟨rfl, rfl⟩ := hget
  split at hrest
  · exact absurd hrest (returns_throw _ _)
  · rw [returns_set] at hrest
    rw [hrest]

theorem store_of_writeFile {file : IoFile} {content : Bytes} {value : Unit}
    (hreturns : Returns (writeFile file content) before value after) :
    ∃ dir, before.store file.dir = some dir ∧
      after.store =
        Function.update before.store file.dir (some (put dir file.name content)) := by
  rw [writeFile, returns_bind] at hreturns
  obtain ⟨world, between, hget, hrest⟩ := hreturns
  rw [returns_get] at hget
  obtain ⟨rfl, rfl⟩ := hget
  split at hrest
  · exact absurd hrest (returns_throw _ _)
  · next dir hdir =>
    split at hrest
    · exact absurd hrest (returns_throw _ _)
    · rw [returns_set] at hrest
      exact ⟨dir, hdir, by rw [hrest]⟩

theorem readFile_returns {file : IoFile} {value : Option Bytes}
    (hreturns : Returns (readFile file) before value after) :
    value = (before.store file.dir).bind (fun dir => fileIn dir file.name) ∧
      after = before := by
  rw [readFile, returns_bind] at hreturns
  obtain ⟨world, between, hget, hrest⟩ := hreturns
  rw [returns_get] at hget
  obtain ⟨rfl, rfl⟩ := hget
  rw [returns_pure] at hrest
  exact ⟨hrest.1.symm, hrest.2.symm⟩

theorem store_of_copyIn {source : Path} {target : IoFile} {value : Unit}
    (hreturns : Returns (copyIn host source target) before value after) :
    ∃ content dir, host.read source = some content ∧
      before.store target.dir = some dir ∧
        after.store =
          Function.update before.store target.dir (some (put dir target.name content)) := by
  rw [copyIn] at hreturns
  split at hreturns
  · exact absurd hreturns (returns_throw _ _)
  · next content hread =>
    obtain ⟨dir, hdir, hstore⟩ := store_of_writeFile hreturns
    exact ⟨content, dir, hread, hdir, hstore⟩

theorem store_of_copyFile {source target : IoFile} {value : Unit}
    (hreturns : Returns (copyFile source target) before value after) :
    ∃ content dir,
      (before.store source.dir).bind (fun dir => fileIn dir source.name) = some content ∧
        before.store target.dir = some dir ∧
          after.store = Function.update before.store target.dir
            (some (put dir target.name content)) := by
  rw [copyFile, returns_bind] at hreturns
  obtain ⟨read, between, hread, hrest⟩ := hreturns
  obtain ⟨hcontent, rfl⟩ := readFile_returns hread
  split at hrest
  · exact absurd hrest (returns_throw _ _)
  · next content =>
    obtain ⟨dir, hdir, hstore⟩ := store_of_writeFile hrest
    exact ⟨content, dir, hcontent.symm, hdir, hstore⟩

/-- A container sees the mounted part of the store and nothing else. -/
theorem runSandbox_returns {spec : SandboxSpec} {result : SandboxResult}
    (hreturns : Returns (runSandbox host spec) before result after) :
    ∃ left, host.sandbox spec (mounted spec before.store) = .ok (result, left) ∧
      after.store = remount spec before.store left := by
  rw [runSandbox, returns_bind] at hreturns
  obtain ⟨world, between, hget, hrest⟩ := hreturns
  rw [returns_get] at hget
  obtain ⟨rfl, rfl⟩ := hget
  rw [returns_bind] at hrest
  obtain ⟨ended, between, hsandbox, hrest⟩ := hrest
  rw [returns_lift] at hsandbox
  obtain ⟨hended, rfl⟩ := hsandbox
  rw [returns_bind] at hrest
  obtain ⟨_, between, hset, hrest⟩ := hrest
  rw [returns_set] at hset
  rw [returns_pure] at hrest
  obtain ⟨rfl, rfl⟩ := hrest
  exact ⟨ended.2, hended, by rw [hset]⟩

end Operations

/-! ## What the containers of a testcase leave behind -/

/-- What the solution container sees of `io_dir`. -/
def runView (input : Bytes) : IoStore
  | .input => some (put emptyDir (py "tc.in") input)
  | .out => some emptyDir
  | _ => none

/-- What the validator container sees of `io_dir`. -/
def validatorView (input answer teamOutput : Bytes) : IoStore
  | .vdata =>
      some (put (put (put emptyDir (py "tc.in") input) (py "tc.ans") answer)
        (py "tc.out") teamOutput)
  | .feedback => some emptyDir
  | _ => none

/-- What the container of an interactive testcase sees of `io_dir`. -/
def interactiveView (input answer : Bytes) : IoStore
  | .idata => some (put (put emptyDir (py "tc.in") input) (py "tc.ans") answer)
  | .out => some emptyDir
  | .feedback => some emptyDir
  | _ => none

section Observed

variable (rt : Runtime) (host : Host) (case : TestCase)

/-- The outcome of a run; a container that could not be started leaves nothing. -/
def observedRun (runArgv : List PyStr) (limits : TimeLimits) (options : JudgeOptions) :
    RunOutcome :=
  match host.read case.inputPath with
  | none => ⟨none, false, none, none, []⟩
  | some input =>
      match host.sandbox (runSpec rt runArgv limits options) (runView input) with
      | .error _ => ⟨none, false, none, none, []⟩
      | .ok (result, left) =>
          { runJson := (fileIn (left .out) (py "run.json")).bind fun text =>
              (host.loadRun text).toOption
            oomKilled := result.oomKilled
            stdout := fileIn (left .out) (py "stdout")
            stderr := fileIn (left .out) (py "stderr")
            dockerStderr := result.stderr }

/-- The outcome of the validator container for a given team output. -/
def observedValidator (built : BuiltValidator) (teamOutput : Bytes) (flags : List PyStr)
    (image : PyStr) (cpuset : ℤ) (timeout : ℚ) : ValidatorOutcome :=
  match host.read case.inputPath, host.read case.answerPath with
  | some input, some answer =>
      match host.sandbox (validatorSpec rt built .feedback flags image cpuset timeout)
          (validatorView input answer teamOutput) with
      | .error _ => ⟨⟨0, false, [], [], false⟩, none⟩
      | .ok (result, left) => ⟨result, fileIn (left .feedback) (py "judgemessage.txt")⟩
  | _, _ => ⟨⟨0, false, [], [], false⟩, none⟩

/-- The outcome of an interactive run. -/
def observedInteractive (runArgv : List PyStr) (validator : BuiltValidator)
    (config : ProblemConfig) (limits : TimeLimits) (options : JudgeOptions) :
    InteractiveOutcome :=
  match host.read case.inputPath, host.read case.answerPath with
  | some input, some answer =>
      match host.sandbox (interactiveSpec rt runArgv validator config limits options)
          (interactiveView input answer) with
      | .error _ => ⟨none, false, none, none, none, []⟩
      | .ok (result, left) =>
          { runJson := (fileIn (left .out) (py "run.json")).bind fun text =>
              (host.loadInteractive text).toOption
            oomKilled := result.oomKilled
            solStderr := fileIn (left .out) (py "sol.stderr")
            valStderr := fileIn (left .out) (py "val.stderr")
            judgemessage := fileIn (left .feedback) (py "judgemessage.txt")
            dockerStderr := result.stderr }
  | _, _ => ⟨none, false, none, none, none, []⟩

/-- The outcome of a testcase in a session.  No directory below `io_dir` occurs
in it. -/
def observed (session : Session) : CaseOutcome :=
  let run := observedRun rt host case session.runArgv session.limits session.options
  { run := run
    validator :=
      match session.validator with
      | none => ⟨⟨0, false, [], [], false⟩, none⟩
      | some built =>
          observedValidator rt host case built (run.stdout.getD [])
            session.config.validatorFlags session.options.image session.options.cpuset
            (session.limits.hardKill + 30)
    interactive :=
      match session.validator with
      | none => ⟨none, false, none, none, none, []⟩
      | some validator =>
          observedInteractive rt host case session.runArgv validator session.config
            session.limits session.options
    answer := (host.read case.answerPath).getD [] }

end Observed

section Calls

variable {rt : Runtime} {host : Host} {removal : Removal} {case : TestCase}
variable {before after : World}

theorem mounted_runSpec (runArgv : List PyStr) (limits : TimeLimits)
    (options : JudgeOptions) (input : Bytes) {store : IoStore}
    (hinput : store .input = some (put emptyDir (py "tc.in") input))
    (hout : store .out = some emptyDir) :
    mounted (runSpec rt runArgv limits options) store = runView input := by
  funext dir
  cases dir <;> simp [mounted, mountedAs, runSpec, runView, hinput, hout]

theorem mounted_validatorSpec (built : BuiltValidator) (flags : List PyStr)
    (image : PyStr) (cpuset : ℤ) (timeout : ℚ) (input answer teamOutput : Bytes)
    {store : IoStore}
    (hvdata : store .vdata =
      some (put (put (put emptyDir (py "tc.in") input) (py "tc.ans") answer)
        (py "tc.out") teamOutput))
    (hfeedback : store .feedback = some emptyDir) :
    mounted (validatorSpec rt built .feedback flags image cpuset timeout) store =
      validatorView input answer teamOutput := by
  funext dir
  cases dir <;>
    simp [mounted, mountedAs, validatorSpec, validatorView, hvdata, hfeedback]

theorem mounted_interactiveSpec (runArgv : List PyStr) (validator : BuiltValidator)
    (config : ProblemConfig) (limits : TimeLimits) (options : JudgeOptions)
    (input answer : Bytes) {store : IoStore}
    (hidata : store .idata =
      some (put (put emptyDir (py "tc.in") input) (py "tc.ans") answer))
    (hout : store .out = some emptyDir) (hfeedback : store .feedback = some emptyDir) :
    mounted (interactiveSpec rt runArgv validator config limits options) store =
      interactiveView input answer := by
  funext dir
  cases dir <;>
    simp [mounted, mountedAs, interactiveSpec, interactiveView, hidata, hout, hfeedback]

theorem fileIn_put_self (dir : Dir) (name : PyStr) (content : Bytes) :
    fileIn (put dir name content) name = some content := by
  simp [fileIn, put]

theorem fileIn_put_of_ne (dir : Dir) {name name' : PyStr} (hne : name' ≠ name)
    (content : Bytes) : fileIn (put dir name content) name' = fileIn dir name' := by
  simp [fileIn, put, Function.update_of_ne hne]

/-- The team output is what the run left, or nothing; its file is there afterwards. -/
theorem readTeamOutput_returns {dir : Dir} {value : Bytes}
    (hdir : before.store .out = some dir)
    (hreturns : Returns readTeamOutput before value after) :
    value = (fileIn dir (py "stdout")).getD [] ∧
      ∃ dir', after.store .out = some dir' ∧ fileIn dir' (py "stdout") = some value ∧
        ∀ name ≠ py "stdout", fileIn dir' name = fileIn dir name := by
  rw [readTeamOutput, returns_bind] at hreturns
  obtain ⟨read, between, hread, hrest⟩ := hreturns
  obtain ⟨hcontent, rfl⟩ := readFile_returns hread
  have hstdout : read = fileIn dir (py "stdout") := by
    rw [hcontent]
    simp [teamOutputFile, hdir]
  cases read with
  | some content =>
      simp only [returns_pure] at hrest
      obtain ⟨rfl, rfl⟩ := hrest
      exact ⟨by rw [← hstdout]; rfl, dir, hdir, hstdout.symm, fun _ _ => rfl⟩
  | none =>
      simp only [returns_bind, returns_pure] at hrest
      obtain ⟨_, between, hwrite, rfl, rfl⟩ := hrest
      obtain ⟨dir', hdir', hstore⟩ := store_of_writeFile hwrite
      obtain rfl : dir = dir' := Option.some.inj (hdir.symm.trans hdir')
      refine ⟨by rw [← hstdout]; rfl, put dir (py "stdout") [], ?_, ?_, ?_⟩
      · rw [hstore]
        simp [teamOutputFile]
      · exact fileIn_put_self _ _ _
      · intro name hname
        exact fileIn_put_of_ne _ hname _

theorem observedRun_of_sandbox {runArgv : List PyStr} {limits : TimeLimits}
    {options : JudgeOptions} {input : Bytes} {result : SandboxResult} {left : IoDir → Dir}
    (hread : host.read case.inputPath = some input)
    (hsandbox : host.sandbox (runSpec rt runArgv limits options) (runView input) =
      .ok (result, left)) :
    observedRun rt host case runArgv limits options =
      { runJson := (fileIn (left .out) (py "run.json")).bind fun text =>
          (host.loadRun text).toOption
        oomKilled := result.oomKilled
        stdout := fileIn (left .out) (py "stdout")
        stderr := fileIn (left .out) (py "stderr")
        dockerStderr := result.stderr } := by
  rw [observedRun, hread]
  simp only [hsandbox]

/-- Whatever was in the store, the solution container starts on a fresh view, and
only what it leaves is read. -/
theorem runOneTestcase_returns {runArgv : List PyStr} {limits : TimeLimits}
    {options : JudgeOptions} {report : RunReport}
    (hreturns : Returns (runOneTestcase rt host removal case runArgv limits options)
      before report after) :
    report = (observedRun rt host case runArgv limits options).report rt ∧
      (report.measurement.isSome = true →
        (after.store .out).bind (fun dir => fileIn dir (py "stdout")) =
          some ((observedRun rt host case runArgv limits options).stdout.getD [])) := by
  simp only [runOneTestcase, returns_bind] at hreturns
  obtain ⟨_, world₁, hinput, _, world₂, hout, _, world₃, hcopy, result, world₄, hrun, text,
    world₅, hjson, hrest⟩ := hreturns
  have hstore₁ := store_of_recreate hinput
  have hstore₂ := store_of_recreate hout
  obtain ⟨input, dir, hread, hdir, hstore₃⟩ := store_of_copyIn hcopy
  obtain ⟨left, hsandbox, hstore₄⟩ := runSandbox_returns hrun
  obtain ⟨htext, rfl⟩ := readFile_returns hjson
  have hfresh : dir = emptyDir := by
    simpa [hstore₂, hstore₁, eq_comm] using hdir
  have hview : mounted (runSpec rt runArgv limits options) world₃.store = runView input := by
    apply mounted_runSpec
    · simp [hstore₃, hfresh]
    · simp [hstore₃, hstore₂]
  have hleft : world₅.store .out = some (left .out) := by
    simp [hstore₄, remount, mountedAs, runSpec]
  have htext' : text = fileIn (left .out) (py "run.json") := by
    rw [htext]
    simp [runJsonFile, hleft]
  rw [hview] at hsandbox
  rw [observedRun_of_sandbox hread hsandbox]
  cases text with
  | none =>
      simp only [returns_pure] at hrest
      obtain ⟨rfl, rfl⟩ := hrest
      simp [RunOutcome.report, ← htext']
  | some text =>
      simp only [returns_bind, returns_lift, returns_pure] at hrest
      obtain ⟨raw, _, ⟨hload, rfl⟩, teamOutput, world₆, hteam, stderr, world₇, hstderr, rfl,
        rfl⟩ := hrest
      obtain ⟨hvalue, dir', hdir', hstdout, hothers⟩ := readTeamOutput_returns hleft hteam
      obtain ⟨hstderr', rfl⟩ := readFile_returns hstderr
      have hstderrName : stderr = fileIn (left .out) (py "stderr") := by
        rw [hstderr', ← hothers (py "stderr") (by decide)]
        simp [hdir']
      constructor
      · simp [RunOutcome.report, ← htext', hload, Except.toOption, hvalue, hstderrName]
      · intro _
        simp [hdir', hstdout, hvalue]

theorem readFeedback_returns {feedbackDir : IoDir} {value : PyStr}
    (hreturns : Returns (readFeedback rt feedbackDir) before value after) :
    value = readJudgemessage rt ((before.store feedbackDir).bind fun dir =>
        fileIn dir (py "judgemessage.txt")) ∧
      after = before := by
  simp only [readFeedback, returns_bind, returns_pure] at hreturns
  obtain ⟨file, between, hread, rfl, rfl⟩ := hreturns
  obtain ⟨rfl, rfl⟩ := readFile_returns hread
  exact ⟨rfl, rfl⟩

/-- The validator judges the current testcase's files and team output, and its
message is its own. -/
theorem runCustomValidator_returns {built : BuiltValidator} {teamOutput : Bytes}
    {flags : List PyStr} {image : PyStr} {cpuset : ℤ} {timeout : ℚ}
    {value : Verdict × PyStr}
    (hteam : (before.store .out).bind (fun dir => fileIn dir (py "stdout")) =
      some teamOutput)
    (hreturns : Returns (runCustomValidator rt host removal case built teamOutputFile
      .feedback flags image cpuset timeout) before value after) :
    value = (observedValidator rt host case built teamOutput flags image cpuset
      timeout).verdict rt := by
  simp only [runCustomValidator, returns_bind, returns_pure] at hreturns
  obtain ⟨_, world₁, hvdata, _, world₂, hinput, _, world₃, hanswer, _, world₄, hcopy, _,
    world₅, hfeedback, result, world₆, hrun, message, world₇, hmessage, rfl, -⟩ := hreturns
  have hstore₁ := store_of_recreate hvdata
  obtain ⟨input, dir₁, hreadInput, hdir₁, hstore₂⟩ := store_of_copyIn hinput
  obtain ⟨answer, dir₂, hreadAnswer, hdir₂, hstore₃⟩ := store_of_copyIn hanswer
  obtain ⟨copied, dir₃, hcopied, hdir₃, hstore₄⟩ := store_of_copyFile hcopy
  have hstore₅ := store_of_recreate hfeedback
  obtain ⟨left, hsandbox, hstore₆⟩ := runSandbox_returns hrun
  obtain ⟨hvalue, -⟩ := readFeedback_returns hmessage
  have hfresh₁ : dir₁ = emptyDir := by
    simpa [hstore₁, eq_comm] using hdir₁
  have hfresh₂ : dir₂ = put emptyDir (py "tc.in") input := by
    simpa [hstore₂, hfresh₁, eq_comm] using hdir₂
  have hfresh₃ : dir₃ = put (put emptyDir (py "tc.in") input) (py "tc.ans") answer := by
    simpa [hstore₃, hfresh₂, eq_comm] using hdir₃
  have hsame : copied = teamOutput := by
    have hout : world₃.store .out = before.store .out := by
      simp [hstore₃, hstore₂, hstore₁]
    rw [teamOutputFile, hout, hteam] at hcopied
    exact (Option.some.inj hcopied).symm
  have hview : mounted (validatorSpec rt built .feedback flags image cpuset timeout)
      world₅.store = validatorView input answer teamOutput := by
    apply mounted_validatorSpec
    · simp [hstore₅, hstore₄, hfresh₃, hsame]
    · simp [hstore₅]
  have hleft : world₆.store .feedback = some (left .feedback) := by
    simp [hstore₆, remount, mountedAs, validatorSpec]
  rw [hview] at hsandbox
  simp [observedValidator, hreadInput, hreadAnswer, hsandbox, ValidatorOutcome.verdict,
    hvalue, hleft]

theorem observedInteractive_of_sandbox {runArgv : List PyStr} {validator : BuiltValidator}
    {config : ProblemConfig} {limits : TimeLimits} {options : JudgeOptions}
    {input answer : Bytes} {result : SandboxResult} {left : IoDir → Dir}
    (hinput : host.read case.inputPath = some input)
    (hanswer : host.read case.answerPath = some answer)
    (hsandbox : host.sandbox (interactiveSpec rt runArgv validator config limits options)
      (interactiveView input answer) = .ok (result, left)) :
    observedInteractive rt host case runArgv validator config limits options =
      { runJson := (fileIn (left .out) (py "run.json")).bind fun text =>
          (host.loadInteractive text).toOption
        oomKilled := result.oomKilled
        solStderr := fileIn (left .out) (py "sol.stderr")
        valStderr := fileIn (left .out) (py "val.stderr")
        judgemessage := fileIn (left .feedback) (py "judgemessage.txt")
        dockerStderr := result.stderr } := by
  simp only [observedInteractive, hinput, hanswer, hsandbox]

/-- The same for the container of an interactive testcase. -/
theorem runInteractiveTestcase_returns {runArgv : List PyStr} {validator : BuiltValidator}
    {config : ProblemConfig} {limits : TimeLimits} {options : JudgeOptions}
    {report : InteractiveReport}
    (hreturns : Returns (runInteractiveTestcase rt host removal case runArgv validator
      config limits options) before report after) :
    report =
        (observedInteractive rt host case runArgv validator config limits options).report
          rt ∧
      (after.store .feedback).bind (fun dir => fileIn dir (py "judgemessage.txt")) =
        (observedInteractive rt host case runArgv validator config limits
          options).judgemessage := by
  simp only [runInteractiveTestcase, returns_bind] at hreturns
  obtain ⟨_, world₁, hidata, _, world₂, hout, _, world₃, hfeedback, _, world₄, hinput, _,
    world₅, hanswer, result, world₆, hrun, text, world₇, hjson, hrest⟩ := hreturns
  have hstore₁ := store_of_recreate hidata
  have hstore₂ := store_of_recreate hout
  have hstore₃ := store_of_recreate hfeedback
  obtain ⟨input, dir₁, hreadInput, hdir₁, hstore₄⟩ := store_of_copyIn hinput
  obtain ⟨answer, dir₂, hreadAnswer, hdir₂, hstore₅⟩ := store_of_copyIn hanswer
  obtain ⟨left, hsandbox, hstore₆⟩ := runSandbox_returns hrun
  obtain ⟨htext, rfl⟩ := readFile_returns hjson
  have hfresh₁ : dir₁ = emptyDir := by
    simpa [hstore₃, hstore₂, hstore₁, eq_comm] using hdir₁
  have hfresh₂ : dir₂ = put emptyDir (py "tc.in") input := by
    simpa [hstore₄, hfresh₁, eq_comm] using hdir₂
  have hview : mounted (interactiveSpec rt runArgv validator config limits options)
      world₅.store = interactiveView input answer := by
    apply mounted_interactiveSpec
    · simp [hstore₅, hfresh₂]
    · simp [hstore₅, hstore₄, hstore₃, hstore₂]
    · simp [hstore₅, hstore₄, hstore₃]
  have hleft : world₇.store .out = some (left .out) := by
    simp [hstore₆, remount, mountedAs, interactiveSpec]
  have hleft' : world₇.store .feedback = some (left .feedback) := by
    simp [hstore₆, remount, mountedAs, interactiveSpec]
  have htext' : text = fileIn (left .out) (py "run.json") := by
    rw [htext]
    simp [runJsonFile, hleft]
  rw [hview] at hsandbox
  rw [observedInteractive_of_sandbox hreadInput hreadAnswer hsandbox]
  cases text with
  | none =>
      simp only [returns_pure] at hrest
      obtain ⟨rfl, rfl⟩ := hrest
      simp [InteractiveOutcome.report, ← htext', hleft']
  | some text =>
      simp only [returns_bind, returns_lift, returns_pure] at hrest
      obtain ⟨raw, _, ⟨hload, rfl⟩, solStderr, _, hsolStderr, valStderr, _, hvalStderr, rfl,
        rfl⟩ := hrest
      obtain ⟨rfl, rfl⟩ := readFile_returns hsolStderr
      obtain ⟨rfl, rfl⟩ := readFile_returns hvalStderr
      simp [InteractiveOutcome.report, ← htext', hload, Except.toOption, hleft, hleft']

end Calls

end IcpcVerify.Judge
