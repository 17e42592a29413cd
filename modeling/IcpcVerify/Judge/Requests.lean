import IcpcVerify.Judge.NoStaleState
import IcpcVerify.Judge.Traced

/-!
# What containers are started

Which containers `judge_solution` starts, and what each of them sees of the directories of
the testcases.  The judging is the same with every docker that answers these requests
alike, so no other request is ever made: outside the interactive mode the container of a
solution has the input and an empty directory for the output, and no answer.
-/

namespace IcpcVerify.Judge

open IcpcVerify.Python
open IcpcVerify.Solutions
open IcpcVerify.Timelimits
open IcpcVerify.Results
open IcpcVerify.Sandbox
open IcpcVerify.Validators
open IcpcVerify.Compile
open IcpcVerify.StatefulRun
open IcpcVerify.TracedRun
open IcpcVerify.LazyScan

/-! ## The requests -/

section Requests

variable (rt : Runtime) (workRoot : Path) (config : ProblemConfig) (solution : Solution)
  (testcases : List TestCase) (limits : TimeLimits) (options : JudgeOptions)

/-- `build_root / "validator"`. -/
def validatorBuildDir : Path :=
  workRoot ++ [py "validator"]

/-- The containers of a compilation or a validator build; none of them sees a testcase. -/
inductive BuildRequest : SandboxSpec → Prop
  | compile {language : Language} (sources : List PyStr)
      (hlanguage : solution.language = some language) :
      BuildRequest (compileSpec rt solution language .work
        ⟨options.image, options.cpuset, options.compileFlags⟩ Compile.workMount sources)
  | command {language : Language} (hlanguage : solution.language = some language) :
      BuildRequest (runArgvSpec rt solution language .work
        ⟨options.image, options.cpuset, options.compileFlags⟩ Compile.workMount config.memoryMib)
  | buildScript (hmode : config.validation ≠ .default) :
      BuildRequest (buildSpec rt (validatorBuildDir workRoot) options.image options.cpuset)
  | compileValidator (hmode : config.validation ≠ .default) (unit : Solution)
      (language : Language) (sources : List PyStr) :
      BuildRequest (compileSpec rt unit language (.validator (validatorBuildDir workRoot))
        ⟨options.image, options.cpuset, []⟩ validatorMount sources)
  | validatorCommand (hmode : config.validation ≠ .default) (unit : Solution)
      (language : Language) :
      BuildRequest (runArgvSpec rt unit language (.validator (validatorBuildDir workRoot))
        ⟨options.image, options.cpuset, []⟩ validatorMount validatorMemoryMib)

/-- The containers of a testcase, with what each sees of `io_dir`; `read` is what the
problem files hold at that moment. -/
inductive TestcaseRequest (read : Path → Option Bytes) : SandboxSpec → IoStore → Prop
  | run {case : TestCase} {input : Bytes} (runArgv : List PyStr)
      (hmode : config.validation ≠ .customInteractive) (hcase : case ∈ testcases)
      (hinput : read case.inputPath = some input) :
      TestcaseRequest read (runSpec rt runArgv limits options) (runView input)
  | validate {case : TestCase} {input answer : Bytes} (built : BuiltValidator)
      (teamOutput : Bytes) (hmode : config.validation = .custom) (hcase : case ∈ testcases)
      (hinput : read case.inputPath = some input)
      (hanswer : read case.answerPath = some answer) :
      TestcaseRequest read
        (validatorSpec rt built .feedback config.validatorFlags options.image options.cpuset
          (limits.hardKill + 30))
        (validatorView input answer teamOutput)
  | interact {case : TestCase} {input answer : Bytes} (runArgv : List PyStr)
      (validator : BuiltValidator) (hmode : config.validation = .customInteractive)
      (hcase : case ∈ testcases) (hinput : read case.inputPath = some input)
      (hanswer : read case.answerPath = some answer) :
      TestcaseRequest read (interactiveSpec rt runArgv validator config limits options)
        (interactiveView input answer)

/-- The same answers to everything but containers, and to the containers above. -/
structure SameForRequests (answers answers' : Answers) : Prop where
  read : answers'.host.read = answers.host.read
  loadRun : answers'.host.loadRun = answers.host.loadRun
  loadInteractive : answers'.host.loadInteractive = answers.host.loadInteractive
  isDir : answers'.isDir = answers.isDir
  copySources : answers'.copySources = answers.copySources
  entriesBelow : answers'.entriesBelow = answers.entriesBelow
  copyTree : answers'.copyTree = answers.copyTree
  makeExecutable : answers'.makeExecutable = answers.makeExecutable
  isFile : answers'.isFile = answers.isFile
  build : ∀ spec, BuildRequest rt workRoot config solution options spec →
    answers'.sandbox spec = answers.sandbox spec
  testcase : ∀ spec view,
    TestcaseRequest rt config testcases limits options answers.host.read spec view →
      answers'.host.sandbox spec view = answers.host.sandbox spec view

end Requests

/-! ## Testcases -/

section Testcases

variable {rt : Runtime} {host host' : Host} {removal : Removal} {case : TestCase}

/-- A container that ends alike for the store at hand. -/
theorem runSandbox_congr {spec : SandboxSpec} {world : World}
    (hsandbox : host'.sandbox spec (mounted spec world.store) =
      host.sandbox spec (mounted spec world.store)) :
    (runSandbox host' spec).run world = (runSandbox host spec).run world := by
  simp only [runSandbox, StateT.run_bind, StateT.run_get, pure_bind, hsandbox]

theorem copyIn_congr (hread : host'.read = host.read) : copyIn host' = copyIn host := by
  funext source target
  simp only [copyIn, hread]

theorem runOneTestcase_congr (hread : host'.read = host.read)
    (hload : host'.loadRun = host.loadRun) {runArgv : List PyStr} {limits : TimeLimits}
    {options : JudgeOptions}
    (hsandbox : ∀ input, host.read case.inputPath = some input →
      host'.sandbox (runSpec rt runArgv limits options) (runView input) =
        host.sandbox (runSpec rt runArgv limits options) (runView input)) :
    runOneTestcase rt host' removal case runArgv limits options =
      runOneTestcase rt host removal case runArgv limits options := by
  funext world
  rw [runOneTestcase, runOneTestcase, copyIn_congr hread, hload]
  apply run_bind_congr
  intro _ first hinput
  apply run_bind_congr
  intro _ second hout
  apply run_bind_congr
  intro _ third hcopied
  have hstore₁ := store_of_recreate hinput
  have hstore₂ := store_of_recreate hout
  obtain ⟨input, dir, hcontent, hdir, hstore₃⟩ := store_of_copyIn hcopied
  have hfresh : dir = emptyDir := by
    simpa [hstore₂, hstore₁, eq_comm] using hdir
  have hview : mounted (runSpec rt runArgv limits options) third.store = runView input := by
    apply mounted_runSpec
    · simp [hstore₃, hfresh]
    · simp [hstore₃, hstore₂]
  rw [StateT.run_bind, StateT.run_bind, runSandbox_congr]
  rw [hview]
  exact hsandbox input hcontent

theorem runInteractiveTestcase_congr (hread : host'.read = host.read)
    (hload : host'.loadInteractive = host.loadInteractive) {runArgv : List PyStr}
    {validator : BuiltValidator} {config : ProblemConfig} {limits : TimeLimits}
    {options : JudgeOptions}
    (hsandbox : ∀ input answer, host.read case.inputPath = some input →
      host.read case.answerPath = some answer →
      host'.sandbox (interactiveSpec rt runArgv validator config limits options)
          (interactiveView input answer) =
        host.sandbox (interactiveSpec rt runArgv validator config limits options)
          (interactiveView input answer)) :
    runInteractiveTestcase rt host' removal case runArgv validator config limits options =
      runInteractiveTestcase rt host removal case runArgv validator config limits options := by
  funext world
  rw [runInteractiveTestcase, runInteractiveTestcase, copyIn_congr hread, hload]
  apply run_bind_congr
  intro _ first hidata
  apply run_bind_congr
  intro _ second hout
  apply run_bind_congr
  intro _ third hfeedback
  apply run_bind_congr
  intro _ fourth hinput
  apply run_bind_congr
  intro _ fifth hanswer
  have hstore₁ := store_of_recreate hidata
  have hstore₂ := store_of_recreate hout
  have hstore₃ := store_of_recreate hfeedback
  obtain ⟨input, dir₁, hcontent, hdir₁, hstore₄⟩ := store_of_copyIn hinput
  obtain ⟨answer, dir₂, hcontent', hdir₂, hstore₅⟩ := store_of_copyIn hanswer
  have hfresh₁ : dir₁ = emptyDir := by
    simpa [hstore₃, hstore₂, hstore₁, eq_comm] using hdir₁
  have hfresh₂ : dir₂ = put emptyDir (py "tc.in") input := by
    simpa [hstore₄, hfresh₁, eq_comm] using hdir₂
  have hview : mounted (interactiveSpec rt runArgv validator config limits options)
      fifth.store = interactiveView input answer := by
    apply mounted_interactiveSpec
    · simp [hstore₅, hfresh₂]
    · simp [hstore₅, hstore₄, hstore₃, hstore₂]
    · simp [hstore₅, hstore₄, hstore₃]
  rw [StateT.run_bind, StateT.run_bind, runSandbox_congr]
  rw [hview]
  exact hsandbox input answer hcontent hcontent'

theorem runCustomValidator_congr (hread : host'.read = host.read) {built : BuiltValidator}
    {teamOutput : IoFile} {flags : List PyStr} {image : PyStr} {cpuset : ℤ} {timeout : ℚ}
    (hsandbox : ∀ input answer output, host.read case.inputPath = some input →
      host.read case.answerPath = some answer →
      host'.sandbox (validatorSpec rt built .feedback flags image cpuset timeout)
          (validatorView input answer output) =
        host.sandbox (validatorSpec rt built .feedback flags image cpuset timeout)
          (validatorView input answer output)) :
    runCustomValidator rt host' removal case built teamOutput .feedback flags image cpuset
        timeout =
      runCustomValidator rt host removal case built teamOutput .feedback flags image cpuset
        timeout := by
  funext world
  rw [runCustomValidator, runCustomValidator, copyIn_congr hread]
  apply run_bind_congr
  intro _ first hvdata
  apply run_bind_congr
  intro _ second hinput
  apply run_bind_congr
  intro _ third hanswer
  apply run_bind_congr
  intro _ fourth hcopied
  apply run_bind_congr
  intro _ fifth hfeedback
  have hstore₁ := store_of_recreate hvdata
  obtain ⟨input, dir₁, hcontent, hdir₁, hstore₂⟩ := store_of_copyIn hinput
  obtain ⟨answer, dir₂, hcontent', hdir₂, hstore₃⟩ := store_of_copyIn hanswer
  obtain ⟨output, dir₃, -, hdir₃, hstore₄⟩ := store_of_copyFile hcopied
  have hstore₅ := store_of_recreate hfeedback
  have hfresh₁ : dir₁ = emptyDir := by
    simpa [hstore₁, eq_comm] using hdir₁
  have hfresh₂ : dir₂ = put emptyDir (py "tc.in") input := by
    simpa [hstore₂, hfresh₁, eq_comm] using hdir₂
  have hfresh₃ : dir₃ = put (put emptyDir (py "tc.in") input) (py "tc.ans") answer := by
    simpa [hstore₃, hfresh₂, eq_comm] using hdir₃
  have hview : mounted (validatorSpec rt built .feedback flags image cpuset timeout)
      fifth.store = validatorView input answer output := by
    apply mounted_validatorSpec
    · simp [hstore₅, hstore₄, hfresh₃]
    · simp [hstore₅]
  rw [StateT.run_bind, StateT.run_bind, runSandbox_congr]
  rw [hview]
  exact hsandbox input answer output hcontent hcontent'

end Testcases

/-! ## Compiling and building -/

section Builds

variable {rt : Runtime} {surroundings surroundings' : Surroundings}

/-- A question that is answered alike after every history. -/
theorem ask_congr {Value : Type} {event : Event} {question : Answers → PyM Value}
    (hanswers : ∀ history,
      question (surroundings' history) = question (surroundings history)) :
    ask surroundings' event question = ask surroundings event question := by
  simp only [ask, hanswers]

theorem onFiles_congr {Value : Type} {event : Event} {action : Host → IoM Value}
    (hactions : ∀ history,
      action (surroundings' history).host = action (surroundings history).host) :
    onFiles surroundings' event action = onFiles surroundings event action := by
  simp only [onFiles, hactions]

theorem compileSolution_congr {m : Type → Type} [Monad m] [MonadExceptOf PyError m]
    {calls calls' : CompileCalls m} (hisDir : calls'.isDir = calls.isDir)
    (hcopied : calls'.copySources = calls.copySources) {solution : Solution}
    {workDir : BindSource} {memoryMib : ℤ} {options : CompileOptions} {mount : PyStr}
    (hcompile : ∀ language sources, solution.language = some language →
      calls'.runSandbox (compileSpec rt solution language workDir options mount sources) =
        calls.runSandbox (compileSpec rt solution language workDir options mount sources))
    (hcommand : ∀ language, solution.language = some language →
      calls'.runSandbox (runArgvSpec rt solution language workDir options mount memoryMib) =
        calls.runSandbox (runArgvSpec rt solution language workDir options mount memoryMib)) :
    compileSolution rt calls' solution workDir memoryMib options mount =
      compileSolution rt calls solution workDir memoryMib options mount := by
  rw [compileSolution, compileSolution]
  cases hlanguage : solution.language with
  | none => rfl
  | some language =>
      simp only [stageSources, hisDir, hcopied, hcompile language _ hlanguage,
        hcommand language hlanguage]

variable {workRoot : Path} {config : ProblemConfig} {solution : Solution}
  {testcases : List TestCase} {limits : TimeLimits} {options : JudgeOptions}

section Same

variable (hsame : ∀ history, SameForRequests rt workRoot config solution testcases limits options
  (surroundings history) (surroundings' history))
include hsame

theorem compileCalls_same :
    (compileCalls surroundings').isDir = (compileCalls surroundings).isDir ∧
      (compileCalls surroundings').copySources = (compileCalls surroundings).copySources ∧
      ∀ spec, BuildRequest rt workRoot config solution options spec →
        (compileCalls surroundings').runSandbox spec =
          (compileCalls surroundings).runSandbox spec := by
  refine ⟨?_, ?_, ?_⟩
  · funext path
    dsimp only [compileCalls]
    exact ask_congr fun history => congrFun (hsame history).isDir path
  · funext source target
    dsimp only [compileCalls]
    exact ask_congr fun history => congrFun (congrFun (hsame history).copySources source) target
  · intro spec hspec
    dsimp only [compileCalls]
    exact ask_congr fun history => (hsame history).build spec hspec

theorem buildFiles_same :
    (buildCalls surroundings').entriesBelow = (buildCalls surroundings).entriesBelow ∧
      (buildCalls surroundings').copyTree = (buildCalls surroundings).copyTree ∧
      (buildCalls surroundings').makeExecutable = (buildCalls surroundings).makeExecutable ∧
      (buildCalls surroundings').isFile = (buildCalls surroundings).isFile := by
  refine ⟨?_, ?_, ?_, ?_⟩
  · funext path
    dsimp only [buildCalls]
    exact ask_congr fun history => congrFun (hsame history).entriesBelow path
  · funext source target
    dsimp only [buildCalls]
    exact ask_congr fun history => congrFun (congrFun (hsame history).copyTree source) target
  · funext path
    dsimp only [buildCalls]
    exact ask_congr fun history => congrFun (hsame history).makeExecutable path
  · funext path
    dsimp only [buildCalls]
    exact ask_congr fun history => congrFun (hsame history).isFile path

theorem runBuildScript_same (hmode : config.validation ≠ .default) :
    runBuildScript rt (buildCalls surroundings') (validatorBuildDir workRoot) options.image
        options.cpuset =
      runBuildScript rt (buildCalls surroundings) (validatorBuildDir workRoot) options.image
        options.cpuset := by
  obtain ⟨-, -, hsandbox⟩ := compileCalls_same hsame
  obtain ⟨-, -, hexecutable, hfile⟩ := buildFiles_same hsame
  have hran : (buildCalls surroundings').compile.runSandbox
        (buildSpec rt (validatorBuildDir workRoot) options.image options.cpuset) =
      (buildCalls surroundings).compile.runSandbox
        (buildSpec rt (validatorBuildDir workRoot) options.image options.cpuset) :=
    hsandbox _ (.buildScript hmode)
  simp only [runBuildScript, hexecutable, hfile, hran]

theorem compileValidator_same (hmode : config.validation ≠ .default)
    (planned : Option Solution) :
    compileValidator rt (buildCalls surroundings') planned (validatorBuildDir workRoot)
        options.image options.cpuset =
      compileValidator rt (buildCalls surroundings) planned (validatorBuildDir workRoot)
        options.image options.cpuset := by
  obtain ⟨hisDir, hcopied, hsandbox⟩ := compileCalls_same hsame
  cases planned with
  | none => rfl
  | some unit =>
      have hcompiled : compileSolution rt (buildCalls surroundings').compile unit
            (.validator (validatorBuildDir workRoot)) validatorMemoryMib
            ⟨options.image, options.cpuset, []⟩ validatorMount =
          compileSolution rt (buildCalls surroundings).compile unit
            (.validator (validatorBuildDir workRoot)) validatorMemoryMib
            ⟨options.image, options.cpuset, []⟩ validatorMount := by
        apply compileSolution_congr hisDir hcopied
        · exact fun language sources _ =>
            hsandbox _ (.compileValidator hmode unit language sources)
        · exact fun language _ => hsandbox _ (.validatorCommand hmode unit language)
      simp only [compileValidator, hcompiled]

/-- A validator is built with its own directory only. -/
theorem buildValidator_same (hmode : config.validation ≠ .default) (dir : Path) :
    buildValidator rt (buildCalls surroundings') dir workRoot options.image options.cpuset =
      buildValidator rt (buildCalls surroundings) dir workRoot options.image
        options.cpuset := by
  obtain ⟨hbelow, htree, hexecutable, -⟩ := buildFiles_same hsame
  have hscript := runBuildScript_same hsame hmode
  have hsources := compileValidator_same hsame hmode
  rw [validatorBuildDir] at hscript hsources
  simp only [buildValidator, hbelow, htree, hexecutable, hscript, hsources]

end Same

end Builds

/-! ## Judging -/

section Judging

variable {rt : Runtime} {surroundings surroundings' : Surroundings} {removal : Removal}
  {workRoot : Path} {config : ProblemConfig} {solution : Solution} {testcases : List TestCase}
  {limits : TimeLimits} {options : JudgeOptions}
variable (hsame : ∀ history, SameForRequests rt workRoot config solution testcases limits options
  (surroundings history) (surroundings' history))
include hsame

theorem judgeInteractiveCase_same (hmode : config.validation = .customInteractive)
    {runArgv : List PyStr} {validator : Option BuiltValidator}
    {compareFlags : Option Compare.CompareFlags} {case : TestCase} (hcase : case ∈ testcases)
    (progress : Progress TestCaseResult) :
    judgeInteractiveCase (tracedCalls rt surroundings' removal workRoot)
        ⟨config, runArgv, validator, compareFlags, limits, options⟩ progress case =
      judgeInteractiveCase (tracedCalls rt surroundings removal workRoot)
        ⟨config, runArgv, validator, compareFlags, limits, options⟩ progress case := by
  have hran : ∀ built, (tracedCalls rt surroundings' removal workRoot).runInteractiveTestcase case
        runArgv built config limits options =
      (tracedCalls rt surroundings removal workRoot).runInteractiveTestcase case runArgv built
        config limits options := by
    intro built
    rw [runInteractiveTestcase_traced, runInteractiveTestcase_traced]
    apply onFiles_congr
    intro history
    have hanswers := hsame history
    apply runInteractiveTestcase_congr hanswers.read hanswers.loadInteractive
    exact fun input answer hinput hanswer =>
      hanswers.testcase _ _ (.interact runArgv built hmode hcase hinput hanswer)
  have hread : ∀ dir, (tracedCalls rt surroundings' removal workRoot).readJudgemessage case dir =
      (tracedCalls rt surroundings removal workRoot).readJudgemessage case dir := by
    intro dir
    rw [readJudgemessage_traced, readJudgemessage_traced]
    exact onFiles_congr fun history => rfl
  have htestcase : (tracedCalls rt surroundings' removal workRoot).testcase =
      (tracedCalls rt surroundings removal workRoot).testcase := rfl
  simp only [judgeInteractiveCase, hran, hread, htestcase]

/-- In the default mode there is no validator. -/
theorem judgeMeasuredCase_same (hmode : config.validation ≠ .customInteractive)
    {runArgv : List PyStr} {validator : Option BuiltValidator}
    (hvalidator : config.validation = .default → validator = none)
    {compareFlags : Option Compare.CompareFlags} {case : TestCase} (hcase : case ∈ testcases)
    (progress : Progress TestCaseResult) :
    judgeMeasuredCase rt (tracedCalls rt surroundings' removal workRoot)
        ⟨config, runArgv, validator, compareFlags, limits, options⟩ progress case =
      judgeMeasuredCase rt (tracedCalls rt surroundings removal workRoot)
        ⟨config, runArgv, validator, compareFlags, limits, options⟩ progress case := by
  have hran : (tracedCalls rt surroundings' removal workRoot).runOneTestcase case runArgv limits
        options =
      (tracedCalls rt surroundings removal workRoot).runOneTestcase case runArgv limits
        options := by
    rw [runOneTestcase_traced, runOneTestcase_traced]
    apply onFiles_congr
    intro history
    have hanswers := hsame history
    apply runOneTestcase_congr hanswers.read hanswers.loadRun
    exact fun input hinput => hanswers.testcase _ _ (.run runArgv hmode hcase hinput)
  have hvalidated : config.validation = .custom → ∀ built output,
      (tracedCalls rt surroundings' removal workRoot).runCustomValidator case built output .feedback
          config.validatorFlags options.image options.cpuset (limits.hardKill + 30) =
        (tracedCalls rt surroundings removal workRoot).runCustomValidator case built output
          .feedback config.validatorFlags options.image options.cpuset
          (limits.hardKill + 30) := by
    intro hcustom built output
    rw [runCustomValidator_traced, runCustomValidator_traced]
    apply onFiles_congr
    intro history
    have hanswers := hsame history
    apply runCustomValidator_congr hanswers.read
    exact fun input answer teamOutput hinput hanswer =>
      hanswers.testcase _ _ (.validate built teamOutput hcustom hcase hinput hanswer)
  have hanswer : (tracedCalls rt surroundings' removal workRoot).readAnswer case =
      (tracedCalls rt surroundings removal workRoot).readAnswer case := by
    rw [readAnswer_traced, readAnswer_traced]
    exact ask_congr fun history => by rw [answerOf, answerOf, (hsame history).read]
  have htestcase : (tracedCalls rt surroundings' removal workRoot).testcase =
      (tracedCalls rt surroundings removal workRoot).testcase := rfl
  cases validator with
  | none => simp only [judgeMeasuredCase, classifyMeasured, hran, hanswer, htestcase]
  | some built =>
      have hcustom : config.validation = .custom := by
        cases hvalidation : config.validation with
        | default => cases hvalidator hvalidation
        | custom => rfl
        | customInteractive => exact absurd hvalidation hmode
      simp only [judgeMeasuredCase, classifyMeasured, hran, hvalidated hcustom, htestcase]

/-- One round of the loop. -/
theorem judgeStep_same {runArgv : List PyStr} {validator : Option BuiltValidator}
    (hvalidator : config.validation = .default → validator = none)
    {compareFlags : Option Compare.CompareFlags} {case : TestCase} (hcase : case ∈ testcases)
    (progress : Progress TestCaseResult) :
    judgeStep rt (tracedCalls rt surroundings' removal workRoot)
        ⟨config, runArgv, validator, compareFlags, limits, options⟩ progress case =
      judgeStep rt (tracedCalls rt surroundings removal workRoot)
        ⟨config, runArgv, validator, compareFlags, limits, options⟩ progress case := by
  rw [judgeStep, judgeStep]
  by_cases hmode : config.validation = .customInteractive
  · simp only [if_pos hmode, judgeInteractiveCase_same hsame hmode hcase]
    rfl
  · simp only [if_neg hmode, judgeMeasuredCase_same hsame hmode hvalidator hcase]
    rfl

theorem prepareValidator_same :
    prepareValidator (tracedCalls rt surroundings' removal workRoot) config options =
      prepareValidator (tracedCalls rt surroundings removal workRoot) config options := by
  rw [prepareValidator, prepareValidator]
  split_ifs with hneeded
  · have hmode : config.validation ≠ .default := by
      intro hdefault
      rw [hdefault] at hneeded
      revert hneeded
      decide
    cases config.validatorDir with
    | none => rfl
    | some dir =>
        have hbuilt : (tracedCalls rt surroundings' removal workRoot).buildValidator dir
              options.image options.cpuset =
            (tracedCalls rt surroundings removal workRoot).buildValidator dir options.image
              options.cpuset := buildValidator_same hsame hmode dir
        simp only [hbuilt]
  · rfl

omit hsame in
/-- The default mode prepares no validator. -/
theorem validator_of_prepared {calls : Calls TracedM TestCase}
    (hdefault : config.validation = .default) {before after : Trace}
    {validator : Option BuiltValidator}
    (hprepared : runFrom (prepareValidator calls config options) before =
      (.ok (.ok validator), after)) : validator = none := by
  have hneeded : ¬(config.validation = .custom ∨ config.validation = .customInteractive) := by
    rw [hdefault]
    decide
  rw [prepareValidator, if_neg hneeded] at hprepared
  exact (Except.ok.inj (Except.ok.inj (congrArg Prod.fst hprepared))).symm

/-- The judging depends on docker through the requests above only, whatever is asked or
answered in between and however it ends. -/
theorem judgeSolution_requests :
    judgeSolution rt (tracedCalls rt surroundings' removal workRoot) config solution testcases
        limits options =
      judgeSolution rt (tracedCalls rt surroundings removal workRoot) config solution testcases
        limits options := by
  obtain ⟨hisDir, hcopied, hsandbox⟩ := compileCalls_same hsame
  have hcompiled : (tracedCalls rt surroundings' removal workRoot).compileSolution solution
        config.memoryMib ⟨options.image, options.cpuset, options.compileFlags⟩ =
      (tracedCalls rt surroundings removal workRoot).compileSolution solution config.memoryMib
        ⟨options.image, options.cpuset, options.compileFlags⟩ := by
    apply compileSolution_congr hisDir hcopied
    · exact fun language sources hlanguage => hsandbox _ (.compile sources hlanguage)
    · exact fun language hlanguage => hsandbox _ (.command hlanguage)
  rw [judgeSolution, judgeSolution, hcompiled, prepareValidator_same hsame]
  apply bind_congr_of_returned
  intro _ outcome _ _
  split
  · rfl
  apply bind_congr_of_returned
  intro before prepared after hprepared
  cases prepared with
  | error exc => rfl
  | ok validator =>
      have hvalidator : config.validation = .default → validator = none :=
        fun hdefault => validator_of_prepared hdefault hprepared
      have hloop : ∀ compareFlags,
          testcases.foldlM (judgeStep rt (tracedCalls rt surroundings' removal workRoot)
              ⟨config, outcome.runArgv, validator, compareFlags, limits, options⟩) ⟨[], false⟩ =
            testcases.foldlM (judgeStep rt (tracedCalls rt surroundings removal workRoot)
              ⟨config, outcome.runArgv, validator, compareFlags, limits, options⟩) ⟨[], false⟩ :=
        fun compareFlags => foldlM_congr
          (fun case hcase progress => judgeStep_same hsame hvalidator hcase progress) _
      simp only [hloop]

end Judging

/-! ## Docker that shows nobody an answer -/

def plainAnswers : Answers where
  host := silentHost
  isDir _ := .ok false
  copySources _ _ := .ok ()
  sandbox _ := .ok ⟨0, false, [], [], false⟩
  entriesBelow _ := .ok none
  copyTree _ _ := .ok ()
  makeExecutable _ := .ok ()
  isFile _ := .ok true

/-- The same, but a container that mounts answers, or a validator, is refused. -/
def discreetAnswers : Answers :=
  { plainAnswers with
    host := { silentHost with
      sandbox := fun spec view =>
        if mountedAs spec .ro .idata || mountedAs spec .ro .vdata then .error osError
        else silentHost.sandbox spec view }
    sandbox := fun spec =>
      if spec.binds = [⟨.work, Compile.workMount, .rw⟩] then plainAnswers.sandbox spec
      else .error osError }

theorem discreetAnswers_same (workRoot : Path) (solution : Solution)
    (testcases : List TestCase) (limits : TimeLimits) (options : JudgeOptions) :
    SameForRequests Runtime.ascii workRoot plainSession.config solution testcases limits options
      plainAnswers discreetAnswers where
  read := rfl
  loadRun := rfl
  loadInteractive := rfl
  isDir := rfl
  copySources := rfl
  entriesBelow := rfl
  copyTree := rfl
  makeExecutable := rfl
  isFile := rfl
  build := by
    intro spec hspec
    cases hspec with
    | compile => simp [discreetAnswers, compileSpec]
    | command => simp [discreetAnswers, runArgvSpec]
    | buildScript hmode => exact absurd rfl hmode
    | compileValidator hmode => exact absurd rfl hmode
    | validatorCommand hmode => exact absurd rfl hmode
  testcase := by
    intro spec view hspec
    cases hspec with
    | run => simp [discreetAnswers, plainAnswers, mountedAs, runSpec]
    | validate built teamOutput hmode => cases hmode
    | interact runArgv validator hmode => cases hmode

theorem judgeSolution_requests_discreet :
    let solution : Solution := ⟨[], [], [], [], some .python, [], [], none⟩
    judgeSolution Runtime.ascii (tracedCalls Runtime.ascii (fun _ => discreetAnswers)
          (fun _ _ _ => none) []) plainSession.config solution [⟨[], [], [], []⟩]
        plainSession.limits plainSession.options =
      judgeSolution Runtime.ascii (tracedCalls Runtime.ascii (fun _ => plainAnswers)
          (fun _ _ _ => none) []) plainSession.config solution [⟨[], [], [], []⟩]
        plainSession.limits plainSession.options :=
  judgeSolution_requests fun _ => discreetAnswers_same _ _ _ _ _

end IcpcVerify.Judge
