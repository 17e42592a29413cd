import IcpcVerify.Judge.Traced
import IcpcVerify.Problemcfg

/-!
# Assertions never fail

Each assertion of the judge rests on a promise made elsewhere: by the loaded
configuration, by the description of a unit, or by an early return.  Here every program
under `judge_solution` is shown to raise nothing but what the outside raised, and to
begin no testcase before everything is built.
-/

namespace IcpcVerify.Judge

open IcpcVerify.Python
open IcpcVerify.Solutions
open IcpcVerify.Problemcfg
open IcpcVerify.Timelimits
open IcpcVerify.Results
open IcpcVerify.Sandbox
open IcpcVerify.Compare
open IcpcVerify.Validators
open IcpcVerify.Compile
open IcpcVerify.FallibleRun
open IcpcVerify.StatefulRun
open IcpcVerify.TracedRun
open IcpcVerify.LazyScan

/-! ## What the outside raises -/

/-- Neither a failed assertion nor the use of an absent value. -/
def Foreign (exc : PyError) : Prop :=
  exc.kind ≠ .assertion ∧ exc.kind ≠ .attribute

/-- Nothing outside raises an `AssertionError` or an `AttributeError`. -/
structure Answers.Benign (answers : Answers) : Prop where
  testcase : ∀ spec view exc, answers.host.sandbox spec view = .error exc → Foreign exc
  runRecord : ∀ text exc, answers.host.loadRun text = .error exc → Foreign exc
  interactiveRecord : ∀ text exc, answers.host.loadInteractive text = .error exc → Foreign exc
  isDir : ∀ path exc, answers.isDir path = .error exc → Foreign exc
  copySources : ∀ source target exc, answers.copySources source target = .error exc →
    Foreign exc
  sandbox : ∀ spec exc, answers.sandbox spec = .error exc → Foreign exc
  entriesBelow : ∀ dir exc, answers.entriesBelow dir = .error exc → Foreign exc
  content : ∀ dir entries, answers.entriesBelow dir = .ok (some entries) →
    ∀ file ∈ entries, ∀ exc, file.content = .error exc → Foreign exc
  copyTree : ∀ source target exc, answers.copyTree source target = .error exc → Foreign exc
  makeExecutable : ∀ path exc, answers.makeExecutable path = .error exc → Foreign exc
  isFile : ∀ path exc, answers.isFile path = .error exc → Foreign exc

theorem osError_foreign : Foreign osError :=
  ⟨by decide, by decide⟩

theorem valueError_foreign (message : PyStr) : Foreign ⟨.value, message⟩ :=
  ⟨nofun, nofun⟩

/-! ## Testcases -/

section Testcases

variable {rt : Runtime} {answers : Answers} {removal : Removal}

theorem recreate_raises (dir : IoDir) : RaisesOnly (recreate removal dir) Foreign := by
  refine raisesOnly_get.bind fun world => ?_
  split
  · exact raisesOnly_throw osError_foreign
  · exact raisesOnly_set _

theorem writeFile_raises (file : IoFile) (content : Bytes) :
    RaisesOnly (writeFile file content) Foreign := by
  refine raisesOnly_get.bind fun world => ?_
  split
  · exact raisesOnly_throw osError_foreign
  · split_ifs
    · exact raisesOnly_throw osError_foreign
    · exact raisesOnly_set _

theorem readFile_raises (file : IoFile) : RaisesOnly (readFile file) Foreign :=
  raisesOnly_get.bind fun _ => raisesOnly_pure _

theorem copyIn_raises (host : Host) (source : Path) (target : IoFile) :
    RaisesOnly (copyIn host source target) Foreign := by
  rw [copyIn]
  split
  · exact raisesOnly_throw osError_foreign
  · exact writeFile_raises _ _

theorem copyFile_raises (source target : IoFile) :
    RaisesOnly (copyFile source target) Foreign := by
  refine (readFile_raises source).bind fun content => ?_
  split
  · exact raisesOnly_throw osError_foreign
  · exact writeFile_raises _ _

theorem runSandbox_raises (hbenign : answers.Benign) (spec : SandboxSpec) :
    RaisesOnly (runSandbox answers.host spec) Foreign := by
  refine raisesOnly_get.bind fun world => ?_
  refine (raisesOnly_lift (hbenign.testcase spec _)).bind fun ended => ?_
  exact (raisesOnly_set _).bind fun _ => raisesOnly_pure _

theorem readTeamOutput_raises : RaisesOnly readTeamOutput Foreign := by
  refine (readFile_raises teamOutputFile).bind fun content => ?_
  split
  · exact raisesOnly_pure _
  · exact (writeFile_raises _ _).bind fun _ => raisesOnly_pure _

theorem readFeedback_raises (dir : IoDir) : RaisesOnly (readFeedback rt dir) Foreign :=
  (readFile_raises _).bind fun _ => raisesOnly_pure _

theorem runOneTestcase_raises (hbenign : answers.Benign) (case : TestCase)
    (runArgv : List PyStr) (limits : TimeLimits) (options : JudgeOptions) :
    RaisesOnly (runOneTestcase rt answers.host removal case runArgv limits options)
      Foreign := by
  refine (recreate_raises .input).bind fun _ => ?_
  refine (recreate_raises .out).bind fun _ => ?_
  refine (copyIn_raises _ _ _).bind fun _ => ?_
  refine (runSandbox_raises hbenign _).bind fun result => ?_
  refine (readFile_raises runJsonFile).bind fun found => ?_
  split
  · exact raisesOnly_pure _
  · next text =>
    refine (raisesOnly_lift (hbenign.runRecord text)).bind fun raw => ?_
    refine readTeamOutput_raises.bind fun teamOutput => ?_
    exact (readFile_raises _).bind fun _ => raisesOnly_pure _

theorem runInteractiveTestcase_raises (hbenign : answers.Benign) (case : TestCase)
    (runArgv : List PyStr) (validator : BuiltValidator) (config : ProblemConfig)
    (limits : TimeLimits) (options : JudgeOptions) :
    RaisesOnly (runInteractiveTestcase rt answers.host removal case runArgv validator config
      limits options) Foreign := by
  refine (recreate_raises .idata).bind fun _ => ?_
  refine (recreate_raises .out).bind fun _ => ?_
  refine (recreate_raises .feedback).bind fun _ => ?_
  refine (copyIn_raises _ _ _).bind fun _ => ?_
  refine (copyIn_raises _ _ _).bind fun _ => ?_
  refine (runSandbox_raises hbenign _).bind fun result => ?_
  refine (readFile_raises runJsonFile).bind fun found => ?_
  split
  · exact raisesOnly_pure _
  · next text =>
    refine (raisesOnly_lift (hbenign.interactiveRecord text)).bind fun raw => ?_
    refine (readFile_raises _).bind fun solStderr => ?_
    exact (readFile_raises _).bind fun _ => raisesOnly_pure _

theorem runCustomValidator_raises (hbenign : answers.Benign) (case : TestCase)
    (built : BuiltValidator) (teamOutput : IoFile) (feedbackDir : IoDir)
    (flags : List PyStr) (image : PyStr) (cpuset : ℤ) (timeout : ℚ) :
    RaisesOnly (runCustomValidator rt answers.host removal case built teamOutput feedbackDir
      flags image cpuset timeout) Foreign := by
  refine (recreate_raises .vdata).bind fun _ => ?_
  refine (copyIn_raises _ _ _).bind fun _ => ?_
  refine (copyIn_raises _ _ _).bind fun _ => ?_
  refine (copyFile_raises _ _).bind fun _ => ?_
  refine (recreate_raises feedbackDir).bind fun _ => ?_
  refine (runSandbox_raises hbenign _).bind fun result => ?_
  exact (readFeedback_raises _).bind fun _ => raisesOnly_pure _

end Testcases

/-! ## Compiling and building -/

/-- Whatever is asked or started outside the testcases keeps the invariant. -/
def KeptByBuilds (inv : Trace → Prop) : Prop :=
  ∀ trace event, (∀ case, event ≠ .testcase case) → inv trace → inv (trace.record event)

/-- No testcase has been begun. -/
def NoTestcase (trace : Trace) : Prop :=
  ∀ case, .testcase case ∉ trace.events

theorem noTestcase_keptByBuilds : KeptByBuilds NoTestcase := by
  intro trace event hevent hnone case hcase
  rcases List.mem_append.1 hcase with hbefore | hnew
  · exact hnone case hbefore
  · exact hevent case (List.mem_singleton.1 hnew).symm

theorem true_keptByBuilds : KeptByBuilds fun _ => True :=
  fun _ _ _ _ => trivial

section Builds

variable {rt : Runtime} {surroundings : Surroundings} {inv : Trace → Prop}

theorem keeps_asked (hinv : KeptByBuilds inv) {Value : Type} {question : Answers → PyM Value}
    (hraised : ∀ history exc, question (surroundings history) = .error exc → Foreign exc) :
    Keeps inv (ask surroundings .asked question) (fun _ => True) Foreign :=
  keeps_ask (fun trace => hinv trace .asked nofun) (fun _ _ _ => trivial) hraised

variable (hinv : KeptByBuilds inv) (hbenign : ∀ history, (surroundings history).Benign)
include hinv hbenign

theorem runSandbox_keeps (spec : SandboxSpec) :
    Keeps inv ((compileCalls surroundings).runSandbox spec) (fun _ => True) Foreign := by
  change Keeps inv (ask surroundings (.container spec) fun answers => answers.sandbox spec) _ _
  apply keeps_ask
  · exact fun trace => hinv trace (.container spec) nofun
  · exact fun _ _ _ => trivial
  · exact fun history => (hbenign history).sandbox spec

omit hinv hbenign in
theorem stagedPaths_raises {solution : Solution} {isDir : Bool} {mount : PyStr} {exc : PyError}
    (hraised : stagedPaths solution isDir mount = .error exc) : Foreign exc := by
  obtain ⟨source, -, hsource⟩ := exists_of_mapM_eq_error hraised
  rcases bind_eq_error_iff.1 hsource with hrelative | ⟨parts, -, hreturned⟩
  · rw [relativeTo] at hrelative
    split_ifs at hrelative
    · cases hrelative
    · rw [← Except.error.inj hrelative]
      exact valueError_foreign []
  · cases hreturned

theorem stageSources_keeps (solution : Solution) (workDir : BindSource) (mount : PyStr) :
    Keeps inv (stageSources (compileCalls surroundings) solution workDir mount)
      (fun _ => True) Foreign := by
  have hisDir : Keeps inv (ask surroundings .asked fun answers => answers.isDir solution.path)
      (fun _ => True) Foreign :=
    keeps_asked hinv fun history => (hbenign history).isDir solution.path
  have hcopied : Keeps inv
      (ask surroundings .asked fun answers => answers.copySources solution.path workDir)
      (fun _ => True) Foreign :=
    keeps_asked hinv fun history => (hbenign history).copySources solution.path workDir
  refine hisDir.bind fun isDir _ => ?_
  refine hcopied.bind fun _ _ => ?_
  exact keeps_ofPyM (fun _ _ => trivial) fun _ => stagedPaths_raises

/-- The assertion of `compile_solution` holds of a solution that has a language where it
has no error. -/
theorem compileSolution_keeps {solution : Solution} (hcompilable : solution.Compilable)
    (workDir : BindSource) (memoryMib : ℤ) (options : CompileOptions) (mount : PyStr) :
    Keeps inv (compileSolution rt (compileCalls surroundings) solution workDir memoryMib
      options mount) (fun _ => True) Foreign := by
  rw [compileSolution]
  split
  · exact keeps_pure trivial
  · next herror =>
    have hlanguage : solution.language.isSome = true := by
      apply hcompilable.resolve_left
      rintro ⟨message, hmessage, hne⟩
      obtain ⟨c, rest, rfl⟩ := List.exists_cons_of_ne_nil hne
      exact herror c rest hmessage
    split
    · next hnone => simp [hnone] at hlanguage
    · next language _ =>
      refine (stageSources_keeps hinv hbenign solution workDir mount).bind fun sources _ => ?_
      refine (runSandbox_keeps hinv hbenign _).bind fun compiled _ => ?_
      dsimp only
      split
      · exact keeps_pure trivial
      split
      · exact keeps_pure trivial
      refine (runSandbox_keeps hinv hbenign _).bind fun printed _ => ?_
      split
      · exact keeps_pure trivial
      refine (keeps_ofPyM (fun _ _ => trivial) fun exc hraised => ?_).bind
        fun runArgv _ => keeps_pure trivial
      rw [runArgvOf] at hraised
      split at hraised
      · rw [← Except.error.inj hraised]
        exact valueError_foreign []
      · cases hraised

theorem makeExecutable_keeps (path : Path) :
    Keeps inv ((buildCalls surroundings).makeExecutable path) (fun _ => True) Foreign := by
  rw [makeExecutable_traced]
  exact keeps_asked hinv fun history => (hbenign history).makeExecutable path

theorem runBuildScript_keeps (buildDir : Path) (image : PyStr) (cpuset : ℤ) :
    Keeps inv (runBuildScript rt (buildCalls surroundings) buildDir image cpuset)
      (fun _ => True) Foreign := by
  have hisFile : Keeps inv
      (ask surroundings .asked fun answers => answers.isFile (buildDir ++ [py "run"]))
      (fun _ => True) Foreign := keeps_asked hinv fun history => (hbenign history).isFile _
  refine (makeExecutable_keeps hinv hbenign _).bind fun _ _ => ?_
  refine (runSandbox_keeps hinv hbenign _).bind fun result _ => ?_
  dsimp only
  split
  · exact keeps_pure trivial
  refine hisFile.bind fun found _ => ?_
  split
  · exact keeps_pure trivial
  exact (makeExecutable_keeps hinv hbenign _).bind fun _ _ => keeps_pure trivial

/-- The assertion of `build_validator` holds of a plan, and the planned solution passes
that of `compile_solution`. -/
theorem compileValidator_keeps {plan : BuildPlan} (hready : plan.Ready)
    (hkind : plan.kind = .sources) (buildDir : Path) (image : PyStr) (cpuset : ℤ) :
    Keeps inv (compileValidator rt (buildCalls surroundings) plan.solution buildDir image
      cpuset) (fun _ => True) Foreign := by
  obtain ⟨solution, hsolution, -, hlanguage⟩ := hready hkind
  simp only [compileValidator, Option.mem_def.1 hsolution]
  refine (compileSolution_keeps hinv hbenign (.inr hlanguage) _ _ _ _).bind fun outcome _ => ?_
  split
  · exact keeps_pure trivial
  · exact keeps_pure trivial

theorem buildValidator_keeps (validatorDir workRoot : Path) (image : PyStr) (cpuset : ℤ) :
    Keeps inv (buildValidator rt (buildCalls surroundings) validatorDir workRoot image cpuset)
      (fun _ => True) Foreign := by
  have hentries : Keeps inv
      (ask surroundings .asked fun answers => answers.entriesBelow validatorDir)
      (fun below => ∀ entries ∈ below, ∀ file ∈ entries, ∀ exc, file.content = .error exc →
        Foreign exc) Foreign := by
    apply keeps_ask
    · exact fun trace => hinv trace .asked nofun
    · rintro history below hbelow entries rfl
      exact (hbenign history).content validatorDir entries hbelow
    · exact fun history => (hbenign history).entriesBelow validatorDir
  have hcopied : Keeps inv
      (ask surroundings .asked fun answers =>
        answers.copyTree validatorDir (workRoot ++ [py "validator"]))
      (fun _ => True) Foreign :=
    keeps_asked hinv fun history => (hbenign history).copyTree _ _
  refine hentries.bind fun below hcontent => ?_
  have hplanned : Keeps inv
      (ofPyM (planValidatorBuild rt validatorDir below) : TracedM (Except PyStr BuildPlan))
      (fun planned => ∀ plan, planned = .ok plan → plan.Ready) Foreign := by
    apply keeps_ofPyM
    · rintro planned hplanned plan rfl
      exact planValidatorBuild_ready hplanned
    · intro exc hraised
      obtain ⟨entries, hentries, file, hfile, hread⟩ := planValidatorBuild_raises hraised
      exact hcontent entries hentries file hfile exc hread
  refine hplanned.bind fun planned hready => ?_
  split
  · exact keeps_pure trivial
  · next plan =>
    refine hcopied.bind fun _ _ => ?_
    split
    · exact (makeExecutable_keeps hinv hbenign _).bind fun _ _ => keeps_pure trivial
    · exact runBuildScript_keeps hinv hbenign _ image cpuset
    · next hkind =>
      exact compileValidator_keeps hinv hbenign (hready plan rfl) hkind _ image cpuset

end Builds

/-! ## Judging -/

/-- What the loop relies on: flags to compare with in the default mode, and a validator
in the others. -/
structure Session.Ready (session : Session) : Prop where
  flags : session.config.validation = .default → session.compareFlags.isSome = true
  validator : session.config.validation ≠ .default → session.validator.isSome = true

section Judging

variable {rt : Runtime} {surroundings : Surroundings} {removal : Removal} {workRoot : Path}
variable (hbenign : ∀ history, (surroundings history).Benign)
include hbenign

theorem runOneTestcase_keeps (case : TestCase) (runArgv : List PyStr) (limits : TimeLimits)
    (options : JudgeOptions) :
    Keeps (fun _ => True) ((tracedCalls rt surroundings removal workRoot).runOneTestcase case
      runArgv limits options) (fun _ => True) Foreign := by
  rw [runOneTestcase_traced]
  apply keeps_onFiles
  · exact fun _ _ _ _ _ => trivial
  · exact fun history => runOneTestcase_raises (hbenign history) case runArgv limits options

theorem runInteractiveTestcase_keeps (case : TestCase) (runArgv : List PyStr)
    (validator : BuiltValidator) (config : ProblemConfig) (limits : TimeLimits)
    (options : JudgeOptions) :
    Keeps (fun _ => True) ((tracedCalls rt surroundings removal workRoot).runInteractiveTestcase
      case runArgv validator config limits options) (fun _ => True) Foreign := by
  rw [runInteractiveTestcase_traced]
  apply keeps_onFiles
  · exact fun _ _ _ _ _ => trivial
  · exact fun history => runInteractiveTestcase_raises (hbenign history) case runArgv validator
      config limits options

theorem runCustomValidator_keeps (case : TestCase) (validator : BuiltValidator)
    (teamOutput : IoFile) (feedbackDir : IoDir) (flags : List PyStr) (image : PyStr)
    (cpuset : ℤ) (timeout : ℚ) :
    Keeps (fun _ => True) ((tracedCalls rt surroundings removal workRoot).runCustomValidator case
      validator teamOutput feedbackDir flags image cpuset timeout) (fun _ => True)
      Foreign := by
  rw [runCustomValidator_traced]
  apply keeps_onFiles
  · exact fun _ _ _ _ _ => trivial
  · exact fun history => runCustomValidator_raises (hbenign history) case validator teamOutput
      feedbackDir flags image cpuset timeout

omit hbenign in
theorem readJudgemessage_keeps (case : TestCase) (feedbackDir : IoDir) :
    Keeps (fun _ => True) ((tracedCalls rt surroundings removal workRoot).readJudgemessage case
      feedbackDir) (fun _ => True) Foreign := by
  rw [readJudgemessage_traced]
  apply keeps_onFiles
  · exact fun _ _ _ _ _ => trivial
  · exact fun _ => readFeedback_raises feedbackDir

omit hbenign in
theorem readAnswer_keeps (case : TestCase) :
    Keeps (fun _ => True) ((tracedCalls rt surroundings removal workRoot).readAnswer case)
      (fun _ => True) Foreign := by
  rw [readAnswer_traced]
  apply keeps_asked true_keptByBuilds
  intro history exc hraised
  rw [answerOf] at hraised
  split at hraised
  · rw [← Except.error.inj hraised]
    exact osError_foreign
  · cases hraised

/-- A custom interactive problem has its validator when a testcase runs. -/
theorem judgeInteractiveCase_keeps {session : Session} (hready : session.Ready)
    (hmode : session.config.validation = .customInteractive)
    (progress : Progress TestCaseResult) (case : TestCase) :
    Keeps (fun _ => True) (judgeInteractiveCase (tracedCalls rt surroundings removal workRoot)
      session progress case) (fun _ => True) Foreign := by
  have hvalidator : session.validator.isSome = true := by
    apply hready.validator
    rw [hmode]
    decide
  rw [judgeInteractiveCase]
  split
  · next hnone => simp [hnone] at hvalidator
  · next validator _ =>
    refine (runInteractiveTestcase_keeps hbenign case _ _ _ _ _).bind fun report _ => ?_
    split
    · exact keeps_pure trivial
    · exact (readJudgemessage_keeps case _).bind fun _ _ => keeps_pure trivial

/-- Outputs are compared only with flags at hand. -/
theorem classifyMeasured_keeps {session : Session} (hready : session.Ready) (case : TestCase)
    (measurement : RunMeasurement) (report : RunReport) :
    Keeps (fun _ => True) (classifyMeasured rt (tracedCalls rt surroundings removal workRoot)
      session case measurement report) (fun _ => True) Foreign := by
  rw [classifyMeasured]
  split
  · next validator _ =>
    dsimp only
    split
    · exact runCustomValidator_keeps hbenign case validator _ _ _ _ _ _
    · exact keeps_pure trivial
  · next hnone =>
    have hflags : session.compareFlags.isSome = true := by
      apply hready.flags
      by_contra hmode
      simpa [hnone] using hready.validator hmode
    refine (readAnswer_keeps case).bind fun answer _ => ?_
    split
    · next hmissing => simp [hmissing] at hflags
    · exact keeps_pure trivial

theorem judgeMeasuredCase_keeps {session : Session} (hready : session.Ready)
    (progress : Progress TestCaseResult) (case : TestCase) :
    Keeps (fun _ => True) (judgeMeasuredCase rt (tracedCalls rt surroundings removal workRoot)
      session progress case) (fun _ => True) Foreign := by
  refine (runOneTestcase_keeps hbenign case _ _ _).bind fun report _ => ?_
  split
  · exact keeps_pure trivial
  · next measurement _ =>
    exact (classifyMeasured_keeps hbenign hready case measurement report).bind
      fun _ _ => keeps_pure trivial

/-- One round of the loop. -/
theorem judgeStep_keeps {session : Session} (hready : session.Ready)
    (progress : Progress TestCaseResult) (case : TestCase) :
    Keeps (fun _ => True) (judgeStep rt (tracedCalls rt surroundings removal workRoot) session
      progress case) (fun _ => True) Foreign := by
  rw [judgeStep]
  split
  · exact keeps_pure trivial
  split
  · next hmode => exact judgeInteractiveCase_keeps hbenign hready hmode progress case
  · exact judgeMeasuredCase_keeps hbenign hready progress case

variable {inv : Trace → Prop} {config : ProblemConfig} {options : JudgeOptions}

/-- The assertion on the validator directory holds of a backed configuration, and a mode
that needs a validator gets one. -/
theorem prepareValidator_keeps (hinv : KeptByBuilds inv)
    (hbacked : config.validation = .default ∨ config.validatorDir.isSome = true) :
    Keeps inv (prepareValidator (tracedCalls rt surroundings removal workRoot) config options)
      (fun prepared => ∀ validator, prepared = .ok validator →
        config.validation ≠ .default → validator.isSome = true) Foreign := by
  rw [prepareValidator]
  split
  · next hmode =>
    have hdir : config.validatorDir.isSome = true := by
      apply hbacked.resolve_left
      rintro hdefault
      rw [hdefault] at hmode
      revert hmode
      decide
    split
    · next hnone => simp [hnone] at hdir
    · next dir _ =>
      refine (buildValidator_keeps hinv hbenign dir workRoot _ _).bind fun built _ => ?_
      apply keeps_pure
      intro validator hvalidator _
      obtain ⟨found, -, rfl⟩ := map_eq_ok_iff.1 hvalidator
      rfl
  · next hmode =>
    apply keeps_pure
    intro validator _ hneeded
    cases hvalidation : config.validation <;> simp_all

omit hbenign in
theorem prepareCompareFlags_keeps :
    Keeps inv (prepareCompareFlags rt config : TracedM (Option CompareFlags))
      (fun flags => config.validation = .default → flags.isSome = true) Foreign := by
  rw [prepareCompareFlags]
  split
  · split
    · exact keeps_pure fun _ => rfl
    · next exc hraised =>
      have hkind : exc.kind = .compareFlag := parseItems_raises hraised
      exact keeps_throw ⟨by rw [hkind]; decide, by rw [hkind]; decide⟩
  · next hmode => exact keeps_pure fun hdefault => absurd hdefault hmode

/-- The whole of `judge_solution`. -/
theorem judgeSolution_keeps {solution : Solution} (hcompilable : solution.Compilable)
    (hbacked : config.validation = .default ∨ config.validatorDir.isSome = true)
    (testcases : List TestCase) (limits : TimeLimits) :
    Keeps (fun _ => True) (judgeSolution rt (tracedCalls rt surroundings removal workRoot) config
      solution testcases limits options) (fun _ => True) Foreign := by
  refine (compileSolution_keeps true_keptByBuilds hbenign hcompilable _ _ _ _).bind
    fun outcome _ => ?_
  split
  · exact keeps_pure trivial
  refine (prepareValidator_keeps hbenign true_keptByBuilds hbacked).bind
    fun prepared hprepared => ?_
  split
  · exact keeps_pure trivial
  · next validator =>
    refine prepareCompareFlags_keeps.bind fun compareFlags hflags => ?_
    have hready : Session.Ready
        ⟨config, outcome.runArgv, validator, compareFlags, limits, options⟩ :=
      ⟨hflags, hprepared validator rfl⟩
    have hloop : Keeps (fun _ => True) (testcases.foldlM
        (judgeStep rt (tracedCalls rt surroundings removal workRoot)
          ⟨config, outcome.runArgv, validator, compareFlags, limits, options⟩) ⟨[], false⟩)
        (fun _ => True) Foreign :=
      keeps_foldlM (fun case _ progress _ => judgeStep_keeps hbenign hready progress case)
        trivial
    exact hloop.bind fun _ _ => keeps_pure trivial

/-- The solution compiles, and the validator of a mode that needs one is built. -/
def AllBuilt (calls : Calls TracedM TestCase) (config : ProblemConfig) (solution : Solution)
    (options : JudgeOptions) (before : Trace) : Prop :=
  ∃ outcome compiled,
    runFrom (calls.compileSolution solution config.memoryMib
        ⟨options.image, options.cpuset, options.compileFlags⟩) before =
      (.ok outcome, compiled) ∧ outcome.ok = true ∧
    (config.validation ≠ .default → ∃ dir ∈ config.validatorDir, ∃ validator built,
      runFrom (calls.buildValidator dir options.image options.cpuset) compiled =
        (.ok (.ok validator), built))

omit hbenign in
theorem exists_build_of_prepared {calls : Calls TracedM TestCase}
    (hneeded : config.validation ≠ .default) {before after : Trace}
    {validator : Option BuiltValidator}
    (hprepared : runFrom (prepareValidator calls config options) before =
      (.ok (.ok validator), after)) :
    ∃ dir ∈ config.validatorDir, ∃ built,
      runFrom (calls.buildValidator dir options.image options.cpuset) before =
        (.ok (.ok built), after) := by
  have hmode : config.validation = .custom ∨ config.validation = .customInteractive := by
    cases hvalidation : config.validation <;> simp_all
  rw [prepareValidator, if_pos hmode] at hprepared
  cases hdir : config.validatorDir with
  | none =>
      rw [hdir] at hprepared
      cases hprepared
  | some dir =>
      simp only [hdir, runFrom_bind] at hprepared
      refine ⟨dir, rfl, ?_⟩
      rcases hbuild : runFrom (calls.buildValidator dir options.image options.cpuset) before with
        ⟨exc | built, between⟩ <;> rw [hbuild] at hprepared
      · cases hprepared
      · obtain ⟨hmapped, rfl⟩ := Prod.ext_iff.1 hprepared
        obtain ⟨found, rfl, -⟩ := map_eq_ok_iff.1 (Except.ok.inj hmapped)
        exact ⟨found, rfl⟩

/-- A testcase is begun only after everything has been built. -/
theorem allBuilt_of_testcase {solution : Solution} (hcompilable : solution.Compilable)
    (hbacked : config.validation = .default ∨ config.validatorDir.isSome = true)
    {testcases : List TestCase} {limits : TimeLimits} {before : Trace}
    (hbefore : NoTestcase before) {case : TestCase}
    (hcase : .testcase case ∈ (runFrom (judgeSolution rt
      (tracedCalls rt surroundings removal workRoot) config solution testcases limits options)
        before).2.events) :
    AllBuilt (tracedCalls rt surroundings removal workRoot) config solution options before := by
  have hcompiles : Keeps NoTestcase
      ((tracedCalls rt surroundings removal workRoot).compileSolution solution config.memoryMib
        ⟨options.image, options.cpuset, options.compileFlags⟩) (fun _ => True) Foreign :=
    compileSolution_keeps noTestcase_keptByBuilds hbenign hcompilable _ _ _ _
  simp only [judgeSolution, runFrom_bind] at hcase
  rcases hcompile : runFrom ((tracedCalls rt surroundings removal workRoot).compileSolution
    solution config.memoryMib ⟨options.image, options.cpuset, options.compileFlags⟩) before
    with ⟨exc | outcome, compiled⟩ <;> rw [hcompile] at hcase
  · exact absurd hcase ((hcompiles.of_raised hbefore hcompile).2 case)
  have hcompiled := (hcompiles.of_returned hbefore hcompile).2
  dsimp only at hcase
  cases hok : outcome.ok with
  | false =>
      simp only [hok, Bool.not_false, if_true, runFrom_pure] at hcase
      exact absurd hcase (hcompiled case)
  | true =>
      refine ⟨outcome, compiled, hcompile, hok, fun hneeded => ?_⟩
      have hprepares : Keeps NoTestcase
          (prepareValidator (tracedCalls rt surroundings removal workRoot) config options) _
            Foreign := prepareValidator_keeps hbenign noTestcase_keptByBuilds hbacked
      simp only [hok, Bool.not_true, Bool.false_eq_true, if_false, runFrom_bind] at hcase
      rcases hprepare : runFrom (prepareValidator (tracedCalls rt surroundings removal workRoot)
        config options) compiled with ⟨exc | prepared, built⟩ <;> rw [hprepare] at hcase
      · exact absurd hcase ((hprepares.of_raised hcompiled hprepare).2 case)
      · cases prepared with
        | error exc => exact absurd hcase ((hprepares.of_returned hcompiled hprepare).2 case)
        | ok validator =>
            obtain ⟨dir, hdir, validator, hbuild⟩ := exists_build_of_prepared hneeded hprepare
            exact ⟨dir, hdir, validator, built, hbuild⟩

omit hbenign in
/-- A solution with an error does not compile. -/
theorem not_given_of_allBuilt {solution : Solution} {before : Trace}
    (hbuilt : AllBuilt (tracedCalls rt surroundings removal workRoot) config solution options
      before) : ¬Given solution.error := by
  rintro ⟨message, herror, hne⟩
  obtain ⟨c, rest, rfl⟩ := List.exists_cons_of_ne_nil hne
  obtain ⟨outcome, compiled, hcompile, hok, -⟩ := hbuilt
  have hfailed : runFrom (compileSolution rt (compileCalls surroundings) solution .work
      config.memoryMib ⟨options.image, options.cpuset, options.compileFlags⟩ Compile.workMount)
        before = (.ok ⟨false, c :: rest, []⟩, before) := by
    rw [compileSolution, Option.mem_def.1 herror]
    rfl
  have heq : (⟨false, c :: rest, []⟩ : CompileOutcome) = outcome :=
    Except.ok.inj (congrArg Prod.fst (hfailed.symm.trans hcompile))
  rw [← heq] at hok
  cases hok

/-- Whatever the outside answers, a loaded configuration and a discovered solution are
judged without a failing assertion, and no testcase begins before everything is built. -/
theorem judgeSolution_assertions_hold {problemDir : Path} {files : ProblemFiles}
    {defaultTimeLimit : PyFloat} {defaultMemoryMib : ℤ} {loaded : LoadedConfig}
    (hloaded : loadProblemConfig rt problemDir files defaultTimeLimit defaultMemoryMib =
      .ok loaded)
    {children : Option (List VerdictEntry)} {filterGlob : PyStr} {found : List Solution}
    {warnings : List PyStr}
    (hdiscovered : discoverSolutions rt problemDir children filterGlob =
      .ok (found, warnings))
    {solution : Solution} (hsolution : solution ∈ found) (timeLimit timeMultiplier : ℚ)
    (testcases : List TestCase) (limits : TimeLimits) (options : JudgeOptions)
    {before after : Trace} (hbefore : NoTestcase before)
    {ending : Except PyError SolutionResult}
    (hrun : runFrom (judgeSolution rt (tracedCalls rt surroundings removal workRoot)
      (loaded.withTimes timeLimit timeMultiplier) solution testcases limits options) before =
        (ending, after)) :
    (∀ exc, ending = .error exc → exc.kind ≠ .assertion ∧ exc.kind ≠ .attribute) ∧
      ∀ case, .testcase case ∈ after.events →
        ¬Given solution.error ∧
          AllBuilt (tracedCalls rt surroundings removal workRoot)
            (loaded.withTimes timeLimit timeMultiplier) solution options before := by
  have hcompilable := discoverSolutions_compilable hdiscovered solution hsolution
  have hbacked := loadProblemConfig_backed hloaded
  constructor
  · rintro exc rfl
    exact ((judgeSolution_keeps hbenign hcompilable hbacked testcases limits).of_raised trivial
      hrun).1
  · intro case hcase
    have hafter : after = (runFrom _ before).2 := (congrArg Prod.snd hrun).symm
    rw [hafter] at hcase
    have hbuilt := allBuilt_of_testcase hbenign hcompilable hbacked hbefore hcase
    exact ⟨not_given_of_allBuilt hbuilt, hbuilt⟩

end Judging

/-! ## A custom problem -/

/-- A machine on which every container ends well and leaves nothing behind. -/
def idleAnswers : Answers where
  host :=
    { read := fun _ => some []
      sandbox := fun _ _ => .ok (⟨0, false, [], [], false⟩, fun _ => emptyDir)
      loadRun := fun _ => .error ⟨.value, []⟩
      loadInteractive := fun _ => .error ⟨.value, []⟩
      compile := fun _ _ _ => .error osError
      build := fun _ _ _ => .error osError }
  isDir _ := .ok false
  copySources _ _ := .ok ()
  sandbox _ := .ok ⟨0, false, [], [], false⟩
  entriesBelow _ := .ok (some [⟨[py "run"], true, .ok []⟩])
  copyTree _ _ := .ok ()
  makeExecutable _ := .ok ()
  isFile _ := .ok true

theorem idleAnswers_benign : idleAnswers.Benign where
  testcase _ _ _ := nofun
  runRecord _ _ hraised := by
    rw [← Except.error.inj hraised]
    exact valueError_foreign []
  interactiveRecord _ _ hraised := by
    rw [← Except.error.inj hraised]
    exact valueError_foreign []
  isDir _ _ := nofun
  copySources _ _ _ := nofun
  sandbox _ _ := nofun
  entriesBelow _ _ := nofun
  content _ entries hentries file hfile exc hraised := by
    rw [← Option.some.inj (Except.ok.inj hentries), List.mem_singleton] at hfile
    rw [hfile] at hraised
    cases hraised
  copyTree _ _ _ := nofun
  makeExecutable _ _ := nofun
  isFile _ _ := nofun

/-- A problem with `validation: custom` and an `output_validator` directory. -/
def customFiles : ProblemFiles where
  problemYaml := some (.ok (.ok (.dict [(.str (py "validation"), .str (py "custom"))])))
  outputValidator := true
  outputValidators := none

def customLoaded : LoadedConfig where
  name := py "problem"
  timeLimit := .finite 1
  memoryMib := 2048
  timeMultiplier := .finite 5
  validation := .custom
  validatorFlags := []
  validatorDir := some [py "problem", py "output_validator"]
  formatVersion := py "legacy"

def customSolution : Solution where
  name := py "accepted_sol.py"
  relPath := py "accepted/sol.py"
  path := [py "problem", py "solutions", py "accepted", py "sol.py"]
  expected := py "accepted"
  language := some .python
  sources := [[py "problem", py "solutions", py "accepted", py "sol.py"]]
  entry := py "sol.py"
  error := none

def customOptions : JudgeOptions :=
  ⟨py "judge", 1, false, 8, 2048, [], 1, true, []⟩

def idleCalls : Calls TracedM TestCase :=
  tracedCalls Runtime.ascii (fun _ => idleAnswers) (fun _ _ _ => none) [py "tmp"]

def idleTrace : Trace :=
  ⟨[], ⟨fun _ => none, 0⟩⟩

/-- How judging its only solution ends on the idle machine. -/
def customEnding : Except PyError SolutionResult × Trace :=
  runFrom (judgeSolution Runtime.ascii idleCalls (customLoaded.withTimes 1 5) customSolution
    [⟨py "1", [], [py "1.in"], [py "1.ans"]⟩] ⟨1, 2, 3⟩ customOptions) idleTrace

/-- It ends without a failing assertion. -/
theorem judgeSolution_assertions_hold_custom :
    (∀ exc, customEnding.1 = .error exc → exc.kind ≠ .assertion ∧ exc.kind ≠ .attribute) ∧
      ∀ case, .testcase case ∈ customEnding.2.events →
        ¬Given customSolution.error ∧
          AllBuilt idleCalls (customLoaded.withTimes 1 5) customSolution customOptions
            idleTrace := by
  have hloaded : loadProblemConfig Runtime.ascii [py "problem"] customFiles (.finite 1) 2048 =
      .ok customLoaded := by decide +kernel
  have hdiscovered : discoverSolutions Runtime.ascii [py "problem"]
      (some [⟨py "accepted", some [⟨py "sol.py", none, .ok []⟩]⟩]) [] =
      .ok ([customSolution], []) := by decide +kernel
  exact judgeSolution_assertions_hold (fun _ => idleAnswers_benign) hloaded hdiscovered
    (List.mem_singleton_self _) 1 5 [⟨py "1", [], [py "1.in"], [py "1.ans"]⟩] ⟨1, 2, 3⟩
    customOptions (fun _ => List.not_mem_nil) rfl

end IcpcVerify.Judge
