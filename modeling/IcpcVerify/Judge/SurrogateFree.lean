import IcpcVerify.Judge.Messages
import IcpcVerify.Judge.Traced
import IcpcVerify.Solutions.Texts

/-!
# Results without surrogates

Followed through every program under `judge_solution`: no byte that a judged program, a
validator or a container produced puts a surrogate into the result.
-/

namespace IcpcVerify.Judge

open IcpcVerify.Python
open IcpcVerify.Solutions
open IcpcVerify.Timelimits
open IcpcVerify.Results
open IcpcVerify.Runner
open IcpcVerify.Sandbox
open IcpcVerify.Compare
open IcpcVerify.Validators
open IcpcVerify.Compile
open IcpcVerify.FallibleRun
open IcpcVerify.StatefulRun
open IcpcVerify.TracedRun
open IcpcVerify.LazyScan

/-- Whatever the program returns satisfies the condition. -/
def Gives {Value : Type} (program : TracedM Value) (returned : Value → Prop) : Prop :=
  Keeps (fun _ => True) program returned fun _ => True

variable {rt : Runtime} (hrt : rt.EscapesSurrogates)
variable {surroundings : Surroundings} {removal : Removal} {workRoot : Path}

theorem gives_ask {Value : Type} (event : Event) (question : Answers → PyM Value) :
    Gives (ask surroundings event question) fun _ => True :=
  keeps_ask (fun _ _ => trivial) (fun _ _ _ => trivial) fun _ _ _ => trivial

theorem gives_ofPyM {Value : Type} {action : PyM Value} {returned : Value → Prop}
    (hreturned : ∀ value, action = .ok value → returned value) :
    Gives (ofPyM action) returned :=
  keeps_ofPyM hreturned fun _ _ => trivial

theorem gives_onFiles {Value : Type} {event : Event} {action : Host → IoM Value}
    {returned : Value → Prop}
    (hreturned : ∀ host before value after, Returns (action host) before value after →
      returned value) :
    Gives (onFiles surroundings event action) returned :=
  keeps_onFiles hreturned fun _ _ _ _ => trivial

/-! ## Compiling and building -/

theorem gives_stageSources (solution : Solution) (workDir : BindSource) (mount : PyStr) :
    Gives (stageSources (compileCalls surroundings) solution workDir mount) fun _ => True := by
  have hisDir : Gives (ask surroundings .asked fun answers => answers.isDir solution.path)
      fun _ => True := gives_ask _ _
  have hcopied : Gives
      (ask surroundings .asked fun answers => answers.copySources solution.path workDir)
      fun _ => True := gives_ask _ _
  refine hisDir.bind fun isDir _ => ?_
  exact hcopied.bind fun _ _ => gives_ofPyM fun _ _ => trivial

include hrt

/-- The log of a compilation: the solution's own error, decoded output, or a literal. -/
theorem gives_compileSolution {solution : Solution}
    (hsolution : SolutionSurrogateFree solution) (workDir : BindSource) (memoryMib : ℤ)
    (options : CompileOptions) (mount : PyStr) :
    Gives (compileSolution rt (compileCalls surroundings) solution workDir memoryMib options
      mount) fun outcome => SurrogateFree outcome.log := by
  have hcontainer : ∀ spec, Gives
      (ask surroundings (.container spec) fun answers => answers.sandbox spec) fun _ => True :=
    fun spec => gives_ask _ _
  rw [compileSolution]
  split
  · next c rest herror => exact keeps_pure (hsolution.error (c :: rest) herror)
  split
  · exact keeps_throw trivial
  refine (gives_stageSources solution workDir mount).bind fun sources _ => ?_
  refine (hcontainer _).bind fun compiled _ => ?_
  have hlog := hrt.decodeReplace (compiled.stdout ++ compiled.stderr)
  dsimp only
  split
  · exact keeps_pure (by simp [hlog])
  split
  · apply keeps_pure
    dsimp only
    split_ifs
    · exact hlog
    · exact surrogateFree_py _
  refine (hcontainer _).bind fun printed _ => ?_
  split
  · exact keeps_pure (by simp [hrt.decodeReplace])
  · exact Keeps.bind (gives_ofPyM fun _ _ => trivial) fun _ _ => keeps_pure hlog

/-- The text of a `ValidatorError`. -/
def BuiltSurrogateFree : Except PyStr BuiltValidator → Prop
  | .error exc => SurrogateFree exc
  | .ok _ => True

omit hrt in
theorem gives_makeExecutable (path : Path) :
    Gives ((buildCalls surroundings).makeExecutable path) fun _ => True := by
  rw [makeExecutable_traced]
  exact gives_ask _ _

theorem gives_runBuildScript (buildDir : Path) (image : PyStr) (cpuset : ℤ) :
    Gives (runBuildScript rt (buildCalls surroundings) buildDir image cpuset)
      BuiltSurrogateFree := by
  have hcontainer : Gives (ask surroundings (.container (buildSpec rt buildDir image cpuset))
      fun answers => answers.sandbox (buildSpec rt buildDir image cpuset)) fun _ => True :=
    gives_ask _ _
  have hisFile : Gives
      (ask surroundings .asked fun answers => answers.isFile (buildDir ++ [py "run"]))
      fun _ => True := gives_ask _ _
  refine (gives_makeExecutable _).bind fun _ _ => ?_
  refine hcontainer.bind fun result _ => ?_
  dsimp only
  split
  · exact keeps_pure (by simp [BuiltSurrogateFree, hrt.decodeReplace])
  refine hisFile.bind fun found _ => ?_
  split
  · exact keeps_pure (surrogateFree_py _)
  · exact (gives_makeExecutable _).bind fun _ _ => keeps_pure trivial

theorem gives_compileValidator {planned : Option Solution}
    (hplanned : ∀ solution, planned = some solution → SolutionSurrogateFree solution)
    (buildDir : Path) (image : PyStr) (cpuset : ℤ) :
    Gives (compileValidator rt (buildCalls surroundings) planned buildDir image cpuset)
      BuiltSurrogateFree := by
  cases planned with
  | none => exact keeps_throw trivial
  | some solution =>
      refine (gives_compileSolution hrt (hplanned solution rfl) _ _ _ _).bind
        fun outcome hlog => ?_
      split
      · exact keeps_pure (by simp [BuiltSurrogateFree, hlog])
      · exact keeps_pure trivial

/-- The file names below directories hold no surrogates. -/
def NamesSurrogateFree (surroundings : Surroundings) : Prop :=
  ∀ history dir entries, (surroundings history).entriesBelow dir = .ok (some entries) →
    ∀ file ∈ entries, PathSurrogateFree file.parts

theorem gives_buildValidator {validatorDir : Path} (hdir : PathSurrogateFree validatorDir)
    (hnames : NamesSurrogateFree surroundings) (image : PyStr) (cpuset : ℤ) :
    Gives (buildValidator rt (buildCalls surroundings) validatorDir workRoot image cpuset)
      BuiltSurrogateFree := by
  have hentries : Gives
      (ask surroundings .asked fun answers => answers.entriesBelow validatorDir)
      fun below => ∀ entries ∈ below, ∀ file ∈ entries, PathSurrogateFree file.parts := by
    apply keeps_ask (fun _ _ => trivial)
    · rintro history below hbelow entries ⟨⟩
      exact hnames history validatorDir entries hbelow
    · exact fun _ _ _ => trivial
  have hcopied : Gives
      (ask surroundings .asked fun answers =>
        answers.copyTree validatorDir (workRoot ++ [py "validator"]))
      fun _ => True := gives_ask _ _
  refine hentries.bind fun below hbelow => ?_
  have hplanned : Gives (ofPyM (planValidatorBuild rt validatorDir below))
      PlannedSurrogateFree :=
    gives_ofPyM fun _ => surrogateFree_planValidatorBuild hdir hbelow
  refine hplanned.bind fun planned hfree => ?_
  split
  · exact keeps_pure hfree
  · next plan =>
    refine hcopied.bind fun _ _ => ?_
    split
    · exact (gives_makeExecutable _).bind fun _ _ => keeps_pure trivial
    · exact gives_runBuildScript hrt _ image cpuset
    · exact gives_compileValidator hrt hfree _ image cpuset

/-! ## Testcases -/

theorem gives_runOneTestcase (case : TestCase) (runArgv : List PyStr) (limits : TimeLimits)
    (options : JudgeOptions) :
    Gives ((tracedCalls rt surroundings removal workRoot).runOneTestcase case runArgv limits
      options) fun report => SurrogateFree report.stderrText := by
  rw [runOneTestcase_traced]
  apply gives_onFiles
  intro host before report after hreturns
  rw [(runOneTestcase_returns hreturns).1]
  exact surrogateFree_runReport hrt _

theorem gives_runInteractiveTestcase (case : TestCase) (runArgv : List PyStr)
    (validator : BuiltValidator) (config : ProblemConfig) (limits : TimeLimits)
    (options : JudgeOptions) :
    Gives ((tracedCalls rt surroundings removal workRoot).runInteractiveTestcase case runArgv
      validator config limits options) InteractiveReport.SurrogateFree := by
  rw [runInteractiveTestcase_traced]
  apply gives_onFiles
  intro host before report after hreturns
  rw [(runInteractiveTestcase_returns hreturns).1]
  exact surrogateFree_interactiveReport hrt _

theorem gives_readJudgemessage (case : TestCase) (feedbackDir : IoDir) :
    Gives ((tracedCalls rt surroundings removal workRoot).readJudgemessage case feedbackDir)
      SurrogateFree := by
  rw [readJudgemessage_traced]
  apply gives_onFiles
  intro host before message after hreturns
  rw [(readFeedback_returns hreturns).1]
  exact surrogateFree_readJudgemessage hrt _

theorem gives_runCustomValidator (case : TestCase) (validator : BuiltValidator)
    (teamOutput : IoFile) (feedbackDir : IoDir) (flags : List PyStr) (image : PyStr)
    (cpuset : ℤ) (timeout : ℚ) :
    Gives ((tracedCalls rt surroundings removal workRoot).runCustomValidator case validator
      teamOutput feedbackDir flags image cpuset timeout)
      fun classified => SurrogateFree classified.2 := by
  rw [runCustomValidator_traced]
  apply gives_onFiles
  intro host before classified after hreturns
  simp only [runCustomValidator, returns_bind, returns_pure] at hreturns
  obtain ⟨_, _, -, _, _, -, _, _, -, _, _, -, _, _, -, result, _, -, message, _, hread, hvalue⟩ :=
    hreturns
  have hmessage : SurrogateFree message := by
    rw [(readFeedback_returns hread).1]
    exact surrogateFree_readJudgemessage hrt _
  rw [← hvalue.1]
  exact surrogateFree_customVerdict hrt result hmessage

omit hrt in
theorem gives_readAnswer (case : TestCase) :
    Gives ((tracedCalls rt surroundings removal workRoot).readAnswer case) fun _ => True := by
  rw [readAnswer_traced]
  exact gives_ask _ _

/-! ## Judging -/

/-- Every entry so far is free of surrogates. -/
def EntriesSurrogateFree (progress : Progress TestCaseResult) : Prop :=
  ∀ entry ∈ progress.results, EntrySurrogateFree entry

omit hrt in
theorem EntriesSurrogateFree.snoc {progress : Progress TestCaseResult}
    (hprogress : EntriesSurrogateFree progress) {entry : TestCaseResult}
    (hentry : EntrySurrogateFree entry) (stopped : Bool) :
    EntriesSurrogateFree ⟨progress.results ++ [entry], stopped⟩ :=
  List.forall_mem_append.2 ⟨hprogress, List.forall_mem_singleton.2 hentry⟩

section Loop

variable {case : TestCase} (hcase : TestCaseSurrogateFree case)
variable {progress : Progress TestCaseResult} (hprogress : EntriesSurrogateFree progress)

theorem gives_classifyMeasured (session : Session) (case : TestCase)
    (measurement : RunMeasurement) (report : RunReport) :
    Gives (classifyMeasured rt (tracedCalls rt surroundings removal workRoot) session case
      measurement report) fun classified => SurrogateFree classified.2 := by
  rw [classifyMeasured]
  split
  · next validator _ =>
    dsimp only
    split
    · exact gives_runCustomValidator hrt case validator _ _ _ _ _ _
    · exact keeps_pure (surrogateFree_classifyRun _ _ _ surrogateFree_nil)
  · refine (gives_readAnswer case).bind fun answer _ => ?_
    split
    · exact keeps_throw trivial
    · next flags _ =>
      have hcompared := surrogateFree_compareOutput hrt report.teamOutput answer flags
      exact keeps_pure (surrogateFree_classifyRun _ _ _ hcompared)

include hcase hprogress

theorem gives_judgeInteractiveCase (session : Session) :
    Gives (judgeInteractiveCase (tracedCalls rt surroundings removal workRoot) session progress
      case) EntriesSurrogateFree := by
  rw [judgeInteractiveCase]
  split
  · exact keeps_throw trivial
  · refine (gives_runInteractiveTestcase hrt case _ _ _ _ _).bind fun report hreport => ?_
    obtain ⟨hmissing, hsol, hval⟩ := hreport
    split
    · exact keeps_pure (hprogress.snoc (surrogateFree_missingResult hcase hmissing) _)
    · next raw _ =>
      refine (gives_readJudgemessage hrt case _).bind fun judgemessage hmessage => ?_
      have hentry := surrogateFree_interactiveResult hcase raw session.limits
        session.options.memoryMib hmessage hsol hval
      exact keeps_pure (hprogress.snoc hentry _)

theorem gives_judgeMeasuredCase (session : Session) :
    Gives (judgeMeasuredCase rt (tracedCalls rt surroundings removal workRoot) session progress
      case) EntriesSurrogateFree := by
  refine (gives_runOneTestcase hrt case _ _ _).bind fun report hstderr => ?_
  split
  · exact keeps_pure (hprogress.snoc (surrogateFree_missingResult hcase hstderr) _)
  · next measurement _ =>
    refine (gives_classifyMeasured hrt session case measurement report).bind
      fun classified hclassified => ?_
    have hentry := surrogateFree_measuredResult hcase measurement hclassified hstderr
    exact keeps_pure (hprogress.snoc hentry _)

/-- One round of the loop adds an entry without surrogates. -/
theorem gives_judgeStep (session : Session) :
    Gives (judgeStep rt (tracedCalls rt surroundings removal workRoot) session progress case)
      EntriesSurrogateFree := by
  rw [judgeStep]
  split
  · exact keeps_pure (hprogress.snoc (surrogateFree_notRunResult hcase) _)
  split
  · exact gives_judgeInteractiveCase hrt hcase hprogress session
  · exact gives_judgeMeasuredCase hrt hcase hprogress session

end Loop

variable {config : ProblemConfig} {options : JudgeOptions}

theorem gives_prepareValidator
    (hdir : ∀ dir ∈ config.validatorDir, PathSurrogateFree dir)
    (hnames : NamesSurrogateFree surroundings) :
    Gives (prepareValidator (tracedCalls rt surroundings removal workRoot) config options)
      fun prepared => ∀ exc, prepared = .error exc → SurrogateFree exc := by
  rw [prepareValidator]
  split
  · split
    · exact keeps_throw trivial
    · next dir hconfigured =>
      refine (gives_buildValidator hrt (hdir dir hconfigured) hnames _ _).bind
        fun built hbuilt => ?_
      apply keeps_pure
      cases built with
      | error exc =>
          intro exc' hprepared
          rw [← Except.error.inj hprepared]
          exact hbuilt
      | ok validator =>
          intro exc hprepared
          cases hprepared
  · apply keeps_pure
    intro exc hprepared
    cases hprepared

omit hrt in
theorem gives_prepareCompareFlags :
    Gives (prepareCompareFlags rt config : TracedM (Option CompareFlags)) fun _ => True := by
  rw [prepareCompareFlags]
  split
  · split
    · exact keeps_pure trivial
    · exact keeps_throw trivial
  · exact keeps_pure trivial

omit hrt in
/-- The texts of a result that begins as `initialResult` does. -/
theorem surrogateFree_resultTexts {solution : Solution}
    (hsolution : SolutionSurrogateFree solution)
    (hwarnings : ∀ warning ∈ options.warnings, SurrogateFree warning) {compileLog : PyStr}
    (hlog : SurrogateFree compileLog) {entries : List TestCaseResult}
    (hentries : ∀ entry ∈ entries, EntrySurrogateFree entry) (verdict : Verdict) :
    ∀ text ∈ resultTexts { initialResult solution options with
      compileLog := compileLog, verdict := verdict, testcases := entries },
      SurrogateFree text := by
  have hlanguage : SurrogateFree (initialResult solution options).language := by
    rw [initialResult]
    cases solution.language with
    | none => exact surrogateFree_nil
    | some language => exact surrogateFree_languageValue language
  intro text htext
  simp only [resultTexts, List.mem_append, List.mem_flatMap] at htext
  rcases htext with (hfields | hwarning) | ⟨entry, hentry, hmem⟩
  · simp only [List.mem_cons, List.not_mem_nil, or_false] at hfields
    rcases hfields with rfl | rfl | rfl | rfl | rfl | rfl
    · exact hsolution.name
    · exact hsolution.relPath
    · exact hsolution.expected
    · exact hlanguage
    · exact surrogateFree_verdictName verdict
    · exact hlog
  · exact hwarnings text hwarning
  · exact hentries entry hentry text hmem

/-- The whole of `judge_solution`. -/
theorem gives_judgeSolution {solution : Solution} (hsolution : SolutionSurrogateFree solution)
    (hdir : ∀ dir ∈ config.validatorDir, PathSurrogateFree dir)
    (hnames : NamesSurrogateFree surroundings) {testcases : List TestCase}
    (hcases : ∀ case ∈ testcases, TestCaseSurrogateFree case) (limits : TimeLimits)
    (hwarnings : ∀ warning ∈ options.warnings, SurrogateFree warning) :
    Gives (judgeSolution rt (tracedCalls rt surroundings removal workRoot) config solution
      testcases limits options) fun result => ∀ text ∈ resultTexts result, SurrogateFree text := by
  have hnotRun : ∀ entry ∈ testcases.map fun case => notRunResult case,
      EntrySurrogateFree entry := by
    intro entry hentry
    obtain ⟨case, hcase, rfl⟩ := List.mem_map.1 hentry
    exact surrogateFree_notRunResult (hcases case hcase)
  refine (gives_compileSolution hrt hsolution _ _ _ _).bind fun outcome hlog => ?_
  split
  · exact keeps_pure (surrogateFree_resultTexts hsolution hwarnings hlog hnotRun _)
  refine (gives_prepareValidator hrt hdir hnames).bind fun prepared hprepared => ?_
  split
  · next exc =>
    have hfailed : SurrogateFree (strip (outcome.log ++ py "\n[validator] " ++ exc)) := by
      apply SurrogateFree.strip
      simp [hlog, hprepared exc rfl]
    exact keeps_pure (surrogateFree_resultTexts hsolution hwarnings hfailed hnotRun _)
  · next validator =>
    refine gives_prepareCompareFlags.bind fun compareFlags _ => ?_
    have hloop : Gives (testcases.foldlM
        (judgeStep rt (tracedCalls rt surroundings removal workRoot)
          ⟨config, outcome.runArgv, validator, compareFlags, limits, options⟩) ⟨[], false⟩)
        EntriesSurrogateFree :=
      keeps_foldlM (fun case hcase progress hprogress =>
        gives_judgeStep hrt (hcases case hcase) hprogress _) nofun
    refine hloop.bind fun progress hprogress => ?_
    exact keeps_pure (surrogateFree_resultTexts hsolution hwarnings hlog hprogress _)

end IcpcVerify.Judge
