import IcpcVerify.Core.TracedRun
import IcpcVerify.Judge.Files
import IcpcVerify.Validators.Build

/-!
# Judging with everything in it

Here `judge_solution` runs with the real `compile_solution`, `build_validator` and
testcase functions.  What lies outside the program (docker and the file system) answers
as it likes, and may take into account all that has been asked of it before; the state
records that history, and keeps it when an exception is raised.
-/

namespace IcpcVerify.Judge

open IcpcVerify.Python
open IcpcVerify.Solutions
open IcpcVerify.Timelimits
open IcpcVerify.Sandbox
open IcpcVerify.Validators
open IcpcVerify.Compile
open IcpcVerify.StatefulRun
open IcpcVerify.TracedRun

/-- What the program turns to the outside for. -/
inductive Event where
  /-- Something about files. -/
  | asked
  /-- A container of a compilation or of a validator build. -/
  | container (spec : SandboxSpec)
  /-- The directories and the container of a testcase. -/
  | testcase (case : TestCase)

/-- The answers of the outside at one moment.  For testcases these are the file
operations and containers of `Host`; its two fields for a compilation and a validator
build as a whole are not asked. -/
structure Answers where
  host : Host
  isDir : Path → PyM Bool
  copySources : Path → BindSource → PyM Unit
  sandbox : SandboxSpec → PyM SandboxResult
  entriesBelow : Path → PyM (Option (List FileBelow))
  copyTree : Path → Path → PyM Unit
  makeExecutable : Path → PyM Unit
  isFile : Path → PyM Bool

/-- The outside: its answers after any history. -/
abbrev Surroundings := List Event → Answers

structure Trace where
  events : List Event
  world : World

abbrev TracedM := Program Trace PyError

/-- The state in which an event has been recorded. -/
def Trace.record (trace : Trace) (event : Event) : Trace :=
  { trace with events := trace.events ++ [event] }

section Calls

variable (rt : Runtime) (surroundings : Surroundings) (removal : Removal) (workRoot : Path)

/-- Turns to the outside. -/
def ask {Value : Type} (event : Event) (question : Answers → PyM Value) : TracedM Value := do
  let trace ← get
  set (trace.record event)
  ofPyM (question (surroundings trace.events))

/-- Runs a testcase function on the directories below `io_dir`. -/
def onFiles {Value : Type} (event : Event) (action : Host → IoM Value) : TracedM Value := do
  let trace ← get
  set (trace.record event)
  let (value, world) ← ofPyM ((action (surroundings trace.events).host).run trace.world)
  modify fun recorded => { recorded with world := world }
  return value

/-- `tc.answer_path.read_bytes()`. -/
def answerOf (host : Host) (case : TestCase) : PyM Bytes :=
  match host.read case.answerPath with
  | none => throw osError
  | some content => return content

def compileCalls : CompileCalls TracedM where
  isDir path := ask surroundings .asked fun answers => answers.isDir path
  copySources source target :=
    ask surroundings .asked fun answers => answers.copySources source target
  runSandbox spec := ask surroundings (.container spec) fun answers => answers.sandbox spec

def buildCalls : BuildCalls TracedM where
  entriesBelow dir := ask surroundings .asked fun answers => answers.entriesBelow dir
  copyTree source target := ask surroundings .asked fun answers => answers.copyTree source target
  makeExecutable path := ask surroundings .asked fun answers => answers.makeExecutable path
  isFile path := ask surroundings .asked fun answers => answers.isFile path
  compile := compileCalls surroundings

/-- The calls of `judge_solution`, none of them left open but the outside. -/
def tracedCalls : Calls TracedM TestCase where
  testcase := id
  compileSolution solution memoryMib options :=
    compileSolution rt (compileCalls surroundings) solution .work memoryMib options
      Compile.workMount
  buildValidator dir image cpuset :=
    buildValidator rt (buildCalls surroundings) dir workRoot image cpuset
  runOneTestcase case runArgv limits options :=
    onFiles surroundings (.testcase case) fun host =>
      runOneTestcase rt host removal case runArgv limits options
  runInteractiveTestcase case runArgv validator config limits options :=
    onFiles surroundings (.testcase case) fun host =>
      runInteractiveTestcase rt host removal case runArgv validator config limits options
  readJudgemessage _ feedbackDir :=
    onFiles surroundings .asked fun _ => readFeedback rt feedbackDir
  runCustomValidator case validator teamOutput feedbackDir flags image cpuset timeout :=
    onFiles surroundings (.testcase case) fun host =>
      runCustomValidator rt host removal case validator teamOutput feedbackDir flags image
        cpuset timeout
  readAnswer case := ask surroundings .asked fun answers => answerOf answers.host case

end Calls

/-! ## What a call comes to -/

variable {rt : Runtime} {surroundings : Surroundings} {removal : Removal} {workRoot : Path}
variable {before : Trace} {Value : Type}

theorem makeExecutable_traced (path : Path) :
    (buildCalls surroundings).makeExecutable path =
      ask surroundings .asked fun answers => answers.makeExecutable path :=
  rfl

theorem runOneTestcase_traced (case : TestCase) (runArgv : List PyStr) (limits : TimeLimits)
    (options : JudgeOptions) :
    (tracedCalls rt surroundings removal workRoot).runOneTestcase case runArgv limits options =
      onFiles surroundings (.testcase case) fun host =>
        runOneTestcase rt host removal case runArgv limits options :=
  rfl

theorem runInteractiveTestcase_traced (case : TestCase) (runArgv : List PyStr)
    (validator : BuiltValidator) (config : ProblemConfig) (limits : TimeLimits)
    (options : JudgeOptions) :
    (tracedCalls rt surroundings removal workRoot).runInteractiveTestcase case runArgv validator
        config limits options =
      onFiles surroundings (.testcase case) fun host =>
        runInteractiveTestcase rt host removal case runArgv validator config limits options :=
  rfl

theorem runCustomValidator_traced (case : TestCase) (validator : BuiltValidator)
    (teamOutput : IoFile) (feedbackDir : IoDir) (flags : List PyStr) (image : PyStr)
    (cpuset : ℤ) (timeout : ℚ) :
    (tracedCalls rt surroundings removal workRoot).runCustomValidator case validator teamOutput
        feedbackDir flags image cpuset timeout =
      onFiles surroundings (.testcase case) fun host =>
        runCustomValidator rt host removal case validator teamOutput feedbackDir flags image
          cpuset timeout :=
  rfl

theorem readJudgemessage_traced (case : TestCase) (feedbackDir : IoDir) :
    (tracedCalls rt surroundings removal workRoot).readJudgemessage case feedbackDir =
      onFiles surroundings .asked fun _ => readFeedback rt feedbackDir :=
  rfl

theorem readAnswer_traced (case : TestCase) :
    (tracedCalls rt surroundings removal workRoot).readAnswer case =
      ask surroundings .asked fun answers => answerOf answers.host case :=
  rfl

theorem runFrom_ask (event : Event) (question : Answers → PyM Value) :
    runFrom (ask surroundings event question) before =
      (question (surroundings before.events), before.record event) := by
  change runFrom (ofPyM (question (surroundings before.events))) (before.record event) = _
  cases question (surroundings before.events) <;> rfl

theorem runFrom_onFiles (event : Event) (action : Host → IoM Value) :
    runFrom (onFiles surroundings event action) before =
      match (action (surroundings before.events).host).run before.world with
      | .ok (value, world) => (.ok value, { before.record event with world := world })
      | .error exc => (.error exc, before.record event) := by
  change runFrom (ofPyM ((action (surroundings before.events).host).run before.world) >>= _)
    (before.record event) = _
  cases (action (surroundings before.events).host).run before.world <;> rfl

variable {inv : Trace → Prop} {returned : Value → Prop} {raised : PyError → Prop}

/-- A call keeps what its event keeps, and ends as the outside lets it end. -/
theorem keeps_ask {event : Event} {question : Answers → PyM Value}
    (hevent : ∀ trace, inv trace → inv (trace.record event))
    (hreturned : ∀ history value, question (surroundings history) = .ok value →
      returned value)
    (hraised : ∀ history exc, question (surroundings history) = .error exc → raised exc) :
    Keeps inv (ask surroundings event question) returned raised := by
  intro before hbefore
  rw [runFrom_ask]
  cases hanswer : question (surroundings before.events) with
  | ok value => exact ⟨hreturned _ value hanswer, hevent before hbefore⟩
  | error exc => exact ⟨hraised _ exc hanswer, hevent before hbefore⟩

/-- A testcase function ends as it does on files. -/
theorem keeps_onFiles {event : Event} {action : Host → IoM Value}
    (hreturned : ∀ host before value after, Returns (action host) before value after →
      returned value)
    (hraised : ∀ history, RaisesOnly (action (surroundings history).host) raised) :
    Keeps (fun _ => True) (onFiles surroundings event action) returned raised := by
  intro before _
  rw [runFrom_onFiles]
  cases hrun : (action (surroundings before.events).host).run before.world with
  | ok result => exact ⟨hreturned _ _ result.1 result.2 hrun, trivial⟩
  | error exc => exact ⟨hraised _ before.world exc hrun, trivial⟩

theorem keeps_ofPyM {action : PyM Value} (hreturned : ∀ value, action = .ok value → returned value)
    (hraised : ∀ exc, action = .error exc → raised exc) :
    Keeps inv (ofPyM action : TracedM Value) returned raised := by
  cases action with
  | ok value => exact keeps_pure (hreturned value rfl)
  | error exc => exact keeps_throw (hraised exc rfl)

end IcpcVerify.Judge
