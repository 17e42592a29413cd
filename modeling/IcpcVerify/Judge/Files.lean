import IcpcVerify.Core.StatefulRun
import IcpcVerify.Judge.Outcomes

/-!
# Judging over files

The directories below `io_dir` are a store that every testcase reuses.  A container
sees the contents of the directories mounted into it and leaves new contents in
those mounted for writing.  Removing a directory may leave anything behind; what
keeps a testcase apart from the ones before it is that creating a directory that is
still there raises.
-/

namespace IcpcVerify.Judge

open IcpcVerify.Python
open IcpcVerify.Timelimits
open IcpcVerify.Results
open IcpcVerify.Runner
open IcpcVerify.Sandbox
open IcpcVerify.Validators
open IcpcVerify.StatefulRun

/-- An entry of a directory: a regular file, or something that is none.  There are no symbolic
links, which `is_file()` and `read_bytes()` would follow. -/
inductive Node where
  | file (content : Bytes)
  | other
  deriving DecidableEq

abbrev Dir := PyStr → Option Node

/-- The directories below `io_dir`, as far as they exist. -/
abbrev IoStore := IoDir → Option Dir

def emptyDir : Dir :=
  fun _ => none

def put (dir : Dir) (name : PyStr) (content : Bytes) : Dir :=
  Function.update dir name (some (.file content))

/-- The content of `name`, if `is_file()` holds of it (without a link to follow). -/
def fileIn (dir : Dir) (name : PyStr) : Option Bytes :=
  match dir name with
  | some (.file content) => some content
  | _ => none

/-- The surroundings of the judge: problem files, docker, and the parsing of the
two kinds of `run.json`.  The working and validator directories do not change while
testcases are judged; a container's view of them is part of `sandbox`. -/
structure Host where
  read : Path → Option Bytes
  sandbox : SandboxSpec → (IoDir → Option Dir) → PyM (SandboxResult × (IoDir → Dir))
  loadRun : Bytes → PyM RunRecord
  loadInteractive : Bytes → PyM InteractiveRecord
  compile : Solution → ℤ → CompileOptions → PyM CompileOutcome
  build : Path → PyStr → ℤ → PyM (Except PyStr BuiltValidator)

/-- What `shutil.rmtree(…, ignore_errors=True)` leaves of a directory, by the count of
removals so far; `none` is a directory that is gone. -/
abbrev Removal := ℕ → IoDir → Dir → Option Dir

structure World where
  store : IoStore
  removals : ℕ

abbrev IoM := StateT World PyM

def osError : PyError :=
  ⟨.os, []⟩

/-! ## File operations -/

section Operations

variable (host : Host) (removal : Removal)

/-- `shutil.rmtree(d, ignore_errors=True)` and `d.mkdir(parents=True)`. -/
def recreate (dir : IoDir) : IoM Unit := do
  let world ← get
  match (world.store dir).bind (removal world.removals dir) with
  | some _ => throw osError
  | none =>
      set (World.mk (Function.update world.store dir (some emptyDir))
        (world.removals + 1))

def writeFile (file : IoFile) (content : Bytes) : IoM Unit := do
  let world ← get
  match world.store file.dir with
  | none => throw osError
  | some dir =>
      if dir file.name = some .other then throw osError
      else
        set (World.mk
          (Function.update world.store file.dir (some (put dir file.name content)))
          world.removals)

/-- The content of a file, if `is_file()` holds of it. -/
def readFile (file : IoFile) : IoM (Option Bytes) := do
  let world ← get
  return (world.store file.dir).bind fun dir => fileIn dir file.name

/-- `shutil.copy2` of a problem file. -/
def copyIn (source : Path) (target : IoFile) : IoM Unit :=
  match host.read source with
  | none => throw osError
  | some content => writeFile target content

/-- `shutil.copy2` within `io_dir`. -/
def copyFile (source target : IoFile) : IoM Unit := do
  match ← readFile source with
  | none => throw osError
  | some content => writeFile target content

def mountedAs (spec : SandboxSpec) (mode : BindMode) (dir : IoDir) : Bool :=
  spec.binds.any fun bind => bind.source = .io dir ∧ bind.mode = mode

/-- The mounted part of the store. -/
def mounted (spec : SandboxSpec) (store : IoStore) : IoStore :=
  fun dir => if mountedAs spec .ro dir || mountedAs spec .rw dir then store dir else none

/-- The store after a container that left `left` in its directories. -/
def remount (spec : SandboxSpec) (store : IoStore) (left : IoDir → Dir) : IoStore :=
  fun dir => if mountedAs spec .rw dir then some (left dir) else store dir

def runSandbox (spec : SandboxSpec) : IoM SandboxResult := do
  let world ← get
  let ended ← liftM (host.sandbox spec (mounted spec world.store))
  set (World.mk (remount spec world.store ended.2) world.removals)
  return ended.1

end Operations

/-! ## The three containers -/

def workMount : PyStr := py "/work"
def runMount : PyStr := py "/run"
def outMount : PyStr := py "/out"
def dataMount : PyStr := py "/data"
def feedbackMount : PyStr := py "/feedback"

/-- `f"{limits.hard_kill:.3f}"`. -/
def hardKillArgument (limits : TimeLimits) : PyStr :=
  formatFixed 3 limits.hardKill

variable (rt : Runtime)

def runSpec (runArgv : List PyStr) (limits : TimeLimits) (options : JudgeOptions) :
    SandboxSpec where
  image := options.image
  cpuset := options.cpuset
  memoryMib := options.memoryMib
  binds := [⟨.work, workMount, .ro⟩, ⟨.io .input, runMount, .ro⟩,
    ⟨.io .out, outMount, .rw⟩]
  argv :=
    [py "python3", py "/usr/local/bin/runner.py",
      py "--input", runMount ++ py "/tc.in",
      py "--stdout", outMount ++ py "/stdout",
      py "--stderr", outMount ++ py "/stderr",
      py "--result", outMount ++ py "/run.json",
      py "--hard-kill", hardKillArgument limits,
      py "--output-limit", formatInt (options.outputLimitMib * 1024 * 1024),
      py "--"] ++ runArgv
  timeout := limits.hardKill + 60
  user := some rt.hostUser
  workdir := none

def interactiveSpec (runArgv : List PyStr) (validator : BuiltValidator)
    (config : ProblemConfig) (limits : TimeLimits) (options : JudgeOptions) :
    SandboxSpec where
  image := options.image
  cpuset := options.cpuset
  memoryMib := options.memoryMib + 512
  binds := [⟨.work, workMount, .ro⟩, ⟨.validator validator.dir, validatorMount, .ro⟩,
    ⟨.io .idata, dataMount, .ro⟩, ⟨.io .feedback, feedbackMount, .rw⟩,
    ⟨.io .out, outMount, .rw⟩]
  argv :=
    [py "python3", py "/usr/local/bin/interactive_runner.py",
      py "--result", outMount ++ py "/run.json",
      py "--hard-kill", hardKillArgument limits,
      py "--pair-timeout", formatFixed 3 (limits.hardKill + 5),
      py "--validator-json",
      rt.dumps (validator.argv ++
        [py "/data/tc.in", py "/data/tc.ans", py "/feedback"] ++ config.validatorFlags),
      py "--sol-stderr", outMount ++ py "/sol.stderr",
      py "--val-stderr", outMount ++ py "/val.stderr",
      py "--"] ++ runArgv
  timeout := limits.hardKill + 60
  user := some rt.hostUser
  workdir := some validatorMount

def validatorSpec (built : BuiltValidator) (feedbackDir : IoDir) (flags : List PyStr)
    (image : PyStr) (cpuset : ℤ) (timeout : ℚ) : SandboxSpec where
  image := image
  cpuset := cpuset
  memoryMib := validatorMemoryMib
  binds := [⟨.validator built.dir, validatorMount, .ro⟩, ⟨.io .vdata, dataMount, .ro⟩,
    ⟨.io feedbackDir, feedbackMount, .rw⟩]
  argv :=
    [py "sh", py "-c", py "exec \"$@\" < /data/tc.out", py "sh"] ++ built.argv ++
      [py "/data/tc.in", py "/data/tc.ans", py "/feedback"] ++ flags
  timeout := timeout
  user := some rt.hostUser
  workdir := some validatorMount

def runJsonFile : IoFile := ⟨.out, py "run.json"⟩

def judgemessageFile (feedbackDir : IoDir) : IoFile := ⟨feedbackDir, py "judgemessage.txt"⟩

section Program

variable (host : Host) (removal : Removal)

/-- The team output; its file is created if the run left none. -/
def readTeamOutput : IoM Bytes := do
  match ← readFile teamOutputFile with
  | some content => return content
  | none =>
      writeFile teamOutputFile []
      return []

/-- `_run_one_testcase`. -/
def runOneTestcase (case : TestCase) (runArgv : List PyStr) (limits : TimeLimits)
    (options : JudgeOptions) : IoM RunReport := do
  recreate removal .input
  recreate removal .out
  copyIn host case.inputPath ⟨.input, py "tc.in"⟩
  let result ← runSandbox host (runSpec rt runArgv limits options)
  match ← readFile runJsonFile with
  | none =>
      return ⟨none, [], teamOutputFile, describeMissingRunResult rt result.stderr⟩
  | some text =>
      let raw ← liftM (host.loadRun text)
      let measurement := measurementOf raw result.oomKilled
      let teamOutput ← readTeamOutput
      let stderr ← readFile ⟨.out, py "stderr"⟩
      return ⟨some measurement, teamOutput, teamOutputFile, readStderrTail rt stderr⟩

/-- `_run_interactive_testcase`. -/
def runInteractiveTestcase (case : TestCase) (runArgv : List PyStr)
    (validator : BuiltValidator) (config : ProblemConfig) (limits : TimeLimits)
    (options : JudgeOptions) : IoM InteractiveReport := do
  recreate removal .idata
  recreate removal .out
  recreate removal .feedback
  copyIn host case.inputPath ⟨.idata, py "tc.in"⟩
  copyIn host case.answerPath ⟨.idata, py "tc.ans"⟩
  let result ← runSandbox host (interactiveSpec rt runArgv validator config limits options)
  match ← readFile runJsonFile with
  | none =>
      return ⟨none, .feedback, missingInteractiveMessage rt result.stderr result.oomKilled,
        [], []⟩
  | some text =>
      let raw ← liftM (host.loadInteractive text)
      let solStderr ← readFile ⟨.out, py "sol.stderr"⟩
      let valStderr ← readFile ⟨.out, py "val.stderr"⟩
      return ⟨some raw, .feedback, [], readStderrTail rt solStderr,
        readStderrTail rt valStderr⟩

/-- `read_judgemessage`. -/
def readFeedback (feedbackDir : IoDir) : IoM PyStr := do
  let file ← readFile (judgemessageFile feedbackDir)
  return readJudgemessage rt file

/-- `run_custom_validator`. -/
def runCustomValidator (case : TestCase) (built : BuiltValidator) (teamOutput : IoFile)
    (feedbackDir : IoDir) (flags : List PyStr) (image : PyStr) (cpuset : ℤ)
    (timeout : ℚ) : IoM (Verdict × PyStr) := do
  recreate removal .vdata
  copyIn host case.inputPath ⟨.vdata, py "tc.in"⟩
  copyIn host case.answerPath ⟨.vdata, py "tc.ans"⟩
  copyFile teamOutput ⟨.vdata, py "tc.out"⟩
  recreate removal feedbackDir
  let result ← runSandbox host (validatorSpec rt built feedbackDir flags image cpuset timeout)
  let message ← readFeedback rt feedbackDir
  return customVerdict rt result message

/-- The calls of `judge_solution`, over files. -/
def fileCalls : Calls IoM TestCase where
  testcase := id
  compileSolution solution memoryMib options :=
    liftM (host.compile solution memoryMib options)
  buildValidator dir image cpuset := liftM (host.build dir image cpuset)
  runOneTestcase := runOneTestcase rt host removal
  runInteractiveTestcase := runInteractiveTestcase rt host removal
  readJudgemessage _ := readFeedback rt
  runCustomValidator := runCustomValidator rt host removal
  readAnswer case :=
    match host.read case.answerPath with
    | none => throw osError
    | some content => return content

end Program

end IcpcVerify.Judge
