import IcpcVerify.Sandbox
import IcpcVerify.Solutions

/-!
# Compiling a solution

The sources are copied into a working directory that is mounted into two containers:
one that compiles them, and one that prints the command to run.  A solution with an
error is not compiled at all.
-/

namespace IcpcVerify.Compile

open IcpcVerify.Python
open IcpcVerify.Solutions
open IcpcVerify.Sandbox

def workMount : PyStr := py "/work"

def compileMemoryMib : ℤ := 4096

/-- `CompileOptions.timeout`, which no caller sets. -/
def compileTimeout : ℚ := 120

/-- `Path.relative_to`. -/
def relativeTo (path root : Path) : PyM Path :=
  if root <+: path then return path.drop root.length else throw ⟨.value, []⟩

/-- The directory that the sources are staged relative to. -/
def stageRoot (solution : Solution) (isDir : Bool) : Path :=
  if isDir then solution.path else solution.path.dropLast

/-- The sources as they are named inside the container. -/
def stagedPaths (solution : Solution) (isDir : Bool) (mount : PyStr) : PyM (List PyStr) :=
  solution.sources.mapM fun source => do
    let parts ← relativeTo source (stageRoot solution isDir)
    return mount ++ py "/" ++ asPosix parts

section Specs

variable (rt : Runtime) (solution : Solution) (language : Language) (workDir : BindSource)
variable (options : CompileOptions) (mount : PyStr)

def compileSpec (sources : List PyStr) : SandboxSpec where
  image := options.image
  cpuset := options.cpuset
  memoryMib := compileMemoryMib
  binds := [⟨workDir, mount, .rw⟩]
  argv :=
    [py "/usr/local/lib/icpc/compile.sh", language.value, mount, solution.entry,
      (options.flags.lookup language).getD [], py "--"] ++ sources
  timeout := compileTimeout
  user := some rt.hostUser
  workdir := none

def runArgvSpec (memoryMib : ℤ) : SandboxSpec where
  image := options.image
  cpuset := options.cpuset
  memoryMib := compileMemoryMib
  binds := [⟨workDir, mount, .rw⟩]
  argv :=
    [py "/usr/local/lib/icpc/run.sh", language.value, mount, solution.entry,
      formatInt memoryMib]
  timeout := 30
  user := some rt.hostUser
  workdir := none

end Specs

/-- What `compile_solution` does outside: files and containers. -/
structure CompileCalls (m : Type → Type) where
  isDir : Path → m Bool
  copySources : Path → BindSource → m Unit
  runSandbox : SandboxSpec → m SandboxResult

variable {m : Type → Type} [Monad m] [MonadExceptOf PyError m]
variable (rt : Runtime) (calls : CompileCalls m)

/-- `_stage_sources`. -/
def stageSources (solution : Solution) (workDir : BindSource) (mount : PyStr) :
    m (List PyStr) := do
  let isDir ← calls.isDir solution.path
  calls.copySources solution.path workDir
  ofPyM (stagedPaths solution isDir mount)

/-- The items that the run container printed, one on a line. -/
def runArgvOf (stdout : Bytes) : PyM (List PyStr) :=
  match rt.decodeStrict stdout with
  | none => throw ⟨.value, []⟩
  | some text => return (splitOn newline text).filter (· ≠ [])

/-- `compile_solution`. -/
def compileSolution (solution : Solution) (workDir : BindSource) (memoryMib : ℤ)
    (options : CompileOptions) (mount : PyStr) : m CompileOutcome :=
  match solution.error with
  | some (c :: rest) => return ⟨false, c :: rest, []⟩
  | _ =>
      match solution.language with
      | none => throw ⟨.assertion, []⟩
      | some language => do
          let sources ← stageSources calls solution workDir mount
          let compiled ← calls.runSandbox
            (compileSpec rt solution language workDir options mount sources)
          let log := rt.decodeReplace (compiled.stdout ++ compiled.stderr)
          if compiled.timedOut then return ⟨false, log ++ py "\ncompile timeout", []⟩
          else if compiled.exitCode ≠ 0 then
            return ⟨false, if log ≠ [] then log else py "컴파일에 실패했습니다", []⟩
          else do
            let printed ← calls.runSandbox
              (runArgvSpec rt solution language workDir options mount memoryMib)
            if printed.exitCode ≠ 0 then
              return ⟨false,
                py "실행 명령을 만들지 못했습니다: " ++ rt.decodeReplace printed.stderr, []⟩
            else do
              let runArgv ← ofPyM (runArgvOf rt printed.stdout)
              return ⟨true, log, runArgv⟩

end IcpcVerify.Compile
