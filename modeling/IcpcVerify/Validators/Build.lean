import IcpcVerify.Compile
import IcpcVerify.Solutions.Units
import IcpcVerify.Validators

/-!
# Building an output validator

A validator directory comes with a `build` script, with a ready `run`, or with sources
that go the way of a solution.  Everything that can go wrong with it is a
`ValidatorError`, which the judge catches.
-/

namespace IcpcVerify.Validators

open IcpcVerify.Python
open IcpcVerify.Solutions
open IcpcVerify.Sandbox
open IcpcVerify.Compile
open IcpcVerify.FallibleRun

def buildTimeout : ℚ := 120

/-- `BuildPlan.kind`. -/
inductive BuildKind where
  | buildScript
  | runScript
  | sources
  deriving DecidableEq

structure BuildPlan where
  kind : BuildKind
  solution : Option Solution

/-- `(validator_dir / name).is_file()`, by the entries below the directory. -/
def isFileBelow (below : List FileBelow) (name : PyStr) : Bool :=
  below.any fun file => file.parts = [name] ∧ file.isFile

/-- The validator directory as a unit below its parent. -/
def validatorUnit (validatorDir : Path) (below : List FileBelow) : UnitEntry where
  name := validatorDir.getLastD []
  below := some below
  content := .error ⟨.os, []⟩

section Plan

variable (rt : Runtime)

/-- `plan_validator_build`, given the entries below the directory if it is one.  The
inner `error` is the text of a `ValidatorError`. -/
def planValidatorBuild (validatorDir : Path) (below : Option (List FileBelow)) :
    PyM (Except PyStr BuildPlan) :=
  match below with
  | none => return .error (py "validator 디렉토리가 없습니다: " ++ strPath validatorDir)
  | some below =>
      if isFileBelow below (py "build") then return .ok ⟨.buildScript, none⟩
      else if isFileBelow below (py "run") then return .ok ⟨.runScript, none⟩
      else do
        match ← describeUnit rt validatorDir.dropLast [validatorDir.getLastD []]
            (validatorUnit validatorDir below) (py "validator") with
        | .error warning =>
            return .error (py "validator 소스를 찾지 못했습니다: " ++ warning)
        | .ok solution =>
            match solution.error with
            | some (c :: rest) =>
                return .error (py "validator 소스가 잘못되었습니다: " ++ c :: rest)
            | _ => return .ok ⟨.sources, some solution⟩

end Plan

/-- What `build_validator` does outside: files and containers. -/
structure BuildCalls (m : Type → Type) where
  /-- The entries below a path, if it is a directory. -/
  entriesBelow : Path → m (Option (List FileBelow))
  /-- `rmtree` of the target, `copytree`, and `chmod`. -/
  copyTree : Path → Path → m Unit
  makeExecutable : Path → m Unit
  isFile : Path → m Bool
  compile : CompileCalls m

section Build

variable {m : Type → Type} [Monad m] [MonadExceptOf PyError m]
variable (rt : Runtime) (calls : BuildCalls m)

def buildSpec (buildDir : Path) (image : PyStr) (cpuset : ℤ) : SandboxSpec where
  image := image
  cpuset := cpuset
  memoryMib := validatorMemoryMib
  binds := [⟨.validator buildDir, validatorMount, .rw⟩]
  argv := [validatorMount ++ py "/build"]
  timeout := buildTimeout
  user := some rt.hostUser
  workdir := some validatorMount

/-- `(f"{VALIDATOR_MOUNT}/run",)`. -/
def runScriptArgv : List PyStr :=
  [validatorMount ++ py "/run"]

/-- The branch of `build_validator` for a `build` script. -/
def runBuildScript (buildDir : Path) (image : PyStr) (cpuset : ℤ) :
    m (Except PyStr BuiltValidator) := do
  calls.makeExecutable (buildDir ++ [py "build"])
  let result ← calls.compile.runSandbox (buildSpec rt buildDir image cpuset)
  let log := rt.decodeReplace (result.stdout ++ result.stderr)
  if result.timedOut ∨ result.exitCode ≠ 0 then
    return .error (py "validator build 스크립트가 실패했습니다:\n" ++ log)
  else do
    let runPath := buildDir ++ [py "run"]
    if !(← calls.isFile runPath) then
      return .error (py "build 스크립트가 run 실행 파일을 만들지 않았습니다")
    else do
      calls.makeExecutable runPath
      return .ok ⟨buildDir, runScriptArgv, log⟩

/-- The branch of `build_validator` for sources, with its assertion. -/
def compileValidator (planned : Option Solution) (buildDir : Path) (image : PyStr)
    (cpuset : ℤ) : m (Except PyStr BuiltValidator) :=
  match planned with
  | none => throw ⟨.assertion, []⟩
  | some solution => do
      let outcome ← compileSolution rt calls.compile solution (.validator buildDir)
        validatorMemoryMib ⟨image, cpuset, []⟩ validatorMount
      if !outcome.ok then
        return .error (py "validator 컴파일에 실패했습니다:\n" ++ outcome.log)
      else return .ok ⟨buildDir, outcome.runArgv, outcome.log⟩

/-- `build_validator`; an inner `error` is a `ValidatorError`. -/
def buildValidator (validatorDir buildRoot : Path) (image : PyStr) (cpuset : ℤ) :
    m (Except PyStr BuiltValidator) := do
  let below ← calls.entriesBelow validatorDir
  match ← ofPyM (planValidatorBuild rt validatorDir below) with
  | .error exc => return .error exc
  | .ok plan =>
      let buildDir := buildRoot ++ [py "validator"]
      calls.copyTree validatorDir buildDir
      match plan.kind with
      | .runScript =>
          calls.makeExecutable (buildDir ++ [py "run"])
          return .ok ⟨buildDir, runScriptArgv, []⟩
      | .buildScript => runBuildScript rt calls buildDir image cpuset
      | .sources => compileValidator rt calls plan.solution buildDir image cpuset

end Build

/-! ## What a plan promises -/

variable {rt : Runtime}

/-- A plan to compile has a solution without error and in a known language. -/
def BuildPlan.Ready (plan : BuildPlan) : Prop :=
  plan.kind = .sources →
    ∃ solution ∈ plan.solution, ¬Given solution.error ∧ solution.language.isSome = true

theorem planValidatorBuild_ready {validatorDir : Path} {below : Option (List FileBelow)}
    {plan : BuildPlan} (hplan : planValidatorBuild rt validatorDir below = .ok (.ok plan)) :
    plan.Ready := by
  cases below with
  | none => cases hplan
  | some below =>
      simp only [planValidatorBuild] at hplan
      split_ifs at hplan
      · obtain rfl := Except.ok.inj (Except.ok.inj hplan)
        intro hkind
        cases hkind
      · obtain rfl := Except.ok.inj (Except.ok.inj hplan)
        intro hkind
        cases hkind
      · obtain ⟨described, hdescribed, hrest⟩ := bind_eq_ok_iff.1 hplan
        cases described with
        | error warning => cases hrest
        | ok solution =>
            have hcompilable : solution.Compilable := by
              apply describeUnit_compilable _ hdescribed
              intro hbelow
              cases hbelow
            dsimp only at hrest
            split at hrest
            · cases hrest
            · next herror =>
              obtain rfl := Except.ok.inj (Except.ok.inj hrest)
              have hnone : ¬Given solution.error := by
                rintro ⟨message, hmessage, hne⟩
                obtain ⟨c, rest, rfl⟩ := List.exists_cons_of_ne_nil hne
                exact herror c rest hmessage
              intro _
              exact ⟨solution, rfl, hnone, hcompilable.resolve_left hnone⟩

/-- Planning raises only where reading a file of the validator does. -/
theorem planValidatorBuild_raises {validatorDir : Path} {below : Option (List FileBelow)}
    {exc : PyError} (hraised : planValidatorBuild rt validatorDir below = .error exc) :
    ∃ entries ∈ below, ∃ file ∈ entries, file.content = .error exc := by
  cases below with
  | none => cases hraised
  | some entries =>
      simp only [planValidatorBuild] at hraised
      split_ifs at hraised
      · cases hraised
      · cases hraised
      · rcases bind_eq_error_iff.1 hraised with hdescribed | ⟨described, -, hreturned⟩
        · obtain ⟨source, hsource, hcontent⟩ := describeUnit_raises hdescribed
          obtain ⟨file, hfile, -, rfl⟩ := mem_sourcesBelow.1 hsource
          exact ⟨entries, rfl, file, hfile, hcontent⟩
        · split at hreturned
          · cases hreturned
          · split at hreturned <;> cases hreturned

end IcpcVerify.Validators
