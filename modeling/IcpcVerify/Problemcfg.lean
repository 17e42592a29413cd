import IcpcVerify.Core.FallibleRun
import IcpcVerify.Python.Shlex
import IcpcVerify.Python.Yaml
import IcpcVerify.Solutions

/-!
# Loading the problem configuration

`load_problem_config` reads `problem.yaml`, whose values may be of any type, and looks
for the directory of the output validator.  The mode it settles on is backed by such a
directory unless it is the default one.
-/

namespace IcpcVerify.Problemcfg

open IcpcVerify.Python
open IcpcVerify.Solutions
open IcpcVerify.FallibleRun

def problemConfigError (message : PyStr) : PyError :=
  ⟨.problemConfig, message⟩

/-- An entry of `output_validators/`. -/
structure DirEntry where
  name : PyStr
  isDir : Bool

/-- What is read of the problem directory. -/
structure ProblemFiles where
  /-- `problem.yaml`, if it is a file; an inner `error` is the text of a `YAMLError`. -/
  problemYaml : Option (PyM (Except PyStr Yaml))
  /-- Whether `output_validator` is a directory. -/
  outputValidator : Bool
  /-- The entries of `output_validators`, if it is a directory. -/
  outputValidators : Option (List DirEntry)

/-- `ProblemConfig` as it is loaded, when its times need not be finite. -/
structure LoadedConfig where
  name : PyStr
  timeLimit : PyFloat
  memoryMib : ℤ
  timeMultiplier : PyFloat
  validation : ValidationMode
  validatorFlags : List PyStr
  validatorDir : Option Path
  formatVersion : PyStr
  deriving DecidableEq

/-- The configuration with the given times. -/
def LoadedConfig.withTimes (loaded : LoadedConfig) (timeLimit timeMultiplier : ℚ) :
    ProblemConfig where
  name := loaded.name
  timeLimit := timeLimit
  memoryMib := loaded.memoryMib
  timeMultiplier := timeMultiplier
  validation := loaded.validation
  validatorFlags := loaded.validatorFlags
  validatorDir := loaded.validatorDir
  formatVersion := loaded.formatVersion

/-- `_find_validator_dir`. -/
def findValidatorDir (problemDir : Path) (files : ProblemFiles) : PyM (Option Path) :=
  if files.outputValidator then return some (problemDir ++ [py "output_validator"])
  else
    match files.outputValidators with
    | none => return none
    | some entries =>
        let candidates := ((entries.filter DirEntry.isDir).map DirEntry.name).insertionSort
          fun first second => first ≤ second
        match candidates with
        | [] => return none
        | [name] => return some (problemDir ++ [py "output_validators", name])
        | names =>
            throw (problemConfigError
              (py "output_validators/ 아래 디렉토리는 1개여야 합니다. 찾은 것: " ++
                List.intercalate (py ", ") names))

/-- The document, once it is read and parsed. -/
def readDocument (problemDir : Path) (files : ProblemFiles) : PyM Yaml :=
  match files.problemYaml with
  | none =>
      throw (problemConfigError
        (py "problem.yaml 이 없습니다: " ++ strPath (problemDir ++ [py "problem.yaml"])))
  | some document => do
      match ← document with
      | .error exc =>
          throw (problemConfigError (py "problem.yaml 파싱에 실패했습니다: " ++ exc))
      | .ok raw => return raw

/-- The mapping that a document consists of; an empty document is an empty one. -/
def topLevel : Yaml → PyM Mapping
  | .null => return []
  | .dict raw => return raw
  | _ => throw (problemConfigError (py "problem.yaml 의 최상위는 mapping 이어야 합니다"))

/-- `value or {}`. -/
def orEmpty : Option Yaml → Yaml
  | none => .dict []
  | some value => if value.truthy then value else .dict []

/-- `limits`. -/
def limitsOf (raw : Mapping) : PyM Mapping :=
  match orEmpty (raw.get? (py "limits")) with
  | .dict limits => return limits
  | _ => throw (problemConfigError (py "limits 는 mapping 이어야 합니다"))

/-- `ValidationMode(text)`. -/
def validationModeOf (text : PyStr) : Option ValidationMode :=
  if text = py "default" then some .default
  else if text = py "custom" then some .custom
  else if text = py "custom interactive" then some .customInteractive
  else none

section Load

variable (rt : Runtime)

/-- A new-format problem must be of the type `pass-fail`. -/
def checkType (raw : Mapping) (isNew : Bool) : PyM Unit := do
  let text ← ((raw.get? (py "type")).getD (.str (py "pass-fail"))).toStr rt
  let problemType := strip text
  if isNew ∧ problemType ≠ py "pass-fail" then
    throw (problemConfigError
      (py "type 이 " ++ rt.repr problemType ++ py " 입니다. pass-fail 문제만 지원합니다"))
  else return ()

/-- The value of `validation`, or what the directories suggest if it is null. -/
def validationOf (raw : Mapping) (validatorDir : Option Path) : PyM ValidationMode :=
  match (raw.get? (py "validation")).getD .null with
  | .null => return if validatorDir.isSome then .custom else .default
  | value => do
      let validation ← value.toStr rt
      let text := List.intercalate (py " ") (splitWhitespace validation)
      match validationModeOf text with
      | some mode => return mode
      | none =>
          throw (problemConfigError
            (py "알 수 없는 validation 값입니다: " ++ rt.repr text))

/-- The mode, which asks for a validator directory unless it is the default. -/
def chooseValidation (raw : Mapping) (validatorDir : Option Path) : PyM ValidationMode := do
  let mode ← validationOf rt raw validatorDir
  if mode ≠ .default ∧ validatorDir = none then
    throw (problemConfigError
      (py "validation 이 custom 인데 output_validator(s)/ 디렉토리를 찾지 못했습니다"))
  else return mode

/-- `flags_source`: the legacy key, and `output_validator.args` where it is null. -/
def flagsSource (raw : Mapping) : Yaml :=
  match (raw.get? (py "validator_flags")).getD .null with
  | .null =>
      match orEmpty (raw.get? (py "output_validator")) with
      | .dict outputValidator => (Mapping.get? outputValidator (py "args")).getD .null
      | _ => .null
  | value => value

/-- The tuple of flags. -/
def flagsOf : Yaml → PyM (List PyStr)
  | .null => return []
  | .str text => Shlex.split text
  | .list items => items.mapM (Yaml.toStr rt)
  | _ => throw (problemConfigError (py "validator_flags 는 문자열이나 리스트여야 합니다"))

/-- `load_problem_config`. -/
def loadProblemConfig (problemDir : Path) (files : ProblemFiles)
    (defaultTimeLimit : PyFloat) (defaultMemoryMib : ℤ) : PyM LoadedConfig := do
  let document ← readDocument problemDir files
  let raw ← topLevel document
  let isNew := (raw.get? (py "problem_format_version")).isSome
  checkType rt raw isNew
  let limits ← limitsOf raw
  let timeLimit ← ((limits.get? (py "time_limit")).getD (.float defaultTimeLimit)).toFloat rt
  let memoryMib ← ((limits.get? (py "memory")).getD (.int defaultMemoryMib)).toInt rt
  let timeMultiplier ← ((limits.get? (py "time_multiplier")).getD (.int 5)).toFloat rt
  let validatorDir ← findValidatorDir problemDir files
  let validation ← chooseValidation rt raw validatorDir
  let validatorFlags ← flagsOf rt (flagsSource raw)
  let name ← ((raw.get? (py "name")).getD (.str (problemDir.getLastD []))).toStr rt
  return {
    name, timeLimit, memoryMib, timeMultiplier, validation, validatorFlags, validatorDir
    formatVersion := if isNew then py "2023-07" else py "legacy" }

end Load

/-! ## What a loaded configuration promises -/

variable {rt : Runtime}

theorem chooseValidation_backed {raw : Mapping} {validatorDir : Option Path}
    {mode : ValidationMode} (hchosen : chooseValidation rt raw validatorDir = .ok mode) :
    mode = .default ∨ validatorDir.isSome = true := by
  obtain ⟨found, -, hchecked⟩ := bind_eq_ok_iff.1 hchosen
  split_ifs at hchecked with hmissing
  rw [← Except.ok.inj hchecked]
  rw [not_and_or, not_not, ← ne_eq, Option.ne_none_iff_isSome] at hmissing
  exact hmissing

/-- A mode other than the default comes with the directory of its validator. -/
theorem loadProblemConfig_backed {problemDir : Path} {files : ProblemFiles}
    {defaultTimeLimit : PyFloat} {defaultMemoryMib : ℤ} {loaded : LoadedConfig}
    (hloaded : loadProblemConfig rt problemDir files defaultTimeLimit defaultMemoryMib =
      .ok loaded) :
    loaded.validation = .default ∨ loaded.validatorDir.isSome = true := by
  simp only [loadProblemConfig, bind_eq_ok_iff] at hloaded
  obtain ⟨document, -, raw, -, -, -, limits, -, timeLimit, -, memoryMib, -, timeMultiplier, -,
    validatorDir, -, validation, hchosen, validatorFlags, -, name, -, hloaded⟩ := hloaded
  rw [← Except.ok.inj hloaded]
  exact chooseValidation_backed hchosen

end IcpcVerify.Problemcfg
