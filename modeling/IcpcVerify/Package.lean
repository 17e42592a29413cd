import IcpcVerify.Python.Runtime

/-!
# Problem packages

Records the judge works on: the configuration read from `problem.yaml`, a
solution found under `solutions/`, and a testcase found under `data/`.
-/

namespace IcpcVerify

open IcpcVerify.Python

/-- Components of an absolute path. -/
abbrev Path := List PyStr

inductive Language where
  | cpp
  | c
  | java
  | python
  deriving DecidableEq

namespace Language

/-- The value of the `StrEnum` member. -/
def value : Language → PyStr
  | cpp => py "cpp"
  | c => py "c"
  | java => py "java"
  | python => py "python"

end Language

inductive ValidationMode where
  | default
  | custom
  | customInteractive
  deriving DecidableEq

structure ProblemConfig where
  name : PyStr
  timeLimit : ℚ
  memoryMib : ℤ
  timeMultiplier : ℚ
  validation : ValidationMode
  validatorFlags : List PyStr
  validatorDir : Option Path
  formatVersion : PyStr

structure Solution where
  name : PyStr
  relPath : PyStr
  path : Path
  expected : PyStr
  language : Option Language
  sources : List Path
  entry : PyStr
  error : Option PyStr
  deriving DecidableEq

/-- Truth of an optional text in a condition: it is there and not empty. -/
def Given (text : Option PyStr) : Prop :=
  ∃ message ∈ text, message ≠ []

/-- A solution that `compile_solution` can handle: it has a language, or an error that
stops it. -/
def Solution.Compilable (solution : Solution) : Prop :=
  Given solution.error ∨ solution.language.isSome = true

structure TestCase where
  id : PyStr
  group : PyStr
  inputPath : Path
  answerPath : Path

end IcpcVerify
