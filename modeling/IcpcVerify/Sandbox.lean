import IcpcVerify.Package

/-!
# Sandbox calls

`run_sandbox` starts one docker container.  What the container does is not part
of the program; the model has the request the program makes and the result it
gets back.  Compilation and the validator build are seen through their results
as well.
-/

namespace IcpcVerify.Sandbox

open IcpcVerify.Python

/-- The directories below `io_dir` that testcases reuse. -/
inductive IoDir where
  | input
  | out
  | idata
  | vdata
  | feedback
  deriving DecidableEq

/-- Where a bind mount comes from on the host. -/
inductive BindSource where
  | work
  | validator (dir : Path)
  | io (dir : IoDir)
  deriving DecidableEq

inductive BindMode where
  | ro
  | rw
  deriving DecidableEq

structure Bind where
  source : BindSource
  target : PyStr
  mode : BindMode
  deriving DecidableEq

structure SandboxSpec where
  image : PyStr
  cpuset : ℤ
  memoryMib : ℤ
  binds : List Bind
  argv : List PyStr
  timeout : ℚ
  user : Option PyStr
  workdir : Option PyStr
  deriving DecidableEq

structure SandboxResult where
  exitCode : ℤ
  oomKilled : Bool
  stdout : Bytes
  stderr : Bytes
  timedOut : Bool
  deriving DecidableEq

structure CompileOptions where
  image : PyStr
  cpuset : ℤ
  flags : List (Language × PyStr)

structure CompileOutcome where
  ok : Bool
  log : PyStr
  runArgv : List PyStr

structure BuiltValidator where
  dir : Path
  argv : List PyStr
  log : PyStr

end IcpcVerify.Sandbox
