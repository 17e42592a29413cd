import IcpcVerify.Python.Number

/-!
# Run records

The two runners inside the judge image end by writing a `run.json`.  These are
its contents, and the part both runners share: how a wait status and the
resource usage of a reaped child become record fields.
-/

namespace IcpcVerify.Runner

open IcpcVerify.Python

/-- Status returned by `wait4` or `waitpid` for a terminated child. -/
inductive WaitStatus where
  | exited (code : Fin 256)
  | signaled (signal : Fin 128)
  | other
  deriving DecidableEq

namespace WaitStatus

/-- `os.waitstatus_to_exitcode(status) if os.WIFEXITED(status) else -1`. -/
def exitCode : WaitStatus → ℤ
  | exited code => code.val
  | _ => -1

/-- `os.WTERMSIG(status) if os.WIFSIGNALED(status) else 0`. -/
def signal : WaitStatus → ℤ
  | signaled signal => signal.val
  | _ => 0

/-- The status left by `SIGKILL`. -/
def killed : WaitStatus :=
  signaled 9

theorem eq_exited_of_exitCode {status : WaitStatus} {code : Fin 256}
    (hexit : status.exitCode = code.val) : status = exited code := by
  cases status with
  | exited other =>
      have hval : other.val = code.val := by simpa [exitCode] using hexit
      rw [Fin.ext hval]
  | signaled => simp [exitCode] at hexit
  | other => simp [exitCode] at hexit

end WaitStatus

/-- The fields of `rusage` the runners read. -/
structure Usage where
  utime : ℚ
  stime : ℚ
  maxrss : ℤ
  deriving DecidableEq

namespace Usage

def cpu (usage : Usage) : ℚ :=
  roundTo 6 (usage.utime + usage.stime)

end Usage

/-- `run.json` of `runner.py`. -/
structure RunRecord where
  wall : ℚ
  cpu : ℚ
  maxRssKib : ℤ
  exitCode : ℤ
  signal : ℤ
  timedOut : Bool
  outputLimitExceeded : Bool
  deriving DecidableEq

/-- The `solution` object in the `run.json` of `interactive_runner.py`. -/
structure SolutionRecord where
  wall : ℚ
  cpu : ℚ
  maxRssKib : ℤ
  exitCode : ℤ
  signal : ℤ
  timedOut : Bool
  deriving DecidableEq

/-- `run.json` of `interactive_runner.py`. -/
structure InteractiveRecord where
  solution : SolutionRecord
  validatorExit : ℤ
  validatorSignal : ℤ
  pairTimedOut : Bool
  deriving DecidableEq

end IcpcVerify.Runner
