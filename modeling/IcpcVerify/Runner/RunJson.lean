import IcpcVerify.Python.JsonFile
import IcpcVerify.Runner.InteractiveRuns
import IcpcVerify.Runner.MainVerdict

/-!
# The file between runner and judge

Both runners end with a `json.dump` of their record into a fresh file, and the judge
reads the fields back by their names.  What a finished run measured arrives unchanged.
-/

namespace IcpcVerify.Runner

open IcpcVerify.Python
open IcpcVerify.Transition

/-! ## Writing -/

/-- `result` of `runner.py`. -/
def runJson (record : RunRecord) : JsonValue :=
  .dict
    [(py "wall", .float (.finite record.wall)),
      (py "cpu", .float (.finite record.cpu)),
      (py "max_rss_kib", .int record.maxRssKib),
      (py "exit_code", .int record.exitCode),
      (py "signal", .int record.signal),
      (py "timed_out", .bool record.timedOut),
      (py "output_limit_exceeded", .bool record.outputLimitExceeded)]

/-- The `solution` object of `interactive_runner.py`. -/
def solutionJson (record : SolutionRecord) : JsonValue :=
  .dict
    [(py "wall", .float (.finite record.wall)),
      (py "cpu", .float (.finite record.cpu)),
      (py "max_rss_kib", .int record.maxRssKib),
      (py "exit_code", .int record.exitCode),
      (py "signal", .int record.signal),
      (py "timed_out", .bool record.timedOut)]

/-- `result` of `interactive_runner.py`. -/
def interactiveJson (record : InteractiveRecord) : JsonValue :=
  .dict
    [(py "solution", solutionJson record.solution),
      (py "validator_exit", .int record.validatorExit),
      (py "validator_signal", .int record.validatorSignal),
      (py "pair_timed_out", .bool record.pairTimedOut)]

/-- `json.dump` into a file opened with `encoding="utf-8"`; `none` is an exception. -/
def dumpFile (rt : Runtime) (value : JsonValue) : Option Bytes :=
  encodeUtf8 (value.dumps rt)

/-! ## Reading -/

/-- The fields `_run_one_testcase` reads; the judge does not look at their types. -/
def runOfJson (raw : JsonValue) : Option RunRecord := do
  let wall ← (raw.item (py "wall")).bind JsonValue.asFloat
  let cpu ← (raw.item (py "cpu")).bind JsonValue.asFloat
  let maxRssKib ← (raw.item (py "max_rss_kib")).bind JsonValue.asInt
  let exitCode ← (raw.item (py "exit_code")).bind JsonValue.asInt
  let signal ← (raw.item (py "signal")).bind JsonValue.asInt
  let timedOut ← (raw.item (py "timed_out")).bind JsonValue.asBool
  let outputLimitExceeded ← (raw.item (py "output_limit_exceeded")).bind JsonValue.asBool
  return ⟨wall, cpu, maxRssKib, exitCode, signal, timedOut, outputLimitExceeded⟩

def solutionOfJson (raw : JsonValue) : Option SolutionRecord := do
  let wall ← (raw.item (py "wall")).bind JsonValue.asFloat
  let cpu ← (raw.item (py "cpu")).bind JsonValue.asFloat
  let maxRssKib ← (raw.item (py "max_rss_kib")).bind JsonValue.asInt
  let exitCode ← (raw.item (py "exit_code")).bind JsonValue.asInt
  let signal ← (raw.item (py "signal")).bind JsonValue.asInt
  let timedOut ← (raw.item (py "timed_out")).bind JsonValue.asBool
  return ⟨wall, cpu, maxRssKib, exitCode, signal, timedOut⟩

/-- The fields `judge_solution` and `_classify_interactive` read. -/
def interactiveOfJson (raw : JsonValue) : Option InteractiveRecord := do
  let solution ← (raw.item (py "solution")).bind solutionOfJson
  let validatorExit ← (raw.item (py "validator_exit")).bind JsonValue.asInt
  let validatorSignal ← (raw.item (py "validator_signal")).bind JsonValue.asInt
  let pairTimedOut ← (raw.item (py "pair_timed_out")).bind JsonValue.asBool
  return ⟨solution, validatorExit, validatorSignal, pairTimedOut⟩

def loadRun (rt : Runtime) (content : Bytes) : Option RunRecord :=
  (loadsFile rt content).bind runOfJson

def loadInteractive (rt : Runtime) (content : Bytes) : Option InteractiveRecord :=
  (loadsFile rt content).bind interactiveOfJson

/-! ## Back again -/

variable {rt : Runtime}

theorem smallInt_of_lt {n : ℤ} (hn : n.natAbs < 1000) : SmallInt n := by
  have hdigits : 10 ^ 3 ≤ 10 ^ Yaml.intMaxStrDigits := Nat.pow_le_pow_right (by decide) (by decide)
  exact hn.trans_le hdigits

theorem WaitStatus.smallInt_exitCode (status : WaitStatus) : SmallInt status.exitCode := by
  cases status with
  | exited code => exact smallInt_of_lt (by rw [exitCode]; omega)
  | signaled number => exact @smallInt_of_lt (-1) (by decide)
  | other => exact @smallInt_of_lt (-1) (by decide)

theorem WaitStatus.smallInt_signal (status : WaitStatus) : SmallInt status.signal := by
  cases status with
  | exited code => exact @smallInt_of_lt 0 (by decide)
  | signaled number => exact smallInt_of_lt (by rw [signal]; omega)
  | other => exact @smallInt_of_lt 0 (by decide)

/-- The measured numbers come back from their texts. -/
structure MeasuresReadBack (rt : Runtime) (wall cpu : ℚ) (maxRssKib : ℤ) : Prop where
  wall : rt.ReadsBack wall
  cpu : rt.ReadsBack cpu
  maxRssKib : SmallInt maxRssKib

theorem runOfJson_reread (record : RunRecord) :
    runOfJson (runJson record).reread = some record := rfl

theorem interactiveOfJson_reread (record : InteractiveRecord) :
    interactiveOfJson (interactiveJson record).reread = some record := rfl

/-- A record with readable numbers comes back from the file it is dumped to. -/
theorem loadRun_dumpFile {record : RunRecord}
    (hmeasures : MeasuresReadBack rt record.wall record.cpu record.maxRssKib)
    (hexit : SmallInt record.exitCode) (hsignal : SmallInt record.signal) :
    ∃ content, dumpFile rt (runJson record) = some content ∧
      loadRun rt content = some record := by
  have hprintable : (runJson record).Printable rt :=
    ⟨hmeasures.wall, hmeasures.cpu, hmeasures.maxRssKib, hexit, hsignal, trivial, trivial, trivial⟩
  obtain ⟨content, hdump, hload⟩ := loadsFile_dumps hprintable
  refine ⟨content, hdump, ?_⟩
  rw [loadRun, hload]
  exact runOfJson_reread record

theorem loadInteractive_dumpFile {record : InteractiveRecord}
    (hmeasures : MeasuresReadBack rt record.solution.wall record.solution.cpu
      record.solution.maxRssKib)
    (hexit : SmallInt record.solution.exitCode) (hsignal : SmallInt record.solution.signal)
    (hvalidatorExit : SmallInt record.validatorExit)
    (hvalidatorSignal : SmallInt record.validatorSignal) :
    ∃ content, dumpFile rt (interactiveJson record) = some content ∧
      loadInteractive rt content = some record := by
  have hsolution : (solutionJson record.solution).Printable rt :=
    ⟨hmeasures.wall, hmeasures.cpu, hmeasures.maxRssKib, hexit, hsignal, trivial, trivial⟩
  have hprintable : (interactiveJson record).Printable rt :=
    ⟨hsolution, hvalidatorExit, hvalidatorSignal, trivial, trivial⟩
  obtain ⟨content, hdump, hload⟩ := loadsFile_dumps hprintable
  refine ⟨content, hdump, ?_⟩
  rw [loadInteractive, hload]
  exact interactiveOfJson_reread record

/-- What a finished run of `runner.py` dumps is what the judge reads, in whatever order
its threads and the solution moved. -/
theorem Main.loadRun_of_done {args : Main.Args} {started : ℚ} {s : Main.State}
    {record : RunRecord} (hreach : Reachable (Main.Step args) (Main.start started) s)
    (hdone : s.pc = .done record)
    (hmeasures : MeasuresReadBack rt record.wall record.cpu record.maxRssKib) :
    ∃ content, dumpFile rt (runJson record) = some content ∧
      loadRun rt content = some record := by
  obtain ⟨status, usage, wall, -, hrecord⟩ := Main.done_cases hreach hdone
  have hexit : record.exitCode = status.exitCode := by
    rw [hrecord]
    rfl
  have hsignal : record.signal = status.signal := by
    rw [hrecord]
    rfl
  apply loadRun_dumpFile hmeasures
  · rw [hexit]
    exact status.smallInt_exitCode
  · rw [hsignal]
    exact status.smallInt_signal

theorem InteractiveMain.smallInt_makeRecord {s : InteractiveMain.State}
    {record : InteractiveRecord}
    (hrecord : InteractiveMain.makeRecord s = some record) :
    SmallInt record.solution.exitCode ∧ SmallInt record.solution.signal ∧
      SmallInt record.validatorExit ∧ SmallInt record.validatorSignal := by
  rw [InteractiveMain.makeRecord] at hrecord
  split at hrecord
  · next solStatus solUsage wall valStatus _ _ _ _ =>
    obtain rfl := Option.some.inj hrecord
    exact ⟨solStatus.smallInt_exitCode, solStatus.smallInt_signal, valStatus.smallInt_exitCode,
      valStatus.smallInt_signal⟩
  · cases hrecord

/-- The same for `interactive_runner.py`, on every schedule: behind the loop there is a
record, and it arrives unchanged. -/
theorem InteractiveMain.loadInteractive_of_left {args : InteractiveMain.Args}
    {schedule : InteractiveMain.Schedule} {n : ℕ} {record : InteractiveRecord}
    (hrecord : InteractiveMain.makeRecord
      (InteractiveMain.afterLoop schedule (InteractiveMain.stateBefore args schedule n)) =
        some record)
    (hmeasures : MeasuresReadBack rt record.solution.wall record.solution.cpu
      record.solution.maxRssKib) :
    ∃ content, dumpFile rt (interactiveJson record) = some content ∧
      loadInteractive rt content = some record := by
  obtain ⟨hexit, hsignal, hvalidatorExit, hvalidatorSignal⟩ :=
    InteractiveMain.smallInt_makeRecord hrecord
  exact loadInteractive_dumpFile hmeasures hexit hsignal hvalidatorExit hvalidatorSignal

end IcpcVerify.Runner
