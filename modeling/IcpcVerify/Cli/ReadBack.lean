import IcpcVerify.Cli.Isolation
import IcpcVerify.Cli.ResultFile
import IcpcVerify.Judge.AcceptedRuns
import IcpcVerify.Python.JsonIndented

/-!
# The result file is read back

Who reads a result file that was written completely gets the result back, field by field,
whatever the texts in it; and the exit code is what the file says of the expectation.  A file
that a failed write has left empty or cut short is not one of them: the exit code is then that
of a failure.
-/

namespace IcpcVerify.Cli

open IcpcVerify.Python
open IcpcVerify.Results
open IcpcVerify.Judge
open IcpcVerify.FallibleRun

/-! ## Values -/

/-- `dataclasses.asdict` of a `TestCaseResult`, as a value. -/
def testCaseValue (entry : TestCaseResult) : JsonValue :=
  .dict [
    (py "id", .str entry.id),
    (py "group", .str entry.group),
    (py "verdict", .str entry.verdict.name),
    (py "wall", .float (.finite entry.wall)),
    (py "cpu", .float (.finite entry.cpu)),
    (py "mem_kib", .int entry.memKib),
    (py "exit_code", .int entry.exitCode),
    (py "message", .str entry.message)]

/-- The payload of `run_judge`, as a value. -/
def payloadValue (payload : Payload) : JsonValue :=
  .dict [
    (py "name", .str payload.result.name),
    (py "rel_path", .str payload.result.relPath),
    (py "expected", .str payload.result.expected),
    (py "language", .str payload.result.language),
    (py "verdict", .str payload.result.verdict.name),
    (py "testcases", .list (payload.result.testcases.map testCaseValue)),
    (py "compile_log", .str payload.result.compileLog),
    (py "machine_factor", .float (.finite payload.result.machineFactor)),
    (py "cpu_isolated", .bool payload.result.cpuIsolated),
    (py "warnings", .list (payload.result.warnings.map .str)),
    (py "expectation_met", .bool payload.expectationMet),
    (py "time_limit", .float (.finite payload.timeLimit)),
    (py "hard_kill", .float (.finite payload.hardKill))]

section Numbers

variable (rt : Runtime)

/-- The numbers of an entry come back from their texts. -/
structure EntryReadsBack (entry : TestCaseResult) : Prop where
  wall : rt.ReadsBack entry.wall
  cpu : rt.ReadsBack entry.cpu
  memKib : SmallInt entry.memKib
  exitCode : SmallInt entry.exitCode

/-- The numbers of a payload come back from their texts. -/
structure NumbersReadBack (payload : Payload) : Prop where
  testcases : ∀ entry ∈ payload.result.testcases, EntryReadsBack rt entry
  machineFactor : rt.ReadsBack payload.result.machineFactor
  timeLimit : rt.ReadsBack payload.timeLimit
  hardKill : rt.ReadsBack payload.hardKill

variable {rt}

theorem denotes_float {x : ℚ} (hx : rt.ReadsBack x) :
    Denotes rt (.number (rt.strFloat x)) (.float (.finite x)) :=
  .number (renders_float hx) (printableText_of_scanNumber hx.1)

theorem denotes_int {n : ℤ} (hn : SmallInt n) : Denotes rt (.number (formatInt n)) (.int n) :=
  .number (renders_int hn) (printableText_of_scanNumber (scanNumber_formatInt n))

theorem denotes_testCaseJson {entry : TestCaseResult} (hentry : EntryReadsBack rt entry) :
    Denotes rt (testCaseJson rt entry) (testCaseValue entry) := by
  apply Denotes.object_of_nodup
  · simp only [List.map_cons, List.map_nil]
    decide +kernel
  · exact .cons (.str entry.id) <| .cons (.str entry.group) <|
      .cons (.str entry.verdict.name) <| .cons (denotes_float hentry.wall) <|
      .cons (denotes_float hentry.cpu) <| .cons (denotes_int hentry.memKib) <|
      .cons (denotes_int hentry.exitCode) <| .cons (.str entry.message) .nil

theorem denotes_payloadJson {payload : Payload} (hnumbers : NumbersReadBack rt payload) :
    Denotes rt (payloadJson rt payload) (payloadValue payload) := by
  have htestcases : DenotesItems rt (payload.result.testcases.map (testCaseJson rt))
      (payload.result.testcases.map testCaseValue) :=
    .map fun entry hentry => denotes_testCaseJson (hnumbers.testcases entry hentry)
  have hwarnings : DenotesItems rt (payload.result.warnings.map .str)
      (payload.result.warnings.map .str) := .map fun warning _ => .str warning
  apply Denotes.object_of_nodup
  · simp only [List.map_cons, List.map_nil]
    decide +kernel
  · exact .cons (.str payload.result.name) <| .cons (.str payload.result.relPath) <|
      .cons (.str payload.result.expected) <| .cons (.str payload.result.language) <|
      .cons (.str payload.result.verdict.name) <| .cons (.array htestcases) <|
      .cons (.str payload.result.compileLog) <|
      .cons (denotes_float hnumbers.machineFactor) <|
      .cons (.bool payload.result.cpuIsolated) <| .cons (.array hwarnings) <|
      .cons (.bool payload.expectationMet) <| .cons (denotes_float hnumbers.timeLimit) <|
      .cons (denotes_float hnumbers.hardKill) .nil

end Numbers

/-! ## The command -/

section Command

variable {rt : Runtime} {Case : Type} {args : JudgeArgs} {env : Environment Case}

/-- `write_text` raises where the text cannot be encoded. -/
def EncodesOutput (rt : Runtime) (env : Environment Case) : Prop :=
  ∀ payload, env.writeOutput payload = .ok () → (encodePayload rt payload).isSome = true

/-- A result file was written completely, and the exit code is that of its flag unless
something raised afterwards. -/
theorem recorded_of_written {payload : Payload} (hwritten : (main rt args env).2 = some payload) :
    env.writeOutput payload = .ok () ∧
      ((main rt args env).1 = exitConfig ∨
        (main rt args env).1 = if payload.expectationMet then exitOk else exitMismatch) := by
  obtain ⟨judged, hjudged, hpayload⟩ := judged_of_written hwritten
  by_cases hrecorded : Recorded env payload
  · exact ⟨hrecorded.2, (main_of_recorded hjudged hpayload hrecorded).2⟩
  · rw [main_of_not_recorded hjudged hpayload hrecorded] at hwritten
    cases hwritten

/-- Without a complete result file the command ends as on an infrastructure failure. -/
theorem exitConfig_of_not_written (hwritten : (main rt args env).2 = none) :
    (main rt args env).1 = exitConfig := by
  cases hjudged : judgeSelected rt args env with
  | error exc =>
      simp only [main, runJudge, hjudged, lift_error_bind]
      rfl
  | ok judged =>
      cases hpayload : payloadOf rt args judged with
      | error exc =>
          cases hremove : env.removeWorkDir <;>
            simp only [main, runJudge, hjudged, hpayload, hremove, lift_ok_bind,
              lift_error_bind] <;>
            rfl
      | ok payload =>
          by_cases hrecorded : Recorded env payload
          · rw [(main_of_recorded hjudged hpayload hrecorded).1] at hwritten
            cases hwritten
          · rw [main_of_not_recorded hjudged hpayload hrecorded]

/-- Whatever is judged and however the command ends: a result file that was written completely
gives back every field of the result, and an exit code other than that of a failure is what
this file says of the expectation. -/
theorem main_reads_back (hencodes : EncodesOutput rt env)
    (hnumbers : ∀ payload ∈ (main rt args env).2, NumbersReadBack rt payload) :
    (∀ payload ∈ (main rt args env).2, ∃ content, encodePayload rt payload = some content ∧
      loadsFile rt content = some (payloadValue payload)) ∧
    ((main rt args env).1 ≠ exitConfig → ∃ payload ∈ (main rt args env).2,
      (payloadValue payload).item (py "expectation_met") =
        some (.bool ((main rt args env).1 = exitOk))) := by
  constructor
  · intro payload hwritten
    obtain ⟨content, hcontent⟩ := Option.isSome_iff_exists.1
      (hencodes payload (recorded_of_written hwritten).1)
    exact ⟨content, hcontent,
      Json.loadsFile_dumps (denotes_payloadJson (hnumbers payload hwritten)) hcontent⟩
  · intro hcode
    cases hwritten : (main rt args env).2 with
    | none => exact absurd (exitConfig_of_not_written hwritten) hcode
    | some payload =>
        refine ⟨payload, rfl, ?_⟩
        have hflag := (recorded_of_written hwritten).2.resolve_left hcode
        have hitem : (payloadValue payload).item (py "expectation_met") =
            some (.bool payload.expectationMet) := rfl
        rw [hitem, hflag]
        cases payload.expectationMet <;> rfl

end Command

/-- The environment above, with texts that cannot be encoded refused. -/
def encodingEnvironment : Environment (TestCase × CaseOutcome) :=
  { crashEnvironment with
    writeOutput := fun payload =>
      if (encodePayload Runtime.ascii payload).isSome then .ok ()
      else .error ⟨.value, py "surrogates not allowed"⟩ }

theorem encodingEnvironment_encodes : EncodesOutput Runtime.ascii encodingEnvironment := by
  intro payload hwritten
  by_contra hnot
  simp only [encodingEnvironment, if_neg hnot] at hwritten
  cases hwritten

theorem readsBack_small {x : ℚ} (hx : x = 0 ∨ x = 1 ∨ x = 3) : Runtime.ascii.ReadsBack x := by
  rcases hx with rfl | rfl | rfl
  · exact readsBack_zero
  · exact ⟨by decide +kernel, by decide +kernel⟩
  · exact ⟨by decide +kernel, by decide +kernel⟩

theorem encodingEnvironment_numbers :
    ∀ payload ∈ (main Runtime.ascii (crashArgs .exact) encodingEnvironment).2,
      NumbersReadBack Runtime.ascii payload := by
  have hnumbers : (main Runtime.ascii (crashArgs .exact) encodingEnvironment).2.all
      (fun payload => payload.result.machineFactor = 1 ∧ payload.timeLimit = 1 ∧
        payload.hardKill = 3 ∧ payload.result.testcases.all fun entry =>
          entry.wall = 0 ∧ entry.cpu = 0 ∧ entry.memKib = 0 ∧ entry.exitCode = 0) = true := by
    decide +kernel
  intro payload hwritten
  have hall := (Option.all_eq_true _ _).1 hnumbers payload hwritten
  simp only [decide_eq_true_eq, List.all_eq_true] at hall
  obtain ⟨hfactor, hlimit, hkill, hentries⟩ := hall
  refine ⟨fun entry hentry => ?_, readsBack_small (by simp [hfactor]),
    readsBack_small (by simp [hlimit]), readsBack_small (by simp [hkill])⟩
  obtain ⟨hwall, hcpu, hmem, hexit⟩ := hentries entry hentry
  exact ⟨readsBack_small (by simp [hwall]), readsBack_small (by simp [hcpu]),
    Runner.smallInt_of_lt (by simp [hmem]), Runner.smallInt_of_lt (by simp [hexit])⟩

theorem main_reads_back_crash :
    (main Runtime.ascii (crashArgs .exact) encodingEnvironment).1 = exitMismatch ∧
      ∃ payload ∈ (main Runtime.ascii (crashArgs .exact) encodingEnvironment).2,
        (payloadValue payload).item (py "expectation_met") = some (.bool false) ∧
        ∃ content, encodePayload Runtime.ascii payload = some content ∧
          loadsFile Runtime.ascii content = some (payloadValue payload) := by
  have hcode : (main Runtime.ascii (crashArgs .exact) encodingEnvironment).1 = exitMismatch := by
    decide +kernel
  obtain ⟨hread, hflag⟩ :=
    main_reads_back encodingEnvironment_encodes encodingEnvironment_numbers
  rw [hcode] at hflag
  obtain ⟨payload, hwritten, hmet⟩ := hflag (by decide)
  exact ⟨hcode, payload, hwritten, hmet, hread payload hwritten⟩

end IcpcVerify.Cli
