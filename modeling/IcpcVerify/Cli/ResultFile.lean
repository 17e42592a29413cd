import IcpcVerify.Cli
import IcpcVerify.Judge.Assertions
import IcpcVerify.Judge.SurrogateFree
import IcpcVerify.Python.Json

/-!
# The result file

The result is written as JSON in UTF-8.  The encoding fails only on surrogates, and no
run of `judge_solution` that returns has put one into its result.
-/

namespace IcpcVerify.Cli

open IcpcVerify.Python
open IcpcVerify.Solutions
open IcpcVerify.Timelimits
open IcpcVerify.Results
open IcpcVerify.Runner
open IcpcVerify.Sandbox
open IcpcVerify.Judge
open IcpcVerify.TracedRun
open IcpcVerify.FallibleRun

/-! ## Writing -/

section Writing

variable (rt : Runtime)

/-- `dataclasses.asdict` of a `TestCaseResult`. -/
def testCaseJson (entry : TestCaseResult) : Json :=
  .object [
    (py "id", .str entry.id),
    (py "group", .str entry.group),
    (py "verdict", .str entry.verdict.name),
    (py "wall", .number (rt.strFloat entry.wall)),
    (py "cpu", .number (rt.strFloat entry.cpu)),
    (py "mem_kib", .number (formatInt entry.memKib)),
    (py "exit_code", .number (formatInt entry.exitCode)),
    (py "message", .str entry.message)]

/-- `dataclasses.asdict` of the result, with the three entries that `run_judge` adds. -/
def payloadJson (payload : Payload) : Json :=
  .object [
    (py "name", .str payload.result.name),
    (py "rel_path", .str payload.result.relPath),
    (py "expected", .str payload.result.expected),
    (py "language", .str payload.result.language),
    (py "verdict", .str payload.result.verdict.name),
    (py "testcases", .array (payload.result.testcases.map (testCaseJson rt))),
    (py "compile_log", .str payload.result.compileLog),
    (py "machine_factor", .number (rt.strFloat payload.result.machineFactor)),
    (py "cpu_isolated", .bool payload.result.cpuIsolated),
    (py "warnings", .array (payload.result.warnings.map .str)),
    (py "expectation_met", .bool payload.expectationMet),
    (py "time_limit", .number (rt.strFloat payload.timeLimit)),
    (py "hard_kill", .number (rt.strFloat payload.hardKill))]

/-- `args.output.write_text(json.dumps(…), encoding="utf-8")`; `none` is
`UnicodeEncodeError`. -/
def encodePayload (payload : Payload) : Option Bytes :=
  encodeUtf8 (payloadJson rt payload).dumps

end Writing

/-! ## Written results -/

section Written

variable {rt : Runtime} (hrt : rt.EscapesSurrogates)
include hrt

theorem surrogateFree_testCaseJson {entry : TestCaseResult}
    (hentry : EntrySurrogateFree entry) :
    ∀ text ∈ (testCaseJson rt entry).texts, SurrogateFree text := by
  have htexts := hentry
  simp only [EntrySurrogateFree, entryTexts, List.forall_mem_cons] at htexts
  obtain ⟨hid, hgroup, hverdict, hmessage, -⟩ := htexts
  simp [testCaseJson, Json.texts, Json.fieldTexts, hid, hgroup, hverdict, hmessage, hrt.strFloat]

theorem surrogateFree_testCasesJson {entries : List TestCaseResult}
    (hentries : ∀ entry ∈ entries, EntrySurrogateFree entry) :
    ∀ text ∈ Json.itemTexts (entries.map (testCaseJson rt)), SurrogateFree text := by
  induction entries with
  | nil => exact nofun
  | cons entry entries ih =>
      rw [List.forall_mem_cons] at hentries
      rw [List.map_cons, Json.itemTexts, List.forall_mem_append]
      exact ⟨surrogateFree_testCaseJson hrt hentries.1, ih hentries.2⟩

omit hrt in
theorem itemTexts_str (warnings : List PyStr) :
    Json.itemTexts (warnings.map .str) = warnings := by
  induction warnings with
  | nil => rfl
  | cons warning warnings ih =>
      rw [List.map_cons, Json.itemTexts, Json.texts, ih]
      rfl

/-- The file can be encoded if the texts of the result hold no surrogates. -/
theorem encodePayload_isSome {payload : Payload}
    (htexts : ∀ text ∈ resultTexts payload.result, SurrogateFree text) :
    (encodePayload rt payload).isSome = true := by
  have hentries : ∀ entry ∈ payload.result.testcases, EntrySurrogateFree entry := by
    intro entry hentry text htext
    apply htexts
    exact List.mem_append_right _ (List.mem_flatMap.2 ⟨entry, hentry, htext⟩)
  have hcases := surrogateFree_testCasesJson hrt hentries
  rw [encodePayload, encodeUtf8_isSome_iff]
  apply Json.surrogateFree_dumpsAt
  simp only [resultTexts, List.forall_mem_append, List.forall_mem_cons] at htexts
  obtain ⟨⟨⟨hname, hrelPath, hexpected, hlanguage, hverdict, hlog, -⟩, hwarnings⟩, -⟩ := htexts
  simp only [payloadJson, Json.texts, Json.fieldTexts, itemTexts_str, List.forall_mem_append,
    List.forall_mem_cons]
  simp only [surrogateFree_py, hname, hrelPath, hexpected, hlanguage, hverdict, hlog,
    hrt.strFloat, List.not_mem_nil, false_implies, implies_true, true_and, and_true]
  exact ⟨hcases, hwarnings⟩

/-- Whatever bytes programs, validators and containers produce: what `judge_solution`
returns holds no surrogates, and the result file can be encoded. -/
theorem judgeSolution_result_encodes {surroundings : Surroundings} {removal : Removal}
    {workRoot : Path} (hnames : NamesSurrogateFree surroundings) {problemDir : Path}
    (hproblemDir : PathSurrogateFree problemDir) {children : Option (List VerdictEntry)}
    (hchildren : ∀ child ∈ children.getD [], child.NamesSurrogateFree) {filterGlob : PyStr}
    {found : List Solution} {warnings : List PyStr}
    (hdiscovered : discoverSolutions rt problemDir children filterGlob =
      .ok (found, warnings)) {solution : Solution} (hsolution : solution ∈ found)
    {config : ProblemConfig} (hdir : ∀ dir ∈ config.validatorDir, PathSurrogateFree dir)
    {testcases : List TestCase} (hcases : ∀ case ∈ testcases, TestCaseSurrogateFree case)
    (limits : TimeLimits) {options : JudgeOptions}
    (hwarnings : ∀ warning ∈ options.warnings, SurrogateFree warning) {before after : Trace}
    {result : SolutionResult}
    (hrun : runFrom (judgeSolution rt (tracedCalls rt surroundings removal workRoot) config
      solution testcases limits options) before = (.ok result, after)) :
    (∀ text ∈ resultTexts result, SurrogateFree text) ∧
      ∀ payload : Payload, payload.result = result →
        (encodePayload rt payload).isSome = true := by
  have hfree := surrogateFree_discoverSolutions hproblemDir hchildren hdiscovered solution
    hsolution
  have hgives : Gives (judgeSolution rt (tracedCalls rt surroundings removal workRoot) config
      solution testcases limits options) fun result =>
        ∀ text ∈ resultTexts result, SurrogateFree text :=
    gives_judgeSolution hrt hfree hdir hnames hcases limits hwarnings
  have htexts := (hgives.of_returned trivial hrun).1
  constructor
  · exact htexts
  · rintro payload rfl
    exact encodePayload_isSome hrt htexts

end Written

/-! ## A binary output -/

/-- A machine on which every run ends well and has printed the byte `0xff`. -/
def binaryAnswers : Answers where
  host :=
    { read := fun _ => some [0x31, 0x0A]
      sandbox := fun _ _ => .ok (⟨0, false, [], [], false⟩, fun _ =>
        put (put emptyDir (py "run.json") []) (py "stdout") [0xFF])
      loadRun := fun _ => .ok ⟨0, 0, 0, 0, 0, false, false⟩
      loadInteractive := fun _ => .error ⟨.value, []⟩
      compile := fun _ _ _ => .error osError
      build := fun _ _ _ => .error osError }
  isDir _ := .ok false
  copySources _ _ := .ok ()
  sandbox _ := .ok ⟨0, false, [], [], false⟩
  entriesBelow _ := .ok none
  copyTree _ _ := .ok ()
  makeExecutable _ := .ok ()
  isFile _ := .ok true

def binaryTestcase : TestCase :=
  ⟨py "sample/1", py "sample", [py "1.in"], [py "1.ans"]⟩

/-- How judging a solution of a default problem ends there. -/
def binaryEnding : Except PyError SolutionResult × Trace :=
  runFrom (judgeSolution Runtime.escaping
    (tracedCalls Runtime.escaping (fun _ => binaryAnswers) (fun _ _ _ => none) [py "tmp"])
    ⟨py "problem", 1, 2048, 5, .default, [], none, py "legacy"⟩ customSolution
    [binaryTestcase] ⟨1, 2, 3⟩ customOptions) idleTrace

/-- The output is decoded into a surrogate; the message of the wrong answer quotes it, and
the result file can still be encoded. -/
theorem judgeSolution_result_encodes_binary :
    ∃ result, binaryEnding.1 = .ok result ∧ result.verdict = .wrongAnswer ∧
      ¬SurrogateFree (Runtime.escaping.decodeSurrogateescape [0xFF]) ∧
      (∀ text ∈ resultTexts result, SurrogateFree text) ∧
        ∀ payload : Payload, payload.result = result →
          (encodePayload Runtime.escaping payload).isSome = true := by
  have hverdict : binaryEnding.1.map SolutionResult.verdict = .ok .wrongAnswer := by
    decide +kernel
  obtain ⟨result, hresult, hwrong⟩ := map_eq_ok_iff.1 hverdict
  have hrun : binaryEnding = (.ok result, binaryEnding.2) := Prod.ext hresult rfl
  have hdiscovered : discoverSolutions Runtime.escaping [py "problem"]
      (some [⟨py "accepted", some [⟨py "sol.py", none, .ok []⟩]⟩]) [] =
      .ok ([customSolution], []) := by decide +kernel
  have hnames : NamesSurrogateFree fun _ => binaryAnswers := by
    rintro _ _ _ ⟨⟩
  have hencodes := judgeSolution_result_encodes Runtime.escaping_escapesSurrogates hnames
    (by simp)
    (by simp [VerdictEntry.NamesSurrogateFree, UnitEntry.NamesSurrogateFree]) hdiscovered
    (List.mem_singleton_self _) (by rintro _ ⟨⟩)
    (by simp [TestCaseSurrogateFree, binaryTestcase]) ⟨1, 2, 3⟩ (by simp [customOptions]) hrun
  exact ⟨result, hresult, hwrong, by decide +kernel, hencodes⟩

end IcpcVerify.Cli
