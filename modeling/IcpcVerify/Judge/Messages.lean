import IcpcVerify.Judge.FileOutcomes
import IcpcVerify.Python.Encoding

/-!
# Messages without surrogates

The messages of a result are made of literals, numbers, decoded bytes and quoted tokens.
Decoded bytes come from `errors="replace"`; the tokens of an output, which are decoded
with `errors="surrogateescape"`, are only shown through `repr`.
-/

namespace IcpcVerify.Judge

open IcpcVerify.Python
open IcpcVerify.Timelimits
open IcpcVerify.Results
open IcpcVerify.Runner
open IcpcVerify.Sandbox
open IcpcVerify.Compare
open IcpcVerify.Validators
open IcpcVerify.StatefulRun

section Messages

variable {rt : Runtime} (hrt : rt.EscapesSurrogates)
include hrt

/-! ## Comparison -/

theorem surrogateFree_firstTokenDifference {flags : CompareFlags} {index : ℕ}
    {pairs : List (PyStr × PyStr)} {message : PyStr}
    (hdifference : firstTokenDifference rt flags index pairs = some message) :
    SurrogateFree message := by
  induction pairs generalizing index with
  | nil => cases hdifference
  | cons pair pairs ih =>
      rw [firstTokenDifference] at hdifference
      split_ifs at hdifference
      · exact ih hdifference
      · rw [← Option.some.inj hdifference]
        simp [tokenDiffers, hrt.repr]

theorem surrogateFree_compareTokens (team answer : PyStr) (flags : CompareFlags) :
    SurrogateFree (compareTokens rt team answer flags).2 := by
  rw [compareTokens]
  split
  · next message hdifference => exact surrogateFree_firstTokenDifference hrt hdifference
  · split_ifs <;> simp

theorem surrogateFree_firstCharacterDifference {index : ℕ}
    {pairs : List (CodePoint × CodePoint)} {message : PyStr}
    (hdifference : firstCharacterDifference rt index pairs = some message) :
    SurrogateFree message := by
  induction pairs generalizing index with
  | nil => cases hdifference
  | cons pair pairs ih =>
      rw [firstCharacterDifference] at hdifference
      split_ifs at hdifference
      · rw [← Option.some.inj hdifference]
        simp [hrt.repr]
      · exact ih hdifference

theorem surrogateFree_compareExact (team answer : PyStr) (flags : CompareFlags) :
    SurrogateFree (compareExact rt team answer flags).2 := by
  rw [compareExact]
  split_ifs
  · simp
  · split
    · next message hdifference => exact surrogateFree_firstCharacterDifference hrt hdifference
    · simp

theorem surrogateFree_compareOutput (team answer : Bytes) (flags : CompareFlags) :
    SurrogateFree (compareOutput rt team answer flags).2 := by
  rw [compareOutput]
  split_ifs
  · exact surrogateFree_compareExact hrt _ _ flags
  · exact surrogateFree_compareTokens hrt _ _ flags

/-! ## Classification -/

omit hrt in
theorem surrogateFree_classifyRun (m : RunMeasurement) (limits : TimeLimits)
    (compareOk : Bool) {compareMessage : PyStr} (hmessage : SurrogateFree compareMessage) :
    SurrogateFree (classifyRun m limits compareOk compareMessage).2 := by
  rw [classifyRun]
  split_ifs <;> simp [overLimitMessage, signalMessage, exitCodeMessage, hmessage]

omit hrt in
theorem surrogateFree_classifyInteractive (raw : InteractiveRecord) (limits : TimeLimits)
    (memoryMib : ℤ) : SurrogateFree (classifyInteractive raw limits memoryMib).2 := by
  rw [classifyInteractive]
  split_ifs <;> simp [overLimitMessage, signalMessage, exitCodeMessage]

theorem surrogateFree_customVerdict (result : SandboxResult) {judgemessage : PyStr}
    (hmessage : SurrogateFree judgemessage) :
    SurrogateFree (customVerdict rt result judgemessage).2 := by
  rw [customVerdict]
  split_ifs
  · simp
  · apply SurrogateFree.strip
    simp [hrt.decodeReplace]
  · exact hmessage

/-! ## What a testcase leaves behind -/

theorem surrogateFree_readJudgemessage (file : Option Bytes) :
    SurrogateFree (readJudgemessage rt file) := by
  cases file with
  | none => exact surrogateFree_nil
  | some content => exact hrt.decodeReplace _

theorem surrogateFree_readStderrTail (file : Option Bytes) :
    SurrogateFree (readStderrTail rt file) := by
  cases file with
  | none => exact surrogateFree_nil
  | some data => exact hrt.decodeReplace _

theorem surrogateFree_describeMissingRunResult (sandboxStderr : Bytes) :
    SurrogateFree (describeMissingRunResult rt sandboxStderr) := by
  have hdetail := (hrt.decodeReplace (sandboxStderr.take stderrKeepBytes)).strip
  rw [describeMissingRunResult]
  split_ifs <;> simp [hdetail]

theorem surrogateFree_missingInteractiveMessage (dockerStderr : Bytes) (oomKilled : Bool) :
    SurrogateFree (missingInteractiveMessage rt dockerStderr oomKilled) := by
  have hmissing := surrogateFree_describeMissingRunResult hrt dockerStderr
  rw [missingInteractiveMessage]
  split_ifs <;> simp [hmissing]

/-- The text of a run's report. -/
theorem surrogateFree_runReport (o : RunOutcome) : SurrogateFree (o.report rt).stderrText := by
  rw [RunOutcome.report]
  split
  · exact surrogateFree_describeMissingRunResult hrt o.dockerStderr
  · exact surrogateFree_readStderrTail hrt o.stderr

/-- The texts of an interactive report. -/
def InteractiveReport.SurrogateFree (report : InteractiveReport) : Prop :=
  Python.SurrogateFree report.missingMessage ∧ Python.SurrogateFree report.solStderrText ∧
    Python.SurrogateFree report.valStderrText

theorem surrogateFree_interactiveReport (o : InteractiveOutcome) :
    (o.report rt).SurrogateFree := by
  rw [InteractiveOutcome.report]
  split
  · exact ⟨surrogateFree_missingInteractiveMessage hrt _ _, surrogateFree_nil,
      surrogateFree_nil⟩
  · exact ⟨surrogateFree_nil, surrogateFree_readStderrTail hrt _,
      surrogateFree_readStderrTail hrt _⟩

end Messages

/-! ## Entries -/

/-- The texts of an entry. -/
def entryTexts (entry : TestCaseResult) : List PyStr :=
  [entry.id, entry.group, entry.verdict.name, entry.message]

/-- The texts of a result. -/
def resultTexts (result : SolutionResult) : List PyStr :=
  [result.name, result.relPath, result.expected, result.language, result.verdict.name,
    result.compileLog] ++ result.warnings ++ result.testcases.flatMap entryTexts

def EntrySurrogateFree (entry : TestCaseResult) : Prop :=
  ∀ text ∈ entryTexts entry, SurrogateFree text

theorem surrogateFree_verdictName (verdict : Verdict) : SurrogateFree verdict.name := by
  cases verdict <;> exact surrogateFree_py _

/-- The id and the group of a testcase come from file names. -/
def TestCaseSurrogateFree (case : TestCase) : Prop :=
  SurrogateFree case.id ∧ SurrogateFree case.group

section Entries

variable {case : TestCase} (hcase : TestCaseSurrogateFree case)
include hcase

theorem entrySurrogateFree_of_message {verdict : Verdict} {wall cpu : ℚ} {memKib exitCode : ℤ}
    {message : PyStr} (hmessage : SurrogateFree message) :
    EntrySurrogateFree ⟨case.id, case.group, verdict, wall, cpu, memKib, exitCode, message⟩ := by
  simp [EntrySurrogateFree, entryTexts, hcase.1, hcase.2, surrogateFree_verdictName, hmessage]

theorem surrogateFree_notRunResult : EntrySurrogateFree (notRunResult case) :=
  entrySurrogateFree_of_message hcase surrogateFree_nil

theorem surrogateFree_missingResult {message : PyStr} (hmessage : SurrogateFree message) :
    EntrySurrogateFree (missingResult case message) :=
  entrySurrogateFree_of_message hcase hmessage

omit hcase in
theorem surrogateFree_interactiveMessage (verdict : Verdict)
    {message judgemessage solStderrText valStderrText : PyStr}
    (hmessage : SurrogateFree message) (hjudgemessage : SurrogateFree judgemessage)
    (hsol : SurrogateFree solStderrText) (hval : SurrogateFree valStderrText) :
    SurrogateFree (interactiveMessage verdict message judgemessage solStderrText
      valStderrText) := by
  have hstripped : SurrogateFree (strip (message ++ py "\n" ++ judgemessage)) := by
    apply SurrogateFree.strip
    simp [hmessage, hjudgemessage]
  rw [List.append_assoc] at hstripped
  rw [interactiveMessage]
  split_ifs <;> simp [hmessage, hjudgemessage, hsol, hval, hstripped]

theorem surrogateFree_interactiveResult (raw : InteractiveRecord) (limits : TimeLimits)
    (memoryMib : ℤ) {judgemessage solStderrText valStderrText : PyStr}
    (hjudgemessage : SurrogateFree judgemessage) (hsol : SurrogateFree solStderrText)
    (hval : SurrogateFree valStderrText) :
    EntrySurrogateFree (interactiveResult case raw limits memoryMib judgemessage solStderrText
      valStderrText) :=
  entrySurrogateFree_of_message hcase (surrogateFree_interactiveMessage _
    (surrogateFree_classifyInteractive raw limits memoryMib) hjudgemessage hsol hval)

theorem surrogateFree_measuredResult (measurement : RunMeasurement)
    {classified : Verdict × PyStr} {stderrText : PyStr}
    (hclassified : SurrogateFree classified.2) (hstderr : SurrogateFree stderrText) :
    EntrySurrogateFree (measuredResult case measurement classified stderrText) := by
  apply entrySurrogateFree_of_message hcase
  split_ifs <;> simp [hclassified, hstderr]

end Entries

end IcpcVerify.Judge
