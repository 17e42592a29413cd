import IcpcVerify.Judge.Acceptance
import IcpcVerify.Judge.NoStaleState
import IcpcVerify.Runner.Arguments
import IcpcVerify.Runner.RunJson

/-!
# Judge and runner

The judge asks for a run on the command line of a container and reads what was measured
from a file the container leaves.  Here both ends meet: the arguments reach `runner.py`
as they were meant, and an accepted solution is one that ended well in the runs its
containers made.
-/

namespace IcpcVerify.Judge

open IcpcVerify.Python
open IcpcVerify.Python.Argparse
open IcpcVerify.Timelimits
open IcpcVerify.Results
open IcpcVerify.Runner
open IcpcVerify.Sandbox
open IcpcVerify.Compare
open IcpcVerify.Validators
open IcpcVerify.StatefulRun
open IcpcVerify.LazyScan
open IcpcVerify.Transition

variable {rt : Runtime}

/-! ## Command lines -/

/-- The command line of a solution container means what the judge wanted, whatever the
solution's own command contains. -/
theorem parseArgs_runSpec (runArgv : List PyStr) {limits : TimeLimits} {options : JudgeOptions}
    {hardKill : PyFloat} (hhardKill : rt.parseFloat (hardKillArgument limits) = some hardKill)
    (hlimit : SmallInt (options.outputLimitMib * 1024 * 1024)) :
    Runner.parseArgs rt ((runSpec rt runArgv limits options).argv.drop 2) =
      (commandOf (dashes :: runArgv)).map fun command =>
        { input := runMount ++ py "/tc.in"
          stdout := outMount ++ py "/stdout"
          stderr := outMount ++ py "/stderr"
          result := outMount ++ py "/run.json"
          hardKill := hardKill
          outputLimit := options.outputLimitMib * 1024 * 1024
          argv := command } := by
  apply parseArgs_of_texts
  · simp only [List.forall_mem_cons]
    refine ⟨?_, ?_, ?_, ?_, ?_, ?_, by simp⟩
    · exact argumentText_of_not_dash (by decide)
    · exact argumentText_of_not_dash (by decide)
    · exact argumentText_of_not_dash (by decide)
    · exact argumentText_of_not_dash (by decide)
    · exact argumentText_formatFixed noNumberOption_runner (by decide) _
    · exact argumentText_formatInt noNumberOption_runner _
  · exact hhardKill
  · exact readInt_formatInt hlimit

/-- The texts of the validator's command, in front of the flags of the problem. -/
def validatorCommand (validator : BuiltValidator) (config : ProblemConfig) : List PyStr :=
  validator.argv ++ [py "/data/tc.in", py "/data/tc.ans", py "/feedback"] ++
    config.validatorFlags

/-- The same for `interactive_runner.py`.  The validator's command goes through a JSON
text on the way. -/
theorem parseInteractiveArgs_interactiveSpec (runArgv : List PyStr)
    {validator : BuiltValidator} {config : ProblemConfig} {limits : TimeLimits}
    {options : JudgeOptions} {hardKill pairTimeout : PyFloat}
    (hhardKill : rt.parseFloat (hardKillArgument limits) = some hardKill)
    (hpairTimeout : rt.parseFloat (formatFixed 3 (limits.hardKill + 5)) = some pairTimeout)
    (hdumps : ∀ items, rt.dumps items = (JsonValue.list (items.map .str)).dumps rt) :
    Runner.parseInteractiveArgs rt
        ((interactiveSpec rt runArgv validator config limits options).argv.drop 2) =
      (commandOf (dashes :: runArgv)).map fun command =>
        { result := outMount ++ py "/run.json"
          hardKill := hardKill
          pairTimeout := pairTimeout
          solStderr := outMount ++ py "/sol.stderr"
          valStderr := outMount ++ py "/val.stderr"
          validatorArgv := (validatorCommand validator config).map mergeSurrogates
          argv := command } := by
  have hload := @loads_dumps_strings rt (validatorCommand validator config)
  rw [← hdumps] at hload
  apply parseInteractiveArgs_of_texts _ hhardKill hpairTimeout hload (asStrings_list _)
  simp only [List.forall_mem_cons]
  refine ⟨?_, ?_, ?_, ?_, ?_, ?_, by simp⟩
  · exact argumentText_of_not_dash (by decide)
  · exact argumentText_formatFixed noNumberOption_interactive (by decide) _
  · exact argumentText_formatFixed noNumberOption_interactive (by decide) _
  · apply argumentText_of_not_dash
    rw [hdumps, JsonValue.dumps, List.head?_cons]
    decide
  · exact argumentText_of_not_dash (by decide)
  · exact argumentText_of_not_dash (by decide)

theorem map_mergeSurrogates_eq_self_iff (texts : List PyStr) :
    texts.map mergeSurrogates = texts ↔ ∀ text ∈ texts, NoSurrogatePair text := by
  induction texts with
  | nil => simp
  | cons text texts ih =>
      rw [List.map_cons, List.cons.injEq, List.forall_mem_cons, ih, mergeSurrogates_eq_self_iff]

/-- `runner.py` gets the solution's command as it is, whatever it contains, and each of its
own arguments as the judge meant it. -/
theorem runSpec_arrives {runArgv : List PyStr} {limits : TimeLimits} {options : JudgeOptions}
    {hardKill : PyFloat} (hargv : runArgv ≠ [])
    (hhardKill : rt.parseFloat (hardKillArgument limits) = some hardKill)
    (hlimit : SmallInt (options.outputLimitMib * 1024 * 1024)) :
    Runner.parseArgs rt ((runSpec rt runArgv limits options).argv.drop 2) =
      some
        { input := py "/run/tc.in"
          stdout := py "/out/stdout"
          stderr := py "/out/stderr"
          result := py "/out/run.json"
          hardKill := hardKill
          outputLimit := options.outputLimitMib * 1024 * 1024
          argv := runArgv } := by
  rw [parseArgs_runSpec runArgv hhardKill hlimit, commandOf_dashes, if_neg hargv]
  rfl

theorem parseFloat_twoSeconds :
    Runtime.ascii.parseFloat (hardKillArgument ⟨1, 1, 2⟩) = some (.finite 2) := by
  decide +kernel

theorem smallInt_eightMib : SmallInt (plainSession.options.outputLimitMib * 1024 * 1024) := by
  have hdigits : 10 ^ 8 ≤ 10 ^ Yaml.intMaxStrDigits := Nat.pow_le_pow_right (by decide) (by decide)
  exact lt_of_lt_of_le (by decide) hdigits

/-- A command that looks like more options of the runner. -/
theorem runSpec_arrives_options :
    (Runner.parseArgs Runtime.ascii ((runSpec Runtime.ascii
        [py "/work/bin", py "--output-limit", py "1", py "--", py "-h"] ⟨1, 1, 2⟩
        plainSession.options).argv.drop 2)).map Arguments.argv =
      some [py "/work/bin", py "--output-limit", py "1", py "--", py "-h"] := by
  rw [runSpec_arrives (List.cons_ne_nil _ _) parseFloat_twoSeconds smallInt_eightMib]
  rfl

/-- `interactive_runner.py` gets the solution's command as it is.  The validator's command
arrives unchanged exactly if none of its texts has a high surrogate right in front of a low
one. -/
theorem interactiveSpec_arrives {runArgv : List PyStr} {validator : BuiltValidator}
    {config : ProblemConfig} {limits : TimeLimits} {options : JudgeOptions}
    {hardKill pairTimeout : PyFloat} (hargv : runArgv ≠ [])
    (hhardKill : rt.parseFloat (hardKillArgument limits) = some hardKill)
    (hpairTimeout : rt.parseFloat (formatFixed 3 (limits.hardKill + 5)) = some pairTimeout)
    (hdumps : ∀ items, rt.dumps items = (JsonValue.list (items.map .str)).dumps rt) :
    ∃ args, Runner.parseInteractiveArgs rt
        ((interactiveSpec rt runArgv validator config limits options).argv.drop 2) = some args ∧
      args.argv = runArgv ∧ args.hardKill = hardKill ∧ args.pairTimeout = pairTimeout ∧
      args.result = py "/out/run.json" ∧ args.solStderr = py "/out/sol.stderr" ∧
      args.valStderr = py "/out/val.stderr" ∧
      (args.validatorArgv = validatorCommand validator config ↔
        ∀ text ∈ validatorCommand validator config, NoSurrogatePair text) := by
  rw [parseInteractiveArgs_interactiveSpec runArgv hhardKill hpairTimeout hdumps,
    commandOf_dashes, if_neg hargv]
  exact ⟨_, rfl, rfl, rfl, rfl, rfl, rfl, rfl, map_mergeSurrogates_eq_self_iff _⟩

/-- The library as on ASCII texts, with the JSON it does write. -/
def asciiJson : Runtime :=
  { Runtime.ascii with
    dumps := fun items => openBracket ::
      (List.intercalate (py ", ") (items.map quoteAscii) ++ [closeBracket]) }

theorem dumps_asciiJson (items : List PyStr) :
    asciiJson.dumps items = (JsonValue.list (items.map .str)).dumps asciiJson := by
  have hitems : JsonValue.dumpsItems asciiJson (items.map .str) = items.map quoteAscii := by
    induction items with
    | nil => rfl
    | cons item items ih => rw [List.map_cons, JsonValue.dumpsItems, ih]; rfl
  rw [JsonValue.dumps, hitems]
  rfl

theorem parseFloat_sevenSeconds :
    asciiJson.parseFloat (formatFixed 3 (2 + 5)) = some (.finite 7) := by
  decide +kernel

/-- A validator flag in another script arrives. -/
theorem interactiveSpec_arrives_flag :
    ∃ args, Runner.parseInteractiveArgs asciiJson
        ((interactiveSpec asciiJson [py "/work/bin"] ⟨[], [py "/validator/run"], []⟩
          { plainSession.config with validatorFlags := [py "--\"한글\""] } ⟨1, 1, 2⟩
          plainSession.options).argv.drop 2) = some args ∧
      args.validatorArgv = [py "/validator/run", py "/data/tc.in", py "/data/tc.ans",
        py "/feedback", py "--\"한글\""] := by
  obtain ⟨args, hparsed, -, -, -, -, -, -, hvalidator⟩ :=
    @interactiveSpec_arrives asciiJson [py "/work/bin"] ⟨[], [py "/validator/run"], []⟩
      { plainSession.config with validatorFlags := [py "--\"한글\""] } ⟨1, 1, 2⟩
      plainSession.options _ _ (List.cons_ne_nil _ _) parseFloat_twoSeconds
      parseFloat_sevenSeconds dumps_asciiJson
  exact ⟨args, hparsed, hvalidator.2 (by decide +kernel)⟩

/-! ## Paths inside a container -/

/-- The bind mount that a path lies below, and what is behind it in the path. -/
def locate (spec : SandboxSpec) (path : PyStr) : Option (Bind × PyStr) :=
  (spec.binds.find? fun bind => (bind.target ++ py "/").isPrefixOf path).map fun bind =>
    (bind, path.drop (bind.target.length + 1))

/-- The file below `io_dir` that a path stands for, with the mode of its mount. -/
def ioFileAt (spec : SandboxSpec) (path : PyStr) : Option (IoFile × BindMode) :=
  (locate spec path).bind fun located =>
    match located.1.source with
    | .io dir => some (⟨dir, located.2⟩, located.1.mode)
    | _ => none

/-- What a program in the container reads at a path when it starts. -/
def seenAt (spec : SandboxSpec) (view : IoStore) (path : PyStr) : Option Bytes :=
  (ioFileAt spec path).bind fun located =>
    (view located.1.dir).bind fun dir => fileIn dir located.1.name

/-- What is at a path when the container has ended, if it could be written there. -/
def leftAt (spec : SandboxSpec) (left : IoDir → Dir) (path : PyStr) : Option Bytes :=
  (ioFileAt spec path).bind fun located =>
    if located.2 = .rw then fileIn (left located.1.dir) located.1.name else none

variable {runArgv : List PyStr} {limits : TimeLimits} {options : JudgeOptions}

theorem seenAt_runSpec_input (input : Bytes) :
    seenAt (runSpec rt runArgv limits options) (runView input) (runMount ++ py "/tc.in") =
      some input := rfl

theorem leftAt_runSpec_result (left : IoDir → Dir) :
    leftAt (runSpec rt runArgv limits options) left (outMount ++ py "/run.json") =
      fileIn (left .out) (py "run.json") := rfl

theorem leftAt_runSpec_stdout (left : IoDir → Dir) :
    leftAt (runSpec rt runArgv limits options) left (outMount ++ py "/stdout") =
      fileIn (left .out) (py "stdout") := rfl

/-! ## Runs of `runner.py` in a container -/

/-- A run of `runner.py`, from its command line to the file it leaves. -/
structure RunnerRun (rt : Runtime) (spec : SandboxSpec) (left : IoDir → Dir) where
  args : Arguments
  hardKill : ℚ
  started : ℚ
  ended : Main.State
  record : RunRecord
  parsed : Runner.parseArgs rt (spec.argv.drop 2) = some args
  finite : args.hardKill = .finite hardKill
  reach : Reachable (Main.Step ⟨hardKill, args.outputLimit⟩) (Main.start started) ended
  done : ended.pc = .done record
  /-- The measured numbers are floats, which `repr` prints so that they are read back. -/
  measures : MeasuresReadBack rt record.wall record.cpu record.maxRssKib
  result : leftAt spec left args.result = dumpFile rt (runJson record)
  stdout : (leftAt spec left args.stdout).map List.length = ended.stdout

namespace RunnerRun

variable {spec : SandboxSpec} {left : IoDir → Dir}

/-- The solution ended by itself with status zero, in time and with its output within
the limit. -/
structure Clean (run : RunnerRun rt spec left) (limits : TimeLimits) : Prop where
  not_killed : run.ended.killedFor = none
  own_exit : run.ended.ownExit = some (.exited 0)
  wall : run.record.wall ≤ limits.limit
  output : ∀ content, leftAt spec left run.args.stdout = some content →
    content.length ≤ run.args.outputLimit

/-- What the judge reads from the file of a run is the run's own record. -/
theorem loadRun_result (run : RunnerRun rt spec left) {content : Bytes}
    (hcontent : leftAt spec left run.args.result = some content) :
    loadRun rt content = some run.record := by
  obtain ⟨content', hdump, hload⟩ := Main.loadRun_of_done run.reach run.done run.measures
  rw [run.result, hdump] at hcontent
  rwa [← Option.some.inj hcontent]

/-- On the measurements of a run the limits are kept exactly when the solution ended well. -/
theorem healthy_iff_clean (run : RunnerRun rt spec left) (limits : TimeLimits)
    (oomKilled : Bool) :
    Healthy (measurementOf run.record oomKilled) limits ↔
      run.Clean limits ∧ oomKilled = false := by
  constructor
  · rintro ⟨⟨htimed, hwall⟩, houtput, hmemory, hsignal, hexit⟩
    have hnone := Main.done_not_killed run.reach run.done houtput htimed
    have hown := Main.done_own_exit run.reach run.done hnone hsignal hexit
    refine ⟨⟨hnone, hown, hwall, ?_⟩, hmemory⟩
    intro content hcontent
    have hsize : run.ended.stdout = some content.length := by
      rw [← run.stdout, hcontent, Option.map_some]
    by_contra hover
    have hflag := (Main.done_outputLimitExceeded_iff run.reach run.done).2
      ⟨content.length, hsize, not_le.1 hover⟩
    exact Bool.false_ne_true (houtput.symm.trans hflag)
  · rintro ⟨hclean, hmemory⟩
    obtain ⟨status, usage, wall, hown, hrecord⟩ := Main.done_cases run.reach run.done
    have hstatus : status = .exited 0 :=
      Option.some.inj ((hown hclean.not_killed).symm.trans hclean.own_exit)
    have htimed : run.record.timedOut ≠ true := by
      rw [Ne, Main.done_timedOut_iff run.reach run.done, hclean.not_killed]
      exact (Option.some_ne_none _).symm
    have houtput : run.record.outputLimitExceeded ≠ true := by
      rw [Ne, Main.done_outputLimitExceeded_iff run.reach run.done]
      rintro ⟨size, hsize, hover⟩
      rw [← run.stdout, Option.map_eq_some_iff] at hsize
      obtain ⟨content, hcontent, rfl⟩ := hsize
      exact absurd (hclean.output content hcontent) (not_le.2 hover)
    refine ⟨⟨by simpa [measurementOf] using htimed, hclean.wall⟩,
      by simpa [measurementOf] using houtput, hmemory, ?_, ?_⟩
    · rw [measurementOf, hrecord, hstatus]
      rfl
    · rw [measurementOf, hrecord, hstatus]
      rfl

end RunnerRun

end IcpcVerify.Judge
