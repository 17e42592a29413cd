import IcpcVerify.Judge.AcceptedRuns
import IcpcVerify.Runner.InteractiveVerdict

/-!
# Accepted interactive solutions

The same end to end for an interactive problem: where the containers do run
`interactive_runner.py`, an accepted solution and its validator both ended by themselves
on every testcase.
-/

namespace IcpcVerify.Judge

open IcpcVerify.Python
open IcpcVerify.Python.Argparse
open IcpcVerify.Timelimits
open IcpcVerify.Results
open IcpcVerify.Runner
open IcpcVerify.Sandbox
open IcpcVerify.StatefulRun
open IcpcVerify.LazyScan

variable {rt : Runtime} {host : Host} {removal : Removal} {before after : World}
variable {config : ProblemConfig} {limits : TimeLimits} {options : JudgeOptions}
variable {runArgv : List PyStr} {validator : BuiltValidator} {case : TestCase}

/-! ## Runs of `interactive_runner.py` in a container -/

/-- A run of `interactive_runner.py`, from its command line to the file it leaves. -/
structure InteractiveRun (rt : Runtime) (spec : SandboxSpec) (left : IoDir → Dir) where
  args : InteractiveArguments
  hardKill : ℚ
  pairTimeout : ℚ
  schedule : InteractiveMain.Schedule
  rounds : ℕ
  record : InteractiveRecord
  parsed : Runner.parseInteractiveArgs rt (spec.argv.drop 2) = some args
  finite : args.hardKill = .finite hardKill ∧ args.pairTimeout = .finite pairTimeout
  ended : InteractiveMain.Left ⟨hardKill, pairTimeout⟩ schedule rounds
  recorded : InteractiveMain.makeRecord (InteractiveMain.afterLoop schedule
    (InteractiveMain.stateBefore ⟨hardKill, pairTimeout⟩ schedule rounds)) = some record
  /-- The measured numbers are floats, which `repr` prints so that they are read back. -/
  measures : MeasuresReadBack rt record.solution.wall record.solution.cpu
    record.solution.maxRssKib
  result : leftAt spec left args.result = dumpFile rt (interactiveJson record)

theorem InteractiveRun.loadInteractive_result {spec : SandboxSpec} {left : IoDir → Dir}
    (run : InteractiveRun rt spec left) {content : Bytes}
    (hcontent : leftAt spec left run.args.result = some content) :
    loadInteractive rt content = some run.record := by
  obtain ⟨content', hdump, hload⟩ :=
    InteractiveMain.loadInteractive_of_left run.recorded run.measures
  rw [run.result, hdump] at hcontent
  rwa [← Option.some.inj hcontent]

/-- Both processes ended by themselves, the validator with its accepting answer, and the
solution in time, within its memory and without an error of its own. -/
def InteractiveRun.EndedAccepted {spec : SandboxSpec} {left : IoDir → Dir}
    (run : InteractiveRun rt spec left) (limits : TimeLimits) (memoryMib : ℤ) : Prop :=
  ∃ solExit valExit, InteractiveMain.OwnRecord run.schedule run.record solExit valExit ∧
    run.record.solution.wall ≤ limits.limit ∧ solExit.usage.maxrss ≤ memoryMib * 1024 ∧
      InteractiveMain.EndedFine solExit.status ∧ valExit.status.exitCode = 42

theorem InteractiveRun.endedAccepted {spec : SandboxSpec} {left : IoDir → Dir}
    (run : InteractiveRun rt spec left) {memoryMib : ℤ}
    (haccepted : (classifyInteractive run.record limits memoryMib).1 = .accepted) :
    run.EndedAccepted limits memoryMib := by
  obtain ⟨hin, hpair, hexit, hmemory, hended⟩ :=
    (classifyInteractive_accepted_iff run.record limits memoryMib).1 haccepted
  obtain ⟨htimed, hwall⟩ := not_or.1 hin
  obtain ⟨solExit, valExit, hown⟩ := InteractiveMain.ownRecord_of_left _ _ run.ended run.recorded
    (by simpa using htimed) hpair
  rw [hown.validatorExit] at hexit
  exact ⟨solExit, valExit, hown, not_lt.1 hwall, hown.maxRssKib ▸ hmemory,
    (InteractiveMain.endedWell_iff_endedFine hown.exitCode hown.signal).1 hended, hexit⟩

theorem leftAt_interactiveSpec_result (left : IoDir → Dir) :
    leftAt (interactiveSpec rt runArgv validator config limits options) left
      (outMount ++ py "/run.json") = fileIn (left .out) (py "run.json") := rfl

/-! ## Runs behind an accepted solution -/

/-- A container for an interactive testcase that leaves a `run.json` has run
`interactive_runner.py` to its end, and what that dumps the judge reads as the JSON it is. -/
structure RunsInteractiveRunner (rt : Runtime) (host : Host) (config : ProblemConfig)
    (limits : TimeLimits) (options : JudgeOptions) : Prop where
  run : ∀ runArgv validator view result left,
    host.sandbox (interactiveSpec rt runArgv validator config limits options) view =
        .ok (result, left) →
      (fileIn (left .out) (py "run.json")).isSome = true →
        Nonempty (InteractiveRun rt (interactiveSpec rt runArgv validator config limits options)
          left)
  load : ∀ record content, dumpFile rt (interactiveJson record) = some content →
    (host.loadInteractive content).toOption = loadInteractive rt content

/-- Solution and validator were run together on the testcase, with their own commands, and
the end of both speaks for the solution. -/
def InteractedWell (rt : Runtime) (host : Host) (runArgv : List PyStr)
    (validator : BuiltValidator) (config : ProblemConfig) (limits : TimeLimits)
    (options : JudgeOptions) (case : TestCase) : Prop :=
  ∃ input answer result left, ∃ run : InteractiveRun rt
      (interactiveSpec rt runArgv validator config limits options) left,
    host.read case.inputPath = some input ∧ host.read case.answerPath = some answer ∧
      host.sandbox (interactiveSpec rt runArgv validator config limits options)
        (interactiveView input answer) = .ok (result, left) ∧
      run.args.argv = runArgv ∧
      run.args.validatorArgv = (validatorCommand validator config).map mergeSurrogates ∧
      run.EndedAccepted limits options.memoryMib

/-- The arguments of an interaction are the judge's. -/
theorem interactiveArgs_of_run {hardKill pairTimeout : PyFloat} {left : IoDir → Dir}
    (hhardKill : rt.parseFloat (hardKillArgument limits) = some hardKill)
    (hpairTimeout : rt.parseFloat (formatFixed 3 (limits.hardKill + 5)) = some pairTimeout)
    (hdumps : ∀ items, rt.dumps items = (JsonValue.list (items.map .str)).dumps rt)
    (run : InteractiveRun rt (interactiveSpec rt runArgv validator config limits options) left) :
    run.args.argv = runArgv ∧
      run.args.validatorArgv = (validatorCommand validator config).map mergeSurrogates ∧
        run.args.result = outMount ++ py "/run.json" := by
  have hparsed := run.parsed
  rw [parseInteractiveArgs_interactiveSpec runArgv hhardKill hpairTimeout hdumps,
    commandOf_dashes] at hparsed
  split_ifs at hparsed
  · cases hparsed
  · rw [← Option.some.inj hparsed]
    exact ⟨rfl, rfl, rfl⟩

/-- A clean interaction is a run in which both processes ended well. -/
theorem interactedWell_of_clean {hardKill pairTimeout : PyFloat}
    (hhost : RunsInteractiveRunner rt host config limits options)
    (hhardKill : rt.parseFloat (hardKillArgument limits) = some hardKill)
    (hpairTimeout : rt.parseFloat (formatFixed 3 (limits.hardKill + 5)) = some pairTimeout)
    (hdumps : ∀ items, rt.dumps items = (JsonValue.list (items.map .str)).dumps rt)
    (hclean : CleanInteraction limits options.memoryMib
      (observedInteractive rt host case runArgv validator config limits options)) :
    InteractedWell rt host runArgv validator config limits options case := by
  obtain ⟨raw, hjson, hraw⟩ := hclean
  cases hinput : host.read case.inputPath with
  | none => simp [observedInteractive, hinput] at hjson
  | some input =>
      cases hanswer : host.read case.answerPath with
      | none => simp [observedInteractive, hinput, hanswer] at hjson
      | some answer =>
          cases hsandbox : host.sandbox (interactiveSpec rt runArgv validator config limits options)
              (interactiveView input answer) with
          | error exc => simp [observedInteractive, hinput, hanswer, hsandbox] at hjson
          | ok ended =>
              obtain ⟨result, left⟩ := ended
              rw [observedInteractive_of_sandbox hinput hanswer hsandbox] at hjson
              obtain ⟨content, hcontent, hload⟩ := Option.bind_eq_some_iff.1 hjson
              obtain ⟨run⟩ := hhost.run _ _ _ _ _ hsandbox (by rw [hcontent]; rfl)
              obtain ⟨hargv, hcommand, hresult⟩ :=
                interactiveArgs_of_run hhardKill hpairTimeout hdumps run
              have hrecord : raw = run.record := by
                have hleft : leftAt (interactiveSpec rt runArgv validator config limits options)
                    left run.args.result = some content := by
                  rw [hresult]
                  exact hcontent
                have hdump := run.result.symm.trans hleft
                rw [hhost.load _ _ hdump, run.loadInteractive_result hleft] at hload
                exact (Option.some.inj hload).symm
              refine ⟨input, answer, result, left, run, hinput, hanswer, hsandbox, hargv, hcommand,
                run.endedAccepted ?_⟩
              rw [classifyInteractive_accepted_iff, ← hrecord]
              obtain ⟨htimed, hwall, hpair, hexit, hmemory, hended⟩ := hraw
              refine ⟨not_or.2 ⟨?_, not_lt.2 hwall⟩, hpair, hexit, hmemory, hended⟩
              simpa using htimed

/-- The verdict accepted, end to end, for an interactive problem: it is only given to a
solution that was compiled and, on every testcase, was run with exactly its own command
against the problem's validator, where both ended by themselves, the validator accepting. -/
theorem judgeSolution_accepted_interactions {solution : Solution} {testcases : List TestCase}
    {result : SolutionResult} {hardKill pairTimeout : PyFloat}
    (hhost : RunsInteractiveRunner rt host config limits options)
    (hhardKill : rt.parseFloat (hardKillArgument limits) = some hardKill)
    (hpairTimeout : rt.parseFloat (formatFixed 3 (limits.hardKill + 5)) = some pairTimeout)
    (hdumps : ∀ items, rt.dumps items = (JsonValue.list (items.map .str)).dumps rt)
    (hmode : config.validation = .customInteractive)
    (hreturns : Returns (judgeSolution rt (fileCalls rt host removal) config solution
      testcases limits options) before result after)
    (haccepted : result.verdict = .accepted) :
    testcases ≠ [] ∧ ∃ compile dir validator, host.compile solution config.memoryMib
        ⟨options.image, options.cpuset, options.compileFlags⟩ = .ok compile ∧
      compile.ok = true ∧ config.validatorDir = some dir ∧
      host.build dir options.image options.cpuset = .ok (.ok validator) ∧
      ∀ case ∈ testcases,
        InteractedWell rt host compile.runArgv validator config limits options case := by
  obtain ⟨compile, judging, progress, between, hcompile, hok, hvalidation, hprepared, hloop,
    hverdict⟩ := judgeSolution_loop hreturns haccepted
  obtain ⟨hne, hentries⟩ := entries_of_accepted hvalidation hloop hverdict
  rw [hmode] at hvalidation
  cases judging with
  | default flags => cases hvalidation
  | custom built => cases hvalidation
  | interactive built =>
      obtain ⟨dir, hdir, hbuild⟩ := hprepared
      refine ⟨hne, compile, dir, built, hcompile, hok, hdir, hbuild, fun case hcase => ?_⟩
      have hclean := (entry_accepted_iff rt limits options.memoryMib _ _).1 (hentries case hcase)
      exact interactedWell_of_clean hhost hhardKill hpairTimeout hdumps hclean

/-! ## An honest host for interactive problems -/

/-- What a container leaves in which both processes have ended at once. -/
def promptDir : Dir :=
  put emptyDir (py "run.json")
    ((dumpFile asciiJson (interactiveJson ⟨⟨0, 0, 0, 0, 0, false⟩, 42, 0, false⟩)).getD [])

/-- A host on which everything compiles and builds, and both processes end at once. -/
def honestInteractiveHost : Host where
  read := readSums
  sandbox spec _ :=
    if (Runner.parseInteractiveArgs asciiJson (spec.argv.drop 2)).isSome then
      .ok (⟨0, false, [], [], false⟩, fun _ => promptDir)
    else .ok (⟨2, false, [], [], false⟩, fun _ => emptyDir)
  loadRun _ := .error ⟨.value, []⟩
  loadInteractive content :=
    match loadInteractive asciiJson content with
    | some record => .ok record
    | none => .error ⟨.value, []⟩
  compile _ _ _ := .ok ⟨true, [], [py "/work/bin"]⟩
  build _ _ _ := .ok (.ok ⟨[], [py "/validator/run"], []⟩)

/-- A problem with an interactive validator. -/
def interactiveConfig : ProblemConfig :=
  { plainSession.config with validation := .customInteractive, validatorDir := some [] }

theorem runsInteractiveRunner_honestHost :
    RunsInteractiveRunner asciiJson honestInteractiveHost interactiveConfig ⟨1, 1, 2⟩
      plainSession.options := by
  constructor
  · intro runArgv validator view result left hsandbox hjson
    have hparse := @parseInteractiveArgs_interactiveSpec asciiJson runArgv validator
      interactiveConfig ⟨1, 1, 2⟩ plainSession.options _ _ parseFloat_twoSeconds
      parseFloat_sevenSeconds dumps_asciiJson
    simp only [honestInteractiveHost] at hsandbox
    split at hsandbox
    · next hsome =>
      obtain ⟨rfl, rfl⟩ := Prod.mk.inj (Except.ok.inj hsandbox)
      obtain ⟨args, hargs⟩ := Option.isSome_iff_exists.1 hsome
      rw [hargs] at hparse
      obtain ⟨command, -, rfl⟩ := Option.map_eq_some_iff.1 hparse.symm
      have hrecord : InteractiveMain.makeRecord (InteractiveMain.afterLoop InteractiveMain.prompt
          (InteractiveMain.stateBefore ⟨2, 7⟩ InteractiveMain.prompt 1)) =
            some ⟨⟨0, 0, 0, 0, 0, false⟩, 42, 0, false⟩ := by
        decide +kernel
      have hleft : InteractiveMain.Left ⟨2, 7⟩ InteractiveMain.prompt 1 := by
        decide +kernel
      have hmeasures : MeasuresReadBack asciiJson 0 0 0 :=
        ⟨readsBack_zero, readsBack_zero, smallInt_of_lt (by decide)⟩
      obtain ⟨content, hdump, -⟩ := InteractiveMain.loadInteractive_of_left hrecord hmeasures
      refine ⟨⟨_, 2, 7, InteractiveMain.prompt, 1, _, hargs, ⟨rfl, rfl⟩, hleft, hrecord, hmeasures,
        ?_⟩⟩
      rw [leftAt_interactiveSpec_result, promptDir, hdump]
      exact fileIn_put_self _ _ _
    · obtain ⟨rfl, rfl⟩ := Prod.mk.inj (Except.ok.inj hsandbox)
      cases hjson
  · intro record content _
    cases hload : loadInteractive asciiJson content with
    | none => simp [honestInteractiveHost, hload, Except.toOption]
    | some record => simp [honestInteractiveHost, hload, Except.toOption]

/-- A solution that is judged there on the two testcases. -/
def honestInteraction : IoM SolutionResult :=
  judgeSolution asciiJson (fileCalls asciiJson honestInteractiveHost fun _ _ _ => none)
    interactiveConfig ⟨[], [], [], [], none, [], [], none⟩ sumCases ⟨1, 1, 2⟩
    plainSession.options

theorem honestInteraction_accepted :
    ((honestInteraction.run ⟨fun _ => none, 0⟩).toOption.map fun returned =>
      returned.1.verdict) = some .accepted := by
  decide +kernel

/-- It is accepted, and on both it was run against the validator to a good end. -/
theorem judgeSolution_accepted_interactions_honest :
    ∃ validator, ∀ case ∈ sumCases,
      InteractedWell asciiJson honestInteractiveHost [py "/work/bin"] validator
        interactiveConfig ⟨1, 1, 2⟩ plainSession.options case := by
  obtain ⟨result, after, hreturns, haccepted⟩ := returns_of_accepted honestInteraction_accepted
  obtain ⟨-, compile, dir, validator, hcompile, -, -, -, hcases⟩ :=
    judgeSolution_accepted_interactions runsInteractiveRunner_honestHost parseFloat_twoSeconds
      parseFloat_sevenSeconds dumps_asciiJson rfl hreturns haccepted
  obtain rfl := Except.ok.inj hcompile
  exact ⟨validator, hcases⟩

end IcpcVerify.Judge
