import IcpcVerify.Judge.Files
import IcpcVerify.Runner.InteractiveRuns
import IcpcVerify.Runner.MainVerdict

/-!
# The hard kill and the limit

Both runners get the hard kill as a numeral with three places, while the verdict
compares the wall time with the unrounded limit.  Rounding can carry the hard kill
below the limit; this file tells exactly when it does not.
-/

namespace IcpcVerify.Judge

open IcpcVerify.Python
open IcpcVerify.Timelimits
open IcpcVerify.Results
open IcpcVerify.Runner
open IcpcVerify.Sandbox
open IcpcVerify.Transition
open IcpcVerify.Rounding

/-- The argument that follows a flag on a command line. -/
def argumentOf (flag : PyStr) : List PyStr → Option PyStr
  | first :: second :: rest =>
      if first = flag then some second else argumentOf flag (second :: rest)
  | _ => none

/-- The number a runner reads from its `--hard-kill`. -/
def passedHardKill (spec : SandboxSpec) : Option ℚ :=
  (argumentOf (py "--hard-kill") spec.argv).bind numeralValue

variable (rt : Runtime)

theorem argumentOf_runSpec (runArgv : List PyStr) (limits : TimeLimits)
    (options : JudgeOptions) :
    argumentOf (py "--hard-kill") (runSpec rt runArgv limits options).argv =
      some (hardKillArgument limits) := by
  rfl

theorem argumentOf_interactiveSpec (runArgv : List PyStr) (validator : BuiltValidator)
    (config : ProblemConfig) (limits : TimeLimits) (options : JudgeOptions) :
    argumentOf (py "--hard-kill")
        (interactiveSpec rt runArgv validator config limits options).argv =
      some (hardKillArgument limits) := by
  rfl

/-- The two runners are given the same number. -/
theorem passedHardKill_eq (runArgv : List PyStr) (validator : BuiltValidator)
    (config : ProblemConfig) (limits : TimeLimits) (options : JudgeOptions) :
    passedHardKill (runSpec rt runArgv limits options) =
        numeralValue (hardKillArgument limits) ∧
      passedHardKill (interactiveSpec rt runArgv validator config limits options) =
        numeralValue (hardKillArgument limits) := by
  constructor
  · rw [passedHardKill, argumentOf_runSpec, Option.bind_some]
  · rw [passedHardKill, argumentOf_interactiveSpec, Option.bind_some]

/-! ## What a hard kill says about the elapsed time -/

/-- A recorded hard kill of `runner.py` came at the hard kill time or later. -/
theorem elapsed_of_timedOut {args : Main.Args} {started : ℚ} {s : Main.State}
    {record : RunRecord} (hreach : Reachable (Main.Step args) (Main.start started) s)
    (hdone : s.pc = .done record) (htimed : record.timedOut = true) :
    ∃ instant, s.killedAt = some instant ∧ args.hardKill ≤ instant - s.started := by
  have hlate := Main.lateAt hreach
  rw [hdone] at hlate
  obtain ⟨instant, hkilled, hinstant⟩ :=
    hlate ((Main.done_timedOut_iff hreach hdone).1 htimed)
  exact ⟨instant, hkilled, by linarith⟩

/-- The same for the solution of `interactive_runner.py`. -/
theorem elapsed_of_solTimedOut {args : InteractiveMain.Args}
    {schedule : InteractiveMain.Schedule} {n : ℕ}
    (htimed : (InteractiveMain.stateBefore args schedule n).solTimedOut = true) :
    ∃ k < n, InteractiveMain.Executed args schedule k ∧
      InteractiveMain.HardKills args schedule (schedule.tick k)
          (InteractiveMain.stateBefore args schedule k) ∧
        args.hardKill ≤ (schedule.tick k).solKill - schedule.started := by
  obtain ⟨k, hk, hexecuted, hkills⟩ := (InteractiveMain.solTimedOut_iff args schedule n).1 htimed
  refine ⟨k, hk, hexecuted, hkills, ?_⟩
  have hordered := schedule.ordered k
  have hdeadline : schedule.started + args.hardKill ≤ (schedule.tick k).solKill := by
    calc schedule.started + args.hardKill ≤ (schedule.tick k).now := hkills.2
      _ ≤ (schedule.tick k).solWait := hordered.now_solWait
      _ ≤ (schedule.tick k).solWall := hordered.solWait_solWall
      _ ≤ (schedule.tick k).valWait := hordered.solWall_valWait
      _ ≤ (schedule.tick k).solKill := hordered.valWait_solKill
  linarith

/-- The number that the runners are given is no less than the limit, and whoever is
recorded as timed out was killed after at least the limit. -/
def HardKillHonest (limits : TimeLimits) : Prop :=
  (∀ runArgv options, ∃ hardKill,
    passedHardKill (runSpec rt runArgv limits options) = some hardKill ∧
      limits.limit ≤ hardKill ∧
      ∀ outputLimit started (s : Main.State) record,
        Reachable (Main.Step ⟨hardKill, outputLimit⟩) (Main.start started) s →
        s.pc = .done record → record.timedOut = true →
          ∃ instant, s.killedAt = some instant ∧ limits.limit ≤ instant - s.started) ∧
    ∀ runArgv validator config options, ∃ hardKill,
      passedHardKill (interactiveSpec rt runArgv validator config limits options) =
          some hardKill ∧
        limits.limit ≤ hardKill ∧
        ∀ pairTimeout schedule n,
          (InteractiveMain.stateBefore ⟨hardKill, pairTimeout⟩ schedule n).solTimedOut =
              true →
            ∃ k < n, InteractiveMain.Executed ⟨hardKill, pairTimeout⟩ schedule k ∧
              InteractiveMain.HardKills ⟨hardKill, pairTimeout⟩ schedule (schedule.tick k)
                  (InteractiveMain.stateBefore ⟨hardKill, pairTimeout⟩ schedule k) ∧
                limits.limit ≤ (schedule.tick k).solKill - schedule.started

/-- With `m` the limit in milliseconds, rounded up: limit and overshoot together lie
above the half-way point below `m`, or on it for an even `m`. -/
def SurvivesRounding (limit overshoot : ℚ) : Prop :=
  (⌈limit * 1000⌉ : ℚ) - 1 / 2 < (limit + overshoot) * 1000 ∨
    ((⌈limit * 1000⌉ : ℚ) - 1 / 2 = (limit + overshoot) * 1000 ∧ ⌈limit * 1000⌉ % 2 = 0)

instance (limit overshoot : ℚ) : Decidable (SurvivesRounding limit overshoot) :=
  inferInstanceAs (Decidable (_ ∨ _))

/-- Half a millisecond of overshoot is enough for every limit. -/
theorem survivesRounding_of_overshoot {limit overshoot : ℚ}
    (hovershoot : 1 / 2000 ≤ overshoot) : SurvivesRounding limit overshoot := by
  left
  have := Int.ceil_lt_add_one (limit * 1000)
  linarith

/-- A limit in whole milliseconds needs no overshoot. -/
theorem survivesRounding_of_whole {limit overshoot : ℚ} (milliseconds : ℤ)
    (hlimit : limit * 1000 = milliseconds) (hovershoot : 0 ≤ overshoot) :
    SurvivesRounding limit overshoot := by
  left
  rw [hlimit, Int.ceil_intCast]
  linarith

theorem le_roundTo_iff (limit overshoot : ℚ) :
    limit ≤ roundTo 3 (limit + overshoot) ↔ SurvivesRounding limit overshoot := by
  have hscale : ((10 ^ 3 : ℕ) : ℚ) = 1000 := by norm_num
  rw [roundTo, le_toGrid_iff (by norm_num), hscale, le_halfEven_iff]
  rfl

/-- The hard kill is honest exactly when rounding does not carry the sum of limit
and overshoot below the limit. -/
theorem hardKillHonest_iff {limit overshoot : ℚ} {overshootSpec : PyStr}
    {limits : TimeLimits}
    (haccepted : makeTimeLimits rt limit overshootSpec = .ok limits)
    (hovershoot : overshootOf rt limit overshootSpec (strip overshootSpec) =
      .ok overshoot) :
    HardKillHonest rt limits ↔ SurvivesRounding limit overshoot := by
  obtain ⟨hlimit, -, overshoot', hovershoot', rfl⟩ := makeTimeLimits_ok_iff.1 haccepted
  obtain rfl : overshoot = overshoot' := Except.ok.inj (hovershoot.symm.trans hovershoot')
  have hnonneg : 0 ≤ limit + overshoot :=
    add_nonneg hlimit.le (overshootOf_nonneg hlimit hovershoot)
  have hpassed : numeralValue (hardKillArgument ⟨limit, overshoot, limit + overshoot⟩) =
      some (roundTo 3 (limit + overshoot)) :=
    numeralValue_formatFixed (by norm_num) hnonneg
  have hrun := fun runArgv validator config options =>
    passedHardKill_eq rt runArgv validator config ⟨limit, overshoot, limit + overshoot⟩ options
  rw [← le_roundTo_iff]
  constructor
  · rintro ⟨hhonest, -⟩
    obtain ⟨hardKill, hpassed', hle, -⟩ := hhonest [] ⟨[], 0, false, 0, 0, [], 0, false, []⟩
    have heq : roundTo 3 (limit + overshoot) = hardKill := by
      apply Option.some.inj
      rw [← hpassed, ← hpassed']
      exact ((hrun [] ⟨[], [], []⟩ ⟨[], 0, 0, 0, .default, [], none, []⟩ _).1).symm
    rwa [heq]
  · intro hle
    constructor
    · intro runArgv options
      refine ⟨_, ((hrun runArgv ⟨[], [], []⟩ ⟨[], 0, 0, 0, .default, [], none, []⟩ _).1).trans
        hpassed, hle, ?_⟩
      intro outputLimit started s record hreach hdone htimed
      obtain ⟨instant, hkilled, helapsed⟩ := elapsed_of_timedOut hreach hdone htimed
      exact ⟨instant, hkilled, hle.trans helapsed⟩
    · intro runArgv validator config options
      refine ⟨_, (hrun runArgv validator config options).2.trans hpassed, hle, ?_⟩
      intro pairTimeout schedule n htimed
      obtain ⟨k, hk, hexecuted, hkills, helapsed⟩ := elapsed_of_solTimedOut htimed
      exact ⟨k, hk, hexecuted, hkills, hle.trans helapsed⟩

/-- A limit of one second with the overshoot `2s`. -/
theorem hardKillHonest_two_seconds :
    HardKillHonest Runtime.ascii ⟨1, 2, 3⟩ ∧
      makeTimeLimits Runtime.ascii 1 (py "2s") = .ok ⟨1, 2, 3⟩ := by
  have haccepted : makeTimeLimits Runtime.ascii 1 (py "2s") = .ok ⟨1, 2, 3⟩ := by
    decide +kernel
  have hovershoot : overshootOf Runtime.ascii 1 (py "2s") (strip (py "2s")) = .ok 2 := by
    decide +kernel
  exact ⟨(hardKillHonest_iff Runtime.ascii haccepted hovershoot).2
    (survivesRounding_of_overshoot (by norm_num)), haccepted⟩

/-- A limit of 1.0004 seconds with the overshoot `0s`: the runners are given `1.000`,
and a run that is killed there, within its limit, is a `time_limit_exceeded`. -/
theorem hardKill_below_limit :
    makeTimeLimits Runtime.ascii (10004 / 10000) (py "0s") =
        .ok ⟨10004 / 10000, 0, 10004 / 10000⟩ ∧
      hardKillArgument ⟨10004 / 10000, 0, 10004 / 10000⟩ = py "1.000" ∧
      ¬HardKillHonest Runtime.ascii ⟨10004 / 10000, 0, 10004 / 10000⟩ ∧
      ∃ (s : Main.State) (record : RunRecord),
        Reachable (Main.Step ⟨1, 8388608⟩) (Main.start 0) s ∧ s.pc = .done record ∧
          record.timedOut = true ∧ s.killedAt = some 1 ∧ record.wall ≤ 10004 / 10000 ∧
            (classifyRun (measurementOf record false)
              ⟨10004 / 10000, 0, 10004 / 10000⟩ true []).1 = .timeLimitExceeded := by
  have haccepted : makeTimeLimits Runtime.ascii (10004 / 10000) (py "0s") =
      .ok ⟨10004 / 10000, 0, 10004 / 10000⟩ := by
    decide +kernel
  have hargument : hardKillArgument ⟨10004 / 10000, 0, 10004 / 10000⟩ = py "1.000" := by
    decide +kernel
  have hpassed : numeralValue (py "1.000") = some 1 := by
    decide +kernel
  refine ⟨haccepted, hargument, ?_, ?_⟩
  · rintro ⟨hhonest, -⟩
    obtain ⟨hardKill, hpassed', hle, -⟩ := hhonest [] ⟨[], 0, false, 0, 0, [], 0, false, []⟩
    rw [passedHardKill, argumentOf_runSpec, Option.bind_some, hargument, hpassed] at hpassed'
    rw [← Option.some.inj hpassed'] at hle
    norm_num at hle
  · exact ⟨_, _, Reachable.here
      |>.next (.tick _ 1 (by decide +kernel))
      |>.next (.pollMiss _ rfl rfl)
      |>.next (.readClock _ rfl)
      |>.next (.pastDeadline _ 1 rfl rfl (by decide +kernel))
      |>.next (.kill _ ⟨0, 0, 0⟩ rfl)
      |>.next (.reap _ .killed ⟨0, 0, 0⟩ rfl rfl)
      |>.next (.readWall _ .killed ⟨0, 0, 0⟩ rfl)
      |>.next (.measure _ .killed ⟨0, 0, 0⟩ _ rfl), rfl, rfl, rfl, by decide +kernel,
      by decide +kernel⟩

end IcpcVerify.Judge
