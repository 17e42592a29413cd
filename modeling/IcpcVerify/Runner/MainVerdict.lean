import IcpcVerify.Judge.Outcomes
import IcpcVerify.Runner.Main

/-!
# From the runner's record to a verdict

Both kill paths of the runner leave signal 9 behind, so the verdict hangs on the
flags it records and on the order in which they are classified.  Here the records
of all runs meet `classify_run`.
-/

namespace IcpcVerify.Runner.Main

open IcpcVerify.Python
open IcpcVerify.Timelimits
open IcpcVerify.Results
open IcpcVerify.Judge
open IcpcVerify.Transition

variable {args : Args} {started : ℚ} {s : State} {record : RunRecord}

theorem sizeOver_iff {stdout : Option ℕ} {limit : ℤ} :
    sizeOver stdout limit = true ↔ ∃ size, stdout = some size ∧ limit < size := by
  cases stdout <;> simp [sizeOver]

/-- Everything a finished run says about its record. -/
theorem done_cases (hreach : Reachable (Step args) (start started) s)
    (hdone : s.pc = .done record) :
    ∃ status usage wall, OwnUnlessKilled s status ∧
      record = makeRecord status usage wall s.timedOut
        (sizeOver s.stdout args.outputLimit) := by
  have hposition := (statusSound hreach).position
  rw [hdone] at hposition
  exact hposition.2

theorem done_timedOut_iff (hreach : Reachable (Step args) (start started) s)
    (hdone : s.pc = .done record) :
    record.timedOut = true ↔ s.killedFor = some .deadline := by
  obtain ⟨status, usage, wall, -, rfl⟩ := done_cases hreach hdone
  exact (flagsSound hreach).timedOut

/-- The output flag is raised exactly when the final size is over the limit. -/
theorem done_outputLimitExceeded_iff
    (hreach : Reachable (Step args) (start started) s) (hdone : s.pc = .done record) :
    record.outputLimitExceeded = true ↔
      ∃ size, s.stdout = some size ∧ args.outputLimit < size := by
  obtain ⟨status, usage, wall, -, rfl⟩ := done_cases hreach hdone
  exact sizeOver_iff

/-- A run killed for its output has the output flag and not the time flag. -/
theorem done_of_killed_output (hreach : Reachable (Step args) (start started) s)
    (hdone : s.pc = .done record) (hkilled : s.killedFor = some .output) :
    record.outputLimitExceeded = true ∧ record.timedOut = false := by
  constructor
  · obtain ⟨status, usage, wall, -, rfl⟩ := done_cases hreach hdone
    exact (outputSound hreach).exceeded ((flagsSound hreach).exceeded.2 hkilled)
  · rw [← Bool.not_eq_true, done_timedOut_iff hreach hdone, hkilled]
    decide

/-- A run without either flag was not killed by the runner. -/
theorem done_not_killed (hreach : Reachable (Step args) (start started) s)
    (hdone : s.pc = .done record) (houtput : record.outputLimitExceeded = false)
    (htimed : record.timedOut = false) : s.killedFor = none := by
  cases hkilled : s.killedFor with
  | none => rfl
  | some cause =>
      cases cause with
      | output =>
          have hflag := (done_of_killed_output hreach hdone hkilled).1
          exact absurd (houtput.symm.trans hflag) Bool.false_ne_true
      | deadline =>
          have hflag := (done_timedOut_iff hreach hdone).2 hkilled
          exact absurd (htimed.symm.trans hflag) Bool.false_ne_true

/-- A record of a clean exit comes from a child that left by itself with status
zero, when the runner did not kill it. -/
theorem done_own_exit (hreach : Reachable (Step args) (start started) s)
    (hdone : s.pc = .done record) (hnone : s.killedFor = none)
    (hsignal : record.signal = 0) (hexit : record.exitCode = 0) :
    s.ownExit = some (.exited 0) := by
  obtain ⟨status, usage, wall, hown, rfl⟩ := done_cases hreach hdone
  have hcode : status.exitCode = ((0 : Fin 256).val : ℤ) := hexit
  rw [hown hnone, WaitStatus.eq_exited_of_exitCode hcode]

/-- The runner and the classifier compose: for every run, whatever the order in
which the child, the watcher, the main loop and the clock moved. -/
theorem classifyRun_of_done (limits : TimeLimits) (compareOk : Bool)
    (compareMessage : PyStr) (hreach : Reachable (Step args) (start started) s)
    (hdone : s.pc = .done record) :
    (s.killedFor = some .output → record.wall ≤ limits.limit →
        classifyRun (measurementOf record false) limits compareOk compareMessage =
          (.wrongAnswer, py "OLE. 출력이 제한을 넘었습니다")) ∧
      (s.killedFor = some .deadline →
        (classifyRun (measurementOf record false) limits compareOk compareMessage).1 =
          .timeLimitExceeded) ∧
      ((classifyRun (measurementOf record false) limits compareOk compareMessage).1 =
          .accepted →
        s.killedFor = none ∧ s.ownExit = some (.exited 0) ∧
          (∃ size, s.stdout = some size ∧ size ≤ args.outputLimit) ∧
            record.wall ≤ limits.limit ∧ compareOk = true) ∧
      (record.outputLimitExceeded = true ↔
        ∃ size, s.stdout = some size ∧ args.outputLimit < size) := by
  refine ⟨?_, ?_, ?_, done_outputLimitExceeded_iff hreach hdone⟩
  · intro hkilled hwall
    obtain ⟨houtput, htimed⟩ := done_of_killed_output hreach hdone hkilled
    have hin : ¬((measurementOf record false).timedOut = true ∨
        (measurementOf record false).wall > limits.limit) := by
      simpa [measurementOf, htimed] using hwall
    have hover : (measurementOf record false).outputLimitExceeded = true := houtput
    rw [classifyRun, if_neg hin, if_pos hover]
  · intro hkilled
    apply (classifyRun_timeLimitExceeded_iff _ _ _ _).2
    exact Or.inl ((done_timedOut_iff hreach hdone).2 hkilled)
  · intro haccepted
    obtain ⟨hhealthy, hcompare⟩ := (classifyRun_accepted_iff _ _ _ _).1 haccepted
    have hnone : s.killedFor = none :=
      done_not_killed hreach hdone hhealthy.output hhealthy.in_time.1
    have hown := done_own_exit hreach hdone hnone hhealthy.signal hhealthy.exitCode
    refine ⟨hnone, hown, ?_, hhealthy.in_time.2, hcompare⟩
    obtain ⟨size, hsize⟩ := Option.isSome_iff_exists.1 (outputSound hreach).kept
    refine ⟨size, hsize, ?_⟩
    have hunder : ¬record.outputLimitExceeded = true := by
      rw [show record.outputLimitExceeded = false from hhealthy.output]
      exact Bool.false_ne_true
    rw [done_outputLimitExceeded_iff hreach hdone] at hunder
    exact not_lt.1 fun hlt => hunder ⟨size, hsize, hlt⟩

/-- A run in which the watcher finds the output over the limit and the main loop
kills the child for it. -/
theorem classifyRun_of_done_flooded :
    ∃ (s : State) (record : RunRecord),
      s.pc = .done record ∧ s.killedFor = some .output ∧
        classifyRun (measurementOf record false) ⟨1, 1, 2⟩ true [] =
          (.wrongAnswer, py "OLE. 출력이 제한을 넘었습니다") := by
  have hreach : ∃ (s : State) (record : RunRecord),
      Reachable (Step ⟨2, 10⟩) (start 0) s ∧ s.pc = .done record ∧
        s.killedFor = some .output ∧ record.wall ≤ 1 :=
    ⟨_, _, Reachable.here
      |>.next (.write _ 0 20 rfl (by decide) (fun _ => nofun))
      |>.next (.watchWake _ rfl rfl)
      |>.next (.watchOver _ rfl (by decide))
      |>.next (.watchAppend _ true rfl)
      |>.next (.pollMiss _ rfl rfl)
      |>.next (.readClock _ rfl)
      |>.next (.sawOutput _ 0 rfl rfl)
      |>.next (.kill _ ⟨0, 0, 0⟩ rfl)
      |>.next (.reap _ .killed ⟨0, 0, 0⟩ rfl rfl)
      |>.next (.readWall _ .killed ⟨0, 0, 0⟩ rfl)
      |>.next (.measure _ .killed ⟨0, 0, 0⟩ _ rfl), rfl, rfl, by decide +kernel⟩
  obtain ⟨s, record, hreach, hdone, hkilled, hwall⟩ := hreach
  exact ⟨s, record, hdone, hkilled,
    (classifyRun_of_done ⟨1, 1, 2⟩ true [] hreach hdone).1 hkilled hwall⟩

end IcpcVerify.Runner.Main
