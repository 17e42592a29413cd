import IcpcVerify.Judge.Interactive
import IcpcVerify.Runner.InteractiveRuns

/-!
# From an interactive run to a verdict

The runner may kill either process, and a killed process leaves a status like one that
crashed.  On every schedule a verdict that speaks about the solution is nevertheless
about how the solution and the validator ended by themselves.
-/

namespace IcpcVerify.Runner.InteractiveMain

open IcpcVerify.Python
open IcpcVerify.Timelimits
open IcpcVerify.Results
open IcpcVerify.Judge
open IcpcVerify.ScheduledLoop

variable (args : Args) (schedule : Schedule)

/-! ## Statuses without a kill -/

/-- The locals describe how the solution ended by itself. -/
structure SolutionEnd (s : State) (exit : Exit) : Prop where
  scheduled : schedule.solution = some exit
  status : s.solStatus = some exit.status
  usage : s.solUsage = some exit.usage
  wall : ∃ wall, s.wall = some wall ∧ exit.instant - schedule.started ≤ wall

/-- The locals describe how the validator ended by itself. -/
structure ValidatorEnd (s : State) (exit : Exit) : Prop where
  scheduled : schedule.validator = some exit
  status : s.valStatus = some exit.status

/-- Unless the flags tell of a kill, the reaped processes ended by themselves. -/
structure OwnEnds (s : State) : Prop where
  solution : s.solTimedOut = false → s.pairTimedOut = false → s.solStatus.isSome = true →
    ∃ exit, SolutionEnd schedule s exit
  validator : s.pairTimedOut = false → s.valStatus.isSome = true →
    ∃ exit, ValidatorEnd schedule s exit

theorem ownEnds_start : OwnEnds schedule start :=
  ⟨fun _ _ h => (by cases h), fun _ h => (by cases h)⟩

theorem ownEnds_pollSolution {tick : Tick} (hordered : tick.Ordered) {s : State}
    (hs : OwnEnds schedule s) : OwnEnds schedule (pollSolution schedule tick s) := by
  rw [pollSolution]
  split
  · next hunset =>
    split
    · next exit hended =>
      obtain ⟨hexit, hinstant⟩ := Option.filter_eq_some_iff.1 hended
      have hwall : exit.instant ≤ tick.solWall :=
        (of_decide_eq_true hinstant).trans hordered.solWait_solWall
      refine ⟨fun _ _ _ => ⟨exit, hexit, rfl, rfl, _, rfl, ?_⟩, fun hpair hset => ?_⟩
      · exact sub_le_sub_right hwall _
      · obtain ⟨valExit, hvalidator⟩ := hs.validator hpair hset
        exact ⟨valExit, hvalidator.scheduled, hvalidator.status⟩
    · refine ⟨fun _ _ hset => ?_, fun hpair hset => ?_⟩
      · simp [Option.isNone_iff_eq_none.1 hunset] at hset
      · obtain ⟨valExit, hvalidator⟩ := hs.validator hpair hset
        exact ⟨valExit, hvalidator.scheduled, hvalidator.status⟩
  · exact hs

theorem ownEnds_pollValidator (tick : Tick) {s : State} (hs : OwnEnds schedule s) :
    OwnEnds schedule (pollValidator schedule tick s) := by
  have hsolution : ∀ {s' : State}, s'.solTimedOut = s.solTimedOut →
      s'.pairTimedOut = s.pairTimedOut → s'.solStatus = s.solStatus →
        s'.solUsage = s.solUsage → s'.wall = s.wall → s'.solTimedOut = false →
          s'.pairTimedOut = false → s'.solStatus.isSome = true →
            ∃ exit, SolutionEnd schedule s' exit := by
    intro s' htimed hpair hstatus husage hwall htimed' hpair' hset
    obtain ⟨exit, hend⟩ := hs.solution (htimed ▸ htimed') (hpair ▸ hpair') (hstatus ▸ hset)
    refine ⟨exit, hend.scheduled, ?_, ?_, ?_⟩
    · rw [hstatus, hend.status]
    · rw [husage, hend.usage]
    · rw [hwall]
      exact hend.wall
  rw [pollValidator]
  split
  · next hunset =>
    split
    · next exit hended =>
      obtain ⟨hexit, -⟩ := Option.filter_eq_some_iff.1 hended
      exact ⟨hsolution rfl rfl rfl rfl rfl, fun _ _ => ⟨exit, hexit, rfl⟩⟩
    · refine ⟨hsolution rfl rfl rfl rfl rfl, fun _ hset => ?_⟩
      simp [Option.isNone_iff_eq_none.1 hunset] at hset
  · exact hs

/-- A round that kills raises a flag, so it has nothing to show. -/
theorem ownEnds_loopBody {tick : Tick} (hordered : tick.Ordered) {s : State}
    (hs : OwnEnds schedule s) : OwnEnds schedule (loopBody args schedule tick s) := by
  have hpolled : OwnEnds schedule (poll schedule tick s) :=
    ownEnds_pollValidator schedule tick (ownEnds_pollSolution schedule hordered hs)
  by_cases hkills : HardKills args schedule tick s
  · rw [loopBody_of_hardKills args schedule tick hkills]
    refine ⟨fun htimed => ?_, fun hpair hset => ?_⟩
    · cases htimed
    · obtain ⟨exit, hvalidator⟩ := hpolled.validator hpair hset
      exact ⟨exit, hvalidator.scheduled, hvalidator.status⟩
  by_cases hexpires : Expires args schedule tick s
  · have hpair := (pairTimedOut_loopBody args schedule tick s).2 (Or.inr hexpires)
    refine ⟨fun _ hpair' => ?_, fun hpair' => ?_⟩
    · exact absurd (hpair'.symm.trans hpair) Bool.false_ne_true
    · exact absurd (hpair'.symm.trans hpair) Bool.false_ne_true
  · rw [loopBody_of_neither args schedule tick hkills hexpires]
    exact hpolled

theorem ownEnds_stateBefore (n : ℕ) : OwnEnds schedule (stateBefore args schedule n) := by
  apply invariant (OwnEnds schedule) (ownEnds_start schedule)
  intro k _ hs
  exact ownEnds_loopBody args schedule (schedule.ordered k) hs

/-! ## Verdicts about the solution -/

/-- The record is about processes that ended by themselves. -/
structure OwnRecord (record : InteractiveRecord) (solExit valExit : Exit) : Prop where
  solution : schedule.solution = some solExit
  validator : schedule.validator = some valExit
  exitCode : record.solution.exitCode = solExit.status.exitCode
  signal : record.solution.signal = solExit.status.signal
  cpu : record.solution.cpu = solExit.usage.cpu
  maxRssKib : record.solution.maxRssKib = solExit.usage.maxrss
  wall : ∃ wall, record.solution.wall = roundTo 6 wall ∧
    solExit.instant - schedule.started ≤ wall
  validatorExit : record.validatorExit = valExit.status.exitCode
  validatorSignal : record.validatorSignal = valExit.status.signal

variable {n : ℕ} {record : InteractiveRecord}

/-- A record without a time flag is about the processes' own ends. -/
theorem ownRecord_of_left (hleft : Left args schedule n)
    (hrecord : makeRecord (afterLoop schedule (stateBefore args schedule n)) = some record)
    (htimed : record.solution.timedOut = false) (hpair : record.pairTimedOut = false) :
    ∃ solExit valExit, OwnRecord schedule record solExit valExit := by
  obtain ⟨record', hrecord', htimedOut, hpairTimedOut⟩ := makeRecord_of_left args schedule hleft
  obtain rfl := Option.some.inj (hrecord.symm.trans hrecord')
  obtain ⟨hsol, hval⟩ := left_set args schedule hleft
  have hown := ownEnds_stateBefore args schedule n
  obtain ⟨solExit, hsolution⟩ :=
    hown.solution (htimedOut ▸ htimed) (hpairTimedOut ▸ hpair) hsol
  obtain ⟨valExit, hvalidator⟩ := hown.validator (hpairTimedOut ▸ hpair) hval
  obtain ⟨wall, hwall, hinstant⟩ := hsolution.wall
  rw [afterLoop_of_left args schedule hleft, makeRecord, hsolution.status, hsolution.usage, hwall,
    hvalidator.status] at hrecord
  obtain rfl := Option.some.inj hrecord
  exact ⟨solExit, valExit, hsolution.scheduled, hvalidator.scheduled, rfl, rfl, rfl, rfl,
    ⟨wall, rfl, hinstant⟩, rfl, rfl⟩

/-- The solution's own end speaks for it: status zero, or a write to a validator that was
already gone. -/
def EndedFine (status : WaitStatus) : Prop :=
  status.exitCode = 0 ∨ status.signal = sigpipe

instance (status : WaitStatus) : Decidable (EndedFine status) :=
  inferInstanceAs (Decidable (_ ∨ _))

theorem endedWell_iff_endedFine {status : WaitStatus}
    (hexit : record.solution.exitCode = status.exitCode)
    (hsignal : record.solution.signal = status.signal) :
    EndedWell record.solution ↔ EndedFine status := by
  rw [EndedWell, hexit, hsignal, EndedFine]
  cases status with
  | exited code => simp [WaitStatus.exitCode, WaitStatus.signal, sigpipe]
  | signaled number => simp [WaitStatus.exitCode, WaitStatus.signal, sigpipe]
  | other => simp [WaitStatus.exitCode, WaitStatus.signal, sigpipe]

/-- What the own ends of the two processes amount to. -/
def ownVerdict (memoryMib : ℤ) (solExit valExit : Exit) : Verdict :=
  if solExit.usage.maxrss > memoryMib * 1024 then .runTimeError
  else if ¬EndedFine solExit.status then .runTimeError
  else if valExit.status.exitCode = 42 then .accepted
  else .wrongAnswer

/-- On every schedule, a verdict other than for time or for the judge's own fault comes
from processes that both ended by themselves, the validator with one of its two answers
and the solution in time; and a solution that was killed at its deadline gets the verdict
for time. -/
theorem classifyInteractive_of_left (hleft : Left args schedule n)
    (hrecord : makeRecord (afterLoop schedule (stateBefore args schedule n)) = some record)
    (limits : TimeLimits) (memoryMib : ℤ) :
    ((classifyInteractive record limits memoryMib).1 ∈
          [.accepted, .wrongAnswer, .runTimeError] →
        ∃ solExit valExit, OwnRecord schedule record solExit valExit ∧
          record.solution.wall ≤ limits.limit ∧
          (valExit.status.exitCode = 42 ∨ valExit.status.exitCode = 43) ∧
          (classifyInteractive record limits memoryMib).1 =
            ownVerdict memoryMib solExit valExit) ∧
      ((∃ k < n, Executed args schedule k ∧
          HardKills args schedule (schedule.tick k) (stateBefore args schedule k)) →
        (classifyInteractive record limits memoryMib).1 = .timeLimitExceeded) := by
  constructor
  · intro hverdict
    have hin : ¬SolutionOverLimit record.solution limits := by
      rw [← classifyInteractive_timeLimitExceeded_iff record limits memoryMib]
      rintro heq
      rw [heq] at hverdict
      simp at hverdict
    have hanswered : ValidatorAnswered record := by
      by_contra hunanswered
      rw [classifyInteractive_of_not_answered record limits memoryMib hin hunanswered] at hverdict
      simp at hverdict
    obtain ⟨htimed, hwall⟩ := not_or.1 hin
    obtain ⟨solExit, valExit, hown⟩ := ownRecord_of_left args schedule hleft hrecord
      (by simpa using htimed) hanswered.1
    have hexit := hanswered.2
    rw [hown.validatorExit] at hexit
    refine ⟨solExit, valExit, hown, not_lt.1 hwall, hexit, ?_⟩
    rw [classifyInteractive_of_answered record limits memoryMib hin hanswered, ownVerdict,
      hown.maxRssKib, hown.validatorExit]
    simp only [endedWell_iff_endedFine hown.exitCode hown.signal]
  · intro hkilled
    have htimed : record.solution.timedOut = true := by
      obtain ⟨record', hrecord', htimedOut, -⟩ := makeRecord_of_left args schedule hleft
      obtain rfl := Option.some.inj (hrecord.symm.trans hrecord')
      rw [htimedOut]
      exact (solTimedOut_iff args schedule n).2 hkilled
    exact (classifyInteractive_timeLimitExceeded_iff record limits memoryMib).2 (Or.inl htimed)

/-- Both processes end at once, the validator with its accepting answer. -/
def prompt : Schedule :=
  Schedule.ofInstants (some ⟨0, .exited ⟨0, by decide⟩, ⟨0, 0, 0⟩⟩)
    (some ⟨0, .exited ⟨42, by decide⟩, ⟨0, 0, 0⟩⟩) (fun n => n) (by norm_num)
    (by intro n; push_cast; linarith)

/-- The record of that run is accepted for what both did. -/
theorem classifyInteractive_of_left_prompt :
    ∃ solExit valExit, OwnRecord prompt ⟨⟨0, 0, 0, 0, 0, false⟩, 42, 0, false⟩ solExit valExit ∧
      ownVerdict 2048 solExit valExit = .accepted := by
  have hrecord : makeRecord (afterLoop prompt (stateBefore ⟨2, 7⟩ prompt 1)) =
      some ⟨⟨0, 0, 0, 0, 0, false⟩, 42, 0, false⟩ := by
    decide +kernel
  have hverdict : (classifyInteractive ⟨⟨0, 0, 0, 0, 0, false⟩, 42, 0, false⟩ ⟨1, 1, 2⟩ 2048).1 =
      .accepted := by
    decide +kernel
  obtain ⟨hown, -⟩ := classifyInteractive_of_left ⟨2, 7⟩ prompt (n := 1) (by decide +kernel)
    hrecord ⟨1, 1, 2⟩ 2048
  obtain ⟨solExit, valExit, hrecorded, -, -, hsame⟩ := hown (by rw [hverdict]; simp)
  exact ⟨solExit, valExit, hrecorded, hsame.symm.trans hverdict⟩

end IcpcVerify.Runner.InteractiveMain
