import IcpcVerify.Judge.Interactive
import IcpcVerify.Runner.InteractiveRuns

/-!
# When the pair timeout is honest

The deadline of the pair is tested with the clock reading taken before the waits,
and whether or not a process is still there.  A pair that has just finished by
itself is then reported as timed out, and the validator is blamed.  This file
gives the exact condition under which that does not happen.
-/

namespace IcpcVerify.Runner.InteractiveMain

open IcpcVerify.Python
open IcpcVerify.Timelimits
open IcpcVerify.Results
open IcpcVerify.Judge
open IcpcVerify.ScheduledLoop

variable (args : Args) (schedule : Schedule)

/-- The pair is only declared timed out in a round whose waits have left a process
unreaped. -/
def PairTimeoutHonest : Prop :=
  ∀ n, Executed args schedule n →
    (stateBefore args schedule n).pairTimedOut = false →
    (stateBefore args schedule (n + 1)).pairTimedOut = true →
      (poll schedule (schedule.tick n) (stateBefore args schedule n)).solStatus = none ∨
        (poll schedule (schedule.tick n) (stateBefore args schedule n)).valStatus = none

/-- A pair that ended by itself, the solution with status zero and within its
limits, the validator with 42, is accepted. -/
def FinishedPairAccepted : Prop :=
  ∀ n record (limits : TimeLimits) (memoryMib : ℤ), Left args schedule n →
    makeRecord (afterLoop schedule (stateBefore args schedule n)) = some record →
    .polled ∈ (stateBefore args schedule n).solWaits →
    .polled ∈ (stateBefore args schedule n).valWaits →
    (stateBefore args schedule n).solStatus = some (.exited 0) →
    (stateBefore args schedule n).valStatus = some (.exited 42) →
    record.solution.wall ≤ limits.limit →
    record.solution.maxRssKib ≤ memoryMib * 1024 →
      (classifyInteractive record limits memoryMib).1 = .accepted

/-- In every round whose clock reading has reached the deadline of the pair, some
process that was not reaped before has not ended by the time it is polled. -/
def OutlivedAtDeadline : Prop :=
  ∀ n, Executed args schedule n →
    pairDeadline args schedule ≤ (schedule.tick n).now →
      ((stateBefore args schedule n).solStatus = none ∧
          endedBy schedule.solution (schedule.tick n).solWait = none) ∨
        ((stateBefore args schedule n).valStatus = none ∧
          endedBy schedule.validator (schedule.tick n).valWait = none)

theorem solStatus_poll_eq_none_iff (tick : Tick) (s : State) :
    (poll schedule tick s).solStatus = none ↔
      s.solStatus = none ∧ endedBy schedule.solution tick.solWait = none := by
  rw [solStatus_poll]
  cases hstatus : s.solStatus with
  | some status => simp [pollSolution, hstatus]
  | none => cases hexit : endedBy schedule.solution tick.solWait <;>
      simp [pollSolution, hstatus, hexit]

theorem valStatus_poll_eq_none_iff (tick : Tick) (s : State) :
    (poll schedule tick s).valStatus = none ↔
      s.valStatus = none ∧ endedBy schedule.validator tick.valWait = none := by
  have hkept : (pollSolution schedule tick s).valStatus = s.valStatus := by
    rw [pollSolution]
    split
    · split <;> rfl
    · rfl
  cases hstatus : s.valStatus with
  | some status => simp [poll, pollValidator, hkept, hstatus]
  | none => cases hexit : endedBy schedule.validator tick.valWait <;>
      simp [poll, pollValidator, hkept, hstatus, hexit]

/-- The pair is not declared timed out before the round that does it. -/
theorem pairTimedOut_of_executed {n : ℕ} (hexecuted : Executed args schedule n) :
    (stateBefore args schedule n).pairTimedOut = false := by
  rw [← Bool.not_eq_true, pairTimedOut_iff]
  rintro ⟨k, hk, hexecuted', hexpires⟩
  have hleft := left_of_expires args schedule hexecuted' hexpires
  exact not_runs_iff_ended.2 (ended_mono hleft hk) hexecuted

/-- A round declares the pair timed out exactly when it takes that branch. -/
theorem pairTimedOut_succ_iff {n : ℕ} (hexecuted : Executed args schedule n) :
    (stateBefore args schedule (n + 1)).pairTimedOut = true ↔
      Expires args schedule (schedule.tick n) (stateBefore args schedule n) := by
  rw [stateBefore_succ args schedule hexecuted, pairTimedOut_loopBody,
    pairTimedOut_of_executed args schedule hexecuted]
  simp

theorem pairTimeoutHonest_iff :
    PairTimeoutHonest args schedule ↔ OutlivedAtDeadline args schedule := by
  constructor
  · intro hhonest n hexecuted hnow
    rw [← solStatus_poll_eq_none_iff, ← valStatus_poll_eq_none_iff]
    by_cases hkills :
        HardKills args schedule (schedule.tick n) (stateBefore args schedule n)
    · exact Or.inl (Option.isNone_iff_eq_none.1 hkills.1)
    · apply hhonest n hexecuted (pairTimedOut_of_executed args schedule hexecuted)
      exact (pairTimedOut_succ_iff args schedule hexecuted).2 ⟨hkills, hnow⟩
  · intro houtlived n hexecuted _ hset
    rw [solStatus_poll_eq_none_iff, valStatus_poll_eq_none_iff]
    exact houtlived n hexecuted ((pairTimedOut_succ_iff args schedule hexecuted).1 hset).2

/-- In the branch of the pair deadline, a process that is still there is reaped by
the wait behind its kill. -/
theorem collected_expirePair (tick : Tick) {s : State}
    (hunreaped : s.solStatus = none ∨ s.valStatus = none) :
    .collected ∈ (expirePair schedule tick s).solWaits ∨
      .collected ∈ (expirePair schedule tick s).valWaits := by
  rcases hunreaped with hsol | hval
  · left
    cases hval : s.valStatus <;>
      simp [expirePair, reapSolution, reapValidator, killSolution, killValidator, hsol, hval]
  · right
    cases hsol : s.solStatus <;>
      simp [expirePair, reapSolution, reapValidator, killSolution, killValidator, hsol, hval]

/-- An honest pair timeout cuts a process off. -/
theorem collected_of_pairTimedOut (hhonest : PairTimeoutHonest args schedule) {n : ℕ}
    (hpair : (stateBefore args schedule n).pairTimedOut = true) :
    .collected ∈ (stateBefore args schedule n).solWaits ∨
      .collected ∈ (stateBefore args schedule n).valWaits := by
  obtain ⟨k, hk, hexecuted, hexpires⟩ := (pairTimedOut_iff args schedule n).1 hpair
  have hleft := left_of_expires args schedule hexecuted hexpires
  have hlast : stateBefore args schedule n = stateBefore args schedule (k + 1) :=
    stateAt_of_ended hleft hk
  rw [hlast, stateBefore_succ args schedule hexecuted,
    loopBody_of_expires args schedule _ hexpires]
  apply collected_expirePair
  apply hhonest k hexecuted (pairTimedOut_of_executed args schedule hexecuted)
  exact (pairTimedOut_succ_iff args schedule hexecuted).2 hexpires

/-- Where the pair timeout is honest, a pair that ended by itself is accepted. -/
theorem finishedPairAccepted_of_honest (hhonest : PairTimeoutHonest args schedule) :
    FinishedPairAccepted args schedule := by
  intro n record limits memoryMib hleft hrecord hsolPolled hvalPolled hsolStatus hvalStatus
    hwall hmemory
  have hs := consistent_stateBefore args schedule n
  have hsolOnly : .collected ∉ (stateBefore args schedule n).solWaits := by
    intro hcollected
    exact absurd (hs.solution.success_unique hsolPolled hcollected (by decide) (by decide))
      (by decide)
  have hvalOnly : .collected ∉ (stateBefore args schedule n).valWaits := by
    intro hcollected
    exact absurd (hs.validator.success_unique hvalPolled hcollected (by decide) (by decide))
      (by decide)
  have htimed : (stateBefore args schedule n).solTimedOut = false := by
    rw [← Bool.not_eq_true]
    exact fun h => hsolOnly (collected_of_solTimedOut args schedule h)
  have hpair : (stateBefore args schedule n).pairTimedOut = false := by
    rw [← Bool.not_eq_true]
    exact fun h => (collected_of_pairTimedOut args schedule hhonest h).elim hsolOnly hvalOnly
  obtain ⟨usage, husage⟩ := Option.isSome_iff_exists.1
    (hs.usage.trans (by rw [hsolStatus]; rfl))
  obtain ⟨wall, hwallClock⟩ := Option.isSome_iff_exists.1
    (hs.wall.trans (by rw [hsolStatus]; rfl))
  rw [afterLoop_of_left args schedule hleft] at hrecord
  simp only [makeRecord, hsolStatus, hvalStatus, husage, hwallClock, htimed, hpair,
    Option.some.injEq] at hrecord
  subst hrecord
  rw [classifyInteractive_accepted_iff]
  have hin : ¬SolutionOverLimit
      ⟨roundTo 6 wall, usage.cpu, usage.maxrss, 0, 0, false⟩ limits := by
    rintro (h | h)
    · cases h
    · exact absurd hwall (not_le.2 h)
  exact ⟨hin, rfl, rfl, hmemory, Or.inr ⟨rfl, rfl⟩⟩

/-- The pair timeout is honest, with what follows from it, in exactly the runs in
which at the deadline of the pair some process outlives its poll. -/
theorem pairTimeout_honest_iff :
    PairTimeoutHonest args schedule ∧ FinishedPairAccepted args schedule ↔
      OutlivedAtDeadline args schedule := by
  rw [← pairTimeoutHonest_iff]
  constructor
  · exact fun h => h.1
  · exact fun h => ⟨h, finishedPairAccepted_of_honest args schedule h⟩

/-- The solution ends after half a second with status zero; the validator accepts
just before the deadline of the pair, and is next polled at the deadline. -/
def finishedJustInTime : Schedule :=
  Schedule.ofInstants (some ⟨1 / 2, .exited 0, ⟨1 / 10, 0, 1000⟩⟩)
    (some ⟨7998 / 1000, .exited 42, ⟨1 / 10, 0, 1000⟩⟩)
    (fun n => 1 / 2 + 15 / 2 * n) (by norm_num) (by intro n; push_cast; linarith)

/-- Both processes have ended by themselves and nothing was killed, but the pair is
declared timed out, and the run is a `judge_error`. -/
theorem finishedJustInTime_not_honest :
    ¬PairTimeoutHonest ⟨3, 8⟩ finishedJustInTime ∧
      ¬FinishedPairAccepted ⟨3, 8⟩ finishedJustInTime := by
  constructor
  · intro hhonest
    have hunreaped := hhonest 1 (by decide +kernel) (by decide +kernel) (by decide +kernel)
    revert hunreaped
    decide +kernel
  · intro haccepted
    have hverdict := haccepted 2
      ⟨⟨1 / 2, 1 / 10, 1000, 0, 0, false⟩, 42, 0, true⟩ ⟨1, 2, 3⟩ 2048
      (by decide +kernel) (by decide +kernel) (by decide +kernel) (by decide +kernel)
      (by decide +kernel) (by decide +kernel) (by decide +kernel) (by decide +kernel)
    revert hverdict
    decide +kernel

end IcpcVerify.Runner.InteractiveMain
