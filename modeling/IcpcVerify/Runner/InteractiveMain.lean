import IcpcVerify.Core.ScheduledLoop
import IcpcVerify.Runner.Record

/-!
# The interactive runner

`interactive_runner.py` starts the validator and the solution on two pipes and
polls both.  Each round reads the clock once, tries both waits, and then tests the
solution's deadline and the deadline of the pair.  When each process ends on its
own, and when each call of each round happens, is a schedule.
-/

namespace IcpcVerify.Runner.InteractiveMain

open IcpcVerify.Python
open IcpcVerify.ScheduledLoop

structure Args where
  hardKill : ℚ
  pairTimeout : ℚ

/-- A process that ends on its own, by exit or by a signal of its own making. -/
structure Exit where
  instant : ℚ
  status : WaitStatus
  usage : Usage

/-- When the calls of one round happen. -/
structure Tick where
  /-- the clock reading at the head of the round -/
  now : ℚ
  solWait : ℚ
  /-- the clock reading that follows a successful wait -/
  solWall : ℚ
  valWait : ℚ
  solKill : ℚ
  /-- what a killed solution has used -/
  solKillUsage : Usage
  /-- the clock reading that follows the blocking wait -/
  solKillWall : ℚ
  valKill : ℚ

/-- The calls of a round come in the order of the program. -/
structure Tick.Ordered (tick : Tick) : Prop where
  now_solWait : tick.now ≤ tick.solWait
  solWait_solWall : tick.solWait ≤ tick.solWall
  solWall_valWait : tick.solWall ≤ tick.valWait
  valWait_solKill : tick.valWait ≤ tick.solKill
  solKill_solKillWall : tick.solKill ≤ tick.solKillWall
  solKillWall_valKill : tick.solKillWall ≤ tick.valKill

/-- Everything a run of the program meets, on a clock that never goes back. -/
structure Schedule where
  started : ℚ
  solution : Option Exit
  validator : Option Exit
  tick : ℕ → Tick
  /-- when the process groups are killed after the loop -/
  lastKill : ℚ
  ordered : ∀ n, (tick n).Ordered
  started_le : started ≤ (tick 0).now
  next : ∀ n, (tick n).valKill ≤ (tick (n + 1)).now

/-- A round whose calls all happen at one instant. -/
def Tick.at (instant : ℚ) : Tick :=
  ⟨instant, instant, instant, instant, instant, ⟨0, 0, 0⟩, instant, instant⟩

/-- The schedule of rounds that each happen at one instant. -/
def Schedule.ofInstants (solution validator : Option Exit) (instants : ℕ → ℚ)
    (hstart : 0 ≤ instants 0) (hmono : ∀ n, instants n ≤ instants (n + 1)) :
    Schedule where
  started := 0
  solution := solution
  validator := validator
  tick n := Tick.at (instants n)
  lastKill := 0
  ordered _ := ⟨le_rfl, le_rfl, le_rfl, le_rfl, le_rfl, le_rfl⟩
  started_le := hstart
  next := hmono

/-- How one `wait4` or `waitpid` on a child came back. -/
inductive Wait where
  /-- without blocking, and the child was still running -/
  | notYet
  /-- without blocking, with the child's status -/
  | polled
  /-- after blocking, with the child's status -/
  | collected
  deriving DecidableEq

/-- The locals of `main` that the loop changes, and the waits issued so far. -/
structure State where
  solStatus : Option WaitStatus
  solUsage : Option Usage
  valStatus : Option WaitStatus
  solTimedOut : Bool
  pairTimedOut : Bool
  wall : Option ℚ
  /-- whether the loop was left by `break` -/
  broken : Bool
  /-- History: the waits on the solution. -/
  solWaits : List Wait
  /-- History: the waits on the validator. -/
  valWaits : List Wait
  deriving DecidableEq

def start : State where
  solStatus := none
  solUsage := none
  valStatus := none
  solTimedOut := false
  pairTimedOut := false
  wall := none
  broken := false
  solWaits := []
  valWaits := []

/-- The exit of a process that has ended on its own by `instant`. -/
def endedBy (exit : Option Exit) (instant : ℚ) : Option Exit :=
  exit.filter fun exit => exit.instant ≤ instant

/-- Status of a process whose group is killed at `instant`. -/
def statusAfterKill (exit : Option Exit) (instant : ℚ) : WaitStatus :=
  match endedBy exit instant with
  | some exit => exit.status
  | none => .killed

/-- Usage of a process whose group is killed at `instant`. -/
def usageAfterKill (exit : Option Exit) (instant : ℚ) (usage : Usage) : Usage :=
  match endedBy exit instant with
  | some exit => exit.usage
  | none => usage

section Program

variable (args : Args) (schedule : Schedule)

def deadline : ℚ :=
  schedule.started + args.hardKill

def pairDeadline : ℚ :=
  schedule.started + args.pairTimeout

/-- `os.wait4(solution.pid, os.WNOHANG)`, unless the solution was reaped. -/
def pollSolution (tick : Tick) (s : State) : State :=
  if s.solStatus.isNone then
    match endedBy schedule.solution tick.solWait with
    | some exit =>
        { s with
          solStatus := some exit.status
          solUsage := some exit.usage
          wall := some (tick.solWall - schedule.started)
          solWaits := s.solWaits ++ [.polled] }
    | none => { s with solWaits := s.solWaits ++ [.notYet] }
  else s

/-- `os.waitpid(validator.pid, os.WNOHANG)`, unless the validator was reaped. -/
def pollValidator (tick : Tick) (s : State) : State :=
  if s.valStatus.isNone then
    match endedBy schedule.validator tick.valWait with
    | some exit =>
        { s with
          valStatus := some exit.status
          valWaits := s.valWaits ++ [.polled] }
    | none => { s with valWaits := s.valWaits ++ [.notYet] }
  else s

/-- The two non-blocking waits of a round. -/
def poll (tick : Tick) (s : State) : State :=
  pollValidator schedule tick (pollSolution schedule tick s)

/-- Kills the solution's group and waits for the solution. -/
def killSolution (tick : Tick) (s : State) : State :=
  { s with
    solStatus := some (statusAfterKill schedule.solution tick.solKill)
    solUsage := some (usageAfterKill schedule.solution tick.solKill tick.solKillUsage)
    wall := some (tick.solKillWall - schedule.started)
    solWaits := s.solWaits ++ [.collected] }

/-- Kills the validator's group and waits for the validator. -/
def killValidator (instant : ℚ) (s : State) : State :=
  { s with
    valStatus := some (statusAfterKill schedule.validator instant)
    valWaits := s.valWaits ++ [.collected] }

/-- Kills and reaps the solution if it was not reaped. -/
def reapSolution (tick : Tick) (s : State) : State :=
  if s.solStatus.isNone then killSolution schedule tick s else s

/-- Kills and reaps the validator if it was not reaped. -/
def reapValidator (instant : ℚ) (s : State) : State :=
  if s.valStatus.isNone then killValidator schedule instant s else s

/-- The branch taken when the deadline of the pair has passed. -/
def expirePair (tick : Tick) (s : State) : State :=
  let s := { s with pairTimedOut := true }
  let s := reapSolution schedule tick s
  let s := reapValidator schedule tick.valKill s
  { s with broken := true }

/-- One round of the loop. -/
def loopBody (tick : Tick) (s : State) : State :=
  let s := poll schedule tick s
  if s.solStatus.isNone ∧ deadline args schedule ≤ tick.now then
    killSolution schedule tick { s with solTimedOut := true }
  else if pairDeadline args schedule ≤ tick.now then expirePair schedule tick s
  else s

/-- `while sol_status is None or val_status is None`, with its `break`. -/
def pollLoop : Loop State Tick where
  guard s := !s.broken && (s.solStatus.isNone || s.valStatus.isNone)
  body := loopBody args schedule

/-- The state before round `n`. -/
def stateBefore (n : ℕ) : State :=
  stateAt (pollLoop args schedule) schedule.tick start n

/-- Round `n` is executed. -/
def Executed (n : ℕ) : Prop :=
  Runs (pollLoop args schedule) schedule.tick start n

/-- The loop is left before round `n`. -/
def Left (n : ℕ) : Prop :=
  EndedBy (pollLoop args schedule) schedule.tick start n

instance (n : ℕ) : Decidable (Executed args schedule n) :=
  inferInstanceAs (Decidable (Runs _ _ _ _))

instance (n : ℕ) : Decidable (Left args schedule n) :=
  inferInstanceAs (Decidable (EndedBy _ _ _ _))

/-- What follows the loop up to the record: the last wait, where it is needed. -/
def afterLoop (s : State) : State :=
  reapValidator schedule schedule.lastKill s

/-- The record; `none` is the exception that an unset local would cause. -/
def makeRecord (s : State) : Option InteractiveRecord :=
  match s.solStatus, s.solUsage, s.wall, s.valStatus with
  | some solStatus, some solUsage, some wall, some valStatus =>
      some
        { solution :=
            { wall := roundTo 6 wall
              cpu := solUsage.cpu
              maxRssKib := solUsage.maxrss
              exitCode := solStatus.exitCode
              signal := solStatus.signal
              timedOut := s.solTimedOut }
          validatorExit := valStatus.exitCode
          validatorSignal := valStatus.signal
          pairTimedOut := s.pairTimedOut }
  | _, _, _, _ => none

end Program

/-! ## Invariants of the loop -/

/-- The waits on a child: none has succeeded while its status is unset, and
exactly the last one has once it is set. -/
def Waited (waits : List Wait) : Option WaitStatus → Prop
  | none => ∀ wait ∈ waits, wait = .notYet
  | some _ => ∃ earlier last, waits = earlier ++ [last] ∧ last ≠ .notYet ∧
      ∀ wait ∈ earlier, wait = .notYet

theorem Waited.notYet {waits : List Wait} (hwaited : Waited waits none) :
    Waited (waits ++ [.notYet]) none := by
  intro wait hwait
  rcases List.mem_append.1 hwait with hearlier | hlast
  · exact hwaited wait hearlier
  · exact List.mem_singleton.1 hlast

theorem Waited.success {waits : List Wait} (hwaited : Waited waits none) {last : Wait}
    (hlast : last ≠ .notYet) (status : WaitStatus) :
    Waited (waits ++ [last]) (some status) :=
  ⟨waits, last, rfl, hlast, hwaited⟩

/-- Only one wait on a child succeeds, so it is reaped in one way only. -/
theorem Waited.success_unique {waits : List Wait} {status : Option WaitStatus}
    (hwaited : Waited waits status) {wait wait' : Wait} (hmem : wait ∈ waits)
    (hmem' : wait' ∈ waits) (hne : wait ≠ .notYet) (hne' : wait' ≠ .notYet) :
    wait = wait' := by
  cases status with
  | none => exact absurd (hwaited wait hmem) hne
  | some status =>
      obtain ⟨earlier, last, rfl, -, hearlier⟩ := hwaited
      have hlast : ∀ w ∈ earlier ++ [last], w ≠ .notYet → w = last := by
        intro w hw hsuccess
        rcases List.mem_append.1 hw with hold | hnew
        · exact absurd (hearlier w hold) hsuccess
        · exact List.mem_singleton.1 hnew
      rw [hlast wait hmem hne, hlast wait' hmem' hne']

/-- What holds of the locals before and after every statement of the loop. -/
structure Consistent (s : State) : Prop where
  usage : s.solUsage.isSome = s.solStatus.isSome
  wall : s.wall.isSome = s.solStatus.isSome
  solution : Waited s.solWaits s.solStatus
  validator : Waited s.valWaits s.valStatus
  broken : s.broken = true → s.solStatus.isSome = true ∧ s.valStatus.isSome = true

theorem consistent_start : Consistent start :=
  ⟨rfl, rfl, by simp [start, Waited], by simp [start, Waited], by simp [start]⟩

section Statements

variable (args : Args) (schedule : Schedule) (tick : Tick) {s : State}

theorem consistent_pollSolution (hs : Consistent s) :
    Consistent (pollSolution schedule tick s) := by
  rw [pollSolution]
  split
  · next hunset =>
    have hwaited := hs.solution
    rw [Option.isNone_iff_eq_none.1 hunset] at hwaited
    split
    · exact ⟨rfl, rfl, hwaited.success (by decide) _, hs.validator,
        fun h => ⟨rfl, (hs.broken h).2⟩⟩
    · refine ⟨hs.usage, hs.wall, ?_, hs.validator, hs.broken⟩
      rw [Option.isNone_iff_eq_none.1 hunset]
      exact hwaited.notYet
  · exact hs

theorem consistent_pollValidator (hs : Consistent s) :
    Consistent (pollValidator schedule tick s) := by
  rw [pollValidator]
  split
  · next hunset =>
    have hwaited := hs.validator
    rw [Option.isNone_iff_eq_none.1 hunset] at hwaited
    split
    · exact ⟨hs.usage, hs.wall, hs.solution, hwaited.success (by decide) _,
        fun h => ⟨(hs.broken h).1, rfl⟩⟩
    · refine ⟨hs.usage, hs.wall, hs.solution, ?_, hs.broken⟩
      rw [Option.isNone_iff_eq_none.1 hunset]
      exact hwaited.notYet
  · exact hs

theorem consistent_poll (hs : Consistent s) : Consistent (poll schedule tick s) :=
  consistent_pollValidator schedule tick (consistent_pollSolution schedule tick hs)

theorem consistent_killSolution (hs : Consistent s)
    (hunset : s.solStatus.isNone = true) :
    Consistent (killSolution schedule tick s) := by
  have hwaited := hs.solution
  rw [Option.isNone_iff_eq_none.1 hunset] at hwaited
  exact ⟨rfl, rfl, hwaited.success (by decide) _, hs.validator,
    fun h => ⟨rfl, (hs.broken h).2⟩⟩

theorem consistent_reapSolution (hs : Consistent s) :
    Consistent (reapSolution schedule tick s) := by
  rw [reapSolution]
  split
  · next hunset => exact consistent_killSolution schedule tick hs hunset
  · exact hs

theorem consistent_reapValidator (hs : Consistent s) (instant : ℚ) :
    Consistent (reapValidator schedule instant s) := by
  rw [reapValidator]
  split
  · next hunset =>
    have hwaited := hs.validator
    rw [Option.isNone_iff_eq_none.1 hunset] at hwaited
    exact ⟨hs.usage, hs.wall, hs.solution, hwaited.success (by decide) _,
      fun h => ⟨(hs.broken h).1, rfl⟩⟩
  · exact hs

theorem solStatus_reapSolution (s : State) :
    (reapSolution schedule tick s).solStatus.isSome = true := by
  cases hsol : s.solStatus <;> simp [reapSolution, killSolution, hsol]

theorem valStatus_reapValidator (instant : ℚ) (s : State) :
    (reapValidator schedule instant s).valStatus.isSome = true := by
  cases hval : s.valStatus <;> simp [reapValidator, killValidator, hval]

theorem solStatus_reapValidator (instant : ℚ) (s : State) :
    (reapValidator schedule instant s).solStatus = s.solStatus := by
  rw [reapValidator, killValidator]
  split <;> rfl

theorem consistent_expirePair (hs : Consistent s) :
    Consistent (expirePair schedule tick s) := by
  have hflag : Consistent { s with pairTimedOut := true } :=
    ⟨hs.usage, hs.wall, hs.solution, hs.validator, hs.broken⟩
  have hreaped := consistent_reapValidator schedule
    (consistent_reapSolution schedule tick hflag) tick.valKill
  refine ⟨hreaped.usage, hreaped.wall, hreaped.solution, hreaped.validator, fun _ => ?_⟩
  constructor
  · rw [expirePair, solStatus_reapValidator]
    exact solStatus_reapSolution schedule tick _
  · exact valStatus_reapValidator schedule tick.valKill _

/-- The hard-kill branch is taken in a round that starts in `s`. -/
def HardKills (s : State) : Prop :=
  (poll schedule tick s).solStatus.isNone = true ∧
    deadline args schedule ≤ tick.now

instance (s : State) : Decidable (HardKills args schedule tick s) :=
  inferInstanceAs (Decidable (_ ∧ _))

/-- The branch of the pair deadline is taken in a round that starts in `s`. -/
def Expires (s : State) : Prop :=
  ¬HardKills args schedule tick s ∧ pairDeadline args schedule ≤ tick.now

instance (s : State) : Decidable (Expires args schedule tick s) :=
  inferInstanceAs (Decidable (_ ∧ _))

theorem loopBody_of_hardKills (hkills : HardKills args schedule tick s) :
    loopBody args schedule tick s =
      killSolution schedule tick
        { poll schedule tick s with solTimedOut := true } :=
  if_pos hkills

theorem loopBody_of_expires (hexpires : Expires args schedule tick s) :
    loopBody args schedule tick s =
      expirePair schedule tick (poll schedule tick s) := by
  exact (if_neg hexpires.1).trans (if_pos hexpires.2)

theorem loopBody_of_neither (hkills : ¬HardKills args schedule tick s)
    (hexpires : ¬Expires args schedule tick s) :
    loopBody args schedule tick s = poll schedule tick s := by
  have hpair : ¬pairDeadline args schedule ≤ tick.now := fun h => hexpires ⟨hkills, h⟩
  exact (if_neg hkills).trans (if_neg hpair)

theorem consistent_loopBody (hs : Consistent s) : Consistent (loopBody args schedule tick s) := by
  have hpolled := consistent_poll schedule tick hs
  by_cases hkills : HardKills args schedule tick s
  · rw [loopBody_of_hardKills args schedule tick hkills]
    have hflag : Consistent { poll schedule tick s with solTimedOut := true } :=
      ⟨hpolled.usage, hpolled.wall, hpolled.solution, hpolled.validator, hpolled.broken⟩
    exact consistent_killSolution schedule tick hflag hkills.1
  by_cases hexpires : Expires args schedule tick s
  · rw [loopBody_of_expires args schedule tick hexpires]
    exact consistent_expirePair schedule tick hpolled
  · rw [loopBody_of_neither args schedule tick hkills hexpires]
    exact hpolled

/-- The two waits of a round touch neither flag. -/
theorem poll_flags (s : State) :
    (poll schedule tick s).solTimedOut = s.solTimedOut ∧
      (poll schedule tick s).pairTimedOut = s.pairTimedOut ∧
        (poll schedule tick s).broken = s.broken := by
  rw [poll, pollValidator, pollSolution]
  split_ifs <;> (try split) <;> (try split) <;> exact ⟨rfl, rfl, rfl⟩

theorem expirePair_flags (s : State) :
    (expirePair schedule tick s).solTimedOut = s.solTimedOut ∧
      (expirePair schedule tick s).pairTimedOut = true ∧
        (expirePair schedule tick s).broken = true := by
  cases hsol : s.solStatus <;> cases hval : s.valStatus <;>
    simp [expirePair, reapSolution, reapValidator, killSolution, killValidator, hsol, hval]

theorem solTimedOut_loopBody (s : State) :
    (loopBody args schedule tick s).solTimedOut = true ↔
      s.solTimedOut = true ∨ HardKills args schedule tick s := by
  by_cases hkills : HardKills args schedule tick s
  · rw [loopBody_of_hardKills args schedule tick hkills]
    exact iff_of_true rfl (Or.inr hkills)
  by_cases hexpires : Expires args schedule tick s
  · rw [loopBody_of_expires args schedule tick hexpires, (expirePair_flags _ _ _).1,
      (poll_flags _ _ _).1]
    simp [hkills]
  · rw [loopBody_of_neither args schedule tick hkills hexpires, (poll_flags _ _ _).1]
    simp [hkills]

theorem pairTimedOut_loopBody (s : State) :
    (loopBody args schedule tick s).pairTimedOut = true ↔
      s.pairTimedOut = true ∨ Expires args schedule tick s := by
  by_cases hkills : HardKills args schedule tick s
  · have hexpires : ¬Expires args schedule tick s := fun h => h.1 hkills
    rw [loopBody_of_hardKills args schedule tick hkills]
    simp [killSolution, (poll_flags schedule tick s).2.1, hexpires]
  by_cases hexpires : Expires args schedule tick s
  · rw [loopBody_of_expires args schedule tick hexpires, (expirePair_flags _ _ _).2.1]
    simp [hexpires]
  · rw [loopBody_of_neither args schedule tick hkills hexpires, (poll_flags _ _ _).2.1]
    simp [hexpires]

end Statements

end IcpcVerify.Runner.InteractiveMain
