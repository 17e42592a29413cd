import IcpcVerify.Core.Transition
import IcpcVerify.Runner.Record

/-!
# The runner as a step relation

`runner.py` starts the solution and polls for its end, while a watcher thread
polls the size of the output file.  The state holds both threads, the child, the
output file and the clock; any of them may move next.
-/

namespace IcpcVerify.Runner

open IcpcVerify.Python
open IcpcVerify.Transition

namespace Main

/-- The command line arguments that the loop and the watcher use. -/
structure Args where
  hardKill : ℚ
  outputLimit : ℤ

/-- Life of the solution process; a zombie has ended but was not waited for. -/
inductive Child where
  | running
  | zombie (status : WaitStatus) (usage : Usage)
  | reaped

/-- `watch_output_size` and the `append` of its result. -/
inductive Watcher where
  /-- in `stop.wait(0.05)` -/
  | waiting
  /-- about to read the size -/
  | polling
  | returning (result : Bool)
  /-- the result is in `watcher_result` -/
  | returned (result : Bool)

/-- The branch in which the loop kills the child. -/
inductive KillCause where
  | output
  | deadline
  deriving DecidableEq

/-- Position of the main thread, with the locals that are live there. -/
inductive Pc where
  /-- at the non-blocking `wait4` -/
  | poll
  | readClock
  | decide (now : ℚ)
  | kill
  /-- in the blocking `wait4` -/
  | wait
  /-- out of the loop -/
  | readWall (status : WaitStatus) (usage : Usage)
  | measure (status : WaitStatus) (usage : Usage) (wall : ℚ)
  | done (record : RunRecord)

structure State where
  clock : ℚ
  started : ℚ
  child : Child
  /-- Size of the output file, if it is there. -/
  stdout : Option ℕ
  watcher : Watcher
  stop : Bool
  pc : Pc
  exceeded : Bool
  timedOut : Bool
  /-- History: status with which the child ended on its own. -/
  ownExit : Option WaitStatus
  /-- History: the kill branch taken. -/
  killedFor : Option KillCause
  /-- History: clock at the kill. -/
  killedAt : Option ℚ

/-- `os.path.getsize(path) > limit`, where `OSError` counts as no. -/
def sizeOver (stdout : Option ℕ) (limit : ℤ) : Bool :=
  stdout.any fun size => limit < size

def makeRecord (status : WaitStatus) (usage : Usage) (wall : ℚ)
    (timedOut exceeded : Bool) : RunRecord where
  wall := roundTo 6 wall
  cpu := usage.cpu
  maxRssKib := usage.maxrss
  exitCode := status.exitCode
  signal := status.signal
  timedOut := timedOut
  outputLimitExceeded := exceeded

/-- `SIGKILL` to the group of a child that was not reaped yet: a zombie keeps the
status it ended with. -/
def Child.kill (usage : Usage) : Child → Child
  | running => zombie .killed usage
  | child => child

/-- The state when the loop is entered. -/
def start (started : ℚ) : State where
  clock := started
  started := started
  child := .running
  stdout := some 0
  watcher := .waiting
  stop := false
  pc := .poll
  exceeded := false
  timedOut := false
  ownExit := none
  killedFor := none
  killedAt := none

/-- Whether the watcher has put `True` into `watcher_result`. -/
def Watcher.sawOutput : Watcher → Bool
  | returned result => result
  | _ => false

/-- One step of the clock, the child, the watcher thread or the main thread. -/
inductive Step (args : Args) : State → State → Prop
  | tick (s : State) (later : ℚ) (hlater : s.clock ≤ later) :
      Step args s { s with clock := later }
  /-- The child ends on its own, by exit or by a signal of its own making. -/
  | exit (s : State) (status : WaitStatus) (usage : Usage)
      (hchild : s.child = .running) :
      Step args s { s with child := .zombie status usage, ownExit := some status }
  /-- The child, or whatever it left running, writes.  What is left of the group is killed
  before the last size reading; that kill is no step of its own, and writes go on until the
  record is made. -/
  | write (s : State) (size size' : ℕ) (hsize : s.stdout = some size)
      (hgrow : size ≤ size') (hopen : ∀ record, s.pc ≠ .done record) :
      Step args s { s with stdout := some size' }
  | watchWake (s : State) (hwatcher : s.watcher = .waiting) (hstop : s.stop = false) :
      Step args s { s with watcher := .polling }
  | watchStop (s : State) (hwatcher : s.watcher = .waiting) (hstop : s.stop = true) :
      Step args s { s with watcher := .returning false }
  | watchOver (s : State) (hwatcher : s.watcher = .polling)
      (hover : sizeOver s.stdout args.outputLimit = true) :
      Step args s { s with watcher := .returning true }
  | watchUnder (s : State) (hwatcher : s.watcher = .polling)
      (hunder : sizeOver s.stdout args.outputLimit = false) :
      Step args s { s with watcher := .waiting }
  | watchAppend (s : State) (result : Bool) (hwatcher : s.watcher = .returning result) :
      Step args s { s with watcher := .returned result }
  | pollMiss (s : State) (hpc : s.pc = .poll) (hchild : s.child = .running) :
      Step args s { s with pc := .readClock }
  | pollHit (s : State) (status : WaitStatus) (usage : Usage) (hpc : s.pc = .poll)
      (hchild : s.child = .zombie status usage) :
      Step args s { s with child := .reaped, pc := .readWall status usage }
  | readClock (s : State) (hpc : s.pc = .readClock) :
      Step args s { s with pc := .decide s.clock }
  | sawOutput (s : State) (now : ℚ) (hpc : s.pc = .decide now)
      (hsaw : s.watcher.sawOutput = true) :
      Step args s
        { s with pc := .kill, exceeded := true, killedFor := some .output }
  | pastDeadline (s : State) (now : ℚ) (hpc : s.pc = .decide now)
      (hsaw : s.watcher.sawOutput = false) (hnow : s.started + args.hardKill ≤ now) :
      Step args s
        { s with pc := .kill, timedOut := true, killedFor := some .deadline }
  | sleep (s : State) (now : ℚ) (hpc : s.pc = .decide now)
      (hsaw : s.watcher.sawOutput = false) (hnow : now < s.started + args.hardKill) :
      Step args s { s with pc := .poll }
  | kill (s : State) (usage : Usage) (hpc : s.pc = .kill) :
      Step args s
        { s with child := s.child.kill usage, pc := .wait, killedAt := some s.clock }
  | reap (s : State) (status : WaitStatus) (usage : Usage) (hpc : s.pc = .wait)
      (hchild : s.child = .zombie status usage) :
      Step args s { s with child := .reaped, pc := .readWall status usage }
  | readWall (s : State) (status : WaitStatus) (usage : Usage)
      (hpc : s.pc = .readWall status usage) :
      Step args s
        { s with pc := .measure status usage (s.clock - s.started), stop := true }
  /-- The last size reading; it is skipped when the output was already seen over
  the limit. -/
  | measure (s : State) (status : WaitStatus) (usage : Usage) (wall : ℚ)
      (hpc : s.pc = .measure status usage wall) :
      Step args s
        { s with
          pc := .done (makeRecord status usage wall s.timedOut
            (s.exceeded || sizeOver s.stdout args.outputLimit)) }

/-! ## What holds in every reachable state -/

variable {args : Args} {started : ℚ}

theorem sizeOver_mono {size size' : ℕ} {limit : ℤ} (hgrow : size ≤ size')
    (hover : sizeOver (some size) limit = true) : sizeOver (some size') limit = true := by
  have hlt : limit < size := by simpa [sizeOver] using hover
  simpa [sizeOver] using hlt.trans_le (by exact_mod_cast hgrow)

/-- Whether the watcher has found the output over the limit, reported or not. -/
def Watcher.found : Watcher → Bool
  | returning result => result
  | returned result => result
  | _ => false

theorem Watcher.found_of_sawOutput {watcher : Watcher}
    (hsaw : watcher.sawOutput = true) : watcher.found = true := by
  cases watcher with
  | returned result => exact hsaw
  | _ => cases hsaw

/-- Whoever says that the output is over the limit is right, and stays right. -/
structure OutputSound (args : Args) (s : State) : Prop where
  kept : s.stdout.isSome = true
  watcher : s.watcher.found = true → sizeOver s.stdout args.outputLimit = true
  exceeded : s.exceeded = true → sizeOver s.stdout args.outputLimit = true

theorem outputSound_step {s s' : State} (hsound : OutputSound args s)
    (hstep : Step args s s') : OutputSound args s' := by
  obtain ⟨hkept, hwatcher, hexceeded⟩ := hsound
  cases hstep with
  | write size size' hsize hgrow hopen =>
      rw [hsize] at hwatcher hexceeded
      exact ⟨rfl, fun h => sizeOver_mono hgrow (hwatcher h),
        fun h => sizeOver_mono hgrow (hexceeded h)⟩
  | watchOver _ hover => exact ⟨hkept, fun _ => hover, hexceeded⟩
  | watchAppend result hreturning =>
      refine ⟨hkept, fun h => hwatcher ?_, hexceeded⟩
      rw [hreturning]
      exact h
  | sawOutput now hpc hsaw =>
      exact ⟨hkept, hwatcher, fun _ => hwatcher (Watcher.found_of_sawOutput hsaw)⟩
  | watchWake | watchStop | watchUnder => exact ⟨hkept, fun h => (by cases h), hexceeded⟩
  | _ => exact ⟨hkept, hwatcher, hexceeded⟩

theorem outputSound {s : State} (hreach : Reachable (Step args) (start started) s) :
    OutputSound args s :=
  hreach.invariant (OutputSound args) ⟨rfl, fun h => (by cases h), fun h => (by cases h)⟩
    fun _ _ => outputSound_step

/-- The loop has not decided to kill yet. -/
def Pc.undecided : Pc → Bool
  | poll | readClock | decide _ => true
  | _ => false

/-- The two flags record which kill branch was taken. -/
structure FlagsSound (s : State) : Prop where
  undecided : s.pc.undecided = true → s.killedFor = none
  exceeded : s.exceeded = true ↔ s.killedFor = some .output
  timedOut : s.timedOut = true ↔ s.killedFor = some .deadline

theorem flagsSound_step {s s' : State} (hsound : FlagsSound s)
    (hstep : Step args s s') : FlagsSound s' := by
  obtain ⟨hundecided, hexceeded, htimedOut⟩ := hsound
  cases hstep with
  | sawOutput now hpc hsaw =>
      have hnone : s.killedFor = none := hundecided (by rw [hpc]; rfl)
      refine ⟨fun h => (by cases h), by simp, ?_⟩
      simpa [hnone] using htimedOut
  | pastDeadline now hpc hsaw hnow =>
      have hnone : s.killedFor = none := hundecided (by rw [hpc]; rfl)
      refine ⟨fun h => (by cases h), ?_, by simp⟩
      simpa [hnone] using hexceeded
  | pollMiss hpc | readClock hpc | sleep now hpc =>
      exact ⟨fun _ => hundecided (by rw [hpc]; rfl), hexceeded, htimedOut⟩
  | pollHit | kill | reap | readWall | measure =>
      exact ⟨fun h => (by cases h), hexceeded, htimedOut⟩
  | _ => exact ⟨hundecided, hexceeded, htimedOut⟩

theorem flagsSound {s : State} (hreach : Reachable (Step args) (start started) s) :
    FlagsSound s :=
  hreach.invariant FlagsSound ⟨fun _ => rfl, by simp [start], by simp [start]⟩
    fun _ _ => flagsSound_step

/-- Without a kill, this is the status the child ended with on its own. -/
def OwnUnlessKilled (s : State) (status : WaitStatus) : Prop :=
  s.killedFor = none → s.ownExit = some status

/-- What is known of the child's status, by the position of the main thread. -/
def StatusAt (args : Args) (s : State) : Pc → Prop
  | .poll | .readClock | .decide _ => True
  | .kill | .wait => s.killedFor ≠ none
  | .readWall status _ | .measure status _ _ => s.child = .reaped ∧ OwnUnlessKilled s status
  | .done record => s.child = .reaped ∧ ∃ status usage wall, OwnUnlessKilled s status ∧
      record =
        makeRecord status usage wall s.timedOut (sizeOver s.stdout args.outputLimit)

structure StatusSound (args : Args) (s : State) : Prop where
  zombie : ∀ status usage, s.child = .zombie status usage → OwnUnlessKilled s status
  position : StatusAt args s s.pc

theorem statusSound_exit {s : State} (hsound : StatusSound args s) (status : WaitStatus)
    (usage : Usage) (hchild : s.child = .running) :
    StatusSound args
      { s with child := .zombie status usage, ownExit := some status } := by
  have hposition := hsound.position
  constructor
  · intro status' usage' hzombie _
    cases hzombie
    rfl
  · have hreaped : s.child ≠ .reaped := by
      rw [hchild]
      exact Child.noConfusion
    cases hpc : s.pc with
    | poll | readClock | decide => trivial
    | kill | wait =>
        rw [hpc] at hposition
        exact hposition
    | readWall | measure | done =>
        rw [hpc] at hposition
        exact absurd hposition.1 hreaped

theorem statusSound_step {s s' : State} (houtput : OutputSound args s)
    (hsound : StatusSound args s) (hstep : Step args s s') : StatusSound args s' := by
  have hposition := hsound.position
  cases hstep with
  | exit status usage hchild => exact statusSound_exit hsound status usage hchild
  | write size size' hsize hgrow hopen =>
      refine ⟨hsound.zombie, ?_⟩
      cases hpc : s.pc with
      | done record => exact absurd hpc (hopen record)
      | _ =>
          rw [hpc] at hposition
          exact hposition
  | pollMiss | readClock | sleep => exact ⟨hsound.zombie, trivial⟩
  | sawOutput | pastDeadline =>
      exact ⟨fun _ _ _ h => (by cases h), Option.some_ne_none _⟩
  | kill usage hpc =>
      rw [hpc] at hposition
      exact ⟨fun _ _ _ h => absurd h hposition, hposition⟩
  | pollHit status usage hpc hchild | reap status usage hpc hchild =>
      exact ⟨fun _ _ h => (by cases h), rfl, hsound.zombie status usage hchild⟩
  | readWall status usage hpc =>
      rw [hpc] at hposition
      exact ⟨hsound.zombie, hposition⟩
  | measure status usage wall hpc =>
      rw [hpc] at hposition
      refine ⟨hsound.zombie, hposition.1, status, usage, wall, hposition.2, ?_⟩
      have hover : (s.exceeded || sizeOver s.stdout args.outputLimit) =
          sizeOver s.stdout args.outputLimit := by
        cases hexceeded : s.exceeded with
        | false => rfl
        | true => rw [houtput.exceeded hexceeded]; rfl
      rw [hover]
  | _ => exact ⟨hsound.zombie, hposition⟩

theorem statusSound {s : State} (hreach : Reachable (Step args) (start started) s) :
    StatusSound args s :=
  hreach.invariant_of (StatusSound args) (fun _ => outputSound)
    ⟨fun _ _ h => (by cases h), trivial⟩ fun _ _ => statusSound_step

/-- What is known of the time of a kill at the deadline. -/
def LateAt (args : Args) (s : State) : Pc → Prop
  | .poll | .readClock => True
  | .decide now => now ≤ s.clock
  | .kill => s.killedFor = some .deadline → s.started + args.hardKill ≤ s.clock
  | _ => s.killedFor = some .deadline →
      ∃ instant, s.killedAt = some instant ∧ s.started + args.hardKill ≤ instant

theorem lateAt_step {s s' : State} (hflags : FlagsSound s)
    (hlate : LateAt args s s.pc) (hstep : Step args s s') : LateAt args s' s'.pc := by
  cases hstep with
  | tick later hlater =>
      cases hpc : s.pc with
      | decide now =>
          rw [hpc] at hlate
          exact le_trans hlate hlater
      | kill =>
          rw [hpc] at hlate
          exact fun hdeadline => (hlate hdeadline).trans hlater
      | _ =>
          rw [hpc] at hlate
          exact hlate
  | readClock => exact le_rfl
  | pastDeadline now hpc hsaw hnow =>
      rw [hpc] at hlate
      exact fun _ => hnow.trans hlate
  | kill usage hpc =>
      rw [hpc] at hlate
      exact fun hdeadline => ⟨s.clock, rfl, hlate hdeadline⟩
  | pollHit status usage hpc hchild =>
      have hnone : s.killedFor = none := hflags.undecided (by rw [hpc]; rfl)
      intro hdeadline
      cases hnone.symm.trans hdeadline
  | pollMiss | sleep => trivial
  | sawOutput => exact fun h => (by cases h)
  | reap status usage hpc hchild | readWall status usage hpc =>
      rw [hpc] at hlate
      exact hlate
  | measure status usage wall hpc =>
      rw [hpc] at hlate
      exact hlate
  | _ => exact hlate

theorem lateAt {s : State} (hreach : Reachable (Step args) (start started) s) :
    LateAt args s s.pc :=
  hreach.invariant_of (fun s => LateAt args s s.pc) (fun _ => flagsSound) trivial
    fun _ _ => lateAt_step

end Main

end IcpcVerify.Runner
