import IcpcVerify.Runner.InteractiveMain

/-!
# Runs of the interactive runner

The loop ends once its clock has passed the deadline of the pair, every child is
waited for until exactly one wait succeeds, and the record can then be built.
-/

namespace IcpcVerify.Runner.InteractiveMain

open IcpcVerify.ScheduledLoop

variable (args : Args) (schedule : Schedule)

theorem stateBefore_succ {n : ℕ} (hexecuted : Executed args schedule n) :
    stateBefore args schedule (n + 1) =
      loopBody args schedule (schedule.tick n) (stateBefore args schedule n) :=
  stateAt_succ_of_runs hexecuted

theorem consistent_stateBefore (n : ℕ) : Consistent (stateBefore args schedule n) := by
  apply invariant Consistent consistent_start
  intro k _ hs
  exact consistent_loopBody args schedule (schedule.tick k) hs

/-- When the loop is left, both children are reaped. -/
theorem left_set {n : ℕ} (hleft : Left args schedule n) :
    (stateBefore args schedule n).solStatus.isSome = true ∧
      (stateBefore args schedule n).valStatus.isSome = true := by
  have hguard : (!(stateBefore args schedule n).broken &&
      ((stateBefore args schedule n).solStatus.isNone ||
        (stateBefore args schedule n).valStatus.isNone)) = false := hleft
  cases hbroken : (stateBefore args schedule n).broken with
  | true => exact (consistent_stateBefore args schedule n).broken hbroken
  | false =>
      rw [hbroken] at hguard
      simpa using hguard

theorem left_of_broken {n : ℕ} (hbroken : (stateBefore args schedule n).broken = true) :
    Left args schedule n := by
  have hguard : (!(stateBefore args schedule n).broken &&
      ((stateBefore args schedule n).solStatus.isNone ||
        (stateBefore args schedule n).valStatus.isNone)) = false := by
    rw [hbroken]
    rfl
  exact hguard

/-- The clock readings at the head of the rounds never go back. -/
theorem now_mono {m n : ℕ} (hle : m ≤ n) : (schedule.tick m).now ≤ (schedule.tick n).now := by
  have hstep : ∀ k, (schedule.tick k).now ≤ (schedule.tick (k + 1)).now := by
    intro k
    have hordered := schedule.ordered k
    calc (schedule.tick k).now ≤ (schedule.tick k).solWait := hordered.now_solWait
      _ ≤ (schedule.tick k).solWall := hordered.solWait_solWall
      _ ≤ (schedule.tick k).valWait := hordered.solWall_valWait
      _ ≤ (schedule.tick k).solKill := hordered.valWait_solKill
      _ ≤ (schedule.tick k).solKillWall := hordered.solKill_solKillWall
      _ ≤ (schedule.tick k).valKill := hordered.solKillWall_valKill
      _ ≤ (schedule.tick (k + 1)).now := schedule.next k
  exact monotone_nat_of_le_succ hstep hle

/-- A round without hard kill ends the loop once the pair deadline has passed. -/
theorem left_of_expires {n : ℕ} (hexecuted : Executed args schedule n)
    (hexpires : Expires args schedule (schedule.tick n) (stateBefore args schedule n)) :
    Left args schedule (n + 1) := by
  apply left_of_broken
  rw [stateBefore_succ args schedule hexecuted,
    loopBody_of_expires args schedule _ hexpires]
  exact (expirePair_flags _ _ _).2.2

/-- A reaped solution is not polled again. -/
theorem pollSolution_of_set (tick : Tick) {s : State} (hset : s.solStatus.isSome = true) :
    pollSolution schedule tick s = s := by
  have hsome : s.solStatus ≠ none := Option.isSome_iff_ne_none.1 hset
  exact if_neg (by simpa using hsome)

theorem solStatus_poll (tick : Tick) (s : State) :
    (poll schedule tick s).solStatus = (pollSolution schedule tick s).solStatus := by
  rw [poll, pollValidator]
  split
  · split <;> rfl
  · rfl

/-- After a hard kill the solution is not killed a second time. -/
theorem not_hardKills_of_set {tick : Tick} {s : State} (hset : s.solStatus.isSome = true) :
    ¬HardKills args schedule tick s := by
  intro hkills
  have hunset := hkills.1
  rw [solStatus_poll, pollSolution_of_set schedule tick hset] at hunset
  simp [Option.isNone_iff_eq_none.1 hunset] at hset

/-- The loop ends at most two rounds after the clock has passed the pair deadline:
one round may still go to the hard kill. -/
theorem left_of_pairDeadline {n : ℕ}
    (hnow : pairDeadline args schedule ≤ (schedule.tick n).now) :
    Left args schedule (n + 2) := by
  rcases runs_or_ended n with hexecuted | hleft
  · by_cases hkills :
        HardKills args schedule (schedule.tick n) (stateBefore args schedule n)
    · rcases runs_or_ended (n + 1) with hexecuted' | hleft'
      · have hset : (stateBefore args schedule (n + 1)).solStatus.isSome = true := by
          rw [stateBefore_succ args schedule hexecuted,
            loopBody_of_hardKills args schedule _ hkills]
          rfl
        apply left_of_expires args schedule hexecuted'
        exact ⟨not_hardKills_of_set args schedule hset,
          hnow.trans (now_mono schedule n.le_succ)⟩
      · exact ended_mono hleft' (Nat.le_succ _)
    · have hleft' := left_of_expires args schedule hexecuted ⟨hkills, hnow⟩
      exact ended_mono hleft' (Nat.le_succ _)
  · exact ended_mono hleft (Nat.le_add_right n 2)

/-- The flag of the solution's deadline tells that the hard-kill branch was taken. -/
theorem solTimedOut_iff (n : ℕ) :
    (stateBefore args schedule n).solTimedOut = true ↔
      ∃ k < n, Executed args schedule k ∧
        HardKills args schedule (schedule.tick k) (stateBefore args schedule k) :=
  flag_iff State.solTimedOut (HardKills args schedule) rfl
    (fun tick s _ => solTimedOut_loopBody args schedule tick s) n

/-- The flag of the pair tells that the branch of the pair deadline was taken. -/
theorem pairTimedOut_iff (n : ℕ) :
    (stateBefore args schedule n).pairTimedOut = true ↔
      ∃ k < n, Executed args schedule k ∧
        Expires args schedule (schedule.tick k) (stateBefore args schedule k) :=
  flag_iff State.pairTimedOut (Expires args schedule) rfl
    (fun tick s _ => pairTimedOut_loopBody args schedule tick s) n

theorem solWaits_poll_grows (tick : Tick) (s : State) :
    s.solWaits <+: (poll schedule tick s).solWaits := by
  have hval : (poll schedule tick s).solWaits = (pollSolution schedule tick s).solWaits := by
    rw [poll, pollValidator]
    split
    · split <;> rfl
    · rfl
  rw [hval]
  rw [pollSolution]
  split
  · split
    · exact List.prefix_append _ _
    · exact List.prefix_append _ _
  · exact List.prefix_rfl

theorem solWaits_loopBody_grows (tick : Tick) (s : State) :
    s.solWaits <+: (loopBody args schedule tick s).solWaits := by
  apply (solWaits_poll_grows schedule tick s).trans
  by_cases hkills : HardKills args schedule tick s
  · rw [loopBody_of_hardKills args schedule tick hkills]
    exact List.prefix_append _ _
  by_cases hexpires : Expires args schedule tick s
  · rw [loopBody_of_expires args schedule tick hexpires]
    cases hsol : (poll schedule tick s).solStatus <;>
      cases hval : (poll schedule tick s).valStatus <;>
        simp [expirePair, reapSolution, reapValidator, killSolution, killValidator, hsol,
          hval]
  · rw [loopBody_of_neither args schedule tick hkills hexpires]

/-- Waits on the solution are only ever added. -/
theorem solWaits_stateBefore_grows {m n : ℕ} (hle : m ≤ n) :
    (stateBefore args schedule m).solWaits <+: (stateBefore args schedule n).solWaits :=
  stateAt_ordered (fun s s' => s.solWaits <+: s'.solWaits) (fun _ => List.prefix_rfl)
    (fun _ _ _ => List.IsPrefix.trans)
    (fun tick s _ => solWaits_loopBody_grows args schedule tick s) hle

/-- A solution that reached the hard kill was reaped by the wait behind it. -/
theorem collected_of_solTimedOut {n : ℕ}
    (htimed : (stateBefore args schedule n).solTimedOut = true) :
    .collected ∈ (stateBefore args schedule n).solWaits := by
  obtain ⟨k, hk, hexecuted, hkills⟩ := (solTimedOut_iff args schedule n).1 htimed
  apply (solWaits_stateBefore_grows args schedule hk).subset
  rw [stateBefore_succ args schedule hexecuted, loopBody_of_hardKills args schedule _ hkills]
  exact List.mem_append_right _ (List.mem_singleton.2 rfl)

/-! ## The record -/

/-- `sol_status`, `sol_usage` and `wall` are all unset or all set. -/
def AllOrNone (s : State) : Prop :=
  (s.solStatus = none ∧ s.solUsage = none ∧ s.wall = none) ∨
    (s.solStatus.isSome = true ∧ s.solUsage.isSome = true ∧ s.wall.isSome = true)

/-- Exactly one wait in the list succeeded, and none was issued after it. -/
def ReapedOnce (waits : List Wait) : Prop :=
  ∃ earlier last, waits = earlier ++ [last] ∧ last ≠ .notYet ∧
    ∀ wait ∈ earlier, wait = .notYet

theorem Consistent.allOrNone {s : State} (hs : Consistent s) : AllOrNone s := by
  have husage := hs.usage
  have hwall := hs.wall
  cases hstatus : s.solStatus with
  | none =>
      rw [hstatus] at husage hwall
      left
      exact ⟨hstatus, by simpa using husage, by simpa using hwall⟩
  | some status =>
      rw [hstatus] at husage hwall
      right
      exact ⟨by rw [hstatus]; rfl, husage, hwall⟩

theorem Consistent.reapedOnce {s : State} (hs : Consistent s)
    (hsol : s.solStatus.isSome = true) (hval : s.valStatus.isSome = true) :
    ReapedOnce s.solWaits ∧ ReapedOnce s.valWaits := by
  obtain ⟨solStatus, hsolStatus⟩ := Option.isSome_iff_exists.1 hsol
  obtain ⟨valStatus, hvalStatus⟩ := Option.isSome_iff_exists.1 hval
  have hsolution := hs.solution
  have hvalidator := hs.validator
  rw [hsolStatus] at hsolution
  rw [hvalStatus] at hvalidator
  exact ⟨hsolution, hvalidator⟩

/-- Behind the loop no wait is left to do. -/
theorem afterLoop_of_left {n : ℕ} (hleft : Left args schedule n) :
    afterLoop schedule (stateBefore args schedule n) = stateBefore args schedule n := by
  have hsome := Option.isSome_iff_ne_none.1 (left_set args schedule hleft).2
  exact if_neg (by simpa using hsome)

/-- The record can be built, and its time flag is the one of the loop. -/
theorem makeRecord_of_left {n : ℕ} (hleft : Left args schedule n) :
    ∃ record, makeRecord (afterLoop schedule (stateBefore args schedule n)) = some record ∧
      record.solution.timedOut = (stateBefore args schedule n).solTimedOut ∧
        record.pairTimedOut = (stateBefore args schedule n).pairTimedOut := by
  have hs := consistent_stateBefore args schedule n
  obtain ⟨hsol, hval⟩ := left_set args schedule hleft
  obtain ⟨solStatus, hsolStatus⟩ := Option.isSome_iff_exists.1 hsol
  obtain ⟨valStatus, hvalStatus⟩ := Option.isSome_iff_exists.1 hval
  obtain ⟨usage, husage⟩ := Option.isSome_iff_exists.1 (hs.usage.trans hsol)
  obtain ⟨wall, hwall⟩ := Option.isSome_iff_exists.1 (hs.wall.trans hsol)
  rw [afterLoop_of_left args schedule hleft]
  simp [makeRecord, hsolStatus, hvalStatus, husage, hwall]

/-- The loop of the interactive runner ends, keeps its locals consistent on the
way, reaps each child exactly once, and leaves everything the record needs. -/
theorem pollLoop_sound
    (hclock : ∃ n, pairDeadline args schedule ≤ (schedule.tick n).now) :
    (∃ n, Left args schedule n) ∧
      (∀ n, AllOrNone (stateBefore args schedule n) ∧
        AllOrNone (poll schedule (schedule.tick n) (stateBefore args schedule n)) ∧
        Waited (stateBefore args schedule n).solWaits
          (stateBefore args schedule n).solStatus ∧
        Waited (stateBefore args schedule n).valWaits
          (stateBefore args schedule n).valStatus) ∧
      ∀ n, Left args schedule n →
        ReapedOnce (afterLoop schedule (stateBefore args schedule n)).solWaits ∧
          ReapedOnce (afterLoop schedule (stateBefore args schedule n)).valWaits ∧
          ∃ record,
            makeRecord (afterLoop schedule (stateBefore args schedule n)) = some record ∧
              (record.solution.timedOut = true ↔
                ∃ k < n, Executed args schedule k ∧
                  HardKills args schedule (schedule.tick k)
                    (stateBefore args schedule k)) := by
  obtain ⟨n, hnow⟩ := hclock
  refine ⟨⟨n + 2, left_of_pairDeadline args schedule hnow⟩, ?_, ?_⟩
  · intro m
    have hs := consistent_stateBefore args schedule m
    exact ⟨hs.allOrNone, (consistent_poll schedule (schedule.tick m) hs).allOrNone,
      hs.solution, hs.validator⟩
  · intro m hleft
    obtain ⟨hsol, hval⟩ := left_set args schedule hleft
    obtain ⟨hsolWaits, hvalWaits⟩ :=
      (consistent_stateBefore args schedule m).reapedOnce hsol hval
    obtain ⟨record, hrecord, htimed, -⟩ := makeRecord_of_left args schedule hleft
    rw [afterLoop_of_left args schedule hleft] at hrecord ⊢
    refine ⟨hsolWaits, hvalWaits, record, hrecord, ?_⟩
    rw [htimed]
    exact solTimedOut_iff args schedule m

/-- Two processes that never end on their own, polled every two seconds. -/
def hanging : Schedule :=
  Schedule.ofInstants none none (fun n => 2 * n) (by norm_num) (by intro n; push_cast; linarith)

/-- The loop ends even then. -/
theorem pollLoop_sound_hanging : ∃ n, Left ⟨3, 8⟩ hanging n :=
  (pollLoop_sound ⟨3, 8⟩ hanging ⟨4, by decide +kernel⟩).1

end IcpcVerify.Runner.InteractiveMain
