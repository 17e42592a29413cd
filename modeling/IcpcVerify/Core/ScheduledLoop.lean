import Mathlib

/-!
# Loops driven by a schedule

A polling loop runs `while guard: body`, and each of its rounds reads the world
anew: a clock, the outcome of a non-blocking call.  Here the world is a sequence
of inputs, one for each round, fixed in advance but arbitrary.  The file gives
the state before every round, the invariant rule, and the rule that says which
rounds can have raised a flag.
-/

namespace IcpcVerify.ScheduledLoop

variable {State Input : Type*}

/-- A guarded loop whose body reads one input in each round. -/
structure Loop (State Input : Type*) where
  guard : State → Bool
  body : Input → State → State

/-- State before round `n`.  Once the guard fails the state no longer moves. -/
def stateAt (loop : Loop State Input) (inputs : ℕ → Input) (start : State) :
    ℕ → State
  | 0 => start
  | n + 1 =>
      if loop.guard (stateAt loop inputs start n) then
        loop.body (inputs n) (stateAt loop inputs start n)
      else stateAt loop inputs start n

/-- Round `n` is executed. -/
def Runs (loop : Loop State Input) (inputs : ℕ → Input) (start : State) (n : ℕ) :
    Prop :=
  loop.guard (stateAt loop inputs start n) = true

/-- The loop has ended before round `n`. -/
def EndedBy (loop : Loop State Input) (inputs : ℕ → Input) (start : State)
    (n : ℕ) : Prop :=
  loop.guard (stateAt loop inputs start n) = false

variable {loop : Loop State Input} {inputs : ℕ → Input} {start : State}

instance (n : ℕ) : Decidable (Runs loop inputs start n) :=
  inferInstanceAs (Decidable (_ = _))

instance (n : ℕ) : Decidable (EndedBy loop inputs start n) :=
  inferInstanceAs (Decidable (_ = _))

@[simp]
theorem stateAt_zero : stateAt loop inputs start 0 = start := rfl

theorem stateAt_succ_of_runs {n : ℕ} (hruns : Runs loop inputs start n) :
    stateAt loop inputs start (n + 1) =
      loop.body (inputs n) (stateAt loop inputs start n) := by
  exact if_pos hruns

theorem stateAt_succ_of_ended {n : ℕ} (hended : EndedBy loop inputs start n) :
    stateAt loop inputs start (n + 1) = stateAt loop inputs start n := by
  rw [stateAt, if_neg (by rw [hended]; exact Bool.false_ne_true)]

theorem runs_or_ended (n : ℕ) :
    Runs loop inputs start n ∨ EndedBy loop inputs start n :=
  (Bool.eq_false_or_eq_true _).imp id id

theorem not_runs_iff_ended {n : ℕ} :
    ¬Runs loop inputs start n ↔ EndedBy loop inputs start n := by
  simp [Runs, EndedBy]

/-- The state is final from the round on in which the guard first fails. -/
theorem stateAt_of_ended {n m : ℕ} (hended : EndedBy loop inputs start n)
    (hle : n ≤ m) : stateAt loop inputs start m = stateAt loop inputs start n := by
  induction m, hle using Nat.le_induction with
  | base => rfl
  | succ m _ ih =>
      have hm : EndedBy loop inputs start m := by rwa [EndedBy, ih]
      rw [stateAt_succ_of_ended hm, ih]

theorem ended_mono {n m : ℕ} (hended : EndedBy loop inputs start n)
    (hle : n ≤ m) : EndedBy loop inputs start m := by
  rwa [EndedBy, stateAt_of_ended hended hle]

/-- A property kept by every executed round holds before every round. -/
theorem invariant (inv : State → Prop) (hstart : inv start)
    (hbody : ∀ n, Runs loop inputs start n →
      inv (stateAt loop inputs start n) →
        inv (loop.body (inputs n) (stateAt loop inputs start n)))
    (n : ℕ) : inv (stateAt loop inputs start n) := by
  induction n with
  | zero => exact hstart
  | succ n ih =>
      rcases runs_or_ended n with hruns | hended
      · rw [stateAt_succ_of_runs hruns]
        exact hbody n hruns ih
      · rw [stateAt_succ_of_ended hended]
        exact ih

/-- A preorder that every executed round goes up in relates the states of a run. -/
theorem stateAt_ordered (rel : State → State → Prop) (hrefl : ∀ state, rel state state)
    (htrans : ∀ state state' state'', rel state state' → rel state' state'' →
      rel state state'')
    (hbody : ∀ input state, loop.guard state = true → rel state (loop.body input state))
    {n m : ℕ} (hle : n ≤ m) :
    rel (stateAt loop inputs start n) (stateAt loop inputs start m) := by
  induction m, hle using Nat.le_induction with
  | base => exact hrefl _
  | succ m _ ih =>
      apply htrans _ _ _ ih
      rcases runs_or_ended m with hruns | hended
      · rw [stateAt_succ_of_runs hruns]
        exact hbody _ _ hruns
      · rw [stateAt_succ_of_ended hended]
        exact hrefl _

/-- A flag that starts cleared, and that a round raises or leaves alone, is up
exactly when some earlier executed round raised it. -/
theorem flag_iff (flag : State → Bool) (raises : Input → State → Prop)
    (hstart : flag start = false)
    (hbody : ∀ input state, loop.guard state = true →
      (flag (loop.body input state) = true ↔
        flag state = true ∨ raises input state))
    (n : ℕ) :
    flag (stateAt loop inputs start n) = true ↔
      ∃ k < n, Runs loop inputs start k ∧
        raises (inputs k) (stateAt loop inputs start k) := by
  induction n with
  | zero => simp [hstart]
  | succ n ih =>
      rcases runs_or_ended n with hruns | hended
      · rw [stateAt_succ_of_runs hruns, hbody _ _ hruns, ih]
        constructor
        · rintro (⟨k, hk, hrest⟩ | hraises)
          · exact ⟨k, by omega, hrest⟩
          · exact ⟨n, by omega, hruns, hraises⟩
        · rintro ⟨k, hk, hrest⟩
          rcases Nat.lt_succ_iff_lt_or_eq.mp hk with hlt | rfl
          · exact Or.inl ⟨k, hlt, hrest⟩
          · exact Or.inr hrest.2
      · rw [stateAt_succ_of_ended hended, ih]
        constructor
        · rintro ⟨k, hk, hrest⟩
          exact ⟨k, by omega, hrest⟩
        · rintro ⟨k, hk, hkruns, hraises⟩
          rcases Nat.lt_succ_iff_lt_or_eq.mp hk with hlt | rfl
          · exact ⟨k, hlt, hkruns, hraises⟩
          · exact absurd hkruns (not_runs_iff_ended.2 hended)

end IcpcVerify.ScheduledLoop
