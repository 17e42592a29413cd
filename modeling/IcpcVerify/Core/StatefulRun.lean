import Mathlib

/-!
# Runs of stateful programs that may raise

A program here reads and changes a state and either returns a value or raises.
`Returns` is the one judgement needed to reason about the runs that do return: what
they return and which state they leave.  A run of a composed program is taken apart
into the runs of its parts, and a loop that changes a state is compared with a loop
that has none.
-/

namespace IcpcVerify.StatefulRun

variable {State Error Value Value' Item Item' : Type}

/-- The program, started in the first state, returns the value and leaves the
second state. -/
def Returns (program : StateT State (Except Error) Value) (before : State)
    (value : Value) (after : State) : Prop :=
  program.run before = .ok (value, after)

variable {before after : State}

@[simp]
theorem returns_pure (value value' : Value) :
    Returns (pure value : StateT State (Except Error) Value) before value' after ↔
      value = value' ∧ before = after := by
  change (Except.ok (value, before) : Except Error (Value × State)) = .ok (value', after) ↔ _
  simp

@[simp]
theorem returns_throw (error : Error) (value : Value) :
    ¬Returns (throw error : StateT State (Except Error) Value) before value after := by
  intro hreturns
  cases hreturns

@[simp]
theorem returns_get (value : State) :
    Returns (get : StateT State (Except Error) State) before value after ↔
      value = before ∧ after = before := by
  change (Except.ok (before, before) : Except Error (State × State)) = .ok (value, after) ↔ _
  simp [eq_comm]

@[simp]
theorem returns_set (state : State) (value : PUnit) :
    Returns (set state : StateT State (Except Error) PUnit) before value after ↔
      after = state := by
  change (Except.ok (⟨⟩, state) : Except Error (PUnit × State)) = .ok (value, after) ↔ _
  simp [eq_comm]

@[simp]
theorem returns_lift (action : Except Error Value) (value : Value) :
    Returns (liftM action : StateT State (Except Error) Value) before value after ↔
      action = .ok value ∧ after = before := by
  cases action with
  | error error => exact iff_of_false (fun h => by cases h) (fun h => by cases h.1)
  | ok result =>
      change (Except.ok (result, before) : Except Error (Value × State)) =
        .ok (value, after) ↔ _
      simp [eq_comm]

/-- The first part of a run that returns has returned, and the second went on from
there. -/
theorem returns_bind {program : StateT State (Except Error) Value}
    {next : Value → StateT State (Except Error) Value'} {value' : Value'} :
    Returns (program >>= next) before value' after ↔
      ∃ value between, Returns program before value between ∧
        Returns (next value) between value' after := by
  rw [Returns, StateT.run_bind]
  cases hrun : program.run before with
  | error error => simp [Returns, hrun, bind, Except.bind]
  | ok result => simp [Returns, hrun, bind, Except.bind, Prod.ext_iff, eq_comm]

/-- Two programs with the same first part end alike if they do after it has returned. -/
theorem run_bind_congr {program : StateT State (Except Error) Value}
    {next next' : Value → StateT State (Except Error) Value'}
    (hnext : ∀ value between, Returns program before value between →
      (next value).run between = (next' value).run between) :
    (program >>= next).run before = (program >>= next').run before := by
  rw [StateT.run_bind, StateT.run_bind]
  cases hrun : program.run before with
  | error error => rfl
  | ok result => exact hnext result.1 result.2 hrun

/-- A loop is mirrored by a stateless one when each of its rounds is. -/
theorem foldlM_of_returns {body : Value → Item → StateT State (Except Error) Value}
    (mirror : Value → Item' → Except Error Value) (view : Item → Item')
    (hbody : ∀ value item before value' after, Returns (body value item) before value' after →
      mirror value (view item) = .ok value') (items : List Item) {value value' : Value}
    (hreturns : Returns (items.foldlM body value) before value' after) :
    (items.map view).foldlM mirror value = .ok value' := by
  induction items generalizing value before with
  | nil =>
      rw [List.foldlM_nil, returns_pure] at hreturns
      rw [List.map_nil, List.foldlM_nil, hreturns.1]
      rfl
  | cons item items ih =>
      rw [List.foldlM_cons, returns_bind] at hreturns
      obtain ⟨middle, between, hround, hrest⟩ := hreturns
      rw [List.map_cons, List.foldlM_cons, hbody _ _ _ _ _ hround]
      exact ih hrest

/-- Every round of a loop that returns has returned, after the rounds before it. -/
theorem returns_round {body : Value → Item → StateT State (Except Error) Value}
    {earlier later : List Item} {item : Item} {value value' : Value}
    (hreturns : Returns ((earlier ++ item :: later).foldlM body value) before value' after) :
    ∃ middle between next between', Returns (earlier.foldlM body value) before middle between ∧
      Returns (body middle item) between next between' := by
  rw [List.foldlM_append, returns_bind] at hreturns
  obtain ⟨middle, between, hearlier, hrest⟩ := hreturns
  rw [List.foldlM_cons, returns_bind] at hrest
  obtain ⟨next, between', hround, -⟩ := hrest
  exact ⟨middle, between, next, between', hearlier, hround⟩

/-! ## Exceptions -/

/-- Whatever the state, an exception of the program satisfies the condition. -/
def RaisesOnly (program : StateT State (Except Error) Value) (raised : Error → Prop) : Prop :=
  ∀ before error, program.run before = .error error → raised error

variable {raised : Error → Prop}

theorem raisesOnly_pure (value : Value) :
    RaisesOnly (pure value : StateT State (Except Error) Value) raised := by
  intro before error hrun
  cases hrun

theorem raisesOnly_throw {error : Error} (herror : raised error) :
    RaisesOnly (throw error : StateT State (Except Error) Value) raised := by
  intro before error' hrun
  rwa [← Except.error.inj hrun]

theorem raisesOnly_get : RaisesOnly (get : StateT State (Except Error) State) raised := by
  intro before error hrun
  cases hrun

theorem raisesOnly_set (state : State) :
    RaisesOnly (set state : StateT State (Except Error) PUnit) raised := by
  intro before error hrun
  cases hrun

theorem raisesOnly_lift {action : Except Error Value}
    (haction : ∀ error, action = .error error → raised error) :
    RaisesOnly (liftM action : StateT State (Except Error) Value) raised := by
  intro before error hrun
  cases action with
  | error error' =>
      have heq : error' = error := Except.error.inj hrun
      exact haction error (by rw [heq])
  | ok value => cases hrun

theorem RaisesOnly.bind {program : StateT State (Except Error) Value}
    {next : Value → StateT State (Except Error) Value'} (hfirst : RaisesOnly program raised)
    (hnext : ∀ value, RaisesOnly (next value) raised) :
    RaisesOnly (program >>= next) raised := by
  intro before error hrun
  rw [StateT.run_bind] at hrun
  cases hprogram : program.run before with
  | error error' =>
      rw [hprogram] at hrun
      rw [← Except.error.inj hrun]
      exact hfirst before error' hprogram
  | ok result =>
      rw [hprogram] at hrun
      exact hnext result.1 result.2 error hrun

end IcpcVerify.StatefulRun
