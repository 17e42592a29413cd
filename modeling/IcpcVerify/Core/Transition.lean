import Mathlib

/-!
# Runs of a step relation

A concurrent program is a step relation on a state that holds every thread, the
environment and the clock.  A run is any finite sequence of steps, in whatever
order they come.
-/

namespace IcpcVerify.Transition

variable {State : Type*} {step : State → State → Prop} {start : State}

/-- States that a run from `start` can be in. -/
def Reachable (step : State → State → Prop) (start : State) : State → Prop :=
  Relation.ReflTransGen step start

theorem Reachable.here : Reachable step start start :=
  Relation.ReflTransGen.refl

theorem Reachable.next {state state' : State} (hreach : Reachable step start state)
    (hstep : step state state') : Reachable step start state' :=
  Relation.ReflTransGen.tail hreach hstep

/-- What holds at the start and is kept by every step holds throughout. -/
theorem Reachable.invariant (inv : State → Prop) (hstart : inv start)
    (hkept : ∀ state state', inv state → step state state' → inv state')
    {state : State} (hreach : Reachable step start state) : inv state := by
  induction hreach with
  | refl => exact hstart
  | tail _ hstep ih => exact hkept _ _ ih hstep

/-- The same, where keeping `inv` may use what is already known of every
reachable state. -/
theorem Reachable.invariant_of {known : State → Prop} (inv : State → Prop)
    (hknown : ∀ state, Reachable step start state → known state) (hstart : inv start)
    (hkept : ∀ state state', known state → inv state → step state state' → inv state')
    {state : State} (hreach : Reachable step start state) : inv state := by
  induction hreach with
  | refl => exact hstart
  | tail hreach hstep ih => exact hkept _ _ (hknown _ hreach) ih hstep

end IcpcVerify.Transition
