import Mathlib.Logic.Basic

/-! # Attempts

An attempt runs from a state and ends with a value or with a reason to stop.  The state it has
reached stays either way, so that what was done before the stop is not undone.
-/

namespace MopServer.Foundation

def Attempt (State Stop Value : Type) := State → Except Stop Value × State

namespace Attempt

variable {State Stop Value Next : Type} {attempt : Attempt State Stop Value}
  {next : Value → Attempt State Stop Next}

instance : Monad (Attempt State Stop) where
  pure value := fun state => (.ok value, state)
  bind attempt next := fun state =>
    match attempt state with
    | (.ok value, reached) => next value reached
    | (.error stop, reached) => (.error stop, reached)

def stop (reason : Stop) : Attempt State Stop Value := fun state => (.error reason, state)

def ask : Attempt State Stop State := fun state => (.ok state, state)

def update (change : State → State) : Attempt State Stop Unit :=
  fun state => (.ok (), change state)

/-- The body is run a number of times and hands a value on. -/
def iterate (body : Value → Attempt State Stop Value) : Nat → Value → Attempt State Stop Value
  | 0, value => pure value
  | count + 1, value => do iterate body count (← body value)

theorem bind_of_ok {state reached : State} {value : Value}
    (hattempt : attempt state = (.ok value, reached)) :
    (attempt >>= next) state = next value reached := by
  simp only [Bind.bind, hattempt]

theorem bind_of_error {state : State} {reason : Stop} (hattempt : (attempt state).1 = .error reason)
    : ((attempt >>= next) state).1 = .error reason := by
  rcases hend : attempt state with ⟨_ | _, reached⟩
  all_goals rw [hend] at hattempt
  · cases hattempt
    simp only [Bind.bind, hend]
  · cases hattempt

/-! ## What an attempt guarantees -/

/-- An end with a value has the first property, a stop the second one. -/
def Ends (after : Value → State → Prop) (stopped : Stop → State → Prop) :
    Except Stop Value × State → Prop
  | (.ok value, state) => after value state
  | (.error reason, state) => stopped reason state

/-- From every state with the first property the attempt ends as the others say. -/
def Meets (before : State → Prop) (attempt : Attempt State Stop Value)
    (after : Value → State → Prop) (stopped : Stop → State → Prop) : Prop :=
  ∀ state, before state → Ends after stopped (attempt state)

variable {before : State → Prop} {after : Value → State → Prop} {stopped : Stop → State → Prop}
  {last : Next → State → Prop}

theorem meets_pure {value : Value} (hafter : ∀ state, before state → after value state) :
    Meets before (pure value) after stopped := hafter

theorem meets_stop {reason : Stop} (hstopped : ∀ state, before state → stopped reason state) :
    Meets before (stop reason) after stopped := hstopped

theorem meets_update {change : State → State} {after : Unit → State → Prop}
    (hafter : ∀ state, before state → after () (change state)) :
    Meets before (update change) after stopped := hafter

theorem Meets.bind (hattempt : Meets before attempt after stopped)
    (hnext : ∀ value, Meets (after value) (next value) last stopped) :
    Meets before (attempt >>= next) last stopped := by
  intro state hstate
  have hend := hattempt state hstate
  simp only [Bind.bind]
  split
  next value reached hattempt =>
    rw [hattempt] at hend
    exact hnext value reached hend
  next reason reached hattempt =>
    rw [hattempt] at hend
    exact hend

theorem meets_ask_bind {next : State → Attempt State Stop Next}
    (hnext : ∀ asked, Meets (fun state => asked = state ∧ before state) (next asked) last stopped) :
    Meets before (ask >>= next) last stopped :=
  fun state hstate => hnext state state ⟨rfl, hstate⟩

/-- Fewer states to start from, more ends. -/
theorem Meets.mono {earlier : State → Prop} {later : Value → State → Prop}
    (hattempt : Meets before attempt after stopped)
    (hbefore : ∀ state, earlier state → before state)
    (hafter : ∀ value state, after value state → later value state) :
    Meets earlier attempt later stopped := by
  intro state hstate
  have hend := hattempt state (hbefore state hstate)
  revert hend
  rcases attempt state with ⟨reason | value, reached⟩
  · exact id
  · exact hafter value reached

/-- What a body keeps, any number of runs of it keeps. -/
theorem Meets.iterate {body : Value → Attempt State Stop Value}
    (hbody : ∀ value, Meets before (body value) (fun _ => before) stopped) (count : Nat)
    (value : Value) : Meets before (iterate body count value) (fun _ => before) stopped := by
  induction count generalizing value with
  | zero => exact meets_pure fun _ hstate => hstate
  | succ count ih => exact (hbody value).bind ih

theorem Meets.foldlM {Element : Type} {body : Value → Element → Attempt State Stop Value}
    (hbody : ∀ value element, Meets before (body value element) (fun _ => before) stopped)
    (elements : List Element) (value : Value) :
    Meets before (elements.foldlM body value) (fun _ => before) stopped := by
  induction elements generalizing value with
  | nil => exact meets_pure fun _ hstate => hstate
  | cons element rest ih =>
    rw [List.foldlM_cons]
    exact (hbody value element).bind ih

theorem Meets.forM {Element : Type} {body : Element → Attempt State Stop PUnit}
    {elements : List Element}
    (hbody : ∀ element ∈ elements, Meets before (body element) (fun _ => before) stopped) :
    Meets before (forM elements body) (fun _ => before) stopped := by
  induction elements with
  | nil => exact meets_pure fun _ hstate => hstate
  | cons element rest ih =>
    rw [List.forall_mem_cons] at hbody
    rw [List.forM_cons]
    exact hbody.1.bind fun _ => ih hbody.2

end Attempt

end MopServer.Foundation
