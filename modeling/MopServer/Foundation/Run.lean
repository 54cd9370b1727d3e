import Mathlib.Data.List.Basic

/-! # Runs of a deterministic transition function

A run is the list of states a transition function passes through on a list of
events.  An invariant is carried along a run either by steps that are all
allowed, or exactly by the allowed ones.
-/

namespace MopServer.Foundation

variable {State Event : Type*} (step : State → Event → State)
  {allowed first second : State → Event → Prop}

/-- All states a run passes through, the initial one included. -/
def visited : State → List Event → List State
  | state, [] => [state]
  | state, event :: rest => state :: visited (step state event) rest

/-- Every event of the run is allowed in the state in which it is taken. -/
def Along (allowed : State → Event → Prop) : State → List Event → Prop
  | _, [] => True
  | state, event :: rest => allowed state event ∧ Along allowed (step state event) rest

variable (state : State) (events : List Event)

theorem mem_visited_self : state ∈ visited step state events := by
  cases events <;> simp [visited]

theorem foldl_mem_visited : events.foldl step state ∈ visited step state events := by
  induction events generalizing state with
  | nil => exact List.mem_singleton_self state
  | cons event rest ih => exact List.mem_cons_of_mem state (ih (step state event))

theorem along_of_forall (hall : ∀ state event, allowed state event) (state : State)
    (events : List Event) : Along step allowed state events := by
  induction events generalizing state with
  | nil => trivial
  | cons event rest ih => exact ⟨hall state event, ih (step state event)⟩

variable (invariant : State → Prop)

/-- An invariant preserved by every allowed event holds in all states of a run
of allowed events. -/
theorem invariant_of_along (allowed : State → Event → Prop)
    (hstep : ∀ state event, invariant state → allowed state event → invariant (step state event))
    (state : State) (events : List Event) (hstate : invariant state)
    (halong : Along step allowed state events) :
    ∀ reached ∈ visited step state events, invariant reached := by
  induction events generalizing state with
  | nil =>
    intro reached hreached
    simp only [visited, List.mem_singleton] at hreached
    exact hreached ▸ hstate
  | cons event rest ih =>
    intro reached hreached
    simp only [visited, List.mem_cons] at hreached
    rcases hreached with rfl | hreached
    · exact hstate
    · exact ih (step state event) (hstep state event hstate halong.1) halong.2
        reached hreached

theorem along_of_invariant {property : State → Event → Prop}
    (hstep : ∀ state event, invariant state → allowed state event → invariant (step state event))
    (hproperty : ∀ state event, invariant state → allowed state event → property state event)
    (state : State) (events : List Event) (hstate : invariant state)
    (halong : Along step allowed state events) : Along step property state events := by
  induction events generalizing state with
  | nil => trivial
  | cons event rest ih =>
    exact ⟨hproperty state event hstate halong.1,
      ih (step state event) (hstep state event hstate halong.1) halong.2⟩

/-- When, from a state satisfying the invariant, an event restores it exactly
if the event is allowed, the runs that keep the invariant are the runs of
allowed events. -/
theorem forall_visited_iff_along (allowed : State → Event → Prop)
    (hstep : ∀ state event, invariant state → (invariant (step state event) ↔ allowed state event))
    (state : State) (events : List Event) :
    (∀ reached ∈ visited step state events, invariant reached) ↔
      invariant state ∧ Along step allowed state events := by
  constructor
  · intro hall
    have hstate : invariant state := hall state (mem_visited_self step state events)
    refine ⟨hstate, ?_⟩
    induction events generalizing state with
    | nil => exact trivial
    | cons event rest ih =>
      have htail : ∀ reached ∈ visited step (step state event) rest, invariant reached :=
        fun reached hreached => hall reached (List.mem_cons_of_mem state hreached)
      have hnext : invariant (step state event) := htail _ (mem_visited_self step _ rest)
      exact ⟨(hstep state event hstate).mp hnext, ih _ htail hnext⟩
  · rintro ⟨hstate, halong⟩
    exact invariant_of_along step invariant allowed
      (fun state event hinv => (hstep state event hinv).mpr) state events hstate halong

/-- When only allowed events of a sound state restore a property of all sound states, the runs
that keep the property are the runs of allowed events. -/
theorem forall_visited_iff_along_of_invariant (property : State → Prop)
    (allowed : State → Event → Prop) (himp : ∀ state, invariant state → property state)
    (hkeep : ∀ state event, invariant state → allowed state event → invariant (step state event))
    (honly : ∀ state event, invariant state → property (step state event) → allowed state event)
    (state : State) (events : List Event) (hstate : invariant state) :
    (∀ reached ∈ visited step state events, property reached) ↔
      Along step allowed state events := by
  constructor
  · intro hall
    induction events generalizing state with
    | nil => trivial
    | cons event rest ih =>
      have htail : ∀ reached ∈ visited step (step state event) rest, property reached :=
        fun reached hreached => hall reached (List.mem_cons_of_mem state hreached)
      have hallowed := honly state event hstate (htail _ (mem_visited_self step _ rest))
      exact ⟨hallowed, ih _ (hkeep state event hstate hallowed) htail⟩
  · intro halong reached hreached
    exact himp reached
      (invariant_of_along step invariant allowed hkeep state events hstate halong reached hreached)

/-- Two properties of events that agree under an invariant hold along the same runs,
provided that the events with one of them keep the invariant. -/
theorem along_iff_of_invariant
    (hstep : ∀ state event, invariant state → second state event → invariant (step state event))
    (hiff : ∀ state event, invariant state → (first state event ↔ second state event))
    (state : State) (events : List Event) (hstate : invariant state) :
    Along step first state events ↔ Along step second state events := by
  induction events generalizing state with
  | nil => exact Iff.rfl
  | cons event rest ih =>
    unfold Along
    rw [hiff state event hstate]
    exact and_congr_right fun hsecond => ih _ (hstep state event hstate hsecond)

/-- How often a flag is lowered along a run. -/
def fallingEdges (flag : State → Bool) : State → List Event → Nat
  | _, [] => 0
  | state, event :: rest =>
    (if flag state && !flag (step state event) then 1 else 0) +
      fallingEdges flag (step state event) rest

theorem fallingEdges_le_one {flag : State → Bool} (invariant lowered : State → Prop)
    (hinvariant : ∀ state event, invariant state → invariant (step state event))
    (hlowered : ∀ state event, lowered state → lowered (step state event))
    (hflag : ∀ state, lowered state → flag state = false)
    (hfall : ∀ state event, invariant state → flag state = true →
      flag (step state event) = false → lowered (step state event))
    (state : State) (events : List Event) (hstate : invariant state) :
    fallingEdges step flag state events ≤ 1 := by
  have hzero : ∀ events state, lowered state → fallingEdges step flag state events = 0 := by
    intro events
    induction events with
    | nil => exact fun _ _ => rfl
    | cons event rest ih =>
      intro state hstate
      simp [fallingEdges, hflag state hstate, ih _ (hlowered state event hstate)]
  induction events generalizing state with
  | nil => exact Nat.zero_le 1
  | cons event rest ih =>
    unfold fallingEdges
    split
    next hedge =>
      simp only [Bool.and_eq_true, Bool.not_eq_true'] at hedge
      have hrest := hzero rest _ (hfall state event hstate hedge.1 hedge.2)
      omega
    · rw [Nat.zero_add]
      exact ih _ (hinvariant state event hstate)

/-- Two things are allowed along a run if each of them is. -/
theorem along_and :
    Along step (fun state event => first state event ∧ second state event) state events ↔
      Along step first state events ∧ Along step second state events := by
  induction events generalizing state with
  | nil => simp [Along]
  | cons event rest ih =>
    simp only [Along, ih]
    exact and_and_and_comm

theorem along_append (allowed : State → Event → Prop) (state : State)
    (first second : List Event) :
    Along step allowed state (first ++ second) ↔
      Along step allowed state first ∧ Along step allowed (first.foldl step state) second := by
  induction first generalizing state with
  | nil => simp [Along]
  | cons event rest ih => simp [Along, ih, and_assoc]

theorem exists_first_violation {state : State} {events : List Event}
    (hnot : ¬ Along step allowed state events) :
    ∃ before event after, events = before ++ event :: after ∧
      Along step allowed state before ∧ ¬ allowed (before.foldl step state) event := by
  induction events generalizing state with
  | nil => exact absurd trivial hnot
  | cons event rest ih =>
    by_cases hevent : allowed state event
    · have hrest : ¬ Along step allowed (step state event) rest :=
        fun hrest => hnot ⟨hevent, hrest⟩
      obtain ⟨before, violation, after, rfl, hbefore, hviolation⟩ := ih hrest
      exact ⟨event :: before, violation, after, rfl, ⟨hevent, hbefore⟩, hviolation⟩
    · exact ⟨[], event, rest, rfl, trivial, hevent⟩

instance decidableAlong (allowed : State → Event → Prop)
    [∀ state event, Decidable (allowed state event)] :
    ∀ state events, Decidable (Along step allowed state events)
  | _, [] => isTrue trivial
  | state, event :: rest =>
    @instDecidableAnd _ _ _ (decidableAlong allowed (step state event) rest)

end MopServer.Foundation
