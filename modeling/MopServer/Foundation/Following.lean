import MopServer.Foundation.Attempt
import MopServer.Foundation.Script

/-! # Attempts that follow scripts

A script does not say why it does not return.  An attempt that follows it does, and has the same
effect where it returns.
-/

namespace MopServer.Foundation

namespace Attempt

variable {State Op Stop Value : Type}

def returned (attempt : Attempt State Stop Value) (state : State) : Option State :=
  match attempt state with
  | (.ok _, reached) => some reached
  | (.error _, _) => none

variable (perform : State → Op → State)

def ofScript (script : Script State Op) (reason : Stop) : Attempt State Stop Unit :=
  fun state =>
    match script.run perform state with
    | some reached => (.ok (), reached)
    | none => (.error reason, state)

variable (attempt : Attempt State Stop Unit)

def FollowsAt (script : Script State Op) (state : State) : Prop :=
  attempt.returned state = script.run perform state

def Follows (script : Script State Op) : Prop :=
  ∀ state, FollowsAt perform attempt script state

variable {perform} {attempt next : Attempt State Stop Unit} {script : Script State Op}
  {rest : List (Script State Op)} {state : State}

theorem follows_pure : Follows perform (pure () : Attempt State Stop Unit) .done := fun _ => rfl

theorem follows_stop (reason : Stop) :
    Follows perform (stop reason : Attempt State Stop Unit) .fail := fun _ => rfl

theorem follows_update (op : Op) :
    Follows perform (update fun state => perform state op : Attempt State Stop Unit) (.op op) :=
  fun _ => rfl

theorem follows_ofScript (script : Script State Op) (reason : Stop) :
    Follows perform (ofScript perform script reason) script := by
  intro state
  unfold FollowsAt returned ofScript
  cases script.run perform state <;> rfl

theorem follows_ask {next : State → Attempt State Stop Unit} {body : State → Script State Op}
    (hnext : ∀ state, FollowsAt perform (next state) (body state) state) :
    Follows perform (ask >>= next) (.read body) := hnext

/-- Steps that follow scripts follow their sequence. -/
theorem FollowsAt.bind (hfirst : FollowsAt perform attempt script state)
    (hnext : Follows perform next (.seq perform rest)) :
    FollowsAt perform (attempt >>= fun _ => next) (.seq perform (script :: rest)) state := by
  unfold FollowsAt returned Script.run at hfirst
  unfold FollowsAt Script.run Script.seq
  rcases hattempt : attempt state with ⟨reason | value, reached⟩
  · rw [hattempt, Eq.comm, Option.map_eq_none_iff] at hfirst
    rw [hfirst, returned]
    simp only [Bind.bind, hattempt, Option.bind_none, Option.map_none]
  · rw [hattempt, Eq.comm, Option.map_eq_some_iff] at hfirst
    obtain ⟨ops, hops, rfl⟩ := hfirst
    have hlater := hnext (ops.foldl perform state)
    unfold FollowsAt returned Script.run at hlater
    rw [hops, returned, bind_of_ok hattempt, hlater, Option.bind_some, Option.map_map]
    congr 1
    funext later
    exact List.foldl_append.symm

theorem Follows.bind (hfirst : Follows perform attempt script)
    (hnext : Follows perform next (.seq perform rest)) :
    Follows perform (attempt >>= fun _ => next) (.seq perform (script :: rest)) :=
  fun state => (hfirst state).bind hnext

theorem Follows.singleton (hfollows : Follows perform attempt script) :
    Follows perform attempt (.seq perform [script]) := by
  rw [Script.seq_singleton]
  exact hfollows

/-- A loop follows the sequence of the scripts of its rounds. -/
theorem follows_forM {Item : Type} {body : Item → Attempt State Stop PUnit}
    {script : Item → Script State Op} (hbody : ∀ item, Follows perform (body item) (script item))
    (items : List Item) : Follows perform (forM items body) (.seq perform (items.map script)) := by
  induction items with
  | nil => exact follows_pure
  | cons item rest ih =>
    rw [List.forM_cons, List.map_cons]
    exact (hbody item).bind ih

end Attempt

end MopServer.Foundation
