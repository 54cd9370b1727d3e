import MopServer.DungeonFinder.LFGMgr

/-! # Resting states

Players and groups of the dungeon finder remember a state that they can be put back in.  A group
remembers the last state it came to rest in.
-/

namespace MopServer.DungeonFinder

/-- `LfgPlayerData`, with what the player has chosen for the queue. -/
structure LfgPlayerData extends LfgData where
  roles : UInt8
  selectedDungeons : List UInt32
  deriving DecidableEq, Repr

/-- The constructor of `LfgGroupData`. -/
def LfgData.initial : LfgData := { state := .none, oldState := .none }

namespace LfgPlayerData

/-- The constructor. -/
def initial : LfgPlayerData := { LfgData.initial with roles := 0, selectedDungeons := [] }

variable (data : LfgPlayerData)

/-- `SetState`. -/
def setState (state : LfgState) : LfgPlayerData :=
  { data with toLfgData := data.toLfgData.setPlayerState state }

/-- `ClearState`. -/
def clearState : LfgPlayerData :=
  { data.toLfgData.restoreState with roles := 0, selectedDungeons := [] }

end LfgPlayerData

variable {state : LfgState} {calls before after : List LfgState}

namespace LfgState

/-- The states that are remembered. -/
def isResting : LfgState → Bool
  | .none | .dungeon | .finishedDungeon => true
  | _ => false

/-- The states that something is going on in. -/
def isPending : LfgState → Bool
  | .rolecheck | .queued | .proposal | .boot => true
  | _ => false

def lastResting (start : LfgState) (calls : List LfgState) : LfgState :=
  calls.foldl (fun last state => if state.isResting then state else last) start

theorem isPending_of_isResting (hresting : state.isResting = true) : state.isPending = false := by
  cases state <;> first | rfl | cases hresting

theorem isResting_lastResting {start : LfgState} (hstart : start.isResting = true)
    (calls : List LfgState) : (lastResting start calls).isResting = true := by
  induction calls generalizing start with
  | nil => exact hstart
  | cons state rest ih =>
    apply ih
    dsimp only
    split
    · assumption
    · exact hstart

theorem lastResting_of_none (hcalls : ∀ state ∈ calls, state.isResting = false) (start : LfgState) :
    lastResting start calls = start := by
  induction calls with
  | nil => rfl
  | cons state rest ih =>
    rw [List.forall_mem_cons] at hcalls
    unfold lastResting
    rw [List.foldl_cons, hcalls.1]
    exact ih hcalls.2

theorem lastResting_append {start : LfgState} (hresting : state.isResting = true)
    (hafter : ∀ later ∈ after, later.isResting = false) :
    lastResting start (before ++ state :: after) = state := by
  unfold lastResting
  rw [List.foldl_append, List.foldl_cons, hresting]
  exact lastResting_of_none hafter state

end LfgState

namespace LfgData

variable (data : LfgData) (state : LfgState)

theorem state_setPlayerState : (data.setPlayerState state).state = state := by
  cases state <;> rfl

theorem oldState_setPlayerState : (data.setPlayerState state).oldState =
    if state.isResting then data.state else data.oldState := by
  cases state <;> rfl

theorem oldState_setGroupState : (data.setGroupState state).oldState =
    if state.isResting then state else data.oldState := by
  cases state <;> rfl

theorem oldState_foldl_setGroupState (calls : List LfgState) :
    (calls.foldl setGroupState data).oldState = LfgState.lastResting data.oldState calls := by
  induction calls generalizing data with
  | nil => rfl
  | cons state rest ih =>
    rw [List.foldl_cons, ih, oldState_setGroupState]
    rfl

theorem state_foldl_setPlayerState (calls : List LfgState) :
    (calls.foldl setPlayerState data).state = calls.getLastD data.state := by
  induction calls generalizing data with
  | nil => rfl
  | cons state rest ih =>
    rw [List.foldl_cons, ih, state_setPlayerState]
    cases rest <;> rfl

theorem oldState_foldl_setPlayerState (hcalls : ∀ state ∈ calls, state.isResting = false) :
    (calls.foldl setPlayerState data).oldState = data.oldState := by
  induction calls generalizing data with
  | nil => rfl
  | cons state rest ih =>
    rw [List.forall_mem_cons] at hcalls
    rw [List.foldl_cons, ih _ hcalls.2, oldState_setPlayerState, hcalls.1]
    rfl

end LfgData

/-- A history without a resting state, or the last one of it with what comes before and after. -/
theorem resting_cases (calls : List LfgState) :
    (∀ state ∈ calls, state.isResting = false) ∨
      ∃ before state after, calls = before ++ state :: after ∧ state.isResting = true ∧
        ∀ later ∈ after, later.isResting = false := by
  induction calls with
  | nil => exact Or.inl fun _ hmem => absurd hmem List.not_mem_nil
  | cons first rest ih =>
    rcases ih with hnone | ⟨before, state, after, rfl, hresting, hafter⟩
    · cases hfirst : first.isResting with
      | false => exact Or.inl (List.forall_mem_cons.mpr ⟨hfirst, hnone⟩)
      | true => exact Or.inr ⟨[], first, rest, rfl, hfirst, hnone⟩
    · exact Or.inr ⟨first :: before, state, after, rfl, hresting, hafter⟩

namespace LfgPlayerData

theorem toLfgData_foldl_setState (data : LfgPlayerData) (calls : List LfgState) :
    (calls.foldl setState data).toLfgData =
      calls.foldl LfgData.setPlayerState data.toLfgData := by
  induction calls generalizing data with
  | nil => rfl
  | cons state rest ih => exact ih (data.setState state)

/-- What a player goes back to is what he was in when he last came to rest. -/
theorem state_clearState_of_resting (hresting : state.isResting = true)
    (hafter : ∀ later ∈ after, later.isResting = false) :
    ((before ++ state :: after).foldl setState initial).clearState.state =
      before.getLastD .none := by
  show ((before ++ state :: after).foldl setState initial).toLfgData.oldState = _
  rw [toLfgData_foldl_setState, List.foldl_append, List.foldl_cons,
    LfgData.oldState_foldl_setPlayerState _ hafter, LfgData.oldState_setPlayerState, hresting]
  exact LfgData.state_foldl_setPlayerState _ before

theorem state_clearState_of_not_resting (hcalls : ∀ state ∈ calls, state.isResting = false) :
    (calls.foldl setState initial).clearState.state = .none := by
  show (calls.foldl setState initial).toLfgData.oldState = .none
  rw [toLfgData_foldl_setState]
  exact LfgData.oldState_foldl_setPlayerState _ hcalls

end LfgPlayerData

/-- After the calls a player is put back in the last resting state, as a group is, and in no state
that something is going on in. -/
structure ReturnsToRest (calls : List LfgState) : Prop where
  player : (calls.foldl LfgPlayerData.setState .initial).clearState.state =
    LfgState.lastResting .none calls
  group : (calls.foldl LfgData.setGroupState .initial).restoreState.state =
    LfgState.lastResting .none calls
  calm : (calls.foldl LfgPlayerData.setState .initial).clearState.state.isPending = false

/-- The last time a player comes to rest, he is in that state already. -/
def RestsInPlace (calls : List LfgState) : Prop :=
  ∀ before state after, calls = before ++ state :: after → state.isResting = true →
    (∀ later ∈ after, later.isResting = false) → before.getLastD .none = state

theorem returnsToRest_of_player
    (hplayer : (calls.foldl LfgPlayerData.setState .initial).clearState.state =
      LfgState.lastResting .none calls) : ReturnsToRest calls where
  player := hplayer
  group := LfgData.oldState_foldl_setGroupState _ calls
  calm := by
    rw [hplayer]
    exact LfgState.isPending_of_isResting (LfgState.isResting_lastResting rfl calls)

/-- A player is put back in the last resting state exactly if he came to rest where he was. -/
theorem returnsToRest_iff_restsInPlace (calls : List LfgState) :
    ReturnsToRest calls ↔ RestsInPlace calls := by
  constructor
  · rintro hreturns before state after rfl hresting hafter
    have hplayer := hreturns.player
    rw [LfgPlayerData.state_clearState_of_resting hresting hafter,
      LfgState.lastResting_append hresting hafter] at hplayer
    exact hplayer
  · intro hrests
    apply returnsToRest_of_player
    rcases resting_cases calls with hnone | ⟨before, state, after, rfl, hresting, hafter⟩
    · rw [LfgPlayerData.state_clearState_of_not_resting hnone, LfgState.lastResting_of_none hnone]
    · rw [LfgPlayerData.state_clearState_of_resting hresting hafter,
        LfgState.lastResting_append hresting hafter]
      exact hrests before state after rfl hresting hafter

/-- A player leaves the queue and is put back in it. -/
theorem not_returnsToRest_dequeued : ¬ReturnsToRest [.queued, .none] := fun hreturns => by
  cases hreturns.calm

end MopServer.DungeonFinder
