import Mathlib.Logic.Function.Basic
import MopServer.Entities.ObjectGuid
import MopServer.Foundation.Table

/-! # The dungeon finder

Players and groups that look for a dungeon wait in queues under their guids.  What they have
chosen is kept apart from the queues, in the queue infos, and so is the state each of them is in.
-/

namespace MopServer.DungeonFinder

open MopServer.Foundation

/-- `LfgState`. -/
inductive LfgState where
  | none
  | rolecheck
  | queued
  | proposal
  | boot
  | dungeon
  | finishedDungeon
  | raidbrowser
  deriving DecidableEq, Repr

/-- `LfgCategory`. -/
inductive LfgCategory where
  | none
  | dungeon
  | raid
  | scenario
  | dynamicRaid
  deriving DecidableEq, Repr

/-- `LfgAnswer`. -/
inductive LfgAnswer where
  | pending
  | deny
  | agree
  deriving DecidableEq, Repr

/-- `LfgProposalState`. -/
inductive LfgProposalState where
  | initiating
  | failed
  | success
  deriving DecidableEq, Repr

def roleLeader : UInt8 := 1
def roleTank : UInt8 := 2
def roleHealer : UInt8 := 4
def roleDamage : UInt8 := 8

/-- The roles of a player. -/
structure LfgRole where
  guid : UInt64
  roles : UInt8
  deriving DecidableEq, Repr

instance : Keyed LfgRole UInt64 := ⟨LfgRole.guid⟩

/-- `LfgRolesMap`. -/
abbrev LfgRolesMap := Table LfgRole

/-- A map of roles is in the order of the guids. -/
def byGuid : Rearrangement LfgRole :=
  ⟨List.insertionSort fun first second => first.guid ≤ second.guid,
    fun rows => List.perm_insertionSort _ rows⟩

theorem nodup_damage (guid : UInt64) :
    (([⟨guid, roleDamage⟩] : List LfgRole).map Keyed.key).Nodup := List.nodup_singleton _

/-- `LfgQueueInfo`. -/
structure LfgQueueInfo where
  dungeons : List UInt32
  roles : LfgRolesMap
  category : LfgCategory

/-- `LfgProposalPlayer`. -/
structure LfgProposalPlayer where
  guid : UInt64
  role : UInt8
  accept : LfgAnswer
  groupLowGuid : UInt32
  deriving DecidableEq, Repr

/-- `LfgProposal`. -/
structure LfgProposal where
  dungeonId : UInt32
  state : LfgProposalState
  groupLowGuid : UInt32
  leader : UInt64
  queues : List UInt64
  players : List LfgProposalPlayer
  deriving DecidableEq, Repr

/-- `LfgPlayerData`, or `LfgGroupData`: the state and the one to return to. -/
structure LfgData where
  state : LfgState
  oldState : LfgState
  deriving DecidableEq, Repr

variable (data : LfgData)

/-- `LfgPlayerData::SetState`: the state that is left is remembered. -/
def LfgData.setPlayerState (state : LfgState) : LfgData :=
  match state with
  | .none | .dungeon | .finishedDungeon => { state, oldState := data.state }
  | _ => { data with state }

/-- `LfgGroupData::SetState`: the state that is entered is remembered. -/
def LfgData.setGroupState (state : LfgState) : LfgData :=
  match state with
  | .none | .dungeon | .finishedDungeon => { state, oldState := state }
  | _ => { data with state }

/-- `LfgPlayerData::ClearState`, `LfgGroupData::RestoreState`. -/
def LfgData.restoreState : LfgData := { data with state := data.oldState }

/-- The group of a player. -/
structure PlayerGroup where
  lowGuid : UInt32
  isLFGGroup : Bool
  deriving DecidableEq, Repr

/-- A player in the world. -/
structure Player where
  team : UInt32
  group : Option PlayerGroup
  deriving DecidableEq, Repr

/-- What the dungeon finder asks of the rest of the server. -/
structure World where
  /-- `ObjectAccessor::FindPlayer`. -/
  findPlayer : UInt64 → Option Player
  /-- `CONFIG_ALLOW_TWO_SIDE_INTERACTION_GROUP`. -/
  twoSide : Bool

/-- The dungeon finder. -/
structure LFGMgr where
  queueInfoMap : UInt64 → Option LfgQueueInfo
  currentQueue : UInt8 → List UInt64
  newToQueue : UInt8 → List UInt64
  compatibleMap : String → Option Bool
  players : UInt64 → LfgData
  groups : UInt64 → LfgData

namespace LFGMgr

variable (mgr : LFGMgr) (guid : UInt64)

/-- `GetState`. -/
def getState : LfgState :=
  if isGroup guid then (mgr.groups guid).state else (mgr.players guid).state

/-- `SetState`. -/
def setState (state : LfgState) : LFGMgr :=
  if isGroup guid then
    { mgr with groups := Function.update mgr.groups guid ((mgr.groups guid).setGroupState state) }
  else
    { mgr with
      players := Function.update mgr.players guid ((mgr.players guid).setPlayerState state) }

/-- `ClearState`: of a player. -/
def clearState : LFGMgr :=
  { mgr with players := Function.update mgr.players guid (mgr.players guid).restoreState }

/-- `RestoreState`: of a group. -/
def restoreState (mgr : LFGMgr) (guid : UInt64) : LFGMgr :=
  { mgr with groups := Function.update mgr.groups guid (mgr.groups guid).restoreState }

/-- `ConcatenateGuids`. -/
def concatenateGuids (check : List UInt64) : String :=
  String.intercalate "|" (check.map fun guid => toString guid.toNat)

/-- `SetCompatibles`. -/
def setCompatibles (key : String) (compatibles : Bool) : LFGMgr :=
  { mgr with compatibleMap := Function.update mgr.compatibleMap key (some compatibles) }

/-- `RemoveFromCompatibles`: every key in which the number of the guid occurs is removed. -/
def removeFromCompatibles : LFGMgr :=
  { mgr with
    compatibleMap := fun key =>
      if (toString guid.toNat).toList <:+: key.toList then none else mgr.compatibleMap key }

/-- The queue that is matched for a team: there is one for both if they may form groups. -/
def matchedQueue (world : World) (team : UInt8) : UInt8 := if world.twoSide then 0 else team

/-- `AddToQueue`. -/
def addToQueue (world : World) (guid : UInt64) (team : UInt8) : LFGMgr :=
  let queueId := matchedQueue world team
  if guid ∈ mgr.newToQueue queueId then mgr
  else
    { mgr with
      newToQueue := Function.update mgr.newToQueue queueId (mgr.newToQueue queueId ++ [guid]) }

/-- `RemoveFromQueue`. -/
def removeFromQueue : LFGMgr :=
  let removed : LFGMgr :=
    { mgr with
      currentQueue := fun queueId => (mgr.currentQueue queueId).filter fun other => other ≠ guid
      newToQueue := fun queueId => (mgr.newToQueue queueId).filter fun other => other ≠ guid }
  let forgotten := removed.removeFromCompatibles guid
  { forgotten with queueInfoMap := Function.update mgr.queueInfoMap guid none }

end LFGMgr

end MopServer.DungeonFinder
