import Mathlib.Logic.Function.Basic
import MopServer.Foundation.Table

/-! # Battleground queues

One queue serves one battleground type or one arena size.  In each level bracket it keeps four
lists of waiting groups: the premade (or rated) and the normal ones of either faction.  A group
is a heap record that the lists and the entries of its players point to.
-/

namespace MopServer.Battlegrounds

open Foundation

/-- `Team`.  A Pandaren belongs to neither faction before he chooses one. -/
inductive Team where
  | alliance
  | horde
  | pandarenNeutral
  deriving DecidableEq, Repr

/-- `BG_TEAM_ALLIANCE` and `BG_TEAM_HORDE`. -/
inductive TeamIndex where
  | alliance
  | horde
  deriving DecidableEq, Repr

/-- The lists a group may wait in are those of the horde for `HORDE`, of the alliance else. -/
def Team.index (team : Team) : TeamIndex := if team = .horde then .horde else .alliance

def TeamIndex.other : TeamIndex → TeamIndex
  | .alliance => .horde
  | .horde => .alliance

def TeamIndex.team : TeamIndex → Team
  | .alliance => .alliance
  | .horde => .horde

/-- `BattlegroundQueueGroupTypes`. -/
inductive QueueGroupType where
  | premadeAlliance
  | premadeHorde
  | normalAlliance
  | normalHorde
  deriving DecidableEq, Repr

/-- `BG_QUEUE_PREMADE_ALLIANCE + i`. -/
def QueueGroupType.premade : TeamIndex → QueueGroupType
  | .alliance => .premadeAlliance
  | .horde => .premadeHorde

/-- `BG_QUEUE_NORMAL_ALLIANCE + i`. -/
def QueueGroupType.normal : TeamIndex → QueueGroupType
  | .alliance => .normalAlliance
  | .horde => .normalHorde

def QueueGroupType.teamIndex : QueueGroupType → TeamIndex
  | .premadeAlliance => .alliance
  | .premadeHorde => .horde
  | .normalAlliance => .alliance
  | .normalHorde => .horde

/-- `MAX_BATTLEGROUND_BRACKETS`. -/
def maxBattlegroundBrackets : Nat := 17

/-- `BattlegroundBracketId`. -/
def Bracket := Fin maxBattlegroundBrackets
  deriving DecidableEq, Repr

/-- The brackets from the highest to the lowest, the order in which a group is searched. -/
def brackets : List Bracket := (List.finRange maxBattlegroundBrackets).reverse

/-- The place of one list in `m_QueuedGroups`. -/
structure Slot where
  bracket : Bracket
  type : QueueGroupType
  deriving DecidableEq, Repr

/-- `INVITE_ACCEPT_WAIT_TIME`. -/
def inviteAcceptWaitTime : UInt32 := 90000

/-- `BATTLEGROUND_RATED_10_VS_10`. -/
def battlegroundRated10Vs10 : UInt32 := 100

/-- `GroupQueueInfo`.  The map of its players is ordered by their guids. -/
structure GroupQueueInfo where
  players : List UInt64
  team : Team
  bgTypeId : UInt32
  isRated : Bool
  isRatedBG : Bool
  arenaType : UInt8
  joinTime : UInt32
  removeInviteTime : UInt32
  isInvitedToBGInstanceGUID : UInt32
  arenaTeamRating : UInt32
  arenaMatchmakerRating : UInt32
  opponentsTeamRating : UInt32
  opponentsMatchmakerRating : UInt32
  group : Option Nat
  disabledBGs : Option (UInt32 × UInt32)
  deriving DecidableEq, Repr

def GroupQueueInfo.invited (info : GroupQueueInfo) : Bool := info.isInvitedToBGInstanceGUID != 0

/-- A group record with its address. -/
structure QueuedGroup where
  id : Nat
  info : GroupQueueInfo
  deriving DecidableEq, Repr

instance : Keyed QueuedGroup Nat := ⟨QueuedGroup.id⟩

/-- `PlayerQueueInfo` under the guid of its player. -/
structure PlayerQueueInfo where
  guid : UInt64
  lastOnlineTime : UInt32
  groupInfo : Nat
  deriving DecidableEq, Repr

instance : Keyed PlayerQueueInfo UInt64 := ⟨PlayerQueueInfo.guid⟩

/-- `BattlegroundQueue`, with the heap its group records live on.  Addresses from `nextGroup`
on have not been handed out. -/
structure BattlegroundQueue where
  groups : Table QueuedGroup
  nextGroup : Nat
  queuedPlayers : Table PlayerQueueInfo
  queuedGroups : Slot → List Nat

namespace BattlegroundQueue

def empty : BattlegroundQueue where
  groups := Table.empty
  nextGroup := 0
  queuedPlayers := Table.empty
  queuedGroups := fun _ => []

/-- The records a list points to, in its order. -/
def listed (queue : BattlegroundQueue) (slot : Slot) : List QueuedGroup :=
  (queue.queuedGroups slot).filterMap queue.groups.get?

def setList (queue : BattlegroundQueue) (slot : Slot) (groups : List Nat) : BattlegroundQueue :=
  { queue with queuedGroups := Function.update queue.queuedGroups slot groups }

def modifyGroup (queue : BattlegroundQueue) (id : Nat)
    (f : GroupQueueInfo → GroupQueueInfo) : BattlegroundQueue :=
  { queue with groups := queue.groups.modify id fun row => { row with info := f row.info } }

/-- The arguments of `AddGroup`: a leader, alone or with the online members of his group. -/
structure Joining where
  leader : UInt64
  team : Team
  grp : Option (Nat × List UInt64)
  bgTypeId : UInt32
  bracket : Bracket
  arenaType : UInt8
  isRated : Bool
  isPremade : Bool
  arenaRating : UInt32
  matchmakerRating : UInt32
  disabledBGs : Option (UInt32 × UInt32)
  now : UInt32
  leader_mem : ∀ party, grp = some party → leader ∈ party.2

/-- The players who join, in the order in which they are added. -/
def Joining.members (joining : Joining) : List UInt64 :=
  match joining.grp with
  | some (_, members) => members
  | none => [joining.leader]

/-- The list a joining group is appended to. -/
def Joining.slot (joining : Joining) : Slot :=
  ⟨joining.bracket,
    if !joining.isRated && !joining.isPremade then .normal joining.team.index
    else .premade joining.team.index⟩

/-- `Players[guid] = ...` on a map ordered by guid. -/
def insertPlayer (guid : UInt64) (players : List UInt64) : List UInt64 :=
  if guid ∈ players then players else players.orderedInsert (· ≤ ·) guid

def Joining.info (joining : Joining) : GroupQueueInfo where
  players := joining.members.foldl (fun players guid => insertPlayer guid players) []
  team := joining.team
  bgTypeId := joining.bgTypeId
  isRated := joining.isRated
  isRatedBG := joining.bgTypeId == battlegroundRated10Vs10
  arenaType := joining.arenaType
  joinTime := joining.now
  removeInviteTime := 0
  isInvitedToBGInstanceGUID := 0
  arenaTeamRating := joining.arenaRating
  arenaMatchmakerRating := joining.matchmakerRating
  opponentsTeamRating := 0
  opponentsMatchmakerRating := 0
  group := joining.grp.map Prod.fst
  disabledBGs := joining.disabledBGs

/-- `m_QueuedPlayers[guid] = ...`. -/
def enqueuePlayer (now : UInt32) (id : Nat) (players : Table PlayerQueueInfo) (guid : UInt64) :
    Table PlayerQueueInfo :=
  players.insert ⟨guid, now, id⟩ (Rearrangement.keep _)

def addGroup (queue : BattlegroundQueue) (joining : Joining) : BattlegroundQueue where
  groups := queue.groups.insert ⟨queue.nextGroup, joining.info⟩ (Rearrangement.keep _)
  nextGroup := queue.nextGroup + 1
  queuedPlayers :=
    joining.members.foldl (enqueuePlayer joining.now queue.nextGroup) queue.queuedPlayers
  queuedGroups :=
    Function.update queue.queuedGroups joining.slot
      (queue.queuedGroups joining.slot ++ [queue.nextGroup])

/-! ## Removing a player -/

/-- The search of one bracket.  Both lists of the faction are gone through and the normal one
is the last. -/
def findInBracket (queue : BattlegroundQueue) (id : Nat) (index : TeamIndex)
    (bracket : Bracket) : Option Slot :=
  if id ∈ queue.queuedGroups ⟨bracket, .normal index⟩ then some ⟨bracket, .normal index⟩
  else if id ∈ queue.queuedGroups ⟨bracket, .premade index⟩ then
    some ⟨bracket, .premade index⟩
  else none

/-- The list of a faction that holds a group, searched from the highest bracket down. -/
def findGroup (queue : BattlegroundQueue) (id : Nat) (index : TeamIndex) : Option Slot :=
  brackets.findSome? (queue.findInBracket id index)

/-- A player is taken out of his group's map and out of the queue's. -/
def dropPlayer (queue : BattlegroundQueue) (id : Nat) (guid : UInt64) : BattlegroundQueue :=
  { queue.modifyGroup id fun info => { info with players := info.players.erase guid } with
    queuedPlayers := queue.queuedPlayers.erase guid }

/-- `m_QueuedGroups[bracket_id][index].erase(group_itr)` and `delete group`. -/
def deleteGroup (queue : BattlegroundQueue) (slot : Slot) (id : Nat) : BattlegroundQueue :=
  { queue.setList slot ((queue.queuedGroups slot).erase id) with
    groups := queue.groups.erase id }

/-- One call of `RemovePlayer`, with the player it calls itself for: when a player leaves a
rated queue before the invitation everybody in his group has to leave.  What
`decreaseInvitedCount` asks for happens to the battleground and to the player's ratings. -/
def removeOne (queue : BattlegroundQueue) (guid : UInt64) : BattlegroundQueue × Option UInt64 :=
  match queue.queuedPlayers.get? guid with
  | none => (queue, none)
  | some entry =>
    match queue.groups.get? entry.groupInfo with
    | none => (queue, none)
    | some row =>
      match queue.findGroup row.id row.info.team.index with
      | none => (queue, none)
      | some slot =>
        match row.info.players.erase guid with
        | [] => ((queue.dropPlayer row.id guid).deleteGroup slot row.id, none)
        | next :: _ =>
          (queue.dropPlayer row.id guid,
            if !row.info.invited && row.info.isRated then some next else none)

/-- The recursion of `RemovePlayer`; each call takes an entry out of `m_QueuedPlayers`, so it is
no deeper than that map is large. -/
def removeFrom : Nat → BattlegroundQueue → UInt64 → BattlegroundQueue
  | 0, queue, _ => queue
  | depth + 1, queue, guid =>
    match queue.removeOne guid with
    | (rest, none) => rest
    | (rest, some next) => removeFrom depth rest next

def removePlayer (queue : BattlegroundQueue) (guid : UInt64) : BattlegroundQueue :=
  removeFrom queue.queuedPlayers.rows.length queue guid

end BattlegroundQueue

end MopServer.Battlegrounds
