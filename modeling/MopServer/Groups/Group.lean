import Mathlib.Data.List.Count
import Mathlib.Logic.Function.Basic
import MopServer.Groups.Roll

/-! # Groups

A group is a party, a raid, or the raid of a battleground or a battlefield.  A raid has eight
subgroups whose members are counted beside; the counters are made when a group becomes a raid
and dropped when it becomes a party again, while the members keep their subgroups.
-/

namespace MopServer.Groups

/-- `GroupMemberFlags`. -/
inductive MemberFlag where
  | assistant
  | mainTank
  | mainAssist
  deriving DecidableEq, Repr

def MemberFlag.mask : MemberFlag → UInt8
  | .assistant => 0x01
  | .mainTank => 0x02
  | .mainAssist => 0x04

/-- `MemberSlot`. -/
structure MemberSlot where
  guid : UInt64
  group : UInt8
  flags : UInt8
  deriving DecidableEq, Repr

/-- What a group was made for. -/
inductive GroupKind where
  | normal
  | battleground
  | battlefield
  deriving DecidableEq, Repr

/-- `Group`.  The counters are an array with one byte for each subgroup. -/
structure Group where
  kind : GroupKind
  isRaid : Bool
  isLfg : Bool
  everyoneIsAssistant : Bool
  leaderGuid : UInt64
  memberSlots : List MemberSlot
  subGroupsCounts : Option (UInt8 → UInt8)

/-- `MAXGROUPSIZE`. -/
def maxGroupSize : Nat := 5

/-- `MAX_RAID_SUBGROUPS`. -/
def maxRaidSubgroups : Nat := maxRaidSize / maxGroupSize

/-- The indices of the subgroups in their order. -/
def subGroups : List UInt8 := (List.range maxRaidSubgroups).map UInt8.ofNat

namespace MemberSlot

def has (slot : MemberSlot) (flag : MemberFlag) : Bool := slot.flags &&& flag.mask != 0

/-- `ToggleGroupMemberFlag`. -/
def toggleFlag (flag : MemberFlag) (apply : Bool) (slot : MemberSlot) : MemberSlot :=
  { slot with flags := if apply then slot.flags ||| flag.mask else slot.flags &&& ~~~flag.mask }

end MemberSlot

namespace Group

variable (group : Group)

def isBG : Bool := group.kind = .battleground

def isBF : Bool := group.kind = .battlefield

/-- `GetMembersCount`. -/
def membersCount : Nat := group.memberSlots.length

def isFull : Bool :=
  if group.isRaid then maxRaidSize ≤ group.membersCount else maxGroupSize ≤ group.membersCount

variable (guid : UInt64)

/-- `_getMemberSlot`. -/
def memberSlot? : Option MemberSlot :=
  group.memberSlots.find? fun slot => slot.guid = guid

def isMember : Bool := (group.memberSlot? guid).isSome

def isLeader : Bool := group.leaderGuid = guid

def isAssistant : Bool :=
  (group.memberSlot? guid).any (·.has .assistant)

def modifySlot (f : MemberSlot → MemberSlot) : Group :=
  { group with
    memberSlots := group.memberSlots.map fun slot => if slot.guid = guid then f slot else slot }

variable (subgroup : UInt8)

/-- `SubGroupCounterIncrease`. -/
def subGroupCounterIncrease : Group :=
  let increase (counts : UInt8 → UInt8) := Function.update counts subgroup (counts subgroup + 1)
  { group with subGroupsCounts := group.subGroupsCounts.map increase }

/-- `SubGroupCounterDecrease`. -/
def subGroupCounterDecrease : Group :=
  let decrease (counts : UInt8 → UInt8) := Function.update counts subgroup (counts subgroup - 1)
  { group with subGroupsCounts := group.subGroupsCounts.map decrease }

/-- `_initRaidSubGroupsCounter`. -/
def initRaidSubGroupsCounter : Group :=
  let countSlot (counts : UInt8 → UInt8) (slot : MemberSlot) :=
    Function.update counts slot.group (counts slot.group + 1)
  { group with subGroupsCounts := some (group.memberSlots.foldl countSlot fun _ => 0) }

def hasFreeSlotSubGroup : Bool :=
  group.subGroupsCounts.any fun counts => (counts subgroup).toNat < maxGroupSize

/-- The subgroup of a new member: the first of a raid that is not full. -/
def freeSubGroup : Option UInt8 :=
  match group.subGroupsCounts with
  | none => some 0
  | some counts => subGroups.find? fun subgroup => (counts subgroup).toNat < maxGroupSize

/-- `AddMember`. -/
def addMember : Group :=
  match group.freeSubGroup with
  | none => group
  | some subGroup =>
    let member : MemberSlot := ⟨guid, subGroup, 0⟩
    { group with memberSlots := group.memberSlots ++ [member] }.subGroupCounterIncrease subGroup

/-- A group without members. -/
def blank (kind : GroupKind) (leader : UInt64) : Group where
  kind := kind
  isRaid := kind ≠ .normal
  isLfg := false
  everyoneIsAssistant := false
  leaderGuid := leader
  memberSlots := []
  subGroupsCounts := none

/-- `Create`. -/
def create (kind : GroupKind) (leader : UInt64) : Group :=
  let group := blank kind leader
  (if group.isRaid then group.initRaidSubGroupsCounter else group).addMember leader

/-- `ChangeLeader`: only to a member who is online. -/
def changeLeader (online : UInt64 → Bool) (newLeaderGuid : UInt64) : Group :=
  match group.memberSlot? newLeaderGuid with
  | none => group
  | some slot =>
    if online slot.guid then
      { group with leaderGuid := slot.guid }.modifySlot newLeaderGuid
        (MemberSlot.toggleFlag .assistant false)
    else group

/-- `ChangeMembersGroup`. -/
def changeMembersGroup : Group :=
  if !group.isRaid then group
  else match group.memberSlot? guid with
    | none => group
    | some slot =>
      if slot.group = subgroup then group
      else
        group.modifySlot guid (fun slot => { slot with group := subgroup })
          |>.subGroupCounterIncrease subgroup
          |>.subGroupCounterDecrease slot.group

/-- `ConvertToRaid`. -/
def convertToRaid : Group :=
  { group with isRaid := true }.initRaidSubGroupsCounter

/-- `ConvertToGroup`: the whole type is reset, and the counters are dropped. -/
def convertToGroup : Group :=
  if 5 < group.membersCount then group
  else
    { group with
      isRaid := false, isLfg := false, everyoneIsAssistant := false, subGroupsCounts := none }

/-- `ConvertToLFG`. -/
def convertToLfg : Group := { group with isLfg := true }

/-- `ChangeFlagEveryoneAssistant`. -/
def changeFlagEveryoneAssistant (apply : Bool) : Group :=
  { group with everyoneIsAssistant := apply }

/-- `RemoveUniqueGroupMemberFlag`. -/
def removeUniqueGroupMemberFlag (flag : MemberFlag) : Group :=
  { group with memberSlots := group.memberSlots.map (MemberSlot.toggleFlag flag false) }

/-- `SetGroupMemberFlag`. -/
def setGroupMemberFlag (apply : Bool) (flag : MemberFlag) : Group :=
  if !group.isRaid || !group.isMember guid then group
  else
    let group := match flag with
      | .assistant => group
      | .mainTank => group.removeUniqueGroupMemberFlag .mainTank
      | .mainAssist => group.removeUniqueGroupMemberFlag .mainAssist
    group.modifySlot guid (MemberSlot.toggleFlag flag apply)

def mayArrange (sender : UInt64) : Bool :=
  group.isLeader sender || group.isAssistant sender || group.everyoneIsAssistant

end Group

/-- What the rest of the server knows when a member leaves.  The players linked to the group
are the members who are online. -/
structure World where
  online : UInt64 → Bool
  hasDungeon : Bool
  /-- The leader is alive and on a map other than that of the dungeon. -/
  leaderElsewhere : Bool

namespace Group

variable (group : Group) (world : World)

/-- The leader after a member has left: the first member who is online takes the place of a
leader who has left. -/
def pickNewLeader (left : UInt64) : Group :=
  if group.leaderGuid = left then
    match group.memberSlots.find? fun slot => world.online slot.guid with
    | none => group
    | some slot => group.changeLeader world.online slot.guid
  else group

def eraseMember (guid : UInt64) : Group :=
  match group.memberSlot? guid with
  | none => group
  | some slot =>
    let group := group.subGroupCounterDecrease slot.group
    { group with memberSlots := group.memberSlots.eraseP fun slot => slot.guid = guid }

/-- `m_memberMgr.getSize()`. -/
def linked : Nat :=
  (group.memberSlots.filter fun slot => world.online slot.guid).length

/-- A group with more members goes on when one leaves. -/
def lowerLimit : Nat := if group.isBG || group.isLfg || group.isBF then 1 else 2

/-- A group with fewer linked players does not go on after one has left. -/
def linkedLimit : Nat := if group.isLfg || group.isBG then 1 else 2

/-- `RemoveMember`; a group that gets too small is disbanded. -/
def removeMember (kicked : Bool) (guid : UInt64) : Option Group :=
  if group.isLfg && kicked then some group
  else if group.lowerLimit < group.membersCount then
    let group := (group.eraseMember guid).pickNewLeader world guid
    if group.isLfg && group.membersCount = 1 &&
        ((world.online group.leaderGuid && world.hasDungeon && world.leaderElsewhere) ||
          !world.hasDungeon) then none
    else if group.linked world < group.linkedLimit then none
    else some group
  else none

end Group

/-! ## Requests -/

variable (group : Group)

/-- `HandleGroupChangeSubGroupOpcode`; players may send it every two seconds. -/
def handleGroupChangeSubGroup (world : World) (tooSoon : Bool) (sender guid : UInt64)
    (groupNr : UInt8) : Group :=
  if tooSoon then group
  else if maxRaidSubgroups ≤ groupNr.toNat then group
  else if !group.mayArrange sender then group
  else if !group.hasFreeSlotSubGroup groupNr then group
  else if world.online guid then group.changeMembersGroup guid groupNr
  else group

/-- `GroupMemberAssignment` as it is sent. -/
def assignmentFlag (assignment : UInt8) : Option MemberFlag :=
  if assignment = 0 then some .mainTank else if assignment = 1 then some .mainAssist else none

/-- `HandlePartyAssignmentOpcode`. -/
def handlePartyAssignment (sender guid : UInt64) (assignment : UInt8) (apply : Bool) : Group :=
  if !group.mayArrange sender then group
  else match assignmentFlag assignment with
    | none => group
    | some flag => (group.removeUniqueGroupMemberFlag flag).setGroupMemberFlag guid apply flag

/-- What happens to a group. -/
inductive GroupEvent where
  | addMember (guid : UInt64)
  | removeMember (world : World) (kicked : Bool) (guid : UInt64)
  | changeLeader (online : UInt64 → Bool) (newLeaderGuid : UInt64)
  | changeSubGroup (world : World) (tooSoon : Bool) (sender guid : UInt64) (groupNr : UInt8)
  | convertToRaid
  | convertToGroup
  | convertToLfg
  | changeFlagEveryoneAssistant (apply : Bool)
  | setGroupMemberFlag (guid : UInt64) (apply : Bool) (flag : MemberFlag)
  | partyAssignment (sender guid : UInt64) (assignment : UInt8) (apply : Bool)

def Group.step : GroupEvent → Option Group
  | .addMember guid => group.addMember guid
  | .removeMember world kicked guid => group.removeMember world kicked guid
  | .changeLeader online newLeaderGuid => group.changeLeader online newLeaderGuid
  | .changeSubGroup world tooSoon sender guid groupNr =>
    handleGroupChangeSubGroup group world tooSoon sender guid groupNr
  | .convertToRaid => group.convertToRaid
  | .convertToGroup => group.convertToGroup
  | .convertToLfg => group.convertToLfg
  | .changeFlagEveryoneAssistant apply => group.changeFlagEveryoneAssistant apply
  | .setGroupMemberFlag guid apply flag => group.setGroupMemberFlag guid apply flag
  | .partyAssignment sender guid assignment apply =>
    handlePartyAssignment group sender guid assignment apply

/-- A group that has been disbanded stays so. -/
def groupStep (state : Option Group) (event : GroupEvent) : Option Group :=
  state.bind fun group => group.step event

end MopServer.Groups
