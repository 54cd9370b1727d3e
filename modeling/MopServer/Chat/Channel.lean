import Mathlib.Data.Finset.Basic
import MopServer.Foundation.Table
import MopServer.Foundation.WordParts

/-! # Chat channels

A channel keeps its members in a map, the guid of its owner and the players it has banned.  The
members carry flags of their own, one of them for the owner.
-/

namespace MopServer.Chat

open MopServer.Foundation

/-- A player in the world, as far as a channel asks for him. -/
structure Player where
  guid : Nat
  guid_ne_zero : guid ≠ 0
  name : String
  security : Nat
  team : Nat
  hasGroup : Bool

/-- The players in the world, and the configuration. -/
structure World where
  players : List Player
  restrictedLfgChannel : Bool
  allowTwoSideInteractionChannel : Bool

namespace World

variable (world : World)

/-- `FindPlayer`. -/
def findPlayer (guid : Nat) : Option Player :=
  world.players.find? fun player => player.guid = guid

/-- `FindPlayerByName`. -/
def findPlayerByName (name : String) : Option Player :=
  world.players.find? fun player => name.toLower = player.name.toLower

def securityOf (guid : Nat) : Nat := ((world.findPlayer guid).map Player.security).getD 0

end World

/-- `AccountMgr::IsPlayerAccount`. -/
def isPlayerAccount (security : Nat) : Bool := security = 0

/-- `AccountMgr::IsModeratorAccount`. -/
def isModeratorAccount (security : Nat) : Bool := 1 ≤ security && security ≤ 7

/-- `ChannelMemberFlags`. -/
inductive MemberFlag
  | owner
  | moderator
  | muted
  deriving DecidableEq

def MemberFlag.mask : MemberFlag → UInt8
  | .owner => 0x01
  | .moderator => 0x02
  | .muted => 0x08

structure PlayerInfo where
  player : Nat
  flags : UInt8
  deriving DecidableEq

namespace PlayerInfo

variable (info : PlayerInfo) (flag : MemberFlag)

def has : Bool := info.flags &&& flag.mask ≠ 0

def isOwner : Bool := info.has .owner

def isModerator : Bool := info.has .moderator

variable (state : Bool)

def setFlag : PlayerInfo :=
  { info with flags := if state then info.flags ||| flag.mask else info.flags &&& ~~~flag.mask }

def setOwner : PlayerInfo := info.setFlag .owner state

def setModerator : PlayerInfo := info.setFlag .moderator state

def setMuted : PlayerInfo := info.setFlag .muted state

end PlayerInfo

/-- An entry of the map of members. -/
structure Member where
  guid : Nat
  info : PlayerInfo
  deriving DecidableEq

instance instKeyedMember : Keyed Member Nat := ⟨Member.guid⟩

structure Channel where
  players : Table Member
  banned : Finset Nat
  special : Bool
  ownership : Bool
  password : String
  flags : UInt8
  channelId : UInt32
  ownerGuid : Nat

namespace Channel

variable (channel : Channel)

def isConstant : Bool := channel.channelId ≠ 0 || channel.special

variable (guid : Nat)

def isOn : Bool := (channel.players.get? guid).isSome

def isBanned : Bool := guid ∈ channel.banned

/-- `CHANNEL_FLAG_LFG`. -/
def isLfg : Bool := channel.flags &&& 0x40 ≠ 0

def isModerator (guid : Nat) : Bool :=
  (channel.players.get? guid).any fun member => member.info.isModerator

/-- Store what is known of a member, in the order of the map. -/
def put (info : PlayerInfo) : Channel :=
  { channel with players := channel.players.insert ⟨guid, info⟩ (.sorted _) }

/-- Change the entry of a guid through `[]`, which adds an empty one if there is none. -/
def modify (f : PlayerInfo → PlayerInfo) : Channel :=
  channel.put guid (f (((channel.players.get? guid).map Member.info).getD ⟨0, 0⟩))

/-- `SetOwner` with a guid. -/
def setOwner (guid : Nat) : Channel :=
  let channel :=
    if channel.ownerGuid ≠ 0 && channel.isOn channel.ownerGuid then
      channel.modify channel.ownerGuid fun info => info.setOwner false
    else channel
  let channel := { channel with ownerGuid := guid }
  if guid ≠ 0 then
    (channel.modify guid fun info => info.setModerator true).modify guid fun info =>
      info.setOwner true
  else channel

variable (world : World) (p : Nat)

/-- `Join` lets the player in. -/
def admits (pass : String) : Bool :=
  !channel.isOn p && !channel.isBanned p &&
    !(0 < channel.password.length && pass ≠ channel.password) &&
    !(world.findPlayer p).any fun player =>
      channel.isLfg && world.restrictedLfgChannel && isPlayerAccount player.security &&
        player.hasGroup

def join (pass : String) : Channel :=
  if channel.admits world p pass then
    let channel := channel.put p ⟨p, 0⟩
    if !channel.isConstant && channel.ownerGuid = 0 && channel.ownership then
      (channel.setOwner p).modify p fun info => info.setModerator true
    else channel
  else channel

def leave : Channel :=
  match channel.players.get? p with
  | none => channel
  | some member =>
    let channel := { channel with players := channel.players.erase p }
    if !channel.isConstant && member.info.isOwner && channel.ownership then
      match channel.players.rows with
      | [] => channel
      | first :: _ =>
        let newowner := first.info.player
        (channel.modify newowner fun info => info.setModerator true).setOwner newowner
    else channel

variable (good : Nat)

def moderates : Bool :=
  channel.isOn good &&
    (channel.isModerator good || isModeratorAccount (world.securityOf good))

variable (badname : String)

/-- Whom `KickOrBan` removes. -/
def kicked : Option Nat :=
  if channel.moderates world good then
    match world.findPlayerByName badname with
    | none => none
    | some bad =>
      if !channel.isOn bad.guid then none
      else if !isModeratorAccount (world.securityOf good) && bad.guid = channel.ownerGuid &&
          good ≠ channel.ownerGuid then none
      else some bad.guid
  else none

def kickOrBan (ban : Bool) : Channel :=
  match channel.kicked world good badname with
  | none => channel
  | some bad =>
    let changeowner := channel.ownerGuid = bad
    let channel := { channel with
      banned := if ban then insert bad channel.banned else channel.banned
      players := channel.players.erase bad }
    if changeowner && channel.ownership && channel.players.rows ≠ [] then
      (channel.modify good fun info => info.setModerator true).setOwner good
    else channel

def unBan : Channel :=
  if channel.moderates world good then
    match world.findPlayerByName badname with
    | none => channel
    | some bad => { channel with banned := channel.banned.erase bad.guid }
  else channel

/-- `SetMode`; the actor has to be in the world. -/
def setMode (p2n : String) (mod set : Bool) : Channel :=
  match world.findPlayer p with
  | none => channel
  | some player =>
    if channel.moderates world p then
      match world.findPlayerByName p2n with
      | none => channel
      | some newp =>
        if p = channel.ownerGuid && newp.guid = channel.ownerGuid && mod then channel
        else if !channel.isOn newp.guid then channel
        else if (!isModeratorAccount player.security || !isModeratorAccount newp.security) &&
            player.team ≠ newp.team && !world.allowTwoSideInteractionChannel then channel
        else if channel.ownerGuid = newp.guid && channel.ownerGuid ≠ p then channel
        else if mod then channel.modify newp.guid fun info => info.setModerator set
        else channel.modify newp.guid fun info => info.setMuted set
    else channel

/-- `SetOwner` with a name. -/
def setOwnerByName (newname : String) : Channel :=
  match world.findPlayer p with
  | none => channel
  | some player =>
    if !channel.isOn p then channel
    else if !isModeratorAccount player.security && p ≠ channel.ownerGuid then channel
    else
      match world.findPlayerByName newname with
      | none => channel
      | some newp =>
        if !channel.isOn newp.guid then channel
        else if newp.team ≠ player.team && !world.allowTwoSideInteractionChannel then channel
        else (channel.modify newp.guid fun info => info.setModerator true).setOwner newp.guid

abbrev PlayerGuid := { guid : Nat // guid ≠ 0 }

inductive Request
  | join (p : PlayerGuid) (pass : String)
  | leave (p : PlayerGuid)
  | kickOrBan (good : PlayerGuid) (badname : String) (ban : Bool)
  | unBan (good : PlayerGuid) (badname : String)
  | setMode (p : PlayerGuid) (p2n : String) (mod set : Bool)
  | setOwner (p : PlayerGuid) (newname : String)

/-- A request, with the world in which it comes. -/
structure Call where
  world : World
  request : Request

def step (call : Call) : Channel :=
  match call.request with
  | .join p pass => channel.join call.world p pass
  | .leave p => channel.leave p
  | .kickOrBan good badname ban => channel.kickOrBan call.world good badname ban
  | .unBan good badname => channel.unBan call.world good badname
  | .setMode p p2n mod set => channel.setMode call.world p p2n mod set
  | .setOwner p newname => channel.setOwnerByName call.world p newname

end Channel

end MopServer.Chat
