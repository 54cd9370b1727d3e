import Mathlib.Data.Finset.Sort
import Mathlib.Data.UInt
import MopServer.Foundation.Table

/-! # The calendar

The calendar keeps its events and invites by their ids, each event the ids of its invites, and for
every player the ids of his invites and events.  Actions come from the packets of players, with ids
as the client has sent them.
-/

namespace MopServer.Calendar

open MopServer.Foundation

/-- A value a client sends as a `CalendarInviteStatus`. -/
abbrev CalendarInviteStatus := UInt8

namespace CalendarInviteStatus

def invited : CalendarInviteStatus := 0
def accepted : CalendarInviteStatus := 1
def confirmed : CalendarInviteStatus := 6
def noOwner : CalendarInviteStatus := 7
def status8 : CalendarInviteStatus := 8

end CalendarInviteStatus

/-- A value a client sends as a `CalendarModerationRank`. -/
abbrev CalendarModerationRank := UInt8

namespace CalendarModerationRank

def player : CalendarModerationRank := 0
def moderator : CalendarModerationRank := 1
def owner : CalendarModerationRank := 2

end CalendarModerationRank

namespace CalendarFlag

def withoutInvites : UInt32 := 0x040
def guildOnly : UInt32 := 0x400

end CalendarFlag

structure CalendarInvite where
  inviteId : Nat
  eventId : Nat
  invitee : Nat
  senderGUID : Nat
  statusTime : UInt32
  status : CalendarInviteStatus
  rank : CalendarModerationRank
  text : String
  deriving DecidableEq

instance instKeyedCalendarInvite : Keyed CalendarInvite Nat := ⟨CalendarInvite.inviteId⟩

/-- What the owner of an event writes into it. -/
structure EventDetails where
  type : UInt8
  dungeonId : Int32
  maxInvites : UInt32
  eventTime : UInt32
  flags : UInt32
  repeatable : Bool
  timezoneTime : UInt32
  title : String
  description : String
  deriving DecidableEq

structure CalendarEvent where
  eventId : Nat
  creatorGUID : Nat
  guildId : UInt32
  details : EventDetails
  invites : Finset Nat
  deriving DecidableEq

instance instKeyedCalendarEvent : Keyed CalendarEvent Nat := ⟨CalendarEvent.eventId⟩

structure Player where
  guid : Nat
  guildId : UInt32
  deriving DecidableEq

structure CalendarMgr where
  events : Table CalendarEvent
  invites : Table CalendarInvite
  playerInvites : Nat → Finset Nat
  playerEvents : Nat → Finset Nat
  eventNum : Nat
  inviteNum : Nat

/-- An action with what its handler has set of the event and the invite. -/
inductive CalendarAction where
  | addEvent (event : CalendarEvent) (invite : CalendarInvite)
  | modifyEvent (inviteId eventId : Nat) (details : EventDetails)
  | copyEvent (inviteId eventId : Nat) (eventTime : UInt32)
  | removeEvent (inviteId eventId : Nat)
  | addEventInvite (inviteId : Nat) (invite : CalendarInvite)
  | signupToEvent (eventId : Nat) (status : CalendarInviteStatus) (statusTime : UInt32)
  | modifyEventInvite (ownInviteId inviteId eventId : Nat) (status : CalendarInviteStatus)
  | modifyModeratorEventInvite (ownInviteId inviteId eventId : Nat)
      (status : CalendarInviteStatus)
  | removeEventInvite (ownInviteId inviteId eventId : Nat)

namespace CalendarEvent

variable (event : CalendarEvent)

/-- `AddInvite` of an event. -/
def addInvite (inviteId : Nat) : CalendarEvent :=
  if inviteId ≠ 0 then { event with invites := insert inviteId event.invites } else event

theorem addInvite_eventId (inviteId : Nat) :
    (event.addInvite inviteId).eventId = event.eventId := by
  unfold addInvite
  split <;> rfl

end CalendarEvent

namespace CalendarMgr

def empty : CalendarMgr :=
  { events := .empty, invites := .empty, playerInvites := fun _ => ∅, playerEvents := fun _ => ∅
    eventNum := 0, inviteNum := 0 }

variable (mgr : CalendarMgr) (eventId : Nat) (player : Player)

/-- `CheckPermisions`. -/
def checkPermisions (inviteId : Nat) (minRank : CalendarModerationRank) : Option CalendarEvent :=
  match mgr.events.get? eventId, mgr.invites.get? inviteId with
  | some event, some invite =>
    if inviteId ∉ event.invites then none
    else if invite.eventId ≠ event.eventId ∨ invite.invitee ≠ player.guid then none
    else if invite.rank < minRank then none
    else some event
  | _, _ => none

/-- `AddEvent`; nothing if there is an event with the id. -/
def addEvent (newEvent : CalendarEvent) : Option CalendarMgr :=
  if (mgr.events.get? newEvent.eventId).isSome then none
  else some { mgr with events := mgr.events.insert newEvent (.keep _) }

/-- `AddInvite`; nothing if the id is 0 or there is an invite with it. -/
def addInvite (newInvite : CalendarInvite) : Option CalendarMgr :=
  if newInvite.inviteId = 0 then none
  else if (mgr.invites.get? newInvite.inviteId).isSome then none
  else some { mgr with
    invites := mgr.invites.insert newInvite (.keep _)
    playerInvites := Function.update mgr.playerInvites newInvite.invitee
      (insert newInvite.inviteId (mgr.playerInvites newInvite.invitee))
    playerEvents := Function.update mgr.playerEvents newInvite.invitee
      (insert newInvite.eventId (mgr.playerEvents newInvite.invitee)) }

/-- `RemovePlayerEvent`. -/
def removePlayerEvent (guid eventId : Nat) : CalendarMgr :=
  { mgr with playerEvents :=
      Function.update mgr.playerEvents guid ((mgr.playerEvents guid).erase eventId) }

/-- `RemoveInvite`, with the invitee or 0. -/
def removeInvite (inviteId : Nat) : CalendarMgr × Nat :=
  match mgr.invites.get? inviteId with
  | none => (mgr, 0)
  | some invite =>
    ({ mgr with
        invites := mgr.invites.erase inviteId
        playerInvites := Function.update mgr.playerInvites invite.invitee
          ((mgr.playerInvites invite.invitee).erase inviteId) }, invite.invitee)

/-- The loop body of `RemoveEvent`. -/
def removeEventInvite (mgr : CalendarMgr) (inviteId : Nat) : CalendarMgr :=
  let mgr :=
    match mgr.invites.get? inviteId with
    | none => mgr
    | some invite => mgr.removePlayerEvent invite.invitee eventId
  (mgr.removeInvite inviteId).1

/-- `RemoveEvent`, with its result. -/
def removeEvent : CalendarMgr × Bool :=
  match mgr.events.get? eventId with
  | none => (mgr, false)
  | some event =>
    let invites := event.invites.sort (· ≤ ·)
    let removed := invites.foldl (removeEventInvite eventId) mgr
    ({ removed with events := removed.events.erase eventId },
      invites.all fun inviteId => (mgr.invites.get? inviteId).isSome)

def copyInvite (eventId : Nat) (copied : CalendarMgr × CalendarEvent) (inviteId : Nat) :
    CalendarMgr × CalendarEvent :=
  match copied.1.invites.get? inviteId with
  | none => copied
  | some invite =>
    let mgr := { copied.1 with inviteNum := copied.1.inviteNum + 1 }
    let newInvite := { invite with
      inviteId := mgr.inviteNum, eventId := eventId, senderGUID := player.guid }
    match mgr.addInvite newInvite with
    | none => (mgr, copied.2)
    | some mgr => (mgr, copied.2.addInvite newInvite.inviteId)

def copyEvent (event : CalendarEvent) (eventTime : UInt32) : CalendarMgr :=
  let mgr := { mgr with eventNum := mgr.eventNum + 1 }
  let newEvent := { event with
    eventId := mgr.eventNum, details := { event.details with eventTime := eventTime }
    invites := ∅ }
  let copied := (event.invites.sort (· ≤ ·)).foldl (copyInvite player newEvent.eventId)
    (mgr, newEvent)
  (copied.1.addEvent copied.2).getD copied.1

/-- The two actions on the status of an invite differ in the rank they ask for. -/
def setStatus (minRank : CalendarModerationRank) (ownInviteId inviteId eventId : Nat)
    (status : CalendarInviteStatus) : CalendarMgr :=
  let event :=
    if ownInviteId ≠ inviteId then mgr.checkPermisions eventId player ownInviteId minRank
    else mgr.events.get? eventId
  match event, mgr.invites.get? inviteId with
  | some event, some _ =>
    if inviteId ∈ event.invites then
      { mgr with invites := mgr.invites.modify inviteId fun invite =>
          { invite with status := status } }
    else mgr
  | _, _ => mgr

/-- `AddAction`. -/
def addAction : CalendarAction → CalendarMgr
  | .addEvent event invite =>
    match mgr.addEvent event with
    | none => mgr
    | some mgr => (mgr.addInvite invite).getD mgr
  | .modifyEvent inviteId eventId details =>
    match mgr.checkPermisions eventId player inviteId .moderator with
    | none => mgr
    | some _ =>
      { mgr with events := mgr.events.modify eventId fun event =>
          { event with details := details } }
  | .copyEvent inviteId eventId eventTime =>
    match mgr.checkPermisions eventId player inviteId .owner with
    | none => mgr
    | some event => mgr.copyEvent player event eventTime
  | .removeEvent inviteId eventId =>
    match mgr.checkPermisions eventId player inviteId .owner with
    | none => mgr
    | some _ => (mgr.removeEvent eventId).1
  | .addEventInvite inviteId invite =>
    match mgr.checkPermisions invite.eventId player inviteId .moderator with
    | none => mgr
    | some _ =>
      match mgr.addInvite invite with
      | none => mgr
      | some mgr =>
        { mgr with
          events := mgr.events.modify invite.eventId
            (fun event => event.addInvite invite.inviteId)
            fun event => event.addInvite_eventId invite.inviteId }
  | .signupToEvent eventId status statusTime =>
    match mgr.events.get? eventId with
    | none => mgr
    | some event =>
      if event.details.flags &&& CalendarFlag.guildOnly = 0 ∨ event.guildId = 0 ∨
          event.guildId ≠ player.guildId then mgr
      else
        let status :=
          if status = .invited then CalendarInviteStatus.confirmed
          else if status = .accepted then .status8
          else status
        let mgr := { mgr with inviteNum := mgr.inviteNum + 1 }
        (mgr.addInvite { inviteId := mgr.inviteNum, eventId := eventId
                         invitee := player.guid, senderGUID := player.guid
                         statusTime := statusTime, status := status, rank := .player
                         text := "" }).getD mgr
  | .modifyEventInvite ownInviteId inviteId eventId status =>
    mgr.setStatus player .moderator ownInviteId inviteId eventId status
  | .modifyModeratorEventInvite ownInviteId inviteId eventId status =>
    mgr.setStatus player .owner ownInviteId inviteId eventId status
  | .removeEventInvite ownInviteId inviteId eventId =>
    match mgr.checkPermisions eventId player ownInviteId .moderator,
        mgr.invites.get? inviteId with
    | some event, some invite =>
      if event.creatorGUID = invite.invitee then mgr else (mgr.removeInvite inviteId).1
    | _, _ => mgr

/-! ## Packets -/

/-- A packet of a player as its handler has read it; a name is the guid it stands for. -/
inductive Request where
  | addEvent (details : EventDetails) (inviteCount : UInt32) (invitee : Nat)
      (status : CalendarInviteStatus) (rank : CalendarModerationRank)
  | updateEvent (eventId inviteId : Nat) (details : EventDetails)
  | removeEvent (eventId inviteId : Nat)
  | copyEvent (eventId inviteId : Nat) (eventTime : UInt32)
  | eventInvite (eventId inviteId invitee : Nat) (allied : Bool)
      (status : CalendarInviteStatus) (rank : CalendarModerationRank)
  | eventSignup (eventId : Nat) (status : CalendarInviteStatus) (now : UInt32)
  | eventRsvp (eventId inviteId : Nat) (status : CalendarInviteStatus)
  | eventRemoveInvite (inviteId ownInviteId eventId : Nat)
  | eventStatus (eventId inviteId ownInviteId : Nat) (status : CalendarInviteStatus)
  | eventModeratorStatus (eventId inviteId ownInviteId : Nat) (status : CalendarInviteStatus)

def handle : Request → CalendarMgr
  | .addEvent details inviteCount invitee status rank =>
    let guildId := if details.flags &&& CalendarFlag.guildOnly ≠ 0 then player.guildId else 0
    if details.flags &&& CalendarFlag.withoutInvites = 0 then
      if inviteCount ≠ 1 ∨ invitee ≠ player.guid then mgr
      else
        let mgr := { mgr with inviteNum := mgr.inviteNum + 1, eventNum := mgr.eventNum + 1 }
        mgr.addAction player (.addEvent
          { eventId := mgr.eventNum, creatorGUID := player.guid, guildId := guildId
            details := details, invites := {mgr.inviteNum} }
          { inviteId := mgr.inviteNum, eventId := mgr.eventNum, invitee := invitee
            senderGUID := player.guid, statusTime := 0, status := status, rank := rank
            text := "" })
    else
      let mgr := { mgr with eventNum := mgr.eventNum + 1 }
      mgr.addAction player (.addEvent
        { eventId := mgr.eventNum, creatorGUID := player.guid, guildId := guildId
          details := details, invites := ∅ }
        { inviteId := 0, eventId := mgr.eventNum, invitee := 0, senderGUID := player.guid
          statusTime := 0, status := .noOwner, rank := .player, text := "" })
  | .updateEvent eventId inviteId details =>
    mgr.addAction player (.modifyEvent inviteId eventId details)
  | .removeEvent eventId inviteId => mgr.addAction player (.removeEvent inviteId eventId)
  | .copyEvent eventId inviteId eventTime =>
    mgr.addAction player (.copyEvent inviteId eventId eventTime)
  | .eventInvite eventId inviteId invitee allied status rank =>
    if invitee = 0 ∨ !allied then mgr
    else
      let mgr := { mgr with inviteNum := mgr.inviteNum + 1 }
      mgr.addAction player (.addEventInvite inviteId
        { inviteId := mgr.inviteNum, eventId := eventId, invitee := invitee
          senderGUID := player.guid, statusTime := 0, status := status, rank := rank
          text := "" })
  | .eventSignup eventId status now => mgr.addAction player (.signupToEvent eventId status now)
  | .eventRsvp eventId inviteId status =>
    mgr.addAction player (.modifyEventInvite inviteId inviteId eventId status)
  | .eventRemoveInvite inviteId ownInviteId eventId =>
    mgr.addAction player (.removeEventInvite ownInviteId inviteId eventId)
  | .eventStatus eventId inviteId ownInviteId status =>
    mgr.addAction player (.modifyEventInvite ownInviteId inviteId eventId status)
  | .eventModeratorStatus eventId inviteId ownInviteId status =>
    mgr.addAction player (.modifyModeratorEventInvite ownInviteId inviteId eventId status)

def step (call : Player × Request) : CalendarMgr := mgr.handle call.1 call.2

end CalendarMgr

end MopServer.Calendar
