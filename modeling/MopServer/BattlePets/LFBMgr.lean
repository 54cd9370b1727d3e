import Mathlib.Algebra.Ring.Int.Defs
import MopServer.Foundation.Table

/-! # The pet battle finder

Players queue with the weight of their pets.  Two of them get a proposal, which ends in a battle
when both agree.  Entries of the queue are only marked, and leave it at the next update.
-/

namespace MopServer.BattlePets

open MopServer.Foundation

inductive LFBState
  | none
  | queued
  | proposal
  | inCombat
  | finished
  deriving DecidableEq

inductive Team
  | horde
  | alliance
  | neutral
  deriving DecidableEq

/-- A pet in the journal, as far as queueing looks at it. -/
structure PetTemplate where
  level : UInt8
  currentHealth : UInt16
  isAvailableForBattle : Bool

/-- A loadout slot; an id of 0 is an empty one, and a pet is what the journal has for the id. -/
structure LoadoutSlot where
  id : UInt64
  isUnlocked : Bool
  pet : Option PetTemplate

structure Player where
  guid : Nat
  hasPetBattle : Bool
  isNeutralPandaren : Bool
  team : Team
  loadout : Fin 3 → LoadoutSlot

structure LFBQueueInfo where
  guid : Nat
  petsWeight : Int
  proposalId : Nat
  team : Team
  queuedTime : Nat
  joinTime : Nat
  isDeleted : Bool
  deriving DecidableEq

instance instKeyedLFBQueueInfo : Keyed LFBQueueInfo Nat := ⟨LFBQueueInfo.guid⟩

inductive LfbAnswer
  | pending
  | deny
  | agree
  deriving DecidableEq

structure LFBProposalItem where
  player : Nat
  answer : LfbAnswer
  deriving DecidableEq

/-- A proposal has two players. -/
structure LFBProposal where
  id : Nat
  first : LFBProposalItem
  second : LFBProposalItem
  cancelTime : Nat
  deriving DecidableEq

instance instKeyedLFBProposal : Keyed LFBProposal Nat := ⟨LFBProposal.id⟩

namespace LFBProposal

variable (proposal : LFBProposal)

def players : List LFBProposalItem := [proposal.first, proposal.second]

def answer (guid : Nat) (answer : LfbAnswer) : LFBProposal :=
  { proposal with
    first := if proposal.first.player = guid then { proposal.first with answer := answer }
      else proposal.first
    second := if proposal.second.player = guid then { proposal.second with answer := answer }
      else proposal.second }

end LFBProposal

structure LFBMgr where
  queue : Table LFBQueueInfo
  state : Nat → LFBState
  proposal : Table LFBProposal
  nextProposalId : Nat
  queueTimer : Nat

namespace LFBMgr

def empty : LFBMgr :=
  { queue := .empty, state := fun _ => .none, proposal := .empty, nextProposalId := 0
    queueTimer := 0 }

/-! ## Joining -/

/-- `CheckPetJoin`: every slot needs a pet that can fight. -/
def slotIsReady (slot : LoadoutSlot) : Bool :=
  slot.id ≠ 0 && slot.pet.any fun pet => pet.currentHealth ≠ 0 && pet.isAvailableForBattle

/-- `GeneratePetsWeight`. -/
def generatePetsWeight (player : Player) : Int :=
  ((List.finRange 3).map fun slot =>
    let slot := player.loadout slot
    if !slot.isUnlocked || slot.id = 0 then 0
    else (slot.pet.map fun pet => pet.level.toNat).getD 0).sum

variable (mgr : LFBMgr) (guid : Nat)

def setState (state : LFBState) : LFBMgr :=
  { mgr with state := Function.update mgr.state guid state }

def clearState : LFBMgr := mgr.setState guid .none

def markForDelete : LFBMgr :=
  { mgr with queue := mgr.queue.modify guid fun info => { info with isDeleted := true } }

/-- `CheckJoin`: whether its result is `LFB_JOIN_QUEUE`. -/
def checkJoin (player : Player) : Bool :=
  !player.hasPetBattle &&
    !((mgr.queue.get? player.guid).isSome || mgr.state player.guid = .queued) &&
    !(player.isNeutralPandaren || player.team = .neutral) &&
    (List.finRange 3).all fun slot => slotIsReady (player.loadout slot)

/-- `Join`. -/
def join (player : Player) (now : Nat) : LFBMgr :=
  if mgr.checkJoin player then
    let info : LFBQueueInfo :=
      { guid := player.guid, petsWeight := generatePetsWeight player, proposalId := 0
        team := player.team, queuedTime := 0, joinTime := now, isDeleted := false }
    let mgr := { mgr with queue := mgr.queue.insert info (.sorted _) }
    mgr.setState player.guid .queued
  else mgr

/-! ## Proposals -/

variable (found : Nat → Bool)

/-- What the end of a proposal is for one of its players, if he is found. -/
def release (toRemove : List Nat) (mgr : LFBMgr) (item : LFBProposalItem) : LFBMgr :=
  if !found item.player then mgr
  else if item.player ∈ toRemove then (mgr.clearState item.player).markForDelete item.player
  else mgr.setState item.player .queued

variable (proposal : LFBProposal)

/-- `RemoveProposal`; `failed` stands for `LFB_PROPOSAL_FAILED`. -/
def removeProposal (failed : Bool) : LFBMgr :=
  let answers :=
    if failed then proposal.players.map fun item => { item with answer := LfbAnswer.deny }
    else proposal.players
  let toRemove := (answers.filter fun item =>
    item.answer ≠ .agree && (item.answer = .deny || failed)).map LFBProposalItem.player
  let mgr := if toRemove ≠ [] then answers.foldl (release found toRemove) mgr else mgr
  { mgr with proposal := mgr.proposal.erase proposal.id }

/-- `Leave`. -/
def leave (guid : Nat) : LFBMgr :=
  match mgr.queue.get? guid with
  | none => mgr
  | some info =>
    if info.isDeleted then mgr
    else
      match mgr.state guid with
      | .none => mgr
      | .proposal =>
        let mgr :=
          match mgr.proposal.get? info.proposalId with
          | none => mgr
          | some proposal => mgr.removeProposal found proposal false
        (mgr.clearState guid).markForDelete guid
      | _ => (mgr.clearState guid).markForDelete guid

/-- `TeleportPlayers`: the battle begins if both players are found. -/
def teleportPlayers : LFBMgr :=
  if proposal.players.all fun item => found item.player then
    proposal.players.foldl (fun mgr item => mgr.setState item.player .inCombat) mgr
  else mgr

/-- `UpdateProposal`. -/
def updateProposal (guid : Nat) (agree : Bool) : LFBMgr :=
  match mgr.queue.get? guid with
  | none => mgr
  | some info =>
    match mgr.proposal.get? info.proposalId with
    | none => mgr
    | some proposal =>
      let proposal := proposal.answer guid (if agree then .agree else .deny)
      if !agree && proposal.players.any fun item => item.player = guid then
        mgr.removeProposal found proposal false
      else if (proposal.players.countP fun item => item.answer = .agree) ≠ 2 then
        { mgr with proposal := mgr.proposal.replace proposal }
      else
        let mgr := mgr.teleportPlayers found proposal
        { mgr with proposal := mgr.proposal.erase proposal.id }

/-- `FinishBattle`. -/
def finishBattle (guid : Nat) : LFBMgr :=
  if mgr.state guid ≠ .inCombat then mgr else (mgr.setState guid .finished).leave found guid

/-! ## Updates -/

variable (petLevelDiff : Int) (now : Nat) (info : LFBQueueInfo)

/-- The later entry is one that `SelectOpponent` takes. -/
def opposes (nguid : Nat) : Bool :=
  (mgr.queue.get? nguid).any fun opponent =>
    mgr.state nguid = .queued && !opponent.isDeleted && info.team = opponent.team &&
      (info.petsWeight - opponent.petsWeight).natAbs ≤ petLevelDiff && found nguid

/-- `SelectOpponent`, among the later entries of the queue. -/
def selectOpponent (later : List Nat) : LFBMgr :=
  if !found info.guid then mgr
  else
    match later.find? (mgr.opposes found petLevelDiff info) with
    | none => mgr
    | some nguid =>
      let proposal : LFBProposal :=
        { id := mgr.nextProposalId, first := ⟨info.guid, .deny⟩, second := ⟨nguid, .deny⟩
          cancelTime := now + 120000 }
      let mgr := { mgr with
        nextProposalId := mgr.nextProposalId + 1
        proposal := mgr.proposal.insert proposal (.sorted _)
        queue := (mgr.queue.modify info.guid fun info =>
          { info with proposalId := proposal.id }).modify nguid fun info =>
            { info with proposalId := proposal.id } }
      (mgr.setState info.guid .proposal).setState nguid .proposal

/-- The loop of `Update` over the queue. -/
def selectOpponents (petLevelDiff : Int) (now : Nat) : List Nat → LFBMgr → LFBMgr
  | [], mgr => mgr
  | guid :: later, mgr =>
    let mgr :=
      match mgr.queue.get? guid with
      | none => mgr
      | some info =>
        if info.isDeleted || mgr.state guid ≠ .queued then mgr
        else mgr.selectOpponent found petLevelDiff now info later
    selectOpponents petLevelDiff now later mgr

/-- The loop body of `Update` over the proposals. -/
def expire (mgr : LFBMgr) (proposal : LFBProposal) : LFBMgr :=
  if proposal.cancelTime < now then mgr.removeProposal found proposal true else mgr

/-- The loop body of `Update` over the queue, every 15 seconds. -/
def refresh (mgr : LFBMgr) (guid : Nat) : LFBMgr :=
  match mgr.queue.get? guid with
  | none => mgr
  | some info =>
    if info.isDeleted then mgr
    else
      let mgr := { mgr with queue := mgr.queue.modify guid fun info =>
        { info with queuedTime := (now - info.joinTime) / 1000 } }
      if mgr.state guid = .queued && !found guid then (mgr.markForDelete guid).clearState guid
      else mgr

/-- `Update`. -/
def update (diff now : Nat) : LFBMgr :=
  let mgr := { mgr with queue := mgr.queue.filter fun info => !info.isDeleted }
  let mgr := mgr.proposal.rows.foldl (expire found now) mgr
  let mgr := selectOpponents found petLevelDiff now (mgr.queue.rows.map LFBQueueInfo.guid) mgr
  if 15000 ≤ mgr.queueTimer then
    { (mgr.queue.rows.map LFBQueueInfo.guid).foldl (refresh found now) mgr with queueTimer := 0 }
  else { mgr with queueTimer := mgr.queueTimer + diff }

/-- A call, with the time, and the players `FindPlayer` finds during it. -/
inductive Call
  | join (player : Player) (now : Nat)
  | leave (guid : Nat) (found : Nat → Bool)
  | updateProposal (guid : Nat) (agree : Bool) (found : Nat → Bool)
  | finishBattle (guid : Nat) (found : Nat → Bool)
  | update (diff now : Nat) (found : Nat → Bool)

def step (mgr : LFBMgr) : Call → LFBMgr
  | .join player now => mgr.join player now
  | .leave guid found => mgr.leave found guid
  | .updateProposal guid agree found => mgr.updateProposal found guid agree
  | .finishBattle guid found => mgr.finishBattle found guid
  | .update diff now found => mgr.update found petLevelDiff diff now

end LFBMgr

end MopServer.BattlePets
