import Mathlib.Data.UInt
import MopServer.Foundation.Table

/-! # Loot rolls

A group rolls for items of the objects it loots.  Each roll has the votes of the players who
were near when it was started, and counts them beside.  A roll is decided when all players
have voted, or when its time is up.
-/

namespace MopServer.Groups

open MopServer.Foundation

/-- `RollVote`. -/
inductive RollVote where
  | pass
  | need
  | greed
  | disenchant
  | notEmitedYet
  | notValid
  deriving DecidableEq, Repr

/-- An entry of the map `playerVote`. -/
structure Ballot where
  guid : UInt64
  vote : RollVote
  deriving DecidableEq, Repr

instance : Keyed Ballot UInt64 := ⟨Ballot.guid⟩

@[simp] theorem key_ballot (ballot : Ballot) : Keyed.key ballot = ballot.guid := rfl

/-- The votes are an ordered map. -/
def byGuid : Rearrangement Ballot :=
  ⟨List.insertionSort fun first second => first.guid ≤ second.guid,
    fun rows => List.perm_insertionSort _ rows⟩

/-- `Roll`.  Item guids are numbers: the generator stops the server before they wrap.  The
link to the loot is cut when the loot is destroyed. -/
structure Roll where
  itemGuid : Nat
  lootedGuid : UInt64
  loot : Option Nat
  itemSlot : UInt8
  playerVote : Table Ballot
  totalPlayersRolling : UInt8
  totalNeed : UInt8
  totalGreed : UInt8
  totalPass : UInt8

instance : Keyed Roll Nat := ⟨Roll.itemGuid⟩

@[simp] theorem key_roll (roll : Roll) : Keyed.key roll = roll.itemGuid := rfl

/-- `push_back`. -/
def toBack : Rearrangement Roll := ⟨fun rows => rows.rotate 1, fun rows => List.rotate_perm rows 1⟩

/-- `MAX_RAID_SIZE`. -/
def maxRaidSize : Nat := 40

/-! ## Looted objects -/

/-- A member of the group who is in the world. -/
structure Member where
  guid : UInt64
  isWithinDist : Bool
  passOnGroupLoot : Bool
  deriving DecidableEq, Repr

/-- A member list as the group keeps it. -/
structure Members where
  list : List Member
  nodup : (list.map Member.guid).Nodup
  size : list.length ≤ maxRaidSize

/-- An item of a loot, as far as rolls depend on it. -/
structure LootItem where
  itemId : UInt32
  freeForAll : Bool
  followLootRules : Bool
  allowedForPlayer : UInt64 → Bool

/-- An object with its loot. -/
structure LootedObject where
  guid : UInt64
  loot : Nat
  items : List LootItem
  questItems : List LootItem

/-- What rolls ask of the rest of the server. -/
structure Environment where
  /-- The quality of an item, if it has a template. -/
  quality : UInt32 → Option Nat
  lootThreshold : Nat
  /-- `items.empty()` of a loot. -/
  itemsEmpty : Nat → Bool

/-! ## Decisions -/

/-- What comes of a roll. -/
inductive Outcome where
  | lootDeleted
  | nobody
  | won (guid : UInt64) (vote : RollVote)
  | allPassed
  deriving DecidableEq, Repr

/-- A roll as it was when it was decided. -/
structure Decision where
  roll : Roll
  outcome : Outcome

/-- The rolls of a group in the order in which they were started, the next item guid, and
what has been decided so far. -/
structure Rolls where
  rolls : Table Roll
  nextItemGuid : Nat
  decided : List Decision

/-- The best number so far, and whose it is. -/
structure Best where
  number : UInt8
  guid : UInt64
  vote : RollVote
  deriving DecidableEq, Repr

/-- `urand(1, 100)` for every player with a vote that counts; the first of the best wins. -/
def draw (counts : RollVote → Bool) : List Ballot → List UInt8 → Best → Best
  | [], _, best => best
  | ballot :: rest, draws, best =>
    if counts ballot.vote then
      let number := draws.headD 1
      let best := if best.number < number then ⟨number, ballot.guid, ballot.vote⟩ else best
      draw counts rest draws.tail best
    else draw counts rest draws best

namespace Roll

/-- `isValid`. -/
def isValid (roll : Roll) : Bool := roll.loot.isSome

/-- Who gets the item. -/
def outcome (roll : Roll) (draws : List UInt8) : Outcome :=
  if !roll.isValid then .lootDeleted
  else match roll.playerVote.rows with
    | [] => if 0 < roll.totalNeed || 0 < roll.totalGreed then .nobody else .allPassed
    | first :: rest =>
      let ballots := first :: rest
      if 0 < roll.totalNeed then
        .won (draw (· = .need) ballots draws ⟨0, first.guid, .need⟩).guid .need
      else if 0 < roll.totalGreed then
        let best := draw (fun vote => vote = .greed || vote = .disenchant) ballots draws
          ⟨0, first.guid, .notValid⟩
        .won best.guid best.vote
      else .allPassed

end Roll

variable (draws : List UInt8) (state : Rolls)

/-- `CountTheRoll`. -/
def countTheRoll (roll : Roll) : Rolls :=
  { state with
    rolls := state.rolls.erase roll.itemGuid
    decided := ⟨roll, roll.outcome draws⟩ :: state.decided }

/-! ## Starting rolls -/

namespace Roll

/-- A roll nobody takes part in yet. -/
def blank (itemGuid : Nat) (object : LootedObject) (itemSlot : UInt8) : Roll where
  itemGuid := itemGuid
  lootedGuid := object.guid
  loot := some object.loot
  itemSlot := itemSlot
  playerVote := Table.empty
  totalPlayersRolling := 0
  totalNeed := 0
  totalGreed := 0
  totalPass := 0

/-- Let a member take part; where the roll allows it he may pass beforehand. -/
def addMember (autoPass : Bool) (roll : Roll) (member : Member) : Roll :=
  let passes := autoPass && member.passOnGroupLoot
  let ballot := ⟨member.guid, if passes then .pass else .notEmitedYet⟩
  { roll with
    totalPlayersRolling := roll.totalPlayersRolling + 1
    playerVote := roll.playerVote.insert ballot byGuid
    totalPass := if passes then roll.totalPass + 1 else roll.totalPass }

end Roll

/-- An item to roll for: its slot, and whether members may pass beforehand. -/
structure Stake where
  itemSlot : UInt8
  item : LootItem
  autoPass : Bool

variable (object : LootedObject) (members : Members)

def startRoll (state : Rolls) (stake : Stake) : Rolls :=
  let rolling := members.list.filter fun member =>
    stake.item.allowedForPlayer member.guid && member.isWithinDist
  let roll := rolling.foldl (Roll.addMember stake.autoPass)
    (Roll.blank state.nextItemGuid object stake.itemSlot)
  { state with
    rolls := if 0 < roll.totalPlayersRolling then state.rolls.insert roll toBack else state.rolls
    nextItemGuid := state.nextItemGuid + 1 }

/-- The items of a list to roll for; slots are numbered in eight bits. -/
def stakes (rolls : LootItem → Bool) (autoPass : Bool) (firstSlot : Nat) (items : List LootItem) :
    List Stake :=
  ((items.zipIdx firstSlot).filter fun indexed => rolls indexed.1).map fun indexed =>
    ⟨UInt8.ofNat indexed.2, indexed.1, autoPass⟩

variable (env : Environment)

def aboveThreshold (item : LootItem) : Bool :=
  !item.freeForAll && (env.quality item.itemId).any fun quality => env.lootThreshold ≤ quality

/-- `GroupLoot`. -/
def groupLoot (object : LootedObject) (members : Members) (state : Rolls) : Rolls :=
  let isRolled (item : LootItem) := item.followLootRules && (env.quality item.itemId).isSome
  (stakes (aboveThreshold env) true 0 object.items ++
    stakes isRolled false object.items.length object.questItems).foldl
      (startRoll object members) state

/-- `NeedBeforeGreed`: quest items are rolled for without a look at their template. -/
def needBeforeGreed (object : LootedObject) (members : Members) (state : Rolls) : Rolls :=
  (stakes (aboveThreshold env) true 0 object.items ++
    stakes LootItem.followLootRules false object.items.length object.questItems).foldl
      (startRoll object members) state

/-- `DoRollForAllMembers`. -/
def doRollForAllMembers (itemSlot : UInt8) (item : LootItem) (state : Rolls) : Rolls :=
  startRoll object members state ⟨itemSlot, item, false⟩

/-! ## Voting -/

/-- The vote a client chooses. -/
def choiceVote (choice : UInt8) : Option RollVote :=
  if choice = 0 then some .pass
  else if choice = 1 then some .need
  else if choice = 2 then some .greed
  else if choice = 3 then some .disenchant
  else none

/-- `MAX_ROLL_TYPE`. -/
def maxRollType : UInt8 := 4

namespace Roll

variable (roll : Roll)

/-- Count a vote and enter it; an earlier vote of the player stays counted. -/
def recordVote (guid : UInt64) (vote : RollVote) : Roll :=
  let enter (ballot : Ballot) : Ballot := { ballot with vote := vote }
  { roll with
    playerVote := roll.playerVote.modify guid enter
    totalPass := if vote = .pass then roll.totalPass + 1 else roll.totalPass
    totalNeed := if vote = .need then roll.totalNeed + 1 else roll.totalNeed
    totalGreed :=
      if vote = .greed || vote = .disenchant then roll.totalGreed + 1 else roll.totalGreed }

/-- All players have voted, by the counters. -/
def isComplete : Bool :=
  roll.totalPlayersRolling.toNat ≤
    roll.totalPass.toNat + roll.totalNeed.toNat + roll.totalGreed.toNat

def withdraw (ballot : Ballot) : Roll :=
  { roll with
    playerVote := roll.playerVote.erase ballot.guid
    totalGreed :=
      if ballot.vote = .greed || ballot.vote = .disenchant then roll.totalGreed - 1
      else roll.totalGreed
    totalNeed := if ballot.vote = .need then roll.totalNeed - 1 else roll.totalNeed
    totalPass := if ballot.vote = .pass then roll.totalPass - 1 else roll.totalPass
    totalPlayersRolling :=
      if ballot.vote = .notValid then roll.totalPlayersRolling else roll.totalPlayersRolling - 1 }

end Roll

namespace Rolls

/-- `GetRoll`: the first valid roll for a slot, of whatever object. -/
def getRoll (state : Rolls) (slot : UInt8) : Option Roll :=
  state.rolls.rows.find? fun roll => roll.itemSlot = slot && roll.isValid

def setRoll (state : Rolls) (changed : Roll) : Rolls :=
  { state with rolls := state.rolls.replace changed }

end Rolls

def voteIn (draws : List UInt8) (state : Rolls) (roll : Roll) (guid : UInt64) (choice : UInt8) :
    Rolls :=
  match roll.playerVote.get? guid with
  | none => state
  | some _ =>
    if roll.loot.any env.itemsEmpty then state
    else
      let voted := ((choiceVote choice).map (roll.recordVote guid)).getD roll
      let state := state.setRoll voted
      if voted.isComplete then countTheRoll draws state voted else state

/-- `CountRollVote`. -/
def countRollVote (draws : List UInt8) (state : Rolls) (guid : UInt64) (slot choice : UInt8) :
    Rolls :=
  match state.getRoll slot with
  | none => state
  | some roll => voteIn env draws state roll guid choice

/-- `HandleLootRoll`: the guid of the object is read and not used. -/
def handleLootRoll (draws : List UInt8) (state : Rolls) (guid : UInt64) (_looted : UInt64)
    (itemSlot rollType : UInt8) : Rolls :=
  countRollVote env draws state guid itemSlot rollType

/-- Take a player out of one roll.  The item guid is passed on as a slot. -/
def removeVoter (draws : List UInt8) (guid : UInt64) (state : Rolls) (itemGuid : Nat) : Rolls :=
  match state.rolls.get? itemGuid with
  | none => state
  | some roll =>
    match roll.playerVote.get? guid with
    | none => state
    | some ballot =>
      countRollVote env draws (state.setRoll (roll.withdraw ballot)) guid
        (UInt8.ofNat roll.itemGuid) maxRollType

/-- `RemoveMember` of a group that goes on takes a player out of all rolls.  A roll that is decided
meanwhile still has him among its players, and so comes later in the list. -/
def removeMember (draws : List UInt8) (state : Rolls) (guid : UInt64) : Rolls :=
  (state.rolls.rows.map Roll.itemGuid).foldl (removeVoter env draws guid) state

/-- `EndRoll`. -/
def endRoll (loot : Nat) : Rolls :=
  (state.rolls.rows.filter fun roll => roll.loot = some loot).foldl (countTheRoll draws) state

def clearReferences (loot : Nat) : Rolls :=
  let cut (roll : Roll) := if roll.loot = some loot then none else roll.loot
  { state with rolls := state.rolls.map fun roll => { roll with loot := cut roll } }

/-- `Disband`, also for a group that `RemoveMember` would leave too small. -/
def disband : Rolls := { state with rolls := Table.empty }

/-! ## Events -/

inductive RollEvent where
  | groupLoot (object : LootedObject) (members : Members)
  | needBeforeGreed (object : LootedObject) (members : Members)
  | doRollForAllMembers (object : LootedObject) (members : Members) (itemSlot : UInt8)
      (item : LootItem)
  | vote (guid looted : UInt64) (itemSlot rollType : UInt8) (draws : List UInt8)
  | removeMember (guid : UInt64) (draws : List UInt8)
  | endRoll (loot : Nat) (draws : List UInt8)
  | clearReferences (loot : Nat)
  | disband

def rollStep (state : Rolls) : RollEvent → Rolls
  | .groupLoot object members => groupLoot env object members state
  | .needBeforeGreed object members => needBeforeGreed env object members state
  | .doRollForAllMembers object members itemSlot item =>
    doRollForAllMembers object members itemSlot item state
  | .vote guid looted itemSlot rollType draws =>
    handleLootRoll env draws state guid looted itemSlot rollType
  | .removeMember guid draws => removeMember env draws state guid
  | .endRoll loot draws => endRoll draws state loot
  | .clearReferences loot => clearReferences state loot
  | .disband => disband state

end MopServer.Groups
