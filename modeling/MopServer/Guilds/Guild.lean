import Mathlib.Data.List.Dedup
import Mathlib.Data.List.Range
import MopServer.Entities.ObjectGuid
import MopServer.Foundation.Table

/-! # Guilds

The in-memory guild (leader, rank table, members), the online players and the
database rows that the guild code keeps in step with it, and the requests that
change leadership, ranks and membership.
-/

namespace MopServer.Guilds

open MopServer.Foundation

def guildBankMaxTabs : Nat := 8
def guildRanksMinCount : Nat := 5
def guildRanksMaxCount : Nat := 10
def guildRankNone : UInt8 := 0xFF
def grGuildMaster : UInt8 := 0
def grOfficer : UInt8 := 1

def grRightEmpty : UInt32 := 0x40
def grRightGChatListen : UInt32 := grRightEmpty ||| 0x1
def grRightGChatSpeak : UInt32 := grRightEmpty ||| 0x2
def grRightRemove : UInt32 := grRightEmpty ||| 0x20
def grRightPromote : UInt32 := grRightEmpty ||| 0x80
def grRightDemote : UInt32 := grRightEmpty ||| 0x100
def grRightAll : UInt32 := 0x00DDFFBF

/-- Rights and daily slots of one rank on one bank tab. -/
structure GuildBankRightsAndSlots where
  rights : UInt32 := 0
  slots : UInt32 := 0
  deriving DecidableEq, Repr

/-- One rank definition. -/
structure RankInfo where
  id : Nat
  name : String
  rights : UInt32
  bankMoneyPerDay : UInt32
  bankTabRightsAndSlots : Vector GuildBankRightsAndSlots guildBankMaxTabs
  deriving DecidableEq

/-- The rank vector of a guild.  Creation and `Validate` establish, and every
request keeps, that it holds between five and ten ranks and that the rank at
index `i` has id `i`. -/
structure RankTable where
  toList : List RankInfo
  ids : toList.map RankInfo.id = List.range toList.length
  min_le : guildRanksMinCount ≤ toList.length
  le_max : toList.length ≤ guildRanksMaxCount

/-- The allowance of a member on one tab, or of money. -/
structure RemainingValue where
  value : UInt32 := 0
  resetTime : UInt32 := 0
  deriving DecidableEq, Repr

/-- A guild member. -/
structure Member where
  guid : UInt64
  name : String
  level : UInt8
  characterClass : UInt8
  zoneId : UInt32
  accountId : UInt32
  rankId : Nat
  bankRemaining : Vector RemainingValue (guildBankMaxTabs + 1)
  deriving DecidableEq

/-- Members are stored under the low part of their guid. -/
instance : Keyed Member UInt32 := ⟨fun member => guidLoPart member.guid⟩

variable (member : Member)

theorem Member.key_eq : Keyed.key member = guidLoPart member.guid := rfl

variable (rank : UInt8)

def Member.withRank : Member :=
  { member with rankId := rank.toNat }

@[simp] theorem Member.withRank_guid : (member.withRank rank).guid = member.guid := rfl

@[simp] theorem Member.withRank_rankId : (member.withRank rank).rankId = rank.toNat := rfl

theorem Member.key_withRank (member : Member) :
    Keyed.key (member.withRank rank) = Keyed.key member := rfl

structure Guild where
  id : UInt32
  leaderGuid : UInt64
  ranks : RankTable
  members : Table Member
  purchasedTabs : Nat
  accountsNumber : Nat

/-- The fields of an online player that the guild code reads and writes. -/
structure Player where
  guid : UInt64
  name : String
  level : UInt8
  characterClass : UInt8
  zoneId : UInt32
  accountId : UInt32
  inWorld : Bool
  guildId : UInt32
  rank : Nat

/-- A row of `characters`. -/
structure CharacterRow where
  name : String
  level : UInt8
  characterClass : UInt8
  zoneId : UInt32
  accountId : UInt32

/-- A row of `guild_member`, whose key is the low guid. -/
structure GuildMemberRow where
  guildId : UInt32
  rank : Nat
  deriving DecidableEq, Repr

/-- A row of `guild_rank` of the guild. -/
structure GuildRankRow where
  name : String
  rights : UInt32
  bankMoneyPerDay : UInt32
  deriving DecidableEq, Repr

/-- The tables the guild code writes; the rank tables are those of the guild. -/
structure Database where
  characters : UInt32 → Option CharacterRow
  guildMember : UInt32 → Option GuildMemberRow
  guildLeader : UInt32
  guildRank : Nat → Option GuildRankRow
  guildBankRight : Nat → Nat → Option GuildBankRightsAndSlots

/-- Everything outside the guild object that the guild code touches. -/
structure Realm where
  players : UInt64 → Option Player
  db : Database

structure World where
  guild : Guild
  realm : Realm

/-- A guild as the server holds it.  Removing a rank beyond the end of the rank
vector has no defined behaviour. -/
inductive Status where
  | live (world : World)
  | disbanded (realm : Realm)
  | undefinedBehaviour

inductive GuildCommandType where
  | invite
  | quit
  deriving DecidableEq, Repr

inductive GuildCommandError where
  | playerNoMoreInGuild
  | internal
  | nameInvalid
  | leaderLeave
  | permissions
  | playerNotInGuild
  | rankTooHigh
  deriving DecidableEq, Repr

/-- The payload of `SendCommandResult`. -/
structure CommandResult where
  type : GuildCommandType
  error : GuildCommandError
  param : String := ""
  deriving DecidableEq, Repr

/-- The state after a request and the command result sent to the client. -/
structure Response where
  status : Status
  reply : Option CommandResult := none

namespace Response

def done (world : World) : Response := { status := .live world }

def refuse (world : World) (type : GuildCommandType) (error : GuildCommandError)
    (param : String := "") : Response :=
  { status := .live world, reply := some { type, error, param } }

end Response

/-! ## Rank table -/

namespace RankTable

variable (ranks : RankTable)

/-- `_GetRanksSize`. -/
def size : Nat := ranks.toList.length

/-- `GetRankInfo`: `NULL` beyond the end. -/
def getRankInfo (rankId : Nat) : Option RankInfo := ranks.toList[rankId]?

/-- `_GetLowestRankId`. -/
def getLowestRankId : UInt32 := UInt32.ofNat (ranks.size - 1)

def findById (id : UInt32) : Option RankInfo :=
  ranks.toList.find? fun info => info.id = id.toNat

def push (info : RankInfo) (hid : info.id = ranks.size) (hsize : ranks.size < guildRanksMaxCount) :
    RankTable where
  toList := ranks.toList ++ [info]
  ids := by
    rw [List.map_append, ranks.ids, List.map_singleton, hid, List.length_append,
      List.length_singleton, List.range_succ]
    rfl
  min_le := by
    have hmin := ranks.min_le
    simp only [List.length_append, List.length_singleton]
    omega
  le_max := by
    rw [List.length_append, List.length_singleton]
    exact hsize

def modify (id : Nat) (f : RankInfo → RankInfo) (hf : ∀ info, (f info).id = info.id) :
    RankTable where
  toList := ranks.toList.map fun info => if info.id = id then f info else info
  ids := by
    rw [List.map_map, List.length_map, ← ranks.ids]
    apply List.map_congr_left
    intro info _
    simp only [Function.comp_apply]
    split
    · exact hf info
    · rfl
  min_le := by simpa using ranks.min_le
  le_max := by simpa using ranks.le_max

@[simp] theorem size_modify (id : Nat) (f : RankInfo → RankInfo)
    (hf : ∀ info, (f info).id = info.id) : (ranks.modify id f hf).size = ranks.size := by
  simp [modify, size]

@[simp] theorem size_push (info : RankInfo) (hid : info.id = ranks.size)
    (hsize : ranks.size < guildRanksMaxCount) :
    (ranks.push info hid hsize).size = ranks.size + 1 := by
  simp [push, size]

theorem min_le_size : guildRanksMinCount ≤ ranks.size := ranks.min_le

theorem size_pos : 0 < ranks.size :=
  lt_of_lt_of_le (by decide) ranks.min_le

theorem size_le_max : ranks.size ≤ guildRanksMaxCount := ranks.le_max

end RankTable

/-! ## Database statements -/

/-- `UPDATE t SET rid = new WHERE rid = old` on rows keyed by rank id. -/
def moveRow {Row : Type} (table : Nat → Option Row) (old new : Nat) : Nat → Option Row :=
  match table old with
  | none => table
  | some row => fun rid =>
    if rid = new then some row else if rid = old then none else table rid

namespace Database

variable (db : Database) (low : UInt32)

/-- `CHAR_UPD_GUILD_MEMBER_RANK`. -/
def updateMemberRank (rank : UInt8) : Database :=
  { db with guildMember := fun other =>
      if other = low then (db.guildMember low).map fun row => { row with rank := rank.toNat }
      else db.guildMember other }

/-- `CHAR_INS_GUILD_MEMBER`: an insertion under an existing key fails. -/
def insertMember (row : GuildMemberRow) : Database :=
  { db with guildMember := fun other =>
      if other = low then (db.guildMember low).orElse fun _ => some row
      else db.guildMember other }

/-- `CHAR_DEL_GUILD_MEMBER`. -/
def deleteMember : Database :=
  { db with guildMember := fun other => if other = low then none else db.guildMember other }

/-- `CHAR_UPD_GUILD_MEMBERS_RANK`. -/
def updateMembersRank (guildId : UInt32) (old new : Nat) : Database :=
  { db with guildMember := fun low => (db.guildMember low).map fun row =>
      if row.guildId = guildId ∧ row.rank = old then { row with rank := new } else row }

/-- `CHAR_UPD_GUILD_RANK_NAME` and `CHAR_UPD_GUILD_RANK_RIGHTS`. -/
def updateRank (rankId : Nat) (f : GuildRankRow → GuildRankRow) : Database :=
  { db with guildRank := fun rid =>
      if rid = rankId % 256 then (db.guildRank rid).map f else db.guildRank rid }

end Database

/-! ## Members, players and permissions -/

variable (guild : Guild)

/-- `GetMember(guid)`: members are found by the low part of the guid alone. -/
def getMember (guid : UInt64) : Option Member :=
  guild.members.get? (guidLoPart guid)

/-- `GetMember(session, name)`: the first member of that name. -/
def getMemberByName (name : String) : Option Member :=
  guild.members.rows.find? fun member => member.name = name

variable (realm : Realm)

/-- `ObjectAccessor::FindPlayer`. -/
def Realm.findPlayer (guid : UInt64) : Option Player :=
  (realm.players guid).filter Player.inWorld

/-- Rewrite the object of an in-world player. -/
def Realm.updatePlayer (guid : UInt64) (f : Player → Player) : Realm :=
  match realm.findPlayer guid with
  | none => realm
  | some player =>
    { realm with players := fun other =>
        if other = guid then some (f player) else realm.players other }

/-- `_GetRankRights`. -/
def getRankRights (rankId : Nat) : UInt32 :=
  match guild.ranks.getRankInfo rankId with
  | some info => info.rights
  | none => 0

/-- `_HasRankRight`: the right is looked up under the rank the player carries. -/
def hasRankRight (player : Player) (right : UInt32) : Bool :=
  getRankRights guild player.rank &&& right ≠ grRightEmpty

/-- `_IsLeader`. -/
def isLeader (player : Player) : Bool :=
  if player.guid = guild.leaderGuid then true
  else
    match getMember guild player.guid with
    | some member => member.rankId = grGuildMaster.toNat
    | none => false

/-- `_UpdateAccountsNumber`. -/
def updateAccountsNumber : Guild :=
  { guild with accountsNumber := (guild.members.rows.map Member.accountId).dedup.length }

variable (low : UInt32)

def Guild.setRank (rank : UInt8) : Guild :=
  { guild with members := guild.members.modify low fun member => member.withRank rank }

variable (world : World)

/-- `Member::ChangeRank`: memory, the online player and the database row. -/
def changeRank (member : Member) (newRank : UInt8) : World :=
  let realm := world.realm.updatePlayer member.guid fun player =>
    { player with rank := newRank.toNat }
  { guild := world.guild.setRank (guidLoPart member.guid) newRank
    realm := { realm with db := realm.db.updateMemberRank (guidLoPart member.guid) newRank } }

/-- `_SetLeaderGUID`. -/
def setLeaderGuid (leader : Member) : World :=
  let world : World := { world with guild := { world.guild with leaderGuid := leader.guid } }
  let world := changeRank world leader grGuildMaster
  { world with realm := { world.realm with
      db := { world.realm.db with guildLeader := guidLoPart leader.guid } } }

/-! ## Leadership requests -/

/-- Hand the guild over: promote the new leader, then demote the old one. -/
def passLeadership (oldLeader newLeader : Member) : World :=
  changeRank (setLeaderGuid world newLeader) oldLeader grOfficer

/-- `HandleSetLeader`. -/
def handleSetLeader (player : Player) (name : String) : Response :=
  if ¬ isLeader world.guild player then .refuse world .invite .permissions
  else
    match getMember world.guild player.guid with
    | none => .refuse world .invite .permissions
    | some oldLeader =>
      match getMemberByName world.guild name with
      | none => .refuse world .invite .playerNotInGuild name
      | some newLeader => .done (passLeadership world oldLeader newLeader)

/-- `SwitchGuildLeader`. -/
def switchGuildLeader (newLeaderGuid : UInt64) : World × Bool :=
  match getMember world.guild world.guild.leaderGuid with
  | none => (world, false)
  | some oldLeader =>
    match getMember world.guild newLeaderGuid with
    | none => (world, false)
    | some newLeader => (passLeadership world oldLeader newLeader, true)

/-! ## Membership requests -/

/-- The second half of `DeleteMember`: drop the member, clear the player's guild
fields if he is online and delete his row. -/
def dropMember (guid : UInt64) : World :=
  let realm := world.realm.updatePlayer guid fun player =>
    { player with guildId := 0, rank := 0 }
  { guild := { world.guild with members := world.guild.members.erase (guidLoPart guid) }
    realm := { realm with db := realm.db.deleteMember (guidLoPart guid) } }

/-- `Disband`: every member is deleted, then the guild's own rows. -/
def disband : Realm :=
  let realm := (world.guild.members.rows.foldl
    (fun world member => dropMember world member.guid) world).realm
  { realm with db := { realm.db with
      guildRank := fun _ => none
      guildBankRight := fun _ _ => none } }

/-- The body of the loop in which `DeleteMember` looks for a successor. -/
def betterLeader (newLeader : Option Member) (member : Member) : Option Member :=
  if guidLoPart member.guid = low then newLeader
  else
    match newLeader with
    | none => some member
    | some best => if best.rankId > member.rankId then some member else some best

/-- The successor `DeleteMember` picks among the other members: the first of the
best rank in iteration order. -/
def successor (members : List Member) : Option Member :=
  members.foldl (betterLeader low) none

/-- `DeleteMember`. -/
def deleteMember (guid : UInt64) (isDisbanding : Bool) : Status :=
  if world.guild.leaderGuid = guid ∧ ¬ isDisbanding then
    match successor (guidLoPart guid) world.guild.members.rows with
    | none => .disbanded (disband world)
    | some newLeader =>
      let world := dropMember (setLeaderGuid world newLeader) guid
      .live { world with guild := updateAccountsNumber world.guild }
  else
    let world := dropMember world guid
    .live (if isDisbanding then world
      else { world with guild := updateAccountsNumber world.guild })

/-- `Member::CheckStats`. -/
def checkStats (level characterClass : UInt8) : Bool :=
  1 ≤ level && 1 ≤ characterClass && characterClass < 12

/-- The rank `AddMember` stores: an absent rank means the lowest one. -/
def assignedRank (rankId : UInt8) : UInt8 :=
  if rankId = guildRankNone then guild.ranks.getLowestRankId.toUInt8 else rankId

/-- A new member with the character data at hand and no bank allowance yet. -/
def newMember (guid : UInt64) (rankId : UInt8) (row : CharacterRow) : Member where
  guid := guid
  name := row.name
  level := row.level
  characterClass := row.characterClass
  zoneId := row.zoneId
  accountId := row.accountId
  rankId := rankId.toNat
  bankRemaining := Vector.replicate _ {}

/-- The character data `AddMember` fills in: from the online player, or from the
database if the character exists and its data is sane. -/
def memberStats (guid : UInt64) : Option CharacterRow :=
  match realm.findPlayer guid with
  | some player => some
      { name := player.name, level := player.level, characterClass := player.characterClass
        zoneId := player.zoneId, accountId := player.accountId }
  | none => (realm.db.characters (guidLoPart guid)).filter fun row =>
    checkStats row.level row.characterClass

/-- The guild a player already belongs to, online or by `GetGuildIdFromDB`. -/
def currentGuildId (guid : UInt64) : UInt32 :=
  match realm.findPlayer guid with
  | some player => player.guildId
  | none => ((realm.db.guildMember (guidLoPart guid)).map GuildMemberRow.guildId).getD 0

/-- `AddMember`.  The hash table of members may iterate in another order
afterwards. -/
def addMember (guid : UInt64) (rankId : UInt8) (rehash : Rearrangement Member) : World × Bool :=
  if currentGuildId world.realm guid ≠ 0 then (world, false)
  else
    match memberStats world.realm guid with
    | none => (world, false)
    | some row =>
      let rank := assignedRank world.guild rankId
      let guild := { world.guild with
        members := world.guild.members.insert (newMember guid rank row) rehash }
      let saved : GuildMemberRow := { guildId := guild.id, rank := rank.toNat }
      let realm := { world.realm with
        db := world.realm.db.insertMember (guidLoPart guid) saved }
      let realm := realm.updatePlayer guid fun player =>
        { player with guildId := guild.id, rank := rank.toNat }
      ({ guild := updateAccountsNumber guild, realm }, true)

/-- `HandleRemoveMember`. -/
def handleRemoveMember (player : Player) (guid : UInt64) : Response :=
  if ¬ hasRankRight world.guild player grRightRemove then .refuse world .invite .permissions
  else
    match getMember world.guild guid with
    | some member =>
      if member.rankId = grGuildMaster.toNat then .refuse world .quit .leaderLeave
      -- `IsRankNotLower` takes the acting player's rank as an 8-bit number.
      else if member.rankId ≤ player.rank % 256 then
        .refuse world .quit .rankTooHigh member.name
      else { status := deleteMember world guid false }
    | none =>
      match world.realm.findPlayer guid with
      | some removed => .refuse world .quit .playerNoMoreInGuild removed.name
      | none => .done world

/-- The right `HandleSetMemberRank` asks for: a larger rank id is a demotion. -/
def rankChangeRight (rank : UInt32) : UInt32 :=
  if rank.toNat > member.rankId then grRightDemote else grRightPromote

/-- `HandleSetMemberRank`.  The rank id comes from the client and is cut to eight
bits when stored. -/
def handleSetMemberRank (player : Player) (targetGuid setterGuid : UInt64) (rank : UInt32) :
    Response :=
  match getMember world.guild targetGuid with
  | none => .done world
  | some member =>
    if ¬ hasRankRight world.guild player (rankChangeRight member rank) then
      .refuse world .invite .permissions
    else
      match getMember world.guild setterGuid with
      | none => .refuse world .invite .internal
      | some setter =>
        if setter.rankId ≠ 1 ∧ setter.rankId ≥ member.rankId then
          .refuse world .invite .permissions
        else if member.guid = player.guid then .refuse world .invite .nameInvalid
        else .done (changeRank world member rank.toUInt8)

/-! ## Rank requests -/

/-- Rewrite a rank in memory and its row of `guild_rank`. -/
def modifyRank (id : Nat) (f : RankInfo → RankInfo) (hf : ∀ info, (f info).id = info.id)
    (g : GuildRankRow → GuildRankRow) : World where
  guild := { world.guild with ranks := world.guild.ranks.modify id f hf }
  realm := { world.realm with db := world.realm.db.updateRank id g }

variable (info : RankInfo)

/-- `RankInfo::SetName`. -/
def setRankName (name : String) : World :=
  if info.name = name then world
  else
    modifyRank world info.id (fun info => { info with name := name }) (fun _ => rfl)
      fun row => { row with name := name }

def protectedRights (rights : UInt32) : UInt32 :=
  if info.id = grGuildMaster.toNat then grRightAll else rights

/-- `RankInfo::SetRights`. -/
def setRankRights (rights : UInt32) : World :=
  if info.rights = protectedRights info rights then world
  else
    modifyRank world info.id
      (fun info => { info with rights := protectedRights info rights }) (fun _ => rfl)
      fun row => { row with rights := protectedRights info rights }

/-- `HandleSwapRanks`: names and rights change places, ids and bank rights stay.
The neighbour's id is computed in 32-bit arithmetic. -/
def handleSwapRanks (id : UInt32) (up : Bool) : World :=
  let id2 := if up then id - 1 else id + 1
  match world.guild.ranks.findById id, world.guild.ranks.findById id2 with
  | some rankInfo, some rankInfo2 =>
    let world := setRankName world rankInfo2 rankInfo.name
    let world := setRankRights world rankInfo2 rankInfo.rights
    let world := setRankName world rankInfo rankInfo2.name
    setRankRights world rankInfo rankInfo2.rights
  | _, _ => world

/-- `_CreateRank`. -/
def createRank (name : String) (rights : UInt32) : World :=
  if hsize : world.guild.ranks.size < guildRanksMaxCount then
    let info : RankInfo :=
      { id := world.guild.ranks.size, name, rights, bankMoneyPerDay := 0
        bankTabRightsAndSlots := Vector.replicate _ {} }
    let db := world.realm.db
    { guild := { world.guild with ranks := world.guild.ranks.push info rfl hsize }
      realm := { world.realm with db := { db with
        guildBankRight := fun tab rid =>
          if tab < world.guild.purchasedTabs ∧ rid = info.id then
            (db.guildBankRight tab rid).orElse fun _ => some {}
          else db.guildBankRight tab rid
        guildRank := fun rid =>
          if rid = info.id then
            (db.guildRank rid).orElse fun _ => some { name, rights, bankMoneyPerDay := 0 }
          else db.guildRank rid } } }
  else world

/-- `HandleAddNewRank`. -/
def handleAddNewRank (player : Player) (name : String) : Response :=
  if world.guild.ranks.size ≥ guildRanksMaxCount then .done world
  else if ¬ isLeader world.guild player then .refuse world .invite .permissions
  else .done (createRank world name (grRightGChatListen ||| grRightGChatSpeak))

/-- The database side of `RankInfo::UpdateId`. -/
def updateRankId (db : Database) (guildId : UInt32) (oldId newId : Nat) : Database :=
  let db := db.updateMembersRank guildId (oldId % 256) (newId % 256)
  { db with
    guildRank := moveRow db.guildRank (oldId % 256) (newId % 256)
    guildBankRight := fun tab => moveRow (db.guildBankRight tab) (oldId % 256) (newId % 256) }

/-- The loop of `HandleRemoveRank` that gives every rank from index `i` on its
index as id.  Members in memory are not visited. -/
def restructRanks (guildId : UInt32) : Nat → List RankInfo → Database →
    List RankInfo × Database
  | _, [], db => ([], db)
  | i, info :: rest, db =>
    let db := if info.id ≠ i then updateRankId db guildId info.id i else db
    let (rest, db) := restructRanks guildId (i + 1) rest db
    ({ info with id := i } :: rest, db)

/-- The ranks are numbered anew, without a gap. -/
theorem restructRanks_ids (guildId : UInt32) (i : Nat) (infos : List RankInfo)
    (db : Database) :
    (restructRanks guildId i infos db).1.map RankInfo.id =
      List.range' i infos.length := by
  induction infos generalizing i db with
  | nil => rfl
  | cons info rest ih => simp [restructRanks, ih, List.range'_succ]

theorem restructRanks_length (guildId : UInt32) (i : Nat) (infos : List RankInfo)
    (db : Database) :
    (restructRanks guildId i infos db).1.length = infos.length := by
  simpa using congrArg List.length (restructRanks_ids guildId i infos db)

variable (ranks : RankTable)

def RankTable.removeAt (guildId : UInt32) (db : Database) (index : Nat)
    (hindex : index < ranks.size) (hsize : guildRanksMinCount < ranks.size) : RankTable where
  toList := (restructRanks guildId 0 (ranks.toList.eraseIdx index) db).1
  ids := by
    rw [restructRanks_ids, restructRanks_length, List.range_eq_range']
  min_le := by
    rw [restructRanks_length, List.length_eraseIdx_of_lt hindex]
    simp only [RankTable.size] at hsize
    omega
  le_max := by
    have hmax := ranks.le_max
    rw [restructRanks_length, List.length_eraseIdx_of_lt hindex]
    omega

theorem size_removeAt (guildId : UInt32) (db : Database) (index : Nat) (hindex : index < ranks.size)
    (hsize : guildRanksMinCount < ranks.size) :
    (ranks.removeAt guildId db index hindex hsize).size = ranks.size - 1 := by
  rw [RankTable.size, RankTable.removeAt, restructRanks_length,
    List.length_eraseIdx_of_lt hindex, RankTable.size]

/-- `CHAR_DEL_GUILD_BANK_RIGHTS_FOR_RANK` and `CHAR_DEL_GUILD_RANK`. -/
def Database.deleteRank (db : Database) (rankId : UInt8) : Database :=
  { db with
    guildBankRight := fun tab rid =>
      if rid = rankId.toNat then none else db.guildBankRight tab rid
    guildRank := fun rid => if rid = rankId.toNat then none else db.guildRank rid }

/-- The accepted part of `HandleRemoveRank`: the rows of the removed rank are
deleted, the vector element is erased and the remaining ranks are renumbered. -/
def removeRank (rankId : UInt32) (hindex : rankId.toNat < world.guild.ranks.size)
    (hsize : guildRanksMinCount < world.guild.ranks.size) : World :=
  let guild := world.guild
  let db := world.realm.db.deleteRank rankId.toUInt8
  { guild := { guild with ranks := guild.ranks.removeAt guild.id db rankId.toNat hindex hsize }
    realm := { world.realm with
      db := (restructRanks guild.id 0 (guild.ranks.toList.eraseIdx rankId.toNat) db).2 } }

/-- `HandleRemoveRank`.  The client's index is not checked before the erasure. -/
def handleRemoveRank (player : Player) (rankId : UInt32) : Response :=
  if hsize : guildRanksMinCount < world.guild.ranks.size then
    if ¬ isLeader world.guild player then .refuse world .invite .permissions
    else if hindex : rankId.toNat < world.guild.ranks.size then
      .done (removeRank world rankId hindex hsize)
    else { status := .undefinedBehaviour }
  else .done world

end MopServer.Guilds
