import MopServer.Guilds.Leadership

/-! # Validation of a loaded guild

After loading, the ranks, the members and the leader of a guild may be anything.  The validation
replaces broken ranks by the default ones, moves members of impossible ranks to the lowest one,
finds a leader, and demotes all other guild masters.  Every repair is a pass over the members, so
the result is the image of the loaded members under one function, which we compute.
-/

namespace MopServer.Guilds

open MopServer.Foundation

def playerGuid (low : UInt32) : UInt64 := makeNewGuid low.toUInt64 0 HighGuid.player

/-- What `LoadFromDB`, `LoadRankFromDB` and `LoadMemberFromDB` leave.  Only the low guids are in the
database. -/
structure LoadedGuild where
  id : UInt32
  leader : UInt32
  ranks : List RankInfo
  members : Table Member
  purchasedTabs : Nat
  guids : ∀ member ∈ members, member.guid = playerGuid (guidLoPart member.guid)

/-! ## Ranks -/

def langGuildMaster : Nat := 811
def langGuildOfficer : Nat := 812
def langGuildVeteran : Nat := 813
def langGuildMember : Nat := 814
def langGuildInitiate : Nat := 815

/-- `_CreateRank`, on ranks that need not be valid yet. -/
def appendRank (purchasedTabs : Nat) (name : String) (rights : UInt32) :
    List RankInfo × Database → List RankInfo × Database
  | (ranks, db) =>
    if ranks.length ≥ guildRanksMaxCount then (ranks, db)
    else
      let info : RankInfo :=
        { id := ranks.length, name, rights, bankMoneyPerDay := 0
          bankTabRightsAndSlots := Vector.replicate _ {} }
      (ranks ++ [info], { db with
        guildBankRight := fun tab rid =>
          if tab < purchasedTabs ∧ rid = info.id then
            (db.guildBankRight tab rid).orElse fun _ => some {}
          else db.guildBankRight tab rid
        guildRank := fun rid =>
          if rid = info.id then
            (db.guildRank rid).orElse fun _ => some { name, rights, bankMoneyPerDay := 0 }
          else db.guildRank rid })

variable (trinityString : Nat → String)

/-- `_CreateDefaultGuildRanks`. -/
def createDefaultGuildRanks (purchasedTabs : Nat) (db : Database) : List RankInfo × Database :=
  let create entry := appendRank purchasedTabs (trinityString entry)
  let none : List RankInfo × Database :=
    ([], { db with guildRank := fun _ => none, guildBankRight := fun _ _ => none })
  create langGuildInitiate (grRightGChatListen ||| grRightGChatSpeak) <|
    create langGuildMember (grRightGChatListen ||| grRightGChatSpeak) <|
    create langGuildVeteran (grRightGChatListen ||| grRightGChatSpeak) <|
    create langGuildOfficer grRightAll <|
    create langGuildMaster grRightAll none

/-- `broken_ranks`. -/
def brokenRanks (ranks : List RankInfo) : Bool :=
  if ranks.length < guildRanksMinCount ∨ ranks.length > guildRanksMaxCount then true
  else ranks.zipIdx.any fun (rankInfo, rankId) => rankInfo.id ≠ rankId

variable (world : World)

theorem createDefaultGuildRanks_ids (purchasedTabs : Nat) (db : Database) :
    (createDefaultGuildRanks trinityString purchasedTabs db).1.map RankInfo.id =
      List.range guildRanksMinCount := rfl

theorem ids_of_not_brokenRanks {ranks : List RankInfo} (hranks : brokenRanks ranks = false) :
    ranks.map RankInfo.id = List.range ranks.length ∧ guildRanksMinCount ≤ ranks.length ∧
      ranks.length ≤ guildRanksMaxCount := by
  unfold brokenRanks at hranks
  split at hranks
  · cases hranks
  next hcount =>
    refine ⟨?_, by omega, by omega⟩
    apply List.ext_getElem (by simp)
    intro rankId hleft hright
    have hrank : rankId < ranks.length := by simpa using hright
    have hmem : (ranks[rankId], rankId) ∈ ranks.zipIdx :=
      List.mem_zipIdx_iff_getElem?.mpr (List.getElem?_eq_getElem _)
    have hid := List.any_eq_false.mp hranks _ hmem
    simpa using hid

variable (loaded : LoadedGuild)

/-- The ranks after the first part of `Validate`. -/
def validateRanks (db : Database) : RankTable × Database :=
  if hranks : brokenRanks loaded.ranks = true then
    let created := createDefaultGuildRanks trinityString loaded.purchasedTabs db
    ({ toList := created.1
       ids := createDefaultGuildRanks_ids trinityString loaded.purchasedTabs db
       min_le := Nat.le_refl guildRanksMinCount
       le_max := (by decide : guildRanksMinCount ≤ guildRanksMaxCount) }, created.2)
  else
    have hids := ids_of_not_brokenRanks (Bool.eq_false_iff.mpr hranks)
    ({ toList := loaded.ranks, ids := hids.1, min_le := hids.2.1, le_max := hids.2.2 }, db)

/-! ## Members -/

/-- The loops of `Validate` that store a rank for some members. -/
def changeRanks (affected : Member → Bool) (rank : UInt8) : World :=
  world.guild.members.rows.foldl
    (fun world member => if affected member then changeRank world member rank else world) world

def validateMembers : World :=
  changeRanks world (fun member => member.rankId > world.guild.ranks.size)
    world.guild.ranks.getLowestRankId.toUInt8

/-- The repair of the leader.  Without members left the guild is disbanded. -/
def validateLeader : Status :=
  match getMember world.guild world.guild.leaderGuid with
  | none =>
    match deleteMember world world.guild.leaderGuid false with
    | .live world =>
      if world.guild.members.rows = [] then .disbanded (disband world) else .live world
    | status => status
  | some leader =>
    .live (if leader.rankId ≠ grGuildMaster.toNat then setLeaderGuid world leader else world)

variable (allowMultiple : Bool)

/-- Unless several guild masters are allowed, all but the leader become officers. -/
def demoteMasters (world : World) : World :=
  if allowMultiple then world
  else
    changeRanks world (fun member =>
      member.rankId = grGuildMaster.toNat && member.guid ≠ world.guild.leaderGuid) grOfficer

/-- `Validate`, with the option `Guild.AllowMultipleGuildMaster`.  It returns false for a guild that
is disbanded. -/
def validate (loaded : LoadedGuild) (realm : Realm) : Status :=
  let (ranks, db) := validateRanks trinityString loaded realm.db
  let guild : Guild :=
    { id := loaded.id, leaderGuid := playerGuid loaded.leader, ranks, members := loaded.members
      purchasedTabs := loaded.purchasedTabs, accountsNumber := 0 }
  match validateLeader (validateMembers { guild, realm := { realm with db } }) with
  | .live world =>
    let world := demoteMasters allowMultiple world
    .live { world with guild := updateAccountsNumber world.guild }
  | status => status

/-! ## A valid guild -/

variable {member : Member} {affected : Member → Bool}

/-- The ranks are numbered from zero, their number is within the bounds, every member has one of
them, and the leader is the one member of rank zero. -/
structure Established (guild : Guild) : Prop where
  numbered : guild.ranks.toList.map RankInfo.id = List.range guild.ranks.size
  bounds : guildRanksMinCount ≤ guild.ranks.size ∧ guild.ranks.size ≤ guildRanksMaxCount
  sound : Sound guild

/-- The number of ranks after the repair. -/
def LoadedGuild.size : Nat :=
  if brokenRanks loaded.ranks then guildRanksMinCount else loaded.ranks.length

theorem Member.withRank_eq_self {rank : UInt8} (hrank : member.rankId = rank.toNat) :
    member.withRank rank = member := by
  cases member
  cases hrank
  rfl

def rerank (affected : Member → Bool) (rank : UInt8) (member : Member) : Member :=
  if affected member then member.withRank rank else member

theorem rerank_of_affected (haffected : affected member = true) (rank : UInt8) :
    rerank affected rank member = member.withRank rank := if_pos haffected

theorem rerank_of_not (haffected : affected member = false) (rank : UInt8) :
    rerank affected rank member = member :=
  if_neg (Bool.eq_false_iff.mp haffected)

@[simp] theorem rerank_guid (affected : Member → Bool) (rank : UInt8) (member : Member) :
    (rerank affected rank member).guid = member.guid := by
  unfold rerank
  split <;> rfl

theorem key_rerank (affected : Member → Bool) (rank : UInt8) (member : Member) :
    Keyed.key (rerank affected rank member) = Keyed.key member := by
  rw [Member.key_eq, rerank_guid, Member.key_eq]

def Guild.rerank (guild : Guild) (affected : Member → Bool) (rank : UInt8) : Guild :=
  { guild with members :=
      guild.members.map (Guilds.rerank affected rank) (key_rerank affected rank) }

/-- A rank beyond the number of ranks is impossible; the one equal to that number is let through. -/
def exceeds (size : Nat) (member : Member) : Bool := member.rankId > size

def clampedMembers : Table Member :=
  loaded.members.map (rerank (exceeds loaded.size) (UInt32.ofNat (loaded.size - 1)).toUInt8)
    (key_rerank _ _)

/-- The leader, or the first of the highest members if the leader is not a member. -/
def nextLeader (low : UInt32) (members : Table Member) : Option Member :=
  (members.get? low).orElse fun _ => successor low members.rows

/-- Nobody but the next leader has the rank just beyond the last one, or is a guild master where
several are allowed. -/
def Repairable (allowMultiple : Bool) (loaded : LoadedGuild) : Prop :=
  ∀ leader, nextLeader loaded.leader (clampedMembers loaded) = some leader →
    ∀ member ∈ loaded.members, member.guid ≠ leader.guid →
      member.rankId ≠ loaded.size ∧ (allowMultiple = true → member.rankId ≠ grGuildMaster.toNat)

/-! ## One pass over the members -/

variable {world : World} {leader : Member}

theorem guild_changeRanks (world : World) (affected : Member → Bool) (rank : UInt8) :
    (changeRanks world affected rank).guild = world.guild.rerank affected rank := by
  have hloop : ∀ (todo : List Member) (world : World),
      (todo.foldl (fun world member =>
        if affected member then changeRank world member rank else world) world).guild =
        { world.guild with
          members := todo.foldl (fun (members : Table Member) member =>
            if affected member then members.modify (Keyed.key member)
              (fun member => member.withRank rank) (Member.key_withRank rank)
            else members) world.guild.members } := by
    intro todo
    induction todo with
    | nil => exact fun _ => rfl
    | cons member rest ih =>
      intro world
      rw [List.foldl_cons, ih, List.foldl_cons]
      split <;> rfl
  unfold changeRanks
  rw [hloop, Table.foldl_modify]
  rfl

theorem mem_rerank {guild : Guild} {rank : UInt8} :
    member ∈ (guild.rerank affected rank).members ↔
      ∃ old ∈ guild.members, rerank affected rank old = member :=
  Table.mem_map (key_rerank affected rank)

/-- Every member has a guid that is made from its low part, and so has the leader. -/
structure MadeOfLow (guild : Guild) : Prop where
  leader : guild.leaderGuid = playerGuid (guidLoPart guild.leaderGuid)
  members : ∀ member ∈ guild.members, member.guid = playerGuid (guidLoPart member.guid)

/-- What the repair of the leader does to the guild. -/
structure LeaderRepaired (before after : Guild) (leader : Member) : Prop where
  mem : leader ∈ before.members
  next : nextLeader (guidLoPart before.leaderGuid) before.members = some leader
  guid : after.leaderGuid = leader.guid
  ranks : after.ranks = before.ranks
  members : ∀ member, member ∈ after.members ↔ ∃ old ∈ before.members,
    rerank (fun old => old.guid = leader.guid) grGuildMaster old = member

/-- Promoting a member. -/
theorem setLeaderGuid_repairs (hmade : MadeOfLow world.guild)
    (hleader : leader ∈ world.guild.members)
    (hnext : nextLeader (guidLoPart world.guild.leaderGuid) world.guild.members = some leader) :
    LeaderRepaired world.guild (setLeaderGuid world leader).guild leader where
  mem := hleader
  next := hnext
  guid := rfl
  ranks := rfl
  members := by
    intro member
    have hmodify : member ∈ (setLeaderGuid world leader).guild.members ↔
        ∃ old ∈ world.guild.members, (if guidLoPart old.guid = guidLoPart leader.guid then
          old.withRank grGuildMaster else old) = member :=
      Table.mem_modify (Member.key_withRank grGuildMaster)
    rw [hmodify]
    refine exists_congr fun old => and_congr_right fun hold => ?_
    have hguid : guidLoPart old.guid = guidLoPart leader.guid ↔ old.guid = leader.guid := by
      constructor
      · intro hlow
        rw [hmade.members old hold, hlow, ← hmade.members leader hleader]
      · exact congrArg guidLoPart
    simp only [rerank, hguid, decide_eq_true_eq]

theorem LeaderRepaired.dropMember {before : Guild}
    (hrepaired : LeaderRepaired before world.guild leader)
    (habsent : ∀ member ∈ before.members, Keyed.key member ≠ guidLoPart before.leaderGuid) :
    LeaderRepaired before
      (updateAccountsNumber (dropMember world before.leaderGuid).guild) leader where
  mem := hrepaired.mem
  next := hrepaired.next
  guid := hrepaired.guid
  ranks := hrepaired.ranks
  members := by
    intro member
    have herase : member ∈ (updateAccountsNumber
        (Guilds.dropMember world before.leaderGuid).guild).members ↔
          member ∈ world.guild.members ∧ Keyed.key member ≠ guidLoPart before.leaderGuid :=
      Table.mem_erase
    rw [herase, hrepaired.members member]
    refine and_iff_left_of_imp ?_
    rintro ⟨old, hold, rfl⟩
    rw [key_rerank]
    exact habsent old hold

theorem validateLeader_repairs {after : World} (hmade : MadeOfLow world.guild)
    (hafter : validateLeader world = .live after) :
    ∃ leader, LeaderRepaired world.guild after.guild leader := by
  unfold validateLeader at hafter
  split at hafter
  next hnone =>
    have hget : world.guild.members.get? (guidLoPart world.guild.leaderGuid) = none := hnone
    have habsent := Table.get?_eq_none_iff.mp hget
    rw [deleteMember, if_pos ⟨rfl, Bool.false_ne_true⟩] at hafter
    cases hnew : successor (guidLoPart world.guild.leaderGuid) world.guild.members.rows with
    | none => simp only [hnew, reduceCtorEq] at hafter
    | some newLeader =>
      have hnext : nextLeader (guidLoPart world.guild.leaderGuid) world.guild.members =
          some newLeader := by
        rw [nextLeader, hget]
        exact hnew
      have hrepaired := (setLeaderGuid_repairs hmade (successor_mem hnew).1 hnext).dropMember
        habsent
      simp only [hnew] at hafter
      split at hafter
      · cases hafter
      · obtain rfl := Status.live.inj hafter
        exact ⟨newLeader, hrepaired⟩
  next leader hleader =>
    have hget : world.guild.members.get? (guidLoPart world.guild.leaderGuid) = some leader :=
      hleader
    obtain ⟨hmem, hlow⟩ := getMember_eq_some_iff.mp hleader
    have hnext : nextLeader (guidLoPart world.guild.leaderGuid) world.guild.members =
        some leader := by
      rw [nextLeader, hget]
      rfl
    refine ⟨leader, ?_⟩
    obtain rfl := Status.live.inj hafter
    split
    · exact setLeaderGuid_repairs hmade hmem hnext
    next hrank =>
      have hguid : world.guild.leaderGuid = leader.guid := by
        rw [hmade.leader, ← hlow, ← hmade.members leader hmem]
      refine ⟨hmem, hnext, hguid, rfl, fun member => ?_⟩
      have hsame : ∀ old ∈ world.guild.members,
          rerank (fun old => old.guid = leader.guid) grGuildMaster old = old := by
        intro old hold
        unfold rerank
        split
        next heq =>
          obtain rfl : old = leader := Table.eq_of_key_eq hold hmem
            (congrArg guidLoPart (of_decide_eq_true heq))
          exact Member.withRank_eq_self (not_not.mp hrank)
        · rfl
      constructor
      · exact fun hmember => ⟨member, hmember, hsame member hmember⟩
      · rintro ⟨old, hold, rfl⟩
        rw [hsame old hold]
        exact hold

/-! ## The result -/

variable {loaded : LoadedGuild}

theorem size_validateRanks (trinityString : Nat → String) (loaded : LoadedGuild) (db : Database) :
    (validateRanks trinityString loaded db).1.size = loaded.size := by
  unfold validateRanks LoadedGuild.size
  split
  · rfl
  · rfl

theorem LoadedGuild.min_le_size (loaded : LoadedGuild) : guildRanksMinCount ≤ loaded.size := by
  unfold LoadedGuild.size
  split
  · exact Nat.le_refl _
  next hranks => exact (ids_of_not_brokenRanks (Bool.eq_false_iff.mpr hranks)).2.1

theorem LoadedGuild.size_le_max (loaded : LoadedGuild) : loaded.size ≤ guildRanksMaxCount := by
  unfold LoadedGuild.size
  split
  · decide
  next hranks => exact (ids_of_not_brokenRanks (Bool.eq_false_iff.mpr hranks)).2.2

/-- What becomes of a loaded member. -/
def settle (allowMultiple : Bool) (size : Nat) (leaderGuid : UInt64) (member : Member) : Member :=
  let member := rerank (exceeds size) (UInt32.ofNat (size - 1)).toUInt8 member
  let member := rerank (fun member => member.guid = leaderGuid) grGuildMaster member
  if allowMultiple then member
  else rerank (fun member => member.rankId = grGuildMaster.toNat && member.guid ≠ leaderGuid)
    grOfficer member

@[simp] theorem settle_guid (allowMultiple : Bool) (size : Nat) (leaderGuid : UInt64)
    (member : Member) : (settle allowMultiple size leaderGuid member).guid = member.guid := by
  unfold settle
  split <;> simp

theorem settle_leader (allowMultiple : Bool) (size : Nat) (member : Member) :
    (settle allowMultiple size member.guid member).rankId = grGuildMaster.toNat := by
  simp only [settle]
  rw [rerank_of_affected (decide_eq_true (rerank_guid _ _ _))]
  cases allowMultiple with
  | true => rfl
  | false =>
    rw [if_neg Bool.false_ne_true, rerank_of_not (by simp)]
    rfl

theorem settle_other {size : Nat} {leaderGuid : UInt64} (hmin : guildRanksMinCount ≤ size)
    (hmax : size ≤ guildRanksMaxCount) (hother : member.guid ≠ leaderGuid) (allowMultiple : Bool) :
    (settle allowMultiple size leaderGuid member).rankId =
      if member.rankId > size then size - 1
      else if member.rankId = 0 ∧ allowMultiple = false then 1 else member.rankId := by
  have hlowest : ((UInt32.ofNat (size - 1)).toUInt8).toNat = size - 1 := by
    rw [UInt32.toNat_toUInt8, UInt32.toNat_ofNat']
    simp only [guildRanksMaxCount] at hmax
    omega
  -- The rank after the first pass; the second one leaves him alone.
  obtain ⟨clamped, hclamped⟩ :
      ∃ clamped, clamped = rerank (exceeds size) (UInt32.ofNat (size - 1)).toUInt8 member :=
    ⟨_, rfl⟩
  have hguid : clamped.guid ≠ leaderGuid := by rwa [hclamped, rerank_guid]
  have hrank : clamped.rankId = if member.rankId > size then size - 1 else member.rankId := by
    rw [hclamped]
    by_cases hexceeds : member.rankId > size
    · rw [rerank_of_affected (decide_eq_true hexceeds), if_pos hexceeds]
      exact hlowest
    · rw [rerank_of_not (decide_eq_false hexceeds), if_neg hexceeds]
  simp only [settle, ← hclamped]
  rw [rerank_of_not (decide_eq_false hguid)]
  simp only [guildRanksMinCount] at hmin
  cases allowMultiple with
  | true =>
    rw [if_pos rfl, hrank]
    simp
  | false =>
    rw [if_neg Bool.false_ne_true]
    by_cases hmaster : clamped.rankId = 0
    · rw [rerank_of_affected (by simpa [hguid, grGuildMaster] using hmaster)]
      rw [hrank] at hmaster
      split at hmaster
      · omega
      next hexceeds =>
        rw [if_neg hexceeds, if_pos ⟨hmaster, rfl⟩]
        rfl
    · rw [rerank_of_not (by simp [hmaster, grGuildMaster]), hrank]
      rw [hrank] at hmaster
      split
      · rfl
      next hexceeds =>
        rw [if_neg hexceeds] at hmaster
        rw [if_neg fun hboth => hmaster hboth.1]

/-- Validation picks a leader and settles all members. -/
structure Settled (allowMultiple : Bool) (loaded : LoadedGuild) (guild : Guild) (leader : Member) :
    Prop where
  mem : leader ∈ clampedMembers loaded
  next : nextLeader loaded.leader (clampedMembers loaded) = some leader
  guid : guild.leaderGuid = leader.guid
  size : guild.ranks.size = loaded.size
  members : ∀ member, member ∈ guild.members ↔
    ∃ old ∈ loaded.members, settle allowMultiple loaded.size leader.guid old = member

theorem guild_validateMembers (world : World) {size : Nat}
    (hsize : world.guild.ranks.size = size) :
    (validateMembers world).guild =
      world.guild.rerank (exceeds size) (UInt32.ofNat (size - 1)).toUInt8 := by
  subst hsize
  exact guild_changeRanks world _ _

/-- The last pass: of the members whose ranks are possible now, only the leader is left a guild
master. -/
theorem LeaderRepaired.demoteMasters {before : Guild}
    (hmembers : before.members = clampedMembers loaded) (hsize : before.ranks.size = loaded.size)
    (hnext : nextLeader loaded.leader (clampedMembers loaded) = some leader)
    (hrepaired : LeaderRepaired before world.guild leader) (allowMultiple : Bool) :
    Settled allowMultiple loaded
      (updateAccountsNumber (demoteMasters allowMultiple world).guild) leader := by
  have hclamped : ∀ member, member ∈ world.guild.members ↔ ∃ old ∈ loaded.members,
      rerank (fun old => old.guid = leader.guid) grGuildMaster
        (rerank (exceeds loaded.size) (UInt32.ofNat (loaded.size - 1)).toUInt8 old) = member := by
    intro member
    rw [hrepaired.members, hmembers]
    constructor
    · rintro ⟨_, hmem, rfl⟩
      obtain ⟨old, hold, rfl⟩ := (Table.mem_map (key_rerank _ _)).mp hmem
      exact ⟨old, hold, rfl⟩
    · rintro ⟨old, hold, rfl⟩
      exact ⟨_, (Table.mem_map (key_rerank _ _)).mpr ⟨old, hold, rfl⟩, rfl⟩
  cases allowMultiple with
  | true =>
    exact ⟨hmembers ▸ hrepaired.mem, hnext, hrepaired.guid,
      (congrArg RankTable.size hrepaired.ranks).trans hsize, hclamped⟩
  | false =>
    have hguild : (Guilds.demoteMasters false world).guild = world.guild.rerank
        (fun member => member.rankId = grGuildMaster.toNat && member.guid ≠ leader.guid)
          grOfficer := by
      rw [← hrepaired.guid]
      exact guild_changeRanks world _ _
    refine ⟨hmembers ▸ hrepaired.mem, hnext, ?_, ?_, fun member => ?_⟩
    · exact (congrArg Guild.leaderGuid hguild).trans hrepaired.guid
    · exact (congrArg (RankTable.size ∘ Guild.ranks) hguild).trans
        ((congrArg RankTable.size hrepaired.ranks).trans hsize)
    · have hupdate :
          member ∈ (updateAccountsNumber (Guilds.demoteMasters false world).guild).members ↔
            member ∈ (Guilds.demoteMasters false world).guild.members := Iff.rfl
      rw [hupdate, hguild, mem_rerank]
      constructor
      · rintro ⟨_, hmem, rfl⟩
        obtain ⟨old, hold, rfl⟩ := (hclamped _).mp hmem
        exact ⟨old, hold, rfl⟩
      · rintro ⟨old, hold, rfl⟩
        exact ⟨_, (hclamped _).mpr ⟨old, hold, rfl⟩, rfl⟩

theorem validate_settles {trinityString : Nat → String} {allowMultiple : Bool} {realm : Realm}
    (hvalid : validate trinityString allowMultiple loaded realm = .live world) :
    ∃ leader, Settled allowMultiple loaded world.guild leader := by
  simp only [validate] at hvalid
  split at hvalid
  next after hafter =>
    obtain rfl := Status.live.inj hvalid
    -- The guild before the repair of the leader.
    have hclamped := guild_validateMembers
      { guild :=
          { id := loaded.id, leaderGuid := playerGuid loaded.leader
            ranks := (validateRanks trinityString loaded realm.db).1, members := loaded.members
            purchasedTabs := loaded.purchasedTabs, accountsNumber := 0 }
        realm := { realm with db := (validateRanks trinityString loaded realm.db).2 } }
      (size_validateRanks trinityString loaded realm.db)
    have hlow : guidLoPart (playerGuid loaded.leader) = loaded.leader :=
      guidLoPart_makeNewGuid_player loaded.leader
    obtain ⟨leader, hrepaired⟩ := validateLeader_repairs (by
      rw [hclamped]
      constructor
      · exact congrArg playerGuid hlow.symm
      · intro member hmember
        obtain ⟨old, hold, rfl⟩ := mem_rerank.mp hmember
        rw [rerank_guid]
        exact loaded.guids old hold) hafter
    rw [hclamped] at hrepaired
    have hnext : nextLeader loaded.leader (clampedMembers loaded) = some leader :=
      hlow ▸ hrepaired.next
    exact ⟨leader, hrepaired.demoteMasters rfl
      (size_validateRanks trinityString loaded realm.db) hnext allowMultiple⟩
  next hnot => exact absurd hvalid (hnot _)

/-- Validation that keeps the guild establishes the structure of ranks, members and leader exactly
if nobody but the next leader has the rank just beyond the last one, or is a guild master where
several are allowed. -/
theorem validate_establishes_iff_repairable (trinityString : Nat → String) (allowMultiple : Bool)
    (loaded : LoadedGuild) (realm : Realm) (world : World)
    (hvalid : validate trinityString allowMultiple loaded realm = .live world) :
    Established world.guild ↔ Repairable allowMultiple loaded := by
  obtain ⟨leader, hsettled⟩ := validate_settles hvalid
  have hmin := loaded.min_le_size
  have hmax := loaded.size_le_max
  have hrank : ∀ member : Member, member.guid ≠ leader.guid →
      _ := fun member hother => settle_other hmin hmax hother allowMultiple
  constructor
  · intro hestablished leader' hnext member hmember hother
    obtain rfl := Option.some.inj (hsettled.next.symm.trans hnext)
    have hmem := (hsettled.members _).mpr ⟨member, hmember, rfl⟩
    have hexists := hestablished.sound.ranks _ hmem
    have hunique := hestablished.sound.unique _ hmem (by rwa [settle_guid, hsettled.guid])
    rw [hrank member hother] at hexists hunique
    rw [hsettled.size] at hexists
    constructor
    · rintro heq
      rw [if_neg (by omega), if_neg (by omega)] at hexists
      omega
    · intro hallow hmaster
      have hzero : member.rankId = 0 := hmaster
      rw [if_neg (by omega), if_neg (by simp [hallow])] at hunique
      exact hunique hmaster
  · intro hrepairable
    refine ⟨world.guild.ranks.ids, ⟨world.guild.ranks.min_le_size, world.guild.ranks.size_le_max⟩,
      ?_, ?_, ?_⟩
    · obtain ⟨old, hold, hleader⟩ := (Table.mem_map (key_rerank _ _)).mp hsettled.mem
      have hguid : old.guid = leader.guid := by rw [← hleader, rerank_guid]
      refine ⟨_, (hsettled.members _).mpr ⟨old, hold, rfl⟩, ?_, ?_⟩
      · rw [settle_guid, hguid, hsettled.guid]
      · rw [← hguid]
        exact settle_leader allowMultiple loaded.size old
    · intro member hmember hother
      obtain ⟨old, hold, rfl⟩ := (hsettled.members member).mp hmember
      rw [settle_guid, hsettled.guid] at hother
      obtain ⟨-, hmaster⟩ := hrepairable leader hsettled.next old hold hother
      rw [hrank old hother]
      show _ ≠ 0
      simp only [guildRanksMinCount] at hmin
      split
      · omega
      · split
        · exact Nat.one_ne_zero
        next hofficer =>
          cases allowMultiple with
          | true => exact hmaster rfl
          | false => exact fun hzero => hofficer ⟨hzero, rfl⟩
    · intro member hmember
      obtain ⟨old, hold, rfl⟩ := (hsettled.members member).mp hmember
      rw [hsettled.size]
      simp only [guildRanksMinCount] at hmin
      by_cases hguid : old.guid = leader.guid
      · rw [← hguid, settle_leader]
        exact Nat.lt_of_lt_of_le (by decide) hmin
      · obtain ⟨hbeyond, -⟩ := hrepairable leader hsettled.next old hold hguid
        rw [hrank old hguid]
        split
        · omega
        · split <;> omega

/-! ## Two members -/

def loadedPair (rank : UInt8) : LoadedGuild where
  id := 1
  leader := 1
  ranks := defaultRanks.toList
  members :=
    { rows := [(1, 0), (2, rank)].map fun row => newMember (playerGuid row.1) row.2
        { name := "", level := 90, characterClass := 1, zoneId := 1519, accountId := 1 }
      nodup := by
        show [guidLoPart (playerGuid 1), guidLoPart (playerGuid 2)].Nodup
        decide }
  purchasedTabs := 0
  guids := by
    intro member hmember
    rcases List.mem_pair.mp hmember with rfl | rfl
    · show playerGuid 1 = playerGuid (guidLoPart (playerGuid 1))
      decide
    · show playerGuid 2 = playerGuid (guidLoPart (playerGuid 2))
      decide

/-- A member of rank five is left there, though there are five ranks. -/
theorem not_always_established :
    ¬ ∀ trinityString allowMultiple loaded realm world,
      validate trinityString allowMultiple loaded realm = .live world →
        Established world.guild := by
  intro hall
  have hranks := (hall (fun _ => "") false (loadedPair 5) (soloGuild 1 "").realm _ rfl).sound.ranks
  exact absurd (hranks (newMember (playerGuid 2) 5
    { name := "", level := 90, characterClass := 1, zoneId := 1519, accountId := 1 })
    (List.mem_cons_of_mem _ List.mem_cons_self)) (by decide)

/-- A member of rank nine becomes an initiate. -/
theorem established_clamped :
    ∃ world, validate (fun _ => "") false (loadedPair 9) (soloGuild 1 "").realm = .live world ∧
      Established world.guild := by
  refine ⟨_, rfl, ?_⟩
  apply (validate_establishes_iff_repairable (fun _ => "") false (loadedPair 9)
    (soloGuild 1 "").realm _ rfl).mpr
  intro leader _ member hmember _
  refine ⟨?_, fun hallow => nomatch hallow⟩
  rcases List.mem_pair.mp hmember with rfl | rfl
  · decide
  · decide

end MopServer.Guilds
