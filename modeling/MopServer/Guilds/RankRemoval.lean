import MopServer.Guilds.Leadership

/-! # Removing a rank

Erasing a rank shifts the ids of all lower ranks.  The renumbering loop moves the
database rows of the members along, but not the members in memory.  Bindings of
members to rank definitions therefore survive exactly when nobody holds a rank
below the removed one.
-/

namespace MopServer.Guilds

open MopServer.Foundation

/-- What a rank means for its holders: everything but its position. -/
structure RankDefinition where
  name : String
  rights : UInt32
  bankMoneyPerDay : UInt32
  bankTabRightsAndSlots : Vector GuildBankRightsAndSlots guildBankMaxTabs
  deriving DecidableEq

def RankInfo.definition (info : RankInfo) : RankDefinition :=
  ⟨info.name, info.rights, info.bankMoneyPerDay, info.bankTabRightsAndSlots⟩

def RankTable.definition? (ranks : RankTable) (rankId : Nat) : Option RankDefinition :=
  (ranks.getRankInfo rankId).map RankInfo.definition

/-- Every member's row of `guild_member` carries his in-memory rank. -/
def Saved (world : World) : Prop :=
  ∀ member ∈ world.guild.members, ∃ row,
    world.realm.db.guildMember (guidLoPart member.guid) = some row ∧
      row.guildId = world.guild.id ∧ row.rank = member.rankId

/-- A rank has disappeared from the rank table. -/
def RankRemoved (before after : World) : Prop :=
  after.guild.ranks.size < before.guild.ranks.size

/-- A correct removal: the guild master's rank stays, members of other ranks keep
their definition, members of the removed rank get the definition of the next
lower one, and memory and database agree. -/
structure RemovalCorrect (before after : World) (rankId : Nat) : Prop where
  master : RankRemoved before after → rankId ≠ grGuildMaster.toNat
  kept : ∀ member ∈ before.guild.members,
    ¬ (RankRemoved before after ∧ member.rankId = rankId) →
    ∃ current ∈ after.guild.members, current.guid = member.guid ∧
      after.guild.ranks.definition? current.rankId =
        before.guild.ranks.definition? member.rankId
  moved : ∀ member ∈ before.guild.members, RankRemoved before after → member.rankId = rankId →
    ∃ current ∈ after.guild.members, current.guid = member.guid ∧
      ∃ definition, before.guild.ranks.definition? (rankId + 1) = some definition ∧
        after.guild.ranks.definition? current.rankId = some definition
  saved : Saved after

/-- The request leaves a live guild in which the removal is correct. -/
def Status.RemovalCorrect (before : World) (rankId : Nat) : Status → Prop
  | .live after => Guilds.RemovalCorrect before after rankId
  | _ => False

/-! ## The renumbering loop -/

variable (guildId : UInt32) (i : Nat) (infos : List RankInfo) (db : Database)

theorem restructRanks_definitions :
    (restructRanks guildId i infos db).1.map RankInfo.definition =
      infos.map RankInfo.definition := by
  induction infos generalizing i db with
  | nil => rfl
  | cons info rest ih => simp [restructRanks, ih, RankInfo.definition]

theorem restructRanks_append (first second : List RankInfo) (db : Database) :
    (restructRanks guildId i (first ++ second) db).2 =
      (restructRanks guildId (i + first.length) second
        (restructRanks guildId i first db).2).2 := by
  induction first generalizing i db with
  | nil => rfl
  | cons info rest ih =>
    simp only [List.cons_append, restructRanks, ih, List.length_cons]
    congr 2
    omega

/-- Ranks that already have their index as id cause no database statement. -/
theorem restructRanks_of_ids (hids : infos.map RankInfo.id = List.range' i infos.length) :
    (restructRanks guildId i infos db).2 = db := by
  induction infos generalizing i db with
  | nil => rfl
  | cons info rest ih =>
    simp only [List.map_cons, List.length_cons, List.range'_succ, List.cons.injEq] at hids
    simp only [restructRanks, hids.1, ne_eq, not_true, if_false]
    exact ih (i + 1) db hids.2

/-- The rank stored in a row after the ids `i + 1, …, i + n` moved up by one. -/
def movedUp (n rank : Nat) : Nat :=
  if i < rank ∧ rank ≤ i + n then rank - 1 else rank

theorem updateRankId_guildMember (guildId : UInt32) (old new : Nat) (low : UInt32) :
    (updateRankId db guildId old new).guildMember low =
      (db.guildMember low).map fun row =>
        if row.guildId = guildId ∧ row.rank = old % 256 then { row with rank := new % 256 }
        else row := rfl

/-- Ranks whose ids are one too large take the rows of their holders along. -/
theorem restructRanks_guildMember (hids : infos.map RankInfo.id = List.range' (i + 1) infos.length)
    (hbound : i + infos.length < 256) (low : UInt32) (row : GuildMemberRow)
    (hrow : db.guildMember low = some row) (hguild : row.guildId = guildId) :
    (restructRanks guildId i infos db).2.guildMember low =
      some { row with rank := movedUp i infos.length row.rank } := by
  induction infos generalizing i db row with
  | nil =>
    have hrank : movedUp i 0 row.rank = row.rank := if_neg (by omega)
    simp [restructRanks, hrow, hrank]
  | cons info rest ih =>
    simp only [List.map_cons, List.length_cons, List.range'_succ, List.cons.injEq] at hids
    simp only [List.length_cons] at hbound
    have hne : info.id ≠ i := by omega
    -- The statement for this rank touches the row only if the row carries its id.
    have hhead : (updateRankId db guildId info.id i).guildMember low =
        some { row with rank := if row.rank = i + 1 then i else row.rank } := by
      rw [updateRankId_guildMember, hrow, Option.map_some, hids.1,
        Nat.mod_eq_of_lt (show i + 1 < 256 by omega), Nat.mod_eq_of_lt (show i < 256 by omega)]
      by_cases hrank : row.rank = i + 1
      · rw [if_pos ⟨hguild, hrank⟩, if_pos hrank]
      · rw [if_neg fun hboth => hrank hboth.2, if_neg hrank]
    simp only [restructRanks, ne_eq, hne, not_false_eq_true, if_true]
    rw [ih (i + 1) _ hids.2 (by omega) _ hhead hguild]
    have hmoved : movedUp (i + 1) rest.length (if row.rank = i + 1 then i else row.rank) =
        movedUp i (rest.length + 1) row.rank := by
      unfold movedUp
      split_ifs <;> omega
    simp [hmoved]

/-! ## One removal -/

variable (ranks : RankTable)

theorem RankTable.ids_take (index : Nat) (hindex : index < ranks.size) :
    (ranks.toList.take index).map RankInfo.id =
      List.range' 0 (ranks.toList.take index).length := by
  have hlength : (ranks.toList.take index).length = index :=
    List.length_take_of_le (Nat.le_of_lt hindex)
  rw [List.map_take, ranks.ids, List.take_range, hlength, ← List.range_eq_range']
  exact congrArg List.range (min_eq_left (Nat.le_of_lt hindex))

theorem RankTable.ids_drop (index : Nat) :
    (ranks.toList.drop (index + 1)).map RankInfo.id =
      List.range' (index + 1) (ranks.toList.drop (index + 1)).length := by
  rw [List.map_drop, ranks.ids, List.range_eq_range', List.drop_range', List.length_drop,
    Nat.zero_add, Nat.mul_one]

/-- The renumbering after an erasure moves the rows of all holders of lower ranks
up by one and leaves every other row of the guild alone. -/
theorem restructRanks_eraseIdx_guildMember (guildId : UInt32) (index : Nat)
    (hindex : index < ranks.size) (db : Database) (low : UInt32) (row : GuildMemberRow)
    (hrow : db.guildMember low = some row) (hguild : row.guildId = guildId)
    (hrank : row.rank < ranks.size) :
    (restructRanks guildId 0 (ranks.toList.eraseIdx index) db).2.guildMember low =
      some { row with rank := if index < row.rank then row.rank - 1 else row.rank } := by
  have hmax := ranks.size_le_max
  have htake : (ranks.toList.take index).length = index :=
    List.length_take_of_le (Nat.le_of_lt hindex)
  have hdrop : (ranks.toList.drop (index + 1)).length = ranks.size - (index + 1) := List.length_drop
  simp only [guildRanksMaxCount] at hmax
  rw [List.eraseIdx_eq_take_drop_succ, restructRanks_append,
    restructRanks_of_ids guildId 0 _ db (ranks.ids_take index hindex), htake, Nat.zero_add,
    restructRanks_guildMember guildId index _ db (ranks.ids_drop index) (by omega) low row
      hrow hguild]
  have hmoved : movedUp index (ranks.toList.drop (index + 1)).length row.rank =
      if index < row.rank then row.rank - 1 else row.rank := by
    unfold movedUp
    split_ifs <;> omega
  rw [hmoved]

section Removal

variable {world : World} {rankId : UInt32} {hindex : rankId.toNat < world.guild.ranks.size}
  {hsize : guildRanksMinCount < world.guild.ranks.size}

theorem rankRemoved_removeRank : RankRemoved world (removeRank world rankId hindex hsize) := by
  have hlength : (removeRank world rankId hindex hsize).guild.ranks.size =
      world.guild.ranks.size - 1 := size_removeAt _ _ _ _ hindex hsize
  rw [RankRemoved, hlength]
  exact Nat.sub_lt world.guild.ranks.size_pos one_pos

/-- The definitions after a removal: ids above the removed one keep theirs, the
others get that of the next id. -/
theorem definition?_removeRank (id : Nat) :
    (removeRank world rankId hindex hsize).guild.ranks.definition? id =
      world.guild.ranks.definition? (if id < rankId.toNat then id else id + 1) := by
  unfold RankTable.definition? RankTable.getRankInfo removeRank RankTable.removeAt
  rw [← List.getElem?_map, ← List.getElem?_map, restructRanks_definitions,
    ← List.eraseIdx_map, List.getElem?_eraseIdx]
  split <;> rfl

theorem guildMember_removeRank (hranks : RanksExist world.guild) (hsaved : Saved world)
    {member : Member} (hmember : member ∈ world.guild.members) :
    (removeRank world rankId hindex hsize).realm.db.guildMember (guidLoPart member.guid) =
      some { guildId := world.guild.id
             rank := if rankId.toNat < member.rankId then member.rankId - 1
               else member.rankId } := by
  obtain ⟨⟨guildId, rank⟩, hrow, rfl, rfl⟩ := hsaved member hmember
  exact restructRanks_eraseIdx_guildMember world.guild.ranks world.guild.id _ hindex
    (world.realm.db.deleteRank rankId.toUInt8) _ _ hrow rfl (hranks member hmember)

end Removal

/-- Nobody is affected by removing a rank: it exists, it is not the guild master's,
nobody has a lower rank, and its holders have a next lower rank to fall to. -/
def Removable (guild : Guild) (rankId : Nat) : Prop :=
  rankId ≠ grGuildMaster.toNat ∧ rankId < guild.ranks.size ∧
    ∀ member ∈ guild.members, member.rankId ≤ rankId ∧
      (member.rankId = rankId → rankId + 1 < guild.ranks.size)

theorem RankTable.exists_definition? {ranks : RankTable} {rankId : Nat}
    (hrank : rankId < ranks.size) : ∃ definition, ranks.definition? rankId = some definition := by
  refine ⟨ranks.toList[rankId].definition, ?_⟩
  unfold RankTable.definition? RankTable.getRankInfo
  rw [List.getElem?_eq_getElem hrank, Option.map_some]

theorem RankTable.lt_size_of_definition? {ranks : RankTable} {rankId : Nat}
    {definition : RankDefinition} (hdefinition : ranks.definition? rankId = some definition) :
    rankId < ranks.size := by
  obtain ⟨info, hinfo, -⟩ := Option.map_eq_some_iff.mp hdefinition
  exact (List.getElem?_eq_some_iff.mp hinfo).1

/-- A removal that takes place is correct exactly if nobody is affected. -/
theorem removeRank_correct_iff {world : World} (rankId : UInt32)
    (hindex : rankId.toNat < world.guild.ranks.size)
    (hsize : guildRanksMinCount < world.guild.ranks.size) (hranks : RanksExist world.guild)
    (hsaved : Saved world) :
    RemovalCorrect world (removeRank world rankId hindex hsize) rankId.toNat ↔
      Removable world.guild rankId.toNat := by
  constructor
  · intro hcorrect
    refine ⟨hcorrect.master rankRemoved_removeRank, hindex, fun member hmember => ⟨?_, ?_⟩⟩
    · -- The row of a lower rank moves up while the member in memory does not.
      obtain ⟨row, hrow, -, hagree⟩ := hcorrect.saved member hmember
      rw [guildMember_removeRank hranks hsaved hmember] at hrow
      obtain rfl := Option.some.inj hrow
      by_contra hlower
      simp only [if_pos (Nat.lt_of_not_le hlower)] at hagree
      omega
    · intro heq
      obtain ⟨_, _, _, definition, hdefinition, _⟩ :=
        hcorrect.moved member hmember rankRemoved_removeRank heq
      exact RankTable.lt_size_of_definition? hdefinition
  · rintro ⟨hmaster, -, hmembers⟩
    refine ⟨fun _ => hmaster, ?_, ?_, ?_⟩
    · intro member hmember hother
      have hne : member.rankId ≠ rankId.toNat := fun heq => hother ⟨rankRemoved_removeRank, heq⟩
      refine ⟨member, hmember, rfl, ?_⟩
      rw [definition?_removeRank, if_pos (lt_of_le_of_ne (hmembers member hmember).1 hne)]
    · intro member hmember _ heq
      obtain ⟨definition, hdefinition⟩ :=
        RankTable.exists_definition? ((hmembers member hmember).2 heq)
      refine ⟨member, hmember, rfl, definition, hdefinition, ?_⟩
      rw [definition?_removeRank, heq, if_neg (lt_irrefl _), hdefinition]
    · intro member hmember
      refine ⟨_, guildMember_removeRank hranks hsaved hmember, rfl, ?_⟩
      exact if_neg (Nat.not_lt_of_le (hmembers member hmember).1)

/-- A rank removal by the guild master keeps all bindings and the database in step
exactly if the table is at its minimum, and nothing happens, or nobody is
affected. -/
theorem removal_correct_iff_removable (world : World) (player : Player) (rankId : UInt32)
    (hmaster : isLeader world.guild player = true) (hranks : RanksExist world.guild)
    (hsaved : Saved world) :
    (handleRemoveRank world player rankId).status.RemovalCorrect world rankId.toNat ↔
      world.guild.ranks.size ≤ guildRanksMinCount ∨ Removable world.guild rankId.toNat := by
  unfold handleRemoveRank
  by_cases hsize : guildRanksMinCount < world.guild.ranks.size
  · rw [dif_pos hsize, if_neg (not_not.mpr hmaster), or_iff_right (Nat.not_le_of_lt hsize)]
    by_cases hindex : rankId.toNat < world.guild.ranks.size
    · rw [dif_pos hindex]
      exact removeRank_correct_iff rankId hindex hsize hranks hsaved
    · rw [dif_neg hindex]
      exact iff_of_false id fun hremovable => hindex hremovable.2.1
  · rw [dif_neg hsize]
    refine iff_of_true ⟨?_, ?_, ?_, hsaved⟩ (.inl (Nat.le_of_not_lt hsize))
    · exact fun hremoved => absurd hremoved (lt_irrefl _)
    · exact fun member hmember _ => ⟨member, hmember, rfl, rfl⟩
    · exact fun _ _ hremoved => absurd hremoved (lt_irrefl _)

/-- A guild of six ranks with its leader and one member of a given rank, both
saved. -/
def pairGuild (rank : UInt8) : World where
  guild :=
    { id := 1, leaderGuid := 1, purchasedTabs := 0, accountsNumber := 1
      ranks := defaultRanks.push
        { id := 5, name := "Recruit", rights := grRightEmpty, bankMoneyPerDay := 0
          bankTabRightsAndSlots := Vector.replicate _ {} } rfl (by decide)
      members := (Table.empty.insert (newMember 1 grGuildMaster pairCharacter)
        (Rearrangement.keep Member)).insert (newMember 2 rank pairCharacter)
        (Rearrangement.keep Member) }
  realm :=
    { players := fun _ => none
      db :=
        { characters := fun _ => none
          guildMember := fun low =>
            if low = 1 then some { guildId := 1, rank := 0 }
            else if low = 2 then some { guildId := 1, rank := rank.toNat } else none
          guildLeader := 1, guildRank := fun _ => none, guildBankRight := fun _ _ => none } }
where
  /-- The character data shared by both members. -/
  pairCharacter : CharacterRow :=
    { name := "", level := 90, characterClass := 1, zoneId := 1519, accountId := 1 }

theorem mem_pairGuild {rank : UInt8} {member : Member} :
    member ∈ (pairGuild rank).guild.members ↔
      member = newMember 2 rank pairGuild.pairCharacter ∨
        member = newMember 1 grGuildMaster pairGuild.pairCharacter := by
  simp only [pairGuild]
  rw [Table.mem_insert, Table.mem_insert]
  constructor
  · rintro (hnew | ⟨hold | ⟨hempty, -⟩, -⟩)
    · exact .inl hnew
    · exact .inr hold
    · exact absurd hempty List.not_mem_nil
  · rintro (hnew | rfl)
    · exact .inl hnew
    · exact .inr ⟨.inl rfl, show guidLoPart 1 ≠ guidLoPart 2 by decide⟩

theorem pairGuild_saved (rank : UInt8) : Saved (pairGuild rank) := by
  intro member hmember
  rcases mem_pairGuild.mp hmember with rfl | rfl
  · exact ⟨_, rfl, rfl, rfl⟩
  · exact ⟨_, rfl, rfl, rfl⟩

theorem pairGuild_ranksExist {rank : UInt8} (hrank : rank.toNat < 6) :
    RanksExist (pairGuild rank).guild := by
  intro member hmember
  rcases mem_pairGuild.mp hmember with rfl | rfl
  · exact hrank
  · exact RankTable.size_pos _

def pairLeader : Player where
  guid := 1
  name := ""
  level := 90
  characterClass := 1
  zoneId := 1519
  accountId := 1
  inWorld := true
  guildId := 1
  rank := 0

/-- Removing rank three while a member holds rank four leaves that member at rank
four in memory and at rank three in the database. -/
theorem removal_splits_memory_from_database :
    Saved (pairGuild 4) ∧ isLeader (pairGuild 4).guild pairLeader = true ∧
      ¬ (handleRemoveRank (pairGuild 4) pairLeader 3).status.RemovalCorrect (pairGuild 4) 3 := by
  refine ⟨pairGuild_saved 4, rfl, fun hcorrect => ?_⟩
  obtain ⟨row, hrow, -, hrank⟩ := hcorrect.saved _ (mem_pairGuild.mpr (.inl rfl))
  obtain rfl : (⟨1, 3⟩ : GuildMemberRow) = row := Option.some.inj hrow
  exact absurd hrank (by decide)

/-- Removing the fifth rank while the members hold ranks zero and three. -/
theorem removal_correct_lowest_but_one :
    Removable (pairGuild 3).guild 4 ∧
      (handleRemoveRank (pairGuild 3) pairLeader 4).status.RemovalCorrect (pairGuild 3) 4 := by
  have hremovable : Removable (pairGuild 3).guild 4 := by
    refine ⟨by decide, by decide, fun member hmember => ?_⟩
    rcases mem_pairGuild.mp hmember with rfl | rfl <;> decide
  exact ⟨hremovable, (removal_correct_iff_removable (pairGuild 3) pairLeader 4 rfl
    (pairGuild_ranksExist (by decide)) (pairGuild_saved 3)).mpr (.inr hremovable)⟩

end MopServer.Guilds
