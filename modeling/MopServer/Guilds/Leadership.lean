import MopServer.Foundation.Run
import MopServer.Guilds.Guild

/-! # Leadership and rank validity over runs of guild calls

A guild is sound when its leader is the one member of rank zero and every member
has an existing rank.  For each call we determine exactly when it keeps a sound
guild sound; the runs that keep the guild sound are then the runs of such calls.
-/

namespace MopServer.Guilds

open MopServer.Foundation

/-- The calls that touch the leader, the ranks or the members.  Client requests
name the acting player. -/
inductive Call where
  | setLeader (actor : UInt64) (name : String)
  | switchGuildLeader (newLeaderGuid : UInt64)
  | setMemberRank (actor target setter : UInt64) (rank : UInt32)
  | removeMember (actor guid : UInt64)
  | addMember (guid : UInt64) (rankId : UInt8) (rehash : Rearrangement Member)
  | deleteMember (guid : UInt64) (isDisbanding : Bool)
  | addNewRank (actor : UInt64) (name : String)
  | removeRank (actor : UInt64) (rankId : UInt32)
  | swapRanks (id : UInt32) (up : Bool)

variable (world : World)

/-- Serve a client request; without a logged-in player there is no request. -/
def request (actor : UInt64) (handler : Player → Response) : Status :=
  match world.realm.players actor with
  | none => .live world
  | some player => (handler player).status

/-- One call on a live guild. -/
def call : Call → Status
  | .setLeader actor name =>
    request world actor fun player => handleSetLeader world player name
  | .switchGuildLeader guid => .live (switchGuildLeader world guid).1
  | .setMemberRank actor target setter rank =>
    request world actor fun player => handleSetMemberRank world player target setter rank
  | .removeMember actor guid =>
    request world actor fun player => handleRemoveMember world player guid
  | .addMember guid rankId rehash => .live (addMember world guid rankId rehash).1
  | .deleteMember guid isDisbanding => deleteMember world guid isDisbanding
  | .addNewRank actor name =>
    request world actor fun player => handleAddNewRank world player name
  | .removeRank actor rankId =>
    request world actor fun player => handleRemoveRank world player rankId
  | .swapRanks id up => .live (handleSwapRanks world id up)

/-- One call on the guild as the server holds it; a disbanded guild receives no
further calls. -/
def step : Status → Call → Status
  | .live world, event => call world event
  | status, _ => status

variable (guild : Guild)

/-- The leader names a member of rank guild master. -/
def HasLeader : Prop :=
  ∃ member ∈ guild.members,
    member.guid = guild.leaderGuid ∧ member.rankId = grGuildMaster.toNat

/-- No other member has rank guild master. -/
def UniqueLeader : Prop :=
  ∀ member ∈ guild.members,
    member.guid ≠ guild.leaderGuid → member.rankId ≠ grGuildMaster.toNat

/-- Every member's rank exists. -/
def RanksExist : Prop :=
  ∀ member ∈ guild.members, member.rankId < guild.ranks.size

structure Sound (guild : Guild) : Prop where
  leader : HasLeader guild
  unique : UniqueLeader guild
  ranks : RanksExist guild

/-- A guild is sound as long as it exists; undefined behaviour never is. -/
def Status.Sound : Status → Prop
  | .live world => Guilds.Sound world.guild
  | .disbanded _ => True
  | .undefinedBehaviour => False

/-- The checks of `HandleSetMemberRank` all pass. -/
structure RankChangeAccepted (guild : Guild) (player : Player) (target setter : UInt64)
    (rank : UInt32) (member : Member) : Prop where
  target : getMember guild target = some member
  right : hasRankRight guild player (rankChangeRight member rank) = true
  setter : ∃ acting, getMember guild setter = some acting ∧
    ¬ (acting.rankId ≠ 1 ∧ acting.rankId ≥ member.rankId)
  other : member.guid ≠ player.guid

/-- A rank that may be stored for a player: rank zero for the leader, an existing
lower rank for anybody else. -/
def RankFits (guid : UInt64) (rank : UInt8) : Prop :=
  if guid = guild.leaderGuid then rank = grGuildMaster
  else rank ≠ grGuildMaster ∧ rank.toNat < guild.ranks.size

/-- The condition under which a call keeps a sound guild sound. -/
def Allowed : Call → Prop
  | .setLeader actor name =>
    ∀ player newLeader, world.realm.players actor = some player →
      isLeader world.guild player = true →
      getMemberByName world.guild name = some newLeader →
      getMember world.guild player.guid ≠ some newLeader
  | .switchGuildLeader guid =>
    (getMember world.guild guid).isSome →
      guidLoPart guid ≠ guidLoPart world.guild.leaderGuid
  | .setMemberRank actor target setter rank =>
    ∀ player member, world.realm.players actor = some player →
      RankChangeAccepted world.guild player target setter rank member →
      RankFits world.guild member.guid rank.toUInt8
  | .removeMember _ _ => True
  | .addMember guid rankId _ =>
    currentGuildId world.realm guid = 0 → (memberStats world.realm guid).isSome →
      (guidLoPart guid = guidLoPart world.guild.leaderGuid →
        guid = world.guild.leaderGuid) ∧
      RankFits world.guild guid (assignedRank world.guild rankId)
  | .deleteMember guid isDisbanding =>
    guid = world.guild.leaderGuid ∧ ¬ isDisbanding ∨
      guidLoPart guid ≠ guidLoPart world.guild.leaderGuid
  | .addNewRank _ _ => True
  | .removeRank actor rankId =>
    ∀ player, world.realm.players actor = some player →
      guildRanksMinCount < world.guild.ranks.size →
      isLeader world.guild player = true →
      rankId.toNat < world.guild.ranks.size ∧
        ∀ member ∈ world.guild.members, member.rankId < world.guild.ranks.size - 1
  | .swapRanks _ _ => True

/-- Calls on a guild that no longer exists are harmless. -/
def Status.Allowed : Status → Call → Prop
  | .live world, event => Guilds.Allowed world event
  | _, _ => True

/-! ## Elementary changes of a sound guild -/

variable {guild : Guild} {member newLeader : Member} {world : World}

theorem sound_congr {other : Guild} (hleader : other.leaderGuid = guild.leaderGuid)
    (hmembers : other.members = guild.members) (hsize : other.ranks.size = guild.ranks.size) :
    Sound other ↔ Sound guild := by
  constructor
  · rintro ⟨hlead, hunique, hranks⟩
    simp only [HasLeader, UniqueLeader, RanksExist, hleader, hmembers, hsize]
      at hlead hunique hranks
    exact ⟨hlead, hunique, hranks⟩
  · rintro ⟨hlead, hunique, hranks⟩
    refine ⟨?_, ?_, ?_⟩
    · simpa only [HasLeader, hleader, hmembers] using hlead
    · simpa only [UniqueLeader, hleader, hmembers] using hunique
    · simpa only [RanksExist, hmembers, hsize] using hranks

theorem Sound.exists_leader (hsound : Sound guild) :
    ∃ leader, getMember guild guild.leaderGuid = some leader ∧ leader ∈ guild.members ∧
      leader.guid = guild.leaderGuid ∧ leader.rankId = 0 := by
  obtain ⟨leader, hmem, hguid, hrank⟩ := hsound.leader
  refine ⟨leader, ?_, hmem, hguid, hrank⟩
  exact Table.get?_eq_some_iff.mpr ⟨hmem, by rw [Member.key_eq, hguid]⟩

theorem getMember_eq_some_iff {guid : UInt64} :
    getMember guild guid = some member ↔
      member ∈ guild.members ∧ guidLoPart member.guid = guidLoPart guid :=
  Table.get?_eq_some_iff

/-- In a sound guild a member of rank zero, and a member that shares the leader's
low guid, is the leader. -/
theorem Sound.guid_eq_of_rank (hsound : Sound guild) (hmem : member ∈ guild.members)
    (hrank : member.rankId = 0) : member.guid = guild.leaderGuid := by
  by_contra hne
  exact hsound.unique member hmem hne hrank

theorem Sound.guid_eq_of_low (hsound : Sound guild) (hmem : member ∈ guild.members)
    (hlow : guidLoPart member.guid = guidLoPart guild.leaderGuid) :
    member.guid = guild.leaderGuid ∧ member.rankId = 0 := by
  obtain ⟨leader, -, hleader, hguid, hrank⟩ := hsound.exists_leader
  have heq : member = leader := Table.eq_of_key_eq hmem hleader (by
    rw [Member.key_eq, Member.key_eq, hlow, hguid])
  exact heq ▸ ⟨hguid, hrank⟩

theorem mem_setRank {low : UInt32} {rank : UInt8} :
    member ∈ (guild.setRank low rank).members ↔
      (∃ old ∈ guild.members, guidLoPart old.guid = low ∧ member = old.withRank rank) ∨
        member ∈ guild.members ∧ guidLoPart member.guid ≠ low := by
  have hmodify : member ∈ (guild.setRank low rank).members ↔
      ∃ old ∈ guild.members,
        (if guidLoPart old.guid = low then old.withRank rank else old) = member := by
    exact Table.mem_modify (Member.key_withRank rank)
  rw [hmodify]
  constructor
  · rintro ⟨old, hold, rfl⟩
    by_cases hlow : guidLoPart old.guid = low
    · exact .inl ⟨old, hold, hlow, if_pos hlow⟩
    · rw [if_neg hlow]
      exact .inr ⟨hold, hlow⟩
  · rintro (⟨old, hold, hlow, rfl⟩ | ⟨hmem, hlow⟩)
    · exact ⟨old, hold, if_pos hlow⟩
    · exact ⟨member, hmem, if_neg hlow⟩

theorem toNat_eq_zero_iff {rank : UInt8} : rank.toNat = 0 ↔ rank = grGuildMaster := by
  rw [← UInt8.toNat_inj]
  rfl

/-- Storing a rank for one member keeps the guild sound exactly if the rank fits
that member. -/
theorem sound_setRank_iff (hsound : Sound guild) (hmem : member ∈ guild.members) (rank : UInt8) :
    Sound (guild.setRank (guidLoPart member.guid) rank) ↔ RankFits guild member.guid rank := by
  have hself : member.withRank rank ∈
      (guild.setRank (guidLoPart member.guid) rank).members :=
    mem_setRank.mpr (.inl ⟨member, hmem, rfl, rfl⟩)
  constructor
  · intro hafter
    unfold RankFits
    split
    next hguid =>
      exact toNat_eq_zero_iff.mp (hafter.guid_eq_of_low hself (congrArg guidLoPart hguid)).2
    next hguid =>
      exact ⟨fun hrank => hafter.unique _ hself hguid (toNat_eq_zero_iff.mpr hrank),
        hafter.ranks _ hself⟩
  · intro hfits
    unfold RankFits at hfits
    obtain ⟨leader, -, hleader, hleaderGuid, hleaderRank⟩ := hsound.exists_leader
    refine ⟨?_, ?_, ?_⟩
    · by_cases hlow : guidLoPart leader.guid = guidLoPart member.guid
      · have hguid : member.guid = guild.leaderGuid :=
          (hsound.guid_eq_of_low hmem (by rw [← hlow, hleaderGuid])).1
        rw [if_pos hguid] at hfits
        exact ⟨_, hself, hguid, toNat_eq_zero_iff.mpr hfits⟩
      · exact ⟨leader, mem_setRank.mpr (.inr ⟨hleader, hlow⟩), hleaderGuid, hleaderRank⟩
    · intro other hother hguid
      rcases mem_setRank.mp hother with ⟨old, hold, hlow, rfl⟩ | ⟨hold, -⟩
      · obtain rfl : old = member := Table.eq_of_key_eq hold hmem hlow
        have hfits := (if_neg (show ¬ old.guid = guild.leaderGuid from hguid)).mp hfits
        exact fun hrank => hfits.1 (toNat_eq_zero_iff.mp hrank)
      · exact hsound.unique other hold hguid
    · intro other hother
      rcases mem_setRank.mp hother with ⟨old, hold, hlow, rfl⟩ | ⟨hold, -⟩
      · obtain rfl : old = member := Table.eq_of_key_eq hold hmem hlow
        split at hfits
        · exact (toNat_eq_zero_iff.mpr hfits).trans_lt guild.ranks.size_pos
        · exact hfits.2
      · exact hsound.ranks other hold

variable (hsound : Sound world.guild)

include hsound in
/-- Handing the guild over to a member keeps it sound exactly if that member is
not the leader himself, who would be demoted right after his promotion. -/
theorem sound_passLeadership_iff {oldLeader : Member} (hold : oldLeader ∈ world.guild.members)
    (holdGuid : oldLeader.guid = world.guild.leaderGuid) (hnew : newLeader ∈ world.guild.members) :
    Sound (passLeadership world oldLeader newLeader).guild ↔ newLeader ≠ oldLeader := by
  -- The guild part of the handover, as two stored ranks under the new leader guid.
  have hguild : (passLeadership world oldLeader newLeader).guild =
      (Guild.setRank { world.guild with leaderGuid := newLeader.guid }
        (guidLoPart newLeader.guid) grGuildMaster).setRank
          (guidLoPart oldLeader.guid) grOfficer := rfl
  rw [hguild]
  constructor
  · rintro hafter rfl
    have hself : newLeader.withRank grGuildMaster ∈ (Guild.setRank
        { world.guild with leaderGuid := newLeader.guid } (guidLoPart newLeader.guid)
        grGuildMaster).members := mem_setRank.mpr (.inl ⟨newLeader, hnew, rfl, rfl⟩)
    have hdemoted : (newLeader.withRank grGuildMaster).withRank grOfficer ∈ (Guild.setRank
        (Guild.setRank { world.guild with leaderGuid := newLeader.guid }
          (guidLoPart newLeader.guid) grGuildMaster)
        (guidLoPart newLeader.guid) grOfficer).members :=
      mem_setRank.mpr (.inl ⟨_, hself, rfl, rfl⟩)
    have hrank := (hafter.guid_eq_of_low hdemoted rfl).2
    simp [grOfficer] at hrank
  · intro hne
    have hlow : guidLoPart newLeader.guid ≠ guidLoPart oldLeader.guid :=
      fun heq => hne (Table.eq_of_key_eq hnew hold heq)
    have hsize := world.guild.ranks.min_le_size
    refine ⟨⟨newLeader.withRank grGuildMaster, mem_setRank.mpr (.inr
      ⟨mem_setRank.mpr (.inl ⟨newLeader, hnew, rfl, rfl⟩), hlow⟩), rfl, rfl⟩, ?_, ?_⟩
    · intro member hmember hguid
      rcases mem_setRank.mp hmember with ⟨_, _, _, rfl⟩ | ⟨hmember, hnotOld⟩
      · simp [grOfficer, grGuildMaster]
      · rcases mem_setRank.mp hmember with ⟨promoted, hpromoted, hpromotedLow, rfl⟩ |
          ⟨hmember, -⟩
        · obtain rfl : promoted = newLeader :=
            Table.eq_of_key_eq (show promoted ∈ world.guild.members from hpromoted) hnew
              hpromotedLow
          exact absurd rfl hguid
        · refine hsound.unique member hmember fun hleader => hnotOld ?_
          rw [hleader, holdGuid]
    · intro member hmember
      rcases mem_setRank.mp hmember with ⟨_, _, _, rfl⟩ | ⟨hmember, -⟩
      · simp only [Member.withRank_rankId, grOfficer]
        exact lt_of_lt_of_le (by decide) hsize
      · rcases mem_setRank.mp hmember with ⟨_, _, _, rfl⟩ | ⟨hmember, -⟩
        · simp only [Member.withRank_rankId, grGuildMaster]
          exact lt_of_lt_of_le (by decide) hsize
        · exact hsound.ranks member hmember

variable (guid : UInt64)

include hsound in
/-- Dropping a member without a succession keeps the guild sound exactly if it is
not the leader's entry. -/
theorem sound_dropMember_iff :
    Sound (dropMember world guid).guild ↔
      guidLoPart guid ≠ guidLoPart world.guild.leaderGuid := by
  have hmem : ∀ {member : Member}, member ∈ (dropMember world guid).guild.members ↔
      member ∈ world.guild.members ∧ guidLoPart member.guid ≠ guidLoPart guid :=
    Table.mem_erase
  constructor
  · intro hafter hlow
    obtain ⟨leader, hleader, hguid, -⟩ := hafter.leader
    exact (hmem.mp hleader).2 ((congrArg guidLoPart hguid).trans hlow.symm)
  · intro hlow
    obtain ⟨leader, -, hleader, hguid, hrank⟩ := hsound.exists_leader
    refine ⟨⟨leader, hmem.mpr ⟨hleader, ?_⟩, hguid, hrank⟩, ?_, ?_⟩
    · rw [hguid]
      exact hlow.symm
    · exact fun member hmember => hsound.unique member (hmem.mp hmember).1
    · exact fun member hmember => hsound.ranks member (hmem.mp hmember).1

theorem sound_updateAccountsNumber_iff : Sound (updateAccountsNumber guild) ↔ Sound guild :=
  sound_congr rfl rfl rfl

/-- The loop of `DeleteMember` picks a member other than the deleted one. -/
theorem successor_mem {low : UInt32} {members : List Member}
    (hnew : successor low members = some newLeader) :
    newLeader ∈ members ∧ guidLoPart newLeader.guid ≠ low := by
  -- The candidate carried by the loop has been seen and is never the deleted member.
  have hloop : ∀ best, successor low members = some best →
      best ∈ members ∧ guidLoPart best.guid ≠ low := by
    refine List.foldlRecOn (motive := fun candidate => ∀ best, candidate = some best →
      best ∈ members ∧ guidLoPart best.guid ≠ low) members (betterLeader low) (by simp) ?_
    intro candidate hcandidate member hmember best hbest
    unfold betterLeader at hbest
    split at hbest
    · exact hcandidate best hbest
    next hlow =>
      split at hbest
      · obtain rfl : member = best := Option.some.inj hbest
        exact ⟨hmember, hlow⟩
      · split at hbest
        · obtain rfl : member = best := Option.some.inj hbest
          exact ⟨hmember, hlow⟩
        · exact hcandidate best hbest
  exact hloop newLeader hnew

include hsound in
theorem sound_succession (hnew : newLeader ∈ world.guild.members)
    (hlow : guidLoPart newLeader.guid ≠ guidLoPart world.guild.leaderGuid) :
    Sound (dropMember (setLeaderGuid world newLeader) world.guild.leaderGuid).guild := by
  have hmem : ∀ {member : Member}, member ∈
      (dropMember (setLeaderGuid world newLeader) world.guild.leaderGuid).guild.members ↔
      member ∈ (Guild.setRank { world.guild with leaderGuid := newLeader.guid }
        (guidLoPart newLeader.guid) grGuildMaster).members ∧
      guidLoPart member.guid ≠ guidLoPart world.guild.leaderGuid := Table.mem_erase
  refine ⟨⟨newLeader.withRank grGuildMaster,
    hmem.mpr ⟨mem_setRank.mpr (.inl ⟨newLeader, hnew, rfl, rfl⟩), hlow⟩, rfl, rfl⟩, ?_, ?_⟩
  · intro member hmember hguid
    obtain ⟨hmember, hnotOld⟩ := hmem.mp hmember
    rcases mem_setRank.mp hmember with ⟨promoted, hpromoted, hpromotedLow, rfl⟩ | ⟨hmember, -⟩
    · obtain rfl : promoted = newLeader :=
        Table.eq_of_key_eq (show promoted ∈ world.guild.members from hpromoted) hnew
          hpromotedLow
      exact absurd rfl hguid
    · exact hsound.unique member hmember fun hleader =>
        hnotOld (congrArg guidLoPart hleader)
  · intro member hmember
    rcases mem_setRank.mp (hmem.mp hmember).1 with ⟨_, _, _, rfl⟩ | ⟨hmember, -⟩
    · exact world.guild.ranks.size_pos
    · exact hsound.ranks member hmember

/-- Storing a new entry keeps the guild sound exactly if it does not take the
place of the leader's entry under another guid and its rank fits. -/
theorem sound_insert_iff (hsound : Sound guild) (guid : UInt64) (rank : UInt8) (row : CharacterRow)
    (rehash : Rearrangement Member) :
    Sound { guild with members := guild.members.insert (newMember guid rank row) rehash } ↔
      (guidLoPart guid = guidLoPart guild.leaderGuid → guid = guild.leaderGuid) ∧
        RankFits guild guid rank := by
  have hmem : ∀ {member : Member},
      member ∈ guild.members.insert (newMember guid rank row) rehash ↔
        member = newMember guid rank row ∨
          member ∈ guild.members ∧ guidLoPart member.guid ≠ guidLoPart guid :=
    Table.mem_insert
  have hself : newMember guid rank row ∈
      guild.members.insert (newMember guid rank row) rehash := hmem.mpr (.inl rfl)
  constructor
  · intro hafter
    refine ⟨fun hlow => (hafter.guid_eq_of_low hself hlow).1, ?_⟩
    unfold RankFits
    split
    next hguid =>
      exact toNat_eq_zero_iff.mp (hafter.guid_eq_of_low hself (congrArg guidLoPart hguid)).2
    next hguid =>
      exact ⟨fun hrank => hafter.unique _ hself hguid (toNat_eq_zero_iff.mpr hrank),
        hafter.ranks _ hself⟩
  · rintro ⟨hentry, hfits⟩
    unfold RankFits at hfits
    obtain ⟨leader, -, hleader, hleaderGuid, hleaderRank⟩ := hsound.exists_leader
    refine ⟨?_, ?_, ?_⟩
    · by_cases hlow : guidLoPart guid = guidLoPart guild.leaderGuid
      · rw [if_pos (hentry hlow)] at hfits
        exact ⟨_, hself, hentry hlow, toNat_eq_zero_iff.mpr hfits⟩
      · refine ⟨leader, hmem.mpr (.inr ⟨hleader, ?_⟩), hleaderGuid, hleaderRank⟩
        rw [hleaderGuid]
        exact Ne.symm hlow
    · intro member hmember hguid
      rcases hmem.mp hmember with rfl | ⟨hold, -⟩
      · have hfits := (if_neg (show ¬ guid = guild.leaderGuid from hguid)).mp hfits
        exact fun hrank => hfits.1 (toNat_eq_zero_iff.mp hrank)
      · exact hsound.unique member hold hguid
    · intro member hmember
      rcases hmem.mp hmember with rfl | ⟨hold, -⟩
      · split at hfits
        · exact (toNat_eq_zero_iff.mpr hfits).trans_lt guild.ranks.size_pos
        · exact hfits.2
      · exact hsound.ranks member hold

/-! ## Calls -/

include hsound in
theorem deleteMember_sound_iff (isDisbanding : Bool) :
    (deleteMember world guid isDisbanding).Sound ↔
      guid = world.guild.leaderGuid ∧ ¬ isDisbanding ∨
        guidLoPart guid ≠ guidLoPart world.guild.leaderGuid := by
  unfold deleteMember
  split
  next hleader =>
    obtain ⟨rfl, hdisbanding⟩ := hleader
    refine iff_of_true ?_ (.inl ⟨rfl, hdisbanding⟩)
    split
    · exact trivial
    next newLeader hnew =>
      obtain ⟨hmem, hlow⟩ := successor_mem hnew
      exact sound_updateAccountsNumber_iff.mpr (sound_succession hsound hmem hlow)
  next hother =>
    have hcond : (guid = world.guild.leaderGuid ∧ ¬ isDisbanding ∨
        guidLoPart guid ≠ guidLoPart world.guild.leaderGuid) ↔
        guidLoPart guid ≠ guidLoPart world.guild.leaderGuid :=
      or_iff_right fun hleader => hother ⟨hleader.1.symm, hleader.2⟩
    rw [hcond, ← sound_dropMember_iff hsound guid]
    cases isDisbanding with
    | true => exact Iff.rfl
    | false => exact sound_updateAccountsNumber_iff

variable (player : Player)

include hsound in
/-- `HandleRemoveMember` never reaches the leader: his rank protects him. -/
theorem handleRemoveMember_sound (guid : UInt64) :
    (handleRemoveMember world player guid).status.Sound := by
  unfold handleRemoveMember
  split
  · exact hsound
  · split
    next member hmember =>
      obtain ⟨hmem, hlow⟩ := getMember_eq_some_iff.mp hmember
      split
      · exact hsound
      next hrank =>
        split
        · exact hsound
        · refine (deleteMember_sound_iff hsound guid false).mpr (.inr fun hleader => ?_)
          exact hrank (hsound.guid_eq_of_low hmem (hlow.trans hleader)).2
    · split <;> exact hsound

include hsound in
theorem addMember_sound_iff (rankId : UInt8) (rehash : Rearrangement Member) :
    Sound (addMember world guid rankId rehash).1.guild ↔
      Allowed world (.addMember guid rankId rehash) := by
  unfold addMember Allowed
  split
  next hguild => exact iff_of_true hsound fun hzero => absurd hzero hguild
  next hguild =>
    split
    next hstats => exact iff_of_true hsound fun _ hsome => by simp [hstats] at hsome
    next row hstats =>
      simp only [hstats, Option.isSome_some, forall_const]
      rw [forall_prop_of_true (not_not.mp hguild), sound_updateAccountsNumber_iff]
      exact sound_insert_iff hsound guid (assignedRank world.guild rankId) row rehash

/-- In a sound guild the player who passes `_IsLeader` is the leader, as far as he
has an entry at all. -/
theorem Sound.guid_eq_of_isLeader (hsound : Sound guild) {player : Player}
    (hleader : isLeader guild player = true) (hmember : getMember guild player.guid = some member) :
    member ∈ guild.members ∧ member.guid = guild.leaderGuid := by
  obtain ⟨hmem, hlow⟩ := getMember_eq_some_iff.mp hmember
  refine ⟨hmem, ?_⟩
  unfold isLeader at hleader
  split at hleader
  next hguid => exact (hsound.guid_eq_of_low hmem (hlow.trans (by rw [hguid]))).1
  · rw [hmember] at hleader
    exact hsound.guid_eq_of_rank hmem (of_decide_eq_true hleader)

variable (name : String)

include hsound in
theorem handleSetLeader_sound_iff :
    (handleSetLeader world player name).status.Sound ↔
      ∀ newLeader, isLeader world.guild player = true →
        getMemberByName world.guild name = some newLeader →
        getMember world.guild player.guid ≠ some newLeader := by
  unfold handleSetLeader
  split
  next hleader => exact iff_of_true hsound fun _ hyes => absurd hyes hleader
  next hleader =>
    have hleader : isLeader world.guild player = true := not_not.mp hleader
    split
    next hold => exact iff_of_true hsound fun _ _ _ => by simp [hold]
    next oldLeader hold =>
      split
      next hnew => exact iff_of_true hsound fun _ _ hsome => by simp [hnew] at hsome
      next newLeader hnew =>
        obtain ⟨holdMem, holdGuid⟩ := hsound.guid_eq_of_isLeader hleader hold
        have hnewMem : newLeader ∈ world.guild.members := List.mem_of_find?_eq_some hnew
        refine (sound_passLeadership_iff hsound holdMem holdGuid hnewMem).trans ?_
        rw [hold, hnew]
        constructor
        · rintro hne other - hother heq
          exact hne ((Option.some.inj hother).trans (Option.some.inj heq).symm)
        · exact fun hall heq => hall newLeader hleader rfl (congrArg some heq.symm)

include hsound in
theorem switchGuildLeader_sound_iff (hmember : (getMember world.guild guid).isSome) :
    Sound (switchGuildLeader world guid).1.guild ↔
      guidLoPart guid ≠ guidLoPart world.guild.leaderGuid := by
  obtain ⟨oldLeader, hold, holdMem, holdGuid, -⟩ := hsound.exists_leader
  obtain ⟨newLeader, hnew⟩ := Option.isSome_iff_exists.mp hmember
  obtain ⟨hnewMem, hnewLow⟩ := getMember_eq_some_iff.mp hnew
  simp only [switchGuildLeader, hold, hnew]
  rw [sound_passLeadership_iff hsound holdMem holdGuid hnewMem, not_iff_not, ← hnewLow, ← holdGuid]
  exact ⟨fun heq => by rw [heq], fun hlow => Table.eq_of_key_eq hnewMem holdMem hlow⟩

include hsound in
theorem handleSetMemberRank_sound_iff (target setter : UInt64) (rank : UInt32) :
    (handleSetMemberRank world player target setter rank).status.Sound ↔
      ∀ member, RankChangeAccepted world.guild player target setter rank member →
        RankFits world.guild member.guid rank.toUInt8 := by
  unfold handleSetMemberRank
  split
  next hmember =>
    refine iff_of_true hsound fun member haccepted => ?_
    have htarget := haccepted.target
    simp [hmember] at htarget
  next member hmember =>
    have hsame : ∀ {other}, RankChangeAccepted world.guild player target setter rank other →
        other = member := fun haccepted =>
      Option.some.inj (haccepted.target.symm.trans hmember)
    split
    next hright =>
      refine iff_of_true hsound fun other haccepted => absurd haccepted.right ?_
      rwa [hsame haccepted]
    next hright =>
      split
      next hsetter =>
        refine iff_of_true hsound fun other haccepted => ?_
        obtain ⟨_, hacting, -⟩ := haccepted.setter
        simp [hsetter] at hacting
      next acting hacting =>
        split
        next hrefused =>
          refine iff_of_true hsound fun other haccepted => ?_
          obtain ⟨acting', hacting', hok⟩ := haccepted.setter
          rw [hacting] at hacting'
          rw [hsame haccepted, ← Option.some.inj hacting'] at hok
          exact absurd hrefused hok
        next haccepted =>
          split
          next hself =>
            refine iff_of_true hsound fun other haccepted => ?_
            exact absurd hself (hsame haccepted ▸ haccepted.other)
          next hself =>
            have hmem := (getMember_eq_some_iff.mp hmember).1
            refine (sound_setRank_iff hsound hmem rank.toUInt8).trans ?_
            constructor
            · exact fun hfits other hother => hsame hother ▸ hfits
            · exact fun hall => hall member
                ⟨hmember, not_not.mp hright, ⟨acting, hacting, haccepted⟩, hself⟩

include hsound in
theorem createRank_sound (rights : UInt32) : Sound (createRank world name rights).guild := by
  unfold createRank
  split
  · refine ⟨hsound.leader, hsound.unique, fun member hmember => ?_⟩
    have hrank := hsound.ranks member hmember
    rw [RankTable.size_push]
    omega
  · exact hsound

include hsound in
theorem handleAddNewRank_sound : (handleAddNewRank world player name).status.Sound := by
  unfold handleAddNewRank
  split
  · exact hsound
  · split
    · exact hsound
    · exact createRank_sound hsound name _

include hsound in
/-- Removing a rank only shortens the table, so every rank in use must be below
the new length. -/
theorem handleRemoveRank_sound_iff (rankId : UInt32) :
    (handleRemoveRank world player rankId).status.Sound ↔
      (guildRanksMinCount < world.guild.ranks.size → isLeader world.guild player = true →
        rankId.toNat < world.guild.ranks.size ∧
          ∀ member ∈ world.guild.members, member.rankId < world.guild.ranks.size - 1) := by
  unfold handleRemoveRank
  split
  next hsize =>
    rw [forall_prop_of_true hsize]
    split
    next hleader => exact iff_of_true hsound fun hyes => absurd hyes hleader
    next hleader =>
      rw [forall_prop_of_true (not_not.mp hleader)]
      split
      next hindex =>
        rw [and_iff_right hindex]
        constructor
        · intro hafter member hmember
          exact size_removeAt world.guild.ranks world.guild.id _ _ hindex hsize ▸
            hafter.ranks member hmember
        · intro hranks
          refine ⟨hsound.leader, hsound.unique, fun member hmember => ?_⟩
          exact size_removeAt world.guild.ranks world.guild.id _ _ hindex hsize ▸
            hranks member hmember
      next hindex => exact iff_of_false id fun hall => hindex hall.1
  next hsize => exact iff_of_true hsound fun hyes => absurd hyes hsize

include hsound in
theorem modifyRank_sound (id : Nat) (f : RankInfo → RankInfo) (hf : ∀ info, (f info).id = info.id)
    (g : GuildRankRow → GuildRankRow) : Sound (modifyRank world id f hf g).guild := by
  have hsame : Sound (modifyRank world id f hf g).guild ↔ Sound world.guild :=
    sound_congr rfl rfl (world.guild.ranks.size_modify id f hf)
  exact hsame.mpr hsound

include hsound in
theorem setRankName_sound (info : RankInfo) (name : String) :
    Sound (setRankName world info name).guild := by
  unfold setRankName
  split
  · exact hsound
  · exact modifyRank_sound hsound ..

include hsound in
theorem setRankRights_sound (info : RankInfo) (rights : UInt32) :
    Sound (setRankRights world info rights).guild := by
  unfold setRankRights
  split
  · exact hsound
  · exact modifyRank_sound hsound ..

include hsound in
/-- Names and rights are all that `HandleSwapRanks` moves. -/
theorem handleSwapRanks_sound (id : UInt32) (up : Bool) :
    Sound (handleSwapRanks world id up).guild := by
  unfold handleSwapRanks
  simp only
  split
  · apply setRankRights_sound
    apply setRankName_sound
    apply setRankRights_sound
    exact setRankName_sound hsound _ _
  · exact hsound

/-! ## Runs -/

include hsound in
theorem request_sound_iff (actor : UInt64) (handler : Player → Response) :
    (request world actor handler).Sound ↔
      ∀ player, world.realm.players actor = some player → (handler player).status.Sound := by
  unfold request
  split
  next hplayer => exact iff_of_true hsound fun player hsome => by simp [hplayer] at hsome
  next player hplayer =>
    rw [hplayer]
    exact ⟨fun hafter other hother => Option.some.inj hother ▸ hafter, fun hall => hall player rfl⟩

include hsound in
theorem call_sound_iff (event : Call) : (call world event).Sound ↔ Allowed world event := by
  cases event with
  | setLeader actor name =>
    simp only [call, Allowed, request_sound_iff hsound, handleSetLeader_sound_iff hsound]
    exact ⟨fun h player new hplayer => h player hplayer new,
      fun h player hplayer new => h player new hplayer⟩
  | switchGuildLeader guid =>
    by_cases hmember : (getMember world.guild guid).isSome
    · simp only [call, Allowed, hmember, forall_const]
      exact switchGuildLeader_sound_iff hsound guid hmember
    · have hnone : getMember world.guild guid = none := by simpa using hmember
      simp only [call, Allowed, hmember, Bool.false_eq_true, false_implies, iff_true]
      simp only [switchGuildLeader, hnone]
      split <;> exact hsound
  | setMemberRank actor target setter rank =>
    simp only [call, Allowed, request_sound_iff hsound, handleSetMemberRank_sound_iff hsound]
    exact ⟨fun h player member hplayer => h player hplayer member,
      fun h player hplayer member => h player member hplayer⟩
  | removeMember actor guid =>
    simp only [call, Allowed, request_sound_iff hsound, iff_true]
    exact fun player _ => handleRemoveMember_sound hsound player guid
  | addMember guid rankId rehash => exact addMember_sound_iff hsound guid rankId rehash
  | deleteMember guid isDisbanding => exact deleteMember_sound_iff hsound guid isDisbanding
  | addNewRank actor name =>
    simp only [call, Allowed, request_sound_iff hsound, iff_true]
    exact fun player _ => handleAddNewRank_sound hsound player name
  | removeRank actor rankId =>
    simp only [call, Allowed, request_sound_iff hsound, handleRemoveRank_sound_iff hsound]
  | swapRanks id up =>
    exact iff_of_true (handleSwapRanks_sound hsound id up) trivial

theorem step_sound_iff (status : Status) (event : Call) (hsound : status.Sound) :
    (step status event).Sound ↔ status.Allowed event := by
  cases status with
  | live world => exact call_sound_iff hsound event
  | disbanded realm => exact Iff.rfl
  | undefinedBehaviour => exact absurd hsound id

/-- A guild that starts with its leader in place and valid ranks keeps a unique
leader and valid ranks through a run of calls exactly if it starts without a
second guild master and every call is allowed where it is made. -/
theorem leadership_kept_iff_allowed (world : World) (hleader : HasLeader world.guild)
    (hranks : RanksExist world.guild) (calls : List Call) :
    (∀ status ∈ visited step (.live world) calls, status.Sound) ↔
      UniqueLeader world.guild ∧ Along step Status.Allowed (.live world) calls := by
  rw [forall_visited_iff_along step Status.Sound Status.Allowed step_sound_iff]
  exact and_congr_left fun _ => ⟨fun hsound => hsound.unique,
    fun hunique => ⟨hleader, hunique, hranks⟩⟩

def defaultRanks : RankTable where
  toList := (List.range guildRanksMinCount).map fun id =>
    { id, name := "", rights := grRightAll, bankMoneyPerDay := 0
      bankTabRightsAndSlots := Vector.replicate _ {} }
  ids := by decide
  min_le := by decide
  le_max := by decide

variable (leaderGuid : UInt64)

def soloGuild (name : String) : World where
  guild :=
    { id := 1, leaderGuid, ranks := defaultRanks, purchasedTabs := 0, accountsNumber := 1
      members := Table.empty.insert (newMember leaderGuid grGuildMaster
        { name, level := 90, characterClass := 1, zoneId := 1519, accountId := 1 })
        (Rearrangement.keep Member) }
  realm :=
    { players := fun guid => if guid = leaderGuid then some
        { guid := leaderGuid, name, level := 90, characterClass := 1, zoneId := 1519
          accountId := 1, inWorld := true, guildId := 1, rank := 0 }
        else none
      db :=
        { characters := fun _ => none, guildMember := fun _ => none
          guildLeader := guidLoPart leaderGuid, guildRank := fun _ => none
          guildBankRight := fun _ _ => none } }

theorem soloGuild_sound (name : String) : Sound (soloGuild leaderGuid name).guild := by
  have hmem : ∀ {member : Member}, member ∈ (soloGuild leaderGuid name).guild.members ↔
      member = newMember leaderGuid grGuildMaster
        { name, level := 90, characterClass := 1, zoneId := 1519, accountId := 1 } := by
    intro member
    simp only [soloGuild]
    rw [Table.mem_insert]
    simp [Table.mem_def, Table.empty]
  refine ⟨⟨_, hmem.mpr rfl, rfl, rfl⟩, ?_, ?_⟩
  · intro member hmember hguid
    obtain rfl := hmem.mp hmember
    exact absurd rfl hguid
  · intro member hmember
    obtain rfl := hmem.mp hmember
    exact RankTable.size_pos _

/-- A leader who hands the guild over to himself is demoted to officer, and the
guild is left without a guild master. -/
theorem leader_lost_by_set_leader_to_self :
    Sound (soloGuild 0x0180000000000001 "Thrall").guild ∧
      ¬ ∀ status ∈ visited step (.live (soloGuild 0x0180000000000001 "Thrall"))
        [.setLeader 0x0180000000000001 "Thrall"], status.Sound := by
  have hsound := soloGuild_sound 0x0180000000000001 "Thrall"
  refine ⟨hsound, fun hall => ?_⟩
  have hallowed := (call_sound_iff hsound (.setLeader 0x0180000000000001 "Thrall")).mp
    (hall _ (List.mem_cons_of_mem _ (mem_visited_self step _ [])))
  exact hallowed _ _ rfl rfl rfl rfl

/-- A guild of a leader, an officer and a veteran, with the default ranks. -/
def officeGuild : World where
  guild :=
    { id := 1, leaderGuid := 0x0180000000000001, ranks := defaultRanks, purchasedTabs := 0
      accountsNumber := 1
      members :=
        { rows := [0, 1, 2].map fun rank => newMember (0x0180000000000001 + rank.toUInt64) rank
            { name := "", level := 90, characterClass := 1, zoneId := 1519, accountId := 1 }
          nodup := by decide } }
  realm := (soloGuild 0x0180000000000001 "").realm

/-- The leader demotes the veteran and is then replaced by the officer, who leaves. -/
def successionCalls : List Call :=
  [.setMemberRank 0x0180000000000001 0x0180000000000003 0x0180000000000001 3,
    .switchGuildLeader 0x0180000000000002, .deleteMember 0x0180000000000002 false]

theorem leadership_kept_office_guild : UniqueLeader officeGuild.guild ∧
    ∀ status ∈ visited step (.live officeGuild) successionCalls, status.Sound := by
  have hunique : UniqueLeader officeGuild.guild := by
    unfold UniqueLeader
    decide
  have hranks : RanksExist officeGuild.guild := by
    unfold RanksExist
    decide
  refine ⟨hunique, (leadership_kept_iff_allowed officeGuild ⟨_, List.mem_cons_self, rfl, rfl⟩
    hranks _).mpr ⟨hunique, ?_, fun _ => by decide, .inl ⟨rfl, by decide⟩, trivial⟩⟩
  intro player member _ haccepted
  obtain rfl : _ = member := Option.some.inj haccepted.target
  unfold RankFits
  decide

end MopServer.Guilds
