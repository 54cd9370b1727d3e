import MopServer.Foundation.MaskWord
import MopServer.Guilds.BankMoney

/-! # The rights of ranks

Most constants of the rights carry a common bit, and a mask grants a right if what it shares with
the constant differs from that bit alone.  So a right that the mask lacks is refused only if both
the mask and the constant carry the common bit.
-/

namespace MopServer.Guilds

open MopServer.Foundation

/-! ## The update of a rank -/

def guildBankRightFull : UInt32 := 0xFF
def guildWithdrawSlotUnlimited : UInt32 := 0xFFFFFFFF

/-- `ResetMoneyTime`. -/
def Member.resetMoneyTime (member : Member) : Member :=
  withMoneyRemaining member { moneyRemaining member with resetTime := 0 }

/-- `ResetTabTimes`. -/
def Member.resetTabTimes (member : Member) : Member :=
  { member with bankRemaining := member.bankRemaining.mapFinIdx fun tab remaining _ =>
      if tab < guildBankMaxTabs then { remaining with resetTime := 0 } else remaining }

variable (world : World)

def updateMembersOfRank (rankId : Nat) (f : Member → Member)
    (hf : ∀ member, (f member).guid = member.guid) : World :=
  { world with guild := { world.guild with
      members := world.guild.members.map
        (fun member => if member.rankId = rankId then f member else member)
        fun member => by
          split
          · rw [Member.key_eq, hf, Member.key_eq]
          · rfl } }

/-- `RankInfo::SetBankMoneyPerDay`. -/
def setBankMoneyPerDay (info : RankInfo) (money : UInt32) : World :=
  let money := if info.id = grGuildMaster.toNat then guildWithdrawMoneyUnlimited else money
  if info.bankMoneyPerDay = money then world
  else
    modifyRank world info.id (fun info => { info with bankMoneyPerDay := money }) (fun _ => rfl)
      fun row => { row with bankMoneyPerDay := money }

/-- `_SetRankBankMoneyPerDay`. -/
def setRankBankMoneyPerDay (rankId moneyPerDay : UInt32) : World :=
  match world.guild.ranks.getRankInfo rankId.toNat with
  | none => world
  | some info =>
    setBankMoneyPerDay
      (updateMembersOfRank world rankId.toNat Member.resetMoneyTime fun _ => rfl) info moneyPerDay

/-- `SetGuildMasterValues`. -/
def guildMasterValues : GuildBankRightsAndSlots :=
  ⟨guildBankRightFull, guildWithdrawSlotUnlimited⟩

/-- `RankInfo::SetBankTabSlotsAndRights`; the column of the rights has eight bits. -/
def setBankTabSlotsAndRights (info : RankInfo) (tabId : Nat)
    (rightsAndSlots : GuildBankRightsAndSlots) : World :=
  let rightsAndSlots := if info.id = grGuildMaster.toNat then guildMasterValues else rightsAndSlots
  if info.bankTabRightsAndSlots[tabId]? = some rightsAndSlots then world
  else
    let world := modifyRank world info.id
      (fun info => { info with bankTabRightsAndSlots :=
        info.bankTabRightsAndSlots.setIfInBounds tabId rightsAndSlots }) (fun _ => rfl) id
    let db := world.realm.db
    { world with realm := { world.realm with db := { db with
        guildBankRight := fun tab rid =>
          if tab = tabId ∧ rid = info.id % 256 then
            some { rightsAndSlots with rights := rightsAndSlots.rights &&& 0xFF }
          else db.guildBankRight tab rid } } }

/-- `_SetRankBankTabRightsAndSlots`. -/
def setRankBankTabRightsAndSlots (rankId : UInt32) (tabId : Nat)
    (rightsAndSlots : GuildBankRightsAndSlots) : World :=
  if tabId ≥ world.guild.purchasedTabs then world
  else
    match world.guild.ranks.getRankInfo rankId.toNat with
    | none => world
    | some info =>
      setBankTabSlotsAndRights
        (updateMembersOfRank world rankId.toNat Member.resetTabTimes fun _ => rfl) info tabId
        rightsAndSlots

/-- The values a guild master sends for a rank. -/
structure RankSettings where
  name : String
  rights : UInt32
  moneyPerDay : UInt32
  rightsAndSlots : List GuildBankRightsAndSlots

/-- `HandleSetRankInfo`.  The tabs are counted in eight bits. -/
def handleSetRankInfo (player : Player) (rankId : UInt32) (settings : RankSettings) : Response :=
  if ¬ isLeader world.guild player then .refuse world .invite .permissions
  else
    match world.guild.ranks.getRankInfo rankId.toNat with
    | none => .done world
    | some rankInfo =>
      let world := setRankName world rankInfo settings.name
      let world := setRankRights world rankInfo settings.rights
      let world := setRankBankMoneyPerDay world rankId settings.moneyPerDay
      .done (settings.rightsAndSlots.zipIdx.foldl
        (fun world (rightsAndSlots, tabId) =>
          setRankBankTabRightsAndSlots world rankId (tabId % 256) rightsAndSlots) world)

/-! ## The rights -/

def grRightOffChatListen : UInt32 := grRightEmpty ||| 0x4
def grRightOffChatSpeak : UInt32 := grRightEmpty ||| 0x8
def grRightInvite : UInt32 := grRightEmpty ||| 0x10
def grRightSetMotd : UInt32 := grRightEmpty ||| 0x1000
def grRightEPNote : UInt32 := grRightEmpty ||| 0x2000
def grRightViewOffNote : UInt32 := grRightEmpty ||| 0x4000
def grRightEOffNote : UInt32 := grRightEmpty ||| 0x8000
def grRightModifyGuildInfo : UInt32 := grRightEmpty ||| 0x10000
def grRightWithdrawGoldLock : UInt32 := 0x20000
def grRightCreateGuildEvent : UInt32 := 0x100000

/-- `GuildRankRights`, without `GR_RIGHT_EMPTY`. -/
inductive GuildRankRight where
  | gChatListen | gChatSpeak | offChatListen | offChatSpeak | invite | remove | promote | demote
  | setMotd | ePNote | viewOffNote | eOffNote | modifyGuildInfo | withdrawGoldLock
  | withdrawRepair | withdrawGold | createGuildEvent | all
  deriving DecidableEq

variable (right : GuildRankRight)

namespace GuildRankRight

def value : GuildRankRight → UInt32
  | gChatListen => grRightGChatListen
  | gChatSpeak => grRightGChatSpeak
  | offChatListen => grRightOffChatListen
  | offChatSpeak => grRightOffChatSpeak
  | invite => grRightInvite
  | remove => grRightRemove
  | promote => grRightPromote
  | demote => grRightDemote
  | setMotd => grRightSetMotd
  | ePNote => grRightEPNote
  | viewOffNote => grRightViewOffNote
  | eOffNote => grRightEOffNote
  | modifyGuildInfo => grRightModifyGuildInfo
  | withdrawGoldLock => grRightWithdrawGoldLock
  | withdrawRepair => grRightWithdrawRepair
  | withdrawGold => grRightWithdrawGold
  | createGuildEvent => grRightCreateGuildEvent
  | all => grRightAll

def bits (right : GuildRankRight) : UInt32 := right.value &&& ~~~grRightEmpty

/-- The mask was given the right. -/
def GivenBy (right : GuildRankRight) (mask : UInt32) : Prop := mask &&& right.bits = right.bits

/-- The test of `_HasRankRight` tells whether the mask was given the right. -/
def ToldBy (right : GuildRankRight) (mask : UInt32) : Prop :=
  right.GivenBy mask ∨
    mask &&& grRightEmpty = grRightEmpty ∧ right.value &&& grRightEmpty = grRightEmpty

instance (right : GuildRankRight) (mask : UInt32) : Decidable (right.GivenBy mask) :=
  inferInstanceAs (Decidable (mask &&& right.bits = right.bits))

instance (right : GuildRankRight) (mask : UInt32) : Decidable (right.ToldBy mask) :=
  inferInstanceAs (Decidable (_ ∨ _))

theorem bits_ne_zero : right.bits ≠ 0 := by
  cases right <;> decide

theorem bits_of_empty {right : GuildRankRight}
    (hempty : right.value &&& grRightEmpty = grRightEmpty) :
    ∃ index < 32, right.bits = 1 <<< UInt32.ofNat index := by
  cases right <;> first | exact absurd hempty (by decide) | decide

/-- A mask refuses a right if it has the common bit and not the bit of the right. -/
theorem land_value_eq_empty_iff (mask : UInt32) :
    mask &&& right.value = grRightEmpty ↔
      (mask &&& grRightEmpty = grRightEmpty ∧ right.value &&& grRightEmpty = grRightEmpty) ∧
        ¬ right.GivenBy mask := by
  constructor
  · intro hland
    refine ⟨⟨?_, ?_⟩, fun hgiven => right.bits_ne_zero ?_⟩
    · rw [← hland, ← UInt32.and_assoc, UInt32.and_self]
    · rw [← hland, UInt32.and_comm mask, ← UInt32.and_assoc, UInt32.and_self]
    · rw [← hgiven, bits, ← UInt32.and_assoc, hland]
      decide
  · rintro ⟨⟨hmask, hright⟩, hnot⟩
    obtain ⟨index, hindex, hbits⟩ := bits_of_empty hright
    have hland := land_one_shiftLeft mask hindex
    rw [← hbits] at hland
    split at hland
    · exact absurd hland hnot
    · exact land_eq_of_land_not hmask hright hland

theorem land_value_iff (mask : UInt32) :
    (mask &&& right.value ≠ grRightEmpty ↔ right.GivenBy mask) ↔ right.ToldBy mask := by
  rw [ne_eq, right.land_value_eq_empty_iff mask, ToldBy]
  tauto

end GuildRankRight

/-! ## The masks of a guild -/

variable {info : RankInfo} {g : GuildRankRow → GuildRankRow} {f : RankInfo → RankInfo}
  {world : World}

/-- The masks of the ranks, in their order. -/
def RankTable.rights (ranks : RankTable) : List UInt32 := ranks.toList.map RankInfo.rights

/-- Whatever existing rank a player carries, he has a right exactly if the rank was given it. -/
def RightsExact (right : GuildRankRight) (guild : Guild) : Prop :=
  ∀ player : Player, ∀ info, guild.ranks.getRankInfo player.rank = some info →
    (hasRankRight guild player right.value = true ↔ right.GivenBy info.rights)

theorem rightsExact_iff {right : GuildRankRight} {guild : Guild} :
    RightsExact right guild ↔ ∀ mask ∈ guild.ranks.rights, right.ToldBy mask := by
  have htold : ∀ (player : Player) info, guild.ranks.getRankInfo player.rank = some info →
      ((hasRankRight guild player right.value = true ↔ right.GivenBy info.rights) ↔
        right.ToldBy info.rights) := by
    intro player info hinfo
    rw [← right.land_value_iff, hasRankRight, getRankRights, hinfo, decide_eq_true_iff]
  constructor
  · intro hexact mask hmask
    obtain ⟨info, hinfo, rfl⟩ := List.mem_map.mp hmask
    obtain ⟨rank, hrank⟩ := List.getElem?_of_mem hinfo
    exact (htold ⟨0, "", 0, 0, 0, 0, false, 0, rank⟩ info hrank).mp (hexact _ info hrank)
  · intro hall player info hinfo
    apply (htold player info hinfo).mpr
    exact hall _ (List.mem_map_of_mem (List.mem_of_getElem? hinfo))

theorem RankTable.id_of_getRankInfo {ranks : RankTable} {rankId : Nat}
    (hinfo : ranks.getRankInfo rankId = some info) : info.id = rankId := by
  have hid : (ranks.toList.map RankInfo.id)[rankId]? = some info.id := by
    rw [List.getElem?_map]
    exact congrArg (Option.map RankInfo.id) hinfo
  rw [ranks.ids] at hid
  rw [List.getElem?_eq_getElem (by simpa using (List.getElem?_eq_some_iff.mp hinfo).1),
    List.getElem_range] at hid
  exact (Option.some.inj hid).symm

/-- Rewriting something else of a rank. -/
theorem rights_modifyRank_of_kept {id : Nat} {hf : ∀ info, (f info).id = info.id}
    (hkept : ∀ info, (f info).rights = info.rights) :
    (modifyRank world id f hf g).guild.ranks.rights = world.guild.ranks.rights := by
  simp only [RankTable.rights, modifyRank, RankTable.modify]
  rw [List.map_map]
  apply List.map_congr_left
  intro info _
  simp only [Function.comp_apply]
  split
  · exact hkept info
  · rfl

theorem rights_modifyRank {id : Nat} {hf : ∀ info, (f info).id = info.id} {rights : UInt32}
    (hrights : ∀ info, info.id = id → (f info).rights = rights) :
    (modifyRank world id f hf g).guild.ranks.rights = world.guild.ranks.rights.set id rights := by
  simp only [RankTable.rights, modifyRank, RankTable.modify]
  ext1 rankId
  rw [List.getElem?_set, List.map_map, List.getElem?_map, List.getElem?_map, List.length_map]
  cases hinfo : world.guild.ranks.toList[rankId]? with
  | none =>
    have hlength := List.getElem?_eq_none_iff.mp hinfo
    split
    next heq => simp [heq, Nat.not_lt.mpr hlength]
    · rfl
  | some info =>
    have hid : info.id = rankId := RankTable.id_of_getRankInfo hinfo
    obtain ⟨hlength, -⟩ := List.getElem?_eq_some_iff.mp hinfo
    simp only [Option.map_some, Function.comp_apply, hid]
    by_cases heq : id = rankId
    · simp [heq, hlength, hrights info (hid.trans heq.symm)]
    · simp [heq, Ne.symm heq]

/-! ## What an update does to the masks -/

variable (rightsAndSlots : GuildBankRightsAndSlots)

theorem rights_setRankName (world : World) (info : RankInfo) (name : String) :
    (setRankName world info name).guild.ranks.rights = world.guild.ranks.rights := by
  unfold setRankName
  split
  · rfl
  · exact rights_modifyRank_of_kept fun _ => rfl

theorem rights_setRankRights (hinfo : world.guild.ranks.rights[info.id]? = some info.rights)
    (rights : UInt32) :
    (setRankRights world info rights).guild.ranks.rights =
      world.guild.ranks.rights.set info.id (protectedRights info rights) := by
  unfold setRankRights
  split
  next heq =>
    obtain ⟨hlength, hget⟩ := List.getElem?_eq_some_iff.mp hinfo
    rw [← heq, ← hget, List.set_getElem_self]
  · refine rights_modifyRank fun other hid => ?_
    simp only [protectedRights, hid]

theorem rights_setBankMoneyPerDay (world : World) (info : RankInfo) (money : UInt32) :
    (setBankMoneyPerDay world info money).guild.ranks.rights = world.guild.ranks.rights := by
  unfold setBankMoneyPerDay
  generalize (if info.id = grGuildMaster.toNat then guildWithdrawMoneyUnlimited else money) = kept
  simp only
  split
  · rfl
  · exact rights_modifyRank_of_kept fun _ => rfl

theorem rights_setRankBankMoneyPerDay (world : World) (rankId moneyPerDay : UInt32) :
    (setRankBankMoneyPerDay world rankId moneyPerDay).guild.ranks.rights =
      world.guild.ranks.rights := by
  unfold setRankBankMoneyPerDay
  split
  · rfl
  · exact rights_setBankMoneyPerDay _ _ _

theorem rights_setBankTabSlotsAndRights (world : World) (info : RankInfo) (tabId : Nat) :
    (setBankTabSlotsAndRights world info tabId rightsAndSlots).guild.ranks.rights =
      world.guild.ranks.rights := by
  unfold setBankTabSlotsAndRights
  generalize (if info.id = grGuildMaster.toNat then guildMasterValues else rightsAndSlots) = kept
  simp only
  split
  · rfl
  · exact rights_modifyRank_of_kept (g := id) fun _ => rfl

theorem rights_setRankBankTabRightsAndSlots (world : World) (rankId : UInt32) (tabId : Nat) :
    (setRankBankTabRightsAndSlots world rankId tabId rightsAndSlots).guild.ranks.rights =
      world.guild.ranks.rights := by
  unfold setRankBankTabRightsAndSlots
  split
  · rfl
  · split
    · rfl
    · exact rights_setBankTabSlotsAndRights _ _ _ _

/-- An update gives one rank its new mask, unless it is the guild master's. -/
theorem handleSetRankInfo_rights {player : Player} {rankId : UInt32}
    (hleader : isLeader world.guild player = true)
    (hinfo : world.guild.ranks.getRankInfo rankId.toNat = some info) (settings : RankSettings) :
    ∃ after, handleSetRankInfo world player rankId settings = .done after ∧
      after.guild.ranks.rights =
        world.guild.ranks.rights.set rankId.toNat (protectedRights info settings.rights) := by
  unfold handleSetRankInfo
  rw [if_neg (not_not.mpr hleader), hinfo]
  refine ⟨_, rfl, ?_⟩
  -- The tabs are set last, and none of them touches a mask.
  have htabs : ∀ (tabs : List (GuildBankRightsAndSlots × Nat)) (world : World),
      (tabs.foldl (fun world (rightsAndSlots, tabId) =>
        setRankBankTabRightsAndSlots world rankId (tabId % 256) rightsAndSlots)
          world).guild.ranks.rights = world.guild.ranks.rights := by
    intro tabs
    induction tabs with
    | nil => exact fun _ => rfl
    | cons tab rest ih =>
      intro world
      rw [List.foldl_cons, ih, rights_setRankBankTabRightsAndSlots]
  have hid : info.id = rankId.toNat := RankTable.id_of_getRankInfo hinfo
  have hnamed : (setRankName world info settings.name).guild.ranks.rights[info.id]? =
      some info.rights := by
    rw [rights_setRankName, hid, RankTable.rights, List.getElem?_map]
    exact congrArg (Option.map RankInfo.rights) hinfo
  rw [htabs, rights_setRankBankMoneyPerDay, rights_setRankRights hnamed, rights_setRankName, hid]

/-! ## Runs of updates -/

/-- A player changes a rank. -/
structure RankUpdate where
  actor : UInt64
  rankId : UInt32
  settings : RankSettings

def updateRank : Status → RankUpdate → Status
  | .live world, update => request world update.actor fun player =>
    handleSetRankInfo world player update.rankId update.settings
  | status, _ => status

def Status.RightsExact (right : GuildRankRight) : Status → Prop
  | .live world => Guilds.RightsExact right world.guild
  | _ => True

/-- If the update is accepted, the test tells whether the new mask was given the right. -/
def Status.Tells (right : GuildRankRight) : Status → RankUpdate → Prop
  | .live world, update => ∀ player info, world.realm.players update.actor = some player →
      isLeader world.guild player = true →
      world.guild.ranks.getRankInfo update.rankId.toNat = some info →
        right.ToldBy (protectedRights info update.settings.rights)
  | _, _ => True

theorem handleSetRankInfo_exact_iff {right : GuildRankRight}
    (hexact : RightsExact right world.guild) (player : Player) (rankId : UInt32)
    (settings : RankSettings) :
    (handleSetRankInfo world player rankId settings).status.RightsExact right ↔
      (isLeader world.guild player = true →
        ∀ info, world.guild.ranks.getRankInfo rankId.toNat = some info →
          right.ToldBy (protectedRights info settings.rights)) := by
  by_cases hleader : isLeader world.guild player = true
  · rw [forall_prop_of_true hleader]
    cases hinfo : world.guild.ranks.getRankInfo rankId.toNat with
    | none =>
      rw [handleSetRankInfo, if_neg (not_not.mpr hleader), hinfo]
      exact iff_of_true hexact fun _ hsome => nomatch hsome
    | some info =>
      obtain ⟨after, hafter, hrights⟩ := handleSetRankInfo_rights hleader hinfo settings
      have hmasks := rightsExact_iff.mp hexact
      have hlength : rankId.toNat < world.guild.ranks.rights.length := by
        rw [RankTable.rights, List.length_map]
        exact (List.getElem?_eq_some_iff.mp hinfo).1
      rw [hafter]
      have hiff : (Response.done after).status.RightsExact right ↔ _ := rightsExact_iff
      rw [hiff, hrights]
      constructor
      · rintro hall _ ⟨⟩
        exact hall _ (List.mem_set hlength _)
      · intro hnew mask hmask
        rcases List.mem_or_eq_of_mem_set hmask with hmask | rfl
        · exact hmasks mask hmask
        · exact hnew info rfl
  · rw [handleSetRankInfo, if_pos hleader]
    exact iff_of_true hexact fun hyes => absurd hyes hleader

theorem updateRank_exact_iff (status : Status) (update : RankUpdate)
    (hexact : status.RightsExact right) :
    (updateRank status update).RightsExact right ↔ status.Tells right update := by
  cases status with
  | disbanded _ => exact Iff.rfl
  | undefinedBehaviour => exact Iff.rfl
  | live world =>
    simp only [updateRank, request, Status.Tells]
    cases hplayer : world.realm.players update.actor with
    | none => exact iff_of_true hexact fun _ _ hsome => nomatch hsome
    | some player =>
      refine (handleSetRankInfo_exact_iff hexact player update.rankId update.settings).trans ?_
      constructor
      · rintro hall _ info ⟨⟩ hleader hinfo
        exact hall hleader info hinfo
      · exact fun hall hleader info hinfo => hall player info rfl hleader hinfo

/-- Through a run of updates, the test of a right is exact for all ranks if and only if the masks of
the ranks at the start, and all those that are stored, tell whether they were given it. -/
theorem rights_exact_iff_tells (right : GuildRankRight) (world : World)
    (updates : List RankUpdate) :
    (∀ status ∈ visited updateRank (.live world) updates, status.RightsExact right) ↔
      (∀ mask ∈ world.guild.ranks.rights, right.ToldBy mask) ∧
        Along updateRank (Status.Tells right) (.live world) updates := by
  rw [forall_visited_iff_along updateRank (Status.RightsExact right) (Status.Tells right)
    (updateRank_exact_iff right)]
  exact and_congr_left fun _ => rightsExact_iff

/-- The guild master takes all rights from the lowest rank, which can then invite. -/
theorem not_always_rightsExact :
    ¬ ∀ right world updates, ∀ status ∈ visited updateRank (.live world) updates,
      status.RightsExact right := by
  intro hall
  have hstart := hall .invite (soloGuild 0x0180000000000001 "") [] _ (mem_visited_self _ _ _)
  have hexact := hall .invite (soloGuild 0x0180000000000001 "")
    [{ actor := 0x0180000000000001, rankId := 4
       settings := { name := "", rights := 0, moneyPerDay := 0, rightsAndSlots := [] } }] _
    (List.mem_cons_of_mem _ (mem_visited_self _ _ _))
  have htold := (updateRank_exact_iff .invite _ _ hstart).mp hexact _ _ rfl rfl rfl
  exact absurd htold (by decide)

end MopServer.Guilds
