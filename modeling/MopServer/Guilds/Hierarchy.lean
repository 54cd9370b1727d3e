import MopServer.Guilds.Leadership

/-! # The hierarchy of ranks

Rank zero is the highest, so a member ranks below another one if his rank id is larger.  A request
respects the hierarchy if it succeeds only on members below the acting one, and leaves them there.
We determine which rank changes and removals do.
-/

namespace MopServer.Guilds

open MopServer.Foundation

/-- The requests by which one member acts on another. -/
inductive MemberRequest where
  | assignRank (target : UInt64) (rank : UInt32)
  | remove (target : UInt64)

def MemberRequest.target : MemberRequest → UInt64
  | .assignRank target _ => target
  | .remove target => target

variable (world : World)

/-- `HandleGuildAssignRankOpcode` and `HandleGuildRemoveOpcode`. -/
def serve (player : Player) : MemberRequest → Response
  | .assignRank target rank => handleSetMemberRank world player target player.guid rank
  | .remove target => handleRemoveMember world player target

/-- The target is a member, and the client is told of no error. -/
def Succeeds (request : MemberRequest) (response : Response) : Prop :=
  (getMember world.guild request.target).isSome ∧ response.reply = none

/-- The target is below the acting member before the request, and if it has changed rank, also
afterwards. -/
structure RespectsHierarchy (world : World) (acting : Member) (request : MemberRequest)
    (response : Response) : Prop where
  below : Succeeds world request response →
    ∀ member, getMember world.guild request.target = some member →
      acting.rankId < member.rankId
  stays : Succeeds world request response →
    ∀ target rank, request = .assignRank target rank →
      ∀ after, response.status = .live after →
        ∀ member, getMember after.guild target = some member → acting.rankId < member.rankId

/-- Where the checks of a request pass, its target and the rank it assigns are below the acting
member. -/
def StaysBelow (player : Player) (acting : Member) : MemberRequest → Prop
  | .assignRank target rank => ∀ member, getMember world.guild target = some member →
      hasRankRight world.guild player (rankChangeRight member rank) = true →
      member.guid ≠ player.guid → (acting.rankId = 1 ∨ acting.rankId < member.rankId) →
        acting.rankId < member.rankId ∧ acting.rankId < rank.toNat % 256
  | .remove target => ∀ member, getMember world.guild target = some member →
      hasRankRight world.guild player grRightRemove = true → player.rank % 256 < member.rankId →
        acting.rankId < member.rankId

/-! ## When a request succeeds -/

variable {world : World} {player : Player} {acting member : Member} {target : UInt64}
  (hacting : getMember world.guild player.guid = some acting)
  (hmember : getMember world.guild target = some member)

include hacting hmember in
/-- A rank change is made if the actor has the right to it, is another member, and is above the
target or an officer. -/
theorem handleSetMemberRank_of_accepted {rank : UInt32}
    (hright : hasRankRight world.guild player (rankChangeRight member rank) = true)
    (hother : member.guid ≠ player.guid) (hrank : acting.rankId = 1 ∨ acting.rankId < member.rankId)
    :
    handleSetMemberRank world player target player.guid rank =
      .done (changeRank world member rank.toUInt8) := by
  have haccepted : ¬ (acting.rankId ≠ 1 ∧ acting.rankId ≥ member.rankId) := by omega
  simp only [handleSetMemberRank, hmember, hacting]
  rw [if_neg (not_not.mpr hright), if_neg haccepted, if_neg hother]

variable (rank : UInt32)

include hacting hmember in
theorem handleSetMemberRank_reply_iff :
    (handleSetMemberRank world player target player.guid rank).reply = none ↔
      hasRankRight world.guild player (rankChangeRight member rank) = true ∧
        member.guid ≠ player.guid ∧ (acting.rankId = 1 ∨ acting.rankId < member.rankId) := by
  constructor
  · simp only [handleSetMemberRank, hmember, hacting]
    split
    · simp [Response.refuse]
    next hright =>
      split
      · simp [Response.refuse]
      next haccepted =>
        split
        · simp [Response.refuse]
        next hother => exact fun _ => ⟨not_not.mp hright, hother, by omega⟩
  · rintro ⟨hright, hother, hrank⟩
    rw [handleSetMemberRank_of_accepted hacting hmember hright hother hrank]
    rfl

include hmember in
/-- The stored rank id is the low byte of the one sent. -/
theorem getMember_changeRank :
    getMember (changeRank world member rank.toUInt8).guild target =
      some (member.withRank rank.toUInt8) := by
  obtain ⟨hmem, hlow⟩ := getMember_eq_some_iff.mp hmember
  apply getMember_eq_some_iff.mpr
  exact ⟨mem_setRank.mpr (.inl ⟨member, hmem, rfl, rfl⟩), hlow⟩

include hmember in
/-- A removal succeeds if the actor has the right to it and the target is below the rank that the
player carries. -/
theorem handleRemoveMember_reply_iff :
    (handleRemoveMember world player target).reply = none ↔
      hasRankRight world.guild player grRightRemove = true ∧
        player.rank % 256 < member.rankId := by
  simp only [handleRemoveMember, hmember]
  split
  next hright => simp [Response.refuse, hright]
  next hright =>
    split
    next hmaster => simp [Response.refuse, hmaster, grGuildMaster]
    · split
      next hhigh => simp [Response.refuse, hhigh]
      next hlow => exact iff_of_true rfl ⟨not_not.mp hright, Nat.lt_of_not_le hlow⟩

/-! ## The hierarchy -/

include hacting in
theorem assignRank_respects_iff :
    RespectsHierarchy world acting (.assignRank target rank)
        (serve world player (.assignRank target rank)) ↔
      StaysBelow world player acting (.assignRank target rank) := by
  constructor
  · intro hrespects member hmember hright hother hrank
    have hdone := handleSetMemberRank_of_accepted hacting hmember hright hother hrank
    have hsucceeds : Succeeds world (.assignRank target rank)
        (serve world player (.assignRank target rank)) :=
      ⟨Option.isSome_iff_exists.mpr ⟨member, hmember⟩, congrArg Response.reply hdone⟩
    have hstays := hrespects.stays hsucceeds target rank rfl _ (congrArg Response.status hdone)
      _ (getMember_changeRank hmember rank)
    rw [Member.withRank_rankId, UInt32.toNat_toUInt8] at hstays
    exact ⟨hrespects.below hsucceeds member hmember, hstays⟩
  · intro hbelow
    -- What a successful request has changed, and that its target was below.
    have haccepted : Succeeds world (.assignRank target rank)
        (serve world player (.assignRank target rank)) →
        ∃ member, getMember world.guild target = some member ∧
          serve world player (.assignRank target rank) =
            .done (changeRank world member rank.toUInt8) ∧
          acting.rankId < member.rankId ∧ acting.rankId < rank.toNat % 256 := by
      rintro ⟨hsome, hreply⟩
      obtain ⟨member, hmember⟩ := Option.isSome_iff_exists.mp hsome
      obtain ⟨hright, hother, hrank⟩ :=
        (handleSetMemberRank_reply_iff hacting hmember rank).mp hreply
      exact ⟨member, hmember, handleSetMemberRank_of_accepted hacting hmember hright hother hrank,
        hbelow member hmember hright hother hrank⟩
    constructor
    · intro hsucceeds member hmember
      obtain ⟨other, hother, -, hlower, -⟩ := haccepted hsucceeds
      exact Option.some.inj (hother.symm.trans hmember) ▸ hlower
    · rintro hsucceeds _ _ ⟨⟩ after hafter current hcurrent
      obtain ⟨member, hmember, hdone, -, hlower⟩ := haccepted hsucceeds
      rw [hdone] at hafter
      obtain rfl : changeRank world member rank.toUInt8 = after := Status.live.inj hafter
      rw [getMember_changeRank hmember rank] at hcurrent
      rw [← Option.some.inj hcurrent, Member.withRank_rankId, UInt32.toNat_toUInt8]
      exact hlower

theorem remove_respects_iff :
    RespectsHierarchy world acting (.remove target) (serve world player (.remove target)) ↔
      StaysBelow world player acting (.remove target) := by
  constructor
  · intro hrespects member hmember hright hrank
    exact hrespects.below ⟨Option.isSome_iff_exists.mpr ⟨member, hmember⟩,
      (handleRemoveMember_reply_iff hmember).mpr ⟨hright, hrank⟩⟩ member hmember
  · intro hbelow
    refine ⟨fun hsucceeds member hmember => ?_, fun _ _ _ hassign => nomatch hassign⟩
    obtain ⟨hright, hrank⟩ := (handleRemoveMember_reply_iff hmember).mp hsucceeds.2
    exact hbelow member hmember hright hrank

/-- A request of a member respects the hierarchy exactly if its target and the rank it assigns are
below the member wherever the server's own checks pass. -/
theorem respectsHierarchy_iff_staysBelow (world : World) (player : Player) (acting : Member)
    (hacting : getMember world.guild player.guid = some acting) (request : MemberRequest) :
    RespectsHierarchy world acting request (serve world player request) ↔
      StaysBelow world player acting request := by
  cases request with
  | assignRank target rank => exact assignRank_respects_iff hacting rank
  | remove target => exact remove_respects_iff

/-! ## An officer -/

def officer : Player where
  guid := 0x0180000000000002
  name := ""
  level := 90
  characterClass := 1
  zoneId := 1519
  accountId := 1
  inWorld := true
  guildId := 1
  rank := 1

def officerEntry : Member :=
  newMember 0x0180000000000002 1
    { name := "", level := 90, characterClass := 1, zoneId := 1519, accountId := 1 }

/-- The officer makes the veteran a guild master. -/
theorem not_always_respectsHierarchy :
    ¬ ∀ world player acting request, getMember world.guild player.guid = some acting →
      acting.rankId ≠ grGuildMaster.toNat →
        RespectsHierarchy world acting request (serve world player request) := by
  intro hall
  have hentry : getMember officeGuild.guild officer.guid = some officerEntry := rfl
  have hbelow := (assignRank_respects_iff hentry 0).mp
    (hall officeGuild officer officerEntry (.assignRank 0x0180000000000003 0) hentry (by decide))
  have hlower := (hbelow _ rfl (by decide) (by decide) (.inl rfl)).2
  exact absurd hlower (by decide)

/-- The officer demotes the veteran. -/
theorem respectsHierarchy_demotion :
    RespectsHierarchy officeGuild officerEntry (.assignRank 0x0180000000000003 3)
      (serve officeGuild officer (.assignRank 0x0180000000000003 3)) := by
  apply (respectsHierarchy_iff_staysBelow officeGuild officer officerEntry rfl _).mpr
  intro member hmember _ _ _
  obtain rfl : _ = member := Option.some.inj hmember
  decide

end MopServer.Guilds
