import MopServer.Entities.ObjectGuid
import MopServer.Groups.GroupStructure

/-! # The flags of raid members in the database

Every member of a group has a row.  A request to set a flag rewrites the row of the member it
names, while main tank and main assist are also taken from whoever has been it before.
-/

namespace MopServer.Groups

open MopServer.Foundation

/-- A row of `group_member`, as far as it is about one group. -/
structure MemberRow where
  memberGuid : UInt32
  memberFlags : UInt8
  subgroup : UInt8
  deriving DecidableEq, Repr

instance instKeyedMemberRow : Keyed MemberRow UInt32 := ⟨MemberRow.memberGuid⟩

/-- `LoadMemberFromDB`, of a player that exists. -/
def MemberRow.load (row : MemberRow) : MemberSlot :=
  { guid := makeNewGuid row.memberGuid.toUInt64 0 HighGuid.player
    group := row.subgroup
    flags := row.memberFlags }

/-- A group and its rows. -/
structure StoredGroup where
  group : Group
  rows : Table MemberRow

namespace StoredGroup

variable (stored : StoredGroup)

def reload : List MemberSlot := stored.rows.rows.map MemberRow.load

/-- `CHAR_UPD_GROUP_MEMBER_FLAG`. -/
def updateGroupMemberFlag (guid : UInt64) (flags : UInt8) : StoredGroup :=
  { stored with
    rows := stored.rows.modify (guidLoPart guid) fun row => { row with memberFlags := flags } }

/-- `SetGroupMemberFlag`, with what it writes. -/
def setGroupMemberFlag (guid : UInt64) (apply : Bool) (flag : MemberFlag) : StoredGroup :=
  if !stored.group.isRaid || !stored.group.isMember guid then stored
  else
    let stored := { stored with group := stored.group.setGroupMemberFlag guid apply flag }
    match stored.group.memberSlot? guid with
    | none => stored
    | some slot => stored.updateGroupMemberFlag guid slot.flags

/-- A request to set or clear a flag of a member. -/
structure FlagRequest where
  guid : UInt64
  apply : Bool
  flag : MemberFlag
  deriving DecidableEq, Repr

def step (stored : StoredGroup) (request : FlagRequest) : StoredGroup :=
  stored.setGroupMemberFlag request.guid request.apply request.flag

end StoredGroup

/-- Two members with the flag are one. -/
def AtMostOne (flag : MemberFlag) (slots : List MemberSlot) : Prop :=
  ∀ first ∈ slots, ∀ second ∈ slots, first.has flag = true → second.has flag = true →
    first = second

instance (flag : MemberFlag) (slots : List MemberSlot) : Decidable (AtMostOne flag slots) :=
  inferInstanceAs (Decidable (∀ first ∈ slots, ∀ second ∈ slots, first.has flag = true →
    second.has flag = true → first = second))

/-- The rows tell the flags of the members, so that the group is the same when it is loaded again,
with at most one main tank and at most one main assist. -/
structure StoredGroup.FlagsSurvive (stored : StoredGroup) : Prop where
  written : ∀ slot ∈ stored.group.memberSlots,
    (stored.rows.get? (guidLoPart slot.guid)).map MemberRow.memberFlags = some slot.flags
  reloaded : ∀ slot, slot ∈ stored.reload ↔ slot ∈ stored.group.memberSlots
  mainTank : AtMostOne .mainTank stored.reload
  mainAssist : AtMostOne .mainAssist stored.reload

/-- The request takes a flag from nobody but the member it names. -/
def StoredGroup.TakesFromNobody (stored : StoredGroup) (request : StoredGroup.FlagRequest) : Prop :=
  stored.group.isRaid = true → stored.group.isMember request.guid = true →
    request.flag ≠ .assistant →
      ∀ slot ∈ stored.group.memberSlots, slot.has request.flag = true → slot.guid = request.guid

/-! ## Rows -/

variable {stored : StoredGroup} {slot : MemberSlot} {guid : UInt64}

theorem guidLoPart_load (row : MemberRow) : guidLoPart row.load.guid = row.memberGuid :=
  guidLoPart_makeNewGuid_player row.memberGuid

theorem eq_of_guid_eq {rows : Table MemberRow} {first second : MemberSlot}
    (hfirst : first ∈ rows.rows.map MemberRow.load)
    (hsecond : second ∈ rows.rows.map MemberRow.load) (hguid : first.guid = second.guid) :
    first = second := by
  obtain ⟨row, hrow, rfl⟩ := List.mem_map.mp hfirst
  obtain ⟨other, hother, rfl⟩ := List.mem_map.mp hsecond
  have hkey := congrArg guidLoPart hguid
  rw [guidLoPart_load, guidLoPart_load] at hkey
  have hmem : row ∈ rows := hrow
  rw [Table.eq_of_key_eq hmem hother hkey]

/-- The members that are loaded tell what is written about them. -/
theorem flags_of_mem_reload (hslot : slot ∈ stored.reload) :
    (stored.rows.get? (guidLoPart slot.guid)).map MemberRow.memberFlags = some slot.flags := by
  obtain ⟨row, hrow, rfl⟩ := List.mem_map.mp hslot
  have hget : stored.rows.get? row.memberGuid = some row := Table.get?_key hrow
  rw [guidLoPart_load, hget]
  rfl

/-- Flags that are written are loaded, for the member they are written for. -/
theorem mem_reload_updateGroupMemberFlag (hguid : ∃ slot ∈ stored.reload, slot.guid = guid)
    (flags : UInt8) (slot : MemberSlot) :
    slot ∈ (stored.updateGroupMemberFlag guid flags).reload ↔
      ∃ old ∈ stored.reload, (if old.guid = guid then { old with flags := flags } else old) = slot
 := by
  obtain ⟨named, hnamed, rfl⟩ := hguid
  obtain ⟨row, hrow, rfl⟩ := List.mem_map.mp hnamed
  have hsame : ∀ other ∈ stored.rows.rows,
      other.memberGuid = guidLoPart row.load.guid ↔ other.load.guid = row.load.guid := by
    intro other _
    rw [← guidLoPart_load other]
    constructor
    · intro hkey
      rw [guidLoPart_load, guidLoPart_load] at hkey
      unfold MemberRow.load
      rw [hkey]
    · exact congrArg guidLoPart
  unfold StoredGroup.reload StoredGroup.updateGroupMemberFlag Table.modify
  simp only [List.map_map, List.mem_map, Function.comp_apply, exists_exists_and_eq_and]
  refine exists_congr fun other => and_congr_right fun hother => ?_
  have hiff := hsame other hother
  by_cases hkey : other.memberGuid = guidLoPart row.load.guid
  · rw [if_pos (show Keyed.key other = _ from hkey), if_pos (hiff.mp hkey)]
    rfl
  · rw [if_neg (show ¬Keyed.key other = _ from hkey), if_neg fun heq => hkey (hiff.mpr heq)]

/-! ## Requests -/

variable {flag : MemberFlag} {request : FlagRequest}

/-- What a request leaves of a member's slot. -/
def flagged (guid : UInt64) (apply : Bool) (flag : MemberFlag) (slot : MemberSlot) : MemberSlot :=
  if slot.guid = guid then slot.toggleFlag flag apply
  else if flag = .assistant then slot
  else slot.toggleFlag flag false

theorem guid_flagged (guid : UInt64) (apply : Bool) (flag : MemberFlag) (slot : MemberSlot) :
    (flagged guid apply flag slot).guid = slot.guid := by
  unfold flagged
  split
  · rfl
  · split <;> rfl

theorem toggleFlag_toggleFlag (flag : MemberFlag) (apply : Bool) (slot : MemberSlot) :
    (slot.toggleFlag flag false).toggleFlag flag apply = slot.toggleFlag flag apply := by
  unfold MemberSlot.toggleFlag
  cases apply with
  | true =>
    simp only [Bool.false_eq_true, if_false, if_true, MemberSlot.mk.injEq, true_and]
    apply UInt8.toBitVec_inj.mp
    ext i hi
    simp only [UInt8.toBitVec_or, UInt8.toBitVec_and, UInt8.toBitVec_not, BitVec.getElem_or,
      BitVec.getElem_and, BitVec.getElem_not]
    cases slot.flags.toBitVec[i] <;> cases flag.mask.toBitVec[i] <;> rfl
  | false =>
    simp only [Bool.false_eq_true, if_false, MemberSlot.mk.injEq, true_and]
    rw [UInt8.and_assoc, UInt8.and_self]

/-- A flag that is not set need not be cleared. -/
theorem toggleFlag_of_not_has (hhas : slot.has flag = false) :
    slot.toggleFlag flag false = slot := by
  have hzero : slot.flags &&& flag.mask = 0 := by
    unfold MemberSlot.has at hhas
    simpa using hhas
  have hkept : slot.flags &&& ~~~flag.mask = slot.flags := by
    have hbits : slot.flags.toBitVec &&& flag.mask.toBitVec = 0#8 := congrArg UInt8.toBitVec hzero
    apply UInt8.toBitVec_inj.mp
    ext i hi
    have hbit := congrArg (fun bits : BitVec 8 => bits.getLsbD i) hbits
    simp only [BitVec.getLsbD_and, BitVec.getLsbD_zero] at hbit
    simp only [UInt8.toBitVec_and, UInt8.toBitVec_not, ← BitVec.getLsbD_eq_getElem,
      BitVec.getLsbD_and, BitVec.getLsbD_not, decide_eq_true hi, Bool.true_and]
    cases hslot : slot.flags.toBitVec.getLsbD i with
    | false => rfl
    | true => rw [hslot, Bool.true_and] at hbit; rw [hbit]; rfl
  unfold MemberSlot.toggleFlag
  rw [if_neg Bool.false_ne_true, hkept]

/-- Only the member that is named may get a flag. -/
theorem guid_of_has_flagged {apply : Bool} (hflag : flag ≠ .assistant)
    (hhas : (flagged guid apply flag slot).has flag = true) : slot.guid = guid := by
  unfold flagged at hhas
  split at hhas
  · assumption
  · rw [has_toggleFlag_false] at hhas
    cases hhas

theorem has_flagged_of_ne {other : MemberFlag} (hne : other ≠ flag) (guid : UInt64) (apply : Bool)
    (slot : MemberSlot) : (flagged guid apply flag slot).has other = slot.has other := by
  unfold flagged
  split
  · exact has_toggleFlag_of_ne hne apply slot
  · split
    · rfl
    · exact has_toggleFlag_of_ne hne false slot

theorem memberSlots_setGroupMemberFlag {group : Group} (hraid : group.isRaid = true)
    (hmember : group.isMember guid = true) (apply : Bool) (flag : MemberFlag) :
    (group.setGroupMemberFlag guid apply flag).memberSlots =
      group.memberSlots.map (flagged guid apply flag) := by
  have hunique : flag ≠ .assistant →
      ((group.removeUniqueGroupMemberFlag flag).modifySlot guid
        (MemberSlot.toggleFlag flag apply)).memberSlots =
        group.memberSlots.map (flagged guid apply flag) := by
    intro hflag
    unfold Group.modifySlot Group.removeUniqueGroupMemberFlag
    rw [List.map_map]
    refine List.map_congr_left fun slot _ => ?_
    unfold flagged
    rw [if_neg hflag]
    show (if slot.guid = guid then _ else _) = _
    rw [toggleFlag_toggleFlag]
  unfold Group.setGroupMemberFlag
  rw [hraid, hmember]
  cases flag with
  | assistant => exact List.map_congr_left fun slot _ => by simp [flagged]
  | mainTank | mainAssist => exact hunique (by decide)

/-- What a request leaves in memory and in the rows. -/
theorem setGroupMemberFlag_spec {named : MemberSlot} (hraid : stored.group.isRaid = true)
    (hnamed : stored.group.memberSlot? guid = some named) (apply : Bool) (flag : MemberFlag) :
    (stored.setGroupMemberFlag guid apply flag).group.memberSlots =
        stored.group.memberSlots.map (flagged guid apply flag) ∧
      (stored.setGroupMemberFlag guid apply flag).reload =
        (stored.updateGroupMemberFlag guid (named.toggleFlag flag apply).flags).reload := by
  have hmember : stored.group.isMember guid = true := by
    unfold Group.isMember
    rw [hnamed]
    rfl
  have hslots := memberSlots_setGroupMemberFlag hraid hmember apply flag
  have hguid : named.guid = guid := (guid_of_memberSlot? hnamed).2
  have hfound : (stored.group.setGroupMemberFlag guid apply flag).memberSlot? guid =
      some (named.toggleFlag flag apply) := by
    unfold Group.memberSlot? at hnamed ⊢
    rw [hslots, List.find?_map]
    simp only [Function.comp_def, guid_flagged]
    rw [hnamed, Option.map_some]
    unfold flagged
    rw [if_pos hguid]
  unfold StoredGroup.setGroupMemberFlag
  rw [hraid, hmember]
  simp only [Bool.not_true, Bool.or_self, Bool.false_eq_true, if_false, hfound]
  exact ⟨hslots, rfl⟩

theorem step_of_refused {request : StoredGroup.FlagRequest}
    (hrefused : stored.group.isRaid = true → stored.group.isMember request.guid = false) :
    stored.step request = stored := by
  apply if_pos
  cases hraid : stored.group.isRaid with
  | false => rfl
  | true => rw [hrefused hraid]; rfl

theorem StoredGroup.FlagsSurvive.step (hstored : stored.FlagsSurvive)
    (hnobody : stored.TakesFromNobody request) : (stored.step request).FlagsSurvive := by
  by_cases hrefused : stored.group.isRaid = true → stored.group.isMember request.guid = false
  · rw [step_of_refused hrefused]
    exact hstored
  push Not at hrefused
  obtain ⟨hraid, hmember⟩ := hrefused
  have hmember := Bool.eq_true_of_not_eq_false hmember
  obtain ⟨named, hnamed⟩ := Option.isSome_iff_exists.mp hmember
  obtain ⟨hnamedMem, hguid⟩ := guid_of_memberSlot? hnamed
  obtain ⟨hslots, hreload⟩ := setGroupMemberFlag_spec hraid hnamed request.apply request.flag
  have hloaded : ∃ slot ∈ stored.reload, slot.guid = request.guid :=
    ⟨named, (hstored.reloaded named).mpr hnamedMem, hguid⟩
  -- In memory and in the rows alike, the request changes the slot of the member it names.
  have hsame : ∀ old ∈ stored.group.memberSlots,
      flagged request.guid request.apply request.flag old =
      if old.guid = request.guid then
        { old with flags := (named.toggleFlag request.flag request.apply).flags } else old := by
    intro old hold
    unfold flagged
    split
    next hself =>
      have hone : old = named := eq_of_guid_eq ((hstored.reloaded old).mpr hold)
        ((hstored.reloaded named).mpr hnamedMem) (hself.trans hguid.symm)
      rw [hone]
      rfl
    next hother =>
      split
      · rfl
      next hflag =>
        have hclear : old.has request.flag = false := by
          cases hhas : old.has request.flag with
          | false => rfl
          | true => exact absurd (hnobody hraid hmember hflag old hold hhas) hother
        exact toggleFlag_of_not_has hclear
  have hmem : ∀ slot, slot ∈ (stored.step request).reload ↔
      slot ∈ (stored.step request).group.memberSlots := by
    intro slot
    unfold StoredGroup.step
    rw [hreload, hslots, mem_reload_updateGroupMemberFlag hloaded, List.mem_map]
    refine exists_congr fun old => ?_
    rw [hstored.reloaded old]
    refine and_congr_right fun hold => ?_
    rw [hsame old hold]
  have hunique : ∀ kind, kind ≠ .assistant → AtMostOne kind stored.reload →
      AtMostOne kind (stored.step request).reload := by
    intro kind hkind hone first hfirst second hsecond hfirstHas hsecondHas
    have hmembers : ∀ slot ∈ (stored.step request).reload, ∃ old ∈ stored.reload,
        flagged request.guid request.apply request.flag old = slot := by
      intro slot hslot
      have hlater := (hmem slot).mp hslot
      unfold StoredGroup.step at hlater
      rw [hslots, List.mem_map] at hlater
      obtain ⟨old, hold, heq⟩ := hlater
      exact ⟨old, (hstored.reloaded old).mpr hold, heq⟩
    obtain ⟨one, hone', rfl⟩ := hmembers first hfirst
    obtain ⟨two, htwo, rfl⟩ := hmembers second hsecond
    congr 1
    by_cases hsameFlag : kind = request.flag
    · subst hsameFlag
      exact eq_of_guid_eq hone' htwo
        ((guid_of_has_flagged hkind hfirstHas).trans (guid_of_has_flagged hkind hsecondHas).symm)
    · rw [has_flagged_of_ne hsameFlag] at hfirstHas hsecondHas
      exact hone one hone' two htwo hfirstHas hsecondHas
  exact
    { written := fun slot hslot => flags_of_mem_reload ((hmem slot).mpr hslot)
      reloaded := hmem
      mainTank := hunique .mainTank (by decide) hstored.mainTank
      mainAssist := hunique .mainAssist (by decide) hstored.mainAssist }

/-- A member that loses a flag to another one keeps it in his row. -/
theorem StoredGroup.FlagsSurvive.takesFromNobody (hstored : stored.FlagsSurvive)
    (hafter : (stored.step request).FlagsSurvive) : stored.TakesFromNobody request := by
  intro hraid hmember hflag old hold hhas
  by_contra hother
  obtain ⟨named, hnamed⟩ := Option.isSome_iff_exists.mp hmember
  obtain ⟨hnamedMem, hguid⟩ := guid_of_memberSlot? hnamed
  obtain ⟨hslots, hreload⟩ := setGroupMemberFlag_spec hraid hnamed request.apply request.flag
  have hloaded : ∃ slot ∈ stored.reload, slot.guid = request.guid :=
    ⟨named, (hstored.reloaded named).mpr hnamedMem, hguid⟩
  have hrow : old ∈ (stored.step request).reload := by
    unfold StoredGroup.step
    rw [hreload, mem_reload_updateGroupMemberFlag hloaded]
    exact ⟨old, (hstored.reloaded old).mpr hold, if_neg hother⟩
  have hslot := (hafter.reloaded old).mp hrow
  unfold StoredGroup.step at hslot
  rw [hslots, List.mem_map] at hslot
  obtain ⟨before, -, rfl⟩ := hslot
  exact hother ((guid_flagged _ _ _ before).trans (guid_of_has_flagged hflag hhas))

/-- The flags survive the runs in which no request takes main tank or main assist from another
member. -/
theorem flagsSurvive_iff_takesFromNobody (stored : StoredGroup)
    (requests : List StoredGroup.FlagRequest) :
    (∀ reached ∈ visited StoredGroup.step stored requests, reached.FlagsSurvive) ↔
      stored.FlagsSurvive ∧
        Along StoredGroup.step StoredGroup.TakesFromNobody stored requests :=
  forall_visited_iff_along StoredGroup.step StoredGroup.FlagsSurvive StoredGroup.TakesFromNobody
    (fun _ _ hstored => ⟨hstored.takesFromNobody, hstored.step⟩) stored requests

def twoRaiders : StoredGroup where
  group :=
    { Group.blank .normal (makeNewGuid 1 0 HighGuid.player) with
      isRaid := true
      memberSlots := [⟨makeNewGuid 1 0 HighGuid.player, 0, 0⟩,
        ⟨makeNewGuid 2 0 HighGuid.player, 0, 0⟩] }
  rows := ⟨[⟨1, 0, 0⟩, ⟨2, 0, 0⟩], by decide⟩

theorem twoRaiders_flagsSurvive : twoRaiders.FlagsSurvive where
  written := by decide
  reloaded slot := by
    have hsame : twoRaiders.reload = twoRaiders.group.memberSlots := by decide
    rw [hsame]
  mainTank := by decide
  mainAssist := by decide

def handedOver : List StoredGroup.FlagRequest :=
  [⟨makeNewGuid 1 0 HighGuid.player, true, .mainTank⟩,
    ⟨makeNewGuid 2 0 HighGuid.player, true, .mainTank⟩]

/-- Both members are main tank when the raid is loaded. -/
theorem not_always_flagsSurvive :
    ¬∀ (stored : StoredGroup) requests, stored.FlagsSurvive →
      ∀ reached ∈ visited StoredGroup.step stored requests, reached.FlagsSurvive := by
  intro hall
  have hlast := hall twoRaiders handedOver twoRaiders_flagsSurvive
    (handedOver.foldl StoredGroup.step twoRaiders) (by simp [handedOver, visited])
  exact absurd hlast.mainTank (by decide)

end MopServer.Groups
