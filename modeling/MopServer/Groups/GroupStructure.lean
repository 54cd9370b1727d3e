import MopServer.Foundation.Bits
import MopServer.Foundation.Run
import MopServer.Groups.Group

/-! # The structure of groups

The counters of a raid agree with the subgroups of its members, subgroups do not overflow, and
the leader of a group is one of its members.
-/

namespace MopServer.Groups

open MopServer.Foundation

/-- How many members a subgroup has. -/
def Group.sizeOf (group : Group) (subgroup : UInt8) : Nat :=
  group.memberSlots.countP fun slot => slot.group = subgroup

/-- A group in which everything agrees. -/
structure Group.WellFormed (group : Group) : Prop where
  counted : ∀ counts, group.subGroupsCounts = some counts → ∀ subgroup,
    (counts subgroup).toNat = group.sizeOf subgroup ∧ (counts subgroup).toNat ≤ maxGroupSize
  nodup : (group.memberSlots.map MemberSlot.guid).Nodup
  subgroups : ∀ slot ∈ group.memberSlots, slot.group.toNat < maxRaidSubgroups
  leader : ∃ slot ∈ group.memberSlots, slot.guid = group.leaderGuid
  mainTank : (group.memberSlots.countP (·.has .mainTank)) ≤ 1
  mainAssist : (group.memberSlots.countP (·.has .mainAssist)) ≤ 1

/-- The accounts of the members. -/
structure Group.Books (group : Group) : Prop where
  counted : ∀ counts, group.subGroupsCounts = some counts → ∀ subgroup,
    (counts subgroup).toNat = group.sizeOf subgroup
  sizes : ∀ subgroup, group.sizeOf subgroup ≤ maxGroupSize
  party : group.isRaid = false → group.membersCount ≤ maxGroupSize
  raid : group.isRaid = group.subGroupsCounts.isSome
  nodup : (group.memberSlots.map MemberSlot.guid).Nodup
  subgroups : ∀ slot ∈ group.memberSlots, slot.group.toNat < maxRaidSubgroups
  unique : ∀ flag, flag ≠ .assistant → (group.memberSlots.countP (·.has flag)) ≤ 1

/-- The leader is a member. -/
def Group.Led (group : Group) : Prop := ∃ slot ∈ group.memberSlots, slot.guid = group.leaderGuid

theorem wellFormed_of_books {group : Group} (hbooks : group.Books) (hled : group.Led) :
    group.WellFormed where
  counted counts hcounts subgroup := by
    have hcount := hbooks.counted counts hcounts subgroup
    exact ⟨hcount, hcount ▸ hbooks.sizes subgroup⟩
  nodup := hbooks.nodup
  subgroups := hbooks.subgroups
  leader := hled
  mainTank := hbooks.unique .mainTank (by decide)
  mainAssist := hbooks.unique .mainAssist (by decide)

/-! ## Flags -/

variable {flag : MemberFlag}

theorem has_toggleFlag_of_ne {other : MemberFlag} (hne : other ≠ flag) (apply : Bool)
    (slot : MemberSlot) : (slot.toggleFlag flag apply).has other = slot.has other := by
  have hdisjoint : flag.mask &&& other.mask = 0 := by
    cases flag <;> cases other <;> first | exact absurd rfl hne | rfl
  unfold MemberSlot.has MemberSlot.toggleFlag
  cases apply with
  | true =>
    rw [if_pos rfl, or_and_of_disjoint hdisjoint]
  | false =>
    rw [if_neg Bool.false_ne_true, and_not_and_of_disjoint hdisjoint]

theorem has_toggleFlag_false (flag : MemberFlag) (slot : MemberSlot) :
    (slot.toggleFlag flag false).has flag = false := by
  have hzero : (slot.flags &&& ~~~flag.mask) &&& flag.mask = 0 := by
    rw [UInt8.and_assoc]
    have hmask : ~~~flag.mask &&& flag.mask = 0 := by cases flag <;> decide
    rw [hmask, UInt8.and_zero]
  unfold MemberSlot.has MemberSlot.toggleFlag
  rw [if_neg Bool.false_ne_true, hzero]
  rfl

/-! ## Slots that are rewritten -/

section

variable {group : Group} {guid : UInt64} {f : MemberSlot → MemberSlot} (hbooks : group.Books)

include hbooks in
/-- Two member lists with the same guids and subgroups are of the same sizes. -/
theorem books_map (hguid : ∀ slot, (f slot).guid = slot.guid)
    (hgroup : ∀ slot, (f slot).group = slot.group)
    (hunique : ∀ flag, flag ≠ .assistant → (group.memberSlots.map f).countP (·.has flag) ≤ 1) :
    { group with memberSlots := group.memberSlots.map f }.Books := by
  have hsize : ∀ subgroup, { group with memberSlots := group.memberSlots.map f }.sizeOf subgroup =
      group.sizeOf subgroup := by
    intro subgroup
    unfold Group.sizeOf
    rw [List.countP_map]
    refine List.countP_congr fun slot _ => ?_
    simp [hgroup]
  refine ⟨?_, ?_, ?_, hbooks.raid, ?_, ?_, hunique⟩
  · intro counts hcounts subgroup
    rw [hsize]
    exact hbooks.counted counts hcounts subgroup
  · intro subgroup
    rw [hsize]
    exact hbooks.sizes subgroup
  · intro hparty
    simpa [Group.membersCount] using hbooks.party hparty
  · have hguids : (group.memberSlots.map f).map MemberSlot.guid =
        group.memberSlots.map MemberSlot.guid := by
      simp [Function.comp_def, hguid]
    rw [hguids]
    exact hbooks.nodup
  · intro slot hslot
    obtain ⟨old, hold, rfl⟩ := List.mem_map.mp hslot
    rw [hgroup]
    exact hbooks.subgroups old hold

/-- Rewriting that does not touch a flag leaves the number of members who have it. -/
theorem countP_map_has (hf : ∀ slot, (f slot).has flag = slot.has flag) (slots : List MemberSlot) :
    (slots.map f).countP (·.has flag) = slots.countP (·.has flag) := by
  rw [List.countP_map]
  refine List.countP_congr fun slot _ => ?_
  simp [hf]

theorem led_map (hled : group.Led) (hguid : ∀ slot, (f slot).guid = slot.guid) :
    { group with memberSlots := group.memberSlots.map f }.Led := by
  obtain ⟨slot, hslot, hleader⟩ := hled
  exact ⟨f slot, List.mem_map.mpr ⟨slot, hslot, rfl⟩, (hguid slot).trans hleader⟩

include hbooks in
theorem countP_guid_le_one (guid : UInt64) :
    group.memberSlots.countP (fun slot => slot.guid = guid) ≤ 1 := by
  have hcount := List.nodup_iff_count_le_one.mp hbooks.nodup guid
  rw [List.count, List.countP_map] at hcount
  refine le_trans (le_of_eq (List.countP_congr fun slot _ => ?_)) hcount
  simp

include hbooks in
theorem unique_of_none (hnone : ∀ slot ∈ group.memberSlots, slot.has flag = false) (apply : Bool) :
    (group.modifySlot guid (MemberSlot.toggleFlag flag apply)).memberSlots.countP
      (·.has flag) ≤ 1 := by
  refine le_trans ?_ (countP_guid_le_one hbooks guid)
  unfold Group.modifySlot
  rw [List.countP_map]
  refine List.countP_mono_left fun slot hslot hhas => ?_
  simp only [Function.comp_apply] at hhas
  split at hhas
  next hguid => simpa using hguid
  · rw [hnone slot hslot] at hhas
    cases hhas

include hbooks in
/-- Clearing a flag keeps the accounts. -/
theorem books_removeUniqueGroupMemberFlag (flag : MemberFlag) :
    (group.removeUniqueGroupMemberFlag flag).Books := by
  refine books_map hbooks (fun _ => rfl) (fun _ => rfl) fun other hother => ?_
  by_cases hsame : other = flag
  · subst hsame
    have hzero : (group.memberSlots.map (MemberSlot.toggleFlag other false)).countP
        (·.has other) = 0 := by
      rw [List.countP_map]
      refine List.countP_eq_zero.mpr fun slot _ => ?_
      simp [has_toggleFlag_false]
    omega
  · rw [countP_map_has (has_toggleFlag_of_ne hsame false)]
    exact hbooks.unique other hother

include hbooks in
theorem books_modifySlot_toggleFlag (apply : Bool)
    (hnone : flag ≠ .assistant → ∀ slot ∈ group.memberSlots, slot.has flag = false) :
    (group.modifySlot guid (MemberSlot.toggleFlag flag apply)).Books := by
  refine books_map hbooks ?_ ?_ fun other hother => ?_
  · intro slot
    split <;> rfl
  · intro slot
    split <;> rfl
  · by_cases hsame : other = flag
    · subst hsame
      exact unique_of_none hbooks (hnone hother) apply
    · have hkeep : ∀ slot : MemberSlot, (if slot.guid = guid then slot.toggleFlag flag apply
          else slot).has other = slot.has other := by
        intro slot
        split
        · exact has_toggleFlag_of_ne hsame apply slot
        · rfl
      rw [countP_map_has hkeep]
      exact hbooks.unique other hother

theorem led_modifySlot (hled : group.Led) (hguid : ∀ slot, (f slot).guid = slot.guid) :
    (group.modifySlot guid f).Led := by
  refine led_map hled fun slot => ?_
  split
  · exact hguid slot
  · rfl

include hbooks in
theorem setGroupMemberFlag_kept (hled : group.Led) (guid : UInt64) (apply : Bool)
    (flag : MemberFlag) :
    (group.setGroupMemberFlag guid apply flag).Books ∧
      (group.setGroupMemberFlag guid apply flag).Led := by
  have hcleared : ∀ flag, ∀ slot ∈ (group.removeUniqueGroupMemberFlag flag).memberSlots,
      slot.has flag = false := by
    intro flag slot hslot
    obtain ⟨old, -, rfl⟩ := List.mem_map.mp hslot
    exact has_toggleFlag_false flag old
  have hclear := books_removeUniqueGroupMemberFlag hbooks
  have hledClear : ∀ flag, (group.removeUniqueGroupMemberFlag flag).Led :=
    fun flag => led_map hled fun _ => rfl
  unfold Group.setGroupMemberFlag
  split
  · exact ⟨hbooks, hled⟩
  · cases flag with
    | assistant =>
      exact ⟨books_modifySlot_toggleFlag hbooks apply fun hne => absurd rfl hne,
        led_modifySlot hled fun _ => rfl⟩
    | mainTank =>
      exact ⟨books_modifySlot_toggleFlag (hclear .mainTank) apply fun _ => hcleared .mainTank,
        led_modifySlot (hledClear .mainTank) fun _ => rfl⟩
    | mainAssist =>
      exact ⟨books_modifySlot_toggleFlag (hclear .mainAssist) apply fun _ => hcleared .mainAssist,
        led_modifySlot (hledClear .mainAssist) fun _ => rfl⟩

/-! ## Counters -/

variable {slot : MemberSlot}

theorem sizeOf_le_membersCount (group : Group) (subgroup : UInt8) :
    group.sizeOf subgroup ≤ group.membersCount := List.countP_le_length

include hbooks in
/-- A group that is not full has a place for a new member in the subgroup he gets. -/
theorem freeSubGroup_spec (hfull : group.isFull = false) {subgroup : UInt8}
    (hfree : group.freeSubGroup = some subgroup) :
    group.sizeOf subgroup < maxGroupSize ∧ subgroup.toNat < maxRaidSubgroups := by
  unfold Group.freeSubGroup at hfree
  split at hfree
  next hnone =>
    obtain rfl := Option.some.inj hfree
    have hparty : group.isRaid = false := by rw [hbooks.raid, hnone]; rfl
    have hle := sizeOf_le_membersCount group 0
    have hlt : group.membersCount < maxGroupSize := by simpa [Group.isFull, hparty] using hfull
    exact ⟨by omega, by decide⟩
  next counts hcounts =>
    have hlt := List.find?_some hfree
    rw [decide_eq_true_eq, hbooks.counted counts hcounts] at hlt
    have hmem := List.mem_of_find?_eq_some hfree
    obtain ⟨index, hindex, rfl⟩ := List.mem_map.mp hmem
    have hsmall : index < maxRaidSubgroups := List.mem_range.mp hindex
    refine ⟨hlt, ?_⟩
    rw [UInt8.toNat_ofNat']
    exact lt_of_le_of_lt (Nat.mod_le _ _) hsmall

include hbooks in
/-- A new member keeps the accounts. -/
theorem books_addMember (hfull : group.isFull = false) (hnew : group.isMember guid = false) :
    (group.addMember guid).Books := by
  unfold Group.addMember
  split
  · exact hbooks
  next subgroup hfree =>
  obtain ⟨hlt, hindex⟩ := freeSubGroup_spec hbooks hfull hfree
  have hsize : ∀ other, Group.sizeOf
      ({ group with memberSlots := group.memberSlots ++ [⟨guid, subgroup, 0⟩] } : Group) other =
      group.sizeOf other + if subgroup = other then 1 else 0 := by
    intro other
    unfold Group.sizeOf
    rw [List.countP_append, List.countP_singleton]
    simp
  refine ⟨?_, ?_, ?_, ?_, ?_, ?_, ?_⟩
  · intro counts hcounts other
    obtain ⟨old, hold, rfl⟩ := Option.map_eq_some_iff.mp hcounts
    have hcount := hbooks.counted old hold
    refine Eq.trans ?_ (hsize other).symm
    by_cases hsame : other = subgroup
    · rw [hsame, Function.update_self, if_pos rfl, toNat_add_one, hcount]
      rw [hcount]
      exact lt_trans hlt (by decide)
    · rw [Function.update_of_ne hsame, if_neg (Ne.symm hsame), hcount, Nat.add_zero]
  · intro other
    refine le_trans (le_of_eq (hsize other)) ?_
    have hold := hbooks.sizes other
    split
    next hsame =>
      subst hsame
      omega
    · omega
  · intro hparty
    have hparty : group.isRaid = false := hparty
    have hroom : group.membersCount < maxGroupSize := by simpa [Group.isFull, hparty] using hfull
    simp only [Group.membersCount, Group.subGroupCounterIncrease, List.length_append,
      List.length_singleton] at hroom ⊢
    omega
  · simp only [Group.subGroupCounterIncrease, Option.isSome_map]
    exact hbooks.raid
  · simp only [Group.subGroupCounterIncrease, List.map_append, List.map_cons, List.map_nil]
    refine List.nodup_append.mpr ⟨hbooks.nodup, List.nodup_singleton guid, ?_⟩
    intro other hother _ hguid heq
    obtain ⟨slot, hslot, rfl⟩ := List.mem_map.mp hother
    rw [List.mem_singleton.mp hguid] at heq
    unfold Group.isMember Group.memberSlot? at hnew
    rw [Option.isSome_eq_false_iff, Option.isNone_iff_eq_none, List.find?_eq_none] at hnew
    exact hnew slot hslot (by simpa using heq)
  · intro slot hslot
    rcases List.mem_append.mp hslot with hold | hadded
    · exact hbooks.subgroups slot hold
    · rw [List.mem_singleton.mp hadded]
      exact hindex
  · intro flag hflag
    have hnone : (⟨guid, subgroup, 0⟩ : MemberSlot).has flag = false := by
      simp [MemberSlot.has]
    simp only [Group.subGroupCounterIncrease, List.countP_append, List.countP_singleton, hnone]
    simpa using hbooks.unique flag hflag

theorem mem_addMember (hslot : slot ∈ group.memberSlots) :
    slot ∈ (group.addMember guid).memberSlots := by
  unfold Group.addMember
  split
  · exact hslot
  · exact List.mem_append_left _ hslot

theorem foldl_count (slots : List MemberSlot) (counts : UInt8 → UInt8) (subgroup : UInt8) :
    slots.foldl (fun counts slot => Function.update counts slot.group (counts slot.group + 1))
      counts subgroup =
      counts subgroup + UInt8.ofNat (slots.countP fun slot => slot.group = subgroup) := by
  induction slots generalizing counts with
  | nil => simp
  | cons slot rest ih =>
    rw [List.foldl_cons, ih, List.countP_cons]
    by_cases hsame : slot.group = subgroup
    · subst hsame
      simp only [Function.update_self, decide_true, if_true, UInt8.ofNat_add]
      rw [UInt8.add_assoc, UInt8.add_comm 1]
      rfl
    · rw [Function.update_of_ne (Ne.symm hsame)]
      simp [hsame]

include hbooks in
theorem books_initRaidSubGroupsCounter :
    { group with isRaid := true }.initRaidSubGroupsCounter.Books := by
  refine ⟨?_, hbooks.sizes, ?_, rfl, hbooks.nodup, hbooks.subgroups, hbooks.unique⟩
  · intro counts hcounts subgroup
    obtain rfl := Option.some.inj hcounts
    have hsize := hbooks.sizes subgroup
    have hlt : group.sizeOf subgroup < 2 ^ 8 := by
      unfold maxGroupSize at hsize
      omega
    rw [foldl_count, UInt8.zero_add]
    exact UInt8.toNat_ofNat_of_lt hlt
  · intro hparty
    cases hparty

/-! ## One slot -/

variable (hslot : group.memberSlot? guid = some slot)

include hbooks hslot in
theorem memberSlots_split :
    ∃ before after, group.memberSlots = before ++ slot :: after ∧
      (group.memberSlots.eraseP fun slot => slot.guid = guid) = before ++ after ∧
      ∀ f, (group.modifySlot guid f).memberSlots = before ++ f slot :: after := by
  obtain ⟨hguid, before, after, hsplit, hbefore⟩ := List.find?_eq_some_iff_append.mp hslot
  have hguid : slot.guid = guid := by simpa using hguid
  have hbefore : ∀ other ∈ before, other.guid ≠ guid := by simpa using hbefore
  have hafter : ∀ other ∈ after, other.guid ≠ guid := by
    have hnodup := hbooks.nodup
    rw [hsplit, List.map_append, List.map_cons] at hnodup
    have hfresh := (List.nodup_cons.mp (List.nodup_append.mp hnodup).2.1).1
    intro other hother heq
    exact hfresh (List.mem_map.mpr ⟨other, hother, heq.trans hguid.symm⟩)
  refine ⟨before, after, hsplit, ?_, fun f => ?_⟩
  · have hnone : ∀ other ∈ before, ¬ decide (other.guid = guid) = true := by simpa using hbefore
    rw [hsplit, List.eraseP_append_right (slot :: after) hnone,
      List.eraseP_cons_of_pos (by simpa using hguid)]
  · have hkeep : ∀ slots : List MemberSlot, (∀ other ∈ slots, other.guid ≠ guid) →
        slots.map (fun slot => if slot.guid = guid then f slot else slot) = slots := by
      intro slots hslots
      exact (List.map_congr_left fun other hother => if_neg (hslots other hother)).trans
        (List.map_id' slots)
    unfold Group.modifySlot
    rw [hsplit, List.map_append, List.map_cons, hkeep before hbefore, hkeep after hafter,
      if_pos hguid]

theorem sizeOf_split {slots : List MemberSlot} {before after : List MemberSlot}
    (hsplit : slots = before ++ slot :: after) (subgroup : UInt8) :
    slots.countP (fun slot => slot.group = subgroup) =
      (before ++ after).countP (fun slot => slot.group = subgroup) +
        if slot.group = subgroup then 1 else 0 := by
  rw [hsplit, List.countP_append, List.countP_append, List.countP_cons]
  simp only [decide_eq_true_eq]
  omega

include hslot in
theorem guid_of_memberSlot? : slot ∈ group.memberSlots ∧ slot.guid = guid :=
  ⟨List.mem_of_find?_eq_some hslot, by simpa using List.find?_some hslot⟩

include hbooks in
/-- Moving a member to a subgroup with a free place keeps the accounts. -/
theorem books_changeMembersGroup {subgroup : UInt8} (hlt : group.sizeOf subgroup < maxGroupSize)
    (hindex : subgroup.toNat < maxRaidSubgroups) :
    (group.changeMembersGroup guid subgroup).Books := by
  unfold Group.changeMembersGroup
  split
  · exact hbooks
  split
  · exact hbooks
  next slot hslot =>
  split
  · exact hbooks
  next hne =>
  obtain ⟨before, after, hsplit, -, hmodify⟩ := memberSlots_split hbooks hslot
  have hmodified := hmodify fun slot => { slot with group := subgroup }
  have hsize : ∀ other, (group.modifySlot guid fun slot => { slot with group := subgroup }).sizeOf
      other + (if slot.group = other then 1 else 0) =
      group.sizeOf other + if subgroup = other then 1 else 0 := by
    intro other
    unfold Group.sizeOf
    rw [sizeOf_split hsplit, sizeOf_split hmodified]
    dsimp only
    omega
  refine ⟨?_, ?_, ?_, ?_, ?_, ?_, ?_⟩
  · intro counts hcounts other
    obtain ⟨increased, hincreased, rfl⟩ := Option.map_eq_some_iff.mp hcounts
    obtain ⟨old, hold, rfl⟩ := Option.map_eq_some_iff.mp hincreased
    have hcount := hbooks.counted old hold
    have hother : _ = group.sizeOf other + if subgroup = other then 1 else 0 := hsize other
    refine Eq.trans ?_ (Nat.eq_sub_of_add_eq hother).symm
    by_cases hold : other = slot.group
    · subst hold
      rw [Function.update_self, Function.update_of_ne hne, if_pos rfl, if_neg (Ne.symm hne)]
      have hpositive : 0 < group.sizeOf slot.group := by
        have hsplit := sizeOf_split hsplit slot.group
        rw [if_pos rfl] at hsplit
        unfold Group.sizeOf
        omega
      rw [toNat_sub_one (by rw [hcount]; exact hpositive), hcount, Nat.add_zero]
    · rw [Function.update_of_ne hold, if_neg (Ne.symm hold)]
      by_cases hnew : other = subgroup
      · subst hnew
        rw [Function.update_self, if_pos rfl, toNat_add_one, hcount, Nat.sub_zero]
        rw [hcount]
        exact lt_trans hlt (by decide)
      · rw [Function.update_of_ne hnew, if_neg (Ne.symm hnew), hcount, Nat.add_zero, Nat.sub_zero]
  · intro other
    have hother := hsize other
    have hold := hbooks.sizes other
    refine le_trans (le_of_eq (Nat.eq_sub_of_add_eq hother)) ?_
    by_cases hnew : subgroup = other
    · subst hnew
      rw [if_pos rfl]
      omega
    · rw [if_neg hnew]
      omega
  · intro hparty
    have hcount := hbooks.party hparty
    simpa [Group.membersCount, Group.subGroupCounterDecrease, Group.subGroupCounterIncrease,
      Group.modifySlot] using hcount
  · simp only [Group.subGroupCounterDecrease, Group.subGroupCounterIncrease, Option.isSome_map]
    exact hbooks.raid
  · have hnodup := hbooks.nodup
    rw [hsplit] at hnodup
    refine Eq.mpr (congrArg (fun slots : List MemberSlot => (slots.map MemberSlot.guid).Nodup)
      hmodified) ?_
    simpa using hnodup
  · intro other hother
    obtain ⟨old, hold, rfl⟩ := List.mem_map.mp hother
    split
    · exact hindex
    · exact hbooks.subgroups old hold
  · intro flag hflag
    have hkeep : ∀ slot : MemberSlot, (if slot.guid = guid then { slot with group := subgroup }
        else slot).has flag = slot.has flag := by
      intro slot
      split <;> rfl
    exact le_trans (le_of_eq (countP_map_has hkeep group.memberSlots)) (hbooks.unique flag hflag)

include hbooks in
/-- A member who goes away keeps the accounts. -/
theorem books_eraseMember (guid : UInt64) : (group.eraseMember guid).Books := by
  unfold Group.eraseMember
  split
  · exact hbooks
  next slot hslot =>
  obtain ⟨before, after, hsplit, herased, -⟩ := memberSlots_split hbooks hslot
  have hsublist : (group.memberSlots.eraseP fun slot => slot.guid = guid).Sublist
    group.memberSlots := List.eraseP_sublist
  have hsize : ∀ other, group.sizeOf other =
      (group.memberSlots.eraseP fun slot => slot.guid = guid).countP
        (fun slot => slot.group = other) + if slot.group = other then 1 else 0 := by
    intro other
    rw [herased]
    exact sizeOf_split hsplit other
  refine ⟨?_, ?_, ?_, ?_, ?_, ?_, ?_⟩
  · intro counts hcounts other
    obtain ⟨old, hold, rfl⟩ := Option.map_eq_some_iff.mp hcounts
    have hcount := hbooks.counted old hold
    have hother := hsize other
    refine Eq.trans ?_ (Nat.eq_sub_of_add_eq hother.symm).symm
    by_cases hsame : other = slot.group
    · subst hsame
      rw [if_pos rfl] at hother
      rw [Function.update_self, if_pos rfl, toNat_sub_one (by rw [hcount]; omega), hcount]
    · rw [Function.update_of_ne hsame, if_neg (Ne.symm hsame), hcount, Nat.sub_zero]
  · intro other
    exact le_trans (hsublist.countP_le) (hbooks.sizes other)
  · intro hparty
    exact le_trans hsublist.length_le (hbooks.party hparty)
  · simp only [Group.subGroupCounterDecrease, Option.isSome_map]
    exact hbooks.raid
  · exact hbooks.nodup.sublist (hsublist.map MemberSlot.guid)
  · exact fun other hother => hbooks.subgroups other (hsublist.subset hother)
  · exact fun flag hflag => le_trans hsublist.countP_le (hbooks.unique flag hflag)

/-! ## Leaders -/

theorem exists_memberSlot? (hslot : slot ∈ group.memberSlots) :
    ∃ found, group.memberSlot? slot.guid = some found := by
  refine Option.isSome_iff_exists.mp ?_
  unfold Group.memberSlot?
  rw [List.find?_isSome]
  exact ⟨slot, hslot, by simp⟩

include hbooks in
theorem books_changeLeader (online : UInt64 → Bool) (guid : UInt64) :
    (group.changeLeader online guid).Books := by
  unfold Group.changeLeader
  split
  · exact hbooks
  next slot hslot =>
  split
  · have hled : { group with leaderGuid := slot.guid }.Books :=
      ⟨hbooks.counted, hbooks.sizes, hbooks.party, hbooks.raid, hbooks.nodup, hbooks.subgroups,
        hbooks.unique⟩
    exact books_modifySlot_toggleFlag hled false fun hne => absurd rfl hne
  · exact hbooks

include hslot in
theorem led_changeLeader_of_online {online : UInt64 → Bool} (honline : online guid = true) :
    (group.changeLeader online guid).Led := by
  obtain ⟨hmem, hguid⟩ := guid_of_memberSlot? hslot
  unfold Group.changeLeader
  rw [hslot]
  dsimp only
  rw [if_pos (by rw [hguid]; exact honline)]
  have hled : { group with leaderGuid := slot.guid }.Led := ⟨slot, hmem, rfl⟩
  exact led_modifySlot hled fun _ => rfl

theorem led_changeLeader (hled : group.Led) (online : UInt64 → Bool) (guid : UInt64) :
    (group.changeLeader online guid).Led := by
  cases hslot : group.memberSlot? guid with
  | none =>
    unfold Group.changeLeader
    rw [hslot]
    exact hled
  | some slot =>
    by_cases honline : online guid = true
    · exact led_changeLeader_of_online hslot honline
    · unfold Group.changeLeader
      rw [hslot]
      dsimp only
      rw [if_neg (by rw [(guid_of_memberSlot? hslot).2]; exact honline)]
      exact hled

/-! ## A member leaves -/

theorem leaderGuid_eraseMember (group : Group) (guid : UInt64) :
    (group.eraseMember guid).leaderGuid = group.leaderGuid := by
  unfold Group.eraseMember
  split <;> rfl

/-- The other members stay. -/
theorem mem_eraseMember (hslot : slot ∈ group.memberSlots) (hne : slot.guid ≠ guid) :
    slot ∈ (group.eraseMember guid).memberSlots := by
  unfold Group.eraseMember
  split
  · exact hslot
  · exact (List.mem_eraseP_of_neg (by simpa using hne)).mpr hslot

include hbooks in
theorem books_pickNewLeader (world : World) (left : UInt64) :
    (group.pickNewLeader world left).Books := by
  unfold Group.pickNewLeader
  split
  · split
    · exact hbooks
    · exact books_changeLeader hbooks _ _
  · exact hbooks

/-- The place of a leader who has left is taken, unless nobody is online. -/
theorem led_pickNewLeader {world : World} {left : UInt64}
    (hled : group.leaderGuid ≠ left → group.Led) :
    (group.pickNewLeader world left).Led ∨ (group.pickNewLeader world left).linked world = 0 := by
  unfold Group.pickNewLeader
  split
  · split
    next hnone =>
      refine Or.inr ?_
      unfold Group.linked
      rw [List.length_eq_zero_iff, List.filter_eq_nil_iff]
      exact List.find?_eq_none.mp hnone
    next slot hslot =>
      obtain ⟨found, hfound⟩ := exists_memberSlot? (List.mem_of_find?_eq_some hslot)
      have honline : world.online slot.guid = true := by simpa using List.find?_some hslot
      exact Or.inl (led_changeLeader_of_online hfound honline)
  next hne => exact Or.inl (hled hne)

include hbooks in
theorem removeMember_kept (hled : group.Led) {world : World} {kicked : Bool} {after : Group}
    (hafter : group.removeMember world kicked guid = some after) : after.Books ∧ after.Led := by
  unfold Group.removeMember at hafter
  split at hafter
  · obtain rfl := Option.some.inj hafter
    exact ⟨hbooks, hled⟩
  split at hafter
  · have hstay : (group.eraseMember guid).leaderGuid ≠ guid → (group.eraseMember guid).Led := by
      intro hne
      rw [leaderGuid_eraseMember] at hne
      obtain ⟨slot, hslot, hleader⟩ := hled
      refine ⟨slot, mem_eraseMember hslot (by rw [hleader]; exact hne), ?_⟩
      rw [hleader, leaderGuid_eraseMember]
    have hpicked : ((group.eraseMember guid).pickNewLeader world guid).Led ∨
        ((group.eraseMember guid).pickNewLeader world guid).linked world = 0 :=
      led_pickNewLeader hstay
    have hkept := books_pickNewLeader (books_eraseMember hbooks guid) world guid
    dsimp only at hafter
    split at hafter
    · cases hafter
    split at hafter
    · cases hafter
    next hlinked =>
    obtain rfl := Option.some.inj hafter
    refine ⟨hkept, ?_⟩
    rcases hpicked with hled | hzero
    · exact hled
    · rw [hzero] at hlinked
      refine absurd ?_ hlinked
      unfold Group.linkedLimit
      split <;> decide
  · cases hafter

end

/-! ## Runs -/

/-- Members are added who are not in the group, and only while the group is not full. -/
def Permitted : Option Group → GroupEvent → Prop
  | some group, .addMember guid => group.isMember guid = false ∧ group.isFull = false
  | _, _ => True

/-- A group, as long as it exists, is in order. -/
def InOrderWhileExisting (state : Option Group) : Prop :=
  ∀ group, state = some group → group.Books ∧ group.Led

section

variable {group after : Group}

theorem changeSubGroup_kept (hbooks : group.Books) (hled : group.Led) (world : World)
    (tooSoon : Bool) (sender guid : UInt64) (groupNr : UInt8) :
    (handleGroupChangeSubGroup group world tooSoon sender guid groupNr).Books ∧
      (handleGroupChangeSubGroup group world tooSoon sender guid groupNr).Led := by
  unfold handleGroupChangeSubGroup
  split
  · exact ⟨hbooks, hled⟩
  split
  · exact ⟨hbooks, hled⟩
  next hindex =>
  split
  · exact ⟨hbooks, hled⟩
  split
  · exact ⟨hbooks, hled⟩
  next hfree =>
  split
  · have hlt : group.sizeOf groupNr < maxGroupSize := by
      have hfree : group.hasFreeSlotSubGroup groupNr = true := by simpa using hfree
      unfold Group.hasFreeSlotSubGroup at hfree
      cases hcounts : group.subGroupsCounts with
      | none =>
        rw [hcounts] at hfree
        cases hfree
      | some counts =>
        rw [hcounts, Option.any_some, decide_eq_true_eq, hbooks.counted counts hcounts] at hfree
        exact hfree
    refine ⟨books_changeMembersGroup hbooks hlt (by omega), ?_⟩
    unfold Group.changeMembersGroup
    split
    · exact hled
    split
    · exact hled
    split
    · exact hled
    · exact led_modifySlot hled fun _ => rfl
  · exact ⟨hbooks, hled⟩

theorem step_kept (hbooks : group.Books) (hled : group.Led) {event : GroupEvent}
    (hpermitted : Permitted (some group) event) (hafter : group.step event = some after) :
    after.Books ∧ after.Led := by
  cases event with
  | addMember guid =>
    obtain rfl := Option.some.inj hafter
    obtain ⟨slot, hslot, hleader⟩ := hled
    refine ⟨books_addMember hbooks hpermitted.2 hpermitted.1, slot, mem_addMember hslot, ?_⟩
    rw [hleader]
    unfold Group.addMember
    split <;> rfl
  | removeMember world kicked guid => exact removeMember_kept hbooks hled hafter
  | changeLeader online newLeaderGuid =>
    obtain rfl := Option.some.inj hafter
    exact ⟨books_changeLeader hbooks _ _, led_changeLeader hled _ _⟩
  | changeSubGroup world tooSoon sender guid groupNr =>
    obtain rfl := Option.some.inj hafter
    exact changeSubGroup_kept hbooks hled world tooSoon sender guid groupNr
  | convertToRaid =>
    obtain rfl := Option.some.inj hafter
    exact ⟨books_initRaidSubGroupsCounter hbooks, hled⟩
  | convertToGroup =>
    obtain rfl := Option.some.inj hafter
    unfold Group.convertToGroup
    split
    · exact ⟨hbooks, hled⟩
    next hsize =>
      refine ⟨⟨?_, hbooks.sizes, ?_, rfl, hbooks.nodup, hbooks.subgroups, hbooks.unique⟩, hled⟩
      · intro counts hcounts
        cases hcounts
      · exact fun _ => Nat.le_of_not_lt hsize
  | convertToLfg | changeFlagEveryoneAssistant _ =>
    obtain rfl := Option.some.inj hafter
    exact ⟨⟨hbooks.counted, hbooks.sizes, hbooks.party, hbooks.raid, hbooks.nodup,
      hbooks.subgroups, hbooks.unique⟩, hled⟩
  | setGroupMemberFlag guid apply flag =>
    obtain rfl := Option.some.inj hafter
    exact setGroupMemberFlag_kept hbooks hled guid apply flag
  | partyAssignment sender guid assignment apply =>
    obtain rfl := Option.some.inj hafter
    unfold handlePartyAssignment
    split
    · exact ⟨hbooks, hled⟩
    split
    · exact ⟨hbooks, hled⟩
    next flag _ =>
      exact setGroupMemberFlag_kept (books_removeUniqueGroupMemberFlag hbooks flag)
        (led_map hled fun _ => rfl) guid apply flag

end

theorem create_kept (kind : GroupKind) (leader : UInt64) :
    (Group.create kind leader).Books ∧ (Group.create kind leader).Led := by
  have hblank : ∀ raid (counts : Option (UInt8 → UInt8)), raid = counts.isSome →
      (∀ zero, counts = some zero → zero = fun _ => 0) →
      { Group.blank kind leader with isRaid := raid, subGroupsCounts := counts }.Books := by
    intro raid counts hraid hzero
    refine ⟨?_, fun _ => Nat.zero_le _, fun _ => Nat.zero_le _, hraid, List.nodup_nil, ?_,
      fun _ _ => Nat.zero_le _⟩
    · intro zero hcounts subgroup
      rw [hzero zero hcounts]
      rfl
    · exact fun slot hslot => absurd hslot List.not_mem_nil
  have hparty := hblank false none rfl fun _ hsome => absurd hsome (by simp)
  have hraid := hblank true (some fun _ => 0) rfl fun _ hsome => (Option.some.inj hsome).symm
  cases kind with
  | normal => exact ⟨books_addMember hparty rfl rfl, _, List.mem_cons_self, rfl⟩
  | battleground | battlefield => exact ⟨books_addMember hraid rfl rfl, _, List.mem_cons_self, rfl⟩

/-- In every state of a group that has been created, as long as it exists, the counters agree
with the members of the subgroups, which have five members at most, and the leader is a
member. -/
theorem group_wellFormed (kind : GroupKind) (leader : UInt64) (events : List GroupEvent)
    (hpermitted : Along groupStep Permitted (some (Group.create kind leader)) events) :
    ∀ reached ∈ visited groupStep (some (Group.create kind leader)) events,
      ∀ group, reached = some group → group.WellFormed := by
  have hinvariant : ∀ reached ∈ visited groupStep (some (Group.create kind leader)) events,
      InOrderWhileExisting reached := by
    refine invariant_of_along groupStep InOrderWhileExisting Permitted ?_ _ events ?_ hpermitted
    · intro state event hstate hallowed after hafter
      obtain ⟨group, rfl, hstep⟩ := Option.bind_eq_some_iff.mp hafter
      obtain ⟨hbooks, hled⟩ := hstate group rfl
      exact step_kept hbooks hled hallowed hstep
    · intro group hgroup
      obtain rfl := Option.some.inj hgroup
      exact create_kept kind leader
  intro reached hreached group hgroup
  obtain ⟨hbooks, hled⟩ := hinvariant reached hreached group hgroup
  exact wellFormed_of_books hbooks hled

/-- A raid of three loses its leader. -/
theorem group_wellFormed_raid :
    (∀ reached ∈ visited groupStep (some (Group.create .normal 1))
      [.addMember 2, .addMember 3, .convertToRaid, .removeMember ⟨fun _ => true, false, false⟩
        false 1], ∀ group, reached = some group → group.WellFormed) ∧
      ((groupStep (groupStep (groupStep (groupStep (some (Group.create .normal 1)) (.addMember 2))
        (.addMember 3)) .convertToRaid) (.removeMember ⟨fun _ => true, false, false⟩ false 1)).map
          Group.leaderGuid) = some 2 :=
  ⟨group_wellFormed .normal 1 _ ⟨⟨by decide +kernel, by decide +kernel⟩,
    ⟨by decide +kernel, by decide +kernel⟩, trivial, trivial, trivial⟩, by decide +kernel⟩

end MopServer.Groups
