import MopServer.Chat.Channel
import MopServer.Foundation.Run

/-! # Who owns a channel

The owner is named by the channel and marked in his entry.  The two agree until a channel is filled
again that still names its last owner, or the owner removes himself while there are others.
-/

namespace MopServer.Chat

open MopServer.Foundation

/-! ## Flags -/

namespace PlayerInfo

variable (info : PlayerInfo) (flag : MemberFlag) (state : Bool)

theorem toBitVec_setFlag :
    (info.setFlag flag state).flags.toBitVec =
      withFlags info.flags.toBitVec flag.mask.toBitVec state := by
  cases state <;> rfl

theorem has_eq : info.has flag = decide (info.flags.toBitVec &&& flag.mask.toBitVec ≠ 0#8) := by
  refine decide_eq_decide.mpr (not_congr ?_)
  rw [← UInt8.toBitVec_inj]
  rfl

@[simp] theorem has_setFlag_self : (info.setFlag flag state).has flag = state := by
  rw [has_eq, toBitVec_setFlag, withFlags_and_self]
  cases state <;> cases flag <;> rfl

theorem has_setFlag_of_ne {flag other : MemberFlag} (hne : other ≠ flag) (info : PlayerInfo)
    (state : Bool) : (info.setFlag flag state).has other = info.has other := by
  have hdisjoint : flag.mask.toBitVec &&& other.mask.toBitVec = 0#8 := by
    cases flag <;> cases other <;> first | rfl | exact absurd rfl hne
  rw [has_eq, has_eq, toBitVec_setFlag, withFlags_and_of_disjoint hdisjoint]

@[simp] theorem isOwner_setOwner :
    (info.setOwner state).isOwner = state := has_setFlag_self info .owner state

@[simp] theorem isModerator_setModerator :
    (info.setModerator state).isModerator = state := has_setFlag_self info .moderator state

@[simp] theorem isOwner_setModerator :
    (info.setModerator state).isOwner = info.isOwner := has_setFlag_of_ne (by decide) info state

@[simp] theorem isModerator_setOwner : (info.setOwner state).isModerator = info.isModerator :=
  has_setFlag_of_ne (by decide) info state

@[simp] theorem isOwner_setMuted :
    (info.setMuted state).isOwner = info.isOwner := has_setFlag_of_ne (by decide) info state

@[simp] theorem isModerator_setMuted : (info.setMuted state).isModerator = info.isModerator :=
  has_setFlag_of_ne (by decide) info state

end PlayerInfo

namespace Channel

variable {channel : Channel}

/-! ## Entries -/

variable {guid : Nat} {named : Member} {f : PlayerInfo → PlayerInfo}

theorem isOn_iff : channel.isOn guid = true ↔ ∃ member ∈ channel.players,
    member.guid = guid := by
  unfold isOn
  rw [Option.isSome_iff_exists]
  exact exists_congr fun member => Table.get?_eq_some_iff

/-- `[]` on an entry that is there changes that entry alone. -/
theorem mem_modify_of_mem (hnamed : named ∈ channel.players) (f : PlayerInfo → PlayerInfo)
    {member : Member} :
    member ∈ (channel.modify named.guid f).players ↔ member = ⟨named.guid, f named.info⟩ ∨
      member ∈ channel.players ∧ member.guid ≠ named.guid := by
  have hget : channel.players.get? named.guid = some named := Table.get?_key hnamed
  unfold modify put
  rw [hget]
  exact Table.mem_insert

/-- What a channel with owner must be like, as long as it need not have one. -/
structure Tidy (channel : Channel) : Prop where
  custom : channel.isConstant = false
  owned : channel.ownership = true
  marked : ∀ member ∈ channel.players, member.info.isOwner = true →
    member.guid = channel.ownerGuid
  named : ∀ member ∈ channel.players, member.info.player = member.guid
  unbanned : ∀ member ∈ channel.players, member.guid ∉ channel.banned
  nonzero : ∀ member ∈ channel.players, member.guid ≠ 0

/-- And it has one if it has members. -/
structure Led (channel : Channel) : Prop extends Tidy channel where
  owner : channel.players.rows ≠ [] → ∃ member ∈ channel.players,
    member.guid = channel.ownerGuid ∧ member.info.isOwner = true ∧
      member.info.isModerator = true

theorem Tidy.led_of_empty (htidy : channel.Tidy) (hempty : channel.players.rows = []) :
    channel.Led where
  toTidy := htidy
  owner hne := absurd hempty hne

theorem Tidy.modify (htidy : channel.Tidy) (hnamed : named ∈ channel.players)
    (hplayer : (f named.info).player = named.info.player)
    (howner : (f named.info).isOwner = true → named.guid = channel.ownerGuid) :
    (channel.modify named.guid f).Tidy := by
  refine ⟨htidy.custom, htidy.owned, ?_, ?_, ?_, ?_⟩ <;> intro member hmember <;>
    rcases (mem_modify_of_mem hnamed f).mp hmember with rfl | ⟨hold, -⟩
  · exact howner
  · exact htidy.marked member hold
  · exact hplayer.trans (htidy.named named hnamed)
  · exact htidy.named member hold
  · exact htidy.unbanned named hnamed
  · exact htidy.unbanned member hold
  · exact htidy.nonzero named hnamed
  · exact htidy.nonzero member hold

/-- Whatever happens to flags other than that of the owner, while he remains a moderator. -/
theorem Led.modify (hled : channel.Led) (hnamed : named ∈ channel.players)
    (hplayer : (f named.info).player = named.info.player)
    (howner : (f named.info).isOwner = named.info.isOwner)
    (hmoderator : named.guid = channel.ownerGuid → named.info.isModerator = true →
      (f named.info).isModerator = true) : (channel.modify named.guid f).Led where
  toTidy := hled.toTidy.modify hnamed hplayer fun hisOwner =>
    hled.marked named hnamed (howner ▸ hisOwner)
  owner _ := by
    obtain ⟨owner, hmem, hguid, hisOwner, hisModerator⟩ := hled.owner (List.ne_nil_of_mem hnamed)
    by_cases hself : owner.guid = named.guid
    · have hsame : owner = named := Table.eq_of_key_eq hmem hnamed hself
      rw [hsame] at hguid hisOwner hisModerator
      exact ⟨⟨named.guid, f named.info⟩, (mem_modify_of_mem hnamed f).mpr (Or.inl rfl), hguid,
        howner.trans hisOwner, hmoderator hguid hisModerator⟩
    · exact ⟨owner, (mem_modify_of_mem hnamed f).mpr (Or.inr ⟨hmem, hself⟩), hguid, hisOwner,
        hisModerator⟩

theorem Tidy.crown (htidy : channel.Tidy) (hnamed : named ∈ channel.players)
    (hguid : named.guid = channel.ownerGuid) (hmoderator : named.info.isModerator = true) :
    (channel.modify named.guid fun info => info.setOwner true).Led where
  toTidy := htidy.modify hnamed rfl fun _ => hguid
  owner _ := ⟨⟨named.guid, named.info.setOwner true⟩, (mem_modify_of_mem hnamed _).mpr (Or.inl rfl),
    hguid, PlayerInfo.isOwner_setOwner _ _, by simpa using hmoderator⟩

/-- The mark is taken from the last owner, if he is there. -/
def uncrown (channel : Channel) : Channel :=
  if channel.ownerGuid ≠ 0 && channel.isOn channel.ownerGuid then
    channel.modify channel.ownerGuid fun info => info.setOwner false
  else channel

theorem Tidy.uncrown (htidy : channel.Tidy) :
    channel.uncrown.Tidy ∧ (∀ member ∈ channel.uncrown.players, member.info.isOwner = false) ∧
      ∀ guid, channel.isOn guid = true → channel.uncrown.isOn guid = true := by
  unfold Channel.uncrown
  split
  next hon =>
    obtain ⟨owner, hmem, hguid⟩ := isOn_iff.mp (Bool.and_eq_true_iff.mp hon).2
    rw [← hguid]
    refine ⟨htidy.modify hmem rfl fun _ => hguid, fun member hmember => ?_, fun guid hguidOn => ?_⟩
    · rcases (mem_modify_of_mem hmem _).mp hmember with rfl | ⟨hold, hne⟩
      · exact PlayerInfo.isOwner_setOwner _ _
      · refine Bool.eq_false_iff.mpr fun hisOwner => hne ?_
        exact (htidy.marked member hold hisOwner).trans hguid.symm
    · obtain ⟨member, hmember, rfl⟩ := isOn_iff.mp hguidOn
      by_cases hself : member.guid = owner.guid
      · exact isOn_iff.mpr ⟨_, (mem_modify_of_mem hmem _).mpr (Or.inl rfl), hself.symm⟩
      · exact isOn_iff.mpr
          ⟨member, (mem_modify_of_mem hmem _).mpr (Or.inr ⟨hmember, hself⟩), rfl⟩
  next hoff =>
    refine ⟨htidy, fun member hmember => Bool.eq_false_iff.mpr fun hisOwner => hoff ?_,
      fun _ hguidOn => hguidOn⟩
    have hguid := htidy.marked member hmember hisOwner
    have hnonzero := hguid ▸ htidy.nonzero member hmember
    exact Bool.and_eq_true_iff.mpr ⟨by simpa using hnonzero, isOn_iff.mpr ⟨member, hmember, hguid⟩⟩

theorem isOn_modify_self (channel : Channel) (guid : Nat) (f : PlayerInfo → PlayerInfo) :
    (channel.modify guid f).isOn guid = true :=
  isOn_iff.mpr ⟨_, Table.mem_insert.mpr (Or.inl rfl), rfl⟩

theorem isOn_modify {other : Nat} (hon : (channel.modify guid f).isOn other = true) :
    other = guid ∨ channel.isOn other = true := by
  obtain ⟨member, hmember, hguid⟩ := isOn_iff.mp hon
  rcases Table.mem_insert.mp hmember with rfl | ⟨hold, -⟩
  · exact Or.inl hguid.symm
  · exact Or.inr (isOn_iff.mpr ⟨member, hold, hguid⟩)

theorem isOn_uncrown (hon : channel.uncrown.isOn guid = true) : channel.isOn guid = true := by
  unfold Channel.uncrown at hon
  split at hon
  next howner =>
    rcases isOn_modify hon with rfl | hon
    · exact (Bool.and_eq_true_iff.mp howner).2
    · exact hon
  · exact hon

theorem setOwner_eq (hguid : guid ≠ 0) (channel : Channel) :
    channel.setOwner guid =
      (({ channel.uncrown with ownerGuid := guid } : Channel).modify guid fun info =>
        info.setModerator true).modify guid fun info => info.setOwner true := by
  exact if_pos hguid

theorem isOn_setOwner {other : Nat} (hguid : guid ≠ 0)
    (hon : (channel.setOwner guid).isOn other = true) :
    other = guid ∨ channel.isOn other = true := by
  rw [setOwner_eq hguid] at hon
  rcases isOn_modify hon with heq | hon
  · exact Or.inl heq
  rcases isOn_modify hon with heq | hon
  · exact Or.inl heq
  · exact Or.inr (isOn_uncrown hon)

theorem isOn_setOwner_self (channel : Channel) (hguid : guid ≠ 0) :
    (channel.setOwner guid).isOn guid = true := by
  rw [setOwner_eq hguid]
  exact isOn_modify_self _ _ _

theorem Tidy.setOwner (htidy : channel.Tidy) (hon : channel.isOn guid = true) :
    (channel.setOwner guid).Led := by
  obtain ⟨htidied, hnobody, hstays⟩ := htidy.uncrown
  obtain ⟨named, hnamed, rfl⟩ := isOn_iff.mp (hstays guid hon)
  set chosen : Channel := { channel.uncrown with ownerGuid := named.guid } with hdef
  have hchosen : chosen.Tidy :=
    ⟨htidied.custom, htidied.owned, fun member hmember hisOwner =>
      absurd hisOwner (Bool.eq_false_iff.mp (hnobody member hmember)), htidied.named,
      htidied.unbanned, htidied.nonzero⟩
  have hmem : named ∈ chosen.players := hnamed
  have hmoderated : (chosen.modify named.guid fun info => info.setModerator true).Tidy :=
    hchosen.modify hmem rfl fun _ => rfl
  have hentry : (⟨named.guid, named.info.setModerator true⟩ : Member) ∈
      (chosen.modify named.guid fun info => info.setModerator true).players :=
    (mem_modify_of_mem hmem _).mpr (Or.inl rfl)
  have hled := hmoderated.crown hentry rfl (PlayerInfo.isModerator_setModerator _ _)
  have hnonzero : named.guid ≠ 0 := htidied.nonzero named hnamed
  rw [setOwner_eq hnonzero]
  exact hled

/-! ## Requests -/

variable {banned : Finset Nat} {world : World}

theorem Led.setModerator (hled : channel.Led) (hon : channel.isOn guid = true) {state : Bool}
    (hstate : guid = channel.ownerGuid → state = true) :
    (channel.modify guid fun info => info.setModerator state).Led := by
  obtain ⟨named, hnamed, rfl⟩ := isOn_iff.mp hon
  refine hled.modify hnamed rfl (PlayerInfo.isOwner_setModerator _ _) fun hguid _ => ?_
  rw [hstate hguid]
  exact PlayerInfo.isModerator_setModerator _ _

theorem Led.setMuted (hled : channel.Led) (hon : channel.isOn guid = true) (state : Bool) :
    (channel.modify guid fun info => info.setMuted state).Led := by
  obtain ⟨named, hnamed, rfl⟩ := isOn_iff.mp hon
  exact hled.modify hnamed rfl (PlayerInfo.isOwner_setMuted _ _) fun _ hmoderator =>
    (PlayerInfo.isModerator_setMuted _ _).trans hmoderator

theorem Tidy.promote (htidy : channel.Tidy) (hon : channel.isOn guid = true) :
    ((channel.modify guid fun info => info.setModerator true).setOwner guid).Led := by
  obtain ⟨named, hnamed, rfl⟩ := isOn_iff.mp hon
  have hmoderated : (channel.modify named.guid fun info => info.setModerator true).Tidy :=
    htidy.modify hnamed rfl fun hisOwner => htidy.marked named hnamed
      (PlayerInfo.isOwner_setModerator _ _ ▸ hisOwner)
  exact hmoderated.setOwner (isOn_iff.mpr ⟨_, (mem_modify_of_mem hnamed _).mpr (Or.inl rfl), rfl⟩)

/-- The members without one of them. -/
theorem Tidy.erase (htidy : channel.Tidy) (guid : Nat)
    (hbanned : ∀ other, other ≠ guid → other ∉ channel.banned → other ∉ banned) :
    ({ channel with players := channel.players.erase guid, banned := banned } : Channel).Tidy where
  custom := htidy.custom
  owned := htidy.owned
  marked member hmember := htidy.marked member (Table.mem_erase.mp hmember).1
  named member hmember := htidy.named member (Table.mem_erase.mp hmember).1
  unbanned member hmember := by
    obtain ⟨hold, hne⟩ := Table.mem_erase.mp hmember
    exact hbanned member.guid hne (htidy.unbanned member hold)
  nonzero member hmember := htidy.nonzero member (Table.mem_erase.mp hmember).1

theorem Led.erase (hled : channel.Led) (hguid : guid ≠ channel.ownerGuid)
    (hbanned : ∀ other, other ≠ guid → other ∉ channel.banned → other ∉ banned) :
    ({ channel with players := channel.players.erase guid, banned := banned } : Channel).Led where
  toTidy := hled.toTidy.erase guid hbanned
  owner hne := by
    have hsome : channel.players.rows ≠ [] := by
      obtain ⟨member, hmember⟩ := List.exists_mem_of_ne_nil _ hne
      exact List.ne_nil_of_mem (Table.mem_erase.mp (Table.mem_def.mpr hmember)).1
    obtain ⟨owner, hmem, hself, hmarks⟩ := hled.owner hsome
    exact ⟨owner, Table.mem_erase.mpr ⟨hmem, fun heq => hguid (heq.symm.trans hself)⟩, hself,
      hmarks⟩

/-- Somebody joins who may. -/
theorem Tidy.put (htidy : channel.Tidy) (hnonzero : guid ≠ 0) (hunbanned : guid ∉ channel.banned) :
    (channel.put guid ⟨guid, 0⟩).Tidy := by
  refine ⟨htidy.custom, htidy.owned, ?_, ?_, ?_, ?_⟩ <;> intro member hmember <;>
    rcases Table.mem_insert.mp hmember with rfl | ⟨hold, -⟩
  · have hnobody : (PlayerInfo.mk guid 0).isOwner = false := by
      change decide ((0 : UInt8) &&& MemberFlag.owner.mask ≠ 0) = false
      decide
    exact fun hisOwner => absurd (hnobody.symm.trans hisOwner) Bool.false_ne_true
  · exact htidy.marked member hold
  · rfl
  · exact htidy.named member hold
  · exact hunbanned
  · exact htidy.unbanned member hold
  · exact hnonzero
  · exact htidy.nonzero member hold

theorem admits_iff {p : Nat} {pass : String} (hadmits : channel.admits world p pass = true) :
    channel.isOn p = false ∧ p ∉ channel.banned := by
  unfold admits isBanned at hadmits
  simp only [Bool.and_eq_true, Bool.not_eq_true', decide_eq_false_iff_not] at hadmits
  exact ⟨hadmits.1.1.1, hadmits.1.1.2⟩

theorem Led.join (hled : channel.Led) (world : World) (p : PlayerGuid) (pass : String)
    (hfresh : channel.admits world p pass = true → channel.players.rows = [] →
      channel.ownerGuid = 0) : (channel.join world p pass).Led := by
  unfold Channel.join
  split
  next hadmits =>
    obtain ⟨hoff, hunbanned⟩ := admits_iff hadmits
    have hput : (channel.put p ⟨p, 0⟩).Tidy := hled.toTidy.put p.2 hunbanned
    have hcustom : (channel.put p ⟨p, 0⟩).isConstant = false := hled.custom
    have howned : (channel.put p ⟨p, 0⟩).ownership = true := hled.owned
    have hon : (channel.put p ⟨p, 0⟩).isOn p = true :=
      isOn_iff.mpr ⟨⟨p, ⟨p, 0⟩⟩, Table.mem_insert.mpr (Or.inl rfl), rfl⟩
    simp only [hcustom, howned, Bool.not_false, Bool.true_and, Bool.and_true, decide_eq_true_eq]
    split
    · exact (hput.setOwner hon).setModerator (isOn_setOwner_self _ p.2) fun _ => rfl
    next howner =>
      have hsome : channel.players.rows ≠ [] := fun hempty => howner (hfresh hadmits hempty)
      obtain ⟨owner, hmem, hself, hmarks⟩ := hled.owner hsome
      have hne : owner.guid ≠ p := by
        intro heq
        rw [isOn_iff.mpr ⟨owner, hmem, heq⟩] at hoff
        cases hoff
      exact
        { toTidy := hput
          owner := fun _ => ⟨owner, Table.mem_insert.mpr (Or.inr ⟨hmem, hne⟩), hself, hmarks⟩ }
  · exact hled

theorem Led.leave (hled : channel.Led) (p : Nat) : (channel.leave p).Led := by
  unfold Channel.leave
  split
  · exact hled
  next member hget =>
  obtain ⟨hmember, hguid⟩ := Table.get?_eq_some_iff.mp hget
  extract_lets left
  have herased : left.Tidy := hled.toTidy.erase p fun _ _ hnot => hnot
  split
  · split
    next hempty => exact herased.led_of_empty hempty
    next first rest hrows =>
      have hfirst : first ∈ channel.players.erase p := by
        rw [Table.mem_def, hrows]
        exact List.mem_cons_self
      rw [show first.info.player = first.guid from herased.named first hfirst]
      exact herased.promote (isOn_iff.mpr ⟨first, hfirst, rfl⟩)
  next hkept =>
    refine hled.erase (fun heq => hkept ?_) fun _ _ hnot => hnot
    obtain ⟨owner, hmem, hself, hisOwner, -⟩ := hled.owner (List.ne_nil_of_mem hmember)
    have hsame : member = owner :=
      Table.eq_of_key_eq hmember hmem ((hguid.trans heq).trans hself.symm)
    rw [hsame]
    refine Bool.and_eq_true_iff.mpr ⟨Bool.and_eq_true_iff.mpr ⟨?_, hisOwner⟩, hled.owned⟩
    exact Bool.not_eq_true' _ |>.mpr hled.custom

theorem isOn_of_kicked {good bad : Nat} {badname : String}
    (hkicked : channel.kicked world good badname = some bad) :
    channel.isOn good = true ∧ channel.isOn bad = true := by
  unfold kicked at hkicked
  split at hkicked
  next hmoderates =>
    refine ⟨(Bool.and_eq_true_iff.mp hmoderates).1, ?_⟩
    split at hkicked
    · cases hkicked
    split at hkicked
    · cases hkicked
    next hon =>
      split at hkicked
      · cases hkicked
      · cases hkicked
        simpa using hon
  · cases hkicked

theorem Led.kickOrBan (hled : channel.Led) (world : World) (good : Nat) (badname : String)
    (ban : Bool)
    (hother : channel.kicked world good badname = some good → good = channel.ownerGuid →
      ∀ member ∈ channel.players, member.guid = good) :
    (channel.kickOrBan world good badname ban).Led ∧
      ∀ bad, channel.kicked world good badname = some bad →
        (channel.kickOrBan world good badname ban).isOn bad = false := by
  unfold Channel.kickOrBan
  split
  next hnobody => exact ⟨hled, fun bad hkicked => by rw [hnobody] at hkicked; cases hkicked⟩
  next bad hkicked =>
  obtain ⟨hgood, hbad⟩ := isOn_of_kicked hkicked
  extract_lets changeowner removed
  have hbanned : ∀ other, other ≠ bad → other ∉ channel.banned →
      other ∉ if ban then insert bad channel.banned else channel.banned := by
    intro other hne hnot
    split
    · exact Finset.mem_insert.not.mpr (not_or.mpr ⟨hne, hnot⟩)
    · exact hnot
  have htidy : removed.Tidy := hled.toTidy.erase bad hbanned
  have hgone : removed.isOn bad = false := by
    refine Bool.eq_false_iff.mpr fun hon => ?_
    obtain ⟨member, hmember, hguid⟩ := isOn_iff.mp hon
    exact (Table.mem_erase.mp hmember).2 hguid
  split
  next hchange =>
    simp only [Bool.and_eq_true, decide_eq_true_eq] at hchange
    obtain ⟨⟨howner, -⟩, hsome⟩ := hchange
    have hne : good ≠ bad := by
      rintro rfl
      obtain ⟨member, hmember⟩ := List.exists_mem_of_ne_nil _ hsome
      obtain ⟨hold, hnot⟩ := Table.mem_erase.mp (Table.mem_def.mpr hmember)
      exact hnot (hother hkicked howner.symm member hold)
    have hgoodOn : removed.isOn good = true := by
      obtain ⟨member, hmember, hguid⟩ := isOn_iff.mp hgood
      have hne' : member.guid ≠ bad := hguid ▸ hne
      exact isOn_iff.mpr ⟨member, Table.mem_erase.mpr ⟨hmember, hne'⟩, hguid⟩
    refine ⟨htidy.promote hgoodOn, fun other hother => ?_⟩
    cases hkicked.symm.trans hother
    refine Bool.eq_false_iff.mpr fun hon => ?_
    have hnonzero : good ≠ 0 := by
      obtain ⟨member, hmember, hguid⟩ := isOn_iff.mp hgoodOn
      exact hguid ▸ htidy.nonzero member hmember
    rcases isOn_setOwner hnonzero hon with heq | hon
    · exact hne heq.symm
    rcases isOn_modify hon with heq | hon
    · exact hne heq.symm
    · exact Bool.eq_false_iff.mp hgone hon
  next hkept =>
    refine ⟨?_, fun other hother => ?_⟩
    · by_cases howner : channel.ownerGuid = bad
      · refine htidy.led_of_empty (by_contra fun hsome => hkept ?_)
        have howned : removed.ownership = true := hled.owned
        simp [changeowner, howner, howned, hsome]
      · exact hled.erase (Ne.symm howner) hbanned
    · cases hkicked.symm.trans hother
      exact hgone

theorem Led.unBan (hled : channel.Led) (world : World) (good : Nat) (badname : String) :
    (channel.unBan world good badname).Led := by
  unfold Channel.unBan
  split
  · split
    · exact hled
    · exact
        { hled with
          unbanned := fun member hmember hbanned =>
            hled.unbanned member hmember (Finset.mem_of_mem_erase hbanned) }
  · exact hled

theorem Led.setMode (hled : channel.Led) (world : World) (p : Nat) (p2n : String)
    (mod set : Bool) : (channel.setMode world p p2n mod set).Led := by
  unfold Channel.setMode
  split
  · exact hled
  split
  · split
    · exact hled
    next newp _ =>
    split
    · exact hled
    next hself =>
    split
    · exact hled
    next hon =>
    have hon : channel.isOn newp.guid = true := by simpa using hon
    split
    · exact hled
    split
    · exact hled
    next howner =>
    split
    next hmod =>
      -- A moderator other than the owner cannot name the owner, and the owner not himself.
      refine hled.setModerator hon fun hguid => ?_
      by_cases hp : p = channel.ownerGuid
      · exact absurd (by simp [hp, hguid, hmod]) hself
      · exact absurd (by simp [hguid, Ne.symm hp]) howner
    · exact hled.setMuted hon set
  · exact hled

theorem Led.setOwnerByName (hled : channel.Led) (world : World) (p : Nat) (newname : String) :
    (channel.setOwnerByName world p newname).Led := by
  unfold Channel.setOwnerByName
  split
  · exact hled
  split
  · exact hled
  split
  · exact hled
  split
  · exact hled
  split
  · exact hled
  next hon =>
  split
  · exact hled
  · exact hled.toTidy.promote (by simpa using hon)

/-! ## Runs -/

/-- While there are members one of them is marked as the owner, the one that is named, and he is a
moderator; the entries hold their own guids, and no banned player is a member. -/
structure Owned (channel : Channel) : Prop where
  owner : channel.players.rows ≠ [] → ∃ member ∈ channel.players,
    member.guid = channel.ownerGuid ∧ member.info.isOwner = true ∧
      member.info.isModerator = true ∧
        ∀ other ∈ channel.players, other.info.isOwner = true → other = member
  named : ∀ member ∈ channel.players, member.info.player = member.guid
  unbanned : ∀ member ∈ channel.players, member.guid ∉ channel.banned

/-- After the request the channel is owned as it should be, and whom it removes is no member. -/
def KeepsOwnership (channel : Channel) (call : Call) : Prop :=
  (channel.step call).Owned ∧
    match call.request with
    | .kickOrBan good badname _ => ∀ bad, channel.kicked call.world good badname = some bad →
        (channel.step call).isOn bad = false
    | _ => True

/-- Nobody joins an empty channel that still names an owner, and the owner does not remove himself
while there are other members. -/
def Orderly (channel : Channel) (call : Call) : Prop :=
  match call.request with
  | .join p pass => channel.admits call.world p pass = true → channel.players.rows = [] →
      channel.ownerGuid = 0
  | .kickOrBan good badname _ => channel.kicked call.world good badname = some good.val →
      good.val = channel.ownerGuid → ∀ member ∈ channel.players, member.guid = good
  | _ => True

/-- A custom channel with ownership, without members and without owner. -/
structure Fresh (channel : Channel) : Prop where
  custom : channel.isConstant = false
  owned : channel.ownership = true
  empty : channel.players.rows = []
  ownerless : channel.ownerGuid = 0

theorem Fresh.led (hfresh : channel.Fresh) : channel.Led := by
  have hnobody : ∀ member, member ∉ channel.players := fun member hmember => by
    rw [Table.mem_def, hfresh.empty] at hmember
    cases hmember
  exact
    { custom := hfresh.custom
      owned := hfresh.owned
      marked := fun member hmember => absurd hmember (hnobody member)
      named := fun member hmember => absurd hmember (hnobody member)
      unbanned := fun member hmember => absurd hmember (hnobody member)
      nonzero := fun member hmember => absurd hmember (hnobody member)
      owner := fun hsome => absurd hfresh.empty hsome }

theorem Led.isOwned (hled : channel.Led) : channel.Owned where
  owner hsome := by
    obtain ⟨member, hmember, hguid, hisOwner, hmoderator⟩ := hled.owner hsome
    refine ⟨member, hmember, hguid, hisOwner, hmoderator, fun other hother hmarked => ?_⟩
    exact Table.eq_of_key_eq hother hmember ((hled.marked other hother hmarked).trans hguid.symm)
  named := hled.named
  unbanned := hled.unbanned

theorem Led.step (hled : channel.Led) {call : Call} (horderly : channel.Orderly call) :
    (channel.step call).Led ∧ channel.KeepsOwnership call := by
  obtain ⟨world, request⟩ := call
  cases request with
  | join p pass =>
    have hnext : (channel.join world p pass).Led := hled.join world p pass horderly
    exact ⟨hnext, hnext.isOwned, trivial⟩
  | leave p =>
    have hnext : (channel.leave p).Led := hled.leave p
    exact ⟨hnext, hnext.isOwned, trivial⟩
  | kickOrBan good badname ban =>
    obtain ⟨hnext, hgone⟩ := hled.kickOrBan world good badname ban horderly
    exact ⟨hnext, hnext.isOwned, hgone⟩
  | unBan good badname =>
    have hnext : (channel.unBan world good badname).Led := hled.unBan world good badname
    exact ⟨hnext, hnext.isOwned, trivial⟩
  | setMode p p2n mod set =>
    have hnext : (channel.setMode world p p2n mod set).Led := hled.setMode world p p2n mod set
    exact ⟨hnext, hnext.isOwned, trivial⟩
  | setOwner p newname =>
    have hnext : (channel.setOwnerByName world p newname).Led := hled.setOwnerByName world p newname
    exact ⟨hnext, hnext.isOwned, trivial⟩

theorem not_owned_join {p : Nat} {pass : String} (hadmits : channel.admits world p pass = true)
    (hempty : channel.players.rows = []) (howner : channel.ownerGuid ≠ 0) :
    ¬(channel.join world p pass).Owned := by
  intro howned
  have hjoin : channel.join world p pass = channel.put p ⟨p, 0⟩ := by
    unfold Channel.join
    rw [if_pos hadmits]
    refine if_neg fun htaken => howner ?_
    exact of_decide_eq_true (Bool.and_eq_true_iff.mp (Bool.and_eq_true_iff.mp htaken).1).2
  rw [hjoin] at howned
  have hon : (⟨p, ⟨p, 0⟩⟩ : Member) ∈ (channel.put p ⟨p, 0⟩).players :=
    Table.mem_insert.mpr (Or.inl rfl)
  obtain ⟨member, hmember, -, hisOwner, -⟩ := howned.owner (List.ne_nil_of_mem hon)
  rcases Table.mem_insert.mp hmember with rfl | ⟨hold, -⟩
  · have hnobody : (PlayerInfo.mk p 0).isOwner = false := by
      change decide ((0 : UInt8) &&& MemberFlag.owner.mask ≠ 0) = false
      decide
    exact absurd (hnobody.symm.trans hisOwner) Bool.false_ne_true
  · rw [Table.mem_def, hempty] at hold
    cases hold

/-- An owner that removes himself while there are others is put back in. -/
theorem isOn_kickOrBan_self (hled : channel.Led) {good : Nat} {badname : String} (ban : Bool)
    (hkicked : channel.kicked world good badname = some good) (howner : good = channel.ownerGuid)
    {other : Member} (hother : other ∈ channel.players) (hne : other.guid ≠ good) :
    (channel.kickOrBan world good badname ban).isOn good = true := by
  obtain ⟨hgood, -⟩ := isOn_of_kicked hkicked
  obtain ⟨member, hmember, rfl⟩ := isOn_iff.mp hgood
  have hsome : (channel.players.erase member.guid).rows ≠ [] :=
    List.ne_nil_of_mem (Table.mem_erase.mpr ⟨hother, hne⟩)
  unfold Channel.kickOrBan
  rw [hkicked]
  dsimp only
  rw [if_pos (by simp [← howner, hled.owned, hsome])]
  exact isOn_setOwner_self _ (hled.nonzero member hmember)

theorem keepsOwnership_iff_orderly (hled : channel.Led) (call : Call) :
    channel.KeepsOwnership call ↔ channel.Orderly call := by
  refine ⟨fun hkeeps => ?_, fun horderly => (hled.step horderly).2⟩
  obtain ⟨world, request⟩ := call
  cases request with
  | join p pass =>
    intro hadmits hempty
    by_contra howner
    exact not_owned_join hadmits hempty howner hkeeps.1
  | kickOrBan good badname ban =>
    intro hkicked howner member hmember
    by_contra hne
    have hon := isOn_kickOrBan_self hled ban hkicked howner hmember hne
    exact Bool.false_ne_true ((hkeeps.2 good hkicked).symm.trans hon)
  | leave _ | unBan _ _ | setMode _ _ _ _ | setOwner _ _ => trivial

/-- A channel stays owned exactly along the runs of orderly requests. -/
theorem keepsOwnership_iff_orderly_along (channel : Channel) (hfresh : channel.Fresh)
    (calls : List Call) :
    Along step KeepsOwnership channel calls ↔ Along step Orderly channel calls :=
  along_iff_of_invariant step Led (fun _ _ hled horderly => (hled.step horderly).1)
    (fun _ call hled => keepsOwnership_iff_orderly hled call) channel calls hfresh.led

def custom : Channel where
  players := .empty
  banned := ∅
  special := false
  ownership := true
  password := ""
  flags := 0x01
  channelId := 0
  ownerGuid := 0

theorem custom_fresh : custom.Fresh := ⟨rfl, rfl, rfl, rfl⟩

def busyWorld : World where
  players := [⟨1, by decide, "Thrall", 0, 67, false⟩, ⟨2, by decide, "Jaina", 0, 67, false⟩]
  restrictedLfgChannel := false
  allowTwoSideInteractionChannel := false

/-- The owner kicks himself. -/
def selfKick : List Call :=
  [⟨busyWorld, .join ⟨1, by decide⟩ ""⟩, ⟨busyWorld, .join ⟨2, by decide⟩ ""⟩,
    ⟨busyWorld, .kickOrBan ⟨1, by decide⟩ "Thrall" false⟩]

theorem keepsOwnership_joins : Along step KeepsOwnership custom (selfKick.take 2) :=
  (keepsOwnership_iff_orderly_along custom custom_fresh (selfKick.take 2)).mpr
    ⟨fun _ _ => rfl, fun _ hempty => absurd hempty (by decide +kernel), trivial⟩

/-- He is still a member. -/
theorem not_always_keepsOwnership :
    ¬∀ (channel : Channel) (_ : channel.Fresh) calls, Along step KeepsOwnership channel calls := by
  intro hall
  obtain ⟨-, -, ⟨-, hgone⟩, -⟩ := hall custom custom_fresh selfKick
  have hstays : (selfKick.foldl step custom).isOn 1 = true := by decide +kernel
  have hleft := hgone 1 (by decide +kernel)
  exact Bool.false_ne_true (hleft.symm.trans hstays)

end Channel

end MopServer.Chat
