import MopServer.DungeonFinder.LFGMgr

/-! # Removing a proposal

A proposal that fails takes the players who did not agree, with their groups, out of the queues.
The others go back, among the new ones and to the current queue of their team.
-/

namespace MopServer.DungeonFinder

open MopServer.Foundation

/-- The types of removal, `LFG_UPDATETYPE_PROPOSAL_FAILED` and
`LFG_UPDATETYPE_PROPOSAL_DECLINED`. -/
inductive RemovalType where
  | failed
  | declined
  deriving DecidableEq, Repr

/-- The guid a player was queued under: that of the group he had, or his own. -/
def LfgProposalPlayer.queueGuid (player : LfgProposalPlayer) : UInt64 :=
  if player.groupLowGuid ≠ 0 then makeNewGuid player.groupLowGuid.toUInt64 0 HighGuid.group
  else player.guid

/-- Who has not answered when the time is up has declined. -/
def LfgProposalPlayer.answered (type : RemovalType) (player : LfgProposalPlayer) :
    LfgProposalPlayer :=
  if type = .failed ∧ player.accept = .pending then { player with accept := .deny } else player

/-- The player makes his queue entry be removed. -/
def LfgProposalPlayer.refuses (type : RemovalType) (player : LfgProposalPlayer) : Bool :=
  player.accept ≠ .agree ∧ (player.accept = .deny ∨ type = .failed)

variable (proposal : LfgProposal)

/-- `toRemove`. -/
def LfgProposal.toRemove (type : RemovalType) : List UInt64 :=
  (((proposal.players.map fun player => player.answered type).filter
    fun player => player.refuses type).map LfgProposalPlayer.queueGuid).dedup

namespace LFGMgr

variable (world : World)

/-- One player is told, if he is in the world: his state is set, and his team kept. -/
def notify (toRemove : List UInt64) (current : LFGMgr × UInt8) (player : LfgProposalPlayer) :
    LFGMgr × UInt8 :=
  match world.findPlayer player.guid with
  | none => current
  | some online =>
    let gguid := player.queueGuid
    if gguid ∈ toRemove then
      let cleared := current.1.clearState player.guid
      (if online.group.isSome then cleared.restoreState gguid else cleared, online.team.toUInt8)
    else
      let queued := current.1.setState player.guid .queued
      (if online.group.isSome then queued.setState gguid .queued else queued,
        online.team.toUInt8)

/-- An entry goes back: to the front of the current queue, and to the new ones. -/
def readd (team : UInt8) (mgr : LFGMgr) (guid : UInt64) : LFGMgr :=
  { mgr with
    currentQueue := Function.update mgr.currentQueue team (guid :: mgr.currentQueue team)
    }.addToQueue world guid team

/-- `RemoveProposal`. -/
def removeProposal (mgr : LFGMgr) (proposal : LfgProposal) (type : RemovalType) : LFGMgr :=
  let toRemove := proposal.toRemove type
  let notified := proposal.players.foldl (notify world toRemove) (mgr, 0)
  let removed := toRemove.foldl removeFromQueue notified.1
  (proposal.queues.filter fun guid => guid ∉ toRemove).foldl (readd world notified.2) removed

end LFGMgr

def lastTeam (world : World) (players : List LfgProposalPlayer) : Option UInt8 :=
  (players.filterMap fun player => world.findPlayer player.guid).getLast?.map fun online =>
    online.team.toUInt8

/-- A queue entry of which some player has declined, or not agreed in time. -/
def LfgProposal.Refused (type : RemovalType) (guid : UInt64) : Prop :=
  ∃ player ∈ proposal.players, player.queueGuid = guid ∧
    (player.accept = .deny ∨ type = .failed ∧ player.accept ≠ .agree)

namespace LFGMgr

/-- A guid is in no queue and has no queue info. -/
structure Gone (mgr : LFGMgr) (guid : UInt64) : Prop where
  current : ∀ queueId, guid ∉ mgr.currentQueue queueId
  new : ∀ queueId, guid ∉ mgr.newToQueue queueId
  info : mgr.queueInfoMap guid = none

/-- A guid is in one of the two lists of a queue, once, and in no other list. -/
def InOneList (mgr : LFGMgr) (queueId : UInt8) (guid : UInt64) : Prop :=
  (mgr.currentQueue queueId).count guid + (mgr.newToQueue queueId).count guid = 1 ∧
    ∀ other ≠ queueId, guid ∉ mgr.currentQueue other ∧ guid ∉ mgr.newToQueue other

/-- After a removal an entry is gone if it was refused, and else in one list of the queue that is
matched for its team. -/
def Partitions (world : World) (mgr : LFGMgr) (proposal : LfgProposal) (type : RemovalType)
    (team : UInt8) : Prop :=
  ∀ guid ∈ proposal.queues,
    (proposal.Refused type guid → (mgr.removeProposal world proposal type).Gone guid) ∧
      (¬ proposal.Refused type guid →
        (mgr.removeProposal world proposal type).InOneList (matchedQueue world team) guid ∧
          (mgr.removeProposal world proposal type).queueInfoMap guid = mgr.queueInfoMap guid)

/-- An entry is back: among the new ones of the queue that is matched for the team and, where each
team has a queue of its own, in the current list of that queue. -/
structure Readded (world : World) (team : UInt8) (times : Nat) (before after : LFGMgr)
    (guid : UInt64) : Prop where
  info : after.queueInfoMap guid = before.queueInfoMap guid
  current : world.twoSide = false → ∀ queueId, (after.currentQueue queueId).count guid =
    (before.currentQueue queueId).count guid +
      if queueId = matchedQueue world team then times else 0
  new : (after.newToQueue (matchedQueue world team)).count guid =
    max 1 ((before.newToQueue (matchedQueue world team)).count guid)
  otherNew : ∀ queueId ≠ matchedQueue world team,
    (after.newToQueue queueId).count guid = (before.newToQueue queueId).count guid

section

variable {world : World} {mgr : LFGMgr} {proposal : LfgProposal} {type : RemovalType}

/-! ## The parts of a removal -/

/-- Two managers with the same queues and infos. -/
structure SameQueues (before after : LFGMgr) : Prop where
  current : after.currentQueue = before.currentQueue
  new : after.newToQueue = before.newToQueue
  info : after.queueInfoMap = before.queueInfoMap

variable (mgr : LFGMgr)

theorem SameQueues.refl : SameQueues mgr mgr := ⟨rfl, rfl, rfl⟩

theorem SameQueues.trans {first second third : LFGMgr} (hfirst : SameQueues first second)
    (hsecond : SameQueues second third) : SameQueues first third :=
  ⟨hsecond.current.trans hfirst.current, hsecond.new.trans hfirst.new,
    hsecond.info.trans hfirst.info⟩

variable (guid : UInt64)

theorem sameQueues_setState (state : LfgState) : SameQueues mgr (mgr.setState guid state) := by
  unfold setState
  split
  · exact ⟨rfl, rfl, rfl⟩
  · exact ⟨rfl, rfl, rfl⟩

variable (toRemove : List UInt64)

theorem sameQueues_notify (current : LFGMgr × UInt8) (player : LfgProposalPlayer) :
    SameQueues current.1 (notify world toRemove current player).1 := by
  unfold notify
  split
  · exact .refl _
  · dsimp only
    split
    · dsimp only
      split
      · exact ⟨rfl, rfl, rfl⟩
      · exact ⟨rfl, rfl, rfl⟩
    · dsimp only
      split
      · exact (sameQueues_setState _ _ _).trans (sameQueues_setState _ _ _)
      · exact sameQueues_setState _ _ _

variable (players : List LfgProposalPlayer)

theorem sameQueues_foldl_notify (current : LFGMgr × UInt8) :
    SameQueues current.1 (players.foldl (notify world toRemove) current).1 := by
  induction players generalizing current with
  | nil => exact .refl _
  | cons player rest ih => exact (sameQueues_notify toRemove current player).trans (ih _)

variable (world) in
theorem foldl_notify_team (current : LFGMgr × UInt8) :
    (players.foldl (notify world toRemove) current).2 =
      (lastTeam world players).getD current.2 := by
  unfold lastTeam
  induction players generalizing current with
  | nil => rfl
  | cons player rest ih =>
    rw [List.foldl_cons, ih]
    cases hfound : world.findPlayer player.guid with
    | none =>
      have hnotify : notify world toRemove current player = current := by
        unfold notify
        rw [hfound]
      simp only [hnotify, List.filterMap_cons, hfound]
    | some online =>
      have hnotify : (notify world toRemove current player).2 = online.team.toUInt8 := by
        unfold notify
        rw [hfound]
        dsimp only
        split <;> rfl
      simp only [hnotify, List.filterMap_cons, hfound, List.getLast?_cons, Option.map_some,
        Option.getD_some]
      cases (rest.filterMap fun player => world.findPlayer player.guid).getLast? with
      | none => rfl
      | some last => rfl

theorem removeFromQueue_gone : (mgr.removeFromQueue guid).Gone guid where
  current := fun queueId hmem => by
    have hne := (List.mem_filter.mp hmem).2
    simp at hne
  new := fun queueId hmem => by
    have hne := (List.mem_filter.mp hmem).2
    simp at hne
  info := by
    unfold removeFromQueue
    dsimp only
    rw [Function.update_self]

/-- What is known of a guid in the queues is the same. -/
structure Keeps (before after : LFGMgr) (guid : UInt64) : Prop where
  info : after.queueInfoMap guid = before.queueInfoMap guid
  current : ∀ queueId, (after.currentQueue queueId).count guid =
    (before.currentQueue queueId).count guid
  new : ∀ queueId, (after.newToQueue queueId).count guid =
    (before.newToQueue queueId).count guid

theorem Keeps.refl : Keeps mgr mgr guid :=
  ⟨rfl, fun _ => rfl, fun _ => rfl⟩

theorem Keeps.trans {first second third : LFGMgr} {guid : UInt64}
    (hfirst : Keeps first second guid) (hsecond : Keeps second third guid) :
    Keeps first third guid where
  info := hsecond.info.trans hfirst.info
  current := fun queueId => (hsecond.current queueId).trans (hfirst.current queueId)
  new := fun queueId => (hsecond.new queueId).trans (hfirst.new queueId)

theorem SameQueues.keeps {before after : LFGMgr} (hsame : SameQueues before after)
    (guid : UInt64) : Keeps before after guid where
  info := by rw [hsame.info]
  current := fun queueId => by rw [hsame.current]
  new := fun queueId => by rw [hsame.new]

theorem Gone.of_keeps {before after : LFGMgr} {guid : UInt64} (hgone : before.Gone guid)
    (hkeeps : Keeps before after guid) : after.Gone guid where
  current := fun queueId => by
    rw [← List.count_eq_zero, hkeeps.current, List.count_eq_zero]
    exact hgone.current queueId
  new := fun queueId => by
    rw [← List.count_eq_zero, hkeeps.new, List.count_eq_zero]
    exact hgone.new queueId
  info := hkeeps.info.trans hgone.info

theorem removeFromQueue_keeps {guid other : UInt64} (hne : guid ≠ other) :
    Keeps mgr (mgr.removeFromQueue other) guid where
  info := by
    unfold removeFromQueue
    dsimp only
    rw [Function.update_of_ne hne]
  current := fun queueId => List.count_filter (decide_eq_true hne)
  new := fun queueId => List.count_filter (decide_eq_true hne)

theorem foldl_removeFromQueue_keeps {toRemove : List UInt64} {guid : UInt64}
    (hguid : guid ∉ toRemove) (mgr : LFGMgr) :
    Keeps mgr (toRemove.foldl removeFromQueue mgr) guid := by
  induction toRemove generalizing mgr with
  | nil => exact .refl mgr guid
  | cons other rest ih =>
    rw [List.mem_cons, not_or] at hguid
    exact (removeFromQueue_keeps mgr hguid.1).trans (ih hguid.2 _)

theorem foldl_removeFromQueue_gone {toRemove : List UInt64} {guid : UInt64}
    (hguid : guid ∈ toRemove) (mgr : LFGMgr) :
    (toRemove.foldl removeFromQueue mgr).Gone guid := by
  induction toRemove generalizing mgr with
  | nil => cases hguid
  | cons other rest ih =>
    by_cases hrest : guid ∈ rest
    · exact ih hrest _
    · obtain rfl := (List.mem_cons.mp hguid).resolve_right hrest
      exact (removeFromQueue_gone mgr guid).of_keeps (foldl_removeFromQueue_keeps hrest _)

theorem mem_toRemove {guid : UInt64} :
    guid ∈ proposal.toRemove type ↔ proposal.Refused type guid := by
  unfold LfgProposal.toRemove LfgProposal.Refused
  rw [List.mem_dedup, List.mem_map]
  constructor
  · rintro ⟨answered, hanswered, rfl⟩
    obtain ⟨hmem, hrefuses⟩ := List.mem_filter.mp hanswered
    obtain ⟨player, hplayer, rfl⟩ := List.mem_map.mp hmem
    refine ⟨player, hplayer, ?_, ?_⟩
    · unfold LfgProposalPlayer.answered
      split <;> rfl
    · unfold LfgProposalPlayer.answered LfgProposalPlayer.refuses at hrefuses
      cases type <;> cases haccept : player.accept <;> simp_all
  · rintro ⟨player, hplayer, rfl, hrefused⟩
    refine ⟨player.answered type, List.mem_filter.mpr ⟨List.mem_map_of_mem hplayer, ?_⟩, ?_⟩
    · unfold LfgProposalPlayer.answered LfgProposalPlayer.refuses
      cases type <;> cases haccept : player.accept <;> simp_all
    · unfold LfgProposalPlayer.answered
      split <;> rfl

/-! ## Going back -/

variable (world) in
theorem readd_queues (team : UInt8) (mgr : LFGMgr) (guid : UInt64) :
    (mgr.readd world team guid).queueInfoMap = mgr.queueInfoMap ∧
      (mgr.readd world team guid).currentQueue =
        Function.update mgr.currentQueue team (guid :: mgr.currentQueue team) ∧
      (mgr.readd world team guid).newToQueue =
        if guid ∈ mgr.newToQueue (matchedQueue world team) then mgr.newToQueue
        else Function.update mgr.newToQueue (matchedQueue world team)
          (mgr.newToQueue (matchedQueue world team) ++ [guid]) := by
  unfold readd addToQueue
  dsimp only
  split
  · exact ⟨rfl, rfl, rfl⟩
  · exact ⟨rfl, rfl, rfl⟩

theorem count_update (more : Nat) {lists : UInt8 → List UInt64} {list : List UInt64}
    {queueId other : UInt8} {guid : UInt64}
    (hlist : list.count guid = (lists queueId).count guid + more) :
    (Function.update lists queueId list other).count guid =
      (lists other).count guid + if other = queueId then more else 0 := by
  rw [Function.update_apply]
  split
  next heq => rw [heq, hlist]
  · rfl

variable (world) in
/-- An entry that goes back is among the new ones. -/
theorem readd_self (team : UInt8) (mgr : LFGMgr) (guid : UInt64) :
    Readded world team 1 mgr (mgr.readd world team guid) guid := by
  obtain ⟨hinfo, hcurrent, hnew⟩ := readd_queues world team mgr guid
  refine ⟨by rw [hinfo], fun hsides queueId => ?_, ?_, fun queueId hne => ?_⟩
  · have hqueue : matchedQueue world team = team := by
      rw [matchedQueue, hsides, if_neg Bool.false_ne_true]
    rw [hcurrent, hqueue]
    exact count_update 1 List.count_cons_self
  · rw [hnew]
    split
    next hmem => exact (Nat.max_eq_right (List.count_pos_iff.mpr hmem)).symm
    next hmem =>
      rw [Function.update_self, List.count_append, List.count_eq_zero.mpr hmem,
        List.count_singleton_self]
      rfl
  · rw [hnew]
    split
    · rfl
    · rw [Function.update_of_ne hne]

variable (world) in
theorem readd_other (team : UInt8) (mgr : LFGMgr) {guid other : UInt64} (hne : guid ≠ other) :
    Keeps mgr (mgr.readd world team other) guid := by
  obtain ⟨hinfo, hcurrent, hnew⟩ := readd_queues world team mgr other
  refine ⟨by rw [hinfo], fun queueId => ?_, fun queueId => ?_⟩
  · rw [hcurrent, count_update 0 (List.count_cons_of_ne hne.symm)]
    simp
  · rw [hnew]
    split
    · rfl
    · rw [count_update 0]
      · simp
      · rw [List.count_append, List.count_singleton, if_neg (by simpa using hne.symm)]

variable {team : UInt8} {times : Nat}

theorem Readded.trans {first second third : LFGMgr} {guid : UInt64}
    (hfirst : Readded world team 1 first second guid)
    (hsecond : Readded world team times second third guid) :
    Readded world team (times + 1) first third guid where
  info := hsecond.info.trans hfirst.info
  current := fun hsides queueId => by
    rw [hsecond.current hsides, hfirst.current hsides]
    split <;> omega
  new := by
    rw [hsecond.new, hfirst.new]
    omega
  otherNew := fun queueId hne => (hsecond.otherNew queueId hne).trans (hfirst.otherNew queueId hne)

theorem Readded.keeps {first second third : LFGMgr} {guid : UInt64}
    (hfirst : Readded world team times first second guid) (hsecond : Keeps second third guid) :
    Readded world team times first third guid where
  info := hsecond.info.trans hfirst.info
  current := fun hsides queueId =>
    (hsecond.current queueId).trans (hfirst.current hsides queueId)
  new := (hsecond.new _).trans hfirst.new
  otherNew := fun queueId hne => (hsecond.new queueId).trans (hfirst.otherNew queueId hne)

theorem Readded.after_keeps {first second third : LFGMgr} {guid : UInt64}
    (hsecond : Readded world team times second third guid) (hfirst : Keeps first second guid) :
    Readded world team times first third guid where
  info := hsecond.info.trans hfirst.info
  current := fun hsides queueId => by rw [hsecond.current hsides, hfirst.current]
  new := by rw [hsecond.new, hfirst.new]
  otherNew := fun queueId hne => (hsecond.otherNew queueId hne).trans (hfirst.new queueId)

variable (world) in
/-- The entries that go back do so each time they occur. -/
theorem foldl_readd (team : UInt8) {queues : List UInt64} {guid : UInt64} (mgr : LFGMgr) :
    (guid ∉ queues → Keeps mgr (queues.foldl (readd world team) mgr) guid) ∧
      (guid ∈ queues → Readded world team (queues.count guid) mgr
        (queues.foldl (readd world team) mgr) guid) := by
  induction queues generalizing mgr with
  | nil => exact ⟨fun _ => .refl mgr guid, fun hmem => nomatch hmem⟩
  | cons first rest ih =>
    obtain ⟨hkeeps, hreadded⟩ := ih (mgr.readd world team first)
    rw [List.foldl_cons]
    by_cases heq : guid = first
    · subst heq
      have hself := readd_self world team mgr guid
      refine ⟨fun hmem => absurd List.mem_cons_self hmem, fun _ => ?_⟩
      rw [List.count_cons_self]
      by_cases hrest : guid ∈ rest
      · exact hself.trans (hreadded hrest)
      · rw [List.count_eq_zero.mpr hrest]
        exact hself.keeps (hkeeps hrest)
    · have hother := readd_other world team mgr heq
      refine ⟨fun hmem => ?_, fun hmem => ?_⟩
      · exact hother.trans (hkeeps fun hrest => hmem (List.mem_cons_of_mem first hrest))
      · rw [List.count_cons_of_ne (Ne.symm heq)]
        exact (hreadded ((List.mem_cons.mp hmem).resolve_left heq)).after_keeps hother

/-- After a removal the refused entries are gone, and the others are back in the queue that is
matched for the team. -/
theorem removeProposal_readds (world : World) (mgr : LFGMgr) (proposal : LfgProposal)
    (type : RemovalType) (team : UInt8) (hteam : lastTeam world proposal.players = some team) :
    ∀ guid ∈ proposal.queues,
      (proposal.Refused type guid → (mgr.removeProposal world proposal type).Gone guid) ∧
        (¬ proposal.Refused type guid →
          Readded world team (proposal.queues.count guid) mgr
            (mgr.removeProposal world proposal type) guid) := by
  intro guid hguid
  have hnotified : SameQueues mgr
      (proposal.players.foldl (notify world (proposal.toRemove type)) (mgr, 0)).1 :=
    sameQueues_foldl_notify (proposal.toRemove type) proposal.players (mgr, 0)
  have hkept := foldl_notify_team world (proposal.toRemove type) proposal.players (mgr, 0)
  rw [hteam, Option.getD_some] at hkept
  unfold removeProposal
  dsimp only
  rw [hkept]
  generalize (proposal.players.foldl (notify world (proposal.toRemove type)) (mgr, 0)).1 =
    notified at hnotified
  refine ⟨fun hrefused => ?_, fun hagreed => ?_⟩
  · have hremove := mem_toRemove.mpr hrefused
    have hnotBack : guid ∉ proposal.queues.filter fun guid => guid ∉ proposal.toRemove type :=
      fun hmem => of_decide_eq_true (List.mem_filter.mp hmem).2 hremove
    have hkeeps := (foldl_readd world team
      ((proposal.toRemove type).foldl removeFromQueue notified)).1 hnotBack
    exact (foldl_removeFromQueue_gone hremove notified).of_keeps hkeeps
  · have hstays : guid ∉ proposal.toRemove type := fun hmem => hagreed (mem_toRemove.mp hmem)
    have hback : guid ∈ proposal.queues.filter fun guid => guid ∉ proposal.toRemove type :=
      List.mem_filter.mpr ⟨hguid, decide_eq_true hstays⟩
    have hreadded := (foldl_readd world team
      ((proposal.toRemove type).foldl removeFromQueue notified)).2 hback
    have hcount : (proposal.queues.filter fun guid => guid ∉ proposal.toRemove type).count guid =
        proposal.queues.count guid := List.count_filter (decide_eq_true hstays)
    rw [hcount] at hreadded
    exact hreadded.after_keeps
      ((hnotified.keeps guid).trans (foldl_removeFromQueue_keeps hstays notified))

end

end LFGMgr

/-- A world in which all players are there, without groups and of one team. -/
def hordeWorld : World := ⟨fun _ => some ⟨67, none⟩, false⟩

def halfDeclined : LfgProposal where
  dungeonId := 1
  state := .initiating
  groupLowGuid := 0
  leader := 1
  queues := [1, 2]
  players := [⟨1, roleDamage, .agree, 0⟩, ⟨2, roleDamage, .deny, 0⟩]

def pendingMgr : LFGMgr where
  queueInfoMap := fun guid =>
    some ⟨[1], ⟨[⟨guid, roleDamage⟩], nodup_damage guid⟩, .dungeon⟩
  currentQueue := fun _ => []
  newToQueue := fun _ => []
  compatibleMap := fun _ => none
  players := fun _ => ⟨.proposal, .none⟩
  groups := fun _ => ⟨.none, .none⟩

theorem not_refused_halfDeclined : ¬ halfDeclined.Refused .declined 1 := by
  rintro ⟨player, hplayer, hguid, hrefused⟩
  revert hguid hrefused
  revert player
  decide

namespace LFGMgr

theorem removeProposal_readds_halfDeclined :
    Readded hordeWorld 67 1 pendingMgr
      (pendingMgr.removeProposal hordeWorld halfDeclined .declined) 1 :=
  (removeProposal_readds hordeWorld pendingMgr halfDeclined .declined 67 rfl 1 (by decide)).2
    not_refused_halfDeclined

/-- The player who agreed is in two lists. -/
theorem not_partitions :
    ¬ ∀ (world : World) (mgr : LFGMgr) (proposal : LfgProposal) (type : RemovalType)
      (team : UInt8), lastTeam world proposal.players = some team →
        Partitions world mgr proposal type team := by
  intro hall
  have hentry := hall hordeWorld pendingMgr halfDeclined .declined 67 rfl 1 (by decide)
  have honce := (hentry.2 not_refused_halfDeclined).1.1
  exact absurd honce (by decide +kernel)

end LFGMgr

end MopServer.DungeonFinder
