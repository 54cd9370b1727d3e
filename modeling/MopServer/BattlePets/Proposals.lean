import MopServer.BattlePets.LFBMgr
import MopServer.Foundation.Run

/-! # Players in proposals

A player in a proposal has an entry in the queue that names the proposal, and his state says so.
When a proposal ends, only the players that are found are told.
-/

namespace MopServer.BattlePets

open MopServer.Foundation

/-- The player is one of the two. -/
def LFBProposal.Has (proposal : LFBProposal) (guid : Nat) : Prop :=
  guid = proposal.first.player ∨ guid = proposal.second.player

/-- What the matching looks at of a player in the queue. -/
structure Seat where
  isDeleted : Bool
  proposalId : Nat
  team : Team
  petsWeight : Int
  state : LFBState

namespace LFBMgr

variable {mgr after : LFBMgr} {petLevelDiff : Int} {found : Nat → Bool} {guid : Nat}

def seat (mgr : LFBMgr) (guid : Nat) : Option Seat :=
  (mgr.queue.get? guid).map fun info =>
    { isDeleted := info.isDeleted, proposalId := info.proposalId, team := info.team
      petsWeight := info.petsWeight, state := mgr.state guid }

/-- No player is in two proposals, the two players of a proposal are a match, and the state tells
who is in a proposal. -/
structure Consistent (petLevelDiff : Int) (mgr : LFBMgr) : Prop where
  single : ∀ first ∈ mgr.proposal, ∀ second ∈ mgr.proposal, ∀ guid,
    first.Has guid → second.Has guid → first = second
  matched : ∀ proposal ∈ mgr.proposal, proposal.first.player ≠ proposal.second.player ∧
    ∃ info opponent, mgr.queue.get? proposal.first.player = some info ∧
      mgr.queue.get? proposal.second.player = some opponent ∧ info.team = opponent.team ∧
      (info.petsWeight - opponent.petsWeight).natAbs ≤ petLevelDiff
  state : ∀ guid, mgr.state guid = .proposal ↔ (∃ proposal ∈ mgr.proposal, proposal.Has guid) ∧
    ∃ info, mgr.queue.get? guid = some info ∧ info.isDeleted = false

/-- Both players of a proposal are seated in it. -/
structure Seated (petLevelDiff : Int) (mgr : LFBMgr) (proposal : LFBProposal) : Prop where
  distinct : proposal.first.player ≠ proposal.second.player
  answered : ∀ item ∈ proposal.players, item.answer ≠ .pending
  undecided : ¬(proposal.first.answer = .agree ∧ proposal.second.answer = .agree)
  counted : proposal.id < mgr.nextProposalId
  seats : ∃ team weight opposing,
    mgr.seat proposal.first.player = some ⟨false, proposal.id, team, weight, .proposal⟩ ∧
      mgr.seat proposal.second.player = some ⟨false, proposal.id, team, opposing, .proposal⟩ ∧
      (weight - opposing).natAbs ≤ petLevelDiff

/-- The proposals are all seated; there may be players that think they are in another one. -/
def AllSeated (petLevelDiff : Int) (mgr : LFBMgr) : Prop :=
  ∀ proposal ∈ mgr.proposal, mgr.Seated petLevelDiff proposal

/-- The proposals are all seated, and nobody else is in one. -/
structure Sound (petLevelDiff : Int) (mgr : LFBMgr) : Prop where
  seated : ∀ proposal ∈ mgr.proposal, mgr.Seated petLevelDiff proposal
  waiting : ∀ guid, mgr.state guid = .proposal → ∃ proposal ∈ mgr.proposal, proposal.Has guid

/-- A player left behind in a proposal that is gone. -/
def Stuck (mgr : LFBMgr) (guid : Nat) : Prop :=
  mgr.state guid = .proposal ∧ ∀ proposal ∈ mgr.proposal, ¬proposal.Has guid

theorem not_consistent_of_stuck (hstuck : mgr.Stuck guid) : ¬mgr.Consistent petLevelDiff := by
  intro hconsistent
  obtain ⟨⟨proposal, hproposal, hhas⟩, -⟩ := (hconsistent.state guid).mp hstuck.1
  exact hstuck.2 proposal hproposal hhas

/-! ## Seats -/

variable {proposal first second : LFBProposal}

theorem seat_eq_some {seat : Seat} (hseat : mgr.seat guid = some seat) :
    ∃ info, mgr.queue.get? guid = some info ∧ info.isDeleted = seat.isDeleted ∧
      info.proposalId = seat.proposalId ∧ info.team = seat.team ∧
      info.petsWeight = seat.petsWeight ∧ mgr.state guid = seat.state := by
  obtain ⟨info, hinfo, rfl⟩ := Option.map_eq_some_iff.mp hseat
  exact ⟨info, hinfo, rfl, rfl, rfl, rfl, rfl⟩

theorem Seated.member (hseated : mgr.Seated petLevelDiff proposal) (hhas : proposal.Has guid) :
    mgr.state guid = .proposal ∧ ∃ info, mgr.queue.get? guid = some info ∧
      info.isDeleted = false ∧ info.proposalId = proposal.id := by
  obtain ⟨team, weight, opposing, hfirst, hsecond, -⟩ := hseated.seats
  rcases hhas with rfl | rfl
  · obtain ⟨info, hinfo, hdeleted, hid, -, -, hstate⟩ := seat_eq_some hfirst
    exact ⟨hstate, info, hinfo, hdeleted, hid⟩
  · obtain ⟨info, hinfo, hdeleted, hid, -, -, hstate⟩ := seat_eq_some hsecond
    exact ⟨hstate, info, hinfo, hdeleted, hid⟩

variable (hseated : mgr.AllSeated petLevelDiff)

include hseated in
theorem AllSeated.unique (hfirst : first ∈ mgr.proposal) (hsecond : second ∈ mgr.proposal)
    (hinFirst : first.Has guid) (hinSecond : second.Has guid) : first = second := by
  obtain ⟨-, info, hinfo, -, hid⟩ := (hseated first hfirst).member hinFirst
  obtain ⟨-, other, hother, -, hotherId⟩ := (hseated second hsecond).member hinSecond
  rw [hinfo] at hother
  cases hother
  exact Table.eq_of_key_eq hfirst hsecond (hid.symm.trans hotherId)

variable (hsound : mgr.Sound petLevelDiff)

include hsound in
theorem Sound.unique (hfirst : first ∈ mgr.proposal) (hsecond : second ∈ mgr.proposal)
    (hinFirst : first.Has guid) (hinSecond : second.Has guid) : first = second :=
  AllSeated.unique hsound.seated hfirst hsecond hinFirst hinSecond

include hsound in
theorem Sound.consistent : mgr.Consistent petLevelDiff where
  single _ hfirst _ hsecond _ := hsound.unique hfirst hsecond
  matched proposal hproposal := by
    have hseated := hsound.seated proposal hproposal
    obtain ⟨team, weight, opposing, hfirst, hsecond, hclose⟩ := hseated.seats
    obtain ⟨info, hinfo, -, -, hteam, hweight, -⟩ := seat_eq_some hfirst
    obtain ⟨opponent, hopponent, -, -, hother, hopposing, -⟩ := seat_eq_some hsecond
    refine ⟨hseated.distinct, info, opponent, hinfo, hopponent, hteam.trans hother.symm, ?_⟩
    rw [hweight, hopposing]
    exact hclose
  state guid := by
    constructor
    · intro hstate
      obtain ⟨proposal, hproposal, hhas⟩ := hsound.waiting guid hstate
      obtain ⟨-, info, hinfo, hdeleted, -⟩ := (hsound.seated proposal hproposal).member hhas
      exact ⟨⟨proposal, hproposal, hhas⟩, info, hinfo, hdeleted⟩
    · rintro ⟨⟨proposal, hproposal, hhas⟩, -⟩
      exact ((hsound.seated proposal hproposal).member hhas).1

theorem Seated.congr (hseated : mgr.Seated petLevelDiff proposal)
    (hcount : mgr.nextProposalId ≤ after.nextProposalId)
    (hseat : ∀ guid, proposal.Has guid → after.seat guid = mgr.seat guid) :
    after.Seated petLevelDiff proposal where
  distinct := hseated.distinct
  answered := hseated.answered
  undecided := hseated.undecided
  counted := hseated.counted.trans_le hcount
  seats := by
    rw [hseat _ (Or.inl rfl), hseat _ (Or.inr rfl)]
    exact hseated.seats

variable (hproposal : ∀ proposal ∈ after.proposal, proposal ∈ mgr.proposal)
  (hcount : mgr.nextProposalId ≤ after.nextProposalId)
  (hseat : ∀ proposal ∈ after.proposal, ∀ guid, proposal.Has guid → after.seat guid = mgr.seat guid)

include hseated hproposal hcount hseat in
theorem AllSeated.frame : after.AllSeated petLevelDiff := fun proposal hmem =>
  (hseated proposal (hproposal proposal hmem)).congr hcount (hseat proposal hmem)

include hsound hproposal hcount hseat in
/-- Proposals may only go, and with them the states of their players. -/
theorem Sound.frame (hwaiting : ∀ guid, after.state guid = .proposal →
      ∃ proposal ∈ after.proposal, proposal.Has guid) : after.Sound petLevelDiff where
  seated := AllSeated.frame hsound.seated hproposal hcount hseat
  waiting := hwaiting

include hseated in
/-- One player outside all proposals changes. -/
theorem AllSeated.outside (hout : ∀ proposal ∈ mgr.proposal, ¬proposal.Has guid)
    (hproposal : after.proposal = mgr.proposal) (hcount : after.nextProposalId = mgr.nextProposalId)
    (hothers : ∀ other, other ≠ guid →
      after.state other = mgr.state other ∧ after.queue.get? other = mgr.queue.get? other) :
    after.AllSeated petLevelDiff := by
  refine hseated.frame (fun proposal hmem => hproposal ▸ hmem) hcount.ge
    fun proposal hmem other hhas => ?_
  have hne : other ≠ guid := fun heq => hout proposal (hproposal ▸ hmem) (heq ▸ hhas)
  unfold seat
  rw [(hothers other hne).1, (hothers other hne).2]

include hseated in
theorem AllSeated.not_has_of_state (hstate : mgr.state guid ≠ .proposal) :
    ∀ proposal ∈ mgr.proposal, ¬proposal.Has guid :=
  fun proposal hmem hhas => hstate ((hseated proposal hmem).member hhas).1

include hsound in
theorem Sound.change (hbefore : mgr.state guid ≠ .proposal) (hafter : after.state guid ≠ .proposal)
    (hproposal : after.proposal = mgr.proposal) (hcount : after.nextProposalId = mgr.nextProposalId)
    (hothers : ∀ other, other ≠ guid →
      after.state other = mgr.state other ∧ after.queue.get? other = mgr.queue.get? other) :
    after.Sound petLevelDiff where
  seated := AllSeated.outside hsound.seated (AllSeated.not_has_of_state hsound.seated hbefore)
    hproposal hcount hothers
  waiting other hother := by
    have hne : other ≠ guid := by
      rintro rfl
      exact hafter hother
    rw [hproposal]
    exact hsound.waiting other ((hothers other hne).1 ▸ hother)

variable (hmem : proposal ∈ mgr.proposal)

include hseated hmem in
/-- A proposal may go as long as nobody outside it notices. -/
theorem AllSeated.erased (herased : after.proposal = mgr.proposal.erase proposal.id)
    (hcount : after.nextProposalId = mgr.nextProposalId) (hothers : ∀ guid, ¬proposal.Has guid →
      after.state guid = mgr.state guid ∧ after.queue.get? guid = mgr.queue.get? guid) :
    after.AllSeated petLevelDiff := by
  have hstays : ∀ other ∈ after.proposal, other ∈ mgr.proposal ∧ other.id ≠ proposal.id := by
    intro other hother
    rw [herased] at hother
    exact Table.mem_erase.mp hother
  refine hseated.frame (fun other hother => (hstays other hother).1) hcount.ge
    fun other hother guid hhas => ?_
  have hnot : ¬proposal.Has guid := fun hin => (hstays other hother).2
    (congrArg LFBProposal.id (hseated.unique (hstays other hother).1 hmem hhas hin))
  unfold seat
  rw [(hothers guid hnot).1, (hothers guid hnot).2]

include hsound hmem in
theorem Sound.detach (herased : after.proposal = mgr.proposal.erase proposal.id)
    (hcount : after.nextProposalId = mgr.nextProposalId) (hothers : ∀ guid, ¬proposal.Has guid →
      after.state guid = mgr.state guid ∧ after.queue.get? guid = mgr.queue.get? guid)
    (hplayers : ∀ guid, proposal.Has guid → after.state guid ≠ .proposal) :
    after.Sound petLevelDiff where
  seated := AllSeated.erased hsound.seated hmem herased hcount hothers
  waiting guid hguid := by
    have hnot : ¬proposal.Has guid := fun hin => hplayers guid hin hguid
    obtain ⟨other, hother, hhas⟩ := hsound.waiting guid ((hothers guid hnot).1 ▸ hguid)
    refine ⟨other, ?_, hhas⟩
    rw [herased]
    refine Table.mem_erase.mpr ⟨hother, fun heq => hnot ?_⟩
    exact Table.eq_of_key_eq hother hmem heq ▸ hhas

include hsound hmem in
/-- A proposal is gone, and one of its players has not noticed. -/
theorem Sound.stuck (hproposal : after.proposal = mgr.proposal.erase proposal.id)
    (hhas : proposal.Has guid) (hstate : after.state guid = mgr.state guid) : after.Stuck guid := by
  refine ⟨hstate.trans ((hsound.seated proposal hmem).member hhas).1, fun other hother hin => ?_⟩
  rw [hproposal] at hother
  have hstays := Table.mem_erase.mp hother
  exact hstays.2 (congrArg LFBProposal.id (hsound.unique hstays.1 hmem hin hhas))

/-! ## The end of a proposal -/

theorem markForDelete_get? (mgr : LFBMgr) (guid other : Nat) (hne : other ≠ guid) :
    (mgr.markForDelete guid).queue.get? other = mgr.queue.get? other := by
  unfold markForDelete
  rw [Table.get?_modify, if_neg hne]

variable (found) in
theorem release_other (toRemove : List Nat) (mgr : LFBMgr) (item : LFBProposalItem)
    (hne : guid ≠ item.player) :
    (release found toRemove mgr item).state guid = mgr.state guid ∧
      (release found toRemove mgr item).queue.get? guid = mgr.queue.get? guid := by
  unfold release
  split
  · exact ⟨rfl, rfl⟩
  split
  · exact ⟨Function.update_of_ne hne _ _, markForDelete_get? _ _ _ hne⟩
  · exact ⟨Function.update_of_ne hne _ _, rfl⟩

variable (found) in
theorem release_player (toRemove : List Nat) (mgr : LFBMgr) (item : LFBProposalItem) :
    if found item.player then (release found toRemove mgr item).state item.player ≠ .proposal
    else release found toRemove mgr item = mgr := by
  unfold release
  cases found item.player with
  | false => rfl
  | true =>
    simp only [Bool.not_true, Bool.false_eq_true, if_false, if_true]
    split
    · simp [markForDelete, clearState, setState]
    · simp [setState]

variable (found) in
theorem release_rest (toRemove : List Nat) (mgr : LFBMgr) (item : LFBProposalItem) :
    (release found toRemove mgr item).proposal = mgr.proposal ∧
      (release found toRemove mgr item).nextProposalId = mgr.nextProposalId := by
  unfold release
  split
  · exact ⟨rfl, rfl⟩
  split <;> exact ⟨rfl, rfl⟩

/-- What the end of a proposal leaves: the others are as they were, and of the two players those who
are found have left it. -/
structure Ended (found : Nat → Bool) (mgr after : LFBMgr) (proposal : LFBProposal) : Prop where
  erased : after.proposal = mgr.proposal.erase proposal.id
  count : after.nextProposalId = mgr.nextProposalId
  others : ∀ guid, ¬proposal.Has guid →
    after.state guid = mgr.state guid ∧ after.queue.get? guid = mgr.queue.get? guid
  players : ∀ guid, proposal.Has guid →
    if found guid then after.state guid ≠ .proposal else after.state guid = mgr.state guid

theorem release_both {toRemove : List Nat} {first second : LFBProposalItem}
    (hfirst : first.player = proposal.first.player)
    (hsecond : second.player = proposal.second.player)
    (hdistinct : proposal.first.player ≠ proposal.second.player) (mgr : LFBMgr) :
    let mid := release found toRemove (release found toRemove mgr first) second
    Ended found mgr { mid with proposal := mid.proposal.erase proposal.id } proposal := by
  intro mid
  have hrest := release_rest found toRemove mgr first
  have hlater := release_rest found toRemove (release found toRemove mgr first) second
  refine ⟨?_, hlater.2.trans hrest.2, fun guid hnot => ?_, fun guid hhas => ?_⟩
  · dsimp only
    rw [hlater.1, hrest.1]
  · have hnotFirst : guid ≠ first.player := fun heq => hnot (Or.inl (heq.trans hfirst))
    have hnotSecond : guid ≠ second.player := fun heq => hnot (Or.inr (heq.trans hsecond))
    have hone := release_other found toRemove mgr first hnotFirst
    have htwo := release_other found toRemove (release found toRemove mgr first) second hnotSecond
    exact ⟨htwo.1.trans hone.1, htwo.2.trans hone.2⟩
  · rcases hhas with rfl | rfl
    · have hone := release_player found toRemove mgr first
      have htwo := (release_other found toRemove (release found toRemove mgr first)
        second (hsecond ▸ hdistinct)).1
      rw [hfirst] at hone
      rw [show mid.state _ = _ from htwo]
      split at hone
      next hfound =>
        rw [if_pos hfound]
        exact hone
      next hnot =>
        rw [if_neg hnot, hone]
    · have hone := (release_other found toRemove mgr first
        (hfirst ▸ hdistinct.symm)).1
      have htwo := release_player found toRemove (release found toRemove mgr first) second
      rw [hsecond] at htwo
      split at htwo
      next hfound =>
        rw [if_pos hfound]
        exact htwo
      next hnot =>
        rw [if_neg hnot]
        rw [show mid = _ from htwo]
        exact hone

variable (hdistinct : proposal.first.player ≠ proposal.second.player)

include hdistinct in
theorem eq_of_player_eq {item other : LFBProposalItem} (hitem : item ∈ proposal.players)
    (hother : other ∈ proposal.players) (hplayer : item.player = other.player) : item = other := by
  simp only [LFBProposal.players, List.mem_cons, List.not_mem_nil, or_false] at hitem hother
  rcases hitem with rfl | rfl <;> rcases hother with rfl | rfl
  · rfl
  · exact absurd hplayer hdistinct
  · exact absurd hplayer.symm hdistinct
  · rfl

variable (found) in
include hdistinct in
/-- Somebody has not agreed, so the players are told, and those that count as denying are out. -/
theorem removeProposal_told {failed : Bool}
    (hremoved : failed = true ∨ ∃ item ∈ proposal.players, item.answer = .deny) (mgr : LFBMgr) :
    ∃ toRemove first second, first.player = proposal.first.player ∧
      second.player = proposal.second.player ∧
      (∀ item ∈ proposal.players,
        item.player ∈ toRemove ↔ failed = true ∨ item.answer = .deny) ∧
      let told := release found toRemove (release found toRemove mgr first) second
      mgr.removeProposal found proposal failed =
        { told with proposal := told.proposal.erase proposal.id } := by
  unfold removeProposal
  extract_lets answers toRemove told
  have hmem : ∀ item ∈ proposal.players,
      item.player ∈ toRemove ↔ failed = true ∨ item.answer = .deny := by
    intro item hitem
    unfold toRemove answers
    cases failed with
    | true =>
      refine iff_of_true (List.mem_map.mpr ⟨{ item with answer := .deny }, ?_, rfl⟩) (Or.inl rfl)
      exact List.mem_filter.mpr ⟨List.mem_map_of_mem hitem, rfl⟩
    | false =>
      simp only [Bool.false_eq_true, if_false, false_or, List.mem_map, List.mem_filter,
        Bool.or_false]
      constructor
      · rintro ⟨other, ⟨hother, hdenies⟩, hplayer⟩
        rw [← eq_of_player_eq hdistinct hother hitem hplayer]
        simpa using (Bool.and_eq_true_iff.mp hdenies).2
      · exact fun hdeny => ⟨item, ⟨hitem, by simp [hdeny]⟩, rfl⟩
  have hsome : toRemove ≠ [] := by
    rcases hremoved with hfailed | ⟨item, hitem, hdeny⟩
    · exact List.ne_nil_of_mem ((hmem proposal.first List.mem_cons_self).mpr (Or.inl hfailed))
    · exact List.ne_nil_of_mem ((hmem item hitem).mpr (Or.inr hdeny))
  have htold : told = answers.foldl (release found toRemove) mgr := if_pos hsome
  rw [htold]
  cases failed with
  | true => exact ⟨toRemove, { proposal.first with answer := .deny },
      { proposal.second with answer := .deny }, rfl, rfl, hmem, rfl⟩
  | false => exact ⟨toRemove, proposal.first, proposal.second, rfl, rfl, hmem, rfl⟩

variable (found) in
include hdistinct in
theorem removeProposal_ended {failed : Bool}
    (hremoved : failed = true ∨ ∃ item ∈ proposal.players, item.answer = .deny) (mgr : LFBMgr) :
    Ended found mgr (mgr.removeProposal found proposal failed) proposal := by
  obtain ⟨toRemove, first, second, hfirst, hsecond, -, heq⟩ :=
    removeProposal_told found hdistinct hremoved mgr
  rw [heq]
  exact release_both hfirst hsecond hdistinct mgr

theorem Ended.sound (hended : Ended found mgr after proposal) (hsound : mgr.Sound petLevelDiff)
    (hmem : proposal ∈ mgr.proposal) (hfound : ∀ guid, proposal.Has guid → found guid = true) :
    after.Sound petLevelDiff := by
  refine hsound.detach hmem hended.erased hended.count hended.others fun guid hhas => ?_
  have hplayer := hended.players guid hhas
  rw [if_pos (hfound guid hhas)] at hplayer
  exact hplayer

theorem Ended.stuck (hended : Ended found mgr after proposal) (hsound : mgr.Sound petLevelDiff)
    (hmem : proposal ∈ mgr.proposal) (hhas : proposal.Has guid) (hlost : found guid = false) :
    after.Stuck guid := by
  have hplayer := hended.players guid hhas
  rw [hlost, if_neg Bool.false_ne_true] at hplayer
  exact hsound.stuck hmem hended.erased hhas hplayer

theorem Seated.denied (hseated : mgr.Seated petLevelDiff proposal) :
    ∃ item ∈ proposal.players, item.answer = .deny := by
  have hfirst := hseated.answered proposal.first List.mem_cons_self
  have hsecond := hseated.answered proposal.second (List.mem_cons_of_mem _ List.mem_cons_self)
  have hundecided := hseated.undecided
  cases hone : proposal.first.answer with
  | pending => exact absurd hone hfirst
  | deny => exact ⟨proposal.first, List.mem_cons_self, hone⟩
  | agree =>
    cases htwo : proposal.second.answer with
    | pending => exact absurd htwo hsecond
    | deny => exact ⟨proposal.second, List.mem_cons_of_mem _ List.mem_cons_self, htwo⟩
    | agree => exact absurd ⟨hone, htwo⟩ hundecided

/-! ## Joining and leaving -/

theorem queue_of_checkJoin {player : Player} (hcheck : mgr.checkJoin player = true) :
    mgr.queue.get? player.guid = none := by
  unfold checkJoin at hcheck
  simp only [Bool.and_eq_true, Bool.not_eq_true', Bool.or_eq_false_iff] at hcheck
  exact Option.isSome_eq_false_iff.mp hcheck.1.1.2.1 |> Option.isNone_iff_eq_none.mp

include hsound in
theorem join_sound (player : Player) (now : Nat) : (mgr.join player now).Sound petLevelDiff := by
  unfold join
  split
  next hcheck =>
    have hunknown := queue_of_checkJoin hcheck
    have hbefore : mgr.state player.guid ≠ .proposal := by
      intro hstate
      obtain ⟨proposal, hproposal, hhas⟩ := hsound.waiting _ hstate
      obtain ⟨-, seated, hseated, -⟩ := (hsound.seated proposal hproposal).member hhas
      rw [hunknown] at hseated
      cases hseated
    extract_lets info queued
    refine hsound.change hbefore (fun hstate => ?_) rfl rfl
      fun other hne => ⟨Function.update_of_ne hne _ _, ?_⟩
    · simp [setState] at hstate
    · exact (Table.get?_insert _ _ _ _).trans (if_neg hne)
  · exact hsound

include hsound in
theorem clear_sound (hstate : mgr.state guid ≠ .proposal) :
    ((mgr.clearState guid).markForDelete guid).Sound petLevelDiff := by
  refine hsound.change hstate (fun hafter => ?_) rfl rfl
    fun other hne => ⟨Function.update_of_ne hne _ _, markForDelete_get? _ _ _ hne⟩
  simp [markForDelete, clearState, setState] at hafter

/-- The other player of the leaver's proposal is found. -/
def LeaveFound (mgr : LFBMgr) (found : Nat → Bool) (guid : Nat) : Prop :=
  ∀ proposal ∈ mgr.proposal, proposal.Has guid →
    ∀ other, proposal.Has other → other ≠ guid → found other = true

variable (found) in
include hseated hmem in
theorem leave_of_has (hhas : proposal.Has guid) :
    mgr.leave found guid =
      ((mgr.removeProposal found proposal false).clearState guid).markForDelete guid := by
  obtain ⟨hstate, info, hinfo, hdeleted, hid⟩ := (hseated proposal hmem).member hhas
  have hget : mgr.proposal.get? info.proposalId = some proposal := hid ▸ Table.get?_key hmem
  unfold leave
  simp only [hinfo, hdeleted, Bool.false_eq_true, if_false, hstate, hget]

variable (found) in
include hsound in
/-- A player outside all proposals leaves without harm; else his proposal ends, and he is not in it
whether he is found or not. -/
theorem leave_cases (guid : Nat) :
    (mgr.state guid ≠ .proposal ∧ (mgr.leave found guid).Sound petLevelDiff) ∨
      ∃ proposal ended, proposal ∈ mgr.proposal ∧ proposal.Has guid ∧
        Ended found mgr ended proposal ∧
        mgr.leave found guid = (ended.clearState guid).markForDelete guid := by
  by_cases hstate : mgr.state guid = .proposal
  · obtain ⟨proposal, hproposal, hhas⟩ := hsound.waiting guid hstate
    have hseated := hsound.seated proposal hproposal
    exact Or.inr ⟨proposal, mgr.removeProposal found proposal false, hproposal, hhas,
      removeProposal_ended found hseated.distinct (Or.inr hseated.denied) mgr,
      leave_of_has found hsound.seated hproposal hhas⟩
  · refine Or.inl ⟨hstate, ?_⟩
    unfold leave
    split
    · exact hsound
    split
    · exact hsound
    split
    · exact hsound
    next hproposal => exact absurd hproposal hstate
    · exact clear_sound hsound hstate

include hsound in
theorem leave_sound (hfound : mgr.LeaveFound found guid) :
    (mgr.leave found guid).Sound petLevelDiff := by
  rcases leave_cases found hsound guid with
    ⟨-, hafter⟩ | ⟨proposal, ended, hmem, hhas, hended, hafter⟩
  · exact hafter
  rw [hafter]
  refine hsound.detach hmem hended.erased hended.count (fun other hnot => ?_) fun other hin => ?_
  · have hne : other ≠ guid := fun heq => hnot (heq ▸ hhas)
    have hothers := hended.others other hnot
    exact ⟨(Function.update_of_ne hne _ _).trans hothers.1,
      (markForDelete_get? _ _ _ hne).trans hothers.2⟩
  · by_cases hself : other = guid
    · rw [hself]
      simp [markForDelete, clearState, setState]
    · have hplayer := hended.players other hin
      rw [if_pos (hfound proposal hmem hhas other hin hself)] at hplayer
      exact fun hstate => hplayer ((Function.update_of_ne hself _ _).symm.trans hstate)

include hsound in
theorem leave_stuck (hlost : ¬mgr.LeaveFound found guid) :
    ∃ other, (mgr.leave found guid).Stuck other := by
  unfold LeaveFound at hlost
  push Not at hlost
  obtain ⟨proposal, hmem, hhas, other, hother, hne, hlost⟩ := hlost
  rcases leave_cases found hsound guid with
    ⟨hstate, -⟩ | ⟨live, ended, hlive, hin, hended, hafter⟩
  · exact absurd ((hsound.seated proposal hmem).member hhas).1 hstate
  rw [hafter]
  have hsame : live = proposal := hsound.unique hlive hmem hin hhas
  subst hsame
  have hstuck := hended.stuck hsound hlive hother (Bool.eq_false_iff.mpr hlost)
  exact ⟨other, (Function.update_of_ne hne _ _).trans hstuck.1, hstuck.2⟩

include hsound in
theorem finishBattle_sound (guid : Nat) : (mgr.finishBattle found guid).Sound petLevelDiff := by
  unfold finishBattle
  split
  · exact hsound
  next hcombat =>
  rw [ne_eq, not_not] at hcombat
  have hfinished : (mgr.setState guid .finished).Sound petLevelDiff := by
    refine hsound.change (by rw [hcombat]; decide) (fun hstate => ?_) rfl rfl
      fun other hne => ⟨Function.update_of_ne hne _ _, rfl⟩
    simp [setState] at hstate
  refine leave_sound hfinished fun proposal hmem hhas => ?_
  have hstate := ((hfinished.seated proposal hmem).member hhas).1
  simp [setState] at hstate

/-! ## Answers -/

theorem answer_has (proposal : LFBProposal) (guid : Nat) (answer : LfbAnswer) (other : Nat) :
    (proposal.answer guid answer).Has other ↔ proposal.Has other := by
  unfold LFBProposal.Has LFBProposal.answer
  split <;> split <;> exact Iff.rfl

theorem answer_players (proposal : LFBProposal) (guid : Nat) (answer : LfbAnswer) :
    (proposal.answer guid answer).first.player = proposal.first.player ∧
      (proposal.answer guid answer).second.player = proposal.second.player := by
  unfold LFBProposal.answer
  dsimp only
  constructor <;> split <;> rfl

theorem answer_of_not_has (hnot : ¬proposal.Has guid) (answer : LfbAnswer) :
    proposal.answer guid answer = proposal := by
  unfold LFBProposal.answer
  rw [if_neg fun heq => hnot (Or.inl heq.symm), if_neg fun heq => hnot (Or.inr heq.symm)]

theorem Ended.of_answer {answer : LfbAnswer}
    (hended : Ended found mgr after (proposal.answer guid answer)) :
    Ended found mgr after proposal where
  erased := hended.erased
  count := hended.count
  others other hnot := hended.others other fun hin => hnot ((answer_has _ _ _ _).mp hin)
  players other hhas := hended.players other ((answer_has _ _ _ _).mpr hhas)

/-- The other player has agreed. -/
def OtherAgreed (proposal : LFBProposal) (guid : Nat) : Prop :=
  ∀ item ∈ proposal.players, item.player ≠ guid → item.answer = .agree

/-- If the answer ends the proposal, both players are found. -/
def AnswerFound (mgr : LFBMgr) (found : Nat → Bool) (guid : Nat) (agree : Bool) : Prop :=
  ∀ proposal ∈ mgr.proposal, proposal.Has guid → (agree = true → OtherAgreed proposal guid) →
    ∀ other, proposal.Has other → found other = true

theorem has_iff : proposal.Has guid ↔ ∃ item ∈ proposal.players, item.player = guid := by
  unfold LFBProposal.Has LFBProposal.players
  simp [eq_comm]

theorem teleportPlayers_ended (hfound : ∀ guid, proposal.Has guid → found guid = true)
    (mgr : LFBMgr) :
    Ended found mgr { mgr.teleportPlayers found proposal with
      proposal := (mgr.teleportPlayers found proposal).proposal.erase proposal.id } proposal := by
  have hall : (proposal.players.all fun item => found item.player) = true :=
    List.all_eq_true.mpr fun item hitem => hfound _ (has_iff.mpr ⟨item, hitem, rfl⟩)
  unfold teleportPlayers
  rw [if_pos hall]
  refine ⟨rfl, rfl, fun guid hnot => ⟨?_, rfl⟩, fun guid hhas => ?_⟩
  · refine (Function.update_of_ne (fun heq => hnot (Or.inr heq)) _ _).trans ?_
    exact Function.update_of_ne (fun heq => hnot (Or.inl heq)) _ _
  · rw [if_pos (hfound guid hhas)]
    simp only [LFBProposal.players, List.foldl_cons, List.foldl_nil, setState]
    by_cases hsecond : guid = proposal.second.player
    · subst hsecond
      simp
    · have hfirst := hhas.resolve_right hsecond
      subst hfirst
      rw [Function.update_of_ne hsecond, Function.update_self]
      decide

theorem teleportPlayers_lost (hhas : proposal.Has guid) (hlost : found guid = false) (mgr : LFBMgr)
    : mgr.teleportPlayers found proposal = mgr := by
  obtain ⟨item, hitem, rfl⟩ := has_iff.mp hhas
  refine if_neg fun hall => ?_
  rw [List.all_eq_true.mp hall item hitem] at hlost
  exact Bool.false_ne_true hlost.symm

theorem count_agree (proposal : LFBProposal) :
    (proposal.players.countP fun item => item.answer = .agree) = 2 ↔
      proposal.first.answer = .agree ∧ proposal.second.answer = .agree := by
  unfold LFBProposal.players
  by_cases hfirst : proposal.first.answer = .agree <;>
    by_cases hsecond : proposal.second.answer = .agree <;> simp [hfirst, hsecond]

theorem AllSeated.noted (hall : mgr.AllSeated petLevelDiff) (hmem : proposal ∈ mgr.proposal)
    (guid : Nat) (hundecided : (((proposal.answer guid .agree).players.countP
      fun item => item.answer = .agree)) ≠ 2) :
    AllSeated petLevelDiff
      { mgr with proposal := mgr.proposal.replace (proposal.answer guid .agree) } := by
  have hseated := hall proposal hmem
  have hrows : ∀ other ∈ mgr.proposal.replace (proposal.answer guid .agree),
      other = proposal.answer guid .agree ∨ other ∈ mgr.proposal := by
    intro other hother
    have hget := Table.get?_key hother
    rw [Table.get?_replace] at hget
    split at hget
    · obtain ⟨_, _, hsame⟩ := Option.map_eq_some_iff.mp hget
      exact Or.inl hsame.symm
    · exact Or.inr (Table.get?_eq_some_iff.mp hget).1
  intro other hother
  rcases hrows other hother with rfl | hold
  · have hplayers := answer_players proposal guid .agree
    have hanswers : ∀ item ∈ (proposal.answer guid .agree).players, item.answer ≠ .pending := by
      have hone := hseated.answered proposal.first List.mem_cons_self
      have htwo := hseated.answered proposal.second (List.mem_cons_of_mem _ List.mem_cons_self)
      intro item hitem
      simp only [LFBProposal.players, LFBProposal.answer, List.mem_cons, List.not_mem_nil,
        or_false] at hitem
      rcases hitem with rfl | rfl
      · split
        · exact LfbAnswer.noConfusion
        · exact hone
      · split
        · exact LfbAnswer.noConfusion
        · exact htwo
    exact
      { distinct := hplayers.1 ▸ hplayers.2 ▸ hseated.distinct
        answered := hanswers
        undecided := fun hboth => hundecided ((count_agree _).mpr hboth)
        counted := hseated.counted
        seats := by
          rw [hplayers.1, hplayers.2]
          exact hseated.seats }
  · exact (hall other hold).congr (Nat.le_refl _) fun _ _ => rfl

include hsound hmem in
theorem Sound.noted (guid : Nat) (hundecided : (((proposal.answer guid .agree).players.countP
      fun item => item.answer = .agree)) ≠ 2) :
    Sound petLevelDiff
      { mgr with proposal := mgr.proposal.replace (proposal.answer guid .agree) } where
  seated := AllSeated.noted hsound.seated hmem guid hundecided
  waiting other hother := by
    obtain ⟨live, hlive, hhas⟩ := hsound.waiting other hother
    have hkey : Keyed.key (proposal.answer guid .agree) = proposal.id := rfl
    have hrow : mgr.proposal.get? live.id = some live := Table.get?_key hlive
    by_cases hsame : live = proposal
    · subst hsame
      refine ⟨live.answer guid .agree, ?_, (answer_has _ _ _ _).mpr hhas⟩
      have hget : (mgr.proposal.replace (live.answer guid .agree)).get? live.id =
          some (live.answer guid .agree) := by
        rw [Table.get?_replace, hkey, if_pos rfl, hrow]
        rfl
      exact (Table.get?_eq_some_iff.mp hget).1
    · refine ⟨live, ?_, hhas⟩
      have hne : live.id ≠ proposal.id := fun heq => hsame (Table.eq_of_key_eq hlive hmem heq)
      have hget : (mgr.proposal.replace (proposal.answer guid .agree)).get? live.id =
          some live := by
        rw [Table.get?_replace, hkey, if_neg hne]
        exact hrow
      exact (Table.get?_eq_some_iff.mp hget).1

theorem otherAgreed_iff (proposal : LFBProposal) (guid : Nat) :
    OtherAgreed proposal guid ↔
      ((proposal.answer guid .agree).players.countP fun item => item.answer = .agree) = 2 := by
  rw [count_agree]
  unfold OtherAgreed LFBProposal.players LFBProposal.answer
  by_cases hfirst : proposal.first.player = guid <;>
    by_cases hsecond : proposal.second.player = guid <;> simp [hfirst, hsecond]

theorem denied_answer (hhas : proposal.Has guid) :
    ∃ item ∈ (proposal.answer guid .deny).players, item.player = guid ∧ item.answer = .deny := by
  unfold LFBProposal.answer LFBProposal.players
  rcases hhas with rfl | rfl
  · refine ⟨_, List.mem_cons_self, ?_⟩
    rw [if_pos rfl]
    exact ⟨rfl, rfl⟩
  · refine ⟨_, List.mem_cons_of_mem _ List.mem_cons_self, ?_⟩
    rw [if_pos rfl]
    exact ⟨rfl, rfl⟩

variable (found) in
include hseated hmem in
theorem updateProposal_of_has (hhas : proposal.Has guid) :
    mgr.updateProposal found guid false =
      mgr.removeProposal found (proposal.answer guid .deny) false := by
  obtain ⟨-, info, hinfo, -, hid⟩ := (hseated proposal hmem).member hhas
  have hget : mgr.proposal.get? info.proposalId = some proposal := hid ▸ Table.get?_key hmem
  obtain ⟨item, hitem, hplayer, -⟩ := denied_answer hhas
  have hown : ((proposal.answer guid .deny).players.any fun item => item.player = guid) = true :=
    List.any_eq_true.mpr ⟨item, hitem, by simpa using hplayer⟩
  unfold updateProposal
  simp only [hinfo, hget, Bool.not_false, Bool.true_and, Bool.false_eq_true, if_false, hown,
    if_true]

variable (found) in
include hsound in
/-- An answer is lost on a proposal the player is not in, is noted, or ends the proposal. -/
theorem updateProposal_cases (guid : Nat) (agree : Bool) :
    (∀ proposal ∈ mgr.proposal, proposal.Has guid → agree = true ∧ ¬OtherAgreed proposal guid) ∧
        (mgr.updateProposal found guid agree).Sound petLevelDiff ∨
      ∃ proposal ∈ mgr.proposal, proposal.Has guid ∧ (agree = true → OtherAgreed proposal guid) ∧
        ((∀ other, proposal.Has other → found other = true) →
            Ended found mgr (mgr.updateProposal found guid agree) proposal) ∧
          ∀ other, proposal.Has other → found other = false →
            (mgr.updateProposal found guid agree).Stuck other := by
  by_cases hin : ∃ proposal ∈ mgr.proposal, proposal.Has guid
  · obtain ⟨proposal, hmem, hhas⟩ := hin
    have hseated := hsound.seated proposal hmem
    obtain ⟨-, info, hinfo, -, hid⟩ := hseated.member hhas
    have hget : mgr.proposal.get? info.proposalId = some proposal := hid ▸ Table.get?_key hmem
    cases agree with
    | false =>
      have hplayers := answer_players proposal guid .deny
      obtain ⟨item, hitem, -, hdeny⟩ := denied_answer hhas
      have hended : Ended found mgr (mgr.removeProposal found (proposal.answer guid .deny) false)
          proposal := (removeProposal_ended found (hplayers.1 ▸ hplayers.2 ▸ hseated.distinct)
            (Or.inr ⟨item, hitem, hdeny⟩) mgr).of_answer
      rw [updateProposal_of_has found hsound.seated hmem hhas]
      exact Or.inr ⟨proposal, hmem, hhas, fun heq => absurd heq Bool.false_ne_true,
        fun _ => hended, fun other hother hlost => hended.stuck hsound hmem hother hlost⟩
    | true =>
      unfold updateProposal
      simp only [hinfo, hget, Bool.not_true, Bool.false_and, Bool.false_eq_true, if_false, if_true]
      by_cases hagreed : OtherAgreed proposal guid
      · rw [if_neg (not_not.mpr ((otherAgreed_iff proposal guid).mp hagreed))]
        refine Or.inr ⟨proposal, hmem, hhas, fun _ => hagreed, fun hfound => ?_,
          fun other hother hlost => ?_⟩
        · refine (teleportPlayers_ended (fun other hother => hfound other ?_) mgr).of_answer
          exact (answer_has _ _ _ _).mp hother
        · rw [teleportPlayers_lost ((answer_has _ _ _ _).mpr hother) hlost]
          exact hsound.stuck hmem rfl hother rfl
      · have hundecided := fun heq => hagreed ((otherAgreed_iff proposal guid).mpr heq)
        rw [if_pos hundecided]
        refine Or.inl ⟨fun other hother hin => ⟨trivial, ?_⟩, hsound.noted hmem guid hundecided⟩
        rw [hsound.unique hother hmem hin hhas]
        exact hagreed
  · refine Or.inl ⟨fun proposal hmem hhas => absurd ⟨proposal, hmem, hhas⟩ hin, ?_⟩
    unfold updateProposal
    split
    · exact hsound
    split
    · exact hsound
    next proposal hget =>
    have hmem := (Table.get?_eq_some_iff.mp hget).1
    have hnot : ¬proposal.Has guid := fun hhas => hin ⟨proposal, hmem, hhas⟩
    have hforeign : (proposal.players.any fun item => item.player = guid) = false := by
      refine List.any_eq_false.mpr fun item hitem hplayer => hnot (has_iff.mpr ⟨item, hitem, ?_⟩)
      simpa using hplayer
    have hundecided : (proposal.players.countP fun item => item.answer = .agree) ≠ 2 :=
      fun heq => (hsound.seated proposal hmem).undecided ((count_agree proposal).mp heq)
    have hnoted := hsound.noted hmem guid (by rwa [answer_of_not_has hnot])
    simp only [answer_of_not_has hnot] at hnoted ⊢
    rw [hforeign, Bool.and_false, if_neg Bool.false_ne_true, if_pos hundecided]
    exact hnoted

include hsound in
theorem updateProposal_sound {agree : Bool} (hfound : mgr.AnswerFound found guid agree) :
    (mgr.updateProposal found guid agree).Sound petLevelDiff := by
  rcases updateProposal_cases found hsound guid agree with
    ⟨-, hafter⟩ | ⟨proposal, hmem, hhas, hends, hended, -⟩
  · exact hafter
  · have hboth := hfound proposal hmem hhas hends
    exact (hended hboth).sound hsound hmem hboth

include hsound in
theorem updateProposal_stuck {agree : Bool} (hlost : ¬mgr.AnswerFound found guid agree) :
    ∃ other, (mgr.updateProposal found guid agree).Stuck other := by
  unfold AnswerFound at hlost
  push Not at hlost
  obtain ⟨proposal, hmem, hhas, hends, other, hother, hlost⟩ := hlost
  rcases updateProposal_cases found hsound guid agree with
    ⟨hgoes, -⟩ | ⟨live, hlive, hin, -, -, hstuck⟩
  · obtain ⟨hagree, hopen⟩ := hgoes proposal hmem hhas
    exact absurd (hends hagree) hopen
  · have hsame : live = proposal := hsound.unique hlive hmem hin hhas
    subst hsame
    exact ⟨other, hstuck other hother (Bool.eq_false_iff.mpr hlost)⟩

/-! ## Updates -/

variable {now : Nat} {rows : List LFBProposal}

include hseated in
/-- The entries that are marked are in no proposal. -/
theorem AllSeated.swept :
    AllSeated petLevelDiff { mgr with queue := mgr.queue.filter fun info => !info.isDeleted } := by
  refine hseated.frame (fun _ hmem => hmem) (Nat.le_refl _) fun proposal hmem guid hhas => ?_
  obtain ⟨-, info, hinfo, hdeleted, -⟩ := (hseated proposal hmem).member hhas
  have hkept : (mgr.queue.filter fun info => !info.isDeleted).get? guid = some info := by
    rw [Table.get?_eq_some_iff] at hinfo ⊢
    exact ⟨Table.mem_filter.mpr ⟨hinfo.1, by simp [hdeleted]⟩, hinfo.2⟩
  unfold seat
  rw [hkept, hinfo]

include hsound in
theorem Sound.swept :
    Sound petLevelDiff { mgr with queue := mgr.queue.filter fun info => !info.isDeleted } where
  seated := AllSeated.swept hsound.seated
  waiting := hsound.waiting

/-- A stuck player is not helped by anything that leaves his state and puts him in no proposal. -/
theorem Stuck.keep (hstuck : mgr.Stuck guid) (hstate : after.state guid = mgr.state guid)
    (hproposal : ∀ proposal ∈ after.proposal, proposal.Has guid → proposal ∈ mgr.proposal) :
    after.Stuck guid :=
  ⟨hstate.trans hstuck.1, fun proposal hmem hhas =>
    hstuck.2 proposal (hproposal proposal hmem hhas) hhas⟩

/-- Rows of the table that are still to be looked at. -/
structure Pending (mgr : LFBMgr) (rows : List LFBProposal) : Prop where
  nodup : (rows.map LFBProposal.id).Nodup
  mem : ∀ proposal ∈ rows, proposal ∈ mgr.proposal
  distinct : ∀ proposal ∈ rows, proposal.first.player ≠ proposal.second.player

theorem Pending.expire {rest : List LFBProposal} (hpending : mgr.Pending (proposal :: rest)) :
    (expire found now mgr proposal).Pending rest where
  nodup := (List.nodup_cons.mp hpending.nodup).2
  mem other hother := by
    have hmem := hpending.mem other (List.mem_cons_of_mem _ hother)
    unfold LFBMgr.expire
    split
    · have hended := removeProposal_ended found
        (hpending.distinct proposal List.mem_cons_self) (Or.inl rfl) mgr
      rw [hended.erased]
      refine Table.mem_erase.mpr ⟨hmem, fun heq => (List.nodup_cons.mp hpending.nodup).1 ?_⟩
      exact List.mem_map.mpr ⟨other, hother, heq⟩
    · exact hmem
  distinct other hother := hpending.distinct other (List.mem_cons_of_mem _ hother)

/-- What the end of a proposal keeps, the end of all that are too late keeps. -/
theorem Pending.keep (property : LFBMgr → Prop) (hpending : mgr.Pending rows)
    (hends : ∀ {mgr after : LFBMgr}, ∀ proposal ∈ rows, proposal ∈ mgr.proposal →
      proposal.cancelTime < now → Ended found mgr after proposal → property mgr → property after)
    (hmgr : property mgr) : property (rows.foldl (LFBMgr.expire found now) mgr) := by
  induction rows generalizing mgr with
  | nil => exact hmgr
  | cons proposal rest ih =>
    refine ih hpending.expire (fun other hother => hends other (List.mem_cons_of_mem _ hother)) ?_
    unfold LFBMgr.expire
    split
    next hlate =>
      have hended := removeProposal_ended found
        (hpending.distinct proposal List.mem_cons_self) (Or.inl rfl) mgr
      exact hends proposal List.mem_cons_self (hpending.mem proposal List.mem_cons_self) hlate
        hended hmgr
    · exact hmgr

theorem expired_sound (hpending : mgr.Pending rows) (hsound : mgr.Sound petLevelDiff)
    (hfound : ∀ proposal ∈ rows, proposal.cancelTime < now →
      ∀ guid, proposal.Has guid → found guid = true) :
    (rows.foldl (expire found now) mgr).Sound petLevelDiff :=
  hpending.keep (Sound petLevelDiff) (fun proposal hrow hmem hlate hended hsound =>
    hended.sound hsound hmem (hfound proposal hrow hlate)) hsound

/-- The end of other proposals does not help a stuck player. -/
theorem Stuck.expired (hpending : mgr.Pending rows) (hstuck : mgr.Stuck guid) :
    (rows.foldl (expire found now) mgr).Stuck guid := by
  refine hpending.keep (Stuck · guid) (fun proposal _ hmem _ hended hstuck => ?_) hstuck
  refine hstuck.keep (hended.others guid (hstuck.2 proposal hmem)).1 fun other hother _ => ?_
  rw [hended.erased] at hother
  exact (Table.mem_erase.mp hother).1

theorem expired_stuck (hpending : mgr.Pending rows) (hsound : mgr.Sound petLevelDiff)
    (hmem : proposal ∈ rows) (hlate : proposal.cancelTime < now) (hhas : proposal.Has guid)
    (hlost : found guid = false) : ∃ other, (rows.foldl (expire found now) mgr).Stuck other := by
  induction rows generalizing mgr with
  | nil => cases hmem
  | cons first rest ih =>
    have hfirst := hpending.mem first List.mem_cons_self
    have hended := removeProposal_ended found
      (hpending.distinct first List.mem_cons_self) (Or.inl rfl) mgr
    by_cases hends : first.cancelTime < now ∧ ∃ other, first.Has other ∧ found other = false
    · obtain ⟨hfirstLate, other, hother, hotherLost⟩ := hends
      have hstuck : (expire found now mgr first).Stuck other := by
        unfold expire
        rw [if_pos hfirstLate]
        exact hended.stuck hsound hfirst hother hotherLost
      have hlater : (rest.foldl (expire found now) (expire found now mgr first)).Stuck other :=
        hstuck.expired hpending.expire
      exact ⟨other, hlater⟩
    · push Not at hends
      have hnext : (expire found now mgr first).Sound petLevelDiff := by
        unfold expire
        split
        next hfirstLate =>
          exact hended.sound hsound hfirst fun other hother =>
            Bool.eq_true_of_not_eq_false (hends hfirstLate other hother)
        · exact hsound
      refine ih hpending.expire hnext ?_
      rcases List.mem_cons.mp hmem with rfl | hrest
      · exact absurd hlost (hends hlate guid hhas)
      · exact hrest

/-- What a new proposal changes. -/
structure Matched (petLevelDiff : Int) (mgr after : LFBMgr) (proposal : LFBProposal) : Prop where
  distinct : proposal.first.player ≠ proposal.second.player
  denied : ∀ item ∈ proposal.players, item.answer = .deny
  fresh : proposal.id = mgr.nextProposalId
  count : after.nextProposalId = mgr.nextProposalId + 1
  rows : ∀ other, other ∈ after.proposal ↔
    other = proposal ∨ other ∈ mgr.proposal ∧ other.id ≠ proposal.id
  queued : ∀ guid, proposal.Has guid → mgr.state guid = .queued
  others : ∀ guid, ¬proposal.Has guid →
    after.state guid = mgr.state guid ∧ after.queue.get? guid = mgr.queue.get? guid
  seats : ∃ team weight opposing,
    after.seat proposal.first.player = some ⟨false, proposal.id, team, weight, .proposal⟩ ∧
      after.seat proposal.second.player = some ⟨false, proposal.id, team, opposing, .proposal⟩ ∧
      (weight - opposing).natAbs ≤ petLevelDiff

theorem selectOpponent_cases {info : LFBQueueInfo} (now : Nat) {later : List Nat}
    (hinfo : mgr.queue.get? info.guid = some info) (hdeleted : info.isDeleted = false)
    (hqueued : mgr.state info.guid = .queued) (hlater : info.guid ∉ later) :
    mgr.selectOpponent found petLevelDiff now info later = mgr ∨
      ∃ proposal, Matched petLevelDiff mgr
        (mgr.selectOpponent found petLevelDiff now info later) proposal := by
  unfold selectOpponent
  split
  · exact Or.inl rfl
  split
  · exact Or.inl rfl
  next nguid hfind =>
  have hopposes := List.find?_some hfind
  have hne : info.guid ≠ nguid := fun heq => hlater (heq ▸ List.mem_of_find?_eq_some hfind)
  unfold opposes at hopposes
  rw [Option.any_eq_true] at hopposes
  obtain ⟨opponent, hopponent, htest⟩ := hopposes
  simp only [Bool.and_eq_true, Bool.not_eq_true', decide_eq_true_eq] at htest
  obtain ⟨⟨⟨⟨hwaits, hlives⟩, hteam⟩, hclose⟩, -⟩ := htest
  refine Or.inr ⟨⟨mgr.nextProposalId, ⟨info.guid, .deny⟩, ⟨nguid, .deny⟩, now + 120000⟩, ?_⟩
  refine
    { distinct := hne
      denied := by simp [LFBProposal.players]
      fresh := rfl
      count := rfl
      rows := fun other => Table.mem_insert
      queued := ?_
      others := fun guid hnot => ⟨?_, ?_⟩
      seats := ⟨info.team, info.petsWeight, opponent.petsWeight, ?_, ?_, hclose⟩ }
  · rintro guid (rfl | rfl)
    · exact hqueued
    · exact hwaits
  · refine (Function.update_of_ne (fun heq => hnot (Or.inr heq)) _ _).trans ?_
    exact Function.update_of_ne (fun heq => hnot (Or.inl heq)) _ _
  · dsimp only [setState]
    rw [Table.get?_modify, if_neg fun heq => hnot (Or.inr heq), Table.get?_modify,
      if_neg fun heq => hnot (Or.inl heq)]
  · dsimp only [seat, setState]
    rw [Table.get?_modify, if_neg hne, Table.get?_modify, if_pos rfl, hinfo,
      Function.update_of_ne hne, Function.update_self]
    simp [hdeleted]
  · dsimp only [seat, setState]
    rw [Table.get?_modify, if_pos rfl, Table.get?_modify, if_neg hne.symm, hopponent,
      Function.update_self]
    simp [hlives, hteam]

theorem Matched.allSeated (hmatched : Matched petLevelDiff mgr after proposal)
    (hseated : mgr.AllSeated petLevelDiff) : after.AllSeated petLevelDiff := by
  -- The two wait in the queue, so they are in no proposal yet.
  have hfree : ∀ other ∈ mgr.proposal, ∀ guid, other.Has guid → ¬proposal.Has guid := by
    intro other hother guid hhas hin
    have hstate := ((hseated other hother).member hhas).1
    rw [hmatched.queued guid hin] at hstate
    cases hstate
  intro other hother
  rcases (hmatched.rows other).mp hother with rfl | ⟨hold, -⟩
  · refine ⟨hmatched.distinct, fun item hitem => ?_, fun hboth => ?_, ?_, hmatched.seats⟩
    · rw [hmatched.denied item hitem]
      decide
    · have hdenied := hmatched.denied other.first List.mem_cons_self
      rw [hboth.1] at hdenied
      cases hdenied
    · rw [hmatched.fresh, hmatched.count]
      exact Nat.lt_succ_self _
  · refine (hseated other hold).congr (hmatched.count ▸ Nat.le_succ _) fun guid hhas => ?_
    have hothers := hmatched.others guid (hfree other hold guid hhas)
    unfold seat
    rw [hothers.1, hothers.2]

theorem Matched.sound (hmatched : Matched petLevelDiff mgr after proposal)
    (hsound : mgr.Sound petLevelDiff) : after.Sound petLevelDiff where
  seated := hmatched.allSeated hsound.seated
  waiting guid hguid := by
    have holder : ∀ other ∈ mgr.proposal, other.id ≠ proposal.id := fun other hother =>
      hmatched.fresh ▸ (hsound.seated other hother).counted.ne
    by_cases hin : proposal.Has guid
    · exact ⟨proposal, (hmatched.rows _).mpr (Or.inl rfl), hin⟩
    · obtain ⟨other, hother, hhas⟩ := hsound.waiting guid ((hmatched.others guid hin).1 ▸ hguid)
      exact ⟨other, (hmatched.rows _).mpr (Or.inr ⟨hother, holder other hother⟩), hhas⟩

theorem Stuck.matched (hstuck : mgr.Stuck guid) (hmatched : Matched petLevelDiff mgr after proposal)
    : after.Stuck guid := by
  have hnot : ¬proposal.Has guid := by
    intro hin
    have hstate := hstuck.1
    rw [hmatched.queued guid hin] at hstate
    cases hstate
  refine hstuck.keep (hmatched.others guid hnot).1 fun other hother hhas => ?_
  rcases (hmatched.rows other).mp hother with rfl | ⟨hold, -⟩
  · exact absurd hhas hnot
  · exact hold

variable (property : LFBMgr → Prop)

/-- What neither a new proposal nor its absence takes away, the loop keeps. -/
theorem selectOpponents_keep (now : Nat) (hmatched : ∀ before after proposal, property before →
      Matched petLevelDiff before after proposal → property after) :
    ∀ (guids : List Nat) (mgr : LFBMgr), guids.Nodup → property mgr →
      property (selectOpponents found petLevelDiff now guids mgr) := by
  intro guids
  induction guids with
  | nil => exact fun _ _ hmgr => hmgr
  | cons guid later ih =>
    intro mgr hnodup hmgr
    obtain ⟨hlater, hrest⟩ := List.nodup_cons.mp hnodup
    refine ih _ hrest ?_
    cases hinfo : mgr.queue.get? guid with
    | none => exact hmgr
    | some info =>
      dsimp only
      split
      · exact hmgr
      next hwaits =>
      simp only [Bool.or_eq_true, decide_eq_true_eq, not_or, Bool.not_eq_true, ne_eq,
        not_not] at hwaits
      have hkey : info.guid = guid := (Table.get?_eq_some_iff.mp hinfo).2
      subst hkey
      rcases selectOpponent_cases now hinfo hwaits.1 hwaits.2 hlater with
        hsame | ⟨proposal, hnew⟩
      · rw [hsame]
        exact hmgr
      · exact hmatched mgr _ proposal hmgr hnew

variable (mgr found) in
/-- Refreshing an entry may take out a player that waits, and changes no other state. -/
theorem refresh_cases (now : Nat) (guid : Nat) :
    ∃ timed : LFBMgr, (∀ other, timed.seat other = mgr.seat other) ∧
      timed.state = mgr.state ∧ timed.proposal = mgr.proposal ∧
      timed.nextProposalId = mgr.nextProposalId ∧
      (refresh found now mgr guid = timed ∨ mgr.state guid = .queued ∧
        refresh found now mgr guid = (timed.clearState guid).markForDelete guid) := by
  unfold refresh
  cases hinfo : mgr.queue.get? guid with
  | none => exact ⟨mgr, fun _ => rfl, rfl, rfl, rfl, Or.inl rfl⟩
  | some info =>
    dsimp only
    split
    · exact ⟨mgr, fun _ => rfl, rfl, rfl, rfl, Or.inl rfl⟩
    refine ⟨{ mgr with queue := mgr.queue.modify guid fun info =>
      { info with queuedTime := (now - info.joinTime) / 1000 } }, fun other => ?_, rfl, rfl,
      rfl, ?_⟩
    · dsimp only [seat]
      rw [Table.get?_modify]
      split
      next heq =>
        rw [heq, hinfo]
        rfl
      · rfl
    · split
      next htaken =>
        simp only [Bool.and_eq_true, decide_eq_true_eq] at htaken
        exact Or.inr ⟨htaken.1, rfl⟩
      · exact Or.inl rfl

include hsound in
theorem refresh_sound (now guid : Nat) : (refresh found now mgr guid).Sound petLevelDiff := by
  obtain ⟨timed, hseat, hstate, hproposal, hcount, hafter⟩ := refresh_cases mgr found now guid
  have htimed : timed.Sound petLevelDiff := by
    refine hsound.frame (fun other hother => hproposal ▸ hother) hcount.ge
      (fun _ _ other _ => hseat other) fun other hother => ?_
    rw [hproposal]
    exact hsound.waiting other (hstate ▸ hother)
  rcases hafter with hafter | ⟨hqueued, hafter⟩
  · rw [hafter]
    exact htimed
  · rw [hafter]
    refine clear_sound htimed ?_
    rw [hstate, hqueued]
    decide

theorem Stuck.refresh {other : Nat} (hstuck : mgr.Stuck other) (now guid : Nat) :
    (refresh found now mgr guid).Stuck other := by
  obtain ⟨timed, -, hstate, hproposal, -, hafter⟩ := refresh_cases mgr found now guid
  have htimed : timed.Stuck other :=
    hstuck.keep (congrFun hstate other) fun proposal hmem _ => hproposal ▸ hmem
  rcases hafter with hafter | ⟨hqueued, hafter⟩
  · rw [hafter]
    exact htimed
  · rw [hafter]
    have hne : other ≠ guid := by
      rintro rfl
      have hwaits := hstuck.1
      rw [hqueued] at hwaits
      cases hwaits
    exact htimed.keep (Function.update_of_ne hne _ _) fun proposal hmem _ => hmem

/-- The players of the proposals that are too old are found. -/
def UpdateFound (mgr : LFBMgr) (found : Nat → Bool) (now : Nat) : Prop :=
  ∀ proposal ∈ mgr.proposal, proposal.cancelTime < now →
    ∀ guid, proposal.Has guid → found guid = true

variable (diff : Nat)

/-- What holds once the old proposals are gone holds after the update, if neither a new proposal
nor a refresh takes it away. -/
theorem update_keep (now : Nat) (hexpired : property (mgr.proposal.rows.foldl (expire found now)
      { mgr with queue := mgr.queue.filter fun info => !info.isDeleted }))
    (hmatched : ∀ before after proposal, property before →
      Matched petLevelDiff before after proposal → property after)
    (hrefresh : ∀ before guid, property before → property (refresh found now before guid))
    (htimer : ∀ before timer, property before → property { before with queueTimer := timer }) :
    property (mgr.update found petLevelDiff diff now) := by
  unfold update
  extract_lets swept expired selected
  have hselected : property selected :=
    selectOpponents_keep property now hmatched _ _ expired.queue.nodup hexpired
  have hrefreshed : ∀ (guids : List Nat) before, property before →
      property (guids.foldl (refresh found now) before) := by
    intro guids
    induction guids with
    | nil => exact fun _ hbefore => hbefore
    | cons guid rest ih => exact fun before hbefore => ih _ (hrefresh before guid hbefore)
  split
  · exact htimer _ _ (hrefreshed _ _ hselected)
  · exact htimer _ _ hselected

include hseated in
theorem AllSeated.pending : mgr.Pending mgr.proposal.rows where
  nodup := mgr.proposal.nodup
  mem _ hmem := hmem
  distinct proposal hmem := (hseated proposal hmem).distinct

include hsound in
theorem update_sound (hfound : mgr.UpdateFound found now) :
    (mgr.update found petLevelDiff diff now).Sound petLevelDiff := by
  refine update_keep (Sound petLevelDiff) diff now ?_ (fun _ _ _ hbefore hnew => hnew.sound hbefore)
    (fun _ guid hbefore => refresh_sound hbefore now guid) fun _ _ hbefore => ?_
  · exact expired_sound (AllSeated.pending hsound.swept.seated) hsound.swept hfound
  · exact hbefore.frame (fun _ hmem => hmem) (Nat.le_refl _) (fun _ _ _ _ => rfl) hbefore.waiting

include hsound in
theorem update_stuck (hlost : ¬mgr.UpdateFound found now) :
    ∃ guid, (mgr.update found petLevelDiff diff now).Stuck guid := by
  unfold UpdateFound at hlost
  push Not at hlost
  obtain ⟨proposal, hmem, hlate, guid, hhas, hlost⟩ := hlost
  obtain ⟨other, hstuck⟩ := expired_stuck (AllSeated.pending hsound.swept.seated) hsound.swept
    hmem hlate hhas
    (Bool.eq_false_iff.mpr hlost)
  refine ⟨other, update_keep (Stuck · other) diff now hstuck
    (fun _ _ _ hbefore hnew => hbefore.matched hnew)
    (fun _ guid hbefore => hbefore.refresh now guid) fun _ _ hbefore => hbefore⟩

/-! ## Runs -/

theorem empty_sound : empty.Sound petLevelDiff where
  seated _ hmem := absurd hmem List.not_mem_nil
  waiting _ hstate := by cases hstate

/-- The players whose proposal a call ends are found, apart from one that leaves. -/
def CallFound (mgr : LFBMgr) : Call → Prop
  | .join _ _ => True
  | .leave guid found => mgr.LeaveFound found guid
  | .updateProposal guid agree found => mgr.AnswerFound found guid agree
  | .finishBattle _ _ => True
  | .update _ now found => mgr.UpdateFound found now

include hsound in
theorem step_sound {call : Call} (hfound : mgr.CallFound call) :
    (mgr.step petLevelDiff call).Sound petLevelDiff := by
  cases call with
  | join player now => exact join_sound hsound player now
  | leave guid found => exact leave_sound hsound hfound
  | updateProposal guid agree found => exact updateProposal_sound hsound hfound
  | finishBattle guid found => exact finishBattle_sound hsound guid
  | update diff now found => exact update_sound hsound diff hfound

include hsound in
theorem step_stuck {call : Call} (hlost : ¬mgr.CallFound call) :
    ∃ guid, (mgr.step petLevelDiff call).Stuck guid := by
  cases call with
  | join player now => exact absurd trivial hlost
  | leave guid found => exact leave_stuck hsound hlost
  | updateProposal guid agree found => exact updateProposal_stuck hsound hlost
  | finishBattle guid found => exact absurd trivial hlost
  | update diff now found => exact update_stuck hsound diff hlost

/-- The finder is consistent in the runs in which a proposal only ends while its players are
found. -/
theorem consistent_iff_found (petLevelDiff : Int) (calls : List Call) :
    (∀ reached ∈ visited (step petLevelDiff) empty calls, reached.Consistent petLevelDiff) ↔
      Along (step petLevelDiff) CallFound empty calls := by
  refine forall_visited_iff_along_of_invariant (step petLevelDiff) (Sound petLevelDiff)
    (Consistent petLevelDiff) CallFound (fun _ hsound => hsound.consistent)
    (fun _ _ hsound hfound => step_sound hsound hfound) (fun mgr call hsound hnext => ?_)
    empty calls empty_sound
  by_contra hlost
  obtain ⟨guid, hstuck⟩ := step_stuck hsound hlost
  exact not_consistent_of_stuck hstuck hnext

def petOwner (guid : Nat) : Player where
  guid := guid
  hasPetBattle := false
  isNeutralPandaren := false
  team := .horde
  loadout _ := ⟨1, true, some ⟨1, 100, true⟩⟩

/-- Two players are matched, one of them goes to a loading screen, and the other leaves. -/
def lostPlayer : List Call :=
  [.join (petOwner 1) 0, .join (petOwner 2) 0, .update 0 0 fun _ => true,
    .leave 1 fun guid => guid ≠ 2]

theorem lostPlayer_stuck : (lostPlayer.foldl (step 6) empty).Stuck 2 := by
  refine ⟨by decide +kernel, ?_⟩
  have hnone : (lostPlayer.foldl (step 6) empty).proposal.rows = [] := by decide +kernel
  intro proposal hmem
  rw [Table.mem_def, hnone] at hmem
  cases hmem

theorem not_always_consistent :
    ¬∀ petLevelDiff calls, ∀ reached ∈ visited (step petLevelDiff) empty calls,
      reached.Consistent petLevelDiff := by
  intro hall
  refine not_consistent_of_stuck lostPlayer_stuck (hall 6 lostPlayer _ ?_)
  simp [lostPlayer, visited]

end LFBMgr

end MopServer.BattlePets
