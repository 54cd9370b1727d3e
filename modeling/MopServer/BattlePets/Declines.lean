import MopServer.BattlePets.Proposals

/-! # Declined proposals

The answers of a new proposal are denials, so whoever has not agreed yet goes with the player that
declines.  When the time is over, everybody that is found goes.
-/

namespace MopServer.BattlePets

open MopServer.Foundation

namespace LFBMgr

variable {mgr after : LFBMgr} {petLevelDiff : Int} {found : Nat → Bool}

/-- The player's entry is to leave the queue. -/
def marked (mgr : LFBMgr) (guid : Nat) : Bool :=
  (mgr.queue.get? guid).any LFBQueueInfo.isDeleted

/-- The player waits again, with the entry he had. -/
def Requeued (mgr after : LFBMgr) (guid : Nat) : Prop :=
  after.state guid = .queued ∧ ∃ info, mgr.queue.get? guid = some info ∧
    after.queue.get? guid = some info ∧ info.isDeleted = false

/-- Of a live proposal the player is out, and the other one waits again if he is found. -/
def RemovesOnly (found : Nat → Bool) (mgr after : LFBMgr) (guid : Nat) : Prop :=
  ∀ proposal ∈ mgr.proposal, proposal.Has guid → after.marked guid = true ∧
    ∀ item ∈ proposal.players, item.player ≠ guid → found item.player = true →
      Requeued mgr after item.player

/-- Whoever declines or leaves goes alone, and those go at the timeout who have not agreed. -/
def Declines (petLevelDiff : Int) (mgr : LFBMgr) (call : Call) : Prop :=
  let after := mgr.step petLevelDiff call
  match call with
  | .updateProposal guid false found => RemovesOnly found mgr after guid
  | .leave guid found => RemovesOnly found mgr after guid
  | .update _ now _ => ∀ proposal ∈ mgr.proposal, proposal.cancelTime < now →
      ∀ item ∈ proposal.players, after.marked item.player = true ↔ item.answer ≠ .agree
  | _ => True

/-- The other player has agreed, if he is found. -/
def FoundAgreed (found : Nat → Bool) (proposal : LFBProposal) (guid : Nat) : Prop :=
  ∀ item ∈ proposal.players, item.player ≠ guid → found item.player = true →
    item.answer = .agree

/-- Nobody declines before the other one has agreed, and only those are found at the timeout who
have not agreed. -/
def Agreed (mgr : LFBMgr) : Call → Prop
  | .updateProposal guid false found => ∀ proposal ∈ mgr.proposal, proposal.Has guid →
      found guid = true ∧ FoundAgreed found proposal guid
  | .leave guid found => ∀ proposal ∈ mgr.proposal, proposal.Has guid →
      FoundAgreed found proposal guid
  | .update _ now found => ∀ proposal ∈ mgr.proposal, proposal.cancelTime < now →
      ∀ item ∈ proposal.players, found item.player = true ↔ item.answer ≠ .agree
  | _ => True

/-! ## What the end of a proposal is for a player -/

variable {guid : Nat} {removed : Bool} {info : LFBQueueInfo}

structure Released (isFound removed : Bool) (mgr after : LFBMgr) (guid : Nat) : Prop where
  state : after.state guid =
    if isFound then if removed then .none else .queued else mgr.state guid
  entry : after.queue.get? guid =
    if isFound && removed then
      (mgr.queue.get? guid).map fun info => { info with isDeleted := true }
    else mgr.queue.get? guid

theorem Released.congr {isFound : Bool} {before later : LFBMgr}
    (hreleased : Released isFound removed mgr after guid)
    (hbefore : mgr.state guid = before.state guid ∧ mgr.queue.get? guid = before.queue.get? guid)
    (hlater : later.state guid = after.state guid ∧ later.queue.get? guid = after.queue.get? guid) :
    Released isFound removed before later guid where
  state := by rw [hlater.1, hreleased.state, hbefore.1]
  entry := by rw [hlater.2, hreleased.entry, hbefore.2]

theorem Released.marked_eq {isFound : Bool} (hreleased : Released isFound removed mgr after guid)
    (hinfo : mgr.queue.get? guid = some info) (hdeleted : info.isDeleted = false) :
    after.marked guid = (isFound && removed) := by
  unfold marked
  rw [hreleased.entry, hinfo]
  split
  next hout => rw [hout]; rfl
  next hin =>
    rw [Bool.eq_false_of_not_eq_true hin]
    exact hdeleted

theorem Released.requeued_iff (hreleased : Released true removed mgr after guid)
    (hinfo : mgr.queue.get? guid = some info) (hdeleted : info.isDeleted = false) :
    Requeued mgr after guid ↔ removed = false := by
  unfold Requeued
  rw [hreleased.state, hreleased.entry, hinfo]
  cases removed with
  | false => exact ⟨fun _ => rfl, fun _ => ⟨rfl, info, rfl, rfl, hdeleted⟩⟩
  | true => simp

variable (found) in
theorem release_released (toRemove : List Nat) (mgr : LFBMgr) (item : LFBProposalItem) :
    Released (found item.player) (item.player ∈ toRemove) mgr (release found toRemove mgr item)
      item.player := by
  unfold release
  cases found item.player with
  | false => exact ⟨rfl, rfl⟩
  | true =>
    by_cases hout : item.player ∈ toRemove
    · rw [if_neg (by decide), if_pos hout, decide_eq_true hout]
      refine ⟨Function.update_self .., ?_⟩
      unfold markForDelete
      rw [Table.get?_modify, if_pos rfl]
      rfl
    · rw [if_neg (by decide), if_neg hout, decide_eq_false hout]
      exact ⟨Function.update_self .., rfl⟩

variable (found) in
theorem release_both_released (toRemove : List Nat) {first second : LFBProposalItem}
    (hdistinct : first.player ≠ second.player) (mgr : LFBMgr) :
    let after := release found toRemove (release found toRemove mgr first) second
    Released (found first.player) (first.player ∈ toRemove) mgr after first.player ∧
      Released (found second.player) (second.player ∈ toRemove) mgr after second.player := by
  constructor
  · exact (release_released found toRemove mgr first).congr ⟨rfl, rfl⟩
      (release_other found toRemove _ second hdistinct)
  · exact (release_released found toRemove _ second).congr
      (release_other found toRemove mgr first hdistinct.symm) ⟨rfl, rfl⟩

variable (found) in
/-- A player of a proposal that ends is out if it failed or he has not agreed. -/
theorem removeProposal_released {proposal : LFBProposal}
    (hdistinct : proposal.first.player ≠ proposal.second.player) (failed : Bool)
    (hremoved : failed = true ∨ ∃ item ∈ proposal.players, item.answer = .deny) (mgr : LFBMgr)
    {item : LFBProposalItem} (hitem : item ∈ proposal.players) :
    Released (found item.player) (failed || item.answer = .deny) mgr
      (mgr.removeProposal found proposal failed) item.player := by
  obtain ⟨toRemove, first, second, hfirst, hsecond, hmem, heq⟩ :=
    removeProposal_told found hdistinct hremoved mgr
  have hout : decide (item.player ∈ toRemove) = (failed || decide (item.answer = .deny)) := by
    rw [decide_eq_decide.mpr (hmem item hitem), Bool.decide_or, Bool.decide_eq_true]
  obtain ⟨hone, htwo⟩ := release_both_released found toRemove (hfirst ▸ hsecond ▸ hdistinct) mgr
  rw [heq, ← hout]
  simp only [LFBProposal.players, List.mem_cons, List.not_mem_nil, or_false] at hitem
  rcases hitem with rfl | rfl
  · rw [← hfirst]
    exact hone.congr ⟨rfl, rfl⟩ ⟨rfl, rfl⟩
  · rw [← hsecond]
    exact htwo.congr ⟨rfl, rfl⟩ ⟨rfl, rfl⟩

/-! ## Seats outlast the ends of other proposals -/

variable {rows : List LFBProposal} {now : Nat} (hseated : mgr.AllSeated petLevelDiff)

theorem Ended.allSeated {proposal : LFBProposal} (hended : Ended found mgr after proposal)
    (hseated : mgr.AllSeated petLevelDiff) (hmem : proposal ∈ mgr.proposal) :
    after.AllSeated petLevelDiff :=
  hseated.erased hmem hended.erased hended.count hended.others

include hseated in
theorem AllSeated.cleared (hout : ∀ proposal ∈ mgr.proposal, ¬proposal.Has guid) :
    ((mgr.clearState guid).markForDelete guid).AllSeated petLevelDiff :=
  hseated.outside hout rfl rfl fun _ hne =>
    ⟨Function.update_of_ne hne _ _, markForDelete_get? _ _ _ hne⟩

include hseated in
theorem AllSeated.join (player : Player) (now : Nat) :
    (mgr.join player now).AllSeated petLevelDiff := by
  unfold LFBMgr.join
  split
  next hcheck =>
    refine hseated.outside (fun proposal hmem hhas => ?_) rfl rfl
      fun _ hne => ⟨Function.update_of_ne hne _ _, ?_⟩
    · obtain ⟨-, info, hinfo, -⟩ := (hseated proposal hmem).member hhas
      rw [queue_of_checkJoin hcheck] at hinfo
      cases hinfo
    · exact (Table.get?_insert _ _ _ _).trans (if_neg hne)
  · exact hseated

include hseated in
theorem AllSeated.leave (guid : Nat) : (mgr.leave found guid).AllSeated petLevelDiff := by
  unfold LFBMgr.leave
  split
  · exact hseated
  next info hinfo =>
  split
  · exact hseated
  -- A proposal with the player is the one his entry names.
  have hnamed : ∀ proposal ∈ mgr.proposal, proposal.Has guid → proposal.id = info.proposalId := by
    intro proposal hmem hhas
    obtain ⟨-, other, hother, -, hid⟩ := (hseated proposal hmem).member hhas
    rw [hinfo] at hother
    cases hother
    exact hid.symm
  split
  · exact hseated
  · split
    next hnone =>
      refine hseated.cleared fun proposal hmem hhas => ?_
      have hget := Table.get?_key hmem
      rw [show Keyed.key proposal = info.proposalId from hnamed proposal hmem hhas, hnone] at hget
      cases hget
    next proposal hget =>
      obtain ⟨hmem, hid⟩ := Table.get?_eq_some_iff.mp hget
      have hlive := hseated proposal hmem
      have hended : Ended found mgr (mgr.removeProposal found proposal false) proposal :=
        removeProposal_ended found hlive.distinct (Or.inr hlive.denied) mgr
      refine (hended.allSeated hseated hmem).cleared fun other hother hhas => ?_
      rw [hended.erased] at hother
      obtain ⟨hold, hne⟩ := Table.mem_erase.mp hother
      exact hne ((hnamed other hold hhas).trans hid.symm)
  next hstate => exact hseated.cleared (hseated.not_has_of_state hstate)

include hseated in
theorem AllSeated.finishBattle (guid : Nat) :
    (mgr.finishBattle found guid).AllSeated petLevelDiff := by
  unfold LFBMgr.finishBattle
  split
  · exact hseated
  next hcombat =>
  rw [ne_eq, not_not] at hcombat
  have hout : ∀ proposal ∈ mgr.proposal, ¬proposal.Has guid :=
    hseated.not_has_of_state (hcombat ▸ by decide)
  have hfinished : (mgr.setState guid .finished).AllSeated petLevelDiff :=
    hseated.outside hout rfl rfl fun _ hne => ⟨Function.update_of_ne hne _ _, rfl⟩
  exact hfinished.leave guid

include hseated in
/-- A battle begins or not, but only for the two players. -/
theorem AllSeated.teleported {proposal : LFBProposal} (hmem : proposal ∈ mgr.proposal)
    {answer : LfbAnswer} :
    AllSeated petLevelDiff
      { mgr.teleportPlayers found (proposal.answer guid answer) with
        proposal := (mgr.teleportPlayers found (proposal.answer guid answer)).proposal.erase
          proposal.id } := by
  by_cases hfound : ∀ other, (proposal.answer guid answer).Has other → found other = true
  · exact (teleportPlayers_ended hfound mgr).of_answer.allSeated hseated hmem
  · push Not at hfound
    obtain ⟨other, hhas, hlost⟩ := hfound
    rw [teleportPlayers_lost hhas (Bool.eq_false_iff.mpr hlost)]
    exact hseated.erased hmem rfl rfl fun _ _ => ⟨rfl, rfl⟩

include hseated in
theorem AllSeated.updateProposal (guid : Nat) (agree : Bool) :
    (mgr.updateProposal found guid agree).AllSeated petLevelDiff := by
  unfold LFBMgr.updateProposal
  split
  · exact hseated
  split
  · exact hseated
  next proposal hget =>
  obtain ⟨hmem, -⟩ := Table.get?_eq_some_iff.mp hget
  have hlive := hseated proposal hmem
  extract_lets answered
  split
  next hdeclined =>
    simp only [Bool.and_eq_true, Bool.not_eq_true', List.any_eq_true, decide_eq_true_eq]
      at hdeclined
    obtain ⟨rfl, item, hitem, hplayer⟩ := hdeclined
    have hhas : proposal.Has guid :=
      (answer_has proposal guid _ guid).mp (has_iff.mpr ⟨item, hitem, hplayer⟩)
    obtain ⟨denied, hdenied, -, hdeny⟩ := denied_answer hhas
    have hplayers := answer_players proposal guid .deny
    have hended : Ended found mgr (mgr.removeProposal found (proposal.answer guid .deny) false)
        proposal := (removeProposal_ended found (hplayers.1 ▸ hplayers.2 ▸ hlive.distinct)
          (Or.inr ⟨denied, hdenied, hdeny⟩) mgr).of_answer
    exact hended.allSeated hseated hmem
  split
  next hkept hundecided =>
    cases agree with
    | true => exact hseated.noted hmem guid hundecided
    | false =>
      have hnot : ¬proposal.Has guid := by
        intro hhas
        obtain ⟨denied, hdenied, hplayer, -⟩ := denied_answer hhas
        refine hkept (Bool.and_eq_true_iff.mpr ⟨rfl, List.any_eq_true.mpr ⟨denied, hdenied, ?_⟩⟩)
        simpa using hplayer
      have hsame : answered = proposal.answer guid .agree :=
        (answer_of_not_has hnot _).trans (answer_of_not_has hnot _).symm
      rw [hsame] at hundecided ⊢
      exact hseated.noted hmem guid hundecided
  · exact hseated.teleported hmem

theorem AllSeated.expired (hpending : mgr.Pending rows) (hseated : mgr.AllSeated petLevelDiff) :
    (rows.foldl (expire found now) mgr).AllSeated petLevelDiff :=
  hpending.keep (AllSeated petLevelDiff)
    (fun _ _ hmem _ hended hseated => hended.allSeated hseated hmem) hseated

include hseated in
theorem AllSeated.refresh (now guid : Nat) :
    (refresh found now mgr guid).AllSeated petLevelDiff := by
  obtain ⟨timed, hseat, hstate, hproposal, hcount, hafter⟩ := refresh_cases mgr found now guid
  have htimed : timed.AllSeated petLevelDiff :=
    hseated.frame (fun _ hmem => hproposal ▸ hmem) hcount.ge fun _ _ other _ => hseat other
  rcases hafter with hafter | ⟨hqueued, hafter⟩
  · rw [hafter]
    exact htimed
  · rw [hafter]
    refine htimed.cleared (htimed.not_has_of_state ?_)
    rw [hstate, hqueued]
    decide

include hseated in
theorem AllSeated.update (diff now : Nat) :
    (mgr.update found petLevelDiff diff now).AllSeated petLevelDiff := by
  refine update_keep (AllSeated petLevelDiff) diff now ?_
    (fun _ _ _ hbefore hnew => hnew.allSeated hbefore)
    (fun _ guid hbefore => hbefore.refresh now guid) fun _ _ hbefore => ?_
  · exact hseated.swept.expired hseated.swept.pending
  · exact hbefore.frame (fun _ hmem => hmem) (Nat.le_refl _) fun _ _ _ _ => rfl

include hseated in
theorem AllSeated.step (call : Call) : (mgr.step petLevelDiff call).AllSeated petLevelDiff := by
  cases call with
  | join player now => exact hseated.join player now
  | leave guid found => exact hseated.leave guid
  | updateProposal guid agree found => exact hseated.updateProposal guid agree
  | finishBattle guid found => exact hseated.finishBattle guid
  | update diff now found => exact hseated.update diff now

/-! ## Who is out -/

theorem Seated.entry {proposal : LFBProposal} (hseated : mgr.Seated petLevelDiff proposal)
    {item : LFBProposalItem} (hitem : item ∈ proposal.players) :
    ∃ info, mgr.queue.get? item.player = some info ∧ info.isDeleted = false := by
  obtain ⟨-, info, hinfo, hdeleted, -⟩ := hseated.member (has_iff.mpr ⟨item, hitem, rfl⟩)
  exact ⟨info, hinfo, hdeleted⟩

theorem Seated.answer_eq {proposal : LFBProposal} (hseated : mgr.Seated petLevelDiff proposal)
    {item : LFBProposalItem} (hitem : item ∈ proposal.players) :
    decide (item.answer = .deny) = false ↔ item.answer = .agree := by
  have hanswered := hseated.answered item hitem
  cases hanswer : item.answer with
  | pending => exact absurd hanswer hanswered
  | deny => decide
  | agree => decide

/-- The others wait again exactly if those of them who are found have agreed. -/
theorem requeued_iff_foundAgreed {proposal : LFBProposal}
    (hseated : mgr.Seated petLevelDiff proposal)
    (hreleased : ∀ item ∈ proposal.players, item.player ≠ guid →
      Released (found item.player) (item.answer = .deny) mgr after item.player) :
    (∀ item ∈ proposal.players, item.player ≠ guid → found item.player = true →
      Requeued mgr after item.player) ↔ FoundAgreed found proposal guid := by
  refine forall₄_congr fun item hitem hother hfound => ?_
  obtain ⟨info, hinfo, hdeleted⟩ := hseated.entry hitem
  have hitemReleased := hreleased item hitem hother
  rw [hfound] at hitemReleased
  exact (hitemReleased.requeued_iff hinfo hdeleted).trans (hseated.answer_eq hitem)

variable (hseated : mgr.AllSeated petLevelDiff)

include hseated in
theorem removesOnly_leave_iff (guid : Nat) :
    RemovesOnly found mgr (mgr.leave found guid) guid ↔
      ∀ proposal ∈ mgr.proposal, proposal.Has guid → FoundAgreed found proposal guid := by
  refine forall₃_congr fun proposal hmem hhas => ?_
  have hlive := hseated proposal hmem
  have hplayer : ∀ item ∈ proposal.players,
      Released (found item.player) (item.answer = .deny) mgr
        (mgr.removeProposal found proposal false) item.player := fun item hitem =>
    removeProposal_released found hlive.distinct false (Or.inr hlive.denied) mgr hitem
  rw [leave_of_has found hseated hmem hhas]
  have hmarked : (((mgr.removeProposal found proposal false).clearState guid).markForDelete
      guid).marked guid = true := by
    obtain ⟨item, hitem, rfl⟩ := has_iff.mp hhas
    obtain ⟨info, hinfo, -⟩ := hlive.entry hitem
    unfold marked markForDelete clearState setState
    rw [Table.get?_modify, if_pos rfl, (hplayer item hitem).entry, hinfo]
    split <;> rfl
  rw [and_iff_right hmarked]
  refine requeued_iff_foundAgreed hlive fun item hitem hother => ?_
  exact (hplayer item hitem).congr ⟨rfl, rfl⟩
    ⟨Function.update_of_ne hother _ _, markForDelete_get? _ _ _ hother⟩

include hseated in
theorem removesOnly_updateProposal_iff (guid : Nat) :
    RemovesOnly found mgr (mgr.updateProposal found guid false) guid ↔
      ∀ proposal ∈ mgr.proposal, proposal.Has guid →
        found guid = true ∧ FoundAgreed found proposal guid := by
  refine forall₃_congr fun proposal hmem hhas => ?_
  have hlive := hseated proposal hmem
  have hplayers := answer_players proposal guid .deny
  obtain ⟨denied, hdenied, hguid, hdeny⟩ := denied_answer hhas
  have hplayer : ∀ item ∈ (proposal.answer guid .deny).players,
      Released (found item.player) (item.answer = .deny) mgr
        (mgr.removeProposal found (proposal.answer guid .deny) false) item.player :=
    fun item hitem => removeProposal_released found (hplayers.1 ▸ hplayers.2 ▸ hlive.distinct)
      false (Or.inr ⟨denied, hdenied, hdeny⟩) mgr hitem
  rw [updateProposal_of_has found hseated hmem hhas]
  refine and_congr ?_ (requeued_iff_foundAgreed hlive fun item hitem hother => ?_)
  · obtain ⟨item, hitem, rfl⟩ := has_iff.mp hhas
    obtain ⟨info, hinfo, hdeleted⟩ := hlive.entry hitem
    have hself := hplayer denied hdenied
    rw [hguid] at hself
    rw [hself.marked_eq hinfo hdeleted, decide_eq_true hdeny, Bool.and_true]
  · refine hplayer item ?_
    unfold LFBProposal.answer LFBProposal.players
    simp only [LFBProposal.players, List.mem_cons, List.not_mem_nil, or_false] at hitem ⊢
    rcases hitem with rfl | rfl
    · rw [if_neg hother]
      exact Or.inl rfl
    · rw [if_neg hother]
      exact Or.inr rfl

/-! ## The timeout -/

variable {out : Bool}

/-- A player whose proposal is over, and who does not wait. -/
structure Settled (out : Bool) (guid : Nat) (mgr : LFBMgr) : Prop where
  marked : mgr.marked guid = out
  state : mgr.state guid ≠ .queued
  outside : ∀ proposal ∈ mgr.proposal, ¬proposal.Has guid

theorem Settled.frame (hsettled : Settled out guid mgr)
    (hsame : after.state guid = mgr.state guid ∧ after.queue.get? guid = mgr.queue.get? guid)
    (hproposal : ∀ proposal ∈ after.proposal, proposal.Has guid → proposal ∈ mgr.proposal) :
    Settled out guid after where
  marked := by
    rw [← hsettled.marked]
    unfold LFBMgr.marked
    rw [hsame.2]
  state := hsame.1 ▸ hsettled.state
  outside proposal hmem hhas := hsettled.outside proposal (hproposal proposal hmem hhas) hhas

theorem Settled.expired (hsettled : Settled out guid mgr) (hpending : mgr.Pending rows) :
    Settled out guid (rows.foldl (expire found now) mgr) := by
  refine hpending.keep (Settled out guid) (fun proposal _ hmem _ hended hsettled => ?_) hsettled
  refine hsettled.frame (hended.others guid (hsettled.outside proposal hmem))
    fun other hother _ => ?_
  rw [hended.erased] at hother
  exact (Table.mem_erase.mp hother).1

/-- Who was in a proposal that is late is out of it afterwards, and does not wait. -/
theorem settled_of_expired (hpending : mgr.Pending rows) (hseated : mgr.AllSeated petLevelDiff)
    {proposal : LFBProposal} (hmem : proposal ∈ rows) (hlate : proposal.cancelTime < now)
    {item : LFBProposalItem} (hitem : item ∈ proposal.players) :
    Settled (found item.player) item.player (rows.foldl (expire found now) mgr) := by
  induction rows generalizing mgr with
  | nil => cases hmem
  | cons first rest ih =>
    have hfirst := hpending.mem first List.mem_cons_self
    have hdistinct := hpending.distinct first List.mem_cons_self
    have hended := removeProposal_ended found hdistinct (Or.inl rfl) mgr
    rcases List.mem_cons.mp hmem with rfl | hrest
    · change Settled _ _ (rest.foldl (expire found now) (expire found now mgr proposal))
      refine Settled.expired ?_ hpending.expire
      have hhas : proposal.Has item.player := has_iff.mpr ⟨item, hitem, rfl⟩
      have hlive := hseated proposal hfirst
      obtain ⟨info, hinfo, hdeleted⟩ := hlive.entry hitem
      have hreleased : Released (found item.player) true mgr
          (mgr.removeProposal found proposal true) item.player :=
        removeProposal_released found hdistinct true (Or.inl rfl) mgr hitem
      unfold expire
      rw [if_pos hlate]
      refine ⟨?_, ?_, fun other hother hin => ?_⟩
      · rw [hreleased.marked_eq hinfo hdeleted, Bool.and_true]
      · rw [hreleased.state, (hlive.member hhas).1]
        cases found item.player <;> decide
      · rw [hended.erased] at hother
        obtain ⟨hold, hne⟩ := Table.mem_erase.mp hother
        exact hne (congrArg LFBProposal.id (hseated.unique hold hfirst hin hhas))
    · refine ih hpending.expire ?_ hrest
      unfold expire
      split
      · exact hended.allSeated hseated hfirst
      · exact hseated

theorem Settled.matched {proposal : LFBProposal} (hsettled : Settled out guid mgr)
    (hmatched : Matched petLevelDiff mgr after proposal) : Settled out guid after := by
  have hnot : ¬proposal.Has guid := fun hin => hsettled.state (hmatched.queued guid hin)
  refine hsettled.frame (hmatched.others guid hnot) fun other hother hhas => ?_
  rcases (hmatched.rows other).mp hother with rfl | ⟨hold, -⟩
  · exact absurd hhas hnot
  · exact hold

theorem marked_eq_seat (mgr : LFBMgr) (guid : Nat) :
    mgr.marked guid = (mgr.seat guid).any Seat.isDeleted := by
  unfold marked seat
  cases mgr.queue.get? guid <;> rfl

theorem Settled.refresh (hsettled : Settled out guid mgr) (now other : Nat) :
    Settled out guid (refresh found now mgr other) := by
  obtain ⟨timed, hseat, hstate, hproposal, -, hafter⟩ := refresh_cases mgr found now other
  have htimed : Settled out guid timed :=
    { marked := by
        rw [marked_eq_seat, hseat, ← marked_eq_seat]
        exact hsettled.marked
      state := hstate ▸ hsettled.state
      outside := hproposal ▸ hsettled.outside }
  rcases hafter with hafter | ⟨hqueued, hafter⟩
  · rw [hafter]
    exact htimed
  · rw [hafter]
    have hne : guid ≠ other := fun heq => hsettled.state (heq ▸ hqueued)
    exact htimed.frame ⟨Function.update_of_ne hne _ _, markForDelete_get? _ _ _ hne⟩
      fun _ hmem _ => hmem

include hseated in
theorem marked_update (diff : Nat) {proposal : LFBProposal} (hmem : proposal ∈ mgr.proposal)
    (hlate : proposal.cancelTime < now) {item : LFBProposalItem} (hitem : item ∈ proposal.players) :
    (mgr.update found petLevelDiff diff now).marked item.player = found item.player := by
  have hsettled : Settled (found item.player) item.player
      (mgr.update found petLevelDiff diff now) :=
    update_keep (Settled (found item.player) item.player) diff now
      (settled_of_expired hseated.swept.pending hseated.swept hmem hlate hitem)
      (fun _ _ _ hbefore hnew => hbefore.matched hnew)
      (fun _ other hbefore => hbefore.refresh now other)
      fun _ _ hbefore => hbefore.frame ⟨rfl, rfl⟩ fun _ hold _ => hold
  exact hsettled.marked

/-! ## Runs -/

include hseated in
/-- For one call, the condition is exact. -/
theorem declines_iff_agreed_step (call : Call) :
    Declines petLevelDiff mgr call ↔ mgr.Agreed call := by
  cases call with
  | join player now => exact Iff.rfl
  | finishBattle guid found => exact Iff.rfl
  | leave guid found => exact removesOnly_leave_iff hseated guid
  | updateProposal guid agree found =>
    cases agree with
    | true => exact Iff.rfl
    | false => exact removesOnly_updateProposal_iff hseated guid
  | update diff now found =>
    refine forall₃_congr fun proposal hmem hlate => ?_
    refine forall₂_congr fun item hitem => ?_
    have hmarked : (mgr.update found petLevelDiff diff now).marked item.player =
        found item.player := marked_update hseated diff hmem hlate hitem
    rw [← hmarked]
    exact Iff.rfl

/-- Only the decliner is out, and at the timeout only who has not agreed, exactly in the runs in
which the other one has agreed before, and in which only those are found that have not. -/
theorem declines_iff_agreed (petLevelDiff : Int) (calls : List Call) :
    Along (step petLevelDiff) (Declines petLevelDiff) empty calls ↔
      Along (step petLevelDiff) Agreed empty calls :=
  along_iff_of_invariant (step petLevelDiff) (AllSeated petLevelDiff)
    (fun _ call hseated _ => hseated.step call)
    (fun _ call hseated => declines_iff_agreed_step hseated call) empty calls empty_sound.seated

/-- Whoever is lost and whenever, no player is in two proposals, and the players of a proposal are a
match and wait in it. -/
theorem allSeated_foldl (petLevelDiff : Int) (calls : List Call) :
    let reached := calls.foldl (step petLevelDiff) empty
    reached.AllSeated petLevelDiff ∧ ∀ first ∈ reached.proposal, ∀ second ∈ reached.proposal,
      ∀ guid, first.Has guid → second.Has guid → first = second := by
  have hseated := invariant_of_along (step petLevelDiff) (AllSeated petLevelDiff) (fun _ _ => True)
    (fun _ call hbefore _ => hbefore.step call) empty calls empty_sound.seated
    (along_of_forall _ (fun _ _ => trivial) _ calls) _ (foldl_mem_visited _ _ calls)
  exact ⟨hseated, fun _ hfirst _ hsecond _ => hseated.unique hfirst hsecond⟩

/-- One of two matched players declines before the other one has answered. -/
def earlyDecline : List Call :=
  [.join (petOwner 1) 0, .join (petOwner 2) 0, .update 0 0 fun _ => true,
    .updateProposal 1 false fun _ => true]

theorem not_always_declines :
    ¬∀ petLevelDiff calls, Along (step petLevelDiff) (Declines petLevelDiff) empty calls := by
  intro hall
  obtain ⟨-, -, -, hdeclines, -⟩ := hall 6 earlyDecline
  have hmem : (⟨0, ⟨1, .deny⟩, ⟨2, .deny⟩, 120000⟩ : LFBProposal) ∈
      ((earlyDecline.take 3).foldl (step 6) empty).proposal.rows := by decide +kernel
  obtain ⟨-, hother⟩ := hdeclines _ hmem (Or.inl rfl)
  obtain ⟨hqueued, -⟩ := hother ⟨2, .deny⟩ (by decide) (by decide) rfl
  have hnone : (earlyDecline.foldl (step 6) empty).state 2 = .none := by decide +kernel
  have hboth : LFBState.none = .queued := hnone.symm.trans hqueued
  cases hboth

end LFBMgr

end MopServer.BattlePets
