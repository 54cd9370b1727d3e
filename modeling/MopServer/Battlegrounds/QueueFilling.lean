import MopServer.Battlegrounds.QueueBalance
import MopServer.Battlegrounds.QueueStructure

/-! # What a running battleground is filled with

The groups of a pool are taken from the front of a list, and those that are left are never offered
twice.  While groups are kicked out and others taken in, a pool is never larger than the number of
free places.
-/

namespace MopServer.Battlegrounds

open Foundation

namespace SelectionPool

/-- The pool has been drawn from the waiting groups, before those that are left. -/
structure Draws (waiting rest : List QueuedGroup) (free : Nat) (pool : SelectionPool) : Prop where
  sublist : (pool.selectedGroups ++ rest).Sublist waiting
  notInvited : ∀ ginfo ∈ pool.selectedGroups, ginfo.info.invited = false
  counted : pool.Counted
  fits : pool.playerCount ≤ free

variable {waiting rest : List QueuedGroup} {free desiredCount : Nat} {pool : SelectionPool}

theorem draws_init (waiting : List QueuedGroup) (free : Nat) : init.Draws waiting waiting free where
  sublist := List.Sublist.refl _
  notInvited := nofun
  counted := counted_init
  fits := Nat.zero_le free

variable (hdraws : pool.Draws waiting rest free)

include hdraws in
/-- Groups that are left need not be offered. -/
theorem Draws.leave {fewer : List QueuedGroup} (hfewer : fewer.Sublist rest) :
    pool.Draws waiting fewer free :=
  { hdraws with sublist := (hfewer.append_left pool.selectedGroups).trans hdraws.sublist }

include hdraws in
theorem Draws.selected_sublist : pool.selectedGroups.Sublist waiting :=
  (List.sublist_append_left _ _).trans hdraws.sublist

theorem addGroup_cases (pool : SelectionPool) (ginfo : QueuedGroup) (desiredCount : Nat)
    (mapId : UInt32) :
    ((pool.addGroup ginfo desiredCount mapId).1.selectedGroups = pool.selectedGroups ++ [ginfo] ∧
      (pool.addGroup ginfo desiredCount mapId).1.playerCount ≤ desiredCount ∧
      ginfo.info.invited = false ∧ (pool.addGroup ginfo desiredCount mapId).2 = true) ∨
    (pool.addGroup ginfo desiredCount mapId).1 = pool := by
  unfold addGroup
  split
  next hadd =>
    simp only [Bool.and_eq_true, Bool.not_eq_true', decide_eq_true_eq] at hadd
    exact Or.inl ⟨rfl, hadd.2, hadd.1.2, rfl⟩
  · exact Or.inr rfl

theorem Draws.addGroup {ginfo : QueuedGroup} (hdraws : pool.Draws waiting (ginfo :: rest) free)
    (hdesired : desiredCount ≤ free) (mapId : UInt32) :
    (pool.addGroup ginfo desiredCount mapId).1.Draws waiting rest free := by
  have hcounted := counted_addGroup hdraws.counted ginfo desiredCount mapId
  rcases addGroup_cases pool ginfo desiredCount mapId with ⟨hselected, hcount, hfree, -⟩ | hsame
  · refine ⟨?_, ?_, hcounted, hcount.trans hdesired⟩
    · rw [hselected, List.append_assoc]
      exact hdraws.sublist
    · intro other hother
      rw [hselected, List.mem_append, List.mem_singleton] at hother
      rcases hother with hother | rfl
      · exact hdraws.notInvited other hother
      · exact hfree
  · rw [hsame]
    exact hdraws.leave (List.sublist_cons_self ginfo rest)

include hdraws in
theorem Draws.fill (hdesired : desiredCount ≤ free) (mapId : UInt32) :
    (pool.fill desiredCount mapId rest).1.Draws waiting (pool.fill desiredCount mapId rest).2
      free := by
  induction rest generalizing pool with
  | nil => exact hdraws
  | cons ginfo rest ih =>
    have hadd := hdraws.addGroup hdesired mapId
    have hcases := addGroup_cases pool ginfo desiredCount mapId
    unfold SelectionPool.fill
    split
    next pool' heq =>
      rw [heq] at hadd
      exact ih hadd
    next pool' heq =>
      rw [heq] at hcases
      rcases hcases with ⟨-, -, -, hmore⟩ | rfl
      · cases hmore
      · exact hdraws

theorem kickGroup_sublist (pool : SelectionPool) (size : Nat) :
    (pool.kickGroup size).1.selectedGroups.Sublist pool.selectedGroups ∧
      (pool.kickGroup size).1.playerCount ≤ pool.playerCount := by
  unfold kickGroup
  dsimp only
  split
  · exact ⟨List.Sublist.refl _, le_rfl⟩
  · split
    · exact ⟨List.Sublist.refl _, le_rfl⟩
    · exact ⟨List.eraseIdx_sublist _ _, Nat.sub_le _ _⟩

include hdraws in
theorem Draws.kickGroup (size : Nat) : (pool.kickGroup size).1.Draws waiting rest free := by
  obtain ⟨hsublist, hcount⟩ := kickGroup_sublist pool size
  refine ⟨(hsublist.append_right rest).trans hdraws.sublist, ?_,
    (kickGroup_spec hdraws.counted size).1, hcount.trans hdraws.fits⟩
  intro ginfo hginfo
  exact hdraws.notInvited ginfo (hsublist.mem hginfo)

include hdraws in
theorem Draws.kickAndFill (hdesired : desiredCount ≤ free) (size : Nat) (mapId : UInt32) :
    (kickAndFill size desiredCount mapId pool rest).1.Draws waiting
      (kickAndFill size desiredCount mapId pool rest).2 free := by
  have hkicked := hdraws.kickGroup size
  unfold Battlegrounds.kickAndFill
  split
  next kicked heq =>
    rw [heq] at hkicked
    exact hkicked.fill hdesired mapId
  next kicked heq =>
    rw [heq] at hkicked
    exact hkicked

end SelectionPool

open SelectionPool

theorem kickLarger_draws {free freeOther : Nat} (diff : Int) {diffOther : Int} (mapId : UInt32)
    {pool other : SelectionPool} {waiting rest waitingOther restOther : List QueuedGroup}
    (hpool : pool.Draws waiting rest free)
    (hother : other.Draws waitingOther restOther freeOther)
    (hdiff : diffOther = freeOther - other.playerCount) :
    let after := kickLarger free diff diffOther mapId pool other rest
    after.1.Draws waiting after.2.2.1 free ∧ after.2.1.Draws waitingOther restOther freeOther := by
  have hfits := hother.fits
  have hdesired : (if diffOther ≤ free then (free - diffOther).toNat else 0) ≤ free := by
    split <;> omega
  unfold kickLarger
  dsimp only
  generalize (if diffOther ≤ free then (free - diffOther).toNat else 0) = desired at hdesired ⊢
  have hafter := hpool.kickAndFill hdesired (diffOther - diff).toNat mapId
  split
  · split
    · exact ⟨hafter, hother⟩
    · exact ⟨hafter, hother.kickGroup _⟩
  · exact ⟨hafter, hother⟩

/-! ## The loop -/

/-- How a round of the loop of `FillPlayersToBG` ends. -/
inductive Round
  | done (pools : SelectionPools)
  | again (pools : SelectionPools) (restAlliance restHorde : List QueuedGroup)

/-- The body of the loop with its condition. -/
def balanceRound (allianceFree hordeFree : Nat) (mapId : UInt32) (pools : SelectionPools)
    (restAlliance restHorde : List QueuedGroup) : Round :=
  let diffAli : Int := allianceFree - pools.alliance.playerCount
  let diffHorde : Int := hordeFree - pools.horde.playerCount
  if 1 < (diffAli - diffHorde).natAbs ∧
      (0 < pools.horde.playerCount ∨ 0 < pools.alliance.playerCount) then
    if diffAli < diffHorde then
      match kickLarger allianceFree diffAli diffHorde mapId pools.alliance pools.horde
          restAlliance with
      | (alliance, horde, _, true) => .done ⟨alliance, horde⟩
      | (alliance, horde, rest, false) => .again ⟨alliance, horde⟩ rest restHorde
    else
      match kickLarger hordeFree diffHorde diffAli mapId pools.horde pools.alliance restHorde with
      | (horde, alliance, _, true) => .done ⟨alliance, horde⟩
      | (horde, alliance, rest, false) => .again ⟨alliance, horde⟩ restAlliance rest
  else .done pools

variable {allianceFree hordeFree : Nat} {mapId : UInt32}

/-- The loop ends, with these pools. -/
inductive Ends (allianceFree hordeFree : Nat) (mapId : UInt32) (result : SelectionPools) :
    SelectionPools → List QueuedGroup → List QueuedGroup → Prop
  | done {pools : SelectionPools} {restAlliance restHorde : List QueuedGroup}
      (hround : balanceRound allianceFree hordeFree mapId pools restAlliance restHorde =
        .done result) :
      Ends allianceFree hordeFree mapId result pools restAlliance restHorde
  | again {pools next : SelectionPools}
      {restAlliance restHorde nextAlliance nextHorde : List QueuedGroup}
      (hround : balanceRound allianceFree hordeFree mapId pools restAlliance restHorde =
        .again next nextAlliance nextHorde)
      (hends : Ends allianceFree hordeFree mapId result next nextAlliance nextHorde) :
      Ends allianceFree hordeFree mapId result pools restAlliance restHorde

theorem balance_round (rounds : Nat) (pools : SelectionPools)
    (restAlliance restHorde : List QueuedGroup) :
    balance allianceFree hordeFree mapId (rounds + 1) pools restAlliance restHorde =
      match balanceRound allianceFree hordeFree mapId pools restAlliance restHorde with
      | .done result => result
      | .again next nextAlliance nextHorde =>
        balance allianceFree hordeFree mapId rounds next nextAlliance nextHorde := by
  rw [balance, balanceRound]
  split
  · split
    · generalize kickLarger _ _ _ _ _ _ _ = after
      obtain ⟨alliance, horde, rest, stops⟩ := after
      cases stops <;> rfl
    · generalize kickLarger _ _ _ _ _ _ _ = after
      obtain ⟨horde, alliance, rest, stops⟩ := after
      cases stops <;> rfl
  · rfl

/-- Both pools have been drawn from their lists. -/
def Drawn (waiting : TeamIndex → List QueuedGroup) (allianceFree hordeFree : Nat)
    (pools : SelectionPools) (restAlliance restHorde : List QueuedGroup) : Prop :=
  pools.alliance.Draws (waiting .alliance) restAlliance allianceFree ∧
    pools.horde.Draws (waiting .horde) restHorde hordeFree

variable {waiting : TeamIndex → List QueuedGroup} {pools : SelectionPools}
  {restAlliance restHorde : List QueuedGroup}

/-- A round that has drawn both pools again.  If another one follows, fewer than so many are left.
-/
def Round.Draws (waiting : TeamIndex → List QueuedGroup) (allianceFree hordeFree left : Nat) :
    Round → Prop
  | .done result =>
    ∃ lastAlliance lastHorde, Drawn waiting allianceFree hordeFree result lastAlliance lastHorde
  | .again next nextAlliance nextHorde =>
    Drawn waiting allianceFree hordeFree next nextAlliance nextHorde ∧
      roundsLeft next.alliance nextAlliance + roundsLeft next.horde nextHorde < left

theorem balanceRound_draws (mapId : UInt32)
    (hdrawn : Drawn waiting allianceFree hordeFree pools restAlliance restHorde) :
    (balanceRound allianceFree hordeFree mapId pools restAlliance restHorde).Draws waiting
      allianceFree hordeFree
      (roundsLeft pools.alliance restAlliance + roundsLeft pools.horde restHorde) := by
  obtain ⟨halliance, hhorde⟩ := hdrawn
  unfold balanceRound
  dsimp only
  split
  next hloop =>
    split
    · have hdraws := kickLarger_draws (allianceFree - pools.alliance.playerCount) mapId halliance
        hhorde rfl
      split
      next alliance horde rest heq =>
        rw [heq] at hdraws
        exact ⟨rest, restHorde, hdraws⟩
      next alliance horde rest heq =>
        have hless := (kickLarger_spec halliance.counted hhorde.counted hloop.2 heq).2.2
        rw [heq] at hdraws
        refine ⟨hdraws, ?_⟩
        unfold roundsLeft at hless ⊢
        dsimp only
        omega
    · have hdraws := kickLarger_draws (hordeFree - pools.horde.playerCount) mapId hhorde halliance
        rfl
      split
      next horde alliance rest heq =>
        rw [heq] at hdraws
        exact ⟨restAlliance, rest, hdraws.symm⟩
      next horde alliance rest heq =>
        have hless := (kickLarger_spec hhorde.counted halliance.counted hloop.2.symm heq).2.2
        rw [heq] at hdraws
        refine ⟨hdraws.symm, ?_⟩
        unfold roundsLeft at hless ⊢
        dsimp only
        omega
  · exact ⟨restAlliance, restHorde, halliance, hhorde⟩

theorem ends_balance {rounds : Nat}
    (hdrawn : Drawn waiting allianceFree hordeFree pools restAlliance restHorde)
    (hrounds : roundsLeft pools.alliance restAlliance + roundsLeft pools.horde restHorde ≤ rounds) :
    Ends allianceFree hordeFree mapId
      (balance allianceFree hordeFree mapId rounds pools restAlliance restHorde) pools restAlliance
      restHorde := by
  rw [← balance_succ _ _ _ _ hdrawn.1.counted hdrawn.2.counted hrounds]
  induction rounds generalizing pools restAlliance restHorde with
  | zero =>
    have hround := balanceRound_draws mapId hdrawn
    rw [balance_round]
    cases heq : balanceRound allianceFree hordeFree mapId pools restAlliance restHorde with
    | done result => exact .done heq
    | again next nextAlliance nextHorde =>
      rw [heq] at hround
      have hless := hround.2
      omega
  | succ rounds ih =>
    have hround := balanceRound_draws mapId hdrawn
    rw [balance_round]
    cases heq : balanceRound allianceFree hordeFree mapId pools restAlliance restHorde with
    | done result => exact .done heq
    | again next nextAlliance nextHorde =>
      rw [heq] at hround
      refine .again heq (ih hround.1 ?_)
      have hless := hround.2
      omega

theorem Ends.drawn {result : SelectionPools}
    (hends : Ends allianceFree hordeFree mapId result pools restAlliance restHorde)
    (hdrawn : Drawn waiting allianceFree hordeFree pools restAlliance restHorde) :
    ∃ lastAlliance lastHorde,
      Drawn waiting allianceFree hordeFree result lastAlliance lastHorde := by
  induction hends with
  | done hround =>
    have hspec := balanceRound_draws mapId hdrawn
    rw [hround] at hspec
    exact hspec
  | again hround _ ih =>
    have hspec := balanceRound_draws mapId hdrawn
    rw [hround] at hspec
    exact ih hspec.1

namespace BattlegroundQueue

variable {queue : BattlegroundQueue}

def normal (queue : BattlegroundQueue) (bracket : Bracket) (index : TeamIndex) :
    List QueuedGroup :=
  queue.listed ⟨bracket, .normal index⟩

/-- The records of distinct groups are distinct. -/
theorem nodup_rows {ids : List Nat} (hnodup : ids.Nodup) :
    ((ids.filterMap queue.groups.get?).map QueuedGroup.id).Nodup := by
  induction ids with
  | nil => exact List.nodup_nil
  | cons id rest ih =>
    obtain ⟨hid, hrest⟩ := List.nodup_cons.mp hnodup
    cases hrow : queue.groups.get? id with
    | none =>
      rw [List.filterMap_cons_none hrow]
      exact ih hrest
    | some row =>
      have hkey : row.id = id := (Table.get?_eq_some_iff.mp hrow).2
      rw [List.filterMap_cons_some hrow, List.map_cons, List.nodup_cons]
      refine ⟨?_, ih hrest⟩
      intro hmem
      obtain ⟨other, hother, heq⟩ := List.mem_map.mp hmem
      obtain ⟨position, hposition, hget⟩ := List.mem_filterMap.mp hother
      have hsame : other.id = position := (Table.get?_eq_some_iff.mp hget).2
      apply hid
      rw [← hkey, ← heq, hsame]
      exact hposition

/-- What `FillPlayersToBG` returns: the pools as they are filled first, or those its loop ends with.
-/
def FillsPlayersToBG (queue : BattlegroundQueue) (world : World) (bg : RunningBattleground)
    (bracket : Bracket) (pools : SelectionPools) : Prop :=
  let mapId := if bg.isRandom then bg.mapId else 0
  let alliance := SelectionPool.init.fill bg.allianceFree mapId (queue.normal bracket .alliance)
  let horde := SelectionPool.init.fill bg.hordeFree mapId (queue.normal bracket .horde)
  if world.invitationType = 0 then pools = ⟨alliance.1, horde.1⟩
  else Ends bg.allianceFree bg.hordeFree mapId pools ⟨alliance.1, horde.1⟩ alliance.2 horde.2

theorem drawn_fill (waiting : TeamIndex → List QueuedGroup) (allianceFree hordeFree : Nat)
    (mapId : UInt32) :
    Drawn waiting allianceFree hordeFree
      ⟨(SelectionPool.init.fill allianceFree mapId (waiting .alliance)).1,
        (SelectionPool.init.fill hordeFree mapId (waiting .horde)).1⟩
      (SelectionPool.init.fill allianceFree mapId (waiting .alliance)).2
      (SelectionPool.init.fill hordeFree mapId (waiting .horde)).2 :=
  ⟨(draws_init _ _).fill le_rfl mapId, (draws_init _ _).fill le_rfl mapId⟩

theorem fillPlayersToBG_fills (queue : BattlegroundQueue) (world : World)
    (bg : RunningBattleground) (bracket : Bracket) :
    queue.FillsPlayersToBG world bg bracket (queue.fillPlayersToBG world bg bracket) := by
  unfold FillsPlayersToBG fillPlayersToBG
  dsimp only
  generalize (if bg.isRandom = true then bg.mapId else 0) = mapId
  by_cases hinvite : world.invitationType = 0
  · rw [if_pos hinvite, if_pos hinvite]
    rfl
  · rw [if_neg hinvite, if_neg hinvite]
    refine ends_balance (drawn_fill (queue.normal bracket) bg.allianceFree bg.hordeFree mapId) ?_
    have halliance := (fill_spec bg.allianceFree mapId counted_init
      (queue.normal bracket .alliance)).2.2
    have hhorde := (fill_spec bg.hordeFree mapId counted_init (queue.normal bracket .horde)).2.2
    have hinit : SelectionPool.init.selectedGroups.length = 0 := rfl
    rw [hinit, Nat.zero_add] at halliance hhorde
    unfold roundsLeft
    unfold normal QueueGroupType.normal at halliance hhorde
    dsimp only at halliance hhorde ⊢
    omega

theorem FillsPlayersToBG.drawn {world : World} {bg : RunningBattleground} {bracket : Bracket}
    {pools : SelectionPools} (hfills : queue.FillsPlayersToBG world bg bracket pools) :
    ∃ restAlliance restHorde, Drawn (queue.normal bracket) bg.allianceFree bg.hordeFree pools
      restAlliance restHorde := by
  have hdrawn := drawn_fill (queue.normal bracket) bg.allianceFree bg.hordeFree
    (if bg.isRandom then bg.mapId else 0)
  unfold FillsPlayersToBG at hfills
  dsimp only at hfills
  split at hfills
  · rw [hfills]
    exact ⟨_, _, hdrawn⟩
  · exact hfills.drawn hdrawn

/-- No group waits twice in the normal list of a faction. -/
def WaitsOnce (queue : BattlegroundQueue) (bracket : Bracket) (index : TeamIndex) : Prop :=
  (queue.queuedGroups ⟨bracket, .normal index⟩).Nodup

theorem waitsOnce_of_structured (hqueue : queue.view.Structured) (bracket : Bracket)
    (index : TeamIndex) : queue.WaitsOnce bracket index :=
  hqueue.nodup_lists _

/-- A pool of one faction for a battleground with some free places. -/
structure FillsSide (queue : BattlegroundQueue) (bracket : Bracket) (index : TeamIndex)
    (free : Nat) (pool : SelectionPool) : Prop where
  sublist : pool.selectedGroups.Sublist (queue.normal bracket index)
  distinct : queue.WaitsOnce bracket index → (pool.selectedGroups.map QueuedGroup.id).Nodup
  notInvited : ∀ ginfo ∈ pool.selectedGroups, ginfo.info.invited = false
  counted : pool.playerCount = (pool.selectedGroups.map fun ginfo => ginfo.info.players.length).sum
  fits : pool.playerCount ≤ free

theorem fillsSide_of_draws {bracket : Bracket} {index : TeamIndex} {rest : List QueuedGroup}
    {free : Nat} {pool : SelectionPool}
    (hdraws : pool.Draws (queue.normal bracket index) rest free) :
    queue.FillsSide bracket index free pool where
  sublist := hdraws.selected_sublist
  distinct hnodup := (nodup_rows hnodup).sublist (hdraws.selected_sublist.map QueuedGroup.id)
  notInvited := hdraws.notInvited
  counted := hdraws.counted
  fits := hdraws.fits

/-- Filling a battleground ends, and whatever it ends with fits into the free places of either
side; in a queue as the server builds it no group waits twice for a side. -/
theorem fillPlayersToBG_fits (queue : BattlegroundQueue) (world : World)
    (bg : RunningBattleground) (bracket : Bracket) :
    (∃ pools, queue.FillsPlayersToBG world bg bracket pools ∧
      queue.fillPlayersToBG world bg bracket = pools) ∧
    (∀ pools, queue.FillsPlayersToBG world bg bracket pools →
      queue.FillsSide bracket .alliance bg.allianceFree pools.alliance ∧
        queue.FillsSide bracket .horde bg.hordeFree pools.horde) ∧
    (queue.view.Structured → ∀ index, queue.WaitsOnce bracket index) := by
  refine ⟨⟨_, fillPlayersToBG_fills queue world bg bracket, rfl⟩, ?_,
    fun hqueue => waitsOnce_of_structured hqueue bracket⟩
  intro pools hfills
  obtain ⟨restAlliance, restHorde, halliance, hhorde⟩ := hfills.drawn
  exact ⟨fillsSide_of_draws halliance, fillsSide_of_draws hhorde⟩

end BattlegroundQueue

end MopServer.Battlegrounds
