import MopServer.Battlegrounds.QueueFilling
import MopServer.Battlegrounds.QueuePairing

/-! # The teams of a new match

A battleground takes its teams from the normal lists of both factions.  In a skirmish both teams may
come from one faction: the second one is taken from behind the last group of the first.
-/

namespace MopServer.Battlegrounds

open Foundation

namespace SelectionPool

variable {waiting rest : List QueuedGroup} {free minPlayers desiredCount : Nat}
  {pool : SelectionPool}

theorem Draws.addUntilEnough (hdraws : pool.Draws waiting rest free) (minPlayers : Nat) :
    (pool.addUntilEnough minPlayers free rest).1.Draws waiting
      (pool.addUntilEnough minPlayers free rest).2.tail free := by
  induction rest generalizing pool with
  | nil => exact hdraws
  | cons ginfo rest ih =>
    unfold SelectionPool.addUntilEnough
    split
    · exact ih (hdraws.leave (List.sublist_cons_self ginfo rest))
    · have hadd := hdraws.addGroup le_rfl 0
      dsimp only
      split
      · exact hadd
      · exact ih hadd

theorem Draws.addUntilFull (hdraws : pool.Draws waiting rest free) (hdesired : desiredCount ≤ free) :
    (pool.addUntilFull desiredCount rest).Draws waiting [] free := by
  induction rest generalizing pool with
  | nil => exact hdraws
  | cons ginfo rest ih =>
    have hleave := hdraws.leave (List.sublist_cons_self ginfo rest)
    unfold SelectionPool.addUntilFull
    split
    · exact ih hleave
    · have hadd := hdraws.addGroup hdesired 0
      split
      next pool' heq =>
        rw [heq] at hadd
        exact ih hadd
      next pool' heq =>
        rw [heq] at hadd
        exact hadd.leave (List.nil_sublist rest)

end SelectionPool

open SelectionPool

variable (pool : SelectionPool) (pools : SelectionPools) (index : TeamIndex)

@[simp]
theorem SelectionPools.get_set_same : (pools.set index pool).get index = pool := by
  cases index <;> rfl

@[simp]
theorem SelectionPools.get_set_other :
    (pools.set index pool).get index.other = pools.get index.other := by
  cases index <;> rfl

@[simp]
theorem SelectionPools.get_set_of_other :
    (pools.set index.other pool).get index = pools.get index := by
  cases index <;> rfl

theorem TeamIndex.eq_or_eq_other (side : TeamIndex) : side = index ∨ side = index.other := by
  cases index <;> cases side <;> simp [TeamIndex.other]

namespace BattlegroundQueue

variable {queue : BattlegroundQueue} {bracket : Bracket} {minPlayers maxPlayers : Nat}

theorem append_behind_sublist {waiting selected : List QueuedGroup} {last : QueuedGroup}
    (hsublist : selected.Sublist waiting) (hlast : selected.getLast? = some last)
    (hnodup : (waiting.map QueuedGroup.id).Nodup) :
    (selected ++ behind last.id waiting).Sublist waiting := by
  induction waiting generalizing selected with
  | nil =>
    rw [List.sublist_nil.mp hsublist] at hlast
    cases hlast
  | cons row rest ih =>
    obtain ⟨hrow, hrest⟩ := List.nodup_cons.mp hnodup
    have hmem := List.mem_of_getLast? hlast
    -- The row is the last selected group, or comes before it.
    by_cases hsame : row.id = last.id
    · have hbehind : behind last.id (row :: rest) = rest := by simp [behind, hsame]
      have hnot : last ∉ rest := by
        intro hlater
        exact hrow (hsame ▸ List.mem_map_of_mem hlater)
      rw [hbehind]
      cases hsublist with
      | cons _ hlater => exact absurd (hlater.mem hmem) hnot
      | @cons_cons remaining _ _ hlater =>
        cases remaining with
        | nil => exact List.Sublist.refl _
        | cons next more =>
          rw [List.getLast?_cons_cons] at hlast
          exact absurd (hlater.mem (List.mem_of_getLast? hlast)) hnot
    · have hbehind : behind last.id (row :: rest) = behind last.id rest := by
        simp [behind, hsame]
      rw [hbehind]
      cases hsublist with
      | cons _ hlater => exact (ih hlater hlast hrest).cons row
      | @cons_cons remaining _ _ hlater =>
        cases remaining with
        | nil =>
          rw [List.getLast?_singleton] at hlast
          exact absurd (congrArg QueuedGroup.id (Option.some.inj hlast)) hsame
        | cons next more =>
          rw [List.getLast?_cons_cons] at hlast
          exact (ih hlater hlast hrest).cons_cons row

/-- No group waits twice in the normal lists of a bracket. -/
def WaitApart (queue : BattlegroundQueue) (bracket : Bracket) : Prop :=
  (queue.queuedGroups ⟨bracket, .normalAlliance⟩ ++
    queue.queuedGroups ⟨bracket, .normalHorde⟩).Nodup

theorem waitApart_of_structured (hqueue : queue.view.Structured) (bracket : Bracket) :
    queue.WaitApart bracket := by
  refine List.nodup_append'.mpr ⟨hqueue.nodup_lists _, hqueue.nodup_lists _, ?_⟩
  intro id halliance hhorde
  have hfaction := hqueue.faction_of_mem halliance
  rw [hqueue.faction_of_mem hhorde] at hfaction
  cases hfaction

/-- Two teams of a match. -/
structure Teams (queue : BattlegroundQueue) (bracket : Bracket) (minPlayers maxPlayers : Nat)
    (pools : SelectionPools) : Prop where
  /-- The groups are those of one or of two lists, each at most once. -/
  waiting : ∀ index, ∀ ginfo ∈ (pools.get index).selectedGroups,
    ∃ side, ginfo ∈ queue.normal bracket side
  disjoint : queue.WaitApart bracket →
    ((pools.alliance.selectedGroups ++ pools.horde.selectedGroups).map QueuedGroup.id).Nodup
  notInvited : ∀ index, ∀ ginfo ∈ (pools.get index).selectedGroups, ginfo.info.invited = false
  counted : ∀ index, (pools.get index).playerCount =
    ((pools.get index).selectedGroups.map fun ginfo => ginfo.info.players.length).sum
  enough : ∀ index, minPlayers ≤ (pools.get index).playerCount
  notTooMany : ∀ index, (pools.get index).playerCount ≤ maxPlayers

/-- Either side is drawn from the list of its faction. -/
def DrawnApart (queue : BattlegroundQueue) (bracket : Bracket) (maxPlayers : Nat)
    (pools : SelectionPools) : Prop :=
  ∀ index, (pools.get index).Draws (queue.normal bracket index) [] maxPlayers

/-! ## Normal matches -/

section NormalMatch

variable (queue : BattlegroundQueue) (world : World) (template : Template) (bracket : Bracket)
  (minPlayers maxPlayers : Nat) (index : TeamIndex)

/-- The first pass of `CheckNormalMatch` through the list of a faction. -/
def firstPass : SelectionPool × List QueuedGroup :=
  SelectionPool.init.addUntilEnough minPlayers maxPlayers (queue.normal bracket index)

def firstPools : SelectionPools :=
  ⟨(queue.firstPass bracket minPlayers maxPlayers .alliance).1,
    (queue.firstPass bracket minPlayers maxPlayers .horde).1⟩

/-- The faction that gets more groups in the second pass. -/
def weaker (pools : SelectionPools) : TeamIndex :=
  if pools.horde.playerCount < pools.alliance.playerCount then .horde else .alliance

/-- Whether there is a second pass. -/
def evensOut : Bool :=
  let pools := queue.firstPools bracket minPlayers maxPlayers
  decide (world.invitationType ≠ 0 ∧ minPlayers ≤ pools.horde.playerCount ∧
    minPlayers ≤ pools.alliance.playerCount)

def lastPools : SelectionPools :=
  let pools := queue.firstPools bracket minPlayers maxPlayers
  let j := weaker pools
  if queue.evensOut world bracket minPlayers maxPlayers then
    pools.set j ((pools.get j).addUntilFull (pools.get j.other).playerCount
      (queue.firstPass bracket minPlayers maxPlayers j).2.tail)
  else pools

/-- `CheckNormalMatch` by its passes. -/
theorem checkNormalMatch_eq :
    queue.checkNormalMatch world template bracket minPlayers maxPlayers =
      let pools := queue.lastPools world bracket minPlayers maxPlayers
      if queue.evensOut world bracket minPlayers maxPlayers &&
          decide (2 < ((pools.horde.playerCount : Int) - pools.alliance.playerCount).natAbs) then
        (pools, false)
      else if world.isTesting && !template.isArena &&
          (pools.alliance.playerCount != 0 || pools.horde.playerCount != 0) then (pools, true)
      else
        (pools, decide (minPlayers ≤ pools.alliance.playerCount ∧
          minPlayers ≤ pools.horde.playerCount)) :=
  rfl

theorem checkNormalMatch_fst :
    (queue.checkNormalMatch world template bracket minPlayers maxPlayers).1 =
      queue.lastPools world bracket minPlayers maxPlayers := by
  rw [checkNormalMatch_eq]
  dsimp only
  split
  · rfl
  · split <;> rfl

theorem draws_firstPass :
    (queue.firstPass bracket minPlayers maxPlayers index).1.Draws (queue.normal bracket index)
      (queue.firstPass bracket minPlayers maxPlayers index).2.tail maxPlayers :=
  (draws_init _ maxPlayers).addUntilEnough minPlayers

variable {queue world template bracket minPlayers maxPlayers}

/-- When a match is found without testing, there are enough players, and about as many on either
side. -/
theorem checkNormalMatch_snd (htesting : world.isTesting = false)
    (hmatch : (queue.checkNormalMatch world template bracket minPlayers maxPlayers).2 = true) :
    let pools := queue.lastPools world bracket minPlayers maxPlayers
    minPlayers ≤ pools.alliance.playerCount ∧ minPlayers ≤ pools.horde.playerCount ∧
      (queue.evensOut world bracket minPlayers maxPlayers = true →
        ((pools.horde.playerCount : Int) - pools.alliance.playerCount).natAbs ≤ 2) := by
  rw [checkNormalMatch_eq, htesting] at hmatch
  dsimp only [Bool.false_and] at hmatch ⊢
  split at hmatch
  · cases hmatch
  next hbalanced =>
  simp only [Bool.false_and, Bool.false_eq_true, if_false, decide_eq_true_eq] at hmatch
  refine ⟨hmatch.1, hmatch.2, ?_⟩
  intro heven
  rw [heven, Bool.true_and, decide_eq_true_eq, Nat.not_lt] at hbalanced
  exact hbalanced

theorem firstPools_get :
    (queue.firstPools bracket minPlayers maxPlayers).get index =
      (queue.firstPass bracket minPlayers maxPlayers index).1 := by
  cases index <;> rfl

/-- Both passes draw either side from the list of its faction. -/
theorem drawnApart_lastPools :
    queue.DrawnApart bracket maxPlayers (queue.lastPools world bracket minPlayers maxPlayers) := by
  have hfirst : queue.DrawnApart bracket maxPlayers
      (queue.firstPools bracket minPlayers maxPlayers) := by
    intro index
    rw [firstPools_get]
    exact (draws_firstPass queue bracket minPlayers maxPlayers index).leave (List.nil_sublist _)
  intro index
  unfold lastPools
  dsimp only
  split
  · rcases TeamIndex.eq_or_eq_other (weaker (queue.firstPools bracket minPlayers maxPlayers)) index
      with hindex | hindex
    · have hfull := (draws_firstPass queue bracket minPlayers maxPlayers index).addUntilFull
        (hfirst index.other).fits
      rw [← firstPools_get] at hfull
      rw [← hindex, SelectionPools.get_set_same]
      exact hfull
    · rw [hindex, SelectionPools.get_set_other]
      exact hfirst _
  · exact hfirst index

/-- With an invitation type there is a second pass whenever there are enough players in the end. -/
theorem evensOut_of_enough (hinvite : world.invitationType ≠ 0)
    (halliance : minPlayers ≤
      (queue.lastPools world bracket minPlayers maxPlayers).alliance.playerCount)
    (hhorde : minPlayers ≤ (queue.lastPools world bracket minPlayers maxPlayers).horde.playerCount) :
    queue.evensOut world bracket minPlayers maxPlayers = true := by
  by_contra hnot
  have hsame : queue.lastPools world bracket minPlayers maxPlayers =
      queue.firstPools bracket minPlayers maxPlayers := by
    exact if_neg hnot
  rw [hsame] at halliance hhorde
  exact hnot (decide_eq_true ⟨hinvite, hhorde, halliance⟩)

end NormalMatch

variable {pools : SelectionPools}

/-- The groups of two lists are distinct. -/
theorem DrawnApart.nodup (hdrawn : queue.DrawnApart bracket maxPlayers pools)
    (hapart : queue.WaitApart bracket) :
    ((pools.alliance.selectedGroups ++ pools.horde.selectedGroups).map QueuedGroup.id).Nodup := by
  have hlisted : ((queue.normal bracket .alliance ++ queue.normal bracket .horde).map
      QueuedGroup.id).Nodup := by
    have hrows : queue.normal bracket .alliance ++ queue.normal bracket .horde =
        (queue.queuedGroups ⟨bracket, .normalAlliance⟩ ++
          queue.queuedGroups ⟨bracket, .normalHorde⟩).filterMap queue.groups.get? :=
      List.filterMap_append.symm
    rw [hrows]
    exact nodup_rows hapart
  exact hlisted.sublist (((hdrawn .alliance).selected_sublist.append
    (hdrawn .horde).selected_sublist).map QueuedGroup.id)

theorem teams_of_drawnApart (hdrawn : queue.DrawnApart bracket maxPlayers pools)
    (henough : ∀ index, minPlayers ≤ (pools.get index).playerCount) :
    queue.Teams bracket minPlayers maxPlayers pools where
  waiting index _ hginfo := ⟨index, (hdrawn index).selected_sublist.mem hginfo⟩
  disjoint := hdrawn.nodup
  notInvited index := (hdrawn index).notInvited
  counted index := (hdrawn index).counted
  enough := henough
  notTooMany index := (hdrawn index).fits

/-! ## Skirmishes -/

variable {result : BattlegroundQueue × SelectionPools}

theorem checkSkirmishForSameFaction_spec
    (hresult : queue.checkSkirmishForSameFaction bracket minPlayers pools = some result) :
    ∃ index last, index = skirmishIndex pools minPlayers ∧
      (pools.get index).selectedGroups.getLast? = some last ∧
      ¬(pools.alliance.playerCount < minPlayers ∧ pools.horde.playerCount < minPlayers) ∧
      result.2 = pools.set index.other
        (SelectionPool.init.addUntilFull minPlayers
          (behind last.id (queue.normal bracket index))) ∧
      (result.2.get index.other).playerCount = minPlayers := by
  unfold checkSkirmishForSameFaction at hresult
  dsimp only at hresult
  split at hresult
  · cases hresult
  next hsize =>
  split at hresult
  · cases hresult
  next last hlast =>
  split at hresult
  · split at hresult
    next hcount =>
      obtain rfl := Option.some.inj hresult
      refine ⟨_, last, rfl, hlast, hsize, rfl, ?_⟩
      rw [SelectionPools.get_set_same]
      exact hcount
    · cases hresult
  · cases hresult

/-- One team of a skirmish is selected already, with as many players as are asked for. -/
theorem skirmishIndex_playerCount (hdrawn : queue.DrawnApart bracket minPlayers pools)
    (hsize : ¬(pools.alliance.playerCount < minPlayers ∧ pools.horde.playerCount < minPlayers)) :
    (pools.get (skirmishIndex pools minPlayers)).playerCount = minPlayers := by
  have halliance : pools.alliance.playerCount ≤ minPlayers := (hdrawn .alliance).fits
  have hhorde : pools.horde.playerCount ≤ minPlayers := (hdrawn .horde).fits
  unfold skirmishIndex
  split
  next heq => exact heq
  next hne =>
    change pools.alliance.playerCount = minPlayers
    omega

theorem teams_of_skirmish (hdrawn : queue.DrawnApart bracket minPlayers pools)
    (hresult : queue.checkSkirmishForSameFaction bracket minPlayers pools = some result) :
    queue.Teams bracket minPlayers minPlayers result.2 := by
  obtain ⟨index, last, hindex, hlast, hsize, hpools, hcount⟩ :=
    checkSkirmishForSameFaction_spec hresult
  have hown := skirmishIndex_playerCount hdrawn hsize
  rw [← hindex] at hown
  have hsame : result.2.get index = pools.get index := by
    rw [hpools, SelectionPools.get_set_of_other]
  have hother := (draws_init (behind last.id (queue.normal bracket index)) minPlayers).addUntilFull
    (le_refl minPlayers)
  have hnew : result.2.get index.other = SelectionPool.init.addUntilFull minPlayers
      (behind last.id (queue.normal bracket index)) := by
    rw [hpools, SelectionPools.get_set_same]
  rw [← hnew] at hother
  have hbehind : (behind last.id (queue.normal bracket index)).Sublist
      (queue.normal bracket index) :=
    (List.tail_sublist _).trans (List.dropWhile_sublist _)
  have hdisjoint : queue.WaitApart bracket →
      (((result.2.get index).selectedGroups ++ (result.2.get index.other).selectedGroups).map
        QueuedGroup.id).Nodup := by
    intro hapart
    have hnodup : ((queue.normal bracket index).map QueuedGroup.id).Nodup := by
      refine nodup_rows ?_
      cases index with
      | alliance => exact hapart.of_append_left
      | horde => exact hapart.of_append_right
    rw [hsame]
    refine hnodup.sublist (List.Sublist.map QueuedGroup.id ?_)
    exact (hother.selected_sublist.append_left _).trans
      (append_behind_sublist (hdrawn index).selected_sublist hlast hnodup)
  refine ⟨?_, ?_, ?_, ?_, ?_, ?_⟩
  · intro side ginfo hginfo
    refine ⟨index, ?_⟩
    rcases TeamIndex.eq_or_eq_other index side with rfl | rfl
    · rw [hsame] at hginfo
      exact (hdrawn side).selected_sublist.mem hginfo
    · exact hbehind.mem (hother.selected_sublist.mem hginfo)
  · intro hapart
    have hnodup := hdisjoint hapart
    cases index with
    | alliance => exact hnodup
    | horde =>
      rw [List.map_append] at hnodup ⊢
      exact (List.perm_append_comm).nodup_iff.mp hnodup
  · intro side
    rcases TeamIndex.eq_or_eq_other index side with rfl | rfl
    · rw [hsame]
      exact (hdrawn side).notInvited
    · exact hother.notInvited
  · intro side
    rcases TeamIndex.eq_or_eq_other index side with rfl | rfl
    · rw [hsame]
      exact (hdrawn side).counted
    · exact hother.counted
  · intro side
    rcases TeamIndex.eq_or_eq_other index side with rfl | rfl
    · rw [hsame, hown]
    · exact hcount.ge
  · intro side
    rcases TeamIndex.eq_or_eq_other index side with rfl | rfl
    · rw [hsame, hown]
    · exact hcount.le

/-- A match has teams of the right size, of different groups nobody has invited yet; in a queue as
the server builds it no group waits twice. -/
theorem teams_of_match (queue : BattlegroundQueue) (world : World) (template : Template)
    (bracket : Bracket) (minPlayers maxPlayers : Nat) :
    (world.isTesting = false → ∀ pools,
      queue.checkNormalMatch world template bracket minPlayers maxPlayers = (pools, true) →
        queue.Teams bracket minPlayers maxPlayers pools ∧
          (world.invitationType ≠ 0 →
            ((pools.horde.playerCount : Int) - pools.alliance.playerCount).natAbs ≤ 2)) ∧
    (minPlayers = maxPlayers → ∀ result, queue.checkSkirmishForSameFaction bracket minPlayers
        (queue.checkNormalMatch world template bracket minPlayers maxPlayers).1 = some result →
      queue.Teams bracket minPlayers maxPlayers result.2) ∧
    (queue.view.Structured → queue.WaitApart bracket) := by
  refine ⟨?_, ?_, fun hqueue => waitApart_of_structured hqueue bracket⟩
  · intro htesting pools hmatch
    have hpools : queue.lastPools world bracket minPlayers maxPlayers = pools := by
      rw [← checkNormalMatch_fst queue world template, hmatch]
    obtain ⟨halliance, hhorde, hdiff⟩ := checkNormalMatch_snd htesting (congrArg Prod.snd hmatch)
    have heven := fun hinvite => evensOut_of_enough hinvite halliance hhorde
    rw [hpools] at halliance hhorde hdiff
    refine ⟨teams_of_drawnApart (hpools ▸ drawnApart_lastPools) ?_,
      fun hinvite => hdiff (heven hinvite)⟩
    intro index
    cases index with
    | alliance => exact halliance
    | horde => exact hhorde
  · rintro rfl result hresult
    rw [checkNormalMatch_fst] at hresult
    exact teams_of_skirmish drawnApart_lastPools hresult

def skirmishQueue (first second : Team) : BattlegroundQueue :=
  (empty.addGroup { arenaPair first 10 11 1 with isRated := false }).addGroup
    { arenaPair second 20 21 2 with isRated := false }

/-- Pairs of both factions have a match, and two pairs of the horde a skirmish. -/
theorem teams_of_match_pairs :
    (∃ pools, (skirmishQueue .alliance .horde).checkNormalMatch arenaWorld ⟨true, false, 2, 2⟩
        ⟨16, by decide⟩ 2 2 = (pools, true) ∧
      (skirmishQueue .alliance .horde).Teams ⟨16, by decide⟩ 2 2 pools) ∧
    ∃ result, (skirmishQueue .horde .horde).checkSkirmishForSameFaction ⟨16, by decide⟩ 2
        ((skirmishQueue .horde .horde).checkNormalMatch arenaWorld ⟨true, false, 2, 2⟩
          ⟨16, by decide⟩ 2 2).1 = some result ∧
      (skirmishQueue .horde .horde).Teams ⟨16, by decide⟩ 2 2 result.2 := by
  constructor
  · have hmatch := (teams_of_match (skirmishQueue .alliance .horde) arenaWorld ⟨true, false, 2, 2⟩
      ⟨16, by decide⟩ 2 2).1 rfl _ (Prod.ext rfl (by decide +kernel))
    exact ⟨_, Prod.ext rfl (by decide +kernel), hmatch.1⟩
  · have hsome : ((skirmishQueue .horde .horde).checkSkirmishForSameFaction ⟨16, by decide⟩ 2
        ((skirmishQueue .horde .horde).checkNormalMatch arenaWorld ⟨true, false, 2, 2⟩
          ⟨16, by decide⟩ 2 2).1).isSome = true := by decide +kernel
    obtain ⟨result, hresult⟩ := Option.isSome_iff_exists.mp hsome
    exact ⟨result, hresult, (teams_of_match (skirmishQueue .horde .horde) arenaWorld
      ⟨true, false, 2, 2⟩ ⟨16, by decide⟩ 2 2).2.1 rfl result hresult⟩

end BattlegroundQueue

end MopServer.Battlegrounds
