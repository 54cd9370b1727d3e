import MopServer.Pools.Occupancy

/-! # Quest pools

All quest pools share one set of active quests.  A pool draws its quests anew, recycling active ones
when it has too few; or it loads what was saved, on top of what is active.
-/

namespace MopServer.Pools

open PoolGroup

/-! ## The active quests -/

variable {limit : UInt32}

theorem toNat_pos (hlimit : limit ≠ 0) : 0 < limit.toNat :=
  Nat.pos_of_ne_zero fun heq => hlimit (UInt32.toNat_inj.mp heq)

theorem toNat_sub_one_of_ne_zero (hlimit : limit ≠ 0) : (limit - 1).toNat = limit.toNat - 1 := by
  have hle : (1 : UInt32) ≤ limit := by
    rw [UInt32.le_iff_toNat_le]
    exact toNat_pos hlimit
  rw [UInt32.toNat_sub_of_le _ _ hle]
  rfl

theorem loadQuests_activeQuests (poolId : Nat) (rows : List Nat) (hlimit : limit ≠ 0)
    (state : PoolState) :
    (loadQuests poolId rows limit state).data.activeQuests =
      state.data.activeQuests ∪ (rows.take limit.toNat).toFinset := by
  induction rows generalizing limit state with
  | nil => simp [loadQuests]
  | cons questId rest ih =>
    obtain ⟨further, hfurther⟩ := Nat.exists_eq_succ_of_ne_zero (toNat_pos hlimit).ne'
    have hnext : (limit - 1).toNat = further := by
      rw [toNat_sub_one_of_ne_zero hlimit, hfurther]
      rfl
    unfold loadQuests
    dsimp only
    rw [hfurther, List.take_succ_cons, List.toFinset_cons]
    split
    next hmore =>
      rw [ih hmore, hnext]
      change insert questId state.data.activeQuests ∪ _ = _
      rw [Finset.insert_union, Finset.union_insert]
    next hlast =>
      have hzero : further = 0 := by
        rw [← hnext, not_not.mp hlast]
        rfl
      rw [hzero, List.take_zero, List.toFinset_nil, insert_empty_eq, Finset.union_comm]
      rfl

theorem foldl_despawnMember_quests {rank : Nat → Nat} {poolId : Nat}
    (objects : List (Member rank .quest poolId)) (state : PoolState) :
    (objects.foldl (despawnMember (fun _ state => state) 0) state).data.activeQuests =
      state.data.activeQuests \ (objects.map Subtype.val).toFinset := by
  induction objects generalizing state with
  | nil => simp
  | cons object rest ih =>
    have hstep : (despawnMember (fun _ state => state) 0 state object).data.activeQuests =
        state.data.activeQuests.erase object.1 := by
      unfold despawnMember
      split
      · rfl
      next hinactive =>
        refine (Finset.erase_eq_of_notMem fun hactive => hinactive ?_).symm
        simpa [ActivePoolData.isActiveObject] using hactive
    rw [List.foldl_cons, ih, hstep, List.map_cons, List.toFinset_cons]
    ext questId
    simp only [Finset.mem_sdiff, Finset.mem_erase, Finset.mem_insert]
    tauto

theorem recycleQuests_subset (limit : UInt32) (newQuests currentQuests : Finset Nat)
    (state : PoolState) :
    (recycleQuests limit newQuests currentQuests state).1 ⊆ newQuests ∪ currentQuests := by
  induction newQuests, currentQuests, state using recycleQuests.induct limit with
  | case1 newQuests currentQuests state hquests questId hlt =>
    rename_i ih
    rw [recycleQuests, dif_pos hquests]
    rw [if_pos hlt]
    refine ih.trans fun other hother => ?_
    have hmem := selectRandom_mem hquests (state.outcomes 0).index
    rw [Finset.mem_union, Finset.mem_insert] at hother
    rcases hother with (rfl | hnew) | hcurrent
    · exact Finset.mem_union_right _ hmem
    · exact Finset.mem_union_left _ hnew
    · exact Finset.mem_union_right _ (Finset.mem_of_mem_erase hcurrent)
  | case2 newQuests currentQuests state hquests hge =>
    rw [recycleQuests, dif_pos hquests]
    rw [if_neg hge]
    exact Finset.subset_union_left
  | case3 newQuests currentQuests state hquests =>
    rw [recycleQuests, dif_neg hquests]
    exact Finset.subset_union_left

theorem activateQuests_spec (poolId : Nat) (hlimit : limit ≠ 0) (newQuests : Finset Nat)
    (state : PoolState) :
    ∃ chosen ⊆ newQuests, chosen.card ≤ limit.toNat ∧
      (activateQuests poolId limit newQuests state).data.activeQuests =
        state.data.activeQuests ∪ chosen := by
  induction limit, newQuests, state using activateQuests.induct poolId with
  | case1 limit newQuests state hquests questId next rest hrest ih =>
    rw [activateQuests, dif_pos hquests]
    rw [if_pos hrest]
    obtain ⟨chosen, hsub, hcard, hactive⟩ := ih hrest
    have hmem := selectRandom_mem hquests (state.outcomes 0).index
    refine ⟨insert questId chosen, ?_, ?_, ?_⟩
    · exact Finset.insert_subset hmem (hsub.trans (Finset.erase_subset _ _))
    · have hsucc := Finset.card_insert_le questId chosen
      have hone := toNat_pos hlimit
      rw [toNat_sub_one_of_ne_zero hlimit] at hcard
      omega
    · rw [hactive]
      change insert questId state.data.activeQuests ∪ chosen = _
      rw [Finset.insert_union, Finset.union_insert]
  | case2 limit newQuests state hquests rest hrest =>
    rw [activateQuests, dif_pos hquests]
    rw [if_neg hrest]
    refine ⟨{selectRandom newQuests (state.outcomes 0).index}, ?_, ?_, ?_⟩
    · exact Finset.singleton_subset_iff.mpr (selectRandom_mem hquests _)
    · rw [Finset.card_singleton]
      exact Nat.pos_of_ne_zero fun heq => hlimit (UInt32.toNat_inj.mp heq)
    · rw [Finset.union_comm, ← Finset.insert_eq]
      rfl
  | case3 limit newQuests state hquests =>
    rw [activateQuests, dif_neg hquests]
    exact ⟨∅, Finset.empty_subset _, Nat.zero_le _, (Finset.union_empty _).symm⟩

/-! ## Independence -/

namespace PoolMgr

variable {mgr : PoolMgr} {poolId : Nat} {state : PoolState}

/-- The quests of the other pools are as active as before, and at most `limit` of the own ones are
active. -/
def Independent (mgr : PoolMgr) (poolId : Nat) (limit : UInt32) (state after : PoolState) : Prop :=
  (∀ other ≠ poolId, ∀ questId ∈ (mgr.group .quest other).guids,
      (questId ∈ after.data.activeQuests ↔ questId ∈ state.data.activeQuests)) ∧
    ((mgr.group .quest poolId).guids ∩ after.data.activeQuests).card ≤ limit.toNat

/-- The saved quests that are loaded: a trigger means that there is no query. -/
def loadedQuests (limit : UInt32) (triggerFrom : Nat) (state : PoolState) : Finset Nat :=
  if triggerFrom = 0 then ((state.outcomes 0).rows.take limit.toNat).toFinset else ∅

/-- Nothing is loaded, or what is loaded finds room beside the active quests of the pool and, as far
as it belongs to other pools, is active already. -/
def LoadFits (mgr : PoolMgr) (poolId : Nat) (limit : UInt32) (triggerFrom : Nat)
    (state : PoolState) : Prop :=
  let loaded := loadedQuests limit triggerFrom state
  loaded = ∅ ∨
    (∀ other ≠ poolId, ∀ questId ∈ (mgr.group .quest other).guids, questId ∈ loaded →
        questId ∈ state.data.activeQuests) ∧
      ((mgr.group .quest poolId).guids ∩ (state.data.activeQuests ∪ loaded)).card ≤ limit.toNat

variable (mgr poolId) in
/-- No quest of the pool is in another pool. -/
def QuestsApart : Prop :=
  ∀ other ≠ poolId, ∀ questId ∈ (mgr.group .quest other).guids,
    questId ∉ (mgr.group .quest poolId).guids

theorem independent_of_draw (hapart : mgr.QuestsApart poolId) {after : PoolState}
    {chosen : Finset Nat}
    (hchosen : chosen ⊆ (mgr.group .quest poolId).guids ∪ state.data.activeQuests)
    (hcard : chosen.card ≤ limit.toNat) (hafter : after.data.activeQuests =
      (state.data.activeQuests \ (mgr.group .quest poolId).guids) ∪ chosen) :
    mgr.Independent poolId limit state after := by
  constructor
  · intro other hother questId hquest
    have hforeign := hapart other hother questId hquest
    rw [hafter, Finset.mem_union, Finset.mem_sdiff]
    constructor
    · rintro (hold | hnew)
      · exact hold.1
      · exact (Finset.mem_union.mp (hchosen hnew)).resolve_left hforeign
    · exact fun hactive => Or.inl ⟨hactive, hforeign⟩
  · refine (Finset.card_le_card fun questId hquest => ?_).trans hcard
    rw [hafter, Finset.mem_inter, Finset.mem_union, Finset.mem_sdiff] at hquest
    exact hquest.2.resolve_left fun hold => hold.2 hquest.1

theorem drawQuests_independent (hapart : mgr.QuestsApart poolId) (hlimit : limit ≠ 0)
    {drawn : PoolState} (hdrawn : drawn.data = state.data) : let group := mgr.group .quest poolId
    let newQuests := (group.equalChanced.map Subtype.val).toFinset \ drawn.data.activeQuests
    let recycled := recycleQuests limit newQuests drawn.data.activeQuests
      (group.despawnObject (fun _ state => state) drawn 0)
    mgr.Independent poolId limit state (activateQuests poolId limit recycled.1 recycled.2) := by
  intro group newQuests recycled
  obtain ⟨chosen, hsub, hcard, hafter⟩ := activateQuests_spec poolId hlimit recycled.1 recycled.2
  have hcleared : recycled.2.data.activeQuests = state.data.activeQuests \ group.guids := by
    have hdata : recycled.2.data = (group.despawnObject (fun _ state => state) drawn 0).data :=
      recycleQuests_induction (motive := fun middle => middle.data = _) (fun _ hmiddle => hmiddle)
        limit newQuests _ rfl
    rw [hdata, ← hdrawn]
    exact foldl_despawnMember_quests group.members drawn
  refine independent_of_draw hapart (hsub.trans fun questId hquest => ?_) hcard (hcleared ▸ hafter)
  have hpool := recycleQuests_subset limit newQuests drawn.data.activeQuests _ hquest
  rw [hdrawn] at hpool
  rcases Finset.mem_union.mp hpool with hnew | hactive
  · obtain ⟨object, hobject, hval⟩ :=
      List.mem_map.mp (List.mem_toFinset.mp (Finset.mem_sdiff.mp hnew).1)
    exact Finset.mem_union_left _ (mem_guids.mpr ⟨object, List.mem_append_left _ hobject, hval⟩)
  · exact Finset.mem_union_right _ hactive

theorem loadQuests_independent_iff (hlimit : limit ≠ 0) {rows : List Nat} (hrows : rows ≠ [])
    {drawn : PoolState} (hdrawn : drawn.data = state.data) {loaded : Finset Nat}
    (hloaded : (rows.take limit.toNat).toFinset = loaded) :
    mgr.Independent poolId limit state (loadQuests poolId rows limit drawn) ↔
      loaded = ∅ ∨
        (∀ other ≠ poolId, ∀ questId ∈ (mgr.group .quest other).guids, questId ∈ loaded →
            questId ∈ state.data.activeQuests) ∧
          ((mgr.group .quest poolId).guids ∩ (state.data.activeQuests ∪ loaded)).card ≤
            limit.toNat := by
  have hsome : loaded ≠ ∅ := by
    obtain ⟨questId, rest, rfl⟩ := List.exists_cons_of_ne_nil hrows
    obtain ⟨further, hfurther⟩ := Nat.exists_eq_succ_of_ne_zero (toNat_pos hlimit).ne'
    rw [← hloaded, hfurther, List.take_succ_cons, List.toFinset_cons]
    exact Finset.insert_ne_empty _ _
  unfold Independent
  rw [loadQuests_activeQuests poolId rows hlimit drawn, hdrawn, hloaded, or_iff_right hsome]
  refine and_congr_left fun _ => ?_
  refine forall_congr' fun other => forall_congr' fun _ => forall_congr' fun questId =>
    forall_congr' fun _ => ?_
  rw [Finset.mem_union]
  exact or_iff_left_iff_imp

/-- A quest pool that shares no quest is filled within its limit and at no other pool's cost exactly
if what it loads fits. -/
theorem spawnQuests_independent_iff (mgr : PoolMgr) (poolId : Nat)
    (hapart : mgr.QuestsApart poolId) (limit : UInt32)
    (hlimit : limit ≠ 0) (triggerFrom : Nat) (state : PoolState) :
    mgr.Independent poolId limit state
        ((mgr.group .quest poolId).spawnQuests state limit triggerFrom) ↔
      mgr.LoadFits poolId limit triggerFrom state := by
  by_cases htrigger : triggerFrom = 0
  · unfold spawnQuests LoadFits loadedQuests
    rw [if_pos htrigger, if_pos htrigger, if_pos htrigger]
    by_cases hrows : (state.outcomes 0).rows = []
    · rw [if_neg (not_not.mpr hrows)]
      refine iff_of_true (drawQuests_independent hapart hlimit rfl) (Or.inl ?_)
      rw [hrows, List.take_nil, List.toFinset_nil]
    · rw [if_pos hrows]
      exact loadQuests_independent_iff hlimit hrows rfl rfl
  · unfold spawnQuests LoadFits loadedQuests
    rw [if_neg htrigger, if_neg htrigger, if_neg htrigger, if_neg (not_not.mpr rfl)]
    exact iff_of_true (drawQuests_independent hapart hlimit rfl) (Or.inl rfl)

def quest (rank : Nat → Nat) (poolId guid : Nat) : Member rank .quest poolId :=
  ⟨guid, fun hkind => Kind.noConfusion hkind⟩

def questGroup : ∀ kind poolId, PoolGroup (Member id kind poolId)
  | .quest, 1 => ⟨[], [quest id 1 101, quest id 1 102]⟩
  | .quest, 2 => ⟨[], [quest id 2 201]⟩
  | _, _ => ⟨[], []⟩

theorem questGroup_quest {guid : Nat} (hguid : guid ∈ (questGroup .quest poolId).guids) :
    poolId = if guid = 201 then 2 else 1 := by
  obtain ⟨object, hobject, rfl⟩ := mem_guids.mp hguid
  match poolId, object, hobject with
  | 1, object, hobject =>
    simp only [questGroup, members, List.append_nil, List.mem_cons, List.not_mem_nil, or_false]
      at hobject
    rcases hobject with rfl | rfl <;> rfl
  | 2, object, hobject =>
    simp only [questGroup, members, List.append_nil, List.mem_cons, List.not_mem_nil, or_false]
      at hobject
    subst hobject
    rfl

def questPools : PoolMgr where
  maxLimit _ := 1
  rank := id
  group := questGroup
  few kind poolId := by
    unfold questGroup
    split
    · decide
    · decide
    · exact Nat.two_pow_pos 31

def oneActive : PoolState where
  data :=
    { spawnedCreatures := ∅, spawnedGameobjects := ∅, activeQuests := {101}
      spawnedPools := fun poolId => if poolId = 1 then some 1 else none }
  outcomes n := { threshold := n, index := n, rows := [102] }

theorem spawnQuests_independent_iff_oneActive :
    questPools.Independent 1 1 oneActive
        ((questPools.group .quest 1).spawnQuests oneActive 1 7) ↔
      questPools.LoadFits 1 1 7 oneActive :=
  spawnQuests_independent_iff questPools 1
    (fun _ hother _ hquest hown =>
      hother ((questGroup_quest hquest).trans (questGroup_quest hown).symm))
    1 (by decide) 7 oneActive

/-- The saved quest is activated beside the active one. -/
theorem not_independent_of_load :
    ¬questPools.Independent 1 1 oneActive
      ((questPools.group .quest 1).spawnQuests oneActive 1 0) :=
  fun hindependent => absurd hindependent.2 (by decide)

end PoolMgr

end MopServer.Pools
