import MopServer.Pools.Hierarchy

/-! # How many members of a pool are active

The counter of a pool follows its active members through every round of spawning, and spawning
stops at the limit of the pool.
-/

namespace MopServer.Pools

open PoolGroup

variable {rank : Nat → Nat} {kind : Kind} {poolId : Nat}
  (group : PoolGroup (Member rank kind poolId))

def PoolGroup.activeMembers (data : ActivePoolData) : Finset Nat :=
  group.guids.filter fun guid => data.isActiveObject kind guid

/-- The counter of the pool is the number of active members of the group. -/
def Counted (state : PoolState) : Prop :=
  state.data.getActiveObjectCount poolId = (group.activeMembers state.data).card

/-- No more members than the limit are active, or more were before and the same are still. -/
def WithinLimit (limit : UInt32) (before after : PoolState) : Prop :=
  (group.activeMembers after.data).card ≤ limit.toNat ∨
    limit.toNat < (group.activeMembers before.data).card ∧
      group.activeMembers after.data = group.activeMembers before.data

/-! ## One object -/

variable {guid : Nat} {object : Member rank kind poolId} (data : ActivePoolData) (state : PoolState)

theorem isActiveObject_activate (guid other : Nat) (hother : kind = .pool → other ≠ poolId) :
    (state.activate kind guid poolId).data.isActiveObject kind other =
      (decide (other = guid) || state.data.isActiveObject kind other) := by
  unfold PoolState.activate
  cases kind with
  | pool =>
    simp only [ActivePoolData.isActiveObject, ActivePoolData.activateObject,
      ActivePoolData.modifyCount, Function.update_of_ne (hother rfl)]
    by_cases heq : other = guid
    · simp [heq]
    · simp [heq]
  | _ =>
    simp [ActivePoolData.isActiveObject, ActivePoolData.activateObject, ActivePoolData.modifyCount]

theorem isActiveObject_remove (guid other : Nat) (hother : kind = .pool → other ≠ poolId) :
    (state.remove kind guid poolId).data.isActiveObject kind other =
      (!decide (other = guid) && state.data.isActiveObject kind other) := by
  unfold PoolState.remove
  cases kind with
  | pool =>
    simp only [ActivePoolData.isActiveObject, ActivePoolData.removeObject,
      ActivePoolData.modifyCount, Function.update_of_ne (hother rfl)]
    by_cases heq : other = guid
    · simp [heq]
    · simp [heq]
  | _ =>
    simp [ActivePoolData.isActiveObject, ActivePoolData.removeObject, ActivePoolData.modifyCount]

theorem getActiveObjectCount_modifyCount (f : Nat → Nat) :
    (data.modifyCount poolId f).getActiveObjectCount poolId =
      f (data.getActiveObjectCount poolId) := by
  simp [ActivePoolData.getActiveObjectCount, ActivePoolData.modifyCount]

theorem getActiveObjectCount_activate (guid : Nat) (hguid : kind = .pool → poolId ≠ guid) :
    (data.activateObject kind guid poolId).getActiveObjectCount poolId =
      data.getActiveObjectCount poolId + 1 := by
  unfold ActivePoolData.activateObject
  rw [getActiveObjectCount_modifyCount]
  cases kind with
  | pool => simp [ActivePoolData.getActiveObjectCount, Function.update_of_ne (hguid rfl)]
  | _ => rfl

theorem getActiveObjectCount_remove (guid : Nat) (hguid : kind = .pool → poolId ≠ guid) :
    (data.removeObject kind guid poolId).getActiveObjectCount poolId =
      data.getActiveObjectCount poolId - 1 := by
  unfold ActivePoolData.removeObject
  rw [getActiveObjectCount_modifyCount]
  cases kind with
  | pool => simp [ActivePoolData.getActiveObjectCount, Function.update_of_ne (hguid rfl)]
  | _ => rfl

namespace PoolGroup

variable {group : PoolGroup (Member rank kind poolId)}

theorem ne_of_mem_guids (hguid : guid ∈ group.guids) (hkind : kind = .pool) : guid ≠ poolId := by
  obtain ⟨object, -, rfl⟩ := mem_guids.mp hguid
  intro heq
  have hlt := object.2 hkind
  rw [heq] at hlt
  exact Nat.lt_irrefl _ hlt

theorem mem_activeMembers {data : ActivePoolData} :
    guid ∈ group.activeMembers data ↔
      guid ∈ group.guids ∧ data.isActiveObject kind guid = true := by
  unfold activeMembers
  rw [Finset.mem_filter]

theorem activeMembers_activate (hobject : object ∈ group.members) (state : PoolState) :
    group.activeMembers (state.activate kind object.1 poolId).data =
      insert object.1 (group.activeMembers state.data) := by
  ext guid
  rw [Finset.mem_insert, mem_activeMembers, mem_activeMembers]
  constructor
  · rintro ⟨hguid, hactive⟩
    rw [isActiveObject_activate _ _ _ (ne_of_mem_guids hguid), Bool.or_eq_true,
      decide_eq_true_eq] at hactive
    exact hactive.imp_right fun hactive => ⟨hguid, hactive⟩
  · intro hguid
    have hmem : guid ∈ group.guids := hguid.elim (fun heq => heq ▸ val_mem_guids hobject) And.left
    refine ⟨hmem, ?_⟩
    rw [isActiveObject_activate _ _ _ (ne_of_mem_guids hmem), Bool.or_eq_true, decide_eq_true_eq]
    exact hguid.imp_right And.right

theorem activeMembers_remove (object : Member rank kind poolId) :
    group.activeMembers (state.remove kind object.1 poolId).data =
      (group.activeMembers state.data).erase object.1 := by
  ext guid
  rw [Finset.mem_erase, mem_activeMembers, mem_activeMembers]
  by_cases hguid : guid ∈ group.guids
  · rw [isActiveObject_remove _ _ _ (ne_of_mem_guids hguid), Bool.and_eq_true, Bool.not_eq_true',
      decide_eq_false_iff_not]
    tauto
  · tauto

end PoolGroup

variable {group : PoolGroup (Member rank kind poolId)} {state : PoolState}

theorem poolId_ne (object : Member rank kind poolId) (hkind : kind = .pool) : poolId ≠ object.1 :=
  fun heq => absurd (object.2 hkind) (by rw [← heq]; exact Nat.lt_irrefl _)

theorem Counted.activate (hcounted : Counted group state) (hobject : object ∈ group.members)
    (hinactive : state.data.isActiveObject kind object.1 = false) :
    Counted group (state.activate kind object.1 poolId) := by
  have hnot : object.1 ∉ group.activeMembers state.data := by
    rw [mem_activeMembers, hinactive]
    exact fun hactive => Bool.false_ne_true hactive.2
  unfold Counted
  rw [activeMembers_activate hobject, Finset.card_insert_of_notMem hnot, ← hcounted]
  exact getActiveObjectCount_activate _ _ (poolId_ne object)

theorem Counted.remove (hcounted : Counted group state)
    (hobject : object.1 ∈ group.activeMembers state.data) :
    Counted group (state.remove kind object.1 poolId) := by
  unfold Counted
  rw [activeMembers_remove, Finset.card_erase_of_mem hobject, ← hcounted]
  exact getActiveObjectCount_remove _ _ (poolId_ne object)

/-- What is done for an object leaves the group and its counter alone. -/
def Quiet (group : PoolGroup (Member rank kind poolId)) (state after : PoolState) : Prop :=
  group.activeMembers after.data = group.activeMembers state.data ∧
    after.data.getActiveObjectCount poolId = state.data.getActiveObjectCount poolId

theorem Counted.quiet {after : PoolState} (hcounted : Counted group state)
    (hquiet : Quiet group state after) : Counted group after := by
  unfold Counted
  rw [hquiet.1, hquiet.2]
  exact hcounted

/-- An object that is spawned or despawned leaves the group and its counter alone. -/
def Quietly (group : PoolGroup (Member rank kind poolId))
    (f : Member rank kind poolId → PoolState → PoolState) : Prop :=
  ∀ object ∈ group.members, ∀ state, object.1 ∈ group.activeMembers state.data →
    Quiet group state (f object state)

/-! ## Despawning -/

section Loops

variable {group : PoolGroup (Member rank kind poolId)}
  {spawn1Object despawn1Object : Member rank kind poolId → PoolState → PoolState}
  (hspawn : Quietly group spawn1Object) (hdespawn : Quietly group despawn1Object)

include hdespawn

theorem despawnMember_spec (hcounted : Counted group state) (guid : Nat)
    (hobject : object ∈ group.members) :
    Counted group (despawnMember despawn1Object guid state object) ∧
      ∀ other, other ∈ group.activeMembers (despawnMember despawn1Object guid state object).data ↔
        other ∈ group.activeMembers state.data ∧
          (object.1 = other → ¬(guid = 0 ∨ other = guid)) := by
  unfold despawnMember
  split
  next hactive =>
    rw [Bool.and_eq_true, Bool.or_eq_true, decide_eq_true_eq, decide_eq_true_eq] at hactive
    have hmem : object.1 ∈ group.activeMembers state.data :=
      mem_activeMembers.mpr ⟨val_mem_guids hobject, hactive.1⟩
    have hquiet := hdespawn object hobject state hmem
    refine ⟨(hcounted.quiet hquiet).remove (hquiet.1 ▸ hmem), fun other => ?_⟩
    rw [activeMembers_remove, hquiet.1, Finset.mem_erase, and_comm]
    refine and_congr_right fun _ => ?_
    constructor
    · rintro hne rfl
      exact absurd rfl hne
    · rintro hkept rfl
      exact hkept rfl hactive.2
  next hinactive =>
    refine ⟨hcounted, fun other => (and_iff_left_of_imp fun hother => ?_).symm⟩
    rintro rfl hchosen
    have hactive := (mem_activeMembers.mp hother).2
    rw [hactive, Bool.true_and, Bool.or_eq_true, decide_eq_true_eq, decide_eq_true_eq]
      at hinactive
    exact hinactive hchosen

theorem foldl_despawnMember (hcounted : Counted group state) (guid : Nat)
    (objects : List (Member rank kind poolId))
    (hobjects : ∀ object ∈ objects, object ∈ group.members) :
    Counted group (objects.foldl (despawnMember despawn1Object guid) state) ∧
      ∀ other,
        other ∈ group.activeMembers (objects.foldl (despawnMember despawn1Object guid) state).data ↔
          other ∈ group.activeMembers state.data ∧
            ∀ object ∈ objects, object.1 = other → ¬(guid = 0 ∨ other = guid) := by
  induction objects generalizing state with
  | nil => exact ⟨hcounted, fun other => by simp⟩
  | cons object rest ih =>
    rw [List.foldl_cons]
    have hstep := despawnMember_spec hdespawn hcounted guid (hobjects object List.mem_cons_self)
    have hrest := ih hstep.1 fun other hother => hobjects other (List.mem_cons_of_mem _ hother)
    refine ⟨hrest.1, fun other => ?_⟩
    rw [hrest.2 other, hstep.2 other, List.forall_mem_cons, and_assoc]

theorem counted_despawnObject (hcounted : Counted group state) (guid : Nat) :
    Counted group (group.despawnObject despawn1Object state guid) :=
  (foldl_despawnMember hdespawn hcounted guid group.members fun _ hobject => hobject).1

theorem activeMembers_despawnObject (hcounted : Counted group state) (hguid : guid ≠ 0) :
    group.activeMembers (group.despawnObject despawn1Object state guid).data =
      (group.activeMembers state.data).erase guid := by
  ext other
  rw [Finset.mem_erase, and_comm]
  refine ((foldl_despawnMember hdespawn hcounted guid group.members fun _ hobject => hobject).2
    other).trans (and_congr_right fun hother => ?_)
  obtain ⟨object, hobject, hval⟩ := mem_guids.mp (mem_activeMembers.mp hother).1
  constructor
  · rintro hkept rfl
    exact hkept object hobject hval (Or.inr rfl)
  · rintro hne _ _ _ (hzero | heq)
    · exact hguid hzero
    · exact hne heq

/-! ## Spawning -/

include hspawn

/-- In every round the active members and the rounds to come fit into the limit; the trigger still
counts as active until it is replaced. -/
structure Fits (group : PoolGroup (Member rank kind poolId)) (limit start remaining : Nat)
    (round : Round) : Prop where
  counted : Counted group round.state
  trigger : round.triggerFrom ≠ 0 →
    round.triggerFrom ∈ group.activeMembers round.state.data ∧
      (group.activeMembers round.state.data).card = start
  room : (group.activeMembers round.state.data).card + remaining ≤
    limit + if round.triggerFrom = 0 then 0 else 1

theorem Fits.spawnRound {limit start remaining : Nat} {round : Round}
    (hfits : Fits group limit start (remaining + 1) round) :
    Fits group limit start remaining (group.spawnRound spawn1Object despawn1Object round) := by
  have hroom := hfits.room
  unfold PoolGroup.spawnRound
  cases hroll : group.rollOne round.state round.triggerFrom with
  | none => exact ⟨hfits.counted, hfits.trigger, by dsimp only [PoolState.drawn]; omega⟩
  | some object =>
    obtain ⟨hobject, hfree⟩ := rollOne_spec hroll
    dsimp only
    split
    · exact ⟨hfits.counted, hfits.trigger, by dsimp only [PoolState.drawn]; omega⟩
    split
    · refine ⟨hfits.counted, fun hne => absurd rfl hne, ?_⟩
      dsimp only [PoolState.drawn]
      rw [if_pos rfl]
      split at hroom <;> omega
    next hother =>
    have hinactive := hfree.resolve_left hother
    have hnot : object.1 ∉ group.activeMembers round.state.data := by
      rw [mem_activeMembers, hinactive]
      exact fun hactive => Bool.false_ne_true hactive.2
    -- the object is activated
    have hdrawn : Counted group round.state.drawn := hfits.counted
    have hactivated : Counted group (round.state.drawn.activate kind object.1 poolId) :=
      hdrawn.activate hobject hinactive
    have hmembers : group.activeMembers
        (round.state.drawn.activate kind object.1 poolId).data =
          insert object.1 (group.activeMembers round.state.data) :=
      activeMembers_activate hobject round.state.drawn
    -- and spawned
    have hquiet := hspawn object hobject (round.state.drawn.activate kind object.1 poolId)
      (hmembers ▸ Finset.mem_insert_self _ _)
    have hspawned := hactivated.quiet hquiet
    have hcard : (group.activeMembers (spawn1Object object
        (round.state.drawn.activate kind object.1 poolId)).data).card =
          (group.activeMembers round.state.data).card + 1 := by
      rw [hquiet.1, hmembers, Finset.card_insert_of_notMem hnot]
    split
    next htrigger =>
      refine ⟨counted_despawnObject hdespawn hspawned _, fun hne => absurd rfl hne, ?_⟩
      have hmem : round.triggerFrom ∈ group.activeMembers (spawn1Object object
          (round.state.drawn.activate kind object.1 poolId)).data := by
        rw [hquiet.1, hmembers]
        exact Finset.mem_insert_of_mem (hfits.trigger htrigger).1
      rw [activeMembers_despawnObject hdespawn hspawned htrigger, Finset.card_erase_of_mem hmem,
        hcard, if_pos rfl]
      rw [if_neg htrigger] at hroom
      omega
    next htrigger =>
      refine ⟨hspawned, fun hne => absurd hne htrigger, ?_⟩
      dsimp only
      rw [hcard]
      omega

theorem Fits.iterate {limit start : Nat} (remaining : Nat) {round : Round}
    (hfits : Fits group limit start remaining round) :
    Fits group limit start 0
      ((group.spawnRound spawn1Object despawn1Object)^[remaining] round) := by
  induction remaining generalizing round with
  | zero => exact hfits
  | succ remaining ih =>
    rw [Function.iterate_succ_apply]
    exact ih (hfits.spawnRound hspawn hdespawn)

omit hspawn hdespawn in
/-- The number of rounds in 32 bits is what is free below the limit, or there are none. -/
theorem rounds_spec (limit : UInt32) {active : Nat} (hactive : active < 2 ^ 31)
    (triggerFrom : Nat) :
    (rounds limit active triggerFrom).toNat = 0 ∨
      active + (rounds limit active triggerFrom).toNat ≤
        limit.toNat + if triggerFrom = 0 then 0 else 1 := by
  unfold rounds
  simp only [Int.bmod_def]
  split
  next htrigger => split <;> omega
  next htrigger => split <;> omega

theorem spawnObject_counted (hcounted : Counted group state) (hfew : group.members.length < 2 ^ 31)
    (limit : UInt32) {triggerFrom : Nat}
    (htrigger : triggerFrom = 0 ∨ triggerFrom ∈ group.activeMembers state.data) :
    let after := group.spawnObject spawn1Object despawn1Object state limit triggerFrom
    Counted group after ∧ WithinLimit group limit state after := by
  intro after
  have hactive : (group.activeMembers state.data).card < 2 ^ 31 := by
    refine lt_of_le_of_lt ((Finset.card_filter_le _ _).trans (List.toFinset_card_le _)) ?_
    rw [List.length_map]
    exact hfew
  set active := (group.activeMembers state.data).card with hcard
  set count := (rounds limit active triggerFrom).toNat with hcount
  have hafter : after = ((group.spawnRound spawn1Object despawn1Object)^[count]
      { state := state, triggerFrom := triggerFrom, lastDespawned := 0 }).state := by
    unfold after PoolGroup.spawnObject
    rw [hcounted]
  rcases Nat.eq_zero_or_pos count with hnone | hsome
  · have hsame : after = state := by
      rw [hafter, hnone]
      rfl
    rw [hsame]
    exact ⟨hcounted, (Nat.lt_or_ge limit.toNat active).symm.imp_right fun hover => ⟨hover, rfl⟩⟩
  · have hroom := (rounds_spec limit hactive triggerFrom).resolve_left (Nat.ne_of_gt hsome)
    have hfits : Fits group limit.toNat active count
        { state := state, triggerFrom := triggerFrom, lastDespawned := 0 } :=
      ⟨hcounted, fun hne => ⟨htrigger.resolve_left hne, rfl⟩, hroom⟩
    have hdone := hfits.iterate hspawn hdespawn
    rw [hafter]
    refine ⟨hdone.counted, ?_⟩
    have hfree := hdone.room
    split at hfree
    · exact Or.inl hfree
    next hkept =>
      -- the trigger was never replaced, so nothing was spawned
      refine Or.inl ?_
      rw [(hdone.trigger hkept).2]
      split at hroom <;> omega

end Loops

/-! ## The groups of the pool manager -/

namespace PoolMgr

variable {mgr : PoolMgr}

/-- What happens below an active member is nothing to its siblings and its mother. -/
theorem SameOutside.quiet {child : Member mgr.rank .pool poolId} {after : PoolState}
    (hsame : mgr.SameOutside child.1 state after) (hapart : mgr.MembersApart poolId)
    (hactive : child.1 ∈ (mgr.group .pool poolId).activeMembers state.data)
    (hpresent : Present child.1 after) : Quiet (mgr.group .pool poolId) state after := by
  constructor
  · ext guid
    rw [mem_activeMembers, mem_activeMembers]
    refine and_congr_right fun hguid => ?_
    by_cases hself : guid = child.1
    · rw [hself]
      exact iff_of_true hpresent (mem_activeMembers.mp hactive).2
    · unfold ActivePoolData.isActiveObject
      dsimp only
      rw [hsame guid (hapart _ (mem_activeMembers.mp hactive).1 guid hguid hself)]
  · unfold ActivePoolData.getActiveObjectCount
    rw [hsame poolId (not_below_mother child)]

theorem spawn1Object_quietly (mgr : PoolMgr) (kind : Kind) (poolId : Nat)
    (hapart : kind = .pool → mgr.MembersApart poolId) :
    Quietly (mgr.group kind poolId) (mgr.spawn1Object kind) := by
  intro object hobject state hactive
  cases kind with
  | pool =>
    have hpresent : Present object.1 state := (mem_activeMembers.mp hactive).2
    exact (spawnPool_sameOutside mgr object.1 state).quiet (hapart rfl) hactive
      (spawnPool_present hpresent)
  | _ => exact ⟨rfl, rfl⟩

theorem despawn1Object_quietly (mgr : PoolMgr) (kind : Kind) (poolId : Nat)
    (hapart : kind = .pool → mgr.MembersApart poolId) :
    Quietly (mgr.group kind poolId) (mgr.despawn1Object kind) := by
  intro object hobject state hactive
  cases kind with
  | pool =>
    have hpresent : Present object.1 state := (mem_activeMembers.mp hactive).2
    exact (despawnPool_sameOutside mgr object.1 state).quiet (hapart rfl) hactive
      (despawnPool_present hpresent)
  | _ => exact ⟨rfl, rfl⟩

/-- Spawning fills a pool up to its limit at most and despawning empties it, and the counter of the
pool remains the number of its active members; among pools, where none is below another. -/
theorem occupancy (mgr : PoolMgr) (kind : Kind) (poolId : Nat)
    (hapart : kind = .pool → mgr.MembersApart poolId) (state : PoolState)
    (hcounted : Counted (mgr.group kind poolId) state) (limit : UInt32) (triggerFrom guid : Nat)
    (htrigger : triggerFrom = 0 ∨
      triggerFrom ∈ (mgr.group kind poolId).activeMembers state.data) :
    let group := mgr.group kind poolId
    let after := mgr.spawnObject kind poolId state limit triggerFrom
    WithinLimit group limit state after ∧ Counted group after ∧
      Counted group (mgr.despawnObject kind poolId state guid) := by
  have hquietly := mgr.despawn1Object_quietly kind poolId hapart
  have hspawned := spawnObject_counted (mgr.spawn1Object_quietly kind poolId hapart) hquietly
    hcounted (mgr.few kind poolId) limit htrigger
  exact ⟨hspawned.2, hspawned.1, counted_despawnObject hquietly hcounted guid⟩

def creature (rank : Nat → Nat) (poolId guid : Nat) : Member rank .creature poolId :=
  ⟨guid, fun hkind => Kind.noConfusion hkind⟩

def nestedGroup : ∀ kind poolId, PoolGroup (Member id kind poolId)
  | .creature, 1 => ⟨[], [creature id 1 11, creature id 1 12, creature id 1 13]⟩
  | .pool, 2 => ⟨[], [⟨1, fun _ => Nat.one_lt_two⟩]⟩
  | _, _ => ⟨[], []⟩

theorem nestedGroup_pool (hguid : guid ∈ (nestedGroup .pool poolId).guids) : poolId = 2 := by
  obtain ⟨object, hobject, -⟩ := mem_guids.mp hguid
  match poolId, object, hobject with
  | 2, _, _ => rfl

def nestedPools : PoolMgr where
  maxLimit _ := 2
  rank := id
  group := nestedGroup
  few kind poolId := by
    unfold nestedGroup
    split
    · decide
    · decide
    · exact Nat.two_pow_pos 31

def oneSpawned : PoolState where
  data :=
    { spawnedCreatures := {11}, spawnedGameobjects := ∅, activeQuests := ∅
      spawnedPools := fun poolId => if poolId = 1 ∨ poolId = 2 then some 1 else none }
  outcomes n := { threshold := n, index := n, rows := [] }

theorem occupancy_nestedPools :
    let group := nestedPools.group .pool 2
    let after := nestedPools.spawnObject .pool 2 oneSpawned 1 1
    WithinLimit group 1 oneSpawned after ∧ Counted group after ∧
      Counted group (nestedPools.despawnObject .pool 2 oneSpawned 0) :=
  occupancy nestedPools .pool 2
    (fun _ => membersApart_of_oneMother fun _ _ _ hmember => nestedGroup_pool hmember) oneSpawned
    (by unfold Counted; decide) 1 1 0 (Or.inr (by decide))

/-- Pool 1 is in pool 2, and both are in pool 3. -/
def sharedGroup : ∀ kind poolId, PoolGroup (Member id kind poolId)
  | .pool, 2 => ⟨[], [⟨1, fun _ => Nat.one_lt_two⟩]⟩
  | .pool, 3 => ⟨[], [⟨1, fun _ => (by decide : 1 < 3)⟩, ⟨2, fun _ => (by decide : 2 < 3)⟩]⟩
  | _, _ => ⟨[], []⟩

def sharedPools : PoolMgr where
  maxLimit _ := 1
  rank := id
  group := sharedGroup
  few kind poolId := by
    unfold sharedGroup
    split
    · decide
    · decide
    · exact Nat.two_pow_pos 31

/-- The second of two members is rolled. -/
def noneSpawned : PoolState where
  data :=
    { spawnedCreatures := ∅, spawnedGameobjects := ∅, activeQuests := ∅
      spawnedPools := fun _ => none }
  outcomes _ := { threshold := 0, index := 1, rows := [] }

/-- Pool 2 is spawned in pool 3, and pool 1 in pool 2: two members of pool 3 are active, and its
counter is 1. -/
theorem not_always_occupancy :
    ¬∀ (mgr : PoolMgr) (kind : Kind) (poolId : Nat) (state : PoolState),
      Counted (mgr.group kind poolId) state → ∀ (limit : UInt32) (triggerFrom : Nat),
      (triggerFrom = 0 ∨ triggerFrom ∈ (mgr.group kind poolId).activeMembers state.data) →
      let group := mgr.group kind poolId
      let after := mgr.spawnObject kind poolId state limit triggerFrom
      WithinLimit group limit state after ∧ Counted group after := by
  intro hall
  have hcounted := (hall sharedPools .pool 3 noneSpawned (by unfold Counted; decide) 1 0
    (Or.inl rfl)).2
  exact absurd hcounted (by unfold Counted; decide +kernel)

end PoolMgr

end MopServer.Pools
