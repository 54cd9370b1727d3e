import MopServer.Pools.Hierarchy
import MopServer.Pools.Loading

/-! # No circle of mothers is left

The walk from one pool ends without a circle, or at the pair that closes one; without that pair the
chain of mothers from the pool ends.  Taking further pairs out does not change that, so after all
walks every chain ends, and spawning a pool, which goes down from mothers to children, returns.
-/

namespace MopServer.Pools

open MopServer.Foundation

variable {Chance : Type} {floats : Floats Chance} {maxPoolId : Nat} {maxLimit : Nat → UInt32}
  {poolId : Nat}

namespace PoolPools

variable {pools : PoolPools Chance}

theorem IsMother.unique {child first second : Nat} (hfirst : pools.IsMother child first)
    (hsecond : pools.IsMother child second) : first = second :=
  (SearchPair.mk.inj (Option.some.inj (hfirst.symm.trans hsecond))).2

/-! ## One walk -/

theorem ends_of_next (hnext : ∀ mother, pools.IsMother poolId mother → Ends pools.IsMother mother) :
    Ends pools.IsMother poolId :=
  Acc.intro poolId hnext

theorem ends_removeRelation_self (pair : SearchPair) :
    Ends (pools.removeRelation pair).IsMother pair.child :=
  ends_of_next fun _ hmother => absurd rfl (isMother_removeRelation.mp hmother).1

theorem ends_removeRelation (hends : Ends pools.IsMother poolId) (pair : SearchPair) :
    Ends (pools.removeRelation pair).IsMother poolId := by
  induction hends with
  | intro poolId _ ih =>
    exact ends_of_next fun mother hmother => ih mother (isMother_removeRelation.mp hmother).2

/-- What the walk from a pool finds. -/
def Found (pools : PoolPools Chance) (checkedPools : Finset Nat) (poolId : Nat) :
    Option SearchPair → Prop
  | none => Ends pools.IsMother poolId
  | some pair =>
    pools.IsMother pair.child pair.mother ∧
      Relation.ReflTransGen pools.IsMother pair.mother pair.child ∧
      pair.child ∉ checkedPools ∧ Ends (pools.removeRelation pair).IsMother poolId

theorem closingPair_found {checkedPools : Finset Nat} (hnew : poolId ∉ checkedPools)
    (hreach : ∀ child ∈ checkedPools, Relation.ReflTransGen pools.IsMother child poolId) :
    Found pools checkedPools poolId (closingPair pools.searchMap checkedPools poolId hnew) := by
  fun_induction closingPair pools.searchMap checkedPools poolId hnew with
  | case1 checkedPools poolId hnew hnone =>
    refine ends_of_next fun mother hmother => ?_
    rw [IsMother, hnone] at hmother
    cases hmother
  | case2 checkedPools poolId hnew pair hpair hchecked =>
    obtain ⟨rfl, hmother⟩ := exists_isMother_of_get? hpair
    refine ⟨hmother, ?_, hnew, ends_removeRelation_self pair⟩
    rcases Finset.mem_insert.mp hchecked with heq | hmem
    · rw [heq]
    · exact hreach pair.mother hmem
  | case3 checkedPools poolId hnew pair hpair hchecked ih =>
    obtain ⟨rfl, hmother⟩ := exists_isMother_of_get? hpair
    have hfound := ih (fun child hchild => by
      rcases Finset.mem_insert.mp hchild with rfl | hmem
      · exact .single hmother
      · exact (hreach child hmem).tail hmother)
    cases hclosing : closingPair pools.searchMap (insert pair.child checkedPools) pair.mother
        hchecked with
    | none =>
      rw [hclosing] at hfound
      exact ends_of_next fun mother hother => hmother.unique hother ▸ hfound
    | some closing =>
      rw [hclosing] at hfound
      obtain ⟨hclosingMother, hcycle, hunchecked, hends⟩ := hfound
      refine ⟨hclosingMother, hcycle, fun hmem => hunchecked (Finset.mem_insert_of_mem hmem),
        ends_of_next fun mother hother => ?_⟩
      exact hmother.unique (isMother_removeRelation.mp hother).2 ▸ hends

/-! ## All walks -/

variable {loaded : PoolPools Chance}

/-- What the check keeps, and what it has achieved for the first pools. -/
structure Checked (loaded pools : PoolPools Chance) (maxPoolId first : Nat) : Prop where
  agrees : pools.Agrees
  inRange : pools.InRange maxPoolId
  subset : ∀ child mother, pools.IsMother child mother → loaded.IsMother child mother
  onCycle : ∀ child mother, loaded.IsMother child mother → ¬ pools.IsMother child mother →
    Relation.ReflTransGen loaded.IsMother mother child
  ends : ∀ poolId < first, Ends pools.IsMother poolId

theorem Checked.checkFrom {first : Nat} (hchecked : Checked loaded pools maxPoolId first) :
    Checked loaded (pools.checkFrom first) maxPoolId (first + 1) := by
  have hfound : Found pools ∅ first (closingPair pools.searchMap ∅ first _) :=
    closingPair_found (Finset.notMem_empty first)
      fun child hchild => absurd hchild (Finset.notMem_empty child)
  unfold PoolPools.checkFrom
  cases hclosing : closingPair pools.searchMap ∅ first (Finset.notMem_empty first) with
  | none =>
    rw [hclosing] at hfound
    refine { hchecked with ends := fun poolId hpoolId => ?_ }
    rcases Nat.lt_succ_iff_lt_or_eq.mp hpoolId with hlt | rfl
    · exact hchecked.ends poolId hlt
    · exact hfound
  | some pair =>
    rw [hclosing] at hfound
    obtain ⟨hmother, hcycle, -, hends⟩ := hfound
    refine ⟨agrees_removeRelation hchecked.agrees hmother, ?_, ?_, ?_, ?_⟩
    · exact fun child mother hother =>
        hchecked.inRange child mother (isMother_removeRelation.mp hother).2
    · exact fun child mother hother =>
        hchecked.subset child mother (isMother_removeRelation.mp hother).2
    · intro child mother hloaded hgone
      by_cases hstill : pools.IsMother child mother
      · have hchild : child = pair.child := by
          by_contra hne
          exact hgone (isMother_removeRelation.mpr ⟨hne, hstill⟩)
        subst hchild
        obtain rfl := hmother.unique hstill
        exact Relation.ReflTransGen.mono hchecked.subset _ _ hcycle
      · exact hchecked.onCycle child mother hloaded hstill
    · intro poolId hpoolId
      rcases Nat.lt_succ_iff_lt_or_eq.mp hpoolId with hlt | rfl
      · exact ends_removeRelation (hchecked.ends poolId hlt) pair
      · exact hends

theorem checked_checkCircular (hagrees : pools.Agrees) (hrange : pools.InRange maxPoolId)
    (first : Nat) : Checked pools (pools.checkCircular first) maxPoolId first := by
  induction first with
  | zero =>
    exact ⟨hagrees, hrange, fun _ _ hmother => hmother,
      fun _ _ hmother hgone => absurd hmother hgone, fun _ hlt => absurd hlt (Nat.not_lt_zero _)⟩
  | succ first ih =>
    rw [checkCircular, List.range_succ, List.foldl_append]
    exact ih.checkFrom

theorem Checked.cycleFree (hchecked : Checked loaded pools maxPoolId maxPoolId) :
    CycleFree pools.IsMother := by
  have hends : ∀ poolId, Ends pools.IsMother poolId := by
    intro poolId
    by_cases hlt : poolId < maxPoolId
    · exact hchecked.ends poolId hlt
    · refine ends_of_next fun mother hmother => hchecked.ends mother ?_
      obtain ⟨hbound, hchild, hne⟩ := hchecked.inRange poolId mother hmother
      omega
  exact fun poolId => (hends poolId).not_cycle

/-! ## Spawning -/

theorem exists_rank (hacyclic : CycleFree pools.IsMother) :
    ∃ rank : Nat → Nat, ∀ child mother, pools.IsMother child mother → rank child < rank mother := by
  refine hacyclic.exists_rank (pools.searchMap.rows.map SearchPair.child).toFinset ?_
  intro child mother hmother
  rw [List.mem_toFinset, List.mem_map]
  exact ⟨_, isMother_iff.mp hmother, rfl⟩

end PoolPools

namespace PoolGroup

variable {rank : Nat → Nat}

def ranked {poolId : Nat} (group : PoolGroup (PoolObject Chance))
    (hrank : ∀ child ∈ group.children, rank child < rank poolId) :
    PoolGroup (Member rank .pool poolId) where
  explicitlyChanced := group.explicitlyChanced.attach.map fun object =>
    ⟨object.1.guid, fun _ => hrank _ (List.mem_append_left _ (List.mem_map_of_mem object.2))⟩
  equalChanced := group.equalChanced.attach.map fun object =>
    ⟨object.1.guid, fun _ => hrank _ (List.mem_append_right _ (List.mem_map_of_mem object.2))⟩

def reranked {other : Nat → Nat} {kind : Kind} {poolId : Nat} (hkind : kind ≠ .pool)
    (group : PoolGroup (Member rank kind poolId)) : PoolGroup (Member other kind poolId) where
  explicitlyChanced := group.explicitlyChanced.map fun object =>
    ⟨object.1, fun hpool => absurd hpool hkind⟩
  equalChanced := group.equalChanced.map fun object => ⟨object.1, fun hpool => absurd hpool hkind⟩

def lists {kind : Kind} {poolId : Nat} (group : PoolGroup (Member rank kind poolId)) :
    List Nat × List Nat :=
  (group.explicitlyChanced.map Subtype.val, group.equalChanced.map Subtype.val)

section

variable {rank other : Nat → Nat} {kind : Kind} {poolId : Nat}

theorem lists_ranked (group : PoolGroup (PoolObject Chance))
    (hrank : ∀ child ∈ group.children, rank child < rank poolId) :
    (group.ranked hrank).lists =
      (group.explicitlyChanced.map PoolObject.guid, group.equalChanced.map PoolObject.guid) := by
  have hattach : ∀ objects : List (PoolObject Chance),
      objects.attach.map (fun object => object.1.guid) = objects.map PoolObject.guid :=
    fun _ => List.attach_map_val
  simp only [lists, ranked, List.map_map, Function.comp_def, hattach]

theorem lists_reranked (hkind : kind ≠ .pool) (group : PoolGroup (Member rank kind poolId)) :
    (group.reranked hkind : PoolGroup (Member other kind poolId)).lists = group.lists := by
  simp only [lists, reranked, List.map_map, Function.comp_def]

theorem mem_guids_iff_lists {guid : Nat} {group : PoolGroup (Member rank kind poolId)} :
    guid ∈ group.guids ↔ guid ∈ group.lists.2 ++ group.lists.1 := by
  rw [guids, members, List.mem_toFinset, List.map_append]
  rfl

theorem length_members_eq (group : PoolGroup (Member rank kind poolId)) :
    group.members.length = group.lists.2.length + group.lists.1.length := by
  simp only [members, lists, List.length_append, List.length_map]

end

end PoolGroup

namespace PoolPools

variable {pools : PoolPools Chance}

/-- A pool manager with these pools of pools, and otherwise the limits and the members of
another. -/
structure Runs (pools : PoolPools Chance) (other mgr : PoolMgr) : Prop where
  maxLimit : mgr.maxLimit = other.maxLimit
  pool : ∀ poolId, (mgr.group .pool poolId).lists =
    ((pools.groups poolId).explicitlyChanced.map PoolObject.guid,
      (pools.groups poolId).equalChanced.map PoolObject.guid)
  others : ∀ kind poolId, kind ≠ .pool →
    (mgr.group kind poolId).lists = (other.group kind poolId).lists

def rankedGroups (pools : PoolPools Chance) (other : PoolMgr) {rank : Nat → Nat}
    (hrank : ∀ poolId, ∀ child ∈ (pools.groups poolId).children, rank child < rank poolId) :
    ∀ kind poolId, PoolGroup (Member rank kind poolId)
  | .creature, poolId => (other.group .creature poolId).reranked (by decide)
  | .gameobject, poolId => (other.group .gameobject poolId).reranked (by decide)
  | .pool, poolId => (pools.groups poolId).ranked (hrank poolId)
  | .quest, poolId => (other.group .quest poolId).reranked (by decide)

theorem lists_rankedGroups (other : PoolMgr) {rank : Nat → Nat}
    (hrank : ∀ poolId, ∀ child ∈ (pools.groups poolId).children, rank child < rank poolId)
    {kind : Kind} (hkind : kind ≠ .pool) (poolId : Nat) :
    (pools.rankedGroups other hrank kind poolId).lists = (other.group kind poolId).lists := by
  cases kind with
  | creature | gameobject => exact PoolGroup.lists_reranked hkind _
  | pool => exact absurd rfl hkind
  | quest => exact PoolGroup.lists_reranked hkind _

theorem mem_guids_rankedGroups (other : PoolMgr) {rank : Nat → Nat}
    (hrank : ∀ poolId, ∀ child ∈ (pools.groups poolId).children, rank child < rank poolId)
    {child : Nat} :
    child ∈ (pools.rankedGroups other hrank .pool poolId).guids ↔
      child ∈ (pools.groups poolId).children := by
  rw [PoolGroup.mem_guids_iff_lists, rankedGroups, PoolGroup.lists_ranked, PoolGroup.children,
    List.mem_append, List.mem_append, or_comm]

/-- A measure that every recursive call of `SpawnPool` and `DespawnPool` lowers. -/
theorem exists_rank_children (hagrees : pools.Agrees) (hacyclic : CycleFree pools.IsMother) :
    ∃ rank : Nat → Nat, ∀ poolId, ∀ child ∈ (pools.groups poolId).children,
      rank child < rank poolId := by
  obtain ⟨rank, hrank⟩ := exists_rank hacyclic
  exact ⟨rank, fun poolId child hchild =>
    hrank child poolId ((hagrees.mem_children child poolId).mp hchild)⟩

/-- Without circles there is such a manager: spawning and despawning pools recurse on its ranks, and
no member of a pool is below another. -/
theorem exists_runs (hagrees : pools.Agrees) (hacyclic : CycleFree pools.IsMother)
    (hfew : ∀ poolId, (pools.groups poolId).children.length < 2 ^ 31) (other : PoolMgr) :
    ∃ mgr, Runs pools other mgr ∧ ∀ poolId, mgr.MembersApart poolId := by
  obtain ⟨rank, hchildren⟩ := exists_rank_children hagrees hacyclic
  refine ⟨⟨other.maxLimit, rank, pools.rankedGroups other hchildren, fun kind poolId => ?_⟩,
    ⟨rfl, fun poolId => PoolGroup.lists_ranked _ (hchildren poolId),
      fun kind poolId hkind => lists_rankedGroups other hchildren hkind poolId⟩,
    fun poolId => PoolMgr.membersApart_of_oneMother fun child hchild mother hmother => ?_⟩
  · rw [PoolGroup.length_members_eq]
    by_cases hpool : kind = .pool
    · subst hpool
      have hlength := hfew poolId
      rw [PoolGroup.children, List.length_append] at hlength
      rw [rankedGroups, PoolGroup.lists_ranked]
      dsimp only
      omega
    · rw [lists_rankedGroups other hchildren hpool, ← PoolGroup.length_members_eq]
      exact other.few kind poolId
  · rw [mem_guids_rankedGroups, hagrees.mem_children] at hchild hmother
    exact hmother.unique hchild

/-- From rows in which no child occurs twice, loading takes out only pairs on circles, and leaves
no circle; the groups have the members that the map says.  From a pool to its members a rank goes
down, so a manager with these groups can spawn and despawn every pool. -/
theorem load_breaksCircles (floats : Floats Chance) (maxPoolId : Nat) (maxLimit : Nat → UInt32)
    (rows : List (PoolPoolRow Chance)) (hnodup : (rows.map PoolPoolRow.poolId).Nodup) :
    let loaded := addRows floats maxPoolId maxLimit rows
    let pools := load floats maxPoolId maxLimit rows
    CycleFree pools.IsMother ∧ pools.Agrees ∧
      (∀ child mother, pools.IsMother child mother → loaded.IsMother child mother) ∧
      (∀ child mother, loaded.IsMother child mother → ¬ pools.IsMother child mother →
        Relation.ReflTransGen loaded.IsMother mother child) ∧
      (∃ rank : Nat → Nat, ∀ poolId, ∀ child ∈ (pools.groups poolId).children,
        rank child < rank poolId) ∧
      ((∀ poolId, (pools.groups poolId).children.length < 2 ^ 31) →
        ∀ other, ∃ mgr, Runs pools other mgr ∧ ∀ poolId, mgr.MembersApart poolId) := by
  intro loaded pools
  obtain ⟨hagrees, hrange⟩ := agrees_addRows floats maxPoolId maxLimit rows hnodup
  have hchecked : Checked loaded pools maxPoolId maxPoolId :=
    checked_checkCircular hagrees hrange maxPoolId
  exact ⟨hchecked.cycleFree, hchecked.agrees, hchecked.subset, hchecked.onCycle,
    exists_rank_children hchecked.agrees hchecked.cycleFree,
    exists_runs hchecked.agrees hchecked.cycleFree⟩

def percent : Floats Int where
  fabs chance := chance.natAbs
  negative chance := chance < 0
  isExcessive chance := 100 < chance
  isZero chance := chance = 0

/-- A pool below a circle of two. -/
def circularRows : List (PoolPoolRow Int) :=
  [⟨1, 2, 0⟩, ⟨2, 3, 50⟩, ⟨3, 2, 0⟩]

theorem load_breaksCircles_two :
    CycleFree (load percent 3 (fun _ => 1) circularRows).IsMother :=
  (load_breaksCircles percent 3 (fun _ => 1) circularRows (by decide)).1

end PoolPools

end MopServer.Pools
