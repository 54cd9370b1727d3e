import MopServer.Foundation.References
import MopServer.Foundation.Table
import MopServer.Pools.PoolMgr

/-! # Loading the pools of pools

A row puts a pool into the group of its mother and into the map from children to mothers.  When all
rows are there, the chain of mothers of every pool is walked, and the last link of a circle is taken
out of both.
-/

namespace MopServer.Pools

open MopServer.Foundation

/-- What is computed of a chance in floating point. -/
structure Floats (Chance : Type) where
  fabs : Chance → Chance
  negative : Chance → Bool
  /-- Above 100. -/
  isExcessive : Chance → Bool
  isZero : Chance → Bool

/-- A row of `pool_pool`. -/
structure PoolPoolRow (Chance : Type) where
  poolId : Nat
  motherPool : Nat
  chance : Chance

structure PoolObject (Chance : Type) where
  guid : Nat
  chance : Chance

/-- A child and its mother. -/
structure SearchPair where
  child : Nat
  mother : Nat
  deriving DecidableEq

instance instKeyedSearchPair : Keyed SearchPair Nat := ⟨SearchPair.child⟩

/-- `mPoolPoolGroups` and `mPoolSearchMap`. -/
structure PoolPools (Chance : Type) where
  groups : Nat → PoolGroup (PoolObject Chance)
  searchMap : Table SearchPair

variable {Chance : Type} (floats : Floats Chance)

namespace PoolGroup

/-- `AddEntry`. -/
def addEntry (object : PoolObject Chance) (maxEntries : UInt32)
    (group : PoolGroup (PoolObject Chance)) : PoolGroup (PoolObject Chance) :=
  if !floats.isZero object.chance && maxEntries = 1 then
    { group with explicitlyChanced := group.explicitlyChanced ++ [object] }
  else { group with equalChanced := group.equalChanced ++ [object] }

/-- `RemoveOneRelation`: the first entry of the child in each list. -/
def removeOneRelation (childPoolId : Nat) (group : PoolGroup (PoolObject Chance)) :
    PoolGroup (PoolObject Chance) where
  explicitlyChanced := group.explicitlyChanced.eraseP fun object => object.guid = childPoolId
  equalChanced := group.equalChanced.eraseP fun object => object.guid = childPoolId

def children (group : PoolGroup (PoolObject Chance)) : List Nat :=
  group.explicitlyChanced.map PoolObject.guid ++ group.equalChanced.map PoolObject.guid

end PoolGroup

variable {pair : SearchPair} {child : Nat}

namespace PoolPools

def empty : PoolPools Chance := ⟨fun _ => ⟨[], []⟩, Table.empty⟩

variable (maxPoolId : Nat) (maxLimit : Nat → UInt32) (pools : PoolPools Chance)

def addRow (row : PoolPoolRow Chance) : PoolPools Chance :=
  if maxPoolId < row.motherPool then pools
  else if maxPoolId < row.poolId then pools
  else if row.motherPool = row.poolId then pools
  else if floats.negative row.chance || floats.isExcessive row.chance then pools
  else
    { groups := Function.update pools.groups row.motherPool
        ((pools.groups row.motherPool).addEntry floats ⟨row.poolId, floats.fabs row.chance⟩
          (maxLimit row.motherPool))
      searchMap :=
        if (pools.searchMap.get? row.poolId).isSome then pools.searchMap
        else pools.searchMap.insert ⟨row.poolId, row.motherPool⟩ (.sorted _) }

def unchecked (searchMap : Table SearchPair) (checkedPools : Finset Nat) : Nat :=
  searchMap.rows.countP fun pair => pair.child ∉ checkedPools

theorem unchecked_lt {searchMap : Table SearchPair} {checkedPools : Finset Nat}
    (hpair : pair ∈ searchMap) (hnew : pair.child ∉ checkedPools) :
    unchecked searchMap (insert pair.child checkedPools) < unchecked searchMap checkedPools := by
  unfold unchecked
  rw [List.countP_eq_length_filter, List.countP_eq_length_filter]
  have hsublist : (searchMap.rows.filter fun other => other.child ∉ insert pair.child checkedPools)
      = (searchMap.rows.filter fun other => other.child ∉ checkedPools).filter
        fun other => other.child ≠ pair.child := by
    rw [List.filter_filter]
    congr 1
    funext other
    simp [Finset.mem_insert, not_or]
  rw [hsublist]
  refine List.length_filter_lt_length_iff_exists.mpr ⟨pair, ?_, by simp⟩
  exact List.mem_filter.mpr ⟨hpair, by simpa using hnew⟩

/-- The inner loop of the check: the pair that leads back to a pool walked through before. -/
def closingPair (searchMap : Table SearchPair) (checkedPools : Finset Nat) (poolId : Nat)
    (_hnew : poolId ∉ checkedPools) : Option SearchPair :=
  match _hpair : searchMap.get? poolId with
  | none => none
  | some pair =>
    if hchecked : pair.mother ∈ insert pair.child checkedPools then some pair
    else closingPair searchMap (insert pair.child checkedPools) pair.mother hchecked
termination_by unchecked searchMap checkedPools
decreasing_by
  obtain ⟨hmem, rfl⟩ := Table.get?_eq_some_iff.mp _hpair
  exact unchecked_lt hmem _hnew

def removeRelation (pair : SearchPair) : PoolPools Chance where
  groups := Function.update pools.groups pair.mother
    ((pools.groups pair.mother).removeOneRelation pair.child)
  searchMap := pools.searchMap.erase pair.child

def checkFrom (poolId : Nat) : PoolPools Chance :=
  match closingPair pools.searchMap ∅ poolId (Finset.notMem_empty _) with
  | none => pools
  | some pair => pools.removeRelation pair

/-- The check for circular references; it does not begin at the last pool. -/
def checkCircular : PoolPools Chance :=
  (List.range maxPoolId).foldl checkFrom pools

variable (rows : List (PoolPoolRow Chance))

def addRows : PoolPools Chance :=
  rows.foldl (addRow floats maxPoolId maxLimit) empty

/-- The pools of pools of `LoadFromDB`. -/
def load : PoolPools Chance :=
  checkCircular maxPoolId (addRows floats maxPoolId maxLimit rows)

/-- The mother that the map has for a child. -/
def IsMother (child mother : Nat) : Prop :=
  pools.searchMap.get? child = some ⟨child, mother⟩

/-- The groups have the members that the map says, each once. -/
structure Agrees (pools : PoolPools Chance) : Prop where
  mem_children : ∀ child mother,
    child ∈ (pools.groups mother).children ↔ pools.IsMother child mother
  nodup : ∀ mother, (pools.groups mother).children.Nodup

/-! ## The map and the groups agree -/

variable {pools : PoolPools Chance}

theorem isMother_iff {mother : Nat} :
    pools.IsMother child mother ↔ ⟨child, mother⟩ ∈ pools.searchMap := by
  unfold IsMother
  rw [Table.get?_eq_some_iff]
  exact and_iff_left rfl

theorem exists_isMother_of_get? (hpair : pools.searchMap.get? child = some pair) :
    pair.child = child ∧ pools.IsMother child pair.mother := by
  obtain ⟨hmem, rfl⟩ := Table.get?_eq_some_iff.mp hpair
  exact ⟨rfl, hpair⟩

theorem agrees_empty : (empty : PoolPools Chance).Agrees where
  mem_children child mother := by
    simp [empty, PoolGroup.children, IsMother, Table.empty, Table.get?]
  nodup _ := List.nodup_nil

end PoolPools

namespace PoolGroup

theorem perm_children_addEntry (object : PoolObject Chance) (maxEntries : UInt32)
    (group : PoolGroup (PoolObject Chance)) :
    (group.addEntry floats object maxEntries).children.Perm (object.guid :: group.children) := by
  unfold addEntry
  split
  · simp only [children, List.map_append, List.map_cons, List.map_nil, List.append_assoc,
      List.singleton_append]
    exact List.perm_middle
  · simp only [children, List.map_append, List.map_cons, List.map_nil, ← List.append_assoc]
    exact List.perm_append_singleton _ _

theorem map_guid_eraseP (objects : List (PoolObject Chance)) (childPoolId : Nat) :
    (objects.eraseP fun object => object.guid = childPoolId).map PoolObject.guid =
      (objects.map PoolObject.guid).erase childPoolId := by
  rw [List.erase_eq_eraseP, List.eraseP_map]
  congr 2
  funext object
  simp only [Function.comp_apply, eq_comm (a := childPoolId), beq_eq_decide]

theorem children_removeOneRelation {group : PoolGroup (PoolObject Chance)} (childPoolId : Nat)
    (hnodup : group.children.Nodup) :
    (group.removeOneRelation childPoolId).children =
      group.children.filter (· != childPoolId) := by
  unfold children at hnodup ⊢
  rw [List.nodup_append] at hnodup
  simp only [removeOneRelation, map_guid_eraseP]
  rw [hnodup.1.erase_eq_filter, hnodup.2.1.erase_eq_filter, List.filter_append]

end PoolGroup

namespace PoolPools

variable (maxPoolId : Nat) (maxLimit : Nat → UInt32) {pools : PoolPools Chance}
  {row : PoolPoolRow Chance}

/-- A row of a child that is not in the map yet is skipped, or it is put into both. -/
theorem addRow_cases (hfresh : pools.searchMap.get? row.poolId = none) :
    addRow floats maxPoolId maxLimit pools row = pools ∨
      (row.motherPool ≤ maxPoolId ∧ row.poolId ≤ maxPoolId ∧ row.motherPool ≠ row.poolId) ∧
        ∃ object : PoolObject Chance, object.guid = row.poolId ∧
          addRow floats maxPoolId maxLimit pools row =
            { groups := Function.update pools.groups row.motherPool
                ((pools.groups row.motherPool).addEntry floats object (maxLimit row.motherPool))
              searchMap := pools.searchMap.insert ⟨row.poolId, row.motherPool⟩ (.sorted _) } := by
  unfold addRow
  split
  · exact .inl rfl
  next hmother =>
    split
    · exact .inl rfl
    next hchild =>
      split
      · exact .inl rfl
      next hself =>
        split
        · exact .inl rfl
        · refine .inr ⟨⟨Nat.le_of_not_lt hmother, Nat.le_of_not_lt hchild, hself⟩,
            ⟨row.poolId, floats.fabs row.chance⟩, rfl, ?_⟩
          rw [hfresh, Option.isSome_none, if_neg Bool.false_ne_true]

/-- A pair that is put in is the only change to the mothers. -/
theorem get?_insert_pair (searchMap : Table SearchPair) (child mother other : Nat) :
    (searchMap.insert ⟨child, mother⟩ (.sorted _)).get? other =
      if other = child then some ⟨child, mother⟩ else searchMap.get? other :=
  searchMap.get?_insert ⟨child, mother⟩ _ other

theorem agrees_addRow (hagrees : pools.Agrees) (hfresh : pools.searchMap.get? row.poolId = none) :
    (addRow floats maxPoolId maxLimit pools row).Agrees := by
  rcases addRow_cases floats maxPoolId maxLimit hfresh with
    hsame | ⟨-, object, hguid, hadded⟩
  · rw [hsame]
    exact hagrees
  · rw [hadded]
    have hperm := PoolGroup.perm_children_addEntry floats object (maxLimit row.motherPool)
      (pools.groups row.motherPool)
    have hnone : ∀ mother, ¬ pools.IsMother row.poolId mother := by
      intro mother hmother
      rw [IsMother, hfresh] at hmother
      cases hmother
    constructor
    · intro child mother
      unfold IsMother
      simp only [get?_insert_pair]
      by_cases hchild : child = row.poolId
      · subst hchild
        rw [if_pos rfl, Option.some.injEq, SearchPair.mk.injEq]
        by_cases hmother : mother = row.motherPool
        · subst hmother
          rw [Function.update_self, hperm.mem_iff, hguid]
          simp
        · rw [Function.update_of_ne hmother, hagrees.mem_children]
          exact iff_of_false (hnone mother) fun heq => hmother heq.2.symm
      · rw [if_neg hchild]
        by_cases hmother : mother = row.motherPool
        · subst hmother
          rw [Function.update_self, hperm.mem_iff, hguid, List.mem_cons, or_iff_right hchild]
          exact hagrees.mem_children child row.motherPool
        · rw [Function.update_of_ne hmother]
          exact hagrees.mem_children child mother
    · intro mother
      dsimp only
      by_cases hmother : mother = row.motherPool
      · subst hmother
        rw [Function.update_self, hperm.nodup_iff, List.nodup_cons, hguid, hagrees.mem_children]
        exact ⟨hnone _, hagrees.nodup _⟩
      · rw [Function.update_of_ne hmother]
        exact hagrees.nodup mother

/-- Pools are within the bound, and none is its own mother. -/
def InRange (pools : PoolPools Chance) : Prop :=
  ∀ child mother, pools.IsMother child mother →
    mother ≤ maxPoolId ∧ child ≤ maxPoolId ∧ mother ≠ child

theorem inRange_addRow (hrange : pools.InRange maxPoolId)
    (hfresh : pools.searchMap.get? row.poolId = none) :
    (addRow floats maxPoolId maxLimit pools row).InRange maxPoolId := by
  rcases addRow_cases floats maxPoolId maxLimit hfresh with
    hsame | ⟨hrow, object, -, hadded⟩
  · rw [hsame]
    exact hrange
  · rw [hadded]
    intro child mother hmother
    simp only [IsMother, get?_insert_pair] at hmother
    split at hmother
    next hchild =>
      obtain ⟨-, rfl⟩ := SearchPair.mk.inj (Option.some.inj hmother)
      exact hchild ▸ hrow
    · exact hrange child mother hmother

theorem get?_addRow_of_ne {other : Nat} (hfresh : pools.searchMap.get? row.poolId = none)
    (hother : other ≠ row.poolId) :
    (addRow floats maxPoolId maxLimit pools row).searchMap.get? other =
      pools.searchMap.get? other := by
  rcases addRow_cases floats maxPoolId maxLimit hfresh with hsame | ⟨-, object, -, hadded⟩
  · rw [hsame]
  · rw [hadded, get?_insert_pair, if_neg hother]

/-- Rows of different children leave the map and the groups in agreement. -/
theorem agrees_addRows (rows : List (PoolPoolRow Chance))
    (hnodup : (rows.map PoolPoolRow.poolId).Nodup) :
    (addRows floats maxPoolId maxLimit rows).Agrees ∧
      (addRows floats maxPoolId maxLimit rows).InRange maxPoolId := by
  suffices hall : ∀ pools : PoolPools Chance, pools.Agrees → pools.InRange maxPoolId →
      (∀ row ∈ rows, pools.searchMap.get? row.poolId = none) →
      (rows.foldl (addRow floats maxPoolId maxLimit) pools).Agrees ∧
        (rows.foldl (addRow floats maxPoolId maxLimit) pools).InRange maxPoolId by
    exact hall empty agrees_empty (fun child mother hmother => by cases hmother) (fun row _ => rfl)
  induction rows with
  | nil => exact fun pools hagrees hrange _ => ⟨hagrees, hrange⟩
  | cons row rest ih =>
    intro pools hagrees hrange hfresh
    obtain ⟨hhead, htail⟩ := List.nodup_cons.mp hnodup
    have hrow := hfresh row List.mem_cons_self
    refine ih htail _ (agrees_addRow floats maxPoolId maxLimit hagrees hrow)
      (inRange_addRow floats maxPoolId maxLimit hrange hrow) fun other hother => ?_
    have hne : other.poolId ≠ row.poolId := fun heq => hhead (List.mem_map.mpr ⟨other, hother, heq⟩)
    rw [get?_addRow_of_ne floats maxPoolId maxLimit hrow hne]
    exact hfresh other (List.mem_cons_of_mem _ hother)

/-! ## Taking a relation out -/

theorem isMother_removeRelation {mother : Nat} :
    (pools.removeRelation pair).IsMother child mother ↔
      child ≠ pair.child ∧ pools.IsMother child mother := by
  unfold IsMother
  rw [removeRelation, Table.get?_erase]
  split
  next hchild => simp [hchild]
  next hchild => simp [hchild]

theorem groups_removeRelation (pair : SearchPair) (mother : Nat) :
    (pools.removeRelation pair).groups mother =
      if mother = pair.mother then (pools.groups mother).removeOneRelation pair.child
      else pools.groups mother := by
  split
  next hmother =>
    subst hmother
    exact Function.update_self ..
  next hmother => exact Function.update_of_ne hmother ..

theorem agrees_removeRelation (hagrees : pools.Agrees)
    (hpair : pools.IsMother pair.child pair.mother) : (pools.removeRelation pair).Agrees := by
  constructor
  · intro child mother
    rw [isMother_removeRelation, ← hagrees.mem_children, groups_removeRelation]
    split
    · rw [PoolGroup.children_removeOneRelation _ (hagrees.nodup _), List.mem_filter, and_comm]
      simp
    next hmother =>
      refine ⟨fun hmem => ⟨?_, hmem⟩, And.right⟩
      rintro rfl
      have hother := (hagrees.mem_children _ _).mp hmem
      exact hmother (SearchPair.mk.inj (Option.some.inj (hother.symm.trans hpair))).2
  · intro mother
    rw [groups_removeRelation]
    split
    · rw [PoolGroup.children_removeOneRelation _ (hagrees.nodup _)]
      exact (hagrees.nodup _).filter _
    · exact hagrees.nodup mother

end PoolPools

end MopServer.Pools
