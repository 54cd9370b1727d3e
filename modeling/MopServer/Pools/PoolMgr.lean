import Mathlib.Data.Finset.Sort
import Mathlib.Data.Int.DivMod
import Mathlib.Data.List.GetD
import Mathlib.Data.UInt

/-! # Pools

A pool spawns some of its members at a time: creatures, gameobjects, quests or pools of its own.
Which ones is left to chance; one counter per pool tells how many of its members are active.
-/

namespace MopServer.Pools

inductive Kind
  | creature
  | gameobject
  | pool
  | quest
  deriving DecidableEq

/-- The active objects, and for the active pools how many of their members are active. -/
structure ActivePoolData where
  spawnedCreatures : Finset Nat
  spawnedGameobjects : Finset Nat
  activeQuests : Finset Nat
  spawnedPools : Nat → Option Nat

namespace ActivePoolData

variable (data : ActivePoolData)

def getActiveObjectCount (poolId : Nat) : Nat := (data.spawnedPools poolId).getD 0

/-- A pool is active once it has an entry among the counters. -/
def isActiveObject : Kind → Nat → Bool
  | .creature, guid => guid ∈ data.spawnedCreatures
  | .gameobject, guid => guid ∈ data.spawnedGameobjects
  | .pool, guid => (data.spawnedPools guid).isSome
  | .quest, guid => guid ∈ data.activeQuests

def modifyCount (poolId : Nat) (f : Nat → Nat) : ActivePoolData :=
  { data with spawnedPools :=
      Function.update data.spawnedPools poolId (some (f (data.getActiveObjectCount poolId))) }

def activateObject (kind : Kind) (guid poolId : Nat) : ActivePoolData :=
  let data :=
    match kind with
    | .creature => { data with spawnedCreatures := insert guid data.spawnedCreatures }
    | .gameobject => { data with spawnedGameobjects := insert guid data.spawnedGameobjects }
    | .pool => { data with spawnedPools := Function.update data.spawnedPools guid (some 0) }
    | .quest => { data with activeQuests := insert guid data.activeQuests }
  data.modifyCount poolId (· + 1)

/-- The counter does not go below 0. -/
def removeObject (kind : Kind) (guid poolId : Nat) : ActivePoolData :=
  let data :=
    match kind with
    | .creature => { data with spawnedCreatures := data.spawnedCreatures.erase guid }
    | .gameobject => { data with spawnedGameobjects := data.spawnedGameobjects.erase guid }
    | .pool => { data with spawnedPools := Function.update data.spawnedPools guid none }
    | .quest => { data with activeQuests := data.activeQuests.erase guid }
  data.modifyCount poolId (· - 1)

end ActivePoolData

/-- What one call takes from outside: the explicitly chanced entry from which on the running roll
is below zero, a random number, and the rows of a query for saved quests. -/
structure Outcome where
  threshold : Nat
  index : Nat
  rows : List Nat

/-- The spawn data, and what chance holds in store. -/
structure PoolState where
  data : ActivePoolData
  outcomes : Nat → Outcome

namespace PoolState

variable (state : PoolState)

def drawn : PoolState := { state with outcomes := fun n => state.outcomes (n + 1) }

def activate (kind : Kind) (guid poolId : Nat) : PoolState :=
  { state with data := state.data.activateObject kind guid poolId }

def remove (kind : Kind) (guid poolId : Nat) : PoolState :=
  { state with data := state.data.removeObject kind guid poolId }

end PoolState

/-- The members of one kind of a pool. -/
structure PoolGroup (Member : Type) where
  explicitlyChanced : List Member
  equalChanced : List Member

/-- A member of a pool; the ranks of pools go down from mother to child. -/
abbrev Member (rank : Nat → Nat) (kind : Kind) (poolId : Nat) :=
  { guid : Nat // kind = .pool → rank guid < rank poolId }

namespace PoolGroup

variable {rank : Nat → Nat} {kind : Kind} {poolId : Nat}
  (group : PoolGroup (Member rank kind poolId))

def isEmpty : Bool := group.explicitlyChanced.isEmpty && group.equalChanced.isEmpty

/-- In the order in which `despawnObject` visits them. -/
def members : List (Member rank kind poolId) := group.equalChanced ++ group.explicitlyChanced

def guids : Finset Nat := (group.members.map Subtype.val).toFinset

/-- The triggering object counts as active and can be rolled. -/
def rollable (data : ActivePoolData) (triggerFrom : Nat) (object : Member rank kind poolId) : Bool :=
  object.1 = triggerFrom || !data.isActiveObject kind object.1

/-- `RollOne`. -/
def rollOne (state : PoolState) (triggerFrom : Nat) : Option (Member rank kind poolId) :=
  let outcome := state.outcomes 0
  match (group.explicitlyChanced.drop outcome.threshold).find? (rollable state.data triggerFrom) with
  | some object => some object
  | none =>
    (group.equalChanced[outcome.index % group.equalChanced.length]?).filter
      (rollable state.data triggerFrom)

variable (despawn1Object : Member rank kind poolId → PoolState → PoolState)

/-- The loop body of `DespawnObject`, with the `Despawn1Object` of the kind. -/
def despawnMember (guid : Nat) (state : PoolState) (object : Member rank kind poolId) : PoolState :=
  if state.data.isActiveObject kind object.1 && (guid = 0 || object.1 = guid) then
    (despawn1Object object state).remove kind object.1 poolId
  else state

/-- `DespawnObject`. -/
def despawnObject (state : PoolState) (guid : Nat) : PoolState :=
  group.members.foldl (despawnMember despawn1Object guid) state

/-- What `SpawnObject` keeps from round to round. -/
structure Round where
  state : PoolState
  triggerFrom : Nat
  lastDespawned : Nat

variable (spawn1Object despawn1Object : Member rank kind poolId → PoolState → PoolState)

/-- The loop body of `SpawnObject`. -/
def spawnRound (round : Round) : Round :=
  let state := round.state.drawn
  match group.rollOne round.state round.triggerFrom with
  | none => { round with state := state }
  | some object =>
    if object.1 = round.lastDespawned then { round with state := state }
    else if object.1 = round.triggerFrom then { round with state := state, triggerFrom := 0 }
    else
      let state := spawn1Object object (state.activate kind object.1 poolId)
      if round.triggerFrom ≠ 0 then
        { state := group.despawnObject despawn1Object state round.triggerFrom
          triggerFrom := 0, lastDespawned := round.triggerFrom }
      else { round with state := state }

/-- The number of rounds, computed in 32 bits. -/
def rounds (limit : UInt32) (active triggerFrom : Nat) : Int :=
  let count := Int.bmod (limit.toNat - active) (2 ^ 32)
  if triggerFrom ≠ 0 then Int.bmod (count + 1) (2 ^ 32) else count

/-- `SpawnObject`, with what spawning and despawning one object of the kind does. -/
def spawnObject (state : PoolState) (limit : UInt32) (triggerFrom : Nat) : PoolState :=
  let count := rounds limit (state.data.getActiveObjectCount poolId) triggerFrom
  ((group.spawnRound spawn1Object despawn1Object)^[count.toNat]
    { state := state, triggerFrom := triggerFrom, lastDespawned := 0 }).state

end PoolGroup

/-! ## Quests -/

/-- `SelectRandomContainerElement`. -/
def selectRandom (quests : Finset Nat) (index : Nat) : Nat :=
  (quests.sort (· ≤ ·)).getD (index % quests.card) 0

theorem selectRandom_mem {quests : Finset Nat} (hquests : quests.Nonempty) (index : Nat) :
    selectRandom quests index ∈ quests := by
  have hlt : index % quests.card < (quests.sort (· ≤ ·)).length := by
    rw [Finset.length_sort]
    exact Nat.mod_lt _ hquests.card_pos
  unfold selectRandom
  rw [List.getD_eq_getElem _ _ hlt]
  exact (Finset.mem_sort (· ≤ ·)).mp (List.getElem_mem hlt)

def loadQuests (poolId : Nat) : List Nat → UInt32 → PoolState → PoolState
  | [], _, state => state
  | questId :: rest, limit, state =>
    let state := state.activate .quest questId poolId
    let limit := limit - 1
    if limit ≠ 0 then loadQuests poolId rest limit state else state

/-- Active quests fill up what is missing to the limit. -/
def recycleQuests (limit : UInt32) (newQuests currentQuests : Finset Nat) (state : PoolState) :
    Finset Nat × PoolState :=
  if _hquests : currentQuests.Nonempty then
    let questId := selectRandom currentQuests (state.outcomes 0).index
    if newQuests.card < limit.toNat then
      recycleQuests limit (insert questId newQuests) (currentQuests.erase questId) state.drawn
    else (newQuests, state)
  else (newQuests, state)
termination_by currentQuests.card
decreasing_by exact Finset.card_erase_lt_of_mem (selectRandom_mem _hquests _)

def activateQuests (poolId : Nat) (limit : UInt32) (newQuests : Finset Nat) (state : PoolState) :
    PoolState :=
  if hquests : newQuests.Nonempty then
    let questId := selectRandom newQuests (state.outcomes 0).index
    let state := state.drawn.activate .quest questId poolId
    let limit := limit - 1
    if limit ≠ 0 then activateQuests poolId limit (newQuests.erase questId) state else state
  else state
termination_by newQuests.card
decreasing_by exact Finset.card_erase_lt_of_mem (selectRandom_mem hquests _)

namespace PoolGroup

variable {rank : Nat → Nat} {poolId : Nat} (group : PoolGroup (Member rank .quest poolId))

/-- `SpawnObject` of quests: without a trigger the saved quests come first. -/
def spawnQuests (state : PoolState) (limit : UInt32) (triggerFrom : Nat) : PoolState :=
  let rows := if triggerFrom = 0 then (state.outcomes 0).rows else []
  let state := if triggerFrom = 0 then state.drawn else state
  if rows ≠ [] then loadQuests poolId rows limit state
  else
    let currentQuests := state.data.activeQuests
    let newQuests := (group.equalChanced.map Subtype.val).toFinset \ currentQuests
    let state := group.despawnObject (fun _ state => state) state 0
    let recycled := recycleQuests limit newQuests currentQuests state
    activateQuests poolId limit recycled.1 recycled.2

end PoolGroup

/-! ## The pool manager -/

/-- The pools as they are loaded, without a circle of mothers; a pool may be in several pools.  The
index of a member is an `int32`. -/
structure PoolMgr where
  maxLimit : Nat → UInt32
  rank : Nat → Nat
  group : ∀ kind poolId, PoolGroup (Member rank kind poolId)
  few : ∀ kind poolId, (group kind poolId).members.length < 2 ^ 31

namespace PoolMgr

variable (mgr : PoolMgr)

/-- `DespawnPool`. -/
def despawnPool (poolId : Nat) (state : PoolState) : PoolState :=
  let state := (mgr.group .creature poolId).despawnObject (fun _ state => state) state 0
  let state := (mgr.group .gameobject poolId).despawnObject (fun _ state => state) state 0
  let state := (mgr.group .pool poolId).despawnObject
    (fun child state => despawnPool child.1 state) state 0
  (mgr.group .quest poolId).despawnObject (fun _ state => state) state 0
termination_by mgr.rank poolId
decreasing_by exact child.2 rfl

/-- `SpawnPool`; the groups of a pool are filled when they have members. -/
def spawnPool (poolId : Nat) (state : PoolState) : PoolState :=
  let limit := mgr.maxLimit poolId
  let state :=
    if (mgr.group .pool poolId).isEmpty then state
    else (mgr.group .pool poolId).spawnObject (fun child state => spawnPool child.1 state)
      (fun child => mgr.despawnPool child.1) state limit 0
  let state :=
    if (mgr.group .gameobject poolId).isEmpty then state
    else (mgr.group .gameobject poolId).spawnObject (fun _ state => state) (fun _ state => state)
      state limit 0
  let state :=
    if (mgr.group .creature poolId).isEmpty then state
    else (mgr.group .creature poolId).spawnObject (fun _ state => state) (fun _ state => state)
      state limit 0
  if (mgr.group .quest poolId).isEmpty then state
  else (mgr.group .quest poolId).spawnQuests state limit 0
termination_by mgr.rank poolId
decreasing_by exact child.2 rfl

/-- `Spawn1Object`, as far as the spawn data goes. -/
def spawn1Object {poolId : Nat} : (kind : Kind) → Member mgr.rank kind poolId → PoolState → PoolState
  | .pool, child, state => mgr.spawnPool child.1 state
  | _, _, state => state

/-- `Despawn1Object`, as far as the spawn data goes. -/
def despawn1Object {poolId : Nat} :
    (kind : Kind) → Member mgr.rank kind poolId → PoolState → PoolState
  | .pool, child, state => mgr.despawnPool child.1 state
  | _, _, state => state

/-- `SpawnObject` of a group of creatures, gameobjects or pools. -/
def spawnObject (kind : Kind) (poolId : Nat) (state : PoolState) (limit : UInt32)
    (triggerFrom : Nat) : PoolState :=
  (mgr.group kind poolId).spawnObject (mgr.spawn1Object kind) (mgr.despawn1Object kind) state limit
    triggerFrom

/-- `DespawnObject`. -/
def despawnObject (kind : Kind) (poolId : Nat) (state : PoolState) (guid : Nat) : PoolState :=
  (mgr.group kind poolId).despawnObject (mgr.despawn1Object kind) state guid

end PoolMgr

end MopServer.Pools
