import MopServer.Pools.PoolMgr
import Mathlib.Logic.Relation

/-! # What spawning a pool leaves alone

Spawning or despawning a pool touches the counters of that pool and of the pools below it, and no
other.  Its siblings are among those below it only where a pool is a member of several pools.
-/

namespace MopServer.Pools

open PoolGroup

/-! ## Groups -/

variable {state : PoolState} {motive : PoolState → Prop}

namespace PoolGroup

variable {rank : Nat → Nat} {kind : Kind} {poolId : Nat}
  {group : PoolGroup (Member rank kind poolId)}
  {spawn1Object despawn1Object : Member rank kind poolId → PoolState → PoolState}
  {object : Member rank kind poolId}

theorem mem_guids {guid : Nat} : guid ∈ group.guids ↔ ∃ object ∈ group.members, object.1 = guid := by
  unfold guids
  rw [List.mem_toFinset, List.mem_map]

theorem val_mem_guids (hobject : object ∈ group.members) : object.1 ∈ group.guids :=
  mem_guids.mpr ⟨object, hobject, rfl⟩

/-- A roll gives a member that is not active, or the trigger. -/
theorem rollOne_spec {triggerFrom : Nat} (hroll : group.rollOne state triggerFrom = some object) :
    object ∈ group.members ∧
      (object.1 = triggerFrom ∨ state.data.isActiveObject kind object.1 = false) := by
  have hrollable : rollable state.data triggerFrom object = true →
      object.1 = triggerFrom ∨ state.data.isActiveObject kind object.1 = false := by
    intro hrollable
    unfold rollable at hrollable
    simpa using hrollable
  unfold rollOne at hroll
  cases hfind : (group.explicitlyChanced.drop (state.outcomes 0).threshold).find?
      (rollable state.data triggerFrom) with
  | some found =>
    simp only [hfind, Option.some.injEq] at hroll
    subst hroll
    refine ⟨List.mem_append_right _ (List.mem_of_mem_drop (List.mem_of_find?_eq_some hfind)), ?_⟩
    exact hrollable (List.find?_some hfind)
  | none =>
    simp only [hfind, Option.filter_eq_some_iff] at hroll
    exact ⟨List.mem_append_left _ (List.mem_of_getElem? hroll.1), hrollable hroll.2⟩

/-- A property that every removal of a member keeps is kept by `despawnObject`. -/
theorem despawnObject_induction (hremove : ∀ object ∈ group.members, ∀ state, motive state →
      motive ((despawn1Object object state).remove kind object.1 poolId)) (hstate : motive state)
    (guid : Nat) : motive (group.despawnObject despawn1Object state guid) := by
  apply List.foldlRecOn group.members (despawnMember despawn1Object guid) hstate
  intro state hstate object hobject
  unfold despawnMember
  split
  · exact hremove object hobject state hstate
  · exact hstate

theorem spawnRound_induction (hdrawn : ∀ state, motive state → motive state.drawn)
    (hspawn : ∀ object ∈ group.members, ∀ state, motive state →
      motive (spawn1Object object (state.activate kind object.1 poolId)))
    (hremove : ∀ object ∈ group.members, ∀ state, motive state →
      motive ((despawn1Object object state).remove kind object.1 poolId)) {round : Round}
    (hround : motive round.state) :
    motive (group.spawnRound spawn1Object despawn1Object round).state := by
  unfold spawnRound
  cases hroll : group.rollOne round.state round.triggerFrom with
  | none => exact hdrawn _ hround
  | some object =>
    dsimp only
    split
    · exact hdrawn _ hround
    split
    · exact hdrawn _ hround
    have hspawned := hspawn object (rollOne_spec hroll).1 _ (hdrawn _ hround)
    split
    · exact despawnObject_induction hremove hspawned _
    · exact hspawned

/-- A property that every activation and every removal of a member keeps is kept by
`spawnObject`. -/
theorem spawnObject_induction (hdrawn : ∀ state, motive state → motive state.drawn)
    (hspawn : ∀ object ∈ group.members, ∀ state, motive state →
      motive (spawn1Object object (state.activate kind object.1 poolId)))
    (hremove : ∀ object ∈ group.members, ∀ state, motive state →
      motive ((despawn1Object object state).remove kind object.1 poolId)) (hstate : motive state)
    (limit : UInt32) (triggerFrom : Nat) :
    motive (group.spawnObject spawn1Object despawn1Object state limit triggerFrom) := by
  apply Function.Iterate.rec (fun round : Round => motive round.state) hstate
  exact fun round hround => spawnRound_induction hdrawn hspawn hremove hround

end PoolGroup

/-! ## Quests -/

variable {poolId : Nat}

theorem loadQuests_induction
    (hactivate : ∀ guid state, motive state → motive (state.activate .quest guid poolId))
    (rows : List Nat) (limit : UInt32) (hstate : motive state) :
    motive (loadQuests poolId rows limit state) := by
  induction rows generalizing limit state with
  | nil => exact hstate
  | cons questId rest ih =>
    unfold loadQuests
    dsimp only
    split
    · exact ih _ (hactivate questId state hstate)
    · exact hactivate questId state hstate

variable (hdrawn : ∀ state, motive state → motive state.drawn)

include hdrawn in
theorem recycleQuests_induction (limit : UInt32) (newQuests currentQuests : Finset Nat)
    (hstate : motive state) : motive (recycleQuests limit newQuests currentQuests state).2 := by
  induction newQuests, currentQuests, state using recycleQuests.induct limit with
  | case1 newQuests currentQuests state hquests questId hlt ih =>
    rw [recycleQuests, dif_pos hquests]
    rw [if_pos hlt]
    exact ih (hdrawn _ hstate)
  | case2 newQuests currentQuests state hquests hge =>
    rw [recycleQuests, dif_pos hquests]
    rw [if_neg hge]
    exact hstate
  | case3 newQuests currentQuests state hquests =>
    rw [recycleQuests, dif_neg hquests]
    exact hstate

include hdrawn in
theorem activateQuests_induction
    (hactivate : ∀ guid state, motive state → motive (state.activate .quest guid poolId))
    (limit : UInt32) (newQuests : Finset Nat) (hstate : motive state) :
    motive (activateQuests poolId limit newQuests state) := by
  induction limit, newQuests, state using activateQuests.induct poolId with
  | case1 limit newQuests state hquests questId next rest hrest ih =>
    rw [activateQuests, dif_pos hquests]
    rw [if_pos hrest]
    exact ih (hactivate _ _ (hdrawn _ hstate))
  | case2 limit newQuests state hquests rest hrest =>
    rw [activateQuests, dif_pos hquests]
    rw [if_neg hrest]
    exact hactivate _ _ (hdrawn _ hstate)
  | case3 limit newQuests state hquests =>
    rw [activateQuests, dif_neg hquests]
    exact hstate

include hdrawn in
theorem PoolGroup.spawnQuests_induction {rank : Nat → Nat}
    {group : PoolGroup (Member rank .quest poolId)}
    (hactivate : ∀ guid state, motive state → motive (state.activate .quest guid poolId))
    (hremove : ∀ guid state, motive state → motive (state.remove .quest guid poolId))
    (hstate : motive state) (limit : UInt32) (triggerFrom : Nat) :
    motive (group.spawnQuests state limit triggerFrom) := by
  unfold spawnQuests
  extract_lets rows queried currentQuests newQuests cleared recycled
  have hqueried : motive queried := by
    unfold queried
    split
    · exact hdrawn _ hstate
    · exact hstate
  split
  · exact loadQuests_induction hactivate rows limit hqueried
  · apply activateQuests_induction hdrawn hactivate
    apply recycleQuests_induction hdrawn
    exact despawnObject_induction (fun object _ state hstate => hremove object.1 state hstate)
      hqueried 0

/-! ## Pools below a pool -/

namespace PoolMgr

variable (mgr : PoolMgr)

/-- `below` is the pool itself or a pool under it. -/
def Below (poolId below : Nat) : Prop :=
  Relation.ReflTransGen (fun mother child => child ∈ (mgr.group .pool mother).guids) poolId below

variable {mgr} {poolId : Nat} {kind : Kind} {other : Nat} {start after : PoolState}
  {object : Member mgr.rank kind poolId}
  {despawn1Object : Member mgr.rank kind poolId → PoolState → PoolState}

theorem Below.rank_le {below : Nat} (hbelow : mgr.Below poolId below) :
    mgr.rank below ≤ mgr.rank poolId := by
  induction hbelow with
  | refl => exact Nat.le_refl _
  | tail _ hchild ih =>
    obtain ⟨child, -, rfl⟩ := mem_guids.mp hchild
    exact (child.2 rfl).le.trans ih

theorem Below.of_child {child : Member mgr.rank .pool poolId}
    (hchild : child ∈ (mgr.group .pool poolId).members) {below : Nat}
    (hbelow : mgr.Below child.1 below) : mgr.Below poolId below :=
  Relation.ReflTransGen.head (val_mem_guids hchild) hbelow

theorem not_below_mother (child : Member mgr.rank .pool poolId) : ¬mgr.Below child.1 poolId :=
  fun hbelow => absurd hbelow.rank_le (Nat.not_le.mpr (child.2 rfl))

variable (mgr poolId) in
/-- No pool of the group is below another one. -/
def MembersApart : Prop :=
  ∀ child ∈ (mgr.group .pool poolId).guids, ∀ sibling ∈ (mgr.group .pool poolId).guids,
    sibling ≠ child → ¬mgr.Below child sibling

/-- Where a pool is in one pool only, the members of a pool are apart. -/
theorem membersApart_of_oneMother (honly : ∀ child ∈ (mgr.group .pool poolId).guids, ∀ mother,
      child ∈ (mgr.group .pool mother).guids → mother = poolId) : mgr.MembersApart poolId := by
  intro child hchild sibling hsibling hne hbelow
  rcases Relation.ReflTransGen.cases_tail hbelow with heq | ⟨mother, habove, hmember⟩
  · exact hne heq
  · obtain rfl := honly sibling hsibling mother hmember
    obtain ⟨object, -, rfl⟩ := mem_guids.mp hchild
    exact not_below_mother object habove

/-- The counters of the other pools are as in another state. -/
def SameOutside (mgr : PoolMgr) (poolId : Nat) (start state : PoolState) : Prop :=
  ∀ other, ¬mgr.Below poolId other → state.data.spawnedPools other = start.data.spawnedPools other

theorem spawnedPools_activate (state : PoolState) (kind : Kind) (guid : Nat)
    (hpool : other ≠ poolId) (hguid : kind = .pool → other ≠ guid) :
    (state.activate kind guid poolId).data.spawnedPools other = state.data.spawnedPools other := by
  cases kind with
  | pool => exact (Function.update_of_ne hpool _ _).trans (Function.update_of_ne (hguid rfl) _ _)
  | _ => exact Function.update_of_ne hpool _ _

theorem spawnedPools_remove (state : PoolState) (kind : Kind) (guid : Nat) (hpool : other ≠ poolId)
    (hguid : kind = .pool → other ≠ guid) :
    (state.remove kind guid poolId).data.spawnedPools other = state.data.spawnedPools other := by
  cases kind with
  | pool => exact (Function.update_of_ne hpool _ _).trans (Function.update_of_ne (hguid rfl) _ _)
  | _ => exact Function.update_of_ne hpool _ _

theorem ne_of_not_below (hother : ¬mgr.Below poolId other) : other ≠ poolId :=
  fun heq => hother (heq ▸ Relation.ReflTransGen.refl)

variable (hsame : mgr.SameOutside poolId start state)
  (hobject : object ∈ (mgr.group kind poolId).members)

include hsame hobject in
theorem SameOutside.activate :
    mgr.SameOutside poolId start (state.activate kind object.1 poolId) := by
  intro other hother
  rw [spawnedPools_activate state kind object.1 (ne_of_not_below hother) ?_]
  · exact hsame other hother
  · rintro rfl rfl
    exact hother (Below.of_child hobject Relation.ReflTransGen.refl)

include hsame hobject in
theorem SameOutside.remove : mgr.SameOutside poolId start (state.remove kind object.1 poolId) := by
  intro other hother
  rw [spawnedPools_remove state kind object.1 (ne_of_not_below hother) ?_]
  · exact hsame other hother
  · rintro rfl rfl
    exact hother (Below.of_child hobject Relation.ReflTransGen.refl)

include hsame in
theorem SameOutside.child {child : Member mgr.rank .pool poolId}
    (hchild : child ∈ (mgr.group .pool poolId).members)
    (hafter : mgr.SameOutside child.1 state after) : mgr.SameOutside poolId start after := by
  intro other hother
  rw [hafter other fun hbelow => hother (Below.of_child hchild hbelow)]
  exact hsame other hother

theorem despawnObject_sameOutside (hdespawn : ∀ object ∈ (mgr.group kind poolId).members, ∀ state,
      mgr.SameOutside poolId start state →
        mgr.SameOutside poolId start (despawn1Object object state))
    (hsame : mgr.SameOutside poolId start state) (guid : Nat) :
    mgr.SameOutside poolId start
      ((mgr.group kind poolId).despawnObject despawn1Object state guid) :=
  despawnObject_induction (motive := mgr.SameOutside poolId start)
    (fun object hobject _ hstate => (hdespawn object hobject _ hstate).remove hobject) hsame guid

/-- By the rank of the pool: despawning it only counts the pools below. -/
theorem despawnPool_sameOutside (mgr : PoolMgr) (poolId : Nat) (state : PoolState) :
    mgr.SameOutside poolId state (mgr.despawnPool poolId state) := by
  rw [despawnPool]
  apply despawnObject_sameOutside fun _ _ _ hstate => hstate
  -- the pools in the pool, by induction on the rank
  apply despawnObject_sameOutside
  · exact fun child hchild middle hmiddle =>
      hmiddle.child hchild (despawnPool_sameOutside mgr child.1 middle)
  apply despawnObject_sameOutside fun _ _ _ hstate => hstate
  apply despawnObject_sameOutside fun _ _ _ hstate => hstate
  exact fun _ _ => rfl
termination_by mgr.rank poolId
decreasing_by exact child.2 rfl

theorem spawnObject_sameOutside {spawn1Object : Member mgr.rank kind poolId → PoolState → PoolState}
    (hspawn : ∀ object ∈ (mgr.group kind poolId).members, ∀ state,
      mgr.SameOutside poolId start state →
        mgr.SameOutside poolId start (spawn1Object object state))
    (hdespawn : ∀ object ∈ (mgr.group kind poolId).members, ∀ state,
      mgr.SameOutside poolId start state →
        mgr.SameOutside poolId start (despawn1Object object state))
    (hsame : mgr.SameOutside poolId start state) (limit : UInt32) (triggerFrom : Nat) :
    mgr.SameOutside poolId start
      ((mgr.group kind poolId).spawnObject spawn1Object despawn1Object state limit triggerFrom) :=
  spawnObject_induction (motive := mgr.SameOutside poolId start) (fun _ hstate => hstate)
    (fun object hobject _ hstate => hspawn object hobject _ (hstate.activate hobject))
    (fun object hobject _ hstate => (hdespawn object hobject _ hstate).remove hobject)
    hsame limit triggerFrom

include hsame in
theorem spawnQuests_sameOutside (limit : UInt32) (triggerFrom : Nat) :
    mgr.SameOutside poolId start
      ((mgr.group .quest poolId).spawnQuests state limit triggerFrom) := by
  refine spawnQuests_induction (fun _ hstate => hstate) (fun guid state hstate other hother => ?_)
    (fun guid state hstate other hother => ?_) hsame limit triggerFrom
  · rw [spawnedPools_activate state .quest guid (ne_of_not_below hother) (fun heq => by cases heq)]
    exact hstate other hother
  · rw [spawnedPools_remove state .quest guid (ne_of_not_below hother) (fun heq => by cases heq)]
    exact hstate other hother

theorem sameOutside_ite {isEmpty : Bool}
    (hafter : mgr.SameOutside poolId start state → mgr.SameOutside poolId start after)
    (hsame : mgr.SameOutside poolId start state) :
    mgr.SameOutside poolId start (if isEmpty = true then state else after) := by
  split
  · exact hsame
  · exact hafter hsame

/-- Spawning a pool only counts the pools below. -/
theorem spawnPool_sameOutside (mgr : PoolMgr) (poolId : Nat) (state : PoolState) :
    mgr.SameOutside poolId state (mgr.spawnPool poolId state) := by
  rw [spawnPool]
  apply sameOutside_ite fun hsame => spawnQuests_sameOutside hsame _ 0
  apply sameOutside_ite fun hsame => spawnObject_sameOutside (fun _ _ _ hstate => hstate)
    (fun _ _ _ hstate => hstate) hsame _ 0
  apply sameOutside_ite fun hsame => spawnObject_sameOutside (fun _ _ _ hstate => hstate)
    (fun _ _ _ hstate => hstate) hsame _ 0
  -- the pools in the pool, by induction on the rank
  apply sameOutside_ite fun hsame => spawnObject_sameOutside
    (fun child hchild middle hmiddle =>
      hmiddle.child hchild (spawnPool_sameOutside mgr child.1 middle))
    (fun child hchild middle hmiddle =>
      hmiddle.child hchild (despawnPool_sameOutside mgr child.1 middle)) hsame _ 0
  exact fun _ _ => rfl
termination_by mgr.rank poolId
decreasing_by exact child.2 rfl

/-! ## A spawned pool stays spawned -/

/-- The pool has a counter. -/
def Present (poolId : Nat) (state : PoolState) : Prop :=
  state.data.isActiveObject .pool poolId = true

theorem present_activate (kind : Kind) (guid : Nat) (state : PoolState) :
    Present poolId (state.activate kind guid poolId) := by
  unfold Present PoolState.activate ActivePoolData.activateObject ActivePoolData.isActiveObject
    ActivePoolData.modifyCount
  simp

theorem present_remove (kind : Kind) (guid : Nat) (state : PoolState) :
    Present poolId (state.remove kind guid poolId) := by
  unfold Present PoolState.remove ActivePoolData.removeObject ActivePoolData.isActiveObject
    ActivePoolData.modifyCount
  simp

include hsame in
theorem SameOutside.present (hother : ¬mgr.Below poolId other) (hpresent : Present other start) :
    Present other state := by
  unfold Present ActivePoolData.isActiveObject at hpresent ⊢
  dsimp only at hpresent ⊢
  rw [hsame other hother]
  exact hpresent

theorem despawnPool_present (hpresent : Present poolId state) :
    Present poolId (mgr.despawnPool poolId state) := by
  rw [despawnPool]
  iterate 4
    apply despawnObject_induction (motive := Present poolId)
      (fun object _ _ _ => present_remove _ object.1 _)
  exact hpresent

theorem present_ite {isEmpty : Bool} (hafter : Present poolId state → Present poolId after)
    (hpresent : Present poolId state) :
    Present poolId (if isEmpty = true then state else after) := by
  split
  · exact hpresent
  · exact hafter hpresent

theorem spawnPool_present (hpresent : Present poolId state) :
    Present poolId (mgr.spawnPool poolId state) := by
  rw [spawnPool]
  refine present_ite (fun hbefore => ?_) <| present_ite (fun hbefore => ?_) <|
    present_ite (fun hbefore => ?_) <| present_ite (fun hbefore => ?_) hpresent
  · exact spawnQuests_induction (motive := Present poolId) (fun _ hstate => hstate)
      (fun guid state _ => present_activate .quest guid state)
      (fun guid state _ => present_remove .quest guid state) hbefore _ _
  · exact spawnObject_induction (motive := Present poolId) (fun _ hstate => hstate)
      (fun object _ state _ => present_activate .creature object.1 state)
      (fun object _ state _ => present_remove .creature object.1 state) hbefore _ _
  · exact spawnObject_induction (motive := Present poolId) (fun _ hstate => hstate)
      (fun object _ state _ => present_activate .gameobject object.1 state)
      (fun object _ state _ => present_remove .gameobject object.1 state) hbefore _ _
  · refine spawnObject_induction (motive := Present poolId) (fun _ hstate => hstate)
      (fun child _ state _ => ?_) (fun object _ state _ => present_remove .pool object.1 _)
      hbefore _ _
    exact (spawnPool_sameOutside mgr child.1 _).present (not_below_mother child)
      (present_activate .pool child.1 state)

end PoolMgr

end MopServer.Pools
