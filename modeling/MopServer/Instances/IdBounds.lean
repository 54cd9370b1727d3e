import MopServer.Instances.InstanceIds

/-! # The bounds of the instance ids

Every id is an index of the vector of bits, whose size is the largest id rounded up to a multiple
of 32.  What keeps the indices below the size is less than what makes the ids the lowest ones.
-/

namespace MopServer.Instances

open MopServer.Foundation

/-- The last id of the database has a bit: it is no multiple of 32, and not in the last word. -/
def LastHasBit (ids : List UInt32) : Prop :=
  ∀ last, ids.getLast? = some last → last < roundedSize last

/-- When an id is made, it has a bit or the vector grows far enough. -/
def HasRoom : Option IdLedger → IdEvent → Prop
  | none, _ => False
  | some ledger, .generate => ledger.manager.HasRoom
  | some _, .free _ => True

/-- When an id is made, less than `2^32` bits are reserved. -/
def Fits : Option IdLedger → IdEvent → Prop
  | some ledger, .generate => ledger.manager.capacity < 2 ^ 32
  | _, _ => True

variable (reserve : Nat → Nat → Nat)

/-- Every index the event uses is below the size of the vector. -/
def InBounds (state : Option IdLedger) (event : IdEvent) : Prop :=
  (idStep reserve state event).isSome = true

/-- The ids in use have bits. -/
structure IdLedger.Bounded (ledger : IdLedger) : Prop where
  room : ledger.manager.instanceIds.length ≤ ledger.manager.capacity
  bits : ∀ id ∈ ledger.used, id.toNat < ledger.manager.instanceIds.length

section

variable {reserve} {ledger : IdLedger} {manager : MapManager} {instanceId : UInt32}

theorem isSome_setBit_iff {used : Bool} :
    (manager.setBit instanceId used).isSome = true ↔
      instanceId.toNat < manager.instanceIds.length := by
  unfold MapManager.setBit
  split
  next hlt => exact iff_of_true rfl hlt
  next hnot => exact iff_of_false Bool.false_ne_true hnot

theorem length_extend (manager : MapManager) (next newInstanceId : UInt32) :
    (({ manager with nextInstanceId := next } : MapManager).extend reserve
        newInstanceId).instanceIds.length =
      if manager.instanceIds.length % 2 ^ 32 ≤ newInstanceId.toNat then
        if manager.instanceIds.length < manager.capacity then manager.capacity
        else (roundedSize newInstanceId).toNat
      else manager.instanceIds.length := by
  unfold MapManager.extend
  split
  · split
    · exact length_resizeBits _ _
    · exact length_resizeBits _ _
  · rfl

/-- With less than `2^32` bits an id can be made if and only if there is room. -/
theorem isSome_generateInstanceId_iff (hsmall : manager.capacity < 2 ^ 32)
    (hroom : manager.instanceIds.length ≤ manager.capacity) :
    (manager.generateInstanceId reserve).isSome = true ↔ manager.HasRoom := by
  have hmod : manager.instanceIds.length % 2 ^ 32 = manager.instanceIds.length :=
    Nat.mod_eq_of_lt (by omega)
  have hextend : (manager.advance.extend reserve manager.nextInstanceId).instanceIds.length =
      _ := length_extend manager _ manager.nextInstanceId
  unfold MapManager.generateInstanceId MapManager.HasRoom
  rw [Option.isSome_map, isSome_setBit_iff, hextend, hmod]
  split
  next hbehind => omega
  next hhas => omega

variable (hreserve : ∀ capacity size, size ≤ reserve capacity size) (hbounded : ledger.Bounded)

include hreserve hbounded in
theorem generate_bounded (hhasRoom : ledger.manager.HasRoom) :
    ∃ after, ledger.manager.generateInstanceId reserve =
        some (ledger.manager.nextInstanceId, after) ∧
      (⟨after, ledger.manager.nextInstanceId :: ledger.used⟩ : IdLedger).Bounded := by
  obtain ⟨bits, capacity, hextend, hgrows, hroom, hbit, -⟩ :=
    extend_spec hreserve hbounded.room hhasRoom ledger.manager.advance.nextInstanceId
  obtain ⟨after, hset, -, hcapacity, hlength, -⟩ :=
    setBit_spec ⟨bits, capacity, ledger.manager.advance.nextInstanceId⟩ hbit true
  have hadvance : ledger.manager.advance =
      { ledger.manager with nextInstanceId := ledger.manager.advance.nextInstanceId } := rfl
  refine ⟨after, ?_, ?_, fun id hid => ?_⟩
  · unfold MapManager.generateInstanceId
    rw [hadvance, hextend, hset, Option.map_some]
  · show after.instanceIds.length ≤ after.capacity
    rw [hlength, hcapacity]
    exact hroom
  · show id.toNat < after.instanceIds.length
    rw [hlength]
    rcases List.mem_cons.mp hid with rfl | hold
    · exact hbit
    · exact (hbounded.bits id hold).trans_le hgrows

include hbounded in
theorem free_bounded (hused : instanceId ∈ ledger.used) :
    ∃ after, ledger.manager.freeInstanceId instanceId = some after ∧
      (⟨after, ledger.used.filter (· ≠ instanceId)⟩ : IdLedger).Bounded := by
  obtain ⟨after, hset, -, hcapacity, hlength, -⟩ := setBit_spec
    { ledger.manager with
      nextInstanceId := if instanceId < ledger.manager.nextInstanceId then instanceId
        else ledger.manager.nextInstanceId } (hbounded.bits instanceId hused) false
  refine ⟨after, hset, ?_, fun id hid => ?_⟩
  · show after.instanceIds.length ≤ after.capacity
    rw [hlength, hcapacity]
    exact hbounded.room
  · show id.toNat < after.instanceIds.length
    rw [hlength]
    exact hbounded.bits id (List.mem_of_mem_filter hid)

include hreserve hbounded in
theorem idStep_bounded {event : IdEvent} (hhasRoom : HasRoom (some ledger) event) :
    ∃ after, idStep reserve (some ledger) event = some after ∧ after.Bounded := by
  cases event with
  | generate =>
    obtain ⟨after, hgenerate, hafter⟩ := generate_bounded hreserve hbounded hhasRoom
    refine ⟨_, ?_, hafter⟩
    rw [idStep, hgenerate, Option.map_some]
  | free instanceId =>
    by_cases hused : instanceId ∈ ledger.used
    · obtain ⟨after, hfree, hafter⟩ := free_bounded hbounded hused
      refine ⟨_, ?_, hafter⟩
      rw [idStep, if_pos hused, hfree, Option.map_some]
    · exact ⟨ledger, by rw [idStep, if_neg hused], hbounded⟩

include hreserve hbounded in
/-- An event stays within bounds, with less than `2^32` bits, exactly if there is room for it. -/
theorem inBounds_and_fits_iff (event : IdEvent) :
    (InBounds reserve (some ledger) event ∧ Fits (some ledger) event) ↔
      HasRoom (some ledger) event := by
  constructor
  · rintro ⟨hinBounds, hfits⟩
    cases event with
    | generate =>
      unfold InBounds at hinBounds
      rw [idStep, Option.isSome_map] at hinBounds
      exact (isSome_generateInstanceId_iff hfits hbounded.room).mp hinBounds
    | free instanceId => trivial
  · intro hhasRoom
    obtain ⟨after, hafter, -⟩ := idStep_bounded hreserve hbounded hhasRoom
    refine ⟨?_, ?_⟩
    · unfold InBounds
      rw [hafter, Option.isSome_some]
    · cases event with
      | generate => exact hhasRoom.2
      | free instanceId => trivial

/-! ## The start of the server -/

variable {ids : List UInt32}

/-- The ids of the database can be marked exactly if all of them have bits. -/
theorem isSome_foldlM_loadInstanceId_iff (ids : List UInt32) :
    (ids.foldlM MapManager.loadInstanceId manager).isSome = true ↔
      ∀ id ∈ ids, id.toNat < manager.instanceIds.length := by
  induction ids generalizing manager with
  | nil => simp
  | cons id rest ih =>
    rw [List.foldlM_cons, List.forall_mem_cons]
    by_cases hbit : id.toNat < manager.instanceIds.length
    · obtain ⟨after, hset, -, -, hlength, -⟩ := setBit_spec
        { manager with
          nextInstanceId := if manager.nextInstanceId = id then id + 1
            else manager.nextInstanceId } hbit true
      have hload : manager.loadInstanceId id = some after := hset
      rw [hload, and_iff_right hbit, ← hlength]
      exact ih
    · have hload : manager.loadInstanceId id = none := if_neg hbit
      rw [hload]
      exact iff_of_false Bool.false_ne_true fun hboth => hbit hboth.1

theorem foldlM_loadInstanceId_size {after : MapManager}
    (hload : ids.foldlM MapManager.loadInstanceId manager = some after) :
    after.instanceIds.length = manager.instanceIds.length ∧
      after.capacity = manager.capacity := by
  induction ids generalizing manager with
  | nil =>
    cases hload
    exact ⟨rfl, rfl⟩
  | cons id rest ih =>
    rw [List.foldlM_cons] at hload
    obtain ⟨middle, hmiddle, hrest⟩ := Option.bind_eq_some_iff.mp hload
    have hbit : id.toNat < manager.instanceIds.length := by
      by_contra hnot
      have hload : manager.loadInstanceId id = none := if_neg hnot
      rw [hload] at hmiddle
      cases hmiddle
    obtain ⟨written, hset, -, hcapacity, hlength, -⟩ := setBit_spec
      { manager with
        nextInstanceId := if manager.nextInstanceId = id then id + 1
          else manager.nextInstanceId } hbit true
    have hsame : middle = written := Option.some.inj (hmiddle.symm.trans hset)
    obtain ⟨hafterLength, hafterCapacity⟩ := ih hrest
    rw [hsame] at hafterLength hafterCapacity
    exact ⟨hafterLength.trans hlength, hafterCapacity.trans hcapacity⟩

theorem length_initInstanceIds (maxId : UInt32) :
    (MapManager.initInstanceIds reserve maxId).instanceIds.length = (roundedSize maxId).toNat :=
  length_resizeBits _ _

theorem isSome_loadLedger_iff (hascending : ids.Pairwise (· < ·)) :
    (loadLedger reserve ids).isSome = true ↔ LastHasBit ids := by
  unfold loadLedger MapManager.load
  rw [Option.isSome_map, isSome_foldlM_loadInstanceId_iff, length_initInstanceIds]
  constructor
  · intro hbits last hlast
    -- the ids ascend, so the last one is the largest
    have hlt := hbits last (List.mem_of_getLast? hlast)
    rwa [hlast, Option.getD_some, ← UInt32.lt_iff_toNat_lt] at hlt
  · intro hlast id hid
    obtain ⟨last, hget⟩ : ∃ last, ids.getLast? = some last :=
      Option.ne_none_iff_exists'.mp fun hnone => by
        rw [List.getLast?_eq_none_iff.mp hnone] at hid
        cases hid
    rw [hget, Option.getD_some, ← UInt32.lt_iff_toNat_lt]
    exact UInt32.lt_of_le_of_lt (le_getLast hascending hget id hid) (hlast last hget)

include hreserve in
theorem loadLedger_bounded (hload : loadLedger reserve ids = some ledger) : ledger.Bounded := by
  obtain ⟨manager, hmanager, rfl⟩ := Option.map_eq_some_iff.mp hload
  obtain ⟨hlength, hcapacity⟩ := foldlM_loadInstanceId_size hmanager
  have hbits := isSome_foldlM_loadInstanceId_iff ids |>.mp (Option.isSome_of_mem hmanager)
  refine ⟨?_, fun id hid => ?_⟩
  · show manager.instanceIds.length ≤ manager.capacity
    rw [hlength, hcapacity, length_initInstanceIds]
    exact hreserve _ _
  · show id.toNat < manager.instanceIds.length
    rw [hlength]
    exact hbits id hid

/-! ## Runs -/

variable (state : Option IdLedger)

/-- The state is defined and its ids are within bounds. -/
def BoundedState : Prop :=
  ∃ ledger, state = some ledger ∧ ledger.Bounded

include hreserve in
theorem BoundedState.step (event : IdEvent) (hstate : BoundedState state)
    (hhasRoom : HasRoom state event) : BoundedState (idStep reserve state event) := by
  obtain ⟨ledger, rfl, hbounded⟩ := hstate
  obtain ⟨after, hafter, hkept⟩ := idStep_bounded hreserve hbounded hhasRoom
  exact ⟨after, hafter, hkept⟩

include hreserve in
theorem along_inBounds_and_fits_iff {state : Option IdLedger} (hstate : BoundedState state)
    (events : List IdEvent) :
    Along (idStep reserve) (fun state event => InBounds reserve state event ∧ Fits state event)
        state events ↔
      Along (idStep reserve) HasRoom state events := by
  refine along_iff_of_invariant (idStep reserve) BoundedState (BoundedState.step hreserve) ?_
    state events hstate
  rintro _ event ⟨ledger, rfl, hbounded⟩
  exact inBounds_and_fits_iff hreserve hbounded event

/-- The indices stay below the size along every run that starts from a database whose last id has
a bit and always finds room; and as long as less than `2^32` bits are reserved, along no other. -/
theorem instanceIds_inBounds (hreserve : ∀ capacity size, size ≤ reserve capacity size)
    (ids : List UInt32) (hascending : ids.Pairwise (· < ·)) (events : List IdEvent) :
    (LastHasBit ids ∧ Along (idStep reserve) HasRoom (loadLedger reserve ids) events →
      (loadLedger reserve ids).isSome = true ∧
        Along (idStep reserve) (InBounds reserve) (loadLedger reserve ids) events) ∧
      (Along (idStep reserve) Fits (loadLedger reserve ids) events →
        (loadLedger reserve ids).isSome = true ∧
          Along (idStep reserve) (InBounds reserve) (loadLedger reserve ids) events →
        LastHasBit ids ∧ Along (idStep reserve) HasRoom (loadLedger reserve ids) events) := by
  have hloads : (loadLedger reserve ids).isSome = true ↔ LastHasBit ids :=
    isSome_loadLedger_iff hascending
  have hruns : (loadLedger reserve ids).isSome = true →
      (Along (idStep reserve) (InBounds reserve) (loadLedger reserve ids) events ∧
          Along (idStep reserve) Fits (loadLedger reserve ids) events ↔
        Along (idStep reserve) HasRoom (loadLedger reserve ids) events) := by
    intro hsome
    obtain ⟨ledger, hledger⟩ := Option.isSome_iff_exists.mp hsome
    rw [← along_and]
    exact along_inBounds_and_fits_iff hreserve
      ⟨ledger, hledger, loadLedger_bounded hreserve hledger⟩ events
  constructor
  · rintro ⟨hlast, hroom⟩
    have hsome := hloads.mpr hlast
    exact ⟨hsome, ((hruns hsome).mpr hroom).1⟩
  · rintro hfits ⟨hsome, hinBounds⟩
    exact ⟨hloads.mp hsome, (hruns hsome).mp ⟨hinBounds, hfits⟩⟩

/-- The bit of an id that is a multiple of 32 is behind the end. -/
theorem not_instanceIds_inBounds :
    ¬ ∀ (reserve : Nat → Nat → Nat), (∀ capacity size, size ≤ reserve capacity size) →
      ∀ ids : List UInt32, ids.Pairwise (· < ·) → ∀ events,
        (loadLedger reserve ids).isSome = true ∧
          Along (idStep reserve) (InBounds reserve) (loadLedger reserve ids) events := by
  intro hall
  have hload := (hall wordCapacity le_wordCapacity [5, 64] (by decide) []).1
  exact absurd hload (by decide)

/-- Two instances are loaded, one of them is freed and its id used again. -/
theorem instanceIds_inBounds_reused :
    (loadLedger wordCapacity [1, 33]).isSome = true ∧
      Along (idStep wordCapacity) (InBounds wordCapacity) (loadLedger wordCapacity [1, 33])
        [.free 1, .generate, .generate] := by
  refine (instanceIds_inBounds le_wordCapacity [1, 33] (by decide) _).1 ⟨?_, ?_⟩
  · intro last hlast
    cases hlast
    decide
  · exact ⟨trivial, ⟨Or.inl (by decide), by decide⟩, ⟨Or.inl (by decide), by decide⟩, trivial⟩

end

end MopServer.Instances
