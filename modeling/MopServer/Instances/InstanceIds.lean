import Mathlib.Data.UInt
import MopServer.Foundation.Run

/-! # Instance ids

Ids of instances are handed out from a vector of bits, one for each id in use, and a next id that
is meant to be the lowest one not in use.  How far a vector reserves memory ahead is left to the
standard library.
-/

namespace MopServer.Instances

open MopServer.Foundation

/-- The ids of a `MapManager`: a vector of bits, what is reserved for it, and the next id. -/
structure MapManager where
  instanceIds : List Bool
  capacity : Nat
  nextInstanceId : UInt32
  deriving DecidableEq, Repr

/-- `vector<bool>::resize`; new bits are not set. -/
def resizeBits (bits : List Bool) (size : Nat) : List Bool :=
  bits.take size ++ List.replicate (size - bits.length) false

def roundedSize (id : UInt32) : UInt32 := id / 32 * 32 + if 0 < id % 32 then 32 else 0

namespace MapManager

-- the capacity of a vector of some capacity once it has been resized
variable (reserve : Nat → Nat → Nat) (manager : MapManager)

def resize (size : Nat) : MapManager :=
  { manager with
    instanceIds := resizeBits manager.instanceIds size
    capacity := reserve manager.capacity size }

variable (instanceId : UInt32)

/-- `_instanceIds[instanceId] = used`; a write behind the end has no defined behaviour. -/
def setBit (used : Bool) : Option MapManager :=
  if instanceId.toNat < manager.instanceIds.length then
    some { manager with instanceIds := manager.instanceIds.set instanceId.toNat used }
  else none

/-- `InitInstanceIds`, for the largest id in the database. -/
def initInstanceIds (maxId : UInt32) : MapManager :=
  resize reserve ⟨[], 0, 1⟩ (roundedSize maxId).toNat

/-- What `LoadResetTimes` does with an id. -/
def loadInstanceId : Option MapManager :=
  let next := if manager.nextInstanceId = instanceId then instanceId + 1
    else manager.nextInstanceId
  { manager with nextInstanceId := next }.setBit instanceId true

/-- The ids of the table `instance`, in ascending order. -/
def load (ids : List UInt32) : Option MapManager :=
  ids.foldlM loadInstanceId (initInstanceIds reserve (ids.getLast?.getD 0))

/-- The id is not in use, or behind the end. -/
def isFree (id : Nat) : Bool := manager.instanceIds[id]? ≠ some true

/-- The loop of `GenerateInstanceId`, for as many ids as there are below `0xFFFFFFFF`. -/
def findFree (manager : MapManager) : Nat → Nat → Option Nat
  | _, 0 => none
  | id, count + 1 => if manager.isFree id then some id else manager.findFree (id + 1) count

def advance : MapManager :=
  let start := manager.nextInstanceId + 1
  { manager with
    nextInstanceId :=
      ((manager.findFree start.toNat (0xFFFFFFFF - start.toNat)).map UInt32.ofNat).getD start }

/-- More bits for an id that is behind the end; the size is compared in 32 bits. -/
def extend (newInstanceId : UInt32) : MapManager :=
  if manager.instanceIds.length % 2 ^ 32 ≤ newInstanceId.toNat then
    if manager.instanceIds.length < manager.capacity then
      manager.resize reserve manager.capacity
    else manager.resize reserve (roundedSize newInstanceId).toNat
  else manager

/-- `GenerateInstanceId`. -/
def generateInstanceId : Option (UInt32 × MapManager) :=
  ((manager.advance.extend reserve manager.nextInstanceId).setBit manager.nextInstanceId
    true).map fun after => (manager.nextInstanceId, after)

/-- `FreeInstanceId`. -/
def freeInstanceId : Option MapManager :=
  { manager with
    nextInstanceId :=
      if instanceId < manager.nextInstanceId then instanceId else manager.nextInstanceId
    }.setBit instanceId false

end MapManager

/-! ## Runs -/

inductive IdEvent where
  | generate
  | free (instanceId : UInt32)
  deriving DecidableEq, Repr

/-- The ids, with a record of those in use. -/
structure IdLedger where
  manager : MapManager
  used : List UInt32
  deriving DecidableEq, Repr

variable (reserve : Nat → Nat → Nat)

/-- The ids after an event; only ids in use are freed, and `none` stands for undefined
behaviour. -/
def idStep : Option IdLedger → IdEvent → Option IdLedger
  | none, _ => none
  | some ledger, .generate =>
    (ledger.manager.generateInstanceId reserve).map fun generated =>
      ⟨generated.2, generated.1 :: ledger.used⟩
  | some ledger, .free instanceId =>
    if instanceId ∈ ledger.used then
      (ledger.manager.freeInstanceId instanceId).map fun after =>
        ⟨after, ledger.used.filter (· ≠ instanceId)⟩
    else some ledger

variable (ids : List UInt32)

/-- The ids after the start of the server. -/
def loadLedger : Option IdLedger :=
  (MapManager.load reserve ids).map fun manager => ⟨manager, ids⟩

/-- An event is answered, and a new id is the lowest positive one that is not in use. -/
def Answered : Option IdLedger → IdEvent → Prop
  | none, _ => False
  | some ledger, .generate =>
    ∃ id after, ledger.manager.generateInstanceId reserve = some (id, after) ∧
      id ∉ ledger.used ∧ 0 < id ∧ ∀ lower, 0 < lower → lower < id → lower ∈ ledger.used
  | some ledger, .free instanceId =>
    instanceId ∈ ledger.used → (ledger.manager.freeInstanceId instanceId).isSome = true

/-- The next id has a bit, or the vector grows far enough to have one. -/
def MapManager.HasRoom (manager : MapManager) : Prop :=
  (manager.nextInstanceId.toNat < manager.instanceIds.length ∨
      manager.nextInstanceId.toNat <
        if manager.instanceIds.length < manager.capacity then manager.capacity
        else (roundedSize manager.nextInstanceId).toNat) ∧
    manager.capacity < 2 ^ 32

/-- There is room for the next id, and a further one is free below the last. -/
def MapManager.Roomy (manager : MapManager) : Prop :=
  manager.HasRoom ∧
    ∃ id, manager.nextInstanceId.toNat < id ∧ id < 0xFFFFFFFF ∧ manager.isFree id = true

/-- When ids are handed out as they should be. -/
def Roomy : Option IdLedger → IdEvent → Prop
  | none, _ => False
  | some ledger, .generate => ledger.manager.Roomy
  | some _, .free _ => True

/-- When the ids of the database can be loaded: the last one has a bit. -/
def Loadable : Prop :=
  (∀ id ∈ ids, 0 < id) ∧ ∀ last, ids.getLast? = some last → last < roundedSize last

/-- Every positive id below the next one is in use, the next one is not, and the bits say so. -/
structure IdLedger.Sound (ledger : IdLedger) : Prop where
  bits : ∀ i, ledger.manager.instanceIds[i]? = some true ↔ ∃ id ∈ ledger.used, id.toNat = i
  positive : ∀ id ∈ ledger.used, 0 < id
  below : ∀ id, 0 < id → id < ledger.manager.nextInstanceId → id ∈ ledger.used
  nextPositive : 0 < ledger.manager.nextInstanceId
  fresh : ledger.manager.nextInstanceId ∉ ledger.used
  room : ledger.manager.instanceIds.length ≤ ledger.manager.capacity

/-! ## Bits -/

section

variable {bits : List Bool} {manager : MapManager} {instanceId : UInt32}

theorem length_resizeBits (bits : List Bool) (size : Nat) : (resizeBits bits size).length = size := by
  unfold resizeBits
  rw [List.length_append, List.length_replicate, List.length_take]
  omega

/-- A vector that grows has the same bits set. -/
theorem getElem?_resizeBits {size : Nat} (hsize : bits.length ≤ size) (i : Nat) :
    (resizeBits bits size)[i]? = some true ↔ bits[i]? = some true := by
  unfold resizeBits
  rw [List.take_of_length_le hsize, List.getElem?_append]
  split
  · rfl
  next hbehind =>
    rw [List.getElem?_replicate, List.getElem?_eq_none (Nat.le_of_not_lt hbehind)]
    split <;> simp

theorem setBit_spec (manager : MapManager) (hlt : instanceId.toNat < manager.instanceIds.length)
    (used : Bool) :
    ∃ after, manager.setBit instanceId used = some after ∧
      after.nextInstanceId = manager.nextInstanceId ∧ after.capacity = manager.capacity ∧
      after.instanceIds.length = manager.instanceIds.length ∧
      ∀ i : Nat, after.instanceIds[i]? = some true ↔
        if i = instanceId.toNat then used = true else manager.instanceIds[i]? = some true := by
  refine ⟨_, if_pos hlt, rfl, rfl, List.length_set, fun i => ?_⟩
  rw [List.getElem?_set]
  by_cases heq : instanceId.toNat = i
  · rw [if_pos heq, if_pos (heq ▸ hlt), if_pos heq.symm, Option.some.injEq]
  · rw [if_neg heq, if_neg fun hsame => heq hsame.symm]

theorem findFree_spec (manager : MapManager) (start count : Nat) {id : Nat} (hstart : start ≤ id)
    (hcount : id < start + count) (hfree : manager.isFree id = true) :
    ∃ found, manager.findFree start count = some found ∧ start ≤ found ∧ found ≤ id ∧
      manager.isFree found = true ∧ ∀ i, start ≤ i → i < found → manager.isFree i = false := by
  induction count generalizing start with
  | zero => omega
  | succ count ih =>
    rw [MapManager.findFree]
    cases hhere : manager.isFree start with
    | true =>
      refine ⟨start, if_pos rfl, le_rfl, hstart, hhere, fun i hle hlt => ?_⟩
      omega
    | false =>
      have hne : start ≠ id := by
        rintro rfl
        rw [hhere] at hfree
        cases hfree
      obtain ⟨found, hfound, hlower, hupper, hisFree, hfirst⟩ :=
        ih (start + 1) (by omega) (by omega)
      refine ⟨found, ?_, by omega, hupper, hisFree, fun i hle hlt => ?_⟩
      · rw [if_neg Bool.false_ne_true]
        exact hfound
      · rcases Nat.eq_or_lt_of_le hle with rfl | hgt
        · exact hhere
        · exact hfirst i hgt hlt

theorem isFree_iff {id : Nat} : manager.isFree id = true ↔ manager.instanceIds[id]? ≠ some true := by
  exact decide_eq_true_iff

/-! ## What an event keeps -/

variable {reserve : Nat → Nat → Nat} {ledger : IdLedger}

theorem advance_spec (hroomy : manager.Roomy) :
    ∃ found : UInt32, manager.advance = { manager with nextInstanceId := found } ∧
      manager.nextInstanceId < found ∧ manager.isFree found.toNat = true ∧
      ∀ id : UInt32, manager.nextInstanceId < id → id < found →
        manager.isFree id.toNat = false := by
  obtain ⟨-, id, hlower, hupper, hfree⟩ := hroomy
  have hstart : (manager.nextInstanceId + 1).toNat = manager.nextInstanceId.toNat + 1 := by
    have hone : (1 : UInt32).toNat = 1 := rfl
    rw [UInt32.toNat_add, hone]
    exact Nat.mod_eq_of_lt (by omega)
  obtain ⟨found, hfound, hge, hle, hisFree, hfirst⟩ := findFree_spec manager
    (manager.nextInstanceId.toNat + 1) (0xFFFFFFFF - (manager.nextInstanceId.toNat + 1))
    (by omega) (by omega) hfree
  have hexact : (UInt32.ofNat found).toNat = found := by
    rw [UInt32.toNat_ofNat']
    exact Nat.mod_eq_of_lt (by omega)
  refine ⟨UInt32.ofNat found, ?_, ?_, ?_, fun other hgt hlt => ?_⟩
  · unfold MapManager.advance
    dsimp only
    rw [hstart, hfound, Option.map_some, Option.getD_some]
  · rw [UInt32.lt_iff_toNat_lt, hexact]
    omega
  · rw [hexact]
    exact hisFree
  · rw [UInt32.lt_iff_toNat_lt] at hgt hlt
    rw [hexact] at hlt
    exact hfirst other.toNat (by omega) hlt

variable (hreserve : ∀ capacity size, size ≤ reserve capacity size)

include hreserve in
theorem extend_spec (hroom : manager.instanceIds.length ≤ manager.capacity)
    (hhasRoom : manager.HasRoom) (next : UInt32) :
    ∃ bits capacity,
      ({ manager with nextInstanceId := next } : MapManager).extend reserve
          manager.nextInstanceId = ⟨bits, capacity, next⟩ ∧
        manager.instanceIds.length ≤ bits.length ∧
        bits.length ≤ capacity ∧ manager.nextInstanceId.toNat < bits.length ∧
        ∀ i : Nat, bits[i]? = some true ↔ manager.instanceIds[i]? = some true := by
  obtain ⟨hbit, hcapacity⟩ := hhasRoom
  have hmod : manager.instanceIds.length % 2 ^ 32 = manager.instanceIds.length :=
    Nat.mod_eq_of_lt (by omega)
  unfold MapManager.extend
  rw [hmod]
  split
  next hbehind =>
    rcases hbit with hhas | hgrows
    · omega
    split at hgrows
    next hspare =>
      rw [if_pos hspare]
      refine ⟨_, _, rfl, ?_, ?_, ?_, getElem?_resizeBits hspare.le⟩
      · rw [length_resizeBits]
        exact hspare.le
      · rw [length_resizeBits]
        exact hreserve _ _
      · rw [length_resizeBits]
        exact hgrows
    next hfull =>
      have hsize : manager.instanceIds.length ≤
          (roundedSize manager.nextInstanceId).toNat := by omega
      rw [if_neg hfull]
      refine ⟨_, _, rfl, ?_, ?_, ?_, getElem?_resizeBits hsize⟩
      · rw [length_resizeBits]
        exact hsize
      · rw [length_resizeBits]
        exact hreserve _ _
      · rw [length_resizeBits]
        exact hgrows
  next hhas => exact ⟨_, _, rfl, le_refl _, hroom, Nat.lt_of_not_le hhas, fun _ => Iff.rfl⟩

theorem IdLedger.Sound.lt_length (hsound : ledger.Sound) {id : UInt32} (hid : id ∈ ledger.used) :
    id.toNat < ledger.manager.instanceIds.length :=
  (List.getElem?_eq_some_iff.mp ((hsound.bits id.toNat).mpr ⟨id, hid, rfl⟩)).1

theorem IdLedger.Sound.isFree_iff (hsound : ledger.Sound) {id : UInt32} :
    ledger.manager.isFree id.toNat = true ↔ id ∉ ledger.used := by
  rw [MopServer.Instances.isFree_iff, ne_eq, hsound.bits]
  constructor
  · exact fun hnone hid => hnone ⟨id, hid, rfl⟩
  · rintro hid ⟨other, hother, heq⟩
    exact hid (UInt32.toNat_inj.mp heq ▸ hother)

include hreserve in
theorem generate_spec (hsound : ledger.Sound) (hroomy : ledger.manager.Roomy) :
    ∃ after, ledger.manager.generateInstanceId reserve =
        some (ledger.manager.nextInstanceId, after) ∧
      (⟨after, ledger.manager.nextInstanceId :: ledger.used⟩ : IdLedger).Sound := by
  obtain ⟨found, hadvance, hbehind, hfree, hbetween⟩ := advance_spec hroomy
  obtain ⟨bits, capacity, hextend, -, hroom, hbit, hsame⟩ :=
    extend_spec hreserve hsound.room hroomy.1 found
  obtain ⟨after, hset, hnext, hcapacity, hlength, hbits⟩ :=
    setBit_spec ⟨bits, capacity, found⟩ hbit true
  refine ⟨after, ?_, ?_⟩
  · unfold MapManager.generateInstanceId
    rw [hadvance, hextend, hset, Option.map_some]
  · refine ⟨fun i => ?_, fun id hid => ?_, fun id hpos hlt => ?_, ?_, ?_, ?_⟩
    · rw [hbits, hsame, hsound.bits]
      simp only [List.mem_cons, exists_eq_or_imp]
      split
      next heq => exact iff_of_true trivial (Or.inl heq.symm)
      next hne => rw [or_iff_right fun heq => hne heq.symm]
    · rcases List.mem_cons.mp hid with rfl | hold
      · exact hsound.nextPositive
      · exact hsound.positive id hold
    · rw [hnext] at hlt
      rw [List.mem_cons]
      by_cases heq : id = ledger.manager.nextInstanceId
      · exact Or.inl heq
      by_cases hless : id < ledger.manager.nextInstanceId
      · exact Or.inr (hsound.below id hpos hless)
      · have hgreater : ledger.manager.nextInstanceId < id :=
          UInt32.lt_of_le_of_ne (UInt32.not_lt.mp hless) fun hsame => heq hsame.symm
        have hused := hbetween id hgreater hlt
        rw [← Bool.not_eq_true, hsound.isFree_iff, not_not] at hused
        exact Or.inr hused
    · rw [hnext]
      exact UInt32.lt_trans hsound.nextPositive hbehind
    · rw [hnext, List.mem_cons]
      rintro (heq | hused)
      · exact absurd hbehind (heq ▸ UInt32.lt_irrefl _)
      · exact hsound.isFree_iff.mp hfree hused
    · rw [hlength, hcapacity]
      exact hroom

theorem free_spec (hsound : ledger.Sound) (hused : instanceId ∈ ledger.used) :
    ∃ after, ledger.manager.freeInstanceId instanceId = some after ∧
      (⟨after, ledger.used.filter (· ≠ instanceId)⟩ : IdLedger).Sound := by
  have hmem : ∀ {id : UInt32}, id ∈ ledger.used.filter (· ≠ instanceId) ↔
      id ∈ ledger.used ∧ id ≠ instanceId := by
    intro id
    simp
  obtain ⟨after, hset, hnext, hcapacity, hlength, hbits⟩ := setBit_spec
    { ledger.manager with
      nextInstanceId := if instanceId < ledger.manager.nextInstanceId then instanceId
        else ledger.manager.nextInstanceId } (hsound.lt_length hused) false
  refine ⟨after, hset, fun i => ?_, fun id hid => ?_, fun id hpos hlt => ?_, ?_, ?_, ?_⟩
  · rw [hbits, hsound.bits]
    simp only [hmem]
    split
    next heq =>
      refine iff_of_false Bool.false_ne_true ?_
      rintro ⟨id, ⟨-, hne⟩, hsame⟩
      exact hne (UInt32.toNat_inj.mp (hsame.trans heq))
    next hne =>
      constructor
      · rintro ⟨id, hid, hsame⟩
        exact ⟨id, ⟨hid, fun heq => hne (heq ▸ hsame.symm)⟩, hsame⟩
      · rintro ⟨id, ⟨hid, -⟩, hsame⟩
        exact ⟨id, hid, hsame⟩
  · exact hsound.positive id (hmem.mp hid).1
  · rw [hnext] at hlt
    rw [hmem]
    split at hlt
    next hlower => exact ⟨hsound.below id hpos (UInt32.lt_trans hlt hlower), UInt32.ne_of_lt hlt⟩
    next hupper =>
      refine ⟨hsound.below id hpos hlt, fun heq => hupper ?_⟩
      rw [← heq]
      exact hlt
  · rw [hnext]
    split
    · exact hsound.positive instanceId hused
    · exact hsound.nextPositive
  · rw [hnext, hmem]
    split
    · exact fun hboth => hboth.2 rfl
    · exact fun hboth => hsound.fresh hboth.1
  · rw [hlength, hcapacity]
    exact hsound.room

/-! ## The start of the server -/

theorem loadInstanceId_spec (hsound : ledger.Sound) (hpositive : 0 < instanceId)
    (hlast : ∀ id ∈ ledger.used, id < instanceId)
    (hbit : instanceId.toNat < ledger.manager.instanceIds.length)
    (hsmall : instanceId.toNat + 1 < 2 ^ 32) :
    ∃ after, ledger.manager.loadInstanceId instanceId = some after ∧
      after.instanceIds.length = ledger.manager.instanceIds.length ∧
      (⟨after, ledger.used ++ [instanceId]⟩ : IdLedger).Sound := by
  have hmem : ∀ {id : UInt32}, id ∈ ledger.used ++ [instanceId] ↔
      id ∈ ledger.used ∨ id = instanceId := by
    intro id
    simp
  have hsucc : (instanceId + 1).toNat = instanceId.toNat + 1 := by
    have hone : (1 : UInt32).toNat = 1 := rfl
    rw [UInt32.toNat_add, hone, Nat.mod_eq_of_lt hsmall]
  obtain ⟨after, hset, hnext, hcapacity, hlength, hbits⟩ := setBit_spec
    { ledger.manager with
      nextInstanceId := if ledger.manager.nextInstanceId = instanceId then instanceId + 1
        else ledger.manager.nextInstanceId } hbit true
  refine ⟨after, hset, hlength, fun i => ?_, fun id hid => ?_, fun id hpos hlt => ?_, ?_, ?_, ?_⟩
  · rw [hbits, hsound.bits]
    simp only [hmem, or_and_right, exists_or, exists_eq_left]
    split
    next heq => exact iff_of_true trivial (Or.inr heq.symm)
    next hne => rw [or_iff_left fun heq => hne heq.symm]
  · rcases hmem.mp hid with hold | rfl
    · exact hsound.positive id hold
    · exact hpositive
  · rw [hnext] at hlt
    rw [hmem]
    split at hlt
    next heq =>
      by_cases hsame : id = instanceId
      · exact Or.inr hsame
      · refine Or.inl (hsound.below id hpos ?_)
        rw [heq]
        rw [UInt32.lt_iff_toNat_lt, hsucc] at hlt
        refine UInt32.lt_of_le_of_ne ?_ hsame
        rw [UInt32.le_iff_toNat_le]
        omega
    · exact Or.inl (hsound.below id hpos hlt)
  · rw [hnext]
    split
    · rw [UInt32.lt_iff_toNat_lt, hsucc]
      exact Nat.succ_pos _
    · exact hsound.nextPositive
  · rw [hnext, hmem]
    split
    · rintro (hold | hsame)
      · have hlt := hlast _ hold
        rw [UInt32.lt_iff_toNat_lt, hsucc] at hlt
        omega
      · have heq := congrArg UInt32.toNat hsame
        rw [hsucc] at heq
        omega
    next hne =>
      rintro (hold | hsame)
      · exact hsound.fresh hold
      · exact hne hsame
  · rw [hlength, hcapacity]
    exact hsound.room

/-- The ids of the database in ascending order, from those already loaded. -/
theorem loadInstanceIds_spec (ledger : IdLedger) (ids : List UInt32)
    (hascending : (ledger.used ++ ids).Pairwise (· < ·))
    (hpositive : ∀ id ∈ ids, 0 < id)
    (hbits : ∀ id ∈ ids, id.toNat < ledger.manager.instanceIds.length ∧ id.toNat + 1 < 2 ^ 32)
    (hsound : ledger.Sound) :
    ∃ after, ids.foldlM MapManager.loadInstanceId ledger.manager = some after ∧
      (⟨after, ledger.used ++ ids⟩ : IdLedger).Sound := by
  induction ids generalizing ledger with
  | nil =>
    rw [List.append_nil]
    exact ⟨ledger.manager, rfl, hsound⟩
  | cons id rest ih =>
    obtain ⟨hbit, hsmall⟩ := hbits id List.mem_cons_self
    have hlast : ∀ old ∈ ledger.used, old < id := fun old hold =>
      (List.pairwise_append.mp hascending).2.2 old hold id List.mem_cons_self
    obtain ⟨middle, hload, hlength, hmiddle⟩ :=
      loadInstanceId_spec hsound (hpositive id List.mem_cons_self) hlast hbit hsmall
    have hsplit : ledger.used ++ id :: rest = (ledger.used ++ [id]) ++ rest := by simp
    rw [hsplit] at hascending ⊢
    obtain ⟨after, hrest, hafter⟩ := ih ⟨middle, ledger.used ++ [id]⟩ hascending
      (fun other hother => hpositive other (List.mem_cons_of_mem id hother))
      (fun other hother => by
        rw [hlength]
        exact hbits other (List.mem_cons_of_mem id hother)) hmiddle
    refine ⟨after, ?_, hafter⟩
    rw [List.foldlM_cons, hload]
    exact hrest

include hreserve in
theorem sound_initInstanceIds (maxId : UInt32) :
    (⟨MapManager.initInstanceIds reserve maxId, []⟩ : IdLedger).Sound where
  bits i := by
    show (resizeBits [] (roundedSize maxId).toNat)[i]? = some true ↔ _
    rw [getElem?_resizeBits (Nat.zero_le _)]
    simp
  positive := fun id hid => absurd hid List.not_mem_nil
  below := fun id hpos hlt => by
    have hone : (1 : UInt32).toNat = 1 := rfl
    have hlt' : id < 1 := hlt
    rw [UInt32.lt_iff_toNat_lt, hone] at hlt'
    rw [UInt32.lt_iff_toNat_lt] at hpos
    omega
  nextPositive := by
    show (0 : UInt32) < 1
    decide
  fresh := List.not_mem_nil
  room := by
    show (resizeBits [] (roundedSize maxId).toNat).length ≤ reserve 0 (roundedSize maxId).toNat
    rw [length_resizeBits _ _]
    exact hreserve _ _

theorem le_getLast {ids : List UInt32} (hascending : ids.Pairwise (· < ·)) {last : UInt32}
    (hlast : ids.getLast? = some last) : ∀ id ∈ ids, id ≤ last := by
  obtain ⟨front, rfl⟩ := List.getLast?_eq_some_iff.mp hlast
  intro id hid
  rcases List.mem_append.mp hid with hfront | hsame
  · exact UInt32.le_of_lt ((List.pairwise_append.mp hascending).2.2 id hfront last
      (List.mem_singleton_self last))
  · exact List.mem_singleton.mp hsame ▸ UInt32.le_refl _

include hreserve in
theorem load_spec {ids : List UInt32} (hascending : ids.Pairwise (· < ·)) (hloadable : Loadable ids)
    : ∃ ledger, loadLedger reserve ids = some ledger ∧ ledger.Sound := by
  obtain ⟨hpositive, hlast⟩ := hloadable
  have hinit := sound_initInstanceIds hreserve (ids.getLast?.getD 0)
  have hlength : (MapManager.initInstanceIds reserve (ids.getLast?.getD 0)).instanceIds.length =
      (roundedSize (ids.getLast?.getD 0)).toNat := length_resizeBits _ _
  have hbits : ∀ id ∈ ids, id.toNat <
      (MapManager.initInstanceIds reserve (ids.getLast?.getD 0)).instanceIds.length ∧
        id.toNat + 1 < 2 ^ 32 := by
    intro id hid
    obtain ⟨last, hget⟩ : ∃ last, ids.getLast? = some last :=
      Option.ne_none_iff_exists'.mp fun hnone => by
        rw [List.getLast?_eq_none_iff.mp hnone] at hid
        cases hid
    have hle := le_getLast hascending hget id hid
    have hlt := hlast last hget
    have hsize := (roundedSize last).toNat_lt
    rw [UInt32.le_iff_toNat_le] at hle
    rw [UInt32.lt_iff_toNat_lt] at hlt
    rw [hlength, hget, Option.getD_some]
    omega
  obtain ⟨after, hload, hsound⟩ := loadInstanceIds_spec
    ⟨MapManager.initInstanceIds reserve (ids.getLast?.getD 0), []⟩ ids hascending hpositive hbits
    hinit
  refine ⟨_, ?_, hsound⟩
  unfold loadLedger MapManager.load
  rw [hload, Option.map_some]
  rfl

/-- Ids are handed out as they should be along every run that starts from a loadable database and
never needs more room than the vector makes. -/
theorem instanceIds_lowestFree (hreserve : ∀ capacity size, size ≤ reserve capacity size)
    (ids : List UInt32) (hascending : ids.Pairwise (· < ·)) (hloadable : Loadable ids)
    (events : List IdEvent)
    (hroomy : Along (idStep reserve) Roomy (loadLedger reserve ids) events) :
    (loadLedger reserve ids).isSome = true ∧
      Along (idStep reserve) (Answered reserve) (loadLedger reserve ids) events := by
  obtain ⟨ledger, hload, hsound⟩ := load_spec hreserve hascending hloadable
  rw [hload] at hroomy ⊢
  refine ⟨rfl, along_of_invariant (idStep reserve)
    (fun state => ∃ ledger : IdLedger, state = some ledger ∧ ledger.Sound) ?_ ?_ (some ledger) events
    ⟨ledger, rfl, hsound⟩ hroomy⟩
  · rintro _ event ⟨here, rfl, hhere⟩ hallowed
    cases event with
    | generate =>
      obtain ⟨after, hgenerate, hafter⟩ := generate_spec hreserve hhere hallowed
      refine ⟨_, ?_, hafter⟩
      rw [idStep, hgenerate, Option.map_some]
    | free instanceId =>
      by_cases hused : instanceId ∈ here.used
      · obtain ⟨after, hfree, hafter⟩ := free_spec hhere hused
        refine ⟨_, ?_, hafter⟩
        rw [idStep, if_pos hused, hfree, Option.map_some]
      · exact ⟨here, by rw [idStep, if_neg hused], hhere⟩
  · rintro _ event ⟨here, rfl, hhere⟩ hallowed
    cases event with
    | generate =>
      obtain ⟨after, hgenerate, -⟩ := generate_spec hreserve hhere hallowed
      exact ⟨_, after, hgenerate, hhere.fresh, hhere.nextPositive, hhere.below⟩
    | free instanceId =>
      intro hused
      obtain ⟨after, hfree, -⟩ := free_spec hhere hused
      rw [hfree]
      rfl

end

/-- Memory is reserved in words of 64 bits. -/
def wordCapacity (capacity size : Nat) : Nat :=
  if size ≤ capacity then capacity else (size + 63) / 64 * 64

theorem le_wordCapacity (capacity size : Nat) : size ≤ wordCapacity capacity size := by
  unfold wordCapacity
  split
  next hle => exact hle
  · omega

/-- The bit of the only id of the database, a multiple of 32, is behind the end. -/
theorem not_instanceIds_lowestFree :
    ¬ ∀ (reserve : Nat → Nat → Nat), (∀ capacity size, size ≤ reserve capacity size) →
      ∀ ids : List UInt32, ids.Pairwise (· < ·) → (∀ id ∈ ids, 0 < id) → ∀ events,
        (loadLedger reserve ids).isSome = true ∧
          Along (idStep reserve) (Answered reserve) (loadLedger reserve ids) events := by
  intro hall
  have hload := (hall wordCapacity le_wordCapacity [32] (List.pairwise_singleton _ _)
    (List.forall_mem_singleton.mpr (by decide)) []).1
  exact absurd hload (by decide)

/-- One instance is loaded, two are made, the first of them is freed and its id used again. -/
theorem instanceIds_lowestFree_reused :
    (loadLedger wordCapacity [2]).isSome = true ∧
      Along (idStep wordCapacity) (Answered wordCapacity) (loadLedger wordCapacity [2])
        [.generate, .generate, .free 1, .generate] := by
  refine instanceIds_lowestFree le_wordCapacity [2] (List.pairwise_singleton _ _)
    ⟨List.forall_mem_singleton.mpr (by decide), fun last hlast => ?_⟩ _ ?_
  · cases hlast
    decide
  · refine ⟨?_, ?_, trivial, ?_, trivial⟩
    · exact ⟨⟨Or.inl (by decide), by decide⟩, 20, by decide, by decide, by decide⟩
    · exact ⟨⟨Or.inl (by decide), by decide⟩, 20, by decide, by decide, by decide⟩
    · exact ⟨⟨Or.inl (by decide), by decide⟩, 20, by decide, by decide, by decide⟩

end MopServer.Instances
