import MopServer.Combat.ThreatReferences

/-! # Every reference is in the list of its flag

Between the change of the flag and the event a reference is in the wrong list; the event puts it
into the right one, and nothing that is nested runs in between.
-/

namespace MopServer.Combat.Memory

open MopServer.Foundation

variable {Threat : Type}

namespace ThreatManager

variable {manager other : ThreatManager Threat} {flag : Nat → Option Bool}

/-- Each reference is in exactly one of the lists, once, and in the one that its flag says; none has
the unit of another; the victim is online. -/
structure KeepsLists (manager : ThreatManager Threat) : Prop where
  once : ∀ ref object, manager.heap.get? ref = some object →
    manager.threatContainer.count ref + manager.threatOfflineContainer.count ref = 1
  online_iff : ∀ ref object, manager.heap.get? ref = some object →
    (ref ∈ manager.threatContainer ↔ object.online = true)
  unitGuid_inj : ∀ ref other object twin, manager.heap.get? ref = some object →
    manager.heap.get? other = some twin → object.unitGuid = twin.unitGuid → ref = other
  victim : ∀ ref, manager.currentVictim = some ref → ref ∈ manager.threatContainer
  /-- No list holds a reference that has been deleted. -/
  live : ∀ ref, ref ∈ manager.threatContainer ∨ ref ∈ manager.threatOfflineContainer →
    (manager.heap.get? ref).isSome

/-- The lists are as the flags say. -/
structure Listed (manager : ThreatManager Threat) (flag : Nat → Option Bool) : Prop where
  nodup : manager.threatContainer.Nodup
  nodup_offline : manager.threatOfflineContainer.Nodup
  mem : ∀ ref, ref ∈ manager.threatContainer ↔ flag ref = some true
  mem_offline : ∀ ref, ref ∈ manager.threatOfflineContainer ↔ flag ref = some false
  unitGuid_inj : ∀ ref twin guid, manager.unitGuid? ref = some guid →
    manager.unitGuid? twin = some guid → ref = twin
  victim : ∀ ref, manager.currentVictim = some ref → ref ∈ manager.threatContainer

/-- The lists are as the flags of the references say. -/
def Regular (manager : ThreatManager Threat) : Prop := manager.Listed manager.online?

theorem online?_eq (hheap : other.heap = manager.heap) : other.online? = manager.online? := by
  unfold online?
  rw [hheap]

theorem Listed.regular (hlisted : manager.Listed flag) (hflag : manager.online? = flag) :
    manager.Regular := by
  unfold Regular
  rwa [hflag]

variable (hregular : manager.Regular)

include hregular in
/-- A list without repetitions that has the reference exactly if its flag says so. -/
theorem Regular.keepsLists : manager.KeepsLists := by
  have hflag : ∀ ref object, manager.heap.get? ref = some object →
      manager.online? ref = some object.online := by
    intro ref object hobject
    unfold online?
    rw [hobject]
    rfl
  refine ⟨fun ref object hobject => ?_, fun ref object hobject => ?_, ?_, hregular.victim, ?_⟩
  · rw [hregular.nodup.count, hregular.nodup_offline.count]
    simp only [hregular.mem ref, hregular.mem_offline ref, hflag ref object hobject]
    cases object.online <;> rfl
  · rw [hregular.mem, hflag ref object hobject, Option.some.injEq]
  · intro ref twin object other hobject hother heq
    refine hregular.unitGuid_inj ref twin object.unitGuid ?_ ?_
    · unfold unitGuid?
      rw [hobject]
      rfl
    · unfold unitGuid?
      rw [hother, heq]
      rfl
  · intro ref hmem
    rw [hregular.mem, hregular.mem_offline] at hmem
    rw [Option.isSome_iff_ne_none]
    intro hnone
    unfold online? at hmem
    rw [hnone] at hmem
    rcases hmem with hflag | hflag <;> cases hflag

def Walk.Within (allowed : Nat → Prop) : Walk → Prop
  | found ref => allowed ref
  | restart currentVictim => ∀ ref, currentVictim = some ref → allowed ref
  | nobody => True

theorem regular_empty : (empty : ThreatManager Threat).Regular := by
  have honline : ∀ ref, (empty : ThreatManager Threat).online? ref = none := fun _ => rfl
  refine ⟨List.nodup_nil, List.nodup_nil, fun ref => ?_, fun ref => ?_, nofun, nofun⟩
  · rw [honline]
    exact ⟨nofun, nofun⟩
  · rw [honline]
    exact ⟨nofun, nofun⟩

include hregular in
theorem Regular.setCurrentVictim {victim : Option Nat}
    (hvictim : ∀ ref, victim = some ref → ref ∈ manager.threatContainer) :
    (manager.setCurrentVictim victim).Regular :=
  ⟨hregular.nodup, hregular.nodup_offline, hregular.mem, hregular.mem_offline,
    hregular.unitGuid_inj, hvictim⟩

/-- The managers differ in nothing that matters to the lists. -/
structure Agrees (manager other : ThreatManager Threat) : Prop where
  threatContainer : other.threatContainer = manager.threatContainer
  threatOfflineContainer : other.threatOfflineContainer = manager.threatOfflineContainer
  currentVictim : other.currentVictim = manager.currentVictim
  unitGuid? : ∀ ref, other.unitGuid? ref = manager.unitGuid? ref
  online? : ∀ ref, other.online? ref = manager.online? ref

namespace Agrees

theorem refl (manager : ThreatManager Threat) : Agrees manager manager :=
  ⟨rfl, rfl, rfl, fun _ => rfl, fun _ => rfl⟩

theorem trans {last : ThreatManager Threat} (hfirst : Agrees manager other)
    (hlast : Agrees other last) : Agrees manager last where
  threatContainer := hlast.threatContainer.trans hfirst.threatContainer
  threatOfflineContainer := hlast.threatOfflineContainer.trans hfirst.threatOfflineContainer
  currentVictim := hlast.currentVictim.trans hfirst.currentVictim
  unitGuid? ref := (hlast.unitGuid? ref).trans (hfirst.unitGuid? ref)
  online? ref := (hlast.online? ref).trans (hfirst.online? ref)

theorem listed (hagrees : Agrees manager other) (hlisted : manager.Listed flag) :
    other.Listed flag where
  nodup := hagrees.threatContainer ▸ hlisted.nodup
  nodup_offline := hagrees.threatOfflineContainer ▸ hlisted.nodup_offline
  mem := hagrees.threatContainer ▸ hlisted.mem
  mem_offline := hagrees.threatOfflineContainer ▸ hlisted.mem_offline
  unitGuid_inj ref twin guid href htwin :=
    hlisted.unitGuid_inj ref twin guid (hagrees.unitGuid? ref ▸ href) (hagrees.unitGuid? twin ▸ htwin)
  victim := by
    rw [hagrees.threatContainer, hagrees.currentVictim]
    exact hlisted.victim

theorem regular (hagrees : Agrees manager other) (hregular : manager.Regular) : other.Regular :=
  (hagrees.listed hregular).regular (funext hagrees.online?)

theorem ite {condition : Prop} [Decidable condition] (hagrees : Agrees manager other) :
    Agrees manager (if condition then other else manager) := by
  split
  · exact hagrees
  · exact refl manager

end Agrees

/-! ## Fields that no list depends on -/

theorem agrees_modify (ref : Nat) {change : HostileReference Threat → HostileReference Threat}
    (hguid : ∀ object, (change object).unitGuid = object.unitGuid)
    (honline : ∀ object, (change object).online = object.online) :
    Agrees manager (manager.modify ref change) where
  threatContainer := rfl
  threatOfflineContainer := rfl
  currentVictim := rfl
  unitGuid? := Heap.map_get?_modify hguid
  online? := Heap.map_get?_modify honline

theorem agrees_relink (world : World Threat) (ref : Nat) :
    Agrees manager (manager.relink world ref) :=
  Agrees.ite (agrees_modify ref (fun _ => rfl) fun _ => rfl)

/-! ## The flag and its event -/

variable {ref : Nat}

theorem agrees_setDirty : Agrees manager manager.setDirty :=
  ⟨rfl, rfl, rfl, fun _ => rfl, fun _ => rfl⟩

theorem unitGuid?_writeOnline (ref : Nat) (isOnline : Bool) :
    (manager.writeOnline ref isOnline).unitGuid? = manager.unitGuid? :=
  funext (Heap.map_get?_modify fun _ => rfl)

theorem online?_writeOnline {isOnline flag : Bool} (hflag : manager.online? ref = some flag) :
    (manager.writeOnline ref isOnline).online? =
      fun address => if address = ref then some isOnline else manager.online? address := by
  funext address
  obtain ⟨object, hobject, -⟩ := Option.map_eq_some_iff.mp hflag
  unfold online? writeOnline modify
  split
  next heq =>
    rw [heq, Heap.get?_modify_self, hobject]
    rfl
  next hne => rw [Heap.get?_modify hne]

theorem currentVictim_dropVictim {victim : Nat}
    (hvictim : (manager.dropVictim ref).currentVictim = some victim) :
    manager.currentVictim = some victim ∧ victim ≠ ref := by
  unfold dropVictim at hvictim
  split at hvictim
  next => cases hvictim
  next hother =>
    refine ⟨hvictim, ?_⟩
    rintro rfl
    exact hother hvictim

theorem dropVictim_eq (manager : ThreatManager Threat) (ref : Nat) :
    (manager.dropVictim ref).heap = manager.heap ∧
      (manager.dropVictim ref).threatContainer = manager.threatContainer ∧
      (manager.dropVictim ref).threatOfflineContainer = manager.threatOfflineContainer := by
  unfold dropVictim
  split
  · exact ⟨rfl, rfl, rfl⟩
  · exact ⟨rfl, rfl, rfl⟩

/-- A reference that has gone offline moves to the offline list and is nobody's victim. -/
theorem Listed.goesOffline (hlisted : manager.Listed flag) (hflag : flag ref = some true)
    (hother : other.heap = manager.heap)
    (hcontainer : other.threatContainer = manager.threatContainer.filter (· ≠ ref))
    (hoffline : other.threatOfflineContainer = manager.threatOfflineContainer ++ [ref])
    (hvictim : ∀ victim, other.currentVictim = some victim →
      manager.currentVictim = some victim ∧ victim ≠ ref) :
    other.Listed fun address => if address = ref then some false else flag address := by
  have hfresh : ref ∉ manager.threatOfflineContainer := by
    rw [hlisted.mem_offline, hflag]
    exact nofun
  refine ⟨?_, ?_, fun address => ?_, fun address => ?_, ?_, fun victim hcurrent => ?_⟩
  · exact hcontainer ▸ hlisted.nodup.filter _
  · rw [hoffline]
    exact List.nodup_append.mpr ⟨hlisted.nodup_offline, List.nodup_singleton ref,
      fun first hfirst second hsecond heq =>
        hfresh (List.mem_singleton.mp hsecond ▸ heq ▸ hfirst)⟩
  · rw [hcontainer, List.mem_filter, hlisted.mem]
    by_cases heq : address = ref <;> simp [heq]
  · rw [hoffline, List.mem_append, hlisted.mem_offline, List.mem_singleton]
    by_cases heq : address = ref <;> simp [heq]
  · unfold unitGuid?
    rw [hother]
    exact hlisted.unitGuid_inj
  · obtain ⟨hbefore, hne⟩ := hvictim victim hcurrent
    rw [hcontainer, List.mem_filter]
    exact ⟨hlisted.victim victim hbefore, decide_eq_true hne⟩

/-- A reference that is online again moves back. -/
theorem Listed.comesOnline (hlisted : manager.Listed flag) (hflag : flag ref = some false)
    (hother : other.heap = manager.heap)
    (hcontainer : other.threatContainer = manager.threatContainer ++ [ref])
    (hoffline : other.threatOfflineContainer = manager.threatOfflineContainer.filter (· ≠ ref))
    (hvictim : other.currentVictim = manager.currentVictim) :
    other.Listed fun address => if address = ref then some true else flag address := by
  have hfresh : ref ∉ manager.threatContainer := by
    rw [hlisted.mem, hflag]
    exact nofun
  refine ⟨?_, ?_, fun address => ?_, fun address => ?_, ?_, fun victim hcurrent => ?_⟩
  · rw [hcontainer]
    exact List.nodup_append.mpr ⟨hlisted.nodup, List.nodup_singleton ref,
      fun first hfirst second hsecond heq =>
        hfresh (List.mem_singleton.mp hsecond ▸ heq ▸ hfirst)⟩
  · exact hoffline ▸ hlisted.nodup_offline.filter _
  · rw [hcontainer, List.mem_append, hlisted.mem, List.mem_singleton]
    by_cases heq : address = ref <;> simp [heq]
  · rw [hoffline, List.mem_filter, hlisted.mem_offline]
    by_cases heq : address = ref <;> simp [heq]
  · unfold unitGuid?
    rw [hother]
    exact hlisted.unitGuid_inj
  · rw [hcontainer]
    exact List.mem_append_left _ (hlisted.victim victim (hvictim ▸ hcurrent))

include hregular in
/-- An offline reference that is in no list any more can be deleted. -/
theorem Regular.free (hne : manager.online? ref ≠ some true)
    (hheap : other.heap = manager.heap.free (· = ref))
    (hcontainer : other.threatContainer = manager.threatContainer)
    (hoffline : other.threatOfflineContainer = manager.threatOfflineContainer.filter (· ≠ ref))
    (hvictim : ∀ victim, other.currentVictim = some victim → manager.currentVictim = some victim) :
    other.Regular := by
  have hself : other.heap.get? ref = none := by
    rw [hheap]
    exact Heap.get?_free_of_chosen (decide_eq_true rfl)
  have hget : ∀ address, address ≠ ref → other.heap.get? address = manager.heap.get? address := by
    intro address haddress
    rw [hheap]
    exact Heap.get?_free (decide_eq_false haddress)
  have honline : other.online? = fun address =>
      if address = ref then none else manager.online? address := by
    funext address
    unfold online?
    split
    next heq => rw [heq, hself, Option.map_none]
    next haddress => rw [hget address haddress]
  have hguid : ∀ address guid, other.unitGuid? address = some guid →
      manager.unitGuid? address = some guid := by
    intro address guid haddress
    unfold unitGuid? at haddress ⊢
    by_cases heq : address = ref
    · rw [heq, hself] at haddress
      cases haddress
    · rwa [hget address heq] at haddress
  refine Listed.regular (?_ : other.Listed _) honline
  refine ⟨?_, ?_, fun address => ?_, fun address => ?_, ?_, ?_⟩
  · exact hcontainer ▸ hregular.nodup
  · exact hoffline ▸ hregular.nodup_offline.filter _
  · rw [hcontainer, hregular.mem]
    by_cases heq : address = ref <;> simp [heq, hne]
  · rw [hoffline, List.mem_filter, hregular.mem_offline]
    by_cases heq : address = ref <;> simp [heq]
  · exact fun first second guid hfirst hsecond => hregular.unitGuid_inj first second guid
      (hguid first guid hfirst) (hguid second guid hsecond)
  · exact fun victim hcurrent => hcontainer ▸ hregular.victim victim (hvictim victim hcurrent)

include hregular in
theorem Regular.clearReferences : manager.clearReferences.Regular := by
  have hnone : ∀ ref, manager.clearReferences.heap.get? ref = none := by
    intro ref
    cases hobject : manager.heap.get? ref with
    | none =>
      by_cases hchosen : decide (ref ∈ manager.threatContainer ∨
          ref ∈ manager.threatOfflineContainer) = true
      · exact Heap.get?_free_of_chosen hchosen
      · exact (Heap.get?_free (Bool.eq_false_iff.mpr hchosen)).trans hobject
    | some object =>
      refine Heap.get?_free_of_chosen (decide_eq_true ?_)
      rw [hregular.mem, hregular.mem_offline]
      unfold online?
      rw [hobject]
      cases object.online <;> simp
  have honline : ∀ ref, manager.clearReferences.online? ref = none := fun ref =>
    Option.map_eq_none_iff.mpr (hnone ref)
  refine ⟨List.nodup_nil, List.nodup_nil, fun ref => ?_, fun ref => ?_, ?_, nofun⟩
  · rw [honline]
    exact ⟨nofun, nofun⟩
  · rw [honline]
    exact ⟨nofun, nofun⟩
  · intro ref twin guid hguid
    obtain ⟨object, hobject, -⟩ := Option.map_eq_some_iff.mp hguid
    exact absurd hobject (hnone ref ▸ nofun)

include hregular in
theorem Regular.unitGuid?_ne {victim : UInt64}
    (honline : manager.getReferenceByTarget manager.threatContainer victim = none)
    (hoffline : manager.getReferenceByTarget manager.threatOfflineContainer victim = none)
    (ref : Nat) : manager.unitGuid? ref ≠ some victim := by
  intro hguid
  obtain ⟨object, hobject, -⟩ := Option.map_eq_some_iff.mp hguid
  have hflag : manager.online? ref = some object.online := by
    unfold online?
    rw [hobject]
    rfl
  unfold getReferenceByTarget at honline hoffline
  rw [List.find?_eq_none] at honline hoffline
  cases hcase : object.online with
  | true => exact honline ref ((hregular.mem ref).mpr (hcase ▸ hflag)) (decide_eq_true hguid)
  | false =>
    exact hoffline ref ((hregular.mem_offline ref).mpr (hcase ▸ hflag)) (decide_eq_true hguid)

variable [Zero Threat]

include hregular in
theorem Regular.newReference {victim : UInt64} (hfresh : ∀ ref, manager.unitGuid? ref ≠ some victim)
    : (manager.newReference victim).Regular := by
  have hnext : manager.online? manager.heap.next = none := Option.map_eq_none_iff.mpr Heap.get?_next
  have hself : (manager.newReference victim).heap.get? manager.heap.next = some _ :=
    Heap.get?_alloc_next _
  have hget : ∀ ref, ref ≠ manager.heap.next →
      (manager.newReference victim).heap.get? ref = manager.heap.get? ref :=
    fun ref hne => Heap.get?_alloc hne
  have hflag : (manager.newReference victim).online? = fun ref =>
      if ref = manager.heap.next then some true else manager.online? ref := by
    funext ref
    unfold online?
    split
    next heq => rw [heq, hself]; rfl
    next hne => rw [hget ref hne]
  have hguid : ∀ ref guid, (manager.newReference victim).unitGuid? ref = some guid →
      ref = manager.heap.next ∧ guid = victim ∨
        ref ≠ manager.heap.next ∧ manager.unitGuid? ref = some guid := by
    intro ref guid href
    unfold unitGuid? at href ⊢
    by_cases heq : ref = manager.heap.next
    · rw [heq, hself] at href
      exact .inl ⟨heq, (Option.some.inj href).symm⟩
    · exact .inr ⟨heq, hget ref heq ▸ href⟩
  refine Listed.regular (?_ : (manager.newReference victim).Listed _) hflag
  refine ⟨?_, hregular.nodup_offline, fun ref => ?_, fun ref => ?_, ?_, ?_⟩
  · refine List.nodup_append.mpr ⟨hregular.nodup, List.nodup_singleton _, ?_⟩
    rintro ref href _ hlast rfl
    rw [hregular.mem, List.mem_singleton.mp hlast, hnext] at href
    cases href
  · unfold ThreatManager.newReference
    rw [List.mem_append, hregular.mem, List.mem_singleton]
    by_cases heq : ref = manager.heap.next <;> simp [heq]
  · unfold ThreatManager.newReference
    rw [hregular.mem_offline]
    by_cases heq : ref = manager.heap.next <;> simp [heq, hnext]
  · intro ref twin guid href htwin
    rcases hguid ref guid href with ⟨hrefNew, rfl⟩ | ⟨-, hrefOld⟩
    · rcases hguid twin guid htwin with ⟨htwinNew, -⟩ | ⟨-, htwinOld⟩
      · exact hrefNew.trans htwinNew.symm
      · exact absurd htwinOld (hfresh twin)
    · rcases hguid twin guid htwin with ⟨-, rfl⟩ | ⟨-, htwinOld⟩
      · exact absurd hrefOld (hfresh ref)
      · exact hregular.unitGuid_inj ref twin guid hrefOld htwinOld
  · exact fun ref hcurrent => List.mem_append_left _ (hregular.victim ref hcurrent)

variable [LinearOrder Threat] {rules : Rules Threat}

theorem agrees_threatChange (ref : Nat) (value : Threat) :
    Agrees manager (manager.processThreatEvent rules ref (.threatChange value)) :=
  Agrees.ite agrees_setDirty

theorem agrees_setAccessibleState (ref : Nat) (isAccessible : Bool) :
    Agrees manager (manager.setAccessibleState rules ref isAccessible) :=
  Agrees.ite (agrees_modify ref (fun _ => rfl) fun _ => rfl)

/-- The event for a reference that is offline now. -/
theorem onlineStatus_of_offline (rules : Rules Threat) (hoffline : manager.online? ref ≠ some true)
    : let after := manager.processThreatEvent rules ref .onlineStatus
    after.heap = manager.heap ∧
      after.threatContainer = manager.threatContainer.filter (· ≠ ref) ∧
      after.threatOfflineContainer = manager.threatOfflineContainer ++ [ref] ∧
      ∀ victim, after.currentVictim = some victim →
        manager.currentVictim = some victim ∧ victim ≠ ref := by
  obtain ⟨hheap, hcontainer, hofflineContainer⟩ := dropVictim_eq manager ref
  unfold processThreatEvent
  rw [if_pos hoffline]
  exact ⟨hheap, congrArg _ hcontainer, congrArg (· ++ [ref]) hofflineContainer,
    fun victim => currentVictim_dropVictim⟩

/-- The event for a reference that is online now. -/
theorem onlineStatus_of_online (rules : Rules Threat) (honline : manager.online? ref = some true) :
    let after := manager.processThreatEvent rules ref .onlineStatus
    after.heap = manager.heap ∧
      after.threatContainer = manager.threatContainer ++ [ref] ∧
      after.threatOfflineContainer = manager.threatOfflineContainer.filter (· ≠ ref) ∧
      after.currentVictim = manager.currentVictim := by
  unfold processThreatEvent
  rw [if_neg (not_not.mpr honline)]
  exact ⟨rfl, rfl, rfl, rfl⟩

/-- The event puts a reference whose flag has been turned into the right list. -/
theorem regular_onlineStatus {isOnline : Bool} (hlisted : manager.Listed flag)
    (hflag : flag ref = some (!isOnline)) (honline : manager.online? =
      fun address => if address = ref then some isOnline else flag address) :
    (manager.processThreatEvent rules ref .onlineStatus).Regular := by
  have hself : manager.online? ref = some isOnline := by
    rw [honline]
    exact if_pos rfl
  cases isOnline with
  | false =>
    obtain ⟨hheap, hcontainer, hoffline, hvictim⟩ :=
      onlineStatus_of_offline rules (show manager.online? ref ≠ some true by rw [hself]; decide)
    exact (hlisted.goesOffline hflag hheap hcontainer hoffline hvictim).regular
      (honline ▸ online?_eq hheap)
  | true =>
    obtain ⟨hheap, hcontainer, hoffline, hvictim⟩ := onlineStatus_of_online rules hself
    exact (hlisted.comesOnline hflag hheap hcontainer hoffline hvictim).regular
      (honline ▸ online?_eq hheap)

include hregular in
/-- The flag and the list change together. -/
theorem Regular.setOnlineOfflineState (ref : Nat) (isOnline : Bool) :
    (manager.setOnlineOfflineState rules ref isOnline).Regular := by
  unfold ThreatManager.setOnlineOfflineState
  split
  next hflag =>
    have hlisted : (manager.writeOnline ref isOnline).Listed manager.online? :=
      ⟨hregular.nodup, hregular.nodup_offline, hregular.mem, hregular.mem_offline,
        by rw [unitGuid?_writeOnline]; exact hregular.unitGuid_inj, hregular.victim⟩
    have hagrees : Agrees (manager.writeOnline ref isOnline) (if !isOnline then
        (manager.writeOnline ref isOnline).setAccessibleState rules ref false
        else manager.writeOnline ref isOnline) := Agrees.ite (agrees_setAccessibleState ref false)
    refine regular_onlineStatus (hagrees.listed hlisted) hflag ?_
    exact (funext hagrees.online?).trans (online?_writeOnline hflag)
  next => exact hregular

theorem online?_setOnlineOfflineState_ne (ref : Nat) :
    (manager.setOnlineOfflineState rules ref false).online? ref ≠ some true := by
  unfold ThreatManager.setOnlineOfflineState
  split
  next hflag =>
    have hself : ((manager.writeOnline ref false).setAccessibleState rules ref false).online? ref =
        some false := by
      rw [(agrees_setAccessibleState ref false).online?, online?_writeOnline hflag]
      exact if_pos rfl
    have hne : ((manager.writeOnline ref false).setAccessibleState rules ref false).online? ref ≠
        some true := by
      rw [hself]
      decide
    obtain ⟨hheap, -⟩ := onlineStatus_of_offline rules hne
    exact (online?_eq hheap) ▸ hne
  next hflag => exact hflag

/-- The event for a reference that is offline and is to be deleted. -/
theorem removeFromList_of_offline (rules : Rules Threat)
    (hoffline : manager.online? ref ≠ some true) :
    let after := manager.processThreatEvent rules ref .removeFromList
    after.heap = manager.heap ∧ after.threatContainer = manager.threatContainer ∧
      after.threatOfflineContainer = manager.threatOfflineContainer.filter (· ≠ ref) ∧
      ∀ victim, after.currentVictim = some victim → manager.currentVictim = some victim := by
  obtain ⟨hheap, hcontainer, hofflineContainer⟩ := dropVictim_eq manager ref
  have hstill : (manager.dropVictim ref).online? ref ≠ some true := online?_eq hheap ▸ hoffline
  unfold processThreatEvent
  rw [if_neg hstill]
  exact ⟨hheap, hcontainer, congrArg _ hofflineContainer,
    fun victim hvictim => (currentVictim_dropVictim hvictim).1⟩

include hregular in
/-- A removal takes the reference out of the offline list, where it has gone, and deletes it. -/
theorem Regular.removeReference (ref : Nat) : (manager.removeReference rules ref).Regular := by
  set invalid := (manager.setOnlineOfflineState rules ref false).modify ref fun object =>
    { object with valid := false } with hinvalid
  have hagrees : Agrees (manager.setOnlineOfflineState rules ref false) invalid :=
    agrees_modify ref (fun _ => rfl) fun _ => rfl
  have hne : invalid.online? ref ≠ some true := by
    rw [hagrees.online?]
    exact online?_setOnlineOfflineState_ne ref
  obtain ⟨hheap, hcontainer, hoffline, hvictim⟩ := removeFromList_of_offline rules hne
  exact (hagrees.regular (hregular.setOnlineOfflineState ref false)).free hne
    (congrArg (fun heap => heap.free fun address => decide (address = ref)) hheap) hcontainer
    hoffline hvictim

include hregular in
theorem Regular.updateOnlineStatus (world : World Threat) (ref : Nat) :
    (manager.updateOnlineStatus rules world ref).Regular :=
  (((agrees_relink world ref).trans (agrees_setAccessibleState ref _)).regular
    hregular).setOnlineOfflineState ref _

/-! ## The victim -/

include hregular in
/-- The list is sorted by threat, and nothing gets lost. -/
theorem Regular.updateContainer : manager.updateContainer.Regular := by
  unfold ThreatManager.updateContainer
  split
  next =>
    have hperm := List.perm_insertionSort
      (fun first second => manager.threatOf second ≤ manager.threatOf first) manager.threatContainer
    exact ⟨hperm.nodup_iff.mpr hregular.nodup, hregular.nodup_offline,
      fun ref => hperm.mem_iff.trans (hregular.mem ref), hregular.mem_offline,
      hregular.unitGuid_inj, fun ref hcurrent => hperm.mem_iff.mpr (hregular.victim ref hcurrent)⟩
  next =>
    exact ⟨hregular.nodup, hregular.nodup_offline, hregular.mem, hregular.mem_offline,
      hregular.unitGuid_inj, hregular.victim⟩

theorem walk_within {view : View} {noPriorityTargetFound : Bool} {allowed : Nat → Prop}
    {currentVictim : Option Nat} {refs : List Nat}
    (hvictim : ∀ ref, currentVictim = some ref → allowed ref) (hrefs : ∀ ref ∈ refs, allowed ref) :
    (manager.walk rules view noPriorityTargetFound currentVictim refs).Within allowed := by
  induction refs generalizing currentVictim with
  | nil => trivial
  | cons currentRef rest ih =>
    have hfirst : allowed currentRef := hrefs currentRef List.mem_cons_self
    have hrest : ∀ ref ∈ rest, allowed ref := fun ref href =>
      hrefs ref (List.mem_cons_of_mem _ href)
    unfold walk
    split
    next =>
      split
      next => exact hvictim
      next =>
        refine ih (fun ref href => hvictim ref ?_) hrest
        split at href
        next => cases href
        next => exact href
    next =>
      split
      next =>
        split
        next => exact hfirst
        next victim =>
          split
          next =>
            split
            next => exact hvictim victim rfl
            next => exact hfirst
          next =>
            split
            next => exact hfirst
            next => exact ih hvictim hrest
      next => exact ih hvictim hrest

theorem mem_of_selectNextVictim {view : View}
    (hvictim : ∀ ref, manager.currentVictim = some ref → ref ∈ manager.threatContainer)
    (hselect : manager.selectNextVictim rules view = some ref) : ref ∈ manager.threatContainer := by
  have hfirst : (manager.walk rules view false manager.currentVictim
      manager.threatContainer).Within (· ∈ manager.threatContainer) :=
    walk_within hvictim fun _ hmem => hmem
  unfold selectNextVictim at hselect
  split at hselect
  next found hwalk =>
    rw [hwalk] at hfirst
    exact Option.some.inj hselect ▸ hfirst
  next => cases hselect
  next later hwalk =>
    rw [hwalk] at hfirst
    have hsecond : (manager.walk rules view true later manager.threatContainer).Within
        (· ∈ manager.threatContainer) := walk_within hfirst fun _ hmem => hmem
    split at hselect
    next found hagain =>
      rw [hagain] at hsecond
      exact Option.some.inj hselect ▸ hsecond
    next => cases hselect

include hregular in
theorem Regular.getHostilTarget (view : View) : (manager.getHostilTarget rules view).Regular := by
  have hupdated := hregular.updateContainer
  exact hupdated.setCurrentVictim fun ref href => mem_of_selectNextVictim hupdated.victim href

/-! ## Threat -/

variable [Add Threat] {world : World Threat}
  {nested : UInt64 → Threat → ThreatManager Threat → ThreatManager Threat}
  (hnested : ∀ victim threat manager, manager.Regular → (nested victim threat manager).Regular)

include hregular hnested in
/-- The threat of one reference, if what is added to its owner keeps the lists. -/
theorem Regular.addThreatTo (ref : Nat) (modThreat : Threat) :
    (manager.addThreatTo rules nested world ref modThreat).Regular := by
  have hmore : Agrees manager (manager.modify ref fun object =>
      { object with threat := object.threat + modThreat }) :=
    agrees_modify ref (fun _ => rfl) fun _ => rfl
  unfold ThreatManager.addThreatTo
  extract_lets more updated changed
  have hupdated : updated.Regular := by
    unfold updated
    split
    · exact (hmore.regular hregular).updateOnlineStatus world ref
    · exact hmore.regular hregular
  have hchanged : changed.Regular :=
    (Agrees.ite (agrees_threatChange ref modThreat)).regular hupdated
  split
  next =>
    split
    next victimOwner _ =>
      split
      · exact hnested victimOwner 0 changed hchanged
      · exact hchanged
    next => exact hchanged
  next => exact hchanged

include hregular hnested in
theorem Regular.addThreatRaw (victim : UInt64) (threat : Threat) :
    (manager.addThreatRaw rules nested world victim threat).Regular := by
  unfold ThreatManager.addThreatRaw
  split
  next ref _ => exact hregular.addThreatTo hnested ref threat
  next honline =>
    split
    next ref _ => exact hregular.addThreatTo hnested ref threat
    next hoffline =>
      have hnew := hregular.newReference (hregular.unitGuid?_ne honline hoffline)
      have hadded : ((manager.newReference victim).addThreatTo rules nested world
          manager.heap.next threat).Regular := hnew.addThreatTo hnested manager.heap.next threat
      split
      · exact hadded.setOnlineOfflineState _ false
      · exact hadded

variable [Sub Threat]

include hregular hnested in
theorem Regular.doAddThreat (victim : UInt64) (threat : Threat) :
    (manager.doAddThreat rules nested world victim threat).Regular := by
  unfold ThreatManager.doAddThreat
  dsimp only
  split
  next =>
    split
    next redirectTarget _ =>
      exact (hregular.addThreatRaw hnested redirectTarget _).addThreatRaw hnested victim _
    next => exact hregular.addThreatRaw hnested victim _
  next => exact hregular.addThreatRaw hnested victim threat

include hregular in
/-- By induction on the depth of the calls for owners. -/
theorem Regular.addThreat (depth : Nat) (victim : UInt64) (threat : Threat) :
    (ThreatManager.addThreat rules world depth victim threat manager).Regular := by
  induction depth generalizing victim threat manager with
  | zero => exact hregular
  | succ depth ih =>
    unfold ThreatManager.addThreat
    split
    · exact hregular
    · exact hregular.doAddThreat (fun victim threat _ hother => ih hother victim threat) victim _

include hregular in
theorem Regular.modifyThreatPercent (depth : Nat) (victim : UInt64) (percent : Int) :
    (manager.modifyThreatPercent rules world depth victim percent).Regular := by
  unfold ThreatManager.modifyThreatPercent
  split
  next => exact hregular
  next ref _ =>
    exact hregular.addThreatTo (fun victim threat _ hother => hother.addThreat depth victim threat)
      ref _

/-! ## Runs -/

include hregular in
/-- One event keeps the lists as the flags say. -/
theorem Regular.step (event : Event Threat) : (manager.step rules event).Regular := by
  cases event with
  | addThreat world depth victim threat => exact hregular.addThreat depth victim threat
  | doAddThreat world depth victim threat =>
    exact hregular.doAddThreat (fun victim threat _ hother => hother.addThreat depth victim threat)
      victim threat
  | addThreatTo world depth ref modThreat =>
    exact hregular.addThreatTo (fun victim threat _ hother => hother.addThreat depth victim threat)
      ref modThreat
  | modifyThreatPercent world depth victim percent =>
    exact hregular.modifyThreatPercent depth victim percent
  | updateOnlineStatus world ref => exact hregular.updateOnlineStatus world ref
  | setOnlineOfflineState ref isOnline => exact hregular.setOnlineOfflineState ref isOnline
  | setAccessibleState ref isAccessible =>
    exact (agrees_setAccessibleState ref isAccessible).regular hregular
  | removeReference ref => exact hregular.removeReference ref
  | clearReferences => exact hregular.clearReferences
  | getHostilTarget view => exact hregular.getHostilTarget view
  | forceVictim victim =>
    unfold ThreatManager.step
    dsimp only
    split
    next forcedVictim hfound =>
      refine hregular.setCurrentVictim fun ref href => ?_
      exact Option.some.inj href ▸ List.mem_of_find?_eq_some hfound
    next => exact hregular

/-- Whatever happens to the units of a manager, and in whatever order, its references stay in the
lists that their flags say. -/
theorem keepsLists_reached (rules : Rules Threat) (events : List (Event Threat)) :
    ∀ reached ∈ visited (ThreatManager.step rules) empty events, reached.KeepsLists := by
  intro reached hreached
  have hregular := invariant_of_along _ Regular (fun _ _ => True)
    (fun _ event hbefore _ => hbefore.step event) empty events regular_empty
    (along_of_forall _ (fun _ _ => trivial) _ events) reached hreached
  exact hregular.keepsLists

def wholePercents : Rules Int where
  pct110 threat := threat * 110 / 100
  pct130 threat := threat * 130 / 100
  addPct threat percent := threat + threat * percent / 100
  pct140 threat := threat * 140 / 100
  percentOf threat percent := threat * percent.toNat / 100

/-- Everything is in reach, and nothing has an owner. -/
def openField : World Int where
  isValidProcess _ := true
  hasVengeance _ := false
  calcThreat _ threat := threat
  reducedThreatPercent _ := 0
  misdirectionTarget _ := none
  glyphPercent _ := 0
  charmerOrOwner _ := none
  isAlive _ := true
  isGameMaster _ := false
  isFound _ := true
  isInFlight _ := false
  isInMap _ := true
  inSamePhase _ := true
  isInAccessiblePlace _ := true
  isWithinCombatRange _ := true

theorem keepsLists_offline :
    (visited (ThreatManager.step wholePercents) empty
        [.addThreat openField 1 7 10, .setOnlineOfflineState 0 false]).getLast?.any
      (fun reached => reached.threatOfflineContainer = [0]) = true ∧
      ∀ reached ∈ (visited (ThreatManager.step wholePercents) empty
        [.addThreat openField 1 7 10, .setOnlineOfflineState 0 false]).getLast?,
        reached.KeepsLists := by
  refine ⟨by decide, fun reached hreached => ?_⟩
  exact keepsLists_reached wholePercents _ reached (List.mem_of_getLast? hreached)

end ThreatManager

end MopServer.Combat.Memory
