import MopServer.Combat.ThreatManager
import MopServer.Foundation.Heap

/-! # The references of a threat manager as objects

A reference knows whether it is online, and its address is in one of two lists.  It is the flag that
is changed first; the event that follows moves the address, and threat that is added to a unit is
added to its owners in turn before the call returns.
-/

namespace MopServer.Combat.Memory

open MopServer.Foundation

/-- `HostileReference`. -/
structure HostileReference (Threat : Type) where
  unitGuid : UInt64
  threat : Threat
  online : Bool
  accessible : Bool
  /-- `isValid`: the target is linked. -/
  valid : Bool

structure ThreatManager (Threat : Type) where
  heap : Heap (HostileReference Threat)
  /-- `iThreatContainer`. -/
  threatContainer : List Nat
  /-- `iThreatOfflineContainer`. -/
  threatOfflineContainer : List Nat
  dirty : Bool
  currentVictim : Option Nat

/-- What is computed in floating point. -/
structure Rules (Threat : Type) extends ThreatRules Threat where
  /-- `1.4f * threat`, for tanks under vengeance. -/
  pct140 : Threat → Threat
  /-- `threat * percent / 100.0f`. -/
  percentOf : Threat → UInt32 → Threat

/-- What the rest of the server says about units while a call lasts. -/
structure World (Threat : Type) where
  isValidProcess : UInt64 → Bool
  hasVengeance : UInt64 → Bool
  calcThreat : UInt64 → Threat → Threat
  reducedThreatPercent : UInt64 → UInt32
  misdirectionTarget : UInt64 → Option UInt64
  /-- What the glyph of vigilance of the target of a misdirection adds. -/
  glyphPercent : UInt64 → UInt32
  charmerOrOwner : UInt64 → Option UInt64
  isAlive : UInt64 → Bool
  /-- The unit is a player and a game master. -/
  isGameMaster : UInt64 → Bool
  /-- `ObjectAccessor::GetUnit` finds the unit. -/
  isFound : UInt64 → Bool
  isInFlight : UInt64 → Bool
  isInMap : UInt64 → Bool
  inSamePhase : UInt64 → Bool
  isInAccessiblePlace : UInt64 → Bool
  isWithinCombatRange : UInt64 → Bool

/-- `ThreatRefStatusChangeEvent`. -/
inductive StatusChange (Threat : Type)
  | threatChange (value : Threat)
  | onlineStatus
  | accessibleStatus
  | removeFromList

variable {Threat : Type} [LinearOrder Threat] [Zero Threat] [Add Threat] [Sub Threat]
  (rules : Rules Threat)

namespace ThreatManager

variable (manager : ThreatManager Threat)

def empty : ThreatManager Threat := ⟨.empty, [], [], false, none⟩

/-! ## References -/

variable (ref : Nat)

def unitGuid? : Option UInt64 := (manager.heap.get? ref).map HostileReference.unitGuid

/-- `isOnline`, for references that have not been deleted. -/
def online? : Option Bool := (manager.heap.get? ref).map HostileReference.online

def isValid : Bool := (manager.heap.get? ref).any HostileReference.valid

def threatOf : Threat := ((manager.heap.get? ref).map HostileReference.threat).getD 0

/-- A write to the fields of a reference. -/
def modify (ref : Nat) (change : HostileReference Threat → HostileReference Threat) :
    ThreatManager Threat := { manager with heap := manager.heap.modify ref change }

/-- A write to `iOnline`. -/
def writeOnline (isOnline : Bool) : ThreatManager Threat :=
  manager.modify ref fun object => { object with online := isOnline }

def setDirty : ThreatManager Threat := { manager with dirty := true }

def dropVictim : ThreatManager Threat :=
  if manager.currentVictim = some ref then { manager with currentVictim := none, dirty := true }
  else manager

/-- `processThreatEvent`. -/
def processThreatEvent : StatusChange Threat → ThreatManager Threat
  | .threatChange value =>
    if manager.currentVictim = some ref ∧ value < 0 ∨ manager.currentVictim ≠ some ref ∧ 0 < value
    then manager.setDirty
    else manager
  | .onlineStatus =>
    if manager.online? ref ≠ some true then
      let manager := manager.dropVictim ref
      { manager with
        threatContainer := manager.threatContainer.filter (· ≠ ref)
        threatOfflineContainer := manager.threatOfflineContainer ++ [ref] }
    else
      let higher := manager.currentVictim.any fun victim =>
        rules.pct110 (manager.threatOf victim) < manager.threatOf ref
      { manager with
        dirty := manager.dirty || higher
        threatContainer := manager.threatContainer ++ [ref]
        threatOfflineContainer := manager.threatOfflineContainer.filter (· ≠ ref) }
  | .accessibleStatus => manager
  | .removeFromList =>
    let manager := manager.dropVictim ref
    if manager.online? ref = some true then
      { manager with threatContainer := manager.threatContainer.filter (· ≠ ref) }
    else
      { manager with threatOfflineContainer := manager.threatOfflineContainer.filter (· ≠ ref) }

/-- `setAccessibleState`. -/
def setAccessibleState (isAccessible : Bool) : ThreatManager Threat :=
  if (manager.heap.get? ref).any fun object => object.accessible ≠ isAccessible then
    (manager.modify ref fun object => { object with accessible := isAccessible }).processThreatEvent
      rules ref .accessibleStatus
  else manager

/-- `setOnlineOfflineState`. -/
def setOnlineOfflineState (isOnline : Bool) : ThreatManager Threat :=
  if manager.online? ref = some (!isOnline) then
    let manager := manager.writeOnline ref isOnline
    let manager := if !isOnline then manager.setAccessibleState rules ref false else manager
    manager.processThreatEvent rules ref .onlineStatus
  else manager

variable (world : World Threat)

/-- The link of a reference that has none, if its unit is found. -/
def relink (ref : Nat) : ThreatManager Threat :=
  if !manager.isValid ref && (manager.unitGuid? ref).any world.isFound then
    manager.modify ref fun object => { object with valid := true }
  else manager

/-- `updateOnlineStatus`. -/
def updateOnlineStatus (ref : Nat) : ThreatManager Threat :=
  let manager := manager.relink world ref
  let reachable := manager.isValid ref && (manager.unitGuid? ref).any fun guid =>
    !world.isGameMaster guid && !world.isInFlight guid && world.isInMap guid &&
      world.inSamePhase guid
  let accessible := reachable && (manager.unitGuid? ref).any world.isInAccessiblePlace
  let online := accessible || reachable && (manager.unitGuid? ref).any world.isWithinCombatRange
  (manager.setAccessibleState rules ref accessible).setOnlineOfflineState rules ref online

/-- `HostileReference::addThreat`, with the call that adds threat to the owner. -/
def addThreatTo (addThreat : UInt64 → Threat → ThreatManager Threat → ThreatManager Threat)
    (world : World Threat) (ref : Nat) (modThreat : Threat) : ThreatManager Threat :=
  let manager := manager.modify ref fun object =>
    { object with threat := object.threat + modThreat }
  let manager :=
    if manager.online? ref ≠ some true then manager.updateOnlineStatus rules world ref else manager
  let manager :=
    if modThreat ≠ 0 then manager.processThreatEvent rules ref (.threatChange modThreat)
    else manager
  if manager.isValid ref ∧ 0 ≤ modThreat then
    match (manager.unitGuid? ref).bind world.charmerOrOwner with
    | some victimOwner =>
      if world.isAlive victimOwner then addThreat victimOwner 0 manager else manager
    | none => manager
  else manager

/-! ## The manager -/

/-- `getReferenceByTarget`. -/
def getReferenceByTarget (threatList : List Nat) (victim : UInt64) : Option Nat :=
  threatList.find? fun ref => manager.unitGuid? ref = some victim

def newReference (victim : UInt64) : ThreatManager Threat :=
  { manager with
    heap := manager.heap.alloc
      { unitGuid := victim, threat := 0, online := true, accessible := true, valid := true }
    threatContainer := manager.threatContainer ++ [manager.heap.next] }

/-- `_addThreat`. -/
def addThreatRaw (addThreat : UInt64 → Threat → ThreatManager Threat → ThreatManager Threat)
    (world : World Threat) (victim : UInt64) (threat : Threat) : ThreatManager Threat :=
  match manager.getReferenceByTarget manager.threatContainer victim with
  | some ref => manager.addThreatTo rules addThreat world ref threat
  | none =>
    match manager.getReferenceByTarget manager.threatOfflineContainer victim with
    | some ref => manager.addThreatTo rules addThreat world ref threat
    | none =>
      let hostileRef := manager.heap.next
      let manager := manager.newReference victim
      let manager := manager.addThreatTo rules addThreat world hostileRef threat
      if world.isGameMaster victim then manager.setOnlineOfflineState rules hostileRef false
      else manager

/-- `doAddThreat`; a part of the threat may go to another unit. -/
def doAddThreat (addThreat : UInt64 → Threat → ThreatManager Threat → ThreatManager Threat)
    (world : World Threat) (victim : UInt64) (threat : Threat) : ThreatManager Threat :=
  let reducedThreatPercent := world.reducedThreatPercent victim
  if 0 < threat ∧ reducedThreatPercent ≠ 0 then
    let redirectTarget := world.misdirectionTarget victim
    let reducedThreatPercent := reducedThreatPercent + (redirectTarget.map world.glyphPercent).getD 0
    let reducedThreat := rules.percentOf threat reducedThreatPercent
    let manager := match redirectTarget with
      | some redirectTarget => manager.addThreatRaw rules addThreat world redirectTarget reducedThreat
      | none => manager
    manager.addThreatRaw rules addThreat world victim (threat - reducedThreat)
  else manager.addThreatRaw rules addThreat world victim threat

/-- `addThreat`; the calls for owners nest as deep as the depth says. -/
def addThreat (world : World Threat) : Nat → UInt64 → Threat → ThreatManager Threat →
    ThreatManager Threat
  | 0, _, _, manager => manager
  | depth + 1, victim, threat, manager =>
    if !world.isValidProcess victim then manager
    else
      let threat := if world.hasVengeance victim then rules.pct140 threat else threat
      manager.doAddThreat rules (addThreat world depth) world victim
        (world.calcThreat victim threat)

/-- `modifyThreatPercent`. -/
def modifyThreatPercent (depth : Nat) (victim : UInt64) (percent : Int) : ThreatManager Threat :=
  match manager.getReferenceByTarget manager.threatContainer victim with
  | none => manager
  | some ref => manager.addThreatTo rules (addThreat rules world depth) world ref
      (rules.addPct (manager.threatOf ref) percent - manager.threatOf ref)

/-- `removeReference`, after which the reference is deleted. -/
def removeReference : ThreatManager Threat :=
  -- `invalidate` cuts the link when the source has been told.
  let manager := manager.setOnlineOfflineState rules ref false
  let manager := manager.modify ref fun object => { object with valid := false }
  let manager := manager.processThreatEvent rules ref .removeFromList
  { manager with heap := manager.heap.free (· = ref) }

/-- `clearReferences`. -/
def clearReferences : ThreatManager Threat :=
  { manager with
    heap := manager.heap.free fun ref =>
      ref ∈ manager.threatContainer ∨ ref ∈ manager.threatOfflineContainer
    threatContainer := []
    threatOfflineContainer := []
    currentVictim := none }

/-! ## The choice of a victim -/

/-- `ThreatContainer::update`. -/
def updateContainer : ThreatManager Threat :=
  if manager.dirty && 1 < manager.threatContainer.length then
    { manager with
      threatContainer := manager.threatContainer.insertionSort fun first second =>
        manager.threatOf second ≤ manager.threatOf first
      dirty := false }
  else { manager with dirty := false }

/-- How a walk through the list ends. -/
inductive Walk
  | found (ref : Nat)
  /-- All are second choice, as the last one is; the victim may be forgotten. -/
  | restart (currentVictim : Option Nat)
  | nobody

/-- What the creature finds out about the target of a reference. -/
def asks (question : UInt64 → Bool) (ref : Nat) : Bool := (manager.unitGuid? ref).any question

/-- The loop of `selectNextVictim`, until it ends or starts again. -/
def walk (view : View) (noPriorityTargetFound : Bool) : Option Nat → List Nat → Walk
  | _, [] => .nobody
  | currentVictim, currentRef :: rest =>
    if !noPriorityTargetFound && manager.asks view.secondChoice currentRef then
      if rest.isEmpty then .restart currentVictim
      else
        walk view noPriorityTargetFound
          (if currentVictim = some currentRef then none else currentVictim) rest
    else if manager.asks view.canCreatureAttack currentRef then
      match currentVictim with
      | none => .found currentRef
      | some victim =>
        if victim = currentRef ∨
            manager.threatOf currentRef ≤ rules.pct110 (manager.threatOf victim) then
          if victim ≠ currentRef && manager.asks view.canCreatureAttack victim then
            .found victim
          else .found currentRef
        else if rules.pct130 (manager.threatOf victim) < manager.threatOf currentRef ∨
            rules.pct110 (manager.threatOf victim) < manager.threatOf currentRef ∧
              manager.asks view.isWithinMeleeRange currentRef then
          .found currentRef
        else walk view noPriorityTargetFound currentVictim rest
    else walk view noPriorityTargetFound currentVictim rest

/-- `selectNextVictim`. -/
def selectNextVictim (view : View) : Option Nat :=
  match manager.walk rules view false manager.currentVictim manager.threatContainer with
  | .found ref => some ref
  | .nobody => none
  | .restart currentVictim =>
    match manager.walk rules view true currentVictim manager.threatContainer with
    | .found ref => some ref
    | _ => none

/-- `setCurrentVictim`. -/
def setCurrentVictim (ref : Option Nat) : ThreatManager Threat :=
  { manager with currentVictim := ref }

/-- `getHostilTarget`. -/
def getHostilTarget (view : View) : ThreatManager Threat :=
  let manager := manager.updateContainer
  manager.setCurrentVictim (manager.selectNextVictim rules view)

/-! ## Runs -/

/-- What is done to a threat manager, by its owner or through the list of references that a target
keeps. -/
inductive Event (Threat : Type)
  | addThreat (world : World Threat) (depth : Nat) (victim : UInt64) (threat : Threat)
  /-- Threat that assists a unit is computed beforehand. -/
  | doAddThreat (world : World Threat) (depth : Nat) (victim : UInt64) (threat : Threat)
  /-- Taunts and the target change the threat of one reference. -/
  | addThreatTo (world : World Threat) (depth : Nat) (ref : Nat) (modThreat : Threat)
  | modifyThreatPercent (world : World Threat) (depth : Nat) (victim : UInt64) (percent : Int)
  | updateOnlineStatus (world : World Threat) (ref : Nat)
  | setOnlineOfflineState (ref : Nat) (isOnline : Bool)
  | setAccessibleState (ref : Nat) (isAccessible : Bool)
  | removeReference (ref : Nat)
  | clearReferences
  | getHostilTarget (view : View)
  /-- A taunt makes its caster the victim if it is online. -/
  | forceVictim (victim : UInt64)

def step : Event Threat → ThreatManager Threat
  | .addThreat world depth victim threat => addThreat rules world depth victim threat manager
  | .doAddThreat world depth victim threat =>
    manager.doAddThreat rules (addThreat rules world depth) world victim threat
  | .addThreatTo world depth ref modThreat =>
    manager.addThreatTo rules (addThreat rules world depth) world ref modThreat
  | .modifyThreatPercent world depth victim percent =>
    manager.modifyThreatPercent rules world depth victim percent
  | .updateOnlineStatus world ref => manager.updateOnlineStatus rules world ref
  | .setOnlineOfflineState ref isOnline => manager.setOnlineOfflineState rules ref isOnline
  | .setAccessibleState ref isAccessible => manager.setAccessibleState rules ref isAccessible
  | .removeReference ref => manager.removeReference rules ref
  | .clearReferences => manager.clearReferences
  | .getHostilTarget view => manager.getHostilTarget rules view
  | .forceVictim victim =>
    match manager.getReferenceByTarget manager.threatContainer victim with
    | some forcedVictim => manager.setCurrentVictim (some forcedVictim)
    | none => manager

end ThreatManager

end MopServer.Combat.Memory
