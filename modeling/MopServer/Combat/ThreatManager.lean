import Mathlib.Algebra.Ring.Int.Defs
import Mathlib.Order.Defs.LinearOrder
import MopServer.Foundation.Run
import MopServer.Foundation.Table

/-! # Threat lists

A creature keeps a list of the units it hates, and another of those it cannot reach.  Its victim is
chosen by going through the first list, which is only sorted when it has been marked as dirty.
-/

namespace MopServer.Combat

open MopServer.Foundation

/-- `HostileReference`; whether it is online is told by the list it is in. -/
structure HostileReference (Threat : Type) where
  guid : UInt64
  threat : Threat
  tempThreatModifier : Threat

instance instKeyedHostileReference {Threat : Type} : Keyed (HostileReference Threat) UInt64 :=
  ⟨HostileReference.guid⟩

/-- What is computed in floating point. -/
structure ThreatRules (Threat : Type) where
  /-- `1.1f * threat`. -/
  pct110 : Threat → Threat
  /-- `1.3f * threat`. -/
  pct130 : Threat → Threat
  addPct : Threat → Int → Threat

/-- What the creature finds out about its enemies when it looks for a victim. -/
structure View where
  canCreatureAttack : UInt64 → Bool
  /-- The unit is immune to damage, or has an aura that damage interrupts. -/
  secondChoice : UInt64 → Bool
  isWithinMeleeRange : UInt64 → Bool

structure ThreatManager (Threat : Type) where
  /-- `iThreatContainer`. -/
  online : Table (HostileReference Threat)
  /-- `iThreatOfflineContainer`. -/
  offline : Table (HostileReference Threat)
  dirty : Bool
  currentVictim : Option UInt64

variable {Threat : Type} [LinearOrder Threat] [Zero Threat] [Add Threat] [Sub Threat] [Neg Threat]
  (rules : ThreatRules Threat)

/-! ## The choice of a victim -/

/-- How a walk through the list ends. -/
inductive Walk (Threat : Type)
  | found (ref : HostileReference Threat)
  /-- All are second choice, as the last one is; the victim may be forgotten. -/
  | restart (victim : Option (HostileReference Threat))
  | nobody

/-- The loop of `selectNextVictim`, until it ends or starts again. -/
def walk (view : View) (noPriorityTargetFound : Bool) :
    Option (HostileReference Threat) → List (HostileReference Threat) → Walk Threat
  | _, [] => .nobody
  | victim, ref :: rest =>
    if !noPriorityTargetFound && view.secondChoice ref.guid then
      if rest.isEmpty then .restart victim
      else
        let victim := if victim.any (fun victim => victim.guid = ref.guid) then none else victim
        walk view noPriorityTargetFound victim rest
    else if view.canCreatureAttack ref.guid then
      match victim with
      | none => .found ref
      | some current =>
        if current.guid = ref.guid || ref.threat ≤ rules.pct110 current.threat then
          if current.guid ≠ ref.guid && view.canCreatureAttack current.guid then .found current
          else .found ref
        else if rules.pct130 current.threat < ref.threat ||
            (rules.pct110 current.threat < ref.threat && view.isWithinMeleeRange ref.guid) then
          .found ref
        else walk view noPriorityTargetFound (some current) rest
    else walk view noPriorityTargetFound victim rest

/-- `selectNextVictim`. -/
def selectNextVictim (view : View) (refs : List (HostileReference Threat))
    (currentVictim : Option (HostileReference Threat)) : Option (HostileReference Threat) :=
  match walk rules view false currentVictim refs with
  | .found ref => some ref
  | .nobody => none
  | .restart victim =>
    match walk rules view true victim refs with
    | .found ref => some ref
    | _ => none

omit [Zero Threat] [Add Threat] [Sub Threat] [Neg Threat] in
/-- `ThreatOrderPred`, by which a list is sorted without exchanging equal ones. -/
def byThreat : Rearrangement (HostileReference Threat) :=
  ⟨List.insertionSort fun first second => second.threat ≤ first.threat,
    fun refs => List.perm_insertionSort _ refs⟩

namespace ThreatManager

variable (manager : ThreatManager Threat)

/-- The reference of the current victim; only references that are online are victims. -/
def victim? : Option (HostileReference Threat) := manager.currentVictim.bind manager.online.get?

/-- `ThreatContainer::update`. -/
def updateContainer : ThreatManager Threat :=
  if manager.dirty && 1 < manager.online.rows.length then
    { manager with online := manager.online.rearrange byThreat, dirty := false }
  else { manager with dirty := false }

/-- `getHostilTarget`. -/
def getHostilTarget (view : View) : ThreatManager Threat :=
  let manager := manager.updateContainer
  let next := selectNextVictim rules view manager.online.rows manager.victim?
  { manager with currentVictim := next.map HostileReference.guid }

/-! ## Changes of references -/

def setDirty : ThreatManager Threat := { manager with dirty := true }

variable (guid : UInt64)

def dropVictim : ThreatManager Threat :=
  if manager.currentVictim = some guid then { manager with currentVictim := none, dirty := true }
  else manager

/-- `setOnlineOfflineState`, with the event it fires. -/
def setOnlineOfflineState (isOnline : Bool) : ThreatManager Threat :=
  if isOnline then
    match manager.offline.get? guid with
    | none => manager
    | some ref =>
      let higher := manager.victim?.any fun victim => rules.pct110 victim.threat < ref.threat
      { manager with
        dirty := manager.dirty || higher
        online := manager.online.insert ref (.back _)
        offline := manager.offline.erase guid }
  else
    match manager.online.get? guid with
    | none => manager
    | some ref =>
      let manager := manager.dropVictim guid
      { manager with
        online := manager.online.erase guid
        offline := manager.offline.insert ref (.back _) }

variable (modThreat : Threat)

/-- The event `UEV_THREAT_REF_THREAT_CHANGE`. -/
def threatChanged : ThreatManager Threat :=
  if manager.currentVictim = some guid && modThreat < 0 ||
      manager.currentVictim ≠ some guid && 0 < modThreat then manager.setDirty
  else manager

/-- `HostileReference::addThreat`; a reference that is not online is looked for, and is online again
if it is found. -/
def addThreatTo (found : Bool) : ThreatManager Threat :=
  let add (ref : HostileReference Threat) : HostileReference Threat :=
    { ref with threat := ref.threat + modThreat }
  let manager :=
    { manager with
      online := manager.online.modify guid add
      offline := manager.offline.modify guid add }
  let manager :=
    if (manager.online.get? guid).isNone then manager.setOnlineOfflineState rules guid found
    else manager
  if modThreat ≠ 0 then manager.threatChanged guid modThreat else manager

/-- `_addThreat`. -/
def addThreat (threat : Threat) (found isGameMaster : Bool) : ThreatManager Threat :=
  if (manager.online.get? guid).isSome || (manager.offline.get? guid).isSome then
    manager.addThreatTo rules guid threat found
  else
    let manager := { manager with online := manager.online.insert ⟨guid, 0, 0⟩ (.back _) }
    let manager := manager.addThreatTo rules guid threat found
    if isGameMaster then manager.setOnlineOfflineState rules guid false else manager

/-- `modifyThreatPercent`. -/
def modifyThreatPercent (percent : Int) : ThreatManager Threat :=
  match manager.online.get? guid with
  | none => manager
  | some ref => manager.addThreatTo rules guid (rules.addPct ref.threat percent - ref.threat) true

def setTempThreatModifier (value : Threat) : ThreatManager Threat :=
  { manager with
    online := manager.online.modify guid fun ref => { ref with tempThreatModifier := value } }

/-- `tauntApply`. -/
def tauntApply : ThreatManager Threat :=
  match manager.online.get? guid, manager.victim? with
  | some ref, some victim =>
    if ref.threat < victim.threat && ref.tempThreatModifier = 0 then
      let threat := victim.threat - ref.threat
      let manager := manager.setTempThreatModifier guid threat
      if threat ≠ 0 then manager.addThreatTo rules guid threat true else manager
    else manager
  | _, _ => manager

/-- `tauntFadeOut`. -/
def tauntFadeOut : ThreatManager Threat :=
  match manager.online.get? guid with
  | none => manager
  | some ref =>
    if ref.tempThreatModifier ≠ 0 then
      (manager.addThreatTo rules guid (-ref.tempThreatModifier) true).setTempThreatModifier guid 0
    else manager

/-- `setCurrentVictim`, for a reference of the list. -/
def setCurrentVictim : ThreatManager Threat :=
  if (manager.online.get? guid).isSome then { manager with currentVictim := some guid } else manager

/-- The event `UEV_THREAT_REF_REMOVE_FROM_LIST`. -/
def removeReference : ThreatManager Threat :=
  let manager := manager.dropVictim guid
  { manager with online := manager.online.erase guid, offline := manager.offline.erase guid }

/-- `clearReferences`. -/
def clearReferences : ThreatManager Threat :=
  { manager with online := .empty, offline := .empty, currentVictim := none }

/-- `resetAllAggro`. -/
def resetAllAggro : ThreatManager Threat :=
  if manager.online.rows.isEmpty then manager
  else
    (manager.online.rows.foldl (fun manager ref =>
      manager.addThreatTo rules ref.guid (0 - ref.threat) true) manager).setDirty

/-- What happens to a threat list.  The threat that owners of hated units get, and that of redirected
threat, is further threat that is added. -/
inductive Event (Threat : Type)
  | addThreat (guid : UInt64) (threat : Threat) (found isGameMaster : Bool)
  | modifyThreatPercent (guid : UInt64) (percent : Int)
  | tauntApply (guid : UInt64)
  | tauntFadeOut (guid : UInt64)
  | setOnlineOfflineState (guid : UInt64) (isOnline : Bool)
  | removeReference (guid : UInt64)
  | setCurrentVictim (guid : UInt64)
  | clearReferences
  | resetAllAggro
  | getHostilTarget (view : View)

def step : Event Threat → ThreatManager Threat
  | .addThreat guid threat found isGameMaster => manager.addThreat rules guid threat found isGameMaster
  | .modifyThreatPercent guid percent => manager.modifyThreatPercent rules guid percent
  | .tauntApply guid => manager.tauntApply rules guid
  | .tauntFadeOut guid => manager.tauntFadeOut rules guid
  | .setOnlineOfflineState guid isOnline => manager.setOnlineOfflineState rules guid isOnline
  | .removeReference guid => manager.removeReference guid
  | .setCurrentVictim guid => manager.setCurrentVictim guid
  | .clearReferences => manager.clearReferences
  | .resetAllAggro => manager.resetAllAggro rules
  | .getHostilTarget view => manager.getHostilTarget rules view

end ThreatManager

end MopServer.Combat
