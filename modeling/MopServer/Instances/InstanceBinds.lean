import Mathlib.Logic.Function.Basic
import Mathlib.Data.List.Nodup
import Mathlib.Data.UInt

/-! # Binds of players and groups to instances

A save lists the players and groups bound to it, and these have binds that point back to the save.
Saves are found by the id of their instance, and are freed when nobody is bound to them any more or
when their instance is reset.
-/

namespace MopServer.Instances

inductive HolderKind where
  | player
  | group
  deriving DecidableEq, Repr

/-- A player or a group. -/
@[ext]
structure Holder where
  kind : HolderKind
  guid : UInt64
  deriving DecidableEq, Repr

/-- A save with `m_playerList` and `m_groupList`. -/
structure InstanceSave where
  list : HolderKind → List UInt64
  instanceid : UInt32
  mapid : UInt32
  difficulty : Fin 15
  canReset : Bool
  toDelete : Bool

namespace InstanceSave

variable (save : InstanceSave)

def withList (kind : HolderKind) (guids : List UInt64) : InstanceSave :=
  { save with list := Function.update save.list kind guids }

/-- `AddPlayer`, `AddGroup`. -/
def add (holder : Holder) : InstanceSave :=
  save.withList holder.kind (save.list holder.kind ++ [holder.guid])

/-- `m_playerList.remove`, `m_groupList.remove`. -/
def remove (holder : Holder) : InstanceSave :=
  save.withList holder.kind ((save.list holder.kind).filter fun guid => guid ≠ holder.guid)

def isEmpty (save : InstanceSave) : Bool :=
  (save.list .player).isEmpty && (save.list .group).isEmpty

end InstanceSave

/-- `InstancePlayerBind`, `InstanceGroupBind`; a save is known by its address. -/
structure InstanceBind where
  save : Nat
  perm : Bool

/-- The entry of a map in `sMapStore`. -/
structure MapEntry where
  isRaid : Bool
  instanceable : Bool

/-- `MAX_RAID_DIFFICULTY` or `MAX_DUNGEON_DIFFICULTY`. -/
def MapEntry.maxDifficulty (entry : MapEntry) : Nat := if entry.isRaid then 10 else 9

/-- The maps, and the maps and difficulties that are reset globally. -/
structure MapStore where
  entry : UInt32 → Option MapEntry
  resetTime : UInt32 → Fin 15 → Bool

/-- The saves in memory, those found by their ids, and the binds of all players and groups. -/
structure Bindings where
  saves : Nat → Option InstanceSave
  nextSave : Nat
  instanceSaveById : List (UInt32 × Nat)
  bound : Holder → Fin 15 → UInt32 → Option InstanceBind
  lockInstLists : Bool

namespace Bindings

def empty : Bindings :=
  { saves := fun _ => none, nextSave := 0, instanceSaveById := [], bound := fun _ _ _ => none
    lockInstLists := false }

variable (bindings : Bindings)

def putSave (address : Nat) (save : Option InstanceSave) : Bindings :=
  { bindings with saves := Function.update bindings.saves address save }

def putBind (holder : Holder) (difficulty : Fin 15) (mapid : UInt32) (bind : Option InstanceBind) :
    Bindings :=
  { bindings with
    bound := fun otherHolder otherDifficulty otherMap =>
      if otherHolder = holder ∧ otherDifficulty = difficulty ∧ otherMap = mapid then bind
      else bindings.bound otherHolder otherDifficulty otherMap }

variable (instanceId : UInt32)

/-- `m_instanceSaveById.erase`. -/
def eraseId : Bindings :=
  { bindings with
    instanceSaveById := bindings.instanceSaveById.filter fun entry => entry.1 ≠ instanceId }

def getInstanceSave : Option Nat :=
  (bindings.instanceSaveById.find? fun entry => entry.1 = instanceId).map Prod.snd

/-- `m_instanceSaveById[instanceId] = save` for a new save. -/
def register (save : InstanceSave) : Bindings :=
  { bindings.putSave bindings.nextSave (some save) with
    nextSave := bindings.nextSave + 1
    instanceSaveById := (save.instanceid, bindings.nextSave) :: bindings.instanceSaveById }

/-- `AddInstanceSave`; the constructor of the save keeps 16 bits of the map. -/
def addInstanceSave (maps : MapStore) (bindings : Bindings) (mapId instanceId : UInt32)
    (difficulty : Fin 15) (canReset : Bool) : Bindings :=
  match bindings.getInstanceSave instanceId, maps.entry mapId with
  | some _, _ => bindings
  | none, none => bindings
  | none, some entry =>
    if instanceId = 0 then bindings
    else if entry.maxDifficulty ≤ difficulty.val then bindings
    else
      bindings.register
        { list := fun _ => [], instanceid := instanceId, mapid := mapId.toUInt16.toUInt32
          difficulty := difficulty, canReset := canReset, toDelete := false }

/-- `RemoveInstanceSave`. -/
def removeInstanceSave : Option Bindings :=
  match bindings.getInstanceSave instanceId with
  | none => some bindings
  | some address =>
    (bindings.saves address).map fun save =>
      (bindings.putSave address (some { save with toDelete := true })).eraseId instanceId

section

-- whether there are players inside the map of an instance
variable (havePlayers : UInt32 → UInt32 → Bool) (bindings : Bindings)

/-- `UnloadIfEmpty`. -/
def unloadIfEmpty (save : InstanceSave) : Option Bindings :=
  if save.isEmpty && !havePlayers save.mapid save.instanceid && !bindings.lockInstLists then
    bindings.removeInstanceSave save.instanceid
  else some bindings

/-- `RemovePlayer`, `RemoveGroup`; there is no result where freed memory would be used. -/
def removeHolder (address : Nat) (holder : Holder) : Option Bindings := do
  let save ← bindings.saves address
  let bindings ← (bindings.putSave address (save.remove holder)).unloadIfEmpty havePlayers
    (save.remove holder)
  let save ← bindings.saves address
  if save.toDelete then some (bindings.putSave address none) else some bindings

/-- `UnbindInstance`. -/
def unbindInstance (holder : Holder) (mapid : UInt32) (difficulty : Fin 15) : Option Bindings :=
  match bindings.bound holder difficulty mapid with
  | none => some bindings
  | some bind =>
    (bindings.removeHolder havePlayers bind.save holder).map fun bindings =>
      bindings.putBind holder difficulty mapid none

/-- The part of `BindToInstance` that takes the holder from the list of one save to that of
another. -/
def moveTo (holder : Holder) (address : Nat) : Option Bindings := do
  let save ← bindings.saves address
  let old := bindings.bound holder save.difficulty save.mapid
  if old.map InstanceBind.save = some address then some bindings
  else
    let bindings ←
      match old with
      | none => some bindings
      | some bind => bindings.removeHolder havePlayers bind.save holder
    let save ← bindings.saves address
    some (bindings.putSave address (save.add holder))

/-- `BindToInstance` of a player. -/
def bindPlayer (guid : UInt64) (address : Nat) (permanent : Bool) : Option Bindings := do
  let bindings ← bindings.moveTo havePlayers ⟨.player, guid⟩ address
  let save ← bindings.saves address
  let save := if permanent then { save with canReset := false } else save
  some ((bindings.putSave address save).putBind ⟨.player, guid⟩ save.difficulty save.mapid
    (some ⟨address, permanent⟩))

/-- `BindToInstance` of a group, which may be one of a battleground or battlefield. -/
def bindGroup (guid : UInt64) (address : Nat) (permanent : Bool) (isBGGroup : Bool) :
    Option Bindings :=
  if isBGGroup then some bindings
  else do
    let bindings ← bindings.moveTo havePlayers ⟨.group, guid⟩ address
    let save ← bindings.saves address
    some (bindings.putBind ⟨.group, guid⟩ save.difficulty save.mapid (some ⟨address, permanent⟩))

/-- A loop of `_ResetSave`, that unbinds the first one of a list until it is empty. -/
def unbindAll (address : Nat) (kind : HolderKind) : Nat → Bindings → Option Bindings
  | 0, _ => none
  | fuel + 1, bindings =>
    match bindings.saves address with
    | none => none
    | some save =>
      match save.list kind with
      | [] => some bindings
      | guid :: _ =>
        (bindings.unbindInstance havePlayers ⟨kind, guid⟩ save.mapid save.difficulty).bind
          (unbindAll address kind fuel)

/-- `_ResetSave`; a save with holders must not be deleted. -/
def resetSave (fuel : Nat) (bindings : Bindings) (instanceId : UInt32) (address : Nat) :
    Option Bindings := do
  let bindings ← unbindAll havePlayers address .player fuel { bindings with lockInstLists := true }
  let bindings ← unbindAll havePlayers address .group fuel bindings
  let save ← bindings.saves address
  if save.isEmpty then
    some { (bindings.putSave address none).eraseId instanceId with lockInstLists := false }
  else none

/-- How often the loops for a save are entered at most. -/
def holders (address : Nat) : Nat :=
  match bindings.saves address with
  | none => 0
  | some save => (save.list .player).length + (save.list .group).length

/-- `_ResetInstance`. -/
def resetInstance (maps : MapStore) (bindings : Bindings) (mapid instanceId : UInt32) :
    Option Bindings :=
  if (maps.entry mapid).any MapEntry.instanceable then
    match bindings.getInstanceSave instanceId with
    | none => some bindings
    | some address =>
      bindings.resetSave havePlayers (bindings.holders address + 1) instanceId address
  else some bindings

def isOf (mapid : UInt32) (difficulty : Fin 15) (address : Nat) : Bool :=
  (bindings.saves address).any fun save => save.mapid = mapid && save.difficulty = difficulty

/-- The loop of `_ResetOrWarnAll` over the saves. -/
def resetSaves (mapid : UInt32) (difficulty : Fin 15) :
    List (UInt32 × Nat) → Bindings → Option Bindings
  | [], bindings => some bindings
  | (instanceId, address) :: rest, bindings =>
    (if bindings.isOf mapid difficulty address then
      bindings.resetSave havePlayers (bindings.holders address + 1) instanceId address
    else some bindings).bind (resetSaves mapid difficulty rest)

/-- `_ResetOrWarnAll` that resets. -/
def resetAll (maps : MapStore) (bindings : Bindings) (mapid : UInt32) (difficulty : Fin 15) :
    Option Bindings :=
  if (maps.entry mapid).any MapEntry.instanceable && maps.resetTime mapid difficulty then
    resetSaves havePlayers mapid difficulty bindings.instanceSaveById bindings
  else some bindings

end

end Bindings

/-- What may happen to saves and binds, with the instances whose maps have players inside. -/
inductive BindEvent where
  | addInstanceSave (mapId instanceId : UInt32) (difficulty : Fin 15) (canReset : Bool)
  | bindPlayer (havePlayers : UInt32 → UInt32 → Bool) (guid : UInt64) (instanceId : UInt32)
      (permanent : Bool)
  | bindGroup (havePlayers : UInt32 → UInt32 → Bool) (guid : UInt64) (instanceId : UInt32)
      (permanent isBGGroup : Bool)
  | unbind (havePlayers : UInt32 → UInt32 → Bool) (holder : Holder) (mapid : UInt32)
      (difficulty : Fin 15)
  | resetInstance (havePlayers : UInt32 → UInt32 → Bool) (mapid instanceId : UInt32)
  | resetAll (havePlayers : UInt32 → UInt32 → Bool) (mapid : UInt32) (difficulty : Fin 15)

namespace Bindings

def handle (maps : MapStore) (bindings : Bindings) : BindEvent → Option Bindings
  | .addInstanceSave mapId instanceId difficulty canReset =>
    some (bindings.addInstanceSave maps mapId instanceId difficulty canReset)
  | .bindPlayer havePlayers guid instanceId permanent =>
    match bindings.getInstanceSave instanceId with
    | none => some bindings
    | some address => bindings.bindPlayer havePlayers guid address permanent
  | .bindGroup havePlayers guid instanceId permanent isBGGroup =>
    match bindings.getInstanceSave instanceId with
    | none => some bindings
    | some address => bindings.bindGroup havePlayers guid address permanent isBGGroup
  | .unbind havePlayers holder mapid difficulty =>
    bindings.unbindInstance havePlayers holder mapid difficulty
  | .resetInstance havePlayers mapid instanceId =>
    bindings.resetInstance havePlayers maps mapid instanceId
  | .resetAll havePlayers mapid difficulty => bindings.resetAll havePlayers maps mapid difficulty

end Bindings

end MopServer.Instances
