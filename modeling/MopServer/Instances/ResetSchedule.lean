import MopServer.Foundation.TimedQueue
import Mathlib.Data.Fin.Basic
import Mathlib.Data.UInt
import Mathlib.Algebra.BigOperators.Group.List.Basic

/-! # The schedule of instance resets

Single instances are reset at times of their own; all instances of a map and difficulty with a
reset period are reset together, after three warnings.  All events wait in one queue ordered by
time.
-/

namespace MopServer.Instances

open MopServer.Foundation

def minute : Nat := 60
def hour : Nat := 3600
def day : Nat := 86400

/-- The event types are written as literals. -/
instance instNeZeroFive : NeZero 5 := ⟨by decide⟩

/-- `ResetTimeDelay`, by the type of the event. -/
def resetTimeDelay : Fin 5 → Nat
  | 1 => 3600
  | 2 => 900
  | 3 => 300
  | 4 => 60
  | 0 => 0

/-- Type 0 resets a single instance, types 1 to 3 warn of a global reset, and type 4 is one. -/
structure InstResetEvent where
  type : Fin 5
  mapid : UInt16
  difficulty : UInt8
  instanceId : UInt16
  deriving DecidableEq, Repr

/-- `operator ==`. -/
def InstResetEvent.matches (event other : InstResetEvent) : Bool :=
  other.instanceId = event.instanceId

/-- `m_resetTimeQueue`. -/
abbrev ResetTimeQueue := TimedQueue InstResetEvent

/-- What the schedule needs to know of the maps and the configuration. -/
structure Realm where
  instanceable : UInt16 → Bool
  /-- The period of a map and difficulty that is reset globally, in seconds. -/
  period : UInt16 → UInt8 → Option Nat
  resetHour : Nat
  day_le : ∀ mapid difficulty length, period mapid difficulty = some length → day ≤ length

def Realm.diff (realm : Realm) : Nat := realm.resetHour * hour

/-- The queue, and the stored time of the next reset of a map and difficulty; none is 0. -/
structure InstanceSaveManager where
  resetTimeQueue : ResetTimeQueue
  resetTime : UInt16 → UInt8 → Nat

/-- What has been done in an `Update`. -/
inductive ResetAction where
  | instance (mapid : UInt16) (instanceId : UInt32)
  | global (mapid : UInt16) (difficulty : UInt8) (type : Fin 5) (resetTime : Nat)
  deriving DecidableEq, Repr

namespace InstanceSaveManager

variable (manager : InstanceSaveManager)

/-- `GetResetTimeFor` of the map and difficulty of an event. -/
def getResetTimeFor (event : InstResetEvent) : Nat :=
  manager.resetTime event.mapid event.difficulty

/-- `SetResetTimeFor`. -/
def setResetTimeFor (mapid : UInt16) (difficulty : UInt8) (time : Nat) : InstanceSaveManager :=
  { manager with
    resetTime := fun otherMap otherDifficulty =>
      if otherMap = mapid ∧ otherDifficulty = difficulty then time
      else manager.resetTime otherMap otherDifficulty }

/-- `ScheduleReset` that adds an event. -/
def addReset (time : Int) (event : InstResetEvent) : InstanceSaveManager :=
  { manager with resetTimeQueue := manager.resetTimeQueue.schedule time event }

/-- `ScheduleReset` that removes an event: one of the given time, or else any. -/
def cancelReset (time : Int) (event : InstResetEvent) : InstanceSaveManager :=
  { manager with
    resetTimeQueue := manager.resetTimeQueue.cancel time fun other => other.matches event }

variable (realm : Realm)

def nextReset (resetTime period : Nat) : Nat :=
  ((resetTime + minute) / day * day + period + realm.diff) % 2 ^ 32

/-- `_ResetOrWarnAll`, as far as it concerns the schedule. -/
def resetOrWarnAll (manager : InstanceSaveManager) (event : InstResetEvent) (resetTime : Nat) :
    InstanceSaveManager × List ResetAction :=
  if !realm.instanceable event.mapid then (manager, [])
  else if event.type ≠ 4 then
    (manager, [.global event.mapid event.difficulty event.type resetTime])
  else
    match realm.period event.mapid event.difficulty with
    | none => (manager, [])
    | some period =>
      let next := nextReset realm resetTime period
      ((manager.setResetTimeFor event.mapid event.difficulty next).addReset
          ((next + 2 ^ 32 - hour) % 2 ^ 32 : Nat)
          { type := 1, mapid := event.mapid, difficulty := event.difficulty, instanceId := 0 },
        [.global event.mapid event.difficulty event.type resetTime])

/-- `_ResetInstance`. -/
def resetInstance (event : InstResetEvent) : List ResetAction :=
  if realm.instanceable event.mapid then [.instance event.mapid event.instanceId.toUInt32] else []

/-- `m_resetTimeQueue.erase(m_resetTimeQueue.begin())`. -/
def eraseFirst : InstanceSaveManager :=
  { manager with resetTimeQueue := manager.resetTimeQueue.tail }

/-- The body of the loop of `Update`, for the first entry of the queue.  A warning is turned into
the next one where it stands before that is scheduled. -/
def processFirst (manager : InstanceSaveManager) (time : Int) (event : InstResetEvent)
    (rest : ResetTimeQueue) : InstanceSaveManager × List ResetAction :=
  if event.type = 0 then (manager.eraseFirst, resetInstance realm event)
  else
    let resetTime := manager.getResetTimeFor event
    let done := resetOrWarnAll realm manager event resetTime
    if event.type ≠ 4 then
      let event := { event with type := event.type + 1 }
      (({ done.1 with resetTimeQueue := (time, event) :: rest }.addReset
          (resetTime - resetTimeDelay event.type) event).eraseFirst, done.2)
    else (done.1.eraseFirst, done.2)

/-- `Update` at a time; without fuel there is no result. -/
def update (realm : Realm) (now : Nat) :
    Nat → InstanceSaveManager → Option (InstanceSaveManager × List ResetAction)
  | 0, _ => none
  | fuel + 1, manager =>
    match manager.resetTimeQueue with
    | [] => some (manager, [])
    | (time, event) :: rest =>
      if now ≤ time then some (manager, [])
      else
        let done := manager.processFirst realm time event rest
        (update realm now fuel done.1).map fun last => (last.1, done.2 ++ last.2)

end InstanceSaveManager

end MopServer.Instances
