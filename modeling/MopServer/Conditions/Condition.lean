import Mathlib.Data.Fin.Basic
import Mathlib.Data.UInt

/-! # Conditions

A condition asks something of an object: what it is, what it has on it, where it is, or how it
stands to another object.  What the objects answer is left to the world.
-/

namespace MopServer.Conditions

inductive ConditionTypes where
  | none
  | aura
  | item
  | itemEquipped
  | zoneid
  | reputationRank
  | team
  | skill
  | questrewarded
  | questtaken
  | drunkenstate
  | worldState
  | activeEvent
  | instanceData
  | questNone
  | unitClass
  | race
  | achievement
  | title
  | spawnmask
  | gender
  | unused21
  | mapid
  | areaid
  | creatureType
  | spell
  | phasemask
  | level
  | questComplete
  | nearCreature
  | nearGameobject
  | objectEntry
  | typeMask
  | relationTo
  | reactionTo
  | distanceTo
  | alive
  | hpVal
  | hpPct
  deriving DecidableEq, Repr

/-- `ComparisionType`; other values have no meaning. -/
inductive ComparisionType where
  | eq
  | high
  | low
  | highEq
  | lowEq
  deriving DecidableEq, Repr

def ComparisionType.ofValue? : UInt32 → Option ComparisionType
  | 0 => some .eq
  | 1 => some .high
  | 2 => some .low
  | 3 => some .highEq
  | 4 => some .lowEq
  | _ => none

/-- `RelationType`; a condition with another value is not met. -/
inductive RelationType where
  | self
  | inParty
  | inRaidOrParty
  | ownedBy
  | passengerOf
  | createdBy
  deriving DecidableEq, Repr

def RelationType.ofValue? : UInt32 → Option RelationType
  | 0 => some .self
  | 1 => some .inParty
  | 2 => some .inRaidOrParty
  | 3 => some .ownedBy
  | 4 => some .passengerOf
  | 5 => some .createdBy
  | _ => none

inductive QuestStatus where
  | none
  | complete
  | incomplete
  | failed
  | rewarded
  deriving DecidableEq, Repr, Inhabited

/-- `MAX_CONDITION_TARGETS`. -/
def maxConditionTargets : Nat := 3

def firstTarget : Fin maxConditionTargets := ⟨0, Nat.succ_pos 2⟩

/-- What is asserted of the values of a condition, and checked when it is loaded. -/
def ConditionTypes.Accepts (type : ConditionTypes) (value1 value2 value3 : UInt32) : Prop :=
  match type with
  | .item => value2 ≠ 0
  | .relationTo | .reactionTo => value1.toNat < maxConditionTargets
  | .distanceTo =>
    value1.toNat < maxConditionTargets ∧ (ComparisionType.ofValue? value3).isSome = true
  | .level | .hpVal | .hpPct => (ComparisionType.ofValue? value2).isSome = true
  | _ => True

/-- A condition that has been loaded. -/
structure Condition where
  elseGroup : UInt32
  conditionType : ConditionTypes
  conditionValue1 : UInt32
  conditionValue2 : UInt32
  conditionValue3 : UInt32
  referenceId : UInt32
  conditionTarget : Fin maxConditionTargets
  negativeCondition : Bool
  accepted : conditionType.Accepts conditionValue1 conditionValue2 conditionValue3

/-- `isLoaded`. -/
def Condition.isLoaded (condition : Condition) : Bool :=
  condition.conditionType ≠ .none || condition.referenceId ≠ 0

/-- What the world answers about its objects. -/
structure World (Object : Type) where
  isUnit : Object → Bool
  isPlayer : Object → Bool
  isCreature : Object → Bool
  hasAuraEffect : Object → UInt32 → UInt32 → Bool
  hasItemCount : Object → UInt32 → UInt32 → Bool → Bool
  hasItemOrGemWithIdEquipped : Object → UInt32 → UInt32 → Bool
  getZoneId : Object → UInt32
  isFaction : UInt32 → Bool
  getReputationRank : Object → UInt32 → UInt32
  hasAchieved : Object → UInt32 → Bool
  getTeam : Object → UInt32
  getClassMask : Object → UInt32
  getRaceMask : Object → UInt32
  getGender : Object → UInt8
  hasSkill : Object → UInt32 → Bool
  getBaseSkillValue : Object → UInt32 → UInt16
  getQuestRewardStatus : Object → UInt32 → Bool
  getQuestStatus : Object → UInt32 → QuestStatus
  isActiveEvent : UInt32 → Bool
  /-- What the script of the instance says, for an object in a dungeon that has one. -/
  getInstanceData : Object → UInt32 → Option UInt32
  getMapId : Object → UInt32
  getAreaId : Object → UInt32
  hasSpell : Object → UInt32 → Bool
  getLevel : Object → UInt8
  getDrunkenstate : Object → UInt32
  getClosestCreatureWithEntry : Object → UInt32 → Float32 → Option Object
  getClosestGameObjectWithEntry : Object → UInt32 → Float32 → Option Object
  getTypeId : Object → UInt8
  getEntry : Object → UInt32
  isType : Object → UInt16 → Bool
  isInPartyWith : Object → Object → Bool
  isInRaidWith : Object → Object → Bool
  getOwnerGuid : Object → UInt64
  getGuid : Object → UInt64
  isOnVehicle : Object → Object → Bool
  getCreatorGuid : Object → UInt64
  getReactionTo : Object → Object → UInt32
  getDistance : Object → Object → Float32
  isAlive : Object → Bool
  getHealth : Object → UInt32
  getHealthPct : Object → Float32
  getWorldState : UInt32 → UInt64
  getPhaseMask : Object → UInt32
  hasTitle : Object → UInt32 → Bool
  getSpawnMode : Object → UInt8
  getCreatureType : Object → UInt32
  /-- `OnConditionCheck`, which sees the condition and the targets. -/
  onConditionCheck : Condition → (Fin maxConditionTargets → Option Object) → Bool
  deriving Inhabited

/-- The objects conditions are asked of, and the condition that has failed last. -/
structure ConditionSourceInfo (Object : Type) where
  conditionTargets : Fin maxConditionTargets → Option Object
  lastFailedCondition : Option Condition := none

/-- `CompareValues`; a value that is no comparison is excluded by an assertion. -/
def compareValues {Value : Type} [BEq Value] [LT Value] [LE Value] [DecidableLT Value]
    [DecidableLE Value] (type : UInt32) (val1 val2 : Value) : Bool :=
  match ComparisionType.ofValue? type with
  | some .eq => val1 == val2
  | some .high => val2 < val1
  | some .low => val1 < val2
  | some .highEq => val2 ≤ val1
  | some .lowEq => val1 ≤ val2
  | none => false

namespace Condition

variable {Object : Type} [DecidableEq Object]

def otherTarget (condition : Condition) (targets : Fin maxConditionTargets → Option Object) :
    Option Object :=
  if htarget : condition.conditionValue1.toNat < maxConditionTargets then
    targets ⟨condition.conditionValue1.toNat, htarget⟩
  else none

variable (world : World Object)

/-- `CONDITION_RELATION_TO` for two units. -/
def relates (type : UInt32) (unit toUnit : Object) : Bool :=
  match RelationType.ofValue? type with
  | some .self => unit = toUnit
  | some .inParty => world.isInPartyWith unit toUnit
  | some .inRaidOrParty => world.isInRaidWith unit toUnit
  | some .ownedBy => world.getOwnerGuid unit = world.getGuid toUnit
  | some .passengerOf => world.isOnVehicle unit toUnit
  | some .createdBy => world.getCreatorGuid unit = world.getGuid toUnit
  | none => false

/-- The `switch` of `Condition::Meets`, for the object the condition is asked of. -/
def meetsType (targets : Fin maxConditionTargets → Option Object) (condition : Condition)
    (object : Object) : Bool :=
  let value1 := condition.conditionValue1
  let value2 := condition.conditionValue2
  let value3 := condition.conditionValue3
  match condition.conditionType with
  | .none => true
  | .aura => world.isUnit object && world.hasAuraEffect object value1 value2
  | .item => world.isPlayer object && world.hasItemCount object value1 value2 (value3 ≠ 0)
  | .itemEquipped => world.isPlayer object && world.hasItemOrGemWithIdEquipped object value1 1
  | .zoneid => world.getZoneId object = value1
  | .reputationRank =>
    world.isPlayer object && world.isFaction value1 &&
      value2 &&& (1 <<< world.getReputationRank object value1) ≠ 0
  | .achievement => world.isPlayer object && world.hasAchieved object value1
  | .team => world.isPlayer object && world.getTeam object = value1
  | .unitClass => world.isUnit object && world.getClassMask object &&& value1 ≠ 0
  | .race => world.isUnit object && world.getRaceMask object &&& value1 ≠ 0
  | .gender => world.isPlayer object && (world.getGender object).toUInt32 = value1
  | .skill =>
    world.isPlayer object && world.hasSkill object value1 &&
      value2 ≤ (world.getBaseSkillValue object value1).toUInt32
  | .questrewarded => world.isPlayer object && world.getQuestRewardStatus object value1
  | .questtaken => world.isPlayer object && world.getQuestStatus object value1 = .incomplete
  | .questComplete =>
    world.isPlayer object && world.getQuestStatus object value1 = .complete &&
      !world.getQuestRewardStatus object value1
  | .questNone => world.isPlayer object && world.getQuestStatus object value1 = .none
  | .activeEvent => world.isActiveEvent value1
  | .instanceData => world.getInstanceData object value1 = some value2
  | .mapid => world.getMapId object = value1
  | .areaid => world.getAreaId object = value1
  | .spell => world.isPlayer object && world.hasSpell object value1
  | .level => world.isUnit object && compareValues value2 (world.getLevel object).toUInt32 value1
  | .drunkenstate => world.isPlayer object && value1 ≤ world.getDrunkenstate object
  | .nearCreature =>
    (world.getClosestCreatureWithEntry object value1 value2.toFloat32).isSome
  | .nearGameobject =>
    (world.getClosestGameObjectWithEntry object value1 value2.toFloat32).isSome
  | .objectEntry =>
    (world.getTypeId object).toUInt32 = value1 && (value2 = 0 || world.getEntry object = value2)
  | .typeMask => world.isType object value1.toUInt16
  | .relationTo =>
    (condition.otherTarget targets).any fun toObject =>
      world.isUnit toObject && world.isUnit object && relates world value2 object toObject
  | .reactionTo =>
    (condition.otherTarget targets).any fun toObject =>
      world.isUnit toObject && world.isUnit object &&
        (1 <<< world.getReactionTo object toObject) &&& value2 ≠ 0
  | .distanceTo =>
    (condition.otherTarget targets).any fun toObject =>
      compareValues value3 (world.getDistance object toObject) value2.toFloat32
  | .alive => world.isUnit object && world.isAlive object
  | .hpVal => world.isUnit object && compareValues value2 (world.getHealth object) value1
  | .hpPct =>
    world.isUnit object && compareValues value2 (world.getHealthPct object) value1.toFloat32
  | .worldState => value2.toUInt64 = world.getWorldState value1
  | .phasemask => world.getPhaseMask object &&& value1 ≠ 0
  | .title => world.isPlayer object && world.hasTitle object value1
  | .spawnmask => (1 <<< (world.getSpawnMode object).toUInt32) &&& value1 ≠ 0
  | .creatureType => world.isCreature object && world.getCreatureType object = value1
  | .unused21 => false

/-- `Condition::Meets`. -/
def meets (sourceInfo : ConditionSourceInfo Object) (condition : Condition) :
    Bool × ConditionSourceInfo Object :=
  match sourceInfo.conditionTargets condition.conditionTarget with
  | none => (false, sourceInfo)
  | some object =>
    let condMeets :=
      condition.meetsType world sourceInfo.conditionTargets object != condition.negativeCondition
    let failed := if condMeets then sourceInfo.lastFailedCondition else some condition
    (condMeets && world.onConditionCheck condition sourceInfo.conditionTargets,
      { sourceInfo with lastFailedCondition := failed })

end Condition

end MopServer.Conditions
