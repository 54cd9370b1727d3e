import MopServer.Foundation.Script
import MopServer.Foundation.Table

/-! # Pet battles

Two teams of up to three pets fight in rounds.  Abilities put auras on pets, which change states of
the pets until they are removed.  All code is a script over the operations at the bottom of it.
-/

namespace MopServer.BattlePets

open MopServer.Foundation

/-- `PAD_0`, the initiator, and `PAD_1`. -/
inductive Side
  | pad0
  | pad1
  deriving DecidableEq

def Side.opponent : Side → Side
  | .pad0 => .pad1
  | .pad1 => .pad0

/-- From `P0_PET_0` to `P1_PET_2`. -/
structure Slot where
  side : Side
  index : Fin 3
  deriving DecidableEq

/-- The effects with a handler; `aura` stands for all that `HandleAddAura` only reads a duration
of. -/
inductive EffectType
  | dummy
  | heal
  | healPct
  | damage
  | damage2
  | damagePctFromHp
  | damagePctFromTaken
  | aura
  | auraCondition
  | auraPeriodicDamage
  | auraUnapply
  | other
  deriving DecidableEq

instance instNeZeroEffectValues : NeZero 6 := ⟨Nat.succ_ne_zero 5⟩

/-- The target is told by the visual of the effect's properties. -/
structure BattlePetAbilityEffectEntry where
  effect : EffectType
  triggerId : Nat
  values : Fin 6 → Int
  isSelf : Bool
  isActiveEnemy : Bool

/-- An ability that a member has used.  Its effects hold the pets that were active when it was made.
-/
structure Ability where
  id : Nat
  caster : Side
  target : Side
  casterPet : Slot
  enemyPet : Slot
  turn : UInt8
  duration : Int
  maxDuration : Int
  isDisabled : Bool
  /-- Whether `Remove` has been called, which the code does not note. -/
  removed : Bool
  deriving DecidableEq

instance instKeyedAbility : Keyed Ability Nat := ⟨Ability.id⟩

def BattlePetAbilityEffectEntry.stateAt (entry : BattlePetAbilityEffectEntry) (index : Fin 6) :
    Nat :=
  (entry.values index % 2 ^ 32).toNat

def Ability.isExpired (ability : Ability) : Bool := ability.duration = 0

structure Pet where
  power : Nat
  speed : UInt32
  maxHp : Int
  hp : Int
  states : Nat → Option Int
  cooldowns : Nat → UInt16
  auras : Table Ability
  hasActiveMultiTurnAbility : Bool

namespace BattlePetState

def isDead : Nat := 1
def modDamageDealtPercent : Nat := 23
def modDamageTakenPercent : Nat := 24
def modSpeedPercent : Nat := 25
def lastHitTaken : Nat := 31
def lastHitDealt : Nat := 32
def statCritChance : Nat := 40
def statAccuracy : Nat := 41
def modHealingDealtPercent : Nat := 65
def modHealingTakenPercent : Nat := 66
def statDodge : Nat := 73
def modPetTypeDamageDealtPercent : Nat := 87
def modPetTypeDamageTakenPercent : Nat := 88
def modMaxHealthPercent : Nat := 99

/-- The states that `ModifyStates` takes the plain value for. -/
def unscaled : List Nat :=
  [modDamageDealtPercent, modDamageTakenPercent, modHealingDealtPercent, modHealingTakenPercent,
    modMaxHealthPercent, modSpeedPercent, modPetTypeDamageDealtPercent,
    modPetTypeDamageTakenPercent, statCritChance, statAccuracy, statDodge]

end BattlePetState

/-- The tables of the client and the world, the dice, and what is computed in floating point. -/
structure Rules where
  state : Nat → Bool
  /-- Changes of the state are reported: its entry has the flag 0x8. -/
  reported : Nat → Bool
  /-- The cooldowns of the abilities there are. -/
  ability : Nat → Option UInt16
  /-- `GetAbilityData`. -/
  abilityData : Nat → Option UInt32
  /-- The effects by turn, in order. -/
  abilityEffects : Nat → List (UInt8 × List BattlePetAbilityEffectEntry)
  abilityStates : Nat → List (Nat × Int)
  /-- A value by the attack bonus of a power. -/
  scale : Nat → Int → Int
  calculatePct : Int → Int → Int
  /-- The speed by its percentage. -/
  addPct : UInt32 → Int → UInt32
  /-- The damage after the n-th roll; 0 is a miss. -/
  damage : Nat → Pet → Pet → Nat → Int → Int → Nat
  healing : Nat → Pet → Pet → Nat → Int → Int → Nat

namespace Pet

variable (rules : Rules) (pet : Pet) (state : Nat)

def getStateValue : Int := (pet.states state).getD 0

def hasState : Bool := pet.getStateValue state ≠ 0

def isDead : Bool := pet.hasState BattlePetState.isDead

def hasCooldown (abilityId : Nat) : Bool := 0 < pet.cooldowns abilityId

def getSpeed : UInt32 :=
  rules.addPct pet.speed (pet.getStateValue BattlePetState.modSpeedPercent)

variable (value : Int)

def setState : Pet :=
  if rules.state state then { pet with states := Function.update pet.states state (some value) }
  else pet

/-- A state that is not there is not taken back; the report puts it there as 0. -/
def modifyState (apply : Bool) : Pet :=
  if rules.state state then
    match pet.states state with
    | none =>
      if apply then { pet with states := Function.update pet.states state (some value) }
      else if rules.reported state then
        { pet with states := Function.update pet.states state (some 0) }
      else pet
    | some old =>
      let value := old + if apply then value else -value
      { pet with states := Function.update pet.states state (some value) }
  else pet

def setHealth : Pet :=
  if pet.hp = value then pet else { pet with hp := min value pet.maxHp }

end Pet

inductive PetBattleState
  | none
  | beginning
  | ending
  deriving DecidableEq

structure Battle where
  state : PetBattleState
  movedMask : Side → Bool
  canMoveMask : Side → Bool
  round : Nat
  roundTime : Int
  /-- The active pets. -/
  active : Side → Fin 3
  /-- How many pets a member has; only these count. -/
  size : Side → Nat
  pet : Slot → Pet
  /-- How often the dice have been rolled. -/
  rolls : Nat

/-! ## Abilities -/

namespace Rules

variable (rules : Rules) (abilityId : Nat)

def isMultiTurn : Bool :=
  (rules.abilityData abilityId).any fun flags => flags &&& 1 ≠ 0

/-- What a row of an ability's states is worth on a pet. -/
def modifier (power : Nat) (row : Nat × Int) : Int :=
  if row.1 ∈ BattlePetState.unscaled then row.2 else rules.scale power row.2

/-- `ModifyStates`, for its target. -/
def modifyStates (apply : Bool) (pet : Pet) : Pet :=
  (rules.abilityStates abilityId).foldl
    (fun pet row => pet.modifyState rules row.1 (rules.modifier pet.power row) apply) pet

/-- `GetEffects`: a turn without effects has those of the first. -/
def getEffects (turn : UInt8) : List BattlePetAbilityEffectEntry :=
  let turns := rules.abilityEffects abilityId
  ((turns.lookup turn <|> turns.lookup 1).getD [])

end Rules

namespace Battle

variable (rules : Rules) (battle : Battle) (side : Side)

def activePet : Slot := ⟨side, battle.active side⟩

def getActivePet : Pet := battle.pet (battle.activePet side)

def modifyPet (slot : Slot) (change : Pet → Pet) : Battle :=
  { battle with pet := Function.update battle.pet slot (change (battle.pet slot)) }

/-- The pets of a side, in order. -/
def slots : List Slot :=
  ((List.finRange 3).filter fun index => index.val < battle.size side).map (Slot.mk side)

def mayAct : Bool := battle.canMoveMask side && !battle.movedMask side

/-- `Apply` and `Remove` go to the pets that are active now. -/
def applyAbility (ability : Ability) (apply : Bool) : Battle :=
  let battle :=
    if rules.isMultiTurn ability.id then
      battle.modifyPet (battle.activePet ability.caster) fun pet =>
        { pet with hasActiveMultiTurnAbility := apply }
    else battle
  battle.modifyPet (battle.activePet ability.target) (rules.modifyStates ability.id apply)

def newAbility (abilityId : Nat) (caster target : Side) (duration : Int) : Option Ability :=
  if abilityId ≠ 0 && (rules.ability abilityId).isSome then
    some
      { id := abilityId, caster := caster, target := target
        casterPet := battle.activePet caster, enemyPet := battle.activePet caster.opponent
        turn := 1, duration := duration, maxDuration := duration, isDisabled := true
        removed := false }
  else none

/-- `GetInitialSide`. -/
def getInitialSide : Side :=
  let first := battle.getActivePet .pad0
  let second := battle.getActivePet .pad1
  if first.isDead then .pad0
  else if first.hasActiveMultiTurnAbility then .pad1
  else if second.isDead then .pad1
  else if second.hasActiveMultiTurnAbility then .pad0
  else if second.getSpeed rules < first.getSpeed rules then .pad0
  else .pad1

/-- `OnPetDied`: the battle ends when no other pet of the member lives. -/
def onPetDied (slot : Slot) : Battle :=
  if (battle.slots slot.side).any fun other => other ≠ slot && !(battle.pet other).isDead then
    battle
  else { battle with state := .ending }

end Battle

/-! ## Operations -/

inductive Op
  /-- A new ability that is put on a pet. -/
  | addAura (slot : Slot) (aura : Ability)
  /-- A new ability that is no aura. -/
  | construct (ability : Ability)
  | setDuration (slot : Slot) (abilityId : Nat) (duration : Int)
  | enable (slot : Slot) (abilityId : Nat)
  | nextTurn (slot : Slot) (abilityId : Nat)
  | removeAura (slot : Slot) (abilityId : Nat)
  /-- The first part of `MakeDead`, for one of the auras. -/
  | removeAtDeath (slot : Slot) (abilityId : Nat)
  /-- The rest of it. -/
  | die (slot : Slot)
  | damage (attacker victim : Slot) (amount : Nat)
  | heal (victim : Slot) (amount : Nat)
  | addCooldown (slot : Slot) (abilityId : Nat) (cooldown : UInt16)
  | updateCooldowns (slot : Slot)
  | clearDamage (slot : Slot)
  | setActivePet (slot : Slot)
  | endBattle
  | updateFlags
  | setMoved (side : Side)
  | nextRound
  | elapse (diff : UInt32)

def Battle.perform (rules : Rules) (battle : Battle) : Op → Battle
  | .addAura slot aura =>
    (battle.applyAbility rules aura true).modifyPet slot fun pet =>
      { pet with auras := pet.auras.insert aura (.sorted _) }
  | .construct ability => battle.applyAbility rules ability true
  | .setDuration slot abilityId duration =>
    battle.modifyPet slot fun pet =>
      { pet with auras := pet.auras.modify abilityId fun aura =>
          { aura with duration := duration } }
  | .enable slot abilityId =>
    battle.modifyPet slot fun pet =>
      { pet with auras := pet.auras.modify abilityId fun aura =>
          { aura with isDisabled := false } }
  | .nextTurn slot abilityId =>
    battle.modifyPet slot fun pet =>
      { pet with auras := pet.auras.modify abilityId fun aura =>
          { aura with turn := aura.turn + 1 } }
  | .removeAura slot abilityId =>
    match (battle.pet slot).auras.get? abilityId with
    | none => battle
    | some aura =>
      (battle.applyAbility rules aura false).modifyPet slot fun pet =>
        { pet with auras := pet.auras.erase abilityId }
  | .removeAtDeath slot abilityId =>
    match (battle.pet slot).auras.get? abilityId with
    | none => battle
    | some aura =>
      (battle.applyAbility rules aura false).modifyPet slot fun pet =>
        { pet with auras := pet.auras.modify abilityId fun aura =>
            { aura with removed := true } }
  | .die slot =>
    (battle.modifyPet slot fun pet =>
      pet.modifyState rules BattlePetState.isDead 1 true).onPetDied slot
  | .damage attacker victim amount =>
    let battle := { battle with rolls := battle.rolls + 1 }
    if amount = 0 then battle
    else
      let battle := battle.modifyPet victim fun pet => pet.setHealth (pet.hp - amount)
      let battle := battle.modifyPet attacker fun pet =>
        pet.setState rules BattlePetState.lastHitDealt amount
      battle.modifyPet victim fun pet => pet.setState rules BattlePetState.lastHitTaken amount
  | .heal victim amount =>
    { battle with rolls := battle.rolls + 1 }.modifyPet victim fun pet =>
      pet.setHealth (pet.hp + amount)
  | .addCooldown slot abilityId cooldown =>
    if cooldown = 0 then battle
    else battle.modifyPet slot fun pet =>
      { pet with cooldowns := Function.update pet.cooldowns abilityId cooldown }
  | .updateCooldowns slot =>
    battle.modifyPet slot fun pet =>
      { pet with cooldowns := fun abilityId =>
          if pet.cooldowns abilityId = 0 then 0 else pet.cooldowns abilityId - 1 }
  | .clearDamage slot =>
    battle.modifyPet slot fun pet =>
      (pet.setState rules BattlePetState.lastHitTaken 0).setState rules
        BattlePetState.lastHitDealt 0
  | .setActivePet slot =>
    { battle with active := Function.update battle.active slot.side slot.index }
  | .endBattle => { battle with state := .ending }
  | .updateFlags =>
    { battle with
      movedMask := fun side => (battle.getActivePet side).hasActiveMultiTurnAbility
      canMoveMask := fun side => side = battle.getInitialSide rules }
  | .setMoved side =>
    let opponent := side.opponent
    { battle with
      movedMask := Function.update battle.movedMask side true
      canMoveMask := fun other =>
        if other = side then false
        else if other = opponent && !battle.movedMask opponent then true
        else battle.canMoveMask other }
  | .nextRound => { battle with round := battle.round + 1, roundTime := 30000 }
  | .elapse diff => { battle with roundTime := (battle.roundTime - diff.toNat).bmod (2 ^ 32) }

namespace Battle

variable (rules : Rules)

abbrev Code := Script Battle Op

def seq (scripts : List Code) : Code := Script.seq (perform rules) scripts

/-! ## Effects -/

/-- `MakeDead`. -/
def makeDead (slot : Slot) : Code :=
  .read fun battle =>
    seq rules
      [seq rules ((battle.pet slot).auras.rows.map fun aura => .op (.removeAtDeath slot aura.id)),
        .op (.die slot)]

/-- `DealDamageByEffect`. -/
def dealDamageByEffect (abilityId : Nat) (caster victim : Slot) (points accuracy : Int) : Code :=
  .read fun battle =>
    if (battle.pet victim).isDead then .done
    else
      seq rules
        [.op (.damage caster victim (rules.damage battle.rolls (battle.pet caster)
            (battle.pet victim) abilityId points accuracy)),
          .read fun battle =>
            if (battle.pet victim).hp ≤ 0 then makeDead rules victim else .done]

/-- `HealByEffect`. -/
def healByEffect (abilityId : Nat) (caster victim : Slot) (points accuracy : Int) : Code :=
  .read fun battle =>
    if (battle.pet caster).isDead || (battle.pet victim).isDead then .done
    else .op (.heal victim (rules.healing battle.rolls (battle.pet caster) (battle.pet victim)
      abilityId points accuracy))

variable (battle : Battle)

/-- `Effect::GetTarget`. -/
def effectTarget (ability : Ability) (entry : BattlePetAbilityEffectEntry) : Slot :=
  if entry.isActiveEnemy then battle.activePet ability.caster.opponent
  else if entry.isSelf then ability.casterPet
  else ability.enemyPet

/-- `AddAura`, and what is done with the aura it returns. -/
def addAura (slot : Slot) (abilityId : Nat) (duration : Int) (caster : Side)
    (use : Ability → Code) : Code :=
  .read fun battle =>
    if (battle.pet slot).hasCooldown abilityId then .done
    else
      match (battle.pet slot).auras.get? abilityId with
      | some aura =>
        seq rules
          [if aura.duration = aura.maxDuration then .done
            else .op (.setDuration slot abilityId aura.maxDuration), use aura]
      | none =>
        match battle.newAbility rules abilityId caster slot.side duration with
        | none => .fail
        | some aura => seq rules [.op (.addAura slot aura), use aura]

def handleEffect : Nat → Ability → BattlePetAbilityEffectEntry → Code
  | 0, _, _ => .fail
  | fuel + 1, ability, entry =>
    .read fun battle =>
      let caster := ability.casterPet
      let target := battle.effectTarget ability entry
      let addAura (duration : Int) : Code :=
        addAura rules target entry.triggerId duration ability.caster fun aura =>
          seq rules ((rules.getEffects aura.id aura.turn).map (handleEffect fuel aura))
      match entry.effect with
      | .heal =>
        healByEffect rules ability.id caster target (entry.values 0) (entry.values 1)
      | .healPct =>
        healByEffect rules ability.id caster target
          (rules.calculatePct (battle.pet caster).maxHp (entry.values 0)) (entry.values 1)
      | .damage =>
        dealDamageByEffect rules ability.id caster target (entry.values 0) (entry.values 1)
      | .damage2 =>
        let sure := (battle.pet caster).hasState (entry.stateAt 2) ||
          (battle.pet target).hasState (entry.stateAt 3)
        dealDamageByEffect rules ability.id caster target (entry.values 0)
          (if sure then 100 else entry.values 1)
      | .damagePctFromHp =>
        dealDamageByEffect rules ability.id caster target
          (rules.calculatePct (battle.pet target).maxHp (entry.values 0)) (entry.values 1)
      | .damagePctFromTaken =>
        let taken := (battle.pet caster).getStateValue BattlePetState.lastHitTaken
        dealDamageByEffect rules ability.id caster target
          (rules.calculatePct taken (entry.values 0)) (entry.values 1)
      | .aura => addAura (if entry.values 2 = 0 then -1 else entry.values 2)
      | .auraCondition =>
        if entry.stateAt 4 ≠ 0 && !(battle.pet caster).hasState (entry.stateAt 4) then .done
        else if entry.stateAt 5 ≠ 0 && !(battle.pet target).hasState (entry.stateAt 5) then .done
        else addAura (if entry.values 2 = 0 then -1 else entry.values 2)
      | .auraPeriodicDamage => addAura (entry.values 2)
      | .auraUnapply => .op (.removeAura target entry.triggerId)
      | .dummy => .done
      | .other => .done

variable (fuel : Nat)

/-- `CastAura`: the effects of the current turn. -/
def castAura (aura : Ability) : Code :=
  seq rules ((rules.getEffects aura.id aura.turn).map (handleEffect rules fuel aura))

/-- `Ability::CastAbility`: the effects of all turns but 0. -/
def handleAllEffects (ability : Ability) : Code :=
  seq rules (((rules.abilityEffects ability.id).filter fun turn => turn.1 ≠ 0).map fun turn =>
    seq rules (turn.2.map (handleEffect rules fuel ability)))

variable (side : Side)

/-- `Pet::CastAbility`, for an active pet. -/
def castAbility (abilityId : Nat) : Code :=
  .read fun battle =>
    let slot := battle.activePet side
    let addCooldown : Code := .op (.addCooldown slot abilityId ((rules.ability abilityId).getD 0))
    if (battle.pet slot).hasCooldown abilityId then .done
    else
      match rules.abilityData abilityId with
      | some _ =>
        let turns : UInt8 := .ofNat (rules.abilityEffects abilityId).length
        let duration := if rules.isMultiTurn abilityId then turns else 0
        let duration := if 0 < duration then duration - 1 else duration
        addAura rules (battle.activePet side.opponent) abilityId duration.toNat side fun aura =>
          seq rules [castAura rules fuel aura, addCooldown]
      | none =>
        match battle.newAbility rules abilityId side side.opponent 0 with
        | none => .fail
        | some ability =>
          seq rules
            [.op (.construct ability), handleAllEffects rules fuel ability, addCooldown]

/-! ## Rounds -/

/-- `Ability::Update`. -/
def updateAbility (slot : Slot) (aura : Ability) : Code :=
  if aura.isDisabled then .op (.enable slot aura.id)
  else
    seq rules
      [if 0 < aura.duration then .op (.setDuration slot aura.id (aura.duration - 1)) else .done,
        .op (.nextTurn slot aura.id), castAura rules fuel { aura with turn := aura.turn + 1 }]

/-- The loop of `Pet::Update` over the auras behind the last one; the effects may change them. -/
def updateAuras : Nat → Slot → Option Nat → Code
  | 0, _, _ => .fail
  | fuel + 1, slot, last =>
    .read fun battle =>
      match (battle.pet slot).auras.rows.find? fun aura => last.all (· < aura.id) with
      | none => .done
      | some aura =>
        seq rules
          [if aura.isExpired then .done else updateAbility rules fuel slot aura,
            updateAuras fuel slot (some aura.id)]

/-- The other loop over them. -/
def removeExpired (slot : Slot) : Code :=
  .read fun battle =>
    seq rules (((battle.pet slot).auras.rows.filter Ability.isExpired).map fun aura =>
      .op (.removeAura slot aura.id))

/-- `Pet::Update`. -/
def updatePet (slot : Slot) : Code :=
  seq rules
    [.op (.updateCooldowns slot), updateAuras rules fuel slot none, removeExpired rules slot,
      .op (.clearDamage slot)]

/-- `MemberData::Update`. -/
def updateMember : Code :=
  .read fun battle => seq rules ((battle.slots side).map (updatePet rules fuel))

/-- The part of `EndRound` that replaces a dead active pet. -/
def swapDead : Code :=
  .read fun battle =>
    if !(battle.getActivePet side).isDead then .done
    else
      match (battle.slots side).find? fun slot => !(battle.pet slot).isDead with
      | none => .done
      | some slot => .op (.setActivePet slot)

/-- `EndRound`, with the `StartRound` that it ends in: if both have moved, that round ends too. -/
def endRound : Nat → Code
  | 0 => .fail
  | fuel + 1 =>
    seq rules
      [updateMember rules fuel .pad0, updateMember rules fuel .pad1, swapDead .pad0,
        swapDead .pad1, .op .nextRound,
        .read fun battle =>
          if battle.state ≠ .beginning then .done
          else
            seq rules
              [.op .updateFlags, .read fun battle =>
                if battle.movedMask .pad0 && battle.movedMask .pad1 then endRound fuel
                else .done]]

/-- `TryEndRound`. -/
def tryEndRound : Code :=
  .read fun battle =>
    if battle.movedMask .pad0 && battle.movedMask .pad1 then endRound rules fuel else .done

/-! ## Requests -/

inductive Action
  | forfeit
  | useAbility (abilityId : Nat)
  | swapPet (index : Nat)
  | useTrap
  | endBattle

def accepts : Action → Bool
  | .forfeit => false
  | .useAbility abilityId => battle.mayAct side && abilityId ≠ 0
  | .swapPet _ => battle.mayAct side
  | .useTrap => true
  | .endBattle => false

/-- What the handler does where it returns true; a swap to no pet fails an assertion. -/
def actionEffect : Action → Code
  | .useAbility abilityId => castAbility rules fuel side abilityId
  | .swapPet index => .read fun battle =>
    match (battle.slots side).find? fun slot => slot.index.val = index with
    | none => .fail
    | some slot => .op (.setActivePet slot)
  | _ => .done

/-- `HandleAction`, with `OnActionPerformed`. -/
def handleAction (action : Action) : Code :=
  .read fun battle =>
    if battle.state = .ending then .done
    else
      match action with
      | .forfeit => .op .endBattle
      | action =>
        if battle.accepts side action then
          seq rules
            [actionEffect rules fuel side action, .op (.setMoved side), tryEndRound rules fuel]
        else .done

/-- `Update`. -/
def update (diff : UInt32) : Code :=
  .read fun battle =>
    if battle.state ≠ .beginning then .done
    else
      seq rules
        [.op (.elapse diff), .read fun battle =>
          if battle.roundTime ≤ 0 then endRound rules fuel else .done]

/-- `InitialBattle`. -/
def initialBattle : Battle :=
  { battle.perform rules .updateFlags with round := 1, state := .beginning, roundTime := 30000 }

/-- A request of one of the members, or a tick; the fuel bounds the recursion. -/
inductive Call
  | action (side : Side) (action : Action) (fuel : Nat)
  | update (diff : UInt32) (fuel : Nat)

def Call.script : Call → Code
  | .action side request fuel => handleAction rules fuel side request
  | .update diff fuel => Battle.update rules fuel diff

def step (battle : Option Battle) (call : Call) : Option Battle :=
  battle.bind (Script.run (perform rules) (Call.script rules call))

end Battle

end MopServer.BattlePets
