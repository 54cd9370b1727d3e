import MopServer.BattlePets.PetBattle
import MopServer.Foundation.Following

/-! # Requests of pet battles

What a request makes the battle do, with failed assertions told apart from recursion that is too
deep.  Every attempt here follows the script of its name.
-/

namespace MopServer.BattlePets

open MopServer.Foundation

/-- Why code does not return. -/
inductive Stop
  | assertion
  | depth
  deriving DecidableEq

/-- What the client sends; the argument is `m_abilityId` and `m_petIndex`, which share their
storage. -/
structure ActionInfo where
  action : UInt8
  argument : UInt32

/-- `Actions`, up to `BATTLE_PET_ACTION_MAX`. -/
def ActionInfo.request (info : ActionInfo) : Option Battle.Action :=
  match info.action.toNat with
  | 0 => some .forfeit
  | 1 => some (.useAbility info.argument.toNat)
  | 2 => some (.swapPet info.argument.toNat)
  | 3 => some .useTrap
  | 4 => some .endBattle
  | _ => none

namespace Battle

abbrev Checked := Attempt Battle Stop Unit

/-- The duration of the aura that an effect adds, if it adds one. -/
def triggeredAura (battle : Battle) (ability : Ability) (entry : BattlePetAbilityEffectEntry) :
    Option Int :=
  match entry.effect with
  | .aura => some (if entry.values 2 = 0 then -1 else entry.values 2)
  | .auraCondition =>
    if entry.stateAt 4 ≠ 0 && !(battle.pet ability.casterPet).hasState (entry.stateAt 4) then none
    else if entry.stateAt 5 ≠ 0 &&
        !(battle.pet (battle.effectTarget ability entry)).hasState (entry.stateAt 5) then none
    else some (if entry.values 2 = 0 then -1 else entry.values 2)
  | .auraPeriodicDamage => some (entry.values 2)
  | _ => none

def auraDuration (rules : Rules) (abilityId : Nat) : Int :=
  let turns : UInt8 := .ofNat (rules.abilityEffects abilityId).length
  let duration := if rules.isMultiTurn abilityId then turns else 0
  let duration := if 0 < duration then duration - 1 else duration
  duration.toNat

namespace Checked

open Attempt (ask stop)

variable (rules : Rules)

def act (op : Op) : Checked := .update fun battle => battle.perform rules op

def plain (code : Code) : Checked := .ofScript (perform rules) code .assertion

/-! ## Effects -/

/-- The constructor of `Ability`, with its assertions. -/
def newAbility (abilityId : Nat) (caster target : Side) (duration : Int) :
    Attempt Battle Stop Ability := do
  let battle ← ask
  match battle.newAbility rules abilityId caster target duration with
  | some ability => pure ability
  | none => stop .assertion

/-- `RefreshDuration`. -/
def refreshDuration (slot : Slot) (abilityId : Nat) (aura : Ability) : Checked :=
  if aura.duration = aura.maxDuration then pure ()
  else act rules (.setDuration slot abilityId aura.maxDuration)

/-- `AddAura`, and what is done with the aura it returns. -/
def addAura (slot : Slot) (abilityId : Nat) (duration : Int) (caster : Side)
    (use : Ability → Checked) : Checked := do
  let battle ← ask
  if (battle.pet slot).hasCooldown abilityId then pure ()
  else
    match (battle.pet slot).auras.get? abilityId with
    | some aura => do
        refreshDuration rules slot abilityId aura
        use aura
    | none => do
        let aura ← newAbility rules abilityId caster slot.side duration
        act rules (.addAura slot aura)
        use aura

def handleEffect : Nat → Ability → BattlePetAbilityEffectEntry → Checked
  | 0, _, _ => stop .depth
  | fuel + 1, ability, entry => do
      let battle ← ask
      match battle.triggeredAura ability entry with
      | some duration =>
        addAura rules (battle.effectTarget ability entry) entry.triggerId duration ability.caster
          fun aura => forM (rules.getEffects aura.id aura.turn) (handleEffect fuel aura)
      | none => plain rules (Battle.handleEffect rules 1 ability entry)

variable (fuel : Nat)

def castAura (aura : Ability) : Checked :=
  forM (rules.getEffects aura.id aura.turn) (handleEffect rules fuel aura)

variable (ability : Ability)

/-- `Ability::CastAbility`. -/
def handleAllEffects : Checked :=
  forM ((rules.abilityEffects ability.id).filter fun turn => turn.1 ≠ 0) fun turn =>
    forM turn.2 (handleEffect rules fuel ability)

variable (side : Side)

/-- `Pet::CastAbility`. -/
def castAbility (abilityId : Nat) : Checked := do
  let battle ← ask
  let slot := battle.activePet side
  let addCooldown := act rules (.addCooldown slot abilityId ((rules.ability abilityId).getD 0))
  if (battle.pet slot).hasCooldown abilityId then pure ()
  else
    match rules.abilityData abilityId with
    | some _ =>
      addAura rules (battle.activePet side.opponent) abilityId (auraDuration rules abilityId) side
        fun aura => do
          castAura rules fuel aura
          addCooldown
    | none => do
        let ability ← newAbility rules abilityId side side.opponent 0
        act rules (.construct ability)
        handleAllEffects rules fuel ability
        addCooldown

/-! ## Rounds -/

/-- `Ability::Update`. -/
def updateAbility (slot : Slot) (aura : Ability) : Checked :=
  if aura.isDisabled then act rules (.enable slot aura.id)
  else do
    plain rules
      (if 0 < aura.duration then .op (.setDuration slot aura.id (aura.duration - 1)) else .done)
    act rules (.nextTurn slot aura.id)
    castAura rules fuel { aura with turn := aura.turn + 1 }

/-- What `Pet::Update` does with an aura. -/
def updateAura (slot : Slot) (aura : Ability) : Checked :=
  if aura.isExpired then pure () else updateAbility rules fuel slot aura

def updateAuras : Nat → Slot → Option Nat → Checked
  | 0, _, _ => stop .depth
  | fuel + 1, slot, last => do
      let battle ← ask
      match (battle.pet slot).auras.rows.find? fun aura => last.all (· < aura.id) with
      | none => pure ()
      | some aura => do
          updateAura rules fuel slot aura
          updateAuras fuel slot (some aura.id)

/-- `Pet::Update`. -/
def updatePet (slot : Slot) : Checked := do
  act rules (.updateCooldowns slot)
  updateAuras rules fuel slot none
  plain rules (removeExpired rules slot)
  act rules (.clearDamage slot)

/-- `MemberData::Update`. -/
def updateMember : Checked := do
  let battle ← ask
  forM (battle.slots side) (updatePet rules fuel)

/-- `TryEndRound`, with the end of the round. -/
def tryToEnd (endRound : Checked) : Checked := do
  let battle ← ask
  if battle.movedMask .pad0 && battle.movedMask .pad1 then endRound else pure ()

/-- `StartRound`. -/
def startRound (endRound : Checked) : Checked := do
  let battle ← ask
  if battle.state ≠ .beginning then pure ()
  else do
    act rules .updateFlags
    tryToEnd endRound

def endRound : Nat → Checked
  | 0 => stop .depth
  | fuel + 1 => do
      updateMember rules fuel .pad0
      updateMember rules fuel .pad1
      plain rules (swapDead .pad0)
      plain rules (swapDead .pad1)
      act rules .nextRound
      startRound rules (endRound fuel)

def tryEndRound : Checked := tryToEnd (endRound rules fuel)

/-! ## Requests -/

/-- What the handler of an action does where it returns true. -/
def actionEffect : Action → Checked
  | .useAbility abilityId => castAbility rules fuel side abilityId
  | .swapPet index => do
      let battle ← ask
      match (battle.slots side).find? fun slot => slot.index.val = index with
      | none => stop .assertion
      | some slot => act rules (.setActivePet slot)
  | _ => pure ()

variable (action : Action)

/-- The handler of an action, with `OnActionPerformed`. -/
def handleAccepted : Checked := do
  actionEffect rules fuel side action
  act rules (.setMoved side)
  tryEndRound rules fuel

def handleAction : Checked := do
  let battle ← ask
  if battle.state = .ending then pure ()
  else
    match action with
    | .forfeit => act rules .endBattle
    | action =>
      if battle.accepts side action then handleAccepted rules fuel side action else pure ()

/-- `HandleAction` of a member, for whatever the client has sent. -/
def handleRequest (info : ActionInfo) : Checked :=
  match info.request with
  | none => pure ()
  | some action => handleAction rules fuel side action

/-! ## The scripts they follow -/

variable {rules}

variable (rules) in
/-- The code returns if its script does, in the same battle. -/
def Follows (checked : Checked) (code : Code) : Prop :=
  Attempt.Follows (perform rules) checked code

theorem act_follows (op : Op) : Follows rules (act rules op) (.op op) := Attempt.follows_update op

theorem plain_follows (code : Code) : Follows rules (plain rules code) code :=
  Attempt.follows_ofScript code Stop.assertion

variable {battle : Battle} {code : Ability → Code} {entry : BattlePetAbilityEffectEntry}

/-- Where the entry is missing, the assertion of the code and the script both fail. -/
theorem newAbility_followsAt {next : Ability → Checked} (abilityId : Nat) (caster target : Side)
    (duration : Int) (hnext : ∀ ability, Follows rules (next ability) (code ability)) :
    Attempt.FollowsAt (perform rules)
      (newAbility rules abilityId caster target duration >>= next)
      (match battle.newAbility rules abilityId caster target duration with
        | none => .fail
        | some ability => code ability) battle := by
  cases hnew : battle.newAbility rules abilityId caster target duration with
  | none =>
    have hstop : newAbility rules abilityId caster target duration battle =
        (.error .assertion, battle) := by
      simp only [newAbility, Bind.bind, ask, hnew, stop]
    simp only [Attempt.FollowsAt, Attempt.returned, Bind.bind, hstop]
    rfl
  | some ability =>
    have hmade : newAbility rules abilityId caster target duration battle =
        (.ok ability, battle) := by
      simp only [newAbility, Bind.bind, ask, hnew]
      rfl
    have hnext := hnext ability battle
    unfold Attempt.FollowsAt Attempt.returned at hnext ⊢
    rw [Attempt.bind_of_ok hmade]
    exact hnext

theorem addAura_follows {use : Ability → Checked} (slot : Slot) (abilityId : Nat) (duration : Int)
    (caster : Side) (huse : ∀ aura, Follows rules (use aura) (code aura)) :
    Follows rules (addAura rules slot abilityId duration caster use)
      (Battle.addAura rules slot abilityId duration caster code) := by
  refine Attempt.follows_ask fun battle => ?_
  split
  · exact Attempt.follows_pure battle
  cases (battle.pet slot).auras.get? abilityId with
  | some aura =>
    refine Attempt.FollowsAt.bind ?_ (huse aura).singleton
    unfold refreshDuration
    split
    · exact Attempt.follows_pure battle
    · exact act_follows _ battle
  | none =>
    refine newAbility_followsAt abilityId caster slot.side duration fun aura => ?_
    exact (act_follows _).bind (huse aura).singleton

/-- An effect that puts no aura on needs no more fuel. -/
theorem handleEffect_of_none {ability : Ability} (hnone : battle.triggeredAura ability entry = none)
    (fuel : Nat) :
    Battle.handleEffect rules (fuel + 1) ability entry battle =
      Battle.handleEffect rules 1 ability entry battle := by
  unfold Battle.handleEffect Script.read
  unfold triggeredAura at hnone
  cases heffect : entry.effect with
  | aura | auraPeriodicDamage =>
    rw [heffect] at hnone
    cases hnone
  | auraCondition =>
    simp only [heffect] at hnone ⊢
    split
    · rfl
    next hcaster =>
      rw [if_neg hcaster] at hnone
      split
      · rfl
      next htarget =>
        rw [if_neg htarget] at hnone
        cases hnone
  | _ => rfl

/-- An effect that puts an aura on is the aura with its effects. -/
theorem handleEffect_of_some {ability : Ability} {duration : Int}
    (hsome : battle.triggeredAura ability entry = some duration) (fuel : Nat) :
    Battle.handleEffect rules (fuel + 1) ability entry battle =
      Battle.addAura rules (battle.effectTarget ability entry) entry.triggerId duration
        ability.caster (fun aura => Battle.castAura rules fuel aura) battle := by
  unfold triggeredAura at hsome
  rw [Battle.handleEffect, Script.read]
  cases heffect : entry.effect with
  | aura | auraPeriodicDamage =>
    rw [heffect] at hsome
    cases hsome
    rfl
  | auraCondition =>
    simp only [heffect] at hsome ⊢
    split
    next hcaster =>
      rw [if_pos hcaster] at hsome
      cases hsome
    next hcaster =>
      rw [if_neg hcaster] at hsome
      split
      next htarget =>
        rw [if_pos htarget] at hsome
        cases hsome
      next htarget =>
        rw [if_neg htarget] at hsome
        cases hsome
        rfl
  | _ =>
    rw [heffect] at hsome
    cases hsome

/-- By induction on the fuel, which the auras of effects use up. -/
theorem handleEffect_follows (entry : BattlePetAbilityEffectEntry) :
    Follows rules (handleEffect rules fuel ability entry)
      (Battle.handleEffect rules fuel ability entry) := by
  induction fuel generalizing ability entry with
  | zero => exact Attempt.follows_stop Stop.depth
  | succ fuel ih =>
    intro battle
    have hadd := fun duration => addAura_follows (battle.effectTarget ability entry)
      entry.triggerId duration ability.caster (fun aura => Attempt.follows_forM (ih aura)
        (rules.getEffects aura.id aura.turn)) battle
    show Attempt.FollowsAt (perform rules)
      (match battle.triggeredAura ability entry with
        | some duration =>
          addAura rules (battle.effectTarget ability entry) entry.triggerId duration
            ability.caster fun aura =>
              forM (rules.getEffects aura.id aura.turn) (handleEffect rules fuel aura)
        | none => plain rules (Battle.handleEffect rules 1 ability entry))
      (Battle.handleEffect rules (fuel + 1) ability entry) battle
    cases htriggered : battle.triggeredAura ability entry with
    | some duration =>
      unfold Attempt.FollowsAt Script.run
      rw [handleEffect_of_some htriggered]
      exact hadd duration
    | none =>
      unfold Attempt.FollowsAt Script.run
      rw [handleEffect_of_none htriggered]
      exact plain_follows _ battle

theorem castAura_follows (aura : Ability) :
    Follows rules (castAura rules fuel aura) (Battle.castAura rules fuel aura) :=
  Attempt.follows_forM (handleEffect_follows fuel aura) _

theorem handleAllEffects_follows :
    Follows rules (handleAllEffects rules fuel ability)
      (Battle.handleAllEffects rules fuel ability) :=
  Attempt.follows_forM
    (fun turn : UInt8 × List BattlePetAbilityEffectEntry =>
      Attempt.follows_forM (handleEffect_follows fuel ability) turn.2) _

/-- `CastAbility` does the same in both. -/
theorem castAbility_follows (abilityId : Nat) :
    Follows rules (castAbility rules fuel side abilityId)
      (Battle.castAbility rules fuel side abilityId) := by
  refine Attempt.follows_ask fun battle => ?_
  dsimp only
  split
  · exact Attempt.follows_pure battle
  cases rules.abilityData abilityId with
  | some flags =>
    refine addAura_follows _ _ _ _ (fun aura => ?_) battle
    exact (castAura_follows fuel aura).bind (act_follows _).singleton
  | none =>
    refine newAbility_followsAt abilityId side side.opponent 0 fun ability => ?_
    refine (act_follows _).bind ?_
    exact (handleAllEffects_follows fuel ability).bind (act_follows _).singleton

theorem updateAbility_follows (slot : Slot) (aura : Ability) :
    Follows rules (updateAbility rules fuel slot aura)
      (Battle.updateAbility rules fuel slot aura) := by
  unfold updateAbility Battle.updateAbility
  split
  · exact act_follows _
  · refine (plain_follows _).bind ((act_follows _).bind ?_)
    exact (castAura_follows fuel _).singleton

theorem updateAuras_follows (slot : Slot) (last : Option Nat) :
    Follows rules (updateAuras rules fuel slot last)
      (Battle.updateAuras rules fuel slot last) := by
  induction fuel generalizing last with
  | zero => exact Attempt.follows_stop Stop.depth
  | succ fuel ih =>
    refine Attempt.follows_ask fun battle => ?_
    cases (battle.pet slot).auras.rows.find? fun aura => last.all (· < aura.id) with
    | none => exact Attempt.follows_pure battle
    | some aura =>
      refine Attempt.FollowsAt.bind ?_ (ih _).singleton
      unfold updateAura
      split
      · exact Attempt.follows_pure battle
      · exact updateAbility_follows fuel slot aura battle

theorem updatePet_follows (slot : Slot) :
    Follows rules (updatePet rules fuel slot) (Battle.updatePet rules fuel slot) := by
  refine (act_follows _).bind ((updateAuras_follows fuel slot none).bind ?_)
  exact (plain_follows _).bind (act_follows _).singleton

theorem updateMember_follows :
    Follows rules (updateMember rules fuel side) (Battle.updateMember rules fuel side) :=
  Attempt.follows_ask fun battle =>
    Attempt.follows_forM (updatePet_follows fuel) (battle.slots side) battle

theorem tryToEnd_follows {checked : Checked} {code : Code} (hend : Follows rules checked code) :
    Follows rules (tryToEnd checked)
      (.read fun battle =>
        if battle.movedMask .pad0 && battle.movedMask .pad1 then code else .done) := by
  refine Attempt.follows_ask fun battle => ?_
  split
  · exact hend battle
  · exact Attempt.follows_pure battle

theorem endRound_follows : Follows rules (endRound rules fuel) (Battle.endRound rules fuel) := by
  induction fuel with
  | zero => exact Attempt.follows_stop Stop.depth
  | succ fuel ih =>
    refine (updateMember_follows fuel .pad0).bind ((updateMember_follows fuel .pad1).bind ?_)
    refine (plain_follows _).bind ((plain_follows _).bind ((act_follows _).bind ?_))
    refine Attempt.Follows.singleton (Attempt.follows_ask fun battle => ?_)
    split
    · exact Attempt.follows_pure battle
    · exact (act_follows _).bind (tryToEnd_follows ih).singleton battle

theorem tryEndRound_follows :
    Follows rules (tryEndRound rules fuel) (Battle.tryEndRound rules fuel) :=
  tryToEnd_follows (endRound_follows fuel)

/-- The effect of an action that is accepted is the same in both. -/
theorem actionEffect_follows :
    Follows rules (actionEffect rules fuel side action)
      (Battle.actionEffect rules fuel side action) := by
  unfold actionEffect Battle.actionEffect
  cases action with
  | useAbility abilityId => exact castAbility_follows fuel side abilityId
  | swapPet index =>
    refine Attempt.follows_ask fun battle => ?_
    cases (battle.slots side).find? fun slot => slot.index.val = index with
    | none => exact Attempt.follows_stop Stop.assertion battle
    | some slot => exact act_follows _ battle
  | forfeit | useTrap | endBattle => exact Attempt.follows_pure

theorem handleAccepted_follows :
    Follows rules (handleAccepted rules fuel side action)
      (seq rules [Battle.actionEffect rules fuel side action, .op (.setMoved side),
        Battle.tryEndRound rules fuel]) :=
  (actionEffect_follows fuel side action).bind
    ((act_follows _).bind (tryEndRound_follows fuel).singleton)

/-- A request does the same, whether or not the reason is told why it does not return. -/
theorem handleAction_follows :
    Follows rules (handleAction rules fuel side action)
      (Battle.handleAction rules fuel side action) := by
  refine Attempt.follows_ask fun battle => ?_
  split
  · exact Attempt.follows_pure battle
  cases action with
  | forfeit => exact act_follows _ battle
  | _ =>
    dsimp only
    split
    · exact handleAccepted_follows fuel side _ battle
    · exact Attempt.follows_pure battle

end Checked

end Battle

end MopServer.BattlePets
