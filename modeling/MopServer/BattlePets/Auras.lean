import Mathlib.Tactic.Ring
import MopServer.BattlePets.Turns

/-! # Auras of pets

An aura changes states of a pet when it is put on, and is to undo the change when it is removed.
Both go to whichever pets are active at that moment.
-/

namespace MopServer.BattlePets

open MopServer.Foundation

namespace Rules

variable (rules : Rules)

def worth (rows : List (Nat × Int)) (power state : Nat) : Int :=
  ((rows.filter fun row => row.1 = state && rules.state row.1).map (rules.modifier power)).sum

def delta (abilityId power state : Nat) : Int :=
  rules.worth (rules.abilityStates abilityId) power state

/-- Some ability modifies the state. -/
def Modifies (state : Nat) : Prop :=
  ∃ abilityId, ∃ row ∈ rules.abilityStates abilityId, row.1 = state

/-- The ability changes no state. -/
def Inert (abilityId : Nat) : Prop :=
  ∀ power, ∀ row ∈ rules.abilityStates abilityId, rules.state row.1 = true →
    rules.modifier power row = 0

/-- The tables leave the states alone that the battle itself writes. -/
def LeavesOwnStates : Prop :=
  ∀ state, rules.Modifies state → state ≠ BattlePetState.isDead ∧
    state ≠ BattlePetState.lastHitTaken ∧ state ≠ BattlePetState.lastHitDealt

end Rules

namespace Pet

variable (rules : Rules) (pet : Pet)

def live : List Ability := pet.auras.rows.filter fun aura => !aura.removed

/-- What these are worth for a state. -/
def auraModifiers (state : Nat) : Int :=
  (pet.live.map fun aura => rules.delta aura.id pet.power state).sum

/-- The states that the rows change are there, so that they can be changed back. -/
def Shows (rows : List (Nat × Int)) : Prop :=
  ∀ row ∈ rows, rules.state row.1 = true → rules.modifier pet.power row ≠ 0 →
    (pet.states row.1).isSome = true

end Pet

namespace Battle

variable {rules : Rules} {ticking : Slot → Prop} {battle after start : Battle} {side : Side}

/-! ## Changes of states -/

variable (pet : Pet) (state : Nat) (value : Int) (apply : Bool)

theorem modifyState_power : (pet.modifyState rules state value apply).power = pet.power := by
  unfold Pet.modifyState
  split
  · split
    · split
      · rfl
      · split <;> rfl
    · rfl
  · rfl

theorem modifyState_isSome {other : Nat} (hsome : (pet.states other).isSome = true) :
    ((pet.modifyState rules state value apply).states other).isSome = true := by
  by_cases hne : other = state
  · subst hne
    unfold Pet.modifyState
    split
    · split
      next hnone =>
        rw [hnone] at hsome
        cases hsome
      · simp
    · exact hsome
  · rw [modifyState_states pet hne]
    exact hsome

/-- A change that is shown changes the value of its state and no other. -/
theorem modifyState_value {state : Nat} {value : Int} {apply : Bool}
    (hshows : apply = true ∨ (rules.state state = true → value ≠ 0 →
      (pet.states state).isSome = true)) (other : Nat) :
    (pet.modifyState rules state value apply).getStateValue other =
      pet.getStateValue other +
        (if other = state && rules.state state then if apply then value else -value else 0) := by
  by_cases hne : other = state
  · subst hne
    unfold Pet.modifyState Pet.getStateValue
    cases hstate : rules.state other with
    | false => simp
    | true =>
      cases hold : pet.states other with
      | some old => simp
      | none =>
        cases apply with
        | true => simp
        | false =>
          have hzero : value = 0 := by
            by_contra hvalue
            have hsome := hshows.resolve_left Bool.false_ne_true hstate hvalue
            rw [hold] at hsome
            cases hsome
          cases rules.reported other <;> simp [hold, hzero]
  · unfold Pet.getStateValue
    rw [modifyState_states pet hne]
    simp [hne]

variable (rules) in
/-- `ModifyStates`, by its rows. -/
def modifyRows (rows : List (Nat × Int)) (apply : Bool) (pet : Pet) : Pet :=
  rows.foldl
    (fun pet row => pet.modifyState rules row.1 (rules.modifier pet.power row) apply) pet

theorem modifyRows_isSome (rows : List (Nat × Int)) (apply : Bool) (pet : Pet) {state : Nat}
    (hsome : (pet.states state).isSome = true) :
    ((modifyRows rules rows apply pet).states state).isSome = true := by
  induction rows generalizing pet with
  | nil => exact hsome
  | cons row rest ih => exact ih _ (modifyState_isSome _ _ _ _ hsome)

/-- The rows of an ability change each state by what they are worth. -/
theorem modifyRows_value (rows : List (Nat × Int)) {apply : Bool} {pet : Pet}
    (hshows : apply = true ∨ pet.Shows rules rows) (state : Nat) :
    (modifyRows rules rows apply pet).getStateValue state =
      pet.getStateValue state +
        if apply then rules.worth rows pet.power state
        else -rules.worth rows pet.power state := by
  induction rows generalizing pet with
  | nil => simp [modifyRows, Rules.worth]
  | cons row rest ih =>
    let next := pet.modifyState rules row.1 (rules.modifier pet.power row) apply
    have hfirst : next.getStateValue state = pet.getStateValue state +
        (if state = row.1 && rules.state row.1 then
          if apply then rules.modifier pet.power row else -rules.modifier pet.power row
          else 0) :=
      modifyState_value pet (hshows.imp_right fun hall => hall row List.mem_cons_self) state
    have hpower : next.power = pet.power := modifyState_power pet _ _ _
    have hlater : apply = true ∨ next.Shows rules rest := by
      refine hshows.imp_right fun hall other hother hstate hvalue => ?_
      rw [hpower] at hvalue
      exact modifyState_isSome _ _ _ _ (hall other (List.mem_cons_of_mem _ hother) hstate hvalue)
    have hrest := ih hlater
    rw [hpower, hfirst] at hrest
    have hworth : rules.worth (row :: rest) pet.power state =
        (if state = row.1 && rules.state row.1 then rules.modifier pet.power row else 0) +
          rules.worth rest pet.power state := by
      unfold Rules.worth
      rw [List.filter_cons]
      by_cases hstate : state = row.1
      · subst hstate
        cases hknown : rules.state row.1 <;> simp
      · simp [hstate, Ne.symm hstate]
    refine hrest.trans ?_
    rw [hworth]
    cases apply <;> split <;> simp <;> ring

theorem modifyState_shows {state : Nat} (hstate : rules.state state = true) (value : Int) :
    ((pet.modifyState rules state value true).states state).isSome = true := by
  unfold Pet.modifyState
  rw [if_pos hstate]
  split <;> simp

theorem modifyRows_shows (rows : List (Nat × Int)) (pet : Pet) :
    ∀ row ∈ rows, rules.state row.1 = true →
      ((modifyRows rules rows true pet).states row.1).isSome = true := by
  intro row hrow hstate
  induction rows generalizing pet with
  | nil => cases hrow
  | cons first rest ih =>
    rcases List.mem_cons.mp hrow with rfl | hrest
    · exact modifyRows_isSome rest true _ (modifyState_shows pet hstate _)
    · exact ih _ hrest

/-! ## What `Apply` and `Remove` do -/

variable {Field : Type} (field : Pet → Field) {change : Pet → Pet}

theorem modifyPet_field (battle : Battle) (slot : Slot)
    (hchange : ∀ pet, field (change pet) = field pet) (other : Slot) :
    field ((battle.modifyPet slot change).pet other) = field (battle.pet other) := by
  by_cases hslot : other = slot
  · rw [hslot, modifyPet_self, hchange]
  · rw [modifyPet_of_ne _ _ hslot]

theorem modifyState_auras : (pet.modifyState rules state value apply).auras = pet.auras := by
  unfold Pet.modifyState
  split
  · split
    · split
      · rfl
      · split <;> rfl
    · rfl
  · rfl

theorem modifyState_flag :
    (pet.modifyState rules state value apply).hasActiveMultiTurnAbility =
      pet.hasActiveMultiTurnAbility := by
  unfold Pet.modifyState
  split
  · split
    · split
      · rfl
      · split <;> rfl
    · rfl
  · rfl

/-- What states do not belong to is the same after `ModifyStates`. -/
theorem modifyRows_field (hfield : ∀ (pet : Pet) state value apply,
      field (pet.modifyState rules state value apply) = field pet) (rows : List (Nat × Int))
    (apply : Bool) (pet : Pet) : field (modifyRows rules rows apply pet) = field pet := by
  induction rows generalizing pet with
  | nil => rfl
  | cons row rest ih => exact (ih _).trans (hfield _ _ _ _)

variable (rules) in
/-- The pet with the flag that `Apply` and `Remove` set for the caster. -/
def flagged (battle : Battle) (ability : Ability) (apply : Bool) (slot : Slot) : Pet :=
  if rules.isMultiTurn ability.id && slot = battle.activePet ability.caster then
    { battle.pet slot with hasActiveMultiTurnAbility := apply }
  else battle.pet slot

theorem flagged_field
    (hfield : ∀ (pet : Pet) flag, field { pet with hasActiveMultiTurnAbility := flag } = field pet)
    (battle : Battle) (ability : Ability) (apply : Bool) (slot : Slot) :
    field (flagged rules battle ability apply slot) = field (battle.pet slot) := by
  unfold flagged
  split
  · exact hfield _ _
  · rfl

/-- Every pet after `Apply` or `Remove`. -/
theorem applyAbility_pet (battle : Battle) (ability : Ability) (apply : Bool) (slot : Slot) :
    (battle.applyAbility rules ability apply).pet slot =
      if slot = battle.activePet ability.target then
        modifyRows rules (rules.abilityStates ability.id) apply
          (flagged rules battle ability apply slot)
      else flagged rules battle ability apply slot := by
  have hflagged : (if rules.isMultiTurn ability.id then
      battle.modifyPet (battle.activePet ability.caster) fun pet =>
        { pet with hasActiveMultiTurnAbility := apply }
      else battle).pet slot = flagged rules battle ability apply slot := by
    unfold flagged
    cases rules.isMultiTurn ability.id with
    | false => rfl
    | true =>
      simp only [Bool.true_and, decide_eq_true_eq, if_true]
      split
      next heq => rw [heq, modifyPet_self]
      next hne => exact modifyPet_of_ne _ _ hne
  have hactive : (if rules.isMultiTurn ability.id then
      battle.modifyPet (battle.activePet ability.caster) fun pet =>
        { pet with hasActiveMultiTurnAbility := apply }
      else battle).activePet ability.target = battle.activePet ability.target := by
    split <;> rfl
  unfold applyAbility
  dsimp only
  rw [hactive]
  by_cases heq : slot = battle.activePet ability.target
  · rw [if_pos heq, ← hflagged, heq, modifyPet_self]
    rfl
  · rw [if_neg heq, modifyPet_of_ne _ _ heq, hflagged]

theorem applyAbility_field (hstate : ∀ (pet : Pet) state value apply,
      field (pet.modifyState rules state value apply) = field pet)
    (hflag : ∀ (pet : Pet) flag, field { pet with hasActiveMultiTurnAbility := flag } = field pet)
    (battle : Battle) (ability : Ability) (apply : Bool) (slot : Slot) :
    field ((battle.applyAbility rules ability apply).pet slot) = field (battle.pet slot) := by
  rw [applyAbility_pet]
  split
  · rw [modifyRows_field field hstate, flagged_field field hflag]
  · exact flagged_field field hflag _ _ _ _

theorem applyAbility_power (battle : Battle) (ability : Ability) (apply : Bool) (slot : Slot) :
    ((battle.applyAbility rules ability apply).pet slot).power = (battle.pet slot).power :=
  applyAbility_field Pet.power modifyState_power (fun _ _ => rfl) battle ability apply slot

theorem applyAbility_auras (battle : Battle) (ability : Ability) (apply : Bool) (slot : Slot) :
    ((battle.applyAbility rules ability apply).pet slot).auras = (battle.pet slot).auras :=
  applyAbility_field Pet.auras modifyState_auras (fun _ _ => rfl) battle ability apply slot

/-- Only the active pet of the caster takes the flag of several turns. -/
theorem applyAbility_flag (battle : Battle) (ability : Ability) (apply : Bool) (slot : Slot) :
    ((battle.applyAbility rules ability apply).pet slot).hasActiveMultiTurnAbility =
      if rules.isMultiTurn ability.id && slot = battle.activePet ability.caster then apply
      else (battle.pet slot).hasActiveMultiTurnAbility := by
  have hflagged : (flagged rules battle ability apply slot).hasActiveMultiTurnAbility =
      if rules.isMultiTurn ability.id && slot = battle.activePet ability.caster then apply
      else (battle.pet slot).hasActiveMultiTurnAbility := by
    unfold flagged
    split <;> rfl
  rw [applyAbility_pet, ← hflagged]
  split
  · exact modifyRows_field _ modifyState_flag _ _ _
  · rfl

theorem applyAbility_isSome (battle : Battle) (ability : Ability) (apply : Bool) (slot : Slot)
    {state : Nat} (hsome : ((battle.pet slot).states state).isSome = true) :
    (((battle.applyAbility rules ability apply).pet slot).states state).isSome = true := by
  have hflagged : (flagged rules battle ability apply slot).states = (battle.pet slot).states :=
    flagged_field Pet.states (fun _ _ => rfl) _ _ _ _
  rw [← hflagged] at hsome
  rw [applyAbility_pet]
  split
  · exact modifyRows_isSome _ _ _ hsome
  · exact hsome

/-- The states change on the pet that is active for the target, by what the ability is worth. -/
theorem applyAbility_value (battle : Battle) (ability : Ability) {apply : Bool}
    (hshows : apply = true ∨ (battle.pet (battle.activePet ability.target)).Shows rules
      (rules.abilityStates ability.id)) (slot : Slot) (state : Nat) :
    ((battle.applyAbility rules ability apply).pet slot).getStateValue state =
      (battle.pet slot).getStateValue state +
        if slot = battle.activePet ability.target then
          if apply then rules.delta ability.id (battle.pet slot).power state
          else -rules.delta ability.id (battle.pet slot).power state
        else 0 := by
  have hstates : (flagged rules battle ability apply slot).states = (battle.pet slot).states :=
    flagged_field Pet.states (fun _ _ => rfl) _ _ _ _
  have hpower : (flagged rules battle ability apply slot).power = (battle.pet slot).power :=
    flagged_field Pet.power (fun _ _ => rfl) _ _ _ _
  have hvalue : (flagged rules battle ability apply slot).getStateValue state =
      (battle.pet slot).getStateValue state := by
    unfold Pet.getStateValue
    rw [hstates]
  rw [applyAbility_pet]
  split
  next heq =>
    rw [modifyRows_value, hpower, hvalue]
    · rfl
    · refine hshows.imp_right fun hall row hrow hstate hmodifier => ?_
      rw [hpower] at hmodifier
      rw [hstates]
      subst heq
      exact hall row hrow hstate hmodifier
  · rw [hvalue, add_zero]

/-! ## The account -/

variable (rules) in
/-- A multi-turn ability of a pet that has not been removed from its holder. -/
def MultiTurnBy (battle : Battle) (holder : Slot) (aura : Ability) (slot : Slot) : Prop :=
  aura ∈ (battle.pet holder).live ∧ rules.isMultiTurn aura.id = true ∧ aura.casterPet = slot

variable (rules) in
/-- The states of the pets are those at the start and what the auras on them are worth; a pet has
the flag of a multi-turn ability exactly if it has cast one that is still on. -/
structure Accounted (start battle : Battle) : Prop where
  values : ∀ slot state, rules.Modifies state →
    (battle.pet slot).getStateValue state =
      (start.pet slot).getStateValue state + (battle.pet slot).auraModifiers rules state
  shows : ∀ slot, ∀ aura ∈ (battle.pet slot).live,
    (battle.pet slot).Shows rules (rules.abilityStates aura.id)
  flags : ∀ slot, (battle.pet slot).hasActiveMultiTurnAbility = true ↔
    ∃ holder aura, MultiTurnBy rules battle holder aura slot
  lasting : ∀ slot, ∀ aura ∈ (battle.pet slot).live, rules.isMultiTurn aura.id = true →
    aura.maxDuration ≠ 0

def account (aura : Ability) : Nat × Slot × Int := (aura.id, aura.casterPet, aura.maxDuration)

variable (rules) in
/-- The account sees no change of the pet. -/
structure Alike (before after : Pet) : Prop where
  power : after.power = before.power
  states : ∀ state, rules.Modifies state → after.states state = before.states state
  flag : after.hasActiveMultiTurnAbility = before.hasActiveMultiTurnAbility
  live : after.live.map account = before.live.map account

theorem Alike.refl : Alike rules pet pet := ⟨rfl, fun _ _ => rfl, rfl, rfl⟩

theorem Alike.trans {first second third : Pet} (hfirst : Alike rules first second)
    (hsecond : Alike rules second third) : Alike rules first third where
  power := hsecond.power.trans hfirst.power
  states state hstate := (hsecond.states state hstate).trans (hfirst.states state hstate)
  flag := hsecond.flag.trans hfirst.flag
  live := hsecond.live.trans hfirst.live

variable {before : Pet} {aura : Ability}

theorem Alike.exists_aura {after : Pet} (halike : Alike rules before after)
    (haura : aura ∈ after.live) : ∃ old ∈ before.live, account old = account aura := by
  have hmem : account aura ∈ before.live.map account := halike.live ▸ List.mem_map_of_mem haura
  exact List.mem_map.mp hmem

theorem Alike.symm {after : Pet} (halike : Alike rules before after) :
    Alike rules after before where
  power := halike.power.symm
  states state hstate := (halike.states state hstate).symm
  flag := halike.flag.symm
  live := halike.live.symm

theorem Alike.auraModifiers {after : Pet} (halike : Alike rules before after) (state : Nat) :
    after.auraModifiers rules state = before.auraModifiers rules state := by
  have hmap : ∀ pet : Pet, pet.auraModifiers rules state =
      ((pet.live.map account).map fun entry => rules.delta entry.1 pet.power state).sum := by
    intro pet
    rw [List.map_map]
    rfl
  rw [hmap, hmap, halike.live, halike.power]

theorem MultiTurnBy.alike {holder slot : Slot} (hby : MultiTurnBy rules battle holder aura slot)
    (halike : ∀ slot, Alike rules (battle.pet slot) (after.pet slot)) :
    ∃ aura, MultiTurnBy rules after holder aura slot := by
  obtain ⟨hlive, hmulti, hcaster⟩ := hby
  obtain ⟨other, hother, haccount⟩ := (halike holder).symm.exists_aura hlive
  unfold account at haccount
  rw [Prod.mk.injEq, Prod.mk.injEq] at haccount
  exact ⟨other, hother, haccount.1 ▸ hmulti, haccount.2.1.trans hcaster⟩

variable (haccounted : Accounted rules start battle)

include haccounted in
theorem Accounted.alike (halike : ∀ slot, Alike rules (battle.pet slot) (after.pet slot)) :
    Accounted rules start after where
  values slot state hstate := by
    have hvalue : (after.pet slot).getStateValue state = (battle.pet slot).getStateValue state := by
      unfold Pet.getStateValue
      rw [(halike slot).states state hstate]
    rw [hvalue, (halike slot).auraModifiers]
    exact haccounted.values slot state hstate
  shows slot aura haura row hrow hknown hmodifier := by
    obtain ⟨old, hold, haccount⟩ := (halike slot).exists_aura haura
    have hid : old.id = aura.id := congrArg Prod.fst haccount
    rw [(halike slot).power] at hmodifier
    rw [(halike slot).states row.1 ⟨aura.id, row, hrow, rfl⟩]
    exact haccounted.shows slot old hold row (hid ▸ hrow) hknown hmodifier
  flags slot := by
    rw [(halike slot).flag, haccounted.flags slot]
    constructor
    · rintro ⟨holder, aura, hby⟩
      exact ⟨holder, hby.alike halike⟩
    · rintro ⟨holder, aura, hby⟩
      exact ⟨holder, hby.alike fun slot => (halike slot).symm⟩
  lasting slot aura haura hmulti := by
    obtain ⟨old, hold, haccount⟩ := (halike slot).exists_aura haura
    unfold account at haccount
    rw [Prod.mk.injEq, Prod.mk.injEq] at haccount
    rw [← haccount.2.2]
    exact haccounted.lasting slot old hold (haccount.1 ▸ hmulti)

variable {slot : Slot} {f : Ability → Ability}

theorem modifyPet_alike (hchange : ∀ pet, Alike rules pet (change pet)) (other : Slot) :
    Alike rules (battle.pet other) ((battle.modifyPet slot change).pet other) := by
  by_cases hslot : other = slot
  · rw [hslot, modifyPet_self]
    exact hchange _
  · rw [modifyPet_of_ne _ _ hslot]
    exact Alike.refl _

theorem Alike.modifyPet {pet : Pet} {other : Slot} (halike : Alike rules pet (battle.pet other))
    (hchange : ∀ pet, Alike rules pet (change pet)) :
    Alike rules pet ((battle.modifyPet slot change).pet other) :=
  halike.trans (modifyPet_alike hchange other)

theorem modify_alike (abilityId : Nat) (hf : ∀ aura, (f aura).id = aura.id)
    (haccount : ∀ aura, account (f aura) = account aura)
    (hremoved : ∀ aura, (f aura).removed = aura.removed) (pet : Pet) :
    Alike rules pet { pet with auras := pet.auras.modify abilityId f hf } := by
  refine ⟨rfl, fun _ _ => rfl, rfl, ?_⟩
  unfold Pet.live Table.modify
  rw [List.filter_map, List.map_map]
  have hkeep : ((fun aura : Ability => !aura.removed) ∘
      fun aura => if Keyed.key aura = abilityId then f aura else aura) =
        fun aura => !aura.removed := by
    funext aura
    simp only [Function.comp_apply]
    split
    · rw [hremoved]
    · rfl
  rw [hkeep]
  refine List.map_congr_left fun aura _ => ?_
  simp only [Function.comp_apply]
  split
  · exact haccount aura
  · rfl

theorem ne_of_modifies {state other : Nat} (hstate : ¬rules.Modifies state)
    (hother : rules.Modifies other) : other ≠ state := by
  rintro rfl
  exact hstate hother

theorem setState_alike {state : Nat} (hstate : ¬rules.Modifies state) (value : Int) (pet : Pet) :
    Alike rules pet (pet.setState rules state value) := by
  have hstates : ∀ other, rules.Modifies other →
      (pet.setState rules state value).states other = pet.states other := fun other hother =>
    setState_states pet (ne_of_modifies hstate hother) value
  unfold Pet.setState at hstates ⊢
  split
  next hknown =>
    simp only [hknown, if_true] at hstates
    exact ⟨rfl, hstates, rfl, rfl⟩
  · exact Alike.refl pet

theorem modifyState_alike {state : Nat} (hstate : ¬rules.Modifies state) (value : Int)
    (apply : Bool) (pet : Pet) :
    Alike rules pet (pet.modifyState rules state value apply) where
  power := modifyState_power _ _ _ _
  states _ hother := modifyState_states pet (ne_of_modifies hstate hother) _ _
  flag := modifyState_flag _ _ _ _
  live := by
    unfold Pet.live
    rw [modifyState_auras]

theorem setHealth_alike (pet : Pet) : Alike rules pet (pet.setHealth value) := by
  unfold Pet.setHealth
  split <;> exact ⟨rfl, fun _ _ => rfl, rfl, rfl⟩

/-! ## New auras and old ones -/

variable {abilityId : Nat}

theorem delta_of_inert (hinert : rules.Inert abilityId) (power state : Nat) :
    rules.delta abilityId power state = 0 := by
  refine List.sum_eq_zero fun value hvalue => ?_
  obtain ⟨row, hrow, rfl⟩ := List.mem_map.mp hvalue
  obtain ⟨hmem, htest⟩ := List.mem_filter.mp hrow
  simp only [Bool.and_eq_true] at htest
  exact hinert power row hmem htest.2

theorem shows_of_inert (hinert : rules.Inert abilityId) (pet : Pet) :
    pet.Shows rules (rules.abilityStates abilityId) :=
  fun row hrow hknown hmodifier => absurd (hinert pet.power row hrow hknown) hmodifier

theorem live_insert {pet : Pet} (hnew : pet.auras.get? aura.id = none)
    (hremoved : aura.removed = false) :
    ({ pet with auras := pet.auras.insert aura (.sorted _) } : Pet).live.Perm
      (aura :: pet.live) := by
  have hfilter := (Table.rows_insert_perm hnew (.sorted Ability)).filter fun aura => !aura.removed
  rw [List.filter_cons_of_pos (by simp [hremoved])] at hfilter
  exact hfilter

def rest (abilityId : Nat) : List Ability :=
  (pet.auras.erase abilityId).rows.filter fun aura => !aura.removed

theorem mem_rest {pet : Pet} :
    aura ∈ rest pet abilityId ↔ aura ∈ pet.live ∧ aura.id ≠ abilityId := by
  unfold rest Pet.live
  rw [List.mem_filter, List.mem_filter, ← Table.mem_def, Table.mem_erase, Table.mem_def]
  exact and_right_comm

theorem live_perm_rest {pet : Pet} (hget : pet.auras.get? aura.id = some aura) :
    pet.live.Perm (if aura.removed then rest pet aura.id else aura :: rest pet aura.id) := by
  have hmem := (Table.get?_eq_some_iff.mp hget).1
  have hperm := (Table.perm_cons_erase hmem).filter fun aura => !aura.removed
  cases hremoved : aura.removed with
  | true =>
    rw [List.filter_cons_of_neg (by simp [hremoved])] at hperm
    exact hperm
  | false =>
    rw [List.filter_cons_of_pos (by simp [hremoved])] at hperm
    exact hperm

theorem live_note_removed (abilityId : Nat) :
    ({ pet with auras := pet.auras.modify abilityId fun aura =>
        { aura with removed := true } } : Pet).live = rest pet abilityId := by
  unfold Pet.live rest Table.modify Table.erase
  dsimp only
  induction pet.auras.rows with
  | nil => rfl
  | cons aura others ih =>
    rw [List.map_cons]
    by_cases hkey : Keyed.key aura = abilityId
    · rw [if_pos hkey, List.filter_cons_of_neg (by simp), ih]
      rw [List.filter_cons_of_neg (by simp [hkey])]
    · have hkept : (aura :: others).filter (fun row => decide (Keyed.key row ≠ abilityId)) =
          aura :: others.filter fun row => decide (Keyed.key row ≠ abilityId) :=
        List.filter_cons_of_pos (by simpa using hkey)
      rw [if_neg hkey, List.filter_cons, ih, hkept, List.filter_cons]

theorem applyAbility_live (battle : Battle) (ability : Ability) (apply : Bool) (slot : Slot) :
    ((battle.applyAbility rules ability apply).pet slot).live = (battle.pet slot).live := by
  unfold Pet.live
  rw [applyAbility_auras]

theorem applyAbility_auraModifiers (battle : Battle) (ability : Ability) (apply : Bool)
    (slot : Slot) (state : Nat) :
    ((battle.applyAbility rules ability apply).pet slot).auraModifiers rules state =
      (battle.pet slot).auraModifiers rules state := by
  unfold Pet.auraModifiers
  rw [applyAbility_live, applyAbility_power]

theorem applyAbility_shows {ability : Ability} {apply : Bool} {rows : List (Nat × Int)}
    (hshows : (battle.pet slot).Shows rules rows) :
    ((battle.applyAbility rules ability apply).pet slot).Shows rules rows := by
  intro row hrow hknown hmodifier
  rw [applyAbility_power] at hmodifier
  exact applyAbility_isSome battle ability apply slot (hshows row hrow hknown hmodifier)

def withAuras (battle : Battle) (slot : Slot) (auras : Table Ability) : Battle :=
  battle.modifyPet slot fun pet => { pet with auras := auras }

theorem withAuras_field
    (hfield : ∀ (pet : Pet) auras, field { pet with auras := auras } = field pet) (battle : Battle)
    (slot : Slot) (auras : Table Ability) (other : Slot) :
    field ((battle.withAuras slot auras).pet other) = field (battle.pet other) :=
  modifyPet_field field battle slot (fun pet => hfield pet auras) other

variable {aura : Ability} {auras : Table Ability}

theorem live_withAuras_self :
    ((battle.withAuras slot auras).pet slot).live =
      auras.rows.filter fun aura => !aura.removed := by
  unfold withAuras Pet.live
  rw [modifyPet_self]

theorem live_withAuras_of_ne {other : Slot} {auras : Table Ability} (hne : other ≠ slot) :
    ((battle.withAuras slot auras).pet other).live = (battle.pet other).live := by
  unfold withAuras
  rw [modifyPet_of_ne _ _ hne]

variable (rules battle slot aura auras) in
/-- What putting an aura on or taking it off changes beside the auras of the pet. -/
theorem applied_withAuras (apply : Bool) :
    let after := (battle.applyAbility rules aura apply).withAuras slot auras
    (∀ other, other ≠ slot → (after.pet other).live = (battle.pet other).live) ∧
      ∀ other, (after.pet other).power = (battle.pet other).power ∧
        (after.pet other).states = ((battle.applyAbility rules aura apply).pet other).states ∧
        (after.pet other).hasActiveMultiTurnAbility =
          ((battle.applyAbility rules aura apply).pet other).hasActiveMultiTurnAbility ∧
        (after.pet other).getStateValue =
          ((battle.applyAbility rules aura apply).pet other).getStateValue := by
  intro after
  refine ⟨fun other hne => (live_withAuras_of_ne hne).trans (applyAbility_live _ _ _ _),
    fun other => ?_⟩
  have hstates : (after.pet other).states =
      ((battle.applyAbility rules aura apply).pet other).states :=
    withAuras_field Pet.states (fun _ _ => rfl) _ _ _ _
  refine ⟨(withAuras_field Pet.power (fun _ _ => rfl) _ _ _ _).trans (applyAbility_power _ _ _ _),
    hstates, withAuras_field Pet.hasActiveMultiTurnAbility (fun _ _ => rfl) _ _ _ _, ?_⟩
  funext state
  unfold Pet.getStateValue
  rw [hstates]

variable
  (hlive : (auras.rows.filter fun aura => !aura.removed).Perm (aura :: (battle.pet slot).live))

include hlive in
theorem mem_live_put (holder : Slot) (other : Ability) :
    other ∈ (((battle.applyAbility rules aura true).withAuras slot auras).pet holder).live ↔
      holder = slot ∧ other = aura ∨ other ∈ (battle.pet holder).live := by
  by_cases hholder : holder = slot
  · subst hholder
    rw [live_withAuras_self, hlive.mem_iff, List.mem_cons]
    simp
  · rw [live_withAuras_of_ne hholder, applyAbility_live]
    simp [hholder]

theorem mem_live_drop
    (hlive : (auras.rows.filter fun aura => !aura.removed) = rest (battle.pet slot) aura.id)
    (holder : Slot) (other : Ability) :
    other ∈ (((battle.applyAbility rules aura false).withAuras slot auras).pet holder).live ↔
      other ∈ (battle.pet holder).live ∧ ¬(holder = slot ∧ other.id = aura.id) := by
  by_cases hholder : holder = slot
  · subst hholder
    rw [live_withAuras_self, hlive, mem_rest]
    simp
  · rw [live_withAuras_of_ne hholder, applyAbility_live]
    simp [hholder]

include hlive in
include haccounted in
/-- A careful `Apply` is accounted for by the new aura. -/
theorem Accounted.put (hcaster : aura.casterPet = battle.activePet aura.caster)
    (hplace : rules.Inert aura.id ∨ slot = battle.activePet aura.target)
    (hlasting : rules.isMultiTurn aura.id = true → aura.maxDuration ≠ 0) :
    Accounted rules start ((battle.applyAbility rules aura true).withAuras slot auras) := by
  have hself : (((battle.applyAbility rules aura true).withAuras slot auras).pet slot).live =
      auras.rows.filter fun aura => !aura.removed := live_withAuras_self
  obtain ⟨hother, hsame⟩ := applied_withAuras rules battle slot aura auras true
  have hmem : ∀ holder other,
      other ∈ (((battle.applyAbility rules aura true).withAuras slot auras).pet holder).live ↔
        holder = slot ∧ other = aura ∨ other ∈ (battle.pet holder).live := mem_live_put hlive
  constructor
  · intro other state hstate
    obtain ⟨hpower, -, -, hvalue⟩ := hsame other
    rw [hvalue, applyAbility_value battle aura (Or.inl rfl), haccounted.values other state hstate]
    unfold Pet.auraModifiers
    rw [hpower]
    by_cases hslot : other = slot
    · subst hslot
      rw [hself, (hlive.map _).sum_eq, List.map_cons, List.sum_cons]
      rcases hplace with hinert | hactive
      · simp [delta_of_inert hinert]
      · rw [if_pos hactive]
        simp
        ring
    · rw [hother other hslot]
      rcases hplace with hinert | hactive
      · simp [delta_of_inert hinert]
      · rw [if_neg (hactive ▸ hslot), add_zero]
  · intro holder other hlives row hrow hknown hmodifier
    rw [(hsame holder).1] at hmodifier
    rw [(hsame holder).2.1]
    rcases (hmem holder other).mp hlives with ⟨rfl, rfl⟩ | hold
    · rcases hplace with hinert | hactive
      · exact absurd (hinert _ row hrow hknown) hmodifier
      · rw [applyAbility_pet, if_pos hactive]
        exact modifyRows_shows _ _ row hrow hknown
    · exact applyAbility_isSome _ _ _ _
        (haccounted.shows holder other hold row hrow hknown hmodifier)
  · intro pet
    have hflag := (hsame pet).2.2.1
    have hby : (∃ holder other,
        MultiTurnBy rules ((battle.applyAbility rules aura true).withAuras slot auras) holder other
          pet) ↔
        (rules.isMultiTurn aura.id = true ∧ aura.casterPet = pet) ∨
          ∃ holder other, MultiTurnBy rules battle holder other pet := by
      constructor
      · rintro ⟨holder, other, hlives, hmulti, hcast⟩
        rcases (hmem holder other).mp hlives with ⟨rfl, rfl⟩ | hold
        · exact Or.inl ⟨hmulti, hcast⟩
        · exact Or.inr ⟨holder, other, hold, hmulti, hcast⟩
      · rintro (⟨hmulti, hcast⟩ | ⟨holder, other, hlives, hmulti, hcast⟩)
        · exact ⟨slot, aura, (hmem slot aura).mpr (Or.inl ⟨rfl, rfl⟩), hmulti, hcast⟩
        · exact ⟨holder, other, (hmem holder other).mpr (Or.inr hlives), hmulti, hcast⟩
    rw [hflag, applyAbility_flag, hby, ← haccounted.flags pet, hcaster]
    cases rules.isMultiTurn aura.id with
    | false => simp
    | true =>
      by_cases hpet : pet = battle.activePet aura.caster
      · simp [hpet]
      · simp [hpet, Ne.symm hpet]
  · intro holder other hlives hmulti
    rcases (hmem holder other).mp hlives with ⟨rfl, rfl⟩ | hold
    · exact hlasting hmulti
    · exact haccounted.lasting holder other hold hmulti

include haccounted in
/-- An ability of one turn that changes no state leaves the account as it is. -/
theorem Accounted.construct {ability : Ability} (hsingle : rules.isMultiTurn ability.id = false)
    (hinert : rules.Inert ability.id) :
    Accounted rules start (battle.applyAbility rules ability true) where
  values slot state hstate := by
    rw [applyAbility_value battle ability (Or.inl rfl), applyAbility_auraModifiers,
      haccounted.values slot state hstate]
    simp [delta_of_inert hinert]
  shows slot aura haura := by
    rw [applyAbility_live] at haura
    exact applyAbility_shows (haccounted.shows slot aura haura)
  flags slot := by
    have hby : ∀ holder aura, MultiTurnBy rules (battle.applyAbility rules ability true) holder aura
        slot ↔ MultiTurnBy rules battle holder aura slot := by
      intro holder aura
      unfold MultiTurnBy
      rw [applyAbility_live]
    simp only [applyAbility_flag, hsingle, Bool.false_and, Bool.false_eq_true, if_false, hby]
    exact haccounted.flags slot
  lasting slot aura haura hmulti := by
    rw [applyAbility_live] at haura
    exact haccounted.lasting slot aura haura hmulti

variable (rules) in
/-- The pet has cast another multi-turn ability that is still on. -/
def Supports (battle : Battle) (slot : Slot) (abilityId : Nat) (pet : Slot) : Prop :=
  ∃ holder other, MultiTurnBy rules battle holder other pet ∧
    ¬(holder = slot ∧ other.id = abilityId)

variable (rules) in
/-- `Remove` undoes what `Apply` did: the aura is on the active pet of its target and has not been
removed before, or changes no states; and if it is a multi-turn ability, the flag it takes is that of
the pet that cast it and of no other ability. -/
def RemoveCareful (battle : Battle) (slot : Slot) (aura : Ability) : Prop :=
  (rules.Inert aura.id ∨ aura.removed = false ∧ slot = battle.activePet aura.target) ∧
    (rules.isMultiTurn aura.id = true →
      ¬Supports rules battle slot aura.id (battle.activePet aura.caster) ∧
        (aura.removed = false → aura.casterPet = battle.activePet aura.caster ∨
          Supports rules battle slot aura.id aura.casterPet))

include haccounted in
/-- A careful `Remove` takes back what the aura had changed. -/
theorem Accounted.drop (hget : (battle.pet slot).auras.get? aura.id = some aura)
    (hlive : (auras.rows.filter fun aura => !aura.removed) = rest (battle.pet slot) aura.id)
    (hcareful : RemoveCareful rules battle slot aura) :
    Accounted rules start ((battle.applyAbility rules aura false).withAuras slot auras) := by
  obtain ⟨hplace, hflags⟩ := hcareful
  have hself : (((battle.applyAbility rules aura false).withAuras slot auras).pet slot).live =
      rest (battle.pet slot) aura.id := live_withAuras_self.trans hlive
  obtain ⟨hother, hsame⟩ := applied_withAuras rules battle slot aura auras false
  have hmem : ∀ holder other,
      other ∈ (((battle.applyAbility rules aura false).withAuras slot auras).pet holder).live ↔
        other ∈ (battle.pet holder).live ∧ ¬(holder = slot ∧ other.id = aura.id) :=
    mem_live_drop hlive
  have hrow : aura ∈ (battle.pet slot).auras := (Table.get?_eq_some_iff.mp hget).1
  have hshows : (battle.pet (battle.activePet aura.target)).Shows rules
      (rules.abilityStates aura.id) := by
    rcases hplace with hinert | ⟨hremoved, hactive⟩
    · exact shows_of_inert hinert _
    · rw [← hactive]
      exact haccounted.shows slot aura (List.mem_filter.mpr ⟨hrow, by simp [hremoved]⟩)
  constructor
  · intro other state hstate
    obtain ⟨hpower, -, -, hvalue⟩ := hsame other
    rw [hvalue, applyAbility_value battle aura (Or.inr hshows),
      haccounted.values other state hstate]
    unfold Pet.auraModifiers
    rw [hpower]
    by_cases hslot : other = slot
    · subst hslot
      have hsum := ((live_perm_rest hget).map fun aura =>
        rules.delta aura.id (battle.pet other).power state).sum_eq
      rw [hsum, hself]
      rcases hplace with hinert | ⟨hremoved, hactive⟩
      · split <;> simp [delta_of_inert hinert]
      · rw [if_pos hactive, hremoved]
        simp
        ring
    · rw [hother other hslot]
      rcases hplace with hinert | ⟨-, hactive⟩
      · simp [delta_of_inert hinert]
      · rw [if_neg (hactive ▸ hslot), add_zero]
  · intro holder other hlives row hrow hknown hmodifier
    rw [(hsame holder).1] at hmodifier
    rw [(hsame holder).2.1]
    exact applyAbility_isSome _ _ _ _
      (haccounted.shows holder other ((hmem holder other).mp hlives).1 row hrow hknown hmodifier)
  · intro pet
    have hflag := (hsame pet).2.2.1
    have hby : (∃ holder other,
        MultiTurnBy rules ((battle.applyAbility rules aura false).withAuras slot auras) holder other
          pet) ↔ Supports rules battle slot aura.id pet := by
      constructor
      · rintro ⟨holder, other, hlives, hmulti, hcast⟩
        obtain ⟨hold, hdifferent⟩ := (hmem holder other).mp hlives
        exact ⟨holder, other, ⟨hold, hmulti, hcast⟩, hdifferent⟩
      · rintro ⟨holder, other, ⟨hlives, hmulti, hcast⟩, hdifferent⟩
        exact ⟨holder, other, (hmem holder other).mpr ⟨hlives, hdifferent⟩, hmulti, hcast⟩
    -- An aura with the id on the pet is the one that is removed.
    have hsame : ∀ other, other ∈ (battle.pet slot).live → other.id = aura.id → other = aura := by
      intro other hlives hid
      exact Table.eq_of_key_eq (List.mem_of_mem_filter hlives) hrow hid
    rw [hflag, applyAbility_flag, hby]
    by_cases hmulti : rules.isMultiTurn aura.id = true
    · obtain ⟨hfree, hcast⟩ := hflags hmulti
      by_cases hpet : pet = battle.activePet aura.caster
      · subst hpet
        simp [hmulti, hfree]
      · simp only [hmulti, hpet, Bool.true_and, decide_false, Bool.false_eq_true, if_false]
        rw [haccounted.flags pet]
        constructor
        · rintro ⟨holder, other, hcasts⟩
          by_cases hremoved : holder = slot ∧ other.id = aura.id
          · obtain ⟨rfl, hid⟩ := hremoved
            obtain rfl := hsame other hcasts.1 hid
            have hlives : other.removed = false := by
              simpa using (List.mem_filter.mp hcasts.1).2
            rcases hcast hlives with hactive | hsupport
            · exact absurd (hcasts.2.2.symm.trans hactive) hpet
            · exact hcasts.2.2 ▸ hsupport
          · exact ⟨holder, other, hcasts, hremoved⟩
        · rintro ⟨holder, other, hcasts, -⟩
          exact ⟨holder, other, hcasts⟩
    · simp only [hmulti, Bool.false_and, Bool.false_eq_true, if_false]
      rw [haccounted.flags pet]
      constructor
      · rintro ⟨holder, other, hcasts⟩
        refine ⟨holder, other, hcasts, fun hremoved => hmulti ?_⟩
        rw [← hremoved.2]
        exact hcasts.2.1
      · rintro ⟨holder, other, hcasts, -⟩
        exact ⟨holder, other, hcasts⟩
  · intro holder other hlives hmulti
    exact haccounted.lasting holder other ((hmem holder other).mp hlives).1 hmulti

/-! ## Careful operations -/

variable (rules) in
/-- An ability only changes states as an aura that is put on the active pet of its target, a
multi-turn ability lasts, and auras are removed with care. -/
def Careful (battle : Battle) : Op → Prop
  | .addAura slot aura =>
    (rules.Inert aura.id ∨ slot = battle.activePet aura.target) ∧
      (rules.isMultiTurn aura.id = true → aura.duration ≠ 0)
  | .construct ability => rules.Inert ability.id
  | .removeAura slot abilityId =>
    ∀ aura, (battle.pet slot).auras.get? abilityId = some aura →
      RemoveCareful rules battle slot aura
  | .removeAtDeath slot abilityId =>
    ∀ aura, (battle.pet slot).auras.get? abilityId = some aura →
      RemoveCareful rules battle slot aura
  | _ => True

theorem perform_addAura (battle : Battle) (slot : Slot) (aura : Ability) :
    battle.perform rules (.addAura slot aura) =
      (battle.applyAbility rules aura true).withAuras slot
        ((battle.pet slot).auras.insert aura (.sorted _)) := by
  have hauras := @applyAbility_auras rules battle aura true slot
  rw [← hauras]
  rfl

variable (hget : (battle.pet slot).auras.get? abilityId = some aura)

include hget in
theorem perform_removeAura :
    battle.perform rules (.removeAura slot abilityId) =
      (battle.applyAbility rules aura false).withAuras slot
        ((battle.pet slot).auras.erase abilityId) := by
  have hauras := @applyAbility_auras rules battle aura false slot
  rw [perform, hget, ← hauras]
  rfl

include hget in
theorem perform_removeAtDeath :
    battle.perform rules (.removeAtDeath slot abilityId) =
      (battle.applyAbility rules aura false).withAuras slot
        ((battle.pet slot).auras.modify abilityId fun aura => { aura with removed := true }) := by
  have hauras := @applyAbility_auras rules battle aura false slot
  rw [perform, hget, ← hauras]
  rfl

variable (hrules : rules.LeavesOwnStates)

include hrules in
/-- Every careful operation keeps the account. -/
theorem perform_accounted (haccounted : Accounted rules start battle) {op : Op}
    (hop : op.OnPets rules ticking battle) (hcareful : Careful rules battle op) :
    Accounted rules start (battle.perform rules op) := by
  have htaken : ¬rules.Modifies BattlePetState.lastHitTaken := fun hstate =>
    (hrules _ hstate).2.1 rfl
  have hdealt : ¬rules.Modifies BattlePetState.lastHitDealt := fun hstate =>
    (hrules _ hstate).2.2 rfl
  cases op with
  | addAura slot aura =>
    obtain ⟨hnew, hremoved, hcaster, -, hduration⟩ := hop
    rw [perform_addAura]
    refine haccounted.put (live_insert hnew hremoved) hcaster hcareful.1 fun hmulti => ?_
    rw [hduration]
    exact hcareful.2 hmulti
  | construct ability =>
    exact haccounted.construct hop hcareful
  | setDuration slot abilityId _ | enable slot abilityId | nextTurn slot abilityId =>
    refine haccounted.alike fun other => ?_
    rw [perform]
    refine modifyPet_alike (fun pet => modify_alike abilityId _ ?_ ?_ pet) other
    · exact fun _ => rfl
    · exact fun _ => rfl
  | removeAura slot abilityId =>
    cases hget : (battle.pet slot).auras.get? abilityId with
    | none =>
      rw [perform, hget]
      exact haccounted
    | some aura =>
      have hid : aura.id = abilityId := (Table.get?_eq_some_iff.mp hget).2
      rw [perform_removeAura hget]
      subst hid
      exact haccounted.drop hget rfl (hcareful aura hget)
  | removeAtDeath slot abilityId =>
    cases hget : (battle.pet slot).auras.get? abilityId with
    | none =>
      rw [perform, hget]
      exact haccounted
    | some aura =>
      have hid : aura.id = abilityId := (Table.get?_eq_some_iff.mp hget).2
      rw [perform_removeAtDeath hget]
      subst hid
      exact haccounted.drop hget (live_note_removed _ _) (hcareful aura hget)
  | die slot =>
    refine haccounted.alike fun other => ?_
    have hdead : ¬rules.Modifies BattlePetState.isDead := fun hstate =>
      (hrules _ hstate).1 rfl
    rw [perform]
    unfold onPetDied
    split <;> exact modifyPet_alike (modifyState_alike hdead 1 true) other
  | damage attacker victim amount =>
    refine haccounted.alike fun other => ?_
    rw [perform]
    split
    · exact Alike.refl _
    · refine Alike.modifyPet ?_ (setState_alike htaken amount)
      refine Alike.modifyPet ?_ (setState_alike hdealt amount)
      exact modifyPet_alike (fun pet => setHealth_alike _ pet) other
  | heal victim amount =>
    refine haccounted.alike fun other => ?_
    rw [perform]
    exact modifyPet_alike (fun pet => setHealth_alike _ pet) other
  | addCooldown slot abilityId cooldown =>
    refine haccounted.alike fun other => ?_
    rw [perform]
    split
    · exact Alike.refl _
    · refine modifyPet_alike (fun pet => ?_) other
      exact ⟨rfl, fun _ _ => rfl, rfl, rfl⟩
  | updateCooldowns slot =>
    refine haccounted.alike fun other => ?_
    rw [perform]
    refine modifyPet_alike (fun pet => ?_) other
    exact ⟨rfl, fun _ _ => rfl, rfl, rfl⟩
  | clearDamage slot =>
    refine haccounted.alike fun other => ?_
    rw [perform]
    exact modifyPet_alike
      (fun pet => (setState_alike htaken 0 pet).trans (setState_alike hdealt 0 _)) other
  | setActivePet _ | endBattle | updateFlags | setMoved _ | nextRound | elapse _ => exact hop.elim

/-! ## Abilities that last -/

variable (rules) in
/-- A multi-turn ability on the pet has expired, and has not been removed yet. -/
def Ripe (battle : Battle) (slot : Slot) : Prop :=
  ∃ aura ∈ (battle.pet slot).live, rules.isMultiTurn aura.id = true ∧ aura.isExpired = true

theorem Ripe.of_live (hlive : (after.pet slot).live = (battle.pet slot).live)
    (hripe : Ripe rules after slot) : Ripe rules battle slot := by
  unfold Ripe at hripe
  rwa [hlive] at hripe

theorem live_modifyPet (battle : Battle) (holder : Slot)
    (hchange : ∀ pet, (change pet).auras = pet.auras) (slot : Slot) :
    ((battle.modifyPet holder change).pet slot).live = (battle.pet slot).live := by
  unfold Pet.live
  rw [modifyPet_field Pet.auras battle holder hchange]

theorem setState_auras : (pet.setState rules state value).auras = pet.auras := by
  unfold Pet.setState
  split <;> rfl

theorem setHealth_auras : (pet.setHealth value).auras = pet.auras := by
  unfold Pet.setHealth
  split <;> rfl

theorem mem_live_modify {holder : Slot} {hf : ∀ aura : Ability, Keyed.key (f aura) = Keyed.key aura}
    (haura : aura ∈ ((battle.modifyPet holder fun pet =>
      { pet with auras := pet.auras.modify abilityId f hf }).pet slot).live)
    (hremoved : ∀ aura, (f aura).removed = aura.removed) :
    ∃ old ∈ (battle.pet slot).live,
      aura = old ∨ slot = holder ∧ old.id = abilityId ∧ aura = f old := by
  by_cases hslot : slot = holder
  · subst hslot
    rw [modifyPet_self] at haura
    obtain ⟨hrow, hlives⟩ := List.mem_filter.mp haura
    obtain ⟨old, hold, rfl⟩ := List.mem_map.mp hrow
    by_cases hkey : Keyed.key old = abilityId
    · rw [if_pos hkey] at hlives ⊢
      rw [hremoved] at hlives
      exact ⟨old, List.mem_filter.mpr ⟨hold, hlives⟩, Or.inr ⟨rfl, hkey, rfl⟩⟩
    · rw [if_neg hkey] at hlives ⊢
      exact ⟨old, List.mem_filter.mpr ⟨hold, hlives⟩, Or.inl rfl⟩
  · rw [modifyPet_of_ne _ _ hslot] at haura
    exact ⟨aura, haura, Or.inl rfl⟩

include haccounted in
/-- Where no durations tick, a careful operation lets no multi-turn ability expire. -/
theorem perform_ripe {op : Op} (hop : op.OnPets rules ticking battle)
    (hcareful : Careful rules battle op) (hslot : ¬ticking slot)
    (hripe : Ripe rules (battle.perform rules op) slot) : Ripe rules battle slot := by
  cases op with
  | addAura holder aura =>
    obtain ⟨hnew, hremoved, -, -, -⟩ := hop
    rw [perform_addAura] at hripe
    obtain ⟨other, hother, hmulti, hexpired⟩ := hripe
    rcases (mem_live_put (live_insert hnew hremoved) slot other).mp hother with
      ⟨-, rfl⟩ | hold
    · simp only [Ability.isExpired, decide_eq_true_eq] at hexpired
      exact absurd hexpired (hcareful.2 hmulti)
    · exact ⟨other, hold, hmulti, hexpired⟩
  | construct ability => exact hripe.of_live (applyAbility_live battle ability true slot)
  | setDuration holder abilityId duration =>
    rw [perform] at hripe
    obtain ⟨other, hother, hmulti, hexpired⟩ := hripe
    obtain ⟨old, hold, rfl | ⟨rfl, hid, rfl⟩⟩ := mem_live_modify hother fun _ => rfl
    · exact ⟨other, hold, hmulti, hexpired⟩
    · have hget : (battle.pet slot).auras.get? abilityId = some old :=
        Table.get?_eq_some_iff.mpr ⟨List.mem_of_mem_filter hold, hid⟩
      have hrefreshed := hop.resolve_left hslot old hget
      simp only [Ability.isExpired, decide_eq_true_eq] at hexpired
      exact absurd (hrefreshed.symm.trans hexpired) (haccounted.lasting slot old hold hmulti)
  | enable holder abilityId | nextTurn holder abilityId =>
    rw [perform] at hripe
    obtain ⟨other, hother, hmulti, hexpired⟩ := hripe
    obtain ⟨old, hold, rfl | ⟨-, -, rfl⟩⟩ := mem_live_modify hother fun _ => rfl
    · exact ⟨other, hold, hmulti, hexpired⟩
    · exact ⟨old, hold, hmulti, hexpired⟩
  | removeAura holder abilityId =>
    cases hget : (battle.pet holder).auras.get? abilityId with
    | none =>
      rw [perform, hget] at hripe
      exact hripe
    | some aura =>
      have hid : aura.id = abilityId := (Table.get?_eq_some_iff.mp hget).2
      rw [perform_removeAura hget] at hripe
      obtain ⟨other, hother, hmulti, hexpired⟩ := hripe
      subst hid
      exact ⟨other, ((mem_live_drop rfl slot other).mp hother).1, hmulti, hexpired⟩
  | removeAtDeath holder abilityId =>
    cases hget : (battle.pet holder).auras.get? abilityId with
    | none =>
      rw [perform, hget] at hripe
      exact hripe
    | some aura =>
      have hid : aura.id = abilityId := (Table.get?_eq_some_iff.mp hget).2
      rw [perform_removeAtDeath hget] at hripe
      obtain ⟨other, hother, hmulti, hexpired⟩ := hripe
      subst hid
      exact ⟨other, ((mem_live_drop (live_note_removed _ _) slot other).mp hother).1, hmulti,
        hexpired⟩
  | die holder =>
    refine hripe.of_live ?_
    rw [perform]
    unfold onPetDied
    split <;> exact live_modifyPet _ _ (fun pet => modifyState_auras pet _ _ _) slot
  | damage attacker victim amount =>
    refine hripe.of_live ?_
    rw [perform]
    split
    · rfl
    · rw [live_modifyPet _ _ fun pet => setState_auras pet _ _,
        live_modifyPet _ _ fun pet => setState_auras pet _ _,
        live_modifyPet _ _ fun pet => setHealth_auras pet _]
  | heal victim amount =>
    refine hripe.of_live ?_
    rw [perform, live_modifyPet _ _ fun pet => setHealth_auras pet _]
  | addCooldown holder abilityId cooldown =>
    refine hripe.of_live ?_
    rw [perform]
    split
    · rfl
    · rw [live_modifyPet]
      exact fun _ => rfl
  | updateCooldowns holder =>
    refine hripe.of_live ?_
    rw [perform, live_modifyPet]
    exact fun _ => rfl
  | clearDamage holder =>
    refine hripe.of_live ?_
    rw [perform, live_modifyPet]
    exact fun pet => (setState_auras _ _ _).trans (setState_auras pet _ _)
  | setActivePet _ | endBattle | updateFlags | setMoved _ | nextRound | elapse _ => exact hop.elim

/-! ## Updates of pets -/

variable (rules) in
/-- The account holds and nothing is due to be removed. -/
structure Settled (start battle : Battle) : Prop where
  accounted : Accounted rules start battle
  unripe : ∀ slot, ¬Ripe rules battle slot

variable (rules) in
/-- A run of the script with careful operations. -/
def RunsCarefully (script : Code) (battle after : Battle) : Prop :=
  Script.RunsAlong (perform rules) (Careful rules) script battle after

/-- Without ticking durations, everything stays settled. -/
theorem OnPets.settled {script : Code} (hscript : OnPets rules (fun _ => False) script)
    (hsettled : Settled rules start battle) (hrun : RunsCarefully rules script battle after)
    (hrules : rules.LeavesOwnStates) : Settled rules start after := by
  refine hscript.keepsAlong (Settled rules start) (fun mid op hmid hop hcareful => ?_) hsettled hrun
  refine ⟨perform_accounted hrules hmid.accounted hop hcareful, fun slot hripe => ?_⟩
  exact hmid.unripe slot (perform_ripe hmid.accounted hop hcareful id hripe)

theorem mem_removeAura_auras
    (haura : aura ∈ ((battle.perform rules (.removeAura slot abilityId)).pet slot).auras) :
    aura ∈ (battle.pet slot).auras ∧ aura.id ≠ abilityId := by
  cases hget : (battle.pet slot).auras.get? abilityId with
  | none =>
    rw [perform, hget] at haura
    exact ⟨haura, Table.get?_eq_none_iff.mp hget aura haura⟩
  | some old =>
    rw [perform_removeAura hget, withAuras, modifyPet_self] at haura
    exact Table.mem_erase.mp haura

/-- The loop that removes auras leaves none that is expired. -/
theorem removeExpired_run
    (hrun : (removeExpired rules slot).run (perform rules) battle = some after) :
    ∀ aura ∈ (after.pet slot).auras, aura.isExpired = false := by
  have hremoved : ∀ (auras : List Ability) (before : Battle),
      (seq rules (auras.map fun aura => .op (.removeAura slot aura.id))).run (perform rules) before =
        some after → ∀ aura ∈ (after.pet slot).auras,
          aura ∈ (before.pet slot).auras ∧ ∀ other ∈ auras, aura.id ≠ other.id := by
    intro auras
    induction auras with
    | nil =>
      intro before hbefore aura haura
      cases Script.run_seq_nil hbefore
      exact ⟨haura, by simp⟩
    | cons first rest ih =>
      intro before hbefore aura haura
      obtain ⟨mid, hmid, hrest⟩ := Script.run_seq_cons hbefore
      cases Script.run_op hmid
      obtain ⟨hold, hlater⟩ := ih _ hrest aura haura
      obtain ⟨hbefore, hne⟩ := mem_removeAura_auras hold
      exact ⟨hbefore, List.forall_mem_cons.mpr ⟨hne, hlater⟩⟩
  intro aura haura
  obtain ⟨hold, hdifferent⟩ := hremoved _ battle hrun aura haura
  refine Bool.eq_false_iff.mpr fun hexpired => ?_
  exact hdifferent aura (List.mem_filter.mpr ⟨hold, hexpired⟩) rfl

variable (hsettled : Settled rules start battle) {fuel : Nat}

include hrules hsettled in
theorem updatePet_settled (hrun : RunsCarefully rules (updatePet rules fuel slot) battle after) :
    Settled rules start after := by
  -- What every part of the update keeps: the account, and the other pets.
  have hkeeps : ∀ {script : Code} {before mid : Battle},
      OnPets rules (fun other => other = slot) script →
      Accounted rules start before ∧ (∀ other, other ≠ slot → ¬Ripe rules before other) →
      RunsCarefully rules script before mid →
      Accounted rules start mid ∧ ∀ other, other ≠ slot → ¬Ripe rules mid other := by
    intro script before mid hscript hbefore hmid
    refine hscript.keepsAlong
      (fun battle => Accounted rules start battle ∧ ∀ other, other ≠ slot → ¬Ripe rules battle other)
      (fun battle op hold hop hcareful => ?_) hbefore hmid
    refine ⟨perform_accounted hrules hold.1 hop hcareful, fun other hne hripe => ?_⟩
    exact hold.2 other hne (perform_ripe hold.1 hop hcareful hne hripe)
  unfold updatePet at hrun
  obtain ⟨first, hfirst, hrun⟩ := Script.runsAlong_seq_cons hrun
  obtain ⟨second, hsecond, hrun⟩ := Script.runsAlong_seq_cons hrun
  obtain ⟨third, hthird, hrun⟩ := Script.runsAlong_seq_cons hrun
  obtain ⟨last, hlast, hrun⟩ := Script.runsAlong_seq_cons hrun
  cases Script.run_seq_nil hrun.1
  have hcooldowns : OnPets rules (fun other => other = slot) (.op (.updateCooldowns slot)) :=
    onPets_op fun _ => trivial
  have hauras : OnPets rules (fun other => other = slot) (updateAuras rules fuel slot none) :=
    onPets_updateAuras (by rfl) fuel none
  have hclear : OnPets rules (fun other => other = slot) (.op (.clearDamage slot)) :=
    onPets_op fun _ => trivial
  have hone := hkeeps hcooldowns ⟨hsettled.accounted, fun other _ => hsettled.unripe other⟩ hfirst
  have htwo := hkeeps hauras hone hsecond
  have hthree := hkeeps (onPets_removeExpired slot) htwo hthird
  have hfour := hkeeps hclear hthree hlast
  refine ⟨hfour.1, fun other hripe => ?_⟩
  by_cases hother : other = slot
  · subst hother
    cases Script.run_op hlast.1
    have hauras : ((third.perform rules (.clearDamage other)).pet other).live =
        (third.pet other).live := by
      rw [perform, live_modifyPet]
      exact fun pet => (setState_auras _ _ _).trans (setState_auras pet _ _)
    obtain ⟨aura, haura, -, hexpired⟩ := hripe.of_live hauras
    rw [removeExpired_run hthird.1 aura (List.mem_of_mem_filter haura)] at hexpired
    exact Bool.false_ne_true hexpired
  · exact hfour.2 other hother hripe

include hrules hsettled in
theorem updateMember_settled
    (hrun : RunsCarefully rules (updateMember rules fuel side) battle after) :
    Settled rules start after := by
  have hslots : ∀ (slots : List Slot) (before : Battle), Settled rules start before →
      RunsCarefully rules (seq rules (slots.map (updatePet rules fuel))) before after →
      Settled rules start after := by
    intro slots
    induction slots with
    | nil =>
      intro before hbefore hrun
      cases Script.run_seq_nil hrun.1
      exact hbefore
    | cons slot rest ih =>
      intro before hbefore hrun
      obtain ⟨mid, hmid, hrest⟩ := Script.runsAlong_seq_cons hrun
      exact ih mid (updatePet_settled hrules hbefore hmid) hrest
  exact hslots _ battle hsettled hrun

/-! ## Calls -/

include hsettled in
theorem Settled.of_pet (hpet : after.pet = battle.pet) : Settled rules start after := by
  refine ⟨hsettled.accounted.alike fun slot => ?_, fun slot hripe => ?_⟩
  · rw [hpet]
    exact Alike.refl _
  · refine hsettled.unripe slot (hripe.of_live ?_)
    rw [hpet]

theorem swapDead_pet (hrun : (swapDead side).run (perform rules) battle = some after) :
    after.pet = battle.pet := by
  unfold swapDead at hrun
  rw [Script.run_read] at hrun
  split at hrun
  · cases Script.run_done hrun
    rfl
  split at hrun
  · cases Script.run_done hrun
    rfl
  · cases Script.run_op hrun
    rfl

include hrules hsettled in
theorem endRound_settled (hrun : RunsCarefully rules (endRound rules fuel) battle after) :
    Settled rules start after := by
  induction fuel generalizing battle with
  | zero => cases hrun.1
  | succ fuel ih =>
    obtain ⟨first, hfirst, hrun⟩ := Script.runsAlong_seq_cons hrun
    obtain ⟨second, hsecond, hrun⟩ := Script.runsAlong_seq_cons hrun
    obtain ⟨third, hthird, hrun⟩ := Script.runsAlong_seq_cons hrun
    obtain ⟨fourth, hfourth, hrun⟩ := Script.runsAlong_seq_cons hrun
    obtain ⟨fifth, hfifth, hrun⟩ := Script.runsAlong_seq_cons hrun
    obtain ⟨last, hlast, hrun⟩ := Script.runsAlong_seq_cons hrun
    cases Script.run_seq_nil hrun.1
    have htwo : Settled rules start second :=
      updateMember_settled hrules (updateMember_settled hrules hsettled hfirst) hsecond
    have hfour : Settled rules start fourth :=
      (htwo.of_pet (swapDead_pet hthird.1)).of_pet (swapDead_pet hfourth.1)
    cases Script.run_op hfifth.1
    have hfive : Settled rules start (fourth.perform rules .nextRound) := hfour.of_pet rfl
    have hlast := Script.runsAlong_read.mp hlast
    split at hlast
    · cases Script.run_done hlast.1
      exact hfive
    · obtain ⟨flagged, hflagged, hlast⟩ := Script.runsAlong_seq_cons hlast
      obtain ⟨final, hfinal, hlast⟩ := Script.runsAlong_seq_cons hlast
      cases Script.run_seq_nil hlast.1
      cases Script.run_op hflagged.1
      have hflags : Settled rules start
          ((fourth.perform rules .nextRound).perform rules .updateFlags) := hfive.of_pet rfl
      have hfinal := Script.runsAlong_read.mp hfinal
      split at hfinal
      · exact ih hflags hfinal
      · cases Script.run_done hfinal.1
        exact hflags

include hrules hsettled in
theorem tryEndRound_settled (hrun : RunsCarefully rules (tryEndRound rules fuel) battle after) :
    Settled rules start after := by
  have hrun := Script.runsAlong_read.mp hrun
  split at hrun
  · exact endRound_settled hrules hsettled hrun
  · cases Script.run_done hrun.1
    exact hsettled

include hrules hsettled in
theorem actionEffect_settled {action : Action}
    (hrun : RunsCarefully rules (actionEffect rules fuel side action) battle after) :
    Settled rules start after := by
  cases action with
  | useAbility abilityId =>
    have hcast : OnPets rules (fun _ => False) (castAbility rules fuel side abilityId) :=
      onPets_castAbility fuel side abilityId
    exact hcast.settled hsettled hrun hrules
  | swapPet index =>
    obtain ⟨hrun, -⟩ := hrun
    rw [actionEffect, Script.run_read] at hrun
    split at hrun
    · cases hrun
    · cases Script.run_op hrun
      exact hsettled.of_pet rfl
  | forfeit | useTrap | endBattle =>
    cases Script.run_done hrun.1
    exact hsettled

include hrules hsettled in
theorem handleAction_settled {action : Action}
    (hrun : RunsCarefully rules (handleAction rules fuel side action) battle after) :
    Settled rules start after := by
  have hrun := Script.runsAlong_read.mp hrun
  split at hrun
  · cases Script.run_done hrun.1
    exact hsettled
  split at hrun
  · cases Script.run_op hrun.1
    exact hsettled.of_pet rfl
  split at hrun
  · obtain ⟨mid, hmid, hrun⟩ := Script.runsAlong_seq_cons hrun
    obtain ⟨moved, hmoved, hrun⟩ := Script.runsAlong_seq_cons hrun
    obtain ⟨last, hlast, hrun⟩ := Script.runsAlong_seq_cons hrun
    cases Script.run_seq_nil hrun.1
    cases Script.run_op hmoved.1
    have hmoved : Settled rules start (mid.perform rules (.setMoved side)) :=
      (actionEffect_settled hrules hsettled hmid).of_pet rfl
    exact tryEndRound_settled hrules hmoved hlast
  · cases Script.run_done hrun.1
    exact hsettled

include hrules hsettled in
theorem update_settled {diff : UInt32}
    (hrun : RunsCarefully rules (update rules fuel diff) battle after) :
    Settled rules start after := by
  have hrun := Script.runsAlong_read.mp hrun
  split at hrun
  · cases Script.run_done hrun.1
    exact hsettled
  obtain ⟨elapsed, helapsed, hrun⟩ := Script.runsAlong_seq_cons hrun
  obtain ⟨last, hlast, hrun⟩ := Script.runsAlong_seq_cons hrun
  cases Script.run_seq_nil hrun.1
  cases Script.run_op helapsed.1
  have helapse : Settled rules start (battle.perform rules (.elapse diff)) := hsettled.of_pet rfl
  have hlast := Script.runsAlong_read.mp hlast
  split at hlast
  · exact endRound_settled hrules helapse hlast
  · cases Script.run_done hlast.1
    exact helapse

/-! ## Runs -/

variable (rules) in
/-- All operations that the call performs are careful. -/
def CarefulCall (battle : Battle) (call : Call) : Prop :=
  Script.EmitsAt (perform rules) (Careful rules) (call.script rules) battle

variable (rules) in
/-- Every modified state is what it was at the start and what the auras on the pet are worth, and a
pet has the flag of a multi-turn ability exactly if it has cast one that is on and not expired. -/
structure Balanced (start battle : Battle) : Prop where
  values : ∀ slot state, rules.Modifies state →
    (battle.pet slot).getStateValue state =
      (start.pet slot).getStateValue state + (battle.pet slot).auraModifiers rules state
  flags : ∀ slot, (battle.pet slot).hasActiveMultiTurnAbility = true ↔
    ∃ holder, ∃ aura ∈ (battle.pet holder).live,
      rules.isMultiTurn aura.id = true ∧ aura.isExpired = false ∧ aura.casterPet = slot

include hsettled in
/-- A settled battle is balanced: nothing that is on has expired. -/
theorem Settled.balanced : Balanced rules start battle := by
  refine ⟨hsettled.accounted.values, fun slot => (hsettled.accounted.flags slot).trans ?_⟩
  constructor
  · rintro ⟨holder, aura, hlive, hmulti, hcaster⟩
    have hlasts : aura.isExpired = false :=
      Bool.eq_false_iff.mpr fun hexpired => hsettled.unripe holder ⟨aura, hlive, hmulti, hexpired⟩
    exact ⟨holder, aura, hlive, hmulti, hlasts, hcaster⟩
  · rintro ⟨holder, aura, hlive, hmulti, -, hcaster⟩
    exact ⟨holder, aura, hlive, hmulti, hcaster⟩

/-- No ability has been used on the pets. -/
structure Untouched (battle : Battle) : Prop where
  auras : ∀ slot, (battle.pet slot).auras.rows = []
  unflagged : ∀ slot, (battle.pet slot).hasActiveMultiTurnAbility = false

theorem Untouched.settled (huntouched : Untouched battle) :
    Settled rules battle (initialBattle rules battle) := by
  have hlive : ∀ slot, (battle.pet slot).live = [] := fun slot => by
    rw [Pet.live, huntouched.auras slot, List.filter_nil]
  have hstart : Settled rules battle battle := by
    refine ⟨⟨fun slot state _ => ?_, fun slot aura haura => ?_, fun slot => ?_,
      fun slot aura haura => ?_⟩, fun slot hripe => ?_⟩
    · rw [Pet.auraModifiers, hlive, List.map_nil, List.sum_nil, add_zero]
    · rw [hlive] at haura
      cases haura
    · rw [huntouched.unflagged]
      refine ⟨fun hflag => absurd hflag Bool.false_ne_true, ?_⟩
      rintro ⟨holder, aura, haura, -⟩
      rw [hlive] at haura
      cases haura
    · rw [hlive] at haura
      cases haura
    · obtain ⟨aura, haura, -⟩ := hripe
      rw [hlive] at haura
      cases haura
  exact hstart.of_pet rfl

include hrules hsettled in
theorem step_settled {call : Call} (hcareful : CarefulCall rules battle call)
    (hrun : (call.script rules).run (perform rules) battle = some after) :
    Settled rules start after := by
  cases call with
  | action side action fuel => exact handleAction_settled hrules hsettled ⟨hrun, hcareful⟩
  | update diff fuel => exact update_settled hrules hsettled ⟨hrun, hcareful⟩

/-- As long as abilities change and restore the states of the pets that they are auras of, every
battle is balanced between all its calls. -/
theorem balanced_of_careful (hrules : rules.LeavesOwnStates) (huntouched : Untouched battle)
    (calls : List Call)
    (hcareful : Along (step rules) (fun reached call => ∀ before ∈ reached,
      CarefulCall rules before call) (some (initialBattle rules battle)) calls) :
    ∀ reached ∈ visited (step rules) (some (initialBattle rules battle)) calls,
      ∀ after ∈ reached, Balanced rules battle after := by
  have hsettled := invariant_of_along (step rules)
    (fun reached => ∀ after ∈ reached, Settled rules battle after)
    (fun reached call => ∀ before ∈ reached, CarefulCall rules before call)
    (fun reached call hall hcall => ?_) (some (initialBattle rules battle)) calls
    (fun after hmem => ?_) hcareful
  · exact fun reached hreached after hmem => (hsettled reached hreached after hmem).balanced
  · intro next hnext
    obtain ⟨before, rfl, hrun⟩ := Option.bind_eq_some_iff.mp hnext
    exact step_settled hrules (hall before rfl) (hcall before rfl) hrun
  · cases hmem
    exact huntouched.settled

/-- Ability 1 puts an aura on the active enemy, which lasts for a round and changes a state. -/
def auraRules : Rules :=
  { duelRules with
    abilityEffects := fun abilityId =>
      if abilityId = 1 then
        [(1, [{ effect := .aura, triggerId := 2, values := fun index => if index.val = 2 then 1 else 0
                isSelf := false, isActiveEnemy := true }])]
      else []
    abilityStates := fun abilityId =>
      if abilityId = 2 then [(BattlePetState.modDamageDealtPercent, 50)] else [] }

theorem auraRules_leavesOwnStates : auraRules.LeavesOwnStates := by
  rintro state ⟨abilityId, row, hrow, rfl⟩
  by_cases htwo : abilityId = 2
  · subst htwo
    cases List.mem_singleton.mp hrow
    decide
  · simp [auraRules, htwo] at hrow

theorem pairs_untouched : Untouched pairs := ⟨fun _ => rfl, fun _ => rfl⟩

/-- Aura 2, the only one that changes a state, is put on the active pet of its target and taken from
it again. -/
def AuraInPlace (battle : Battle) : Op → Prop
  | .addAura slot aura => aura.id = 2 → slot = battle.activePet aura.target
  | .construct ability => ability.id ≠ 2
  | .removeAura slot abilityId | .removeAtDeath slot abilityId =>
    ∀ aura ∈ (battle.pet slot).auras.get? abilityId, aura.id = 2 →
      aura.removed = false ∧ slot = battle.activePet aura.target
  | _ => True

instance decidableAuraInPlace (battle : Battle) : ∀ op, Decidable (AuraInPlace battle op) := by
  intro op
  cases op <;> unfold AuraInPlace <;> infer_instance

theorem auraRules_careful {battle : Battle} {op : Op} (hplace : AuraInPlace battle op) :
    Careful auraRules battle op := by
  have hinert : ∀ {abilityId}, abilityId ≠ 2 → auraRules.Inert abilityId := by
    intro abilityId hother _ row hrow
    simp [auraRules, hother] at hrow
  have hsingle : ∀ abilityId, auraRules.isMultiTurn abilityId ≠ true := fun _ => nofun
  have hremove : ∀ slot aura, (aura.id = 2 → aura.removed = false ∧
      slot = battle.activePet aura.target) → RemoveCareful auraRules battle slot aura :=
    fun slot aura hon => ⟨(Decidable.em (aura.id = 2)).symm.imp hinert hon,
      fun hmulti => absurd hmulti (hsingle _)⟩
  cases op with
  | addAura slot aura =>
    exact ⟨(Decidable.em (aura.id = 2)).symm.imp hinert hplace,
      fun hmulti => absurd hmulti (hsingle _)⟩
  | construct ability => exact hinert hplace
  | removeAura slot _ | removeAtDeath slot _ =>
    exact fun aura haura => hremove slot aura (hplace aura haura)
  | _ => trivial

/-- An aura is put on, and runs out in the second round after that. -/
def auraCalls : List Call :=
  [.action .pad1 (.useAbility 1) 9, .update 30000 9, .update 30000 9]

theorem auraCalls_inPlace :
    Along (step auraRules) (fun reached call => ∀ before ∈ reached,
      ∀ ops ∈ call.script auraRules before, Along (perform auraRules) AuraInPlace before ops)
      (some (initialBattle auraRules pairs)) auraCalls := by
  decide +kernel

theorem balanced_of_careful_aura :
    (visited (step auraRules) (some (initialBattle auraRules pairs)) auraCalls).map
        (fun reached => reached.map fun after => (after.pet ⟨.pad0, 0⟩).getStateValue 23) =
      [some 0, some 50, some 50, some 0] ∧
    ∀ reached ∈ visited (step auraRules) (some (initialBattle auraRules pairs)) auraCalls,
      ∀ after ∈ reached, Balanced auraRules pairs after := by
  refine ⟨by decide +kernel, balanced_of_careful auraRules_leavesOwnStates pairs_untouched
    auraCalls ?_⟩
  refine along_of_invariant _ (fun _ => True) (fun _ _ _ _ => trivial) (fun reached call _ hops => ?_)
    _ _ trivial auraCalls_inPlace
  intro before hbefore ops hscript
  exact along_of_invariant _ (fun _ => True) (fun _ _ _ _ => trivial)
    (fun _ _ _ hplace => auraRules_careful hplace) _ _ trivial (hops before hbefore ops hscript)

def swapCalls : List Call :=
  [.action .pad1 (.useAbility 1) 9, .action .pad0 (.swapPet 1) 9, .update 30000 9]

def swapOutcome : Option Battle :=
  swapCalls.foldl (step auraRules) (some (initialBattle auraRules pairs))

theorem swapOutcome_spec :
    (swapOutcome.any fun after => (after.pet ⟨.pad0, 0⟩).getStateValue 23 = 50 &&
      (after.pet ⟨.pad0, 0⟩).auras.rows.isEmpty) = true := by
  decide +kernel

/-- The pet with the aura is swapped out, and the aura is removed from the other one. -/
theorem not_always_balanced :
    ¬∀ (rules : Rules) (battle : Battle), rules.LeavesOwnStates → Untouched battle → ∀ calls,
      ∀ reached ∈ visited (step rules) (some (initialBattle rules battle)) calls,
        ∀ after ∈ reached, Balanced rules battle after := by
  intro hall
  obtain ⟨after, hafter, hoff⟩ := (Option.any_eq_true _ _).mp swapOutcome_spec
  simp only [Bool.and_eq_true, decide_eq_true_eq, List.isEmpty_iff] at hoff
  have hvisited : swapOutcome ∈
      visited (step auraRules) (some (initialBattle auraRules pairs)) swapCalls :=
    List.mem_cons_of_mem _ (List.mem_cons_of_mem _ (List.mem_cons_of_mem _ List.mem_cons_self))
  have hbalanced := hall auraRules pairs auraRules_leavesOwnStates pairs_untouched swapCalls
    swapOutcome hvisited after hafter
  have hvalue := hbalanced.values ⟨.pad0, 0⟩ 23 ⟨2, _, List.mem_cons_self, rfl⟩
  rw [Pet.auraModifiers, Pet.live, hoff.1, hoff.2] at hvalue
  cases hvalue

end Battle

end MopServer.BattlePets
