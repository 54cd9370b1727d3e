import MopServer.BattlePets.PetBattle

/-! # What abilities and auras do

The scripts of abilities, auras and the updates of pets, by the operations they perform.
-/

namespace MopServer.BattlePets

open MopServer.Foundation

/-- An operation on pets, and not on the turns. -/
def Op.OfPets : Op → Prop
  | .setActivePet _ => False
  | .endBattle => False
  | .updateFlags => False
  | .setMoved _ => False
  | .nextRound => False
  | .elapse _ => False
  | _ => True

/-- An operation on pets, with what holds where it is performed.  Only the durations of auras on
some pets tick; the others are refreshed. -/
def Op.OnPets (rules : Rules) (ticking : Slot → Prop) (battle : Battle) : Op → Prop
  | .addAura slot aura =>
    (battle.pet slot).auras.get? aura.id = none ∧ aura.removed = false ∧
      aura.casterPet = battle.activePet aura.caster ∧ aura.target = slot.side ∧
      aura.maxDuration = aura.duration
  | .construct ability => rules.isMultiTurn ability.id = false
  | .setDuration slot abilityId duration => ticking slot ∨
      ∀ aura, (battle.pet slot).auras.get? abilityId = some aura → duration = aura.maxDuration
  | op => op.OfPets

/-- The conditions of an operation do not let it touch the turns. -/
theorem Op.OnPets.ofPets {rules : Rules} {ticking : Slot → Prop} {battle : Battle} {op : Op}
    (hop : op.OnPets rules ticking battle) : op.OfPets := by
  cases op <;> first
    | exact trivial
    | exact hop

namespace Battle

variable {rules : Rules} {ticking : Slot → Prop} {battle : Battle} {side : Side}

variable (rules ticking) in
/-- The script only operates on pets. -/
def OnPets (script : Code) : Prop := Script.Emits (perform rules) (Op.OnPets rules ticking) script

theorem OnPets.at {script : Code} (hscript : OnPets rules ticking script) (battle : Battle) :
    Script.EmitsAt (perform rules) (Op.OnPets rules ticking) script battle :=
  hscript battle

theorem onPets_op {op : Op} (hop : ∀ battle, op.OnPets rules ticking battle) :
    OnPets rules ticking (.op op) :=
  Script.emits_op hop

/-- A sequence is on pets when each of its scripts is. -/
theorem onPets_seq {scripts : List Code}
    (hscripts : ∀ script ∈ scripts, OnPets rules ticking script) :
    OnPets rules ticking (seq rules scripts) :=
  Script.emits_seq hscripts

theorem onPets_map {Item : Type} {items : List Item} {script : Item → Code}
    (hscript : ∀ item, OnPets rules ticking (script item)) :
    OnPets rules ticking (seq rules (items.map script)) := by
  refine onPets_seq fun _ hmem => ?_
  obtain ⟨item, -, rfl⟩ := List.mem_map.mp hmem
  exact hscript item

theorem onPets_singleton {script : Code} (hscript : OnPets rules ticking script) :
    OnPets rules ticking (seq rules [script]) :=
  onPets_seq (List.forall_mem_singleton.mpr hscript)

theorem onPets_pair {first second : Code} (hfirst : OnPets rules ticking first)
    (hsecond : OnPets rules ticking second) : OnPets rules ticking (seq rules [first, second]) :=
  onPets_seq (List.forall_mem_cons.mpr ⟨hfirst, List.forall_mem_singleton.mpr hsecond⟩)

/-- A death removes the auras of the pet and leaves the turns alone. -/
theorem onPets_makeDead (slot : Slot) : OnPets rules ticking (makeDead rules slot) := by
  refine Script.emits_read fun battle => OnPets.at ?_ battle
  exact onPets_pair (onPets_map fun _ => onPets_op fun _ => trivial) (onPets_op fun _ => trivial)

theorem onPets_dealDamageByEffect (abilityId : Nat) (caster victim : Slot)
    (points accuracy : Int) :
    OnPets rules ticking (dealDamageByEffect rules abilityId caster victim points accuracy) := by
  refine Script.emits_read fun battle => ?_
  split
  · exact Script.emits_done battle
  refine OnPets.at ?_ battle
  refine onPets_pair (onPets_op fun _ => trivial) (Script.emits_read fun hurt => ?_)
  split
  · exact onPets_makeDead victim hurt
  · exact Script.emits_done hurt

theorem onPets_healByEffect (abilityId : Nat) (caster victim : Slot) (points accuracy : Int) :
    OnPets rules ticking (healByEffect rules abilityId caster victim points accuracy) := by
  refine Script.emits_read fun battle => ?_
  split
  · exact Script.emits_done battle
  · refine OnPets.at ?_ battle
    exact onPets_op fun _ => trivial

variable {slot : Slot}

/-- An aura that is there is refreshed, and a new one is of the pet
that casts it. -/
theorem onPets_addAura {abilityId : Nat} {duration : Int} {use : Ability → Code}
    (huse : ∀ aura, OnPets rules ticking (use aura)) :
    OnPets rules ticking (addAura rules slot abilityId duration side use) := by
  refine Script.emits_read fun battle => ?_
  split
  · exact Script.emits_done battle
  split
  next aura hget =>
    refine Script.emitsAt_seq_cons ?_ (onPets_singleton (huse aura))
    split
    · exact Script.emits_done battle
    · refine Script.emitsAt_op (Or.inr fun other hother => ?_)
      rw [hget] at hother
      cases hother
      rfl
  next hget =>
    split
    · exact Script.emits_fail battle
    next aura hnew =>
    refine Script.emitsAt_seq_cons (Script.emitsAt_op ?_) (onPets_singleton (huse aura))
    unfold newAbility at hnew
    split at hnew
    · cases hnew
      exact ⟨hget, rfl, rfl, rfl, rfl⟩
    · cases hnew

variable (fuel : Nat)

/-- By induction on the fuel: an aura an effect puts on handles its
effects at once. -/
theorem onPets_handleEffect (ability : Ability) (entry : BattlePetAbilityEffectEntry) :
    OnPets rules ticking (handleEffect rules fuel ability entry) := by
  induction fuel generalizing ability entry with
  | zero => exact Script.emits_fail
  | succ fuel ih =>
    refine Script.emits_read fun battle => ?_
    have hadd : ∀ duration : Int, OnPets rules ticking
        (addAura rules (battle.effectTarget ability entry) entry.triggerId duration
          ability.caster fun aura =>
            seq rules ((rules.getEffects aura.id aura.turn).map (handleEffect rules fuel aura))) :=
      fun duration => onPets_addAura fun aura => onPets_map fun entry => ih aura entry
    cases entry.effect with
    | dummy => exact Script.emits_done battle
    | heal | healPct => exact onPets_healByEffect _ _ _ _ _ battle
    | damage | damage2 | damagePctFromHp | damagePctFromTaken =>
      exact onPets_dealDamageByEffect _ _ _ _ _ battle
    | aura => exact hadd _ battle
    | auraCondition =>
      dsimp only
      split
      · exact Script.emits_done battle
      split
      · exact Script.emits_done battle
      · exact hadd _ battle
    | auraPeriodicDamage => exact hadd _ battle
    | auraUnapply =>
      refine OnPets.at ?_ battle
      exact onPets_op fun _ => trivial
    | other => exact Script.emits_done battle

theorem onPets_castAura (aura : Ability) : OnPets rules ticking (castAura rules fuel aura) :=
  onPets_map fun entry => onPets_handleEffect fuel aura entry

theorem isMultiTurn_of_none {abilityId : Nat} (hdata : rules.abilityData abilityId = none) :
    rules.isMultiTurn abilityId = false := by
  unfold Rules.isMultiTurn
  rw [hdata, Option.any_none]

/-- Only an ability without data, which is not of several turns, is
constructed. -/
theorem onPets_castAbility (side : Side) (abilityId : Nat) :
    OnPets rules ticking (castAbility rules fuel side abilityId) := by
  refine Script.emits_read fun battle => ?_
  dsimp only
  split
  · exact Script.emits_done battle
  split
  · refine OnPets.at (onPets_addAura fun aura => ?_) battle
    exact onPets_pair (onPets_castAura fuel aura) (onPets_op fun _ => trivial)
  next hdata =>
    split
    · exact Script.emits_fail battle
    next ability hnew =>
    have hid : ability.id = abilityId := by
      unfold newAbility at hnew
      split at hnew
      · cases hnew
        rfl
      · cases hnew
    refine Script.emitsAt_seq_cons (Script.emitsAt_op ?_) (onPets_pair ?_ ?_)
    · show rules.isMultiTurn ability.id = false
      rw [hid]
      exact isMultiTurn_of_none hdata
    · exact onPets_map fun turn => onPets_map fun entry => onPets_handleEffect fuel ability entry
    · exact onPets_op fun _ => trivial

/-- The durations of the auras of the pet tick. -/
theorem onPets_updateAuras (hslot : ticking slot) (fuel : Nat) (last : Option Nat) :
    OnPets rules ticking (updateAuras rules fuel slot last) := by
  induction fuel generalizing last with
  | zero => exact Script.emits_fail
  | succ fuel ih =>
    refine Script.emits_read fun battle => ?_
    split
    · exact Script.emits_done battle
    refine OnPets.at (onPets_pair ?_ (ih _)) battle
    split
    · exact Script.emits_done
    unfold updateAbility
    split
    · exact onPets_op fun _ => trivial
    refine onPets_seq (List.forall_mem_cons.mpr ⟨?_, List.forall_mem_cons.mpr
      ⟨onPets_op fun _ => trivial, List.forall_mem_singleton.mpr (onPets_castAura fuel _)⟩⟩)
    split
    · exact onPets_op fun _ => Or.inl hslot
    · exact Script.emits_done

theorem onPets_removeExpired (slot : Slot) : OnPets rules ticking (removeExpired rules slot) := by
  refine Script.emits_read fun battle => OnPets.at ?_ battle
  exact onPets_map fun _ => onPets_op fun _ => trivial

theorem onPets_updatePet (hslot : ticking slot) (fuel : Nat) :
    OnPets rules ticking (updatePet rules fuel slot) := by
  refine onPets_seq (List.forall_mem_cons.mpr ⟨onPets_op fun _ => trivial,
    List.forall_mem_cons.mpr ⟨onPets_updateAuras hslot fuel none, ?_⟩⟩)
  exact List.forall_mem_cons.mpr ⟨onPets_removeExpired slot,
    List.forall_mem_singleton.mpr (onPets_op fun _ => trivial)⟩

/-- The update of a side is on pets, and all durations may tick. -/
theorem onPets_updateMember (side : Side) :
    OnPets rules (fun _ => True) (updateMember rules fuel side) :=
  Script.emits_read fun battle => OnPets.at (onPets_map fun _ => onPets_updatePet trivial fuel) battle

end Battle

end MopServer.BattlePets
