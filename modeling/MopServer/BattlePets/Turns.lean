import MopServer.BattlePets.PetOps

/-! # Turns of a pet battle

The masks are only written between the operations on pets, so what these keep is shown once for all
scripts.
-/

namespace MopServer.BattlePets

open MopServer.Foundation

/-- A dead pet is one that has been made dead: the tables leave the state alone. -/
def Rules.LeavesDeath (rules : Rules) : Prop :=
  ∀ abilityId, ∀ row ∈ rules.abilityStates abilityId, row.1 ≠ BattlePetState.isDead

namespace Battle

variable {rules : Rules} {battle after : Battle} {side : Side}

/-! ## What the turns are made of -/

variable (change : Pet → Pet) (slot : Slot)

/-- The two battles are in the same turn. -/
structure SameTurn (before after : Battle) : Prop where
  moved : after.movedMask = before.movedMask
  canMove : after.canMoveMask = before.canMoveMask
  round : after.round = before.round
  active : after.active = before.active
  size : after.size = before.size
  state : after.state = before.state ∨ after.state = .ending

theorem SameTurn.refl (battle : Battle) : SameTurn battle battle :=
  ⟨rfl, rfl, rfl, rfl, rfl, Or.inl rfl⟩

theorem SameTurn.trans {first second third : Battle} (hfirst : SameTurn first second)
    (hsecond : SameTurn second third) : SameTurn first third where
  moved := hsecond.moved.trans hfirst.moved
  canMove := hsecond.canMove.trans hfirst.canMove
  round := hsecond.round.trans hfirst.round
  active := hsecond.active.trans hfirst.active
  size := hsecond.size.trans hfirst.size
  state := by
    rcases hsecond.state with hstate | hstate
    · rw [hstate]
      exact hfirst.state
    · exact Or.inr hstate

theorem modifyPet_sameTurn (battle : Battle) : SameTurn battle (battle.modifyPet slot change) :=
  ⟨rfl, rfl, rfl, rfl, rfl, Or.inl rfl⟩

theorem applyAbility_sameTurn (battle : Battle) (ability : Ability) (apply : Bool) :
    SameTurn battle (battle.applyAbility rules ability apply) := by
  unfold applyAbility
  split <;> exact ⟨rfl, rfl, rfl, rfl, rfl, Or.inl rfl⟩

theorem onPetDied_sameTurn (battle : Battle) : SameTurn battle (battle.onPetDied slot) := by
  unfold onPetDied
  split
  · exact SameTurn.refl battle
  · exact ⟨rfl, rfl, rfl, rfl, rfl, Or.inr rfl⟩

/-- What happens to pets leaves the turns as they are. -/
theorem perform_sameTurn (battle : Battle) {op : Op} (hop : op.OfPets) :
    SameTurn battle (battle.perform rules op) := by
  cases op with
  | addAura slot aura =>
    rw [perform]
    exact (applyAbility_sameTurn battle aura true).trans (modifyPet_sameTurn _ _ _)
  | construct ability =>
    rw [perform]
    exact applyAbility_sameTurn battle ability true
  | removeAura _ _ | removeAtDeath _ _ =>
    rw [perform]
    split
    · exact SameTurn.refl battle
    · exact (applyAbility_sameTurn battle _ false).trans (modifyPet_sameTurn _ _ _)
  | die slot =>
    rw [perform]
    exact (modifyPet_sameTurn _ _ _).trans (onPetDied_sameTurn _ _)
  | damage _ _ _ | addCooldown _ _ _ =>
    rw [perform]
    split <;> exact ⟨rfl, rfl, rfl, rfl, rfl, Or.inl rfl⟩
  | setDuration _ _ _ | enable _ _ | nextTurn _ _ | heal _ _ | updateCooldowns _ | clearDamage _ =>
    exact ⟨rfl, rfl, rfl, rfl, rfl, Or.inl rfl⟩
  | setActivePet _ | endBattle | updateFlags | setMoved _ | nextRound | elapse _ => exact hop.elim

theorem OnPets.sameTurn {ticking : Slot → Prop} {script : Code}
    (hscript : OnPets rules ticking script)
    (hrun : script.run (perform rules) battle = some after) : SameTurn battle after :=
  hscript.keeps (SameTurn battle)
    (fun _ _ hmid hop => hmid.trans (perform_sameTurn _ hop.ofPets)) (SameTurn.refl battle) hrun

/-! ## Who is dead -/

variable {state : Nat}

theorem setState_states (pet : Pet) {other : Nat} (hne : other ≠ state) (value : Int) :
    (pet.setState rules state value).states other = pet.states other := by
  unfold Pet.setState
  split
  · exact Function.update_of_ne hne _ _
  · rfl

theorem modifyState_states (pet : Pet) {other : Nat} (hne : other ≠ state) (value : Int)
    (apply : Bool) : (pet.modifyState rules state value apply).states other = pet.states other := by
  unfold Pet.modifyState
  split
  · split
    · split
      · exact Function.update_of_ne hne _ _
      · split
        · exact Function.update_of_ne hne _ _
        · rfl
    · exact Function.update_of_ne hne _ _
  · rfl

theorem modifyStates_states {abilityId : Nat}
    (hrows : ∀ row ∈ rules.abilityStates abilityId, row.1 ≠ state) (apply : Bool) (pet : Pet) :
    (rules.modifyStates abilityId apply pet).states state = pet.states state := by
  unfold Rules.modifyStates
  generalize rules.abilityStates abilityId = rows at hrows
  induction rows generalizing pet with
  | nil => rfl
  | cons row rest ih =>
    refine (ih _ fun other hother => hrows other (List.mem_cons_of_mem _ hother)).trans ?_
    exact modifyState_states pet (hrows row List.mem_cons_self).symm _ _

@[simp] theorem modifyPet_self (battle : Battle) :
    (battle.modifyPet slot change).pet slot = change (battle.pet slot) :=
  Function.update_self _ _ _

theorem modifyPet_of_ne (battle : Battle) {slot other : Slot} (hne : other ≠ slot) :
    (battle.modifyPet slot change).pet other = battle.pet other :=
  Function.update_of_ne hne _ _

theorem modifyPet_states (battle : Battle) {change : Pet → Pet}
    (hchange : ∀ pet, (change pet).states state = pet.states state) (other : Slot) :
    ((battle.modifyPet slot change).pet other).states state = (battle.pet other).states state := by
  by_cases hslot : other = slot
  · rw [hslot, modifyPet_self, hchange]
  · rw [modifyPet_of_ne _ _ hslot]

theorem applyAbility_states (battle : Battle) {ability : Ability}
    (hrows : ∀ row ∈ rules.abilityStates ability.id, row.1 ≠ state) (apply : Bool) (slot : Slot) :
    ((battle.applyAbility rules ability apply).pet slot).states state =
      (battle.pet slot).states state := by
  unfold applyAbility
  rw [modifyPet_states _ _ (modifyStates_states hrows apply)]
  split
  · rw [modifyPet_states]
    exact fun _ => rfl
  · rfl

variable (hrules : rules.LeavesDeath)

include hrules in
/-- Only death sets the state of the dead. -/
theorem perform_states_isDead (battle : Battle) {op : Op} (hop : ∀ slot, op ≠ .die slot)
    (slot : Slot) :
    ((battle.perform rules op).pet slot).states BattlePetState.isDead =
      (battle.pet slot).states BattlePetState.isDead := by
  cases op with
  | addAura holder aura =>
    rw [perform, modifyPet_states]
    · exact applyAbility_states battle (hrules aura.id) true slot
    · exact fun _ => rfl
  | construct ability => exact applyAbility_states battle (hrules ability.id) true slot
  | setDuration _ _ _ | enable _ _ | nextTurn _ _ =>
    rw [perform, modifyPet_states]
    exact fun _ => rfl
  | removeAura _ _ | removeAtDeath _ _ =>
    rw [perform]
    split
    · rfl
    next aura hget =>
      rw [modifyPet_states]
      · exact applyAbility_states battle (hrules aura.id) false slot
      · exact fun _ => rfl
  | die dying => exact absurd rfl (hop dying)
  | damage attacker victim amount =>
    rw [perform]
    split
    · rfl
    · rw [modifyPet_states, modifyPet_states, modifyPet_states]
      · intro pet
        unfold Pet.setHealth
        split <;> rfl
      · exact fun pet => setState_states pet (by decide) _
      · exact fun pet => setState_states pet (by decide) _
  | heal victim amount =>
    rw [perform, modifyPet_states]
    intro pet
    unfold Pet.setHealth
    split <;> rfl
  | addCooldown holder abilityId cooldown =>
    rw [perform]
    split
    · rfl
    · rw [modifyPet_states]
      exact fun _ => rfl
  | updateCooldowns holder =>
    rw [perform, modifyPet_states]
    exact fun _ => rfl
  | clearDamage holder =>
    rw [perform, modifyPet_states]
    intro pet
    rw [setState_states _ (by decide), setState_states _ (by decide)]
  | setActivePet _ | endBattle | updateFlags | setMoved _ | nextRound | elapse _ => rfl

theorem isDead_congr {first second : Pet}
    (hstates : first.states BattlePetState.isDead = second.states BattlePetState.isDead) :
    first.isDead = second.isDead := by
  unfold Pet.isDead Pet.hasState Pet.getStateValue
  rw [hstates]

/-- While the battle is on, every member has a pet that lives. -/
def Alive (battle : Battle) : Prop :=
  battle.state ≠ .ending → ∀ side, ∃ slot ∈ battle.slots side, (battle.pet slot).isDead = false

theorem slots_congr {before after : Battle} (hsize : after.size = before.size) (side : Side) :
    after.slots side = before.slots side := by
  unfold slots
  rw [hsize]

theorem mem_slots_side {slot : Slot} (hslot : slot ∈ battle.slots side) : slot.side = side := by
  obtain ⟨index, -, rfl⟩ := List.mem_map.mp hslot
  rfl

variable (halive : battle.Alive)

include halive in
/-- A death that leaves a side without a living pet ends the battle. -/
theorem die_alive (dying : Slot) : (battle.perform rules (.die dying)).Alive := by
  rw [perform]
  unfold onPetDied
  split
  next hother =>
    intro hon side
    have hkept : ∀ slot, slot ≠ dying → (battle.modifyPet dying fun pet =>
        pet.modifyState rules BattlePetState.isDead 1 true).pet slot = battle.pet slot :=
      fun slot hne => Function.update_of_ne hne _ _
    by_cases hside : side = dying.side
    · obtain ⟨other, hmem, hlives⟩ := List.any_eq_true.mp hother
      simp only [Bool.and_eq_true, decide_eq_true_eq, Bool.not_eq_true'] at hlives
      exact ⟨other, hside ▸ hmem, hlives.2⟩
    · obtain ⟨slot, hmem, hlives⟩ := halive hon side
      refine ⟨slot, hmem, ?_⟩
      rw [hkept slot fun heq => hside (heq ▸ mem_slots_side hmem).symm]
      exact hlives
  · exact fun hon => absurd rfl hon

include hrules halive in
/-- Whatever is done, each side of a battle that goes on has a pet that lives. -/
theorem perform_alive (op : Op) : (battle.perform rules op).Alive := by
  by_cases hdies : ∃ slot, op = .die slot
  · obtain ⟨slot, rfl⟩ := hdies
    exact die_alive halive slot
  · have hop : ∀ slot, op ≠ .die slot := fun slot heq => hdies ⟨slot, heq⟩
    have hsame : (battle.perform rules op).size = battle.size ∧
        ((battle.perform rules op).state = battle.state ∨
          (battle.perform rules op).state = .ending) := by
      by_cases hpets : op.OfPets
      · have hturn : SameTurn battle (battle.perform rules op) := perform_sameTurn battle hpets
        exact ⟨hturn.size, hturn.state⟩
      · cases op <;> first
          | exact absurd trivial hpets
          | exact ⟨rfl, Or.inl rfl⟩
          | exact ⟨rfl, Or.inr rfl⟩
    intro hon side
    have hbefore : battle.state ≠ .ending := by
      rcases hsame.2 with hstate | hstate
      · exact hstate ▸ hon
      · exact absurd hstate hon
    obtain ⟨slot, hmem, hlives⟩ := halive hbefore side
    refine ⟨slot, ?_, ?_⟩
    · rw [slots_congr hsame.1]
      exact hmem
    · rw [isDead_congr (perform_states_isDead hrules battle hop slot)]
      exact hlives

include hrules halive in
theorem run_alive {script : Code} (hrun : script.run (perform rules) battle = some after) :
    after.Alive := by
  have hemits : Script.Emits (perform rules) (fun _ _ => True) script := fun state ops _ =>
    along_of_forall (perform rules) (fun _ _ => trivial) state ops
  exact hemits.keeps Alive (fun _ op hmid _ => perform_alive hrules hmid op) halive hrun

/-! ## Rounds -/

variable (hrun : (swapDead side).run (perform rules) battle = some after)

include hrun in
theorem swapDead_round : after.round = battle.round := by
  unfold swapDead at hrun
  rw [Script.run_read] at hrun
  split at hrun
  · cases hrun
    rfl
  · split at hrun
    · cases hrun
      rfl
    · cases Script.run_op hrun
      rfl

variable {fuel : Nat}

/-- The end of a round raises the number of the round. -/
theorem endRound_round (hrun : (endRound rules fuel).run (perform rules) battle = some after) :
    battle.round < after.round := by
  induction fuel generalizing battle with
  | zero => cases hrun
  | succ fuel ih =>
    obtain ⟨first, hfirst, hrun⟩ := Script.run_seq_cons hrun
    obtain ⟨second, hsecond, hrun⟩ := Script.run_seq_cons hrun
    obtain ⟨third, hthird, hrun⟩ := Script.run_seq_cons hrun
    obtain ⟨fourth, hfourth, hrun⟩ := Script.run_seq_cons hrun
    obtain ⟨fifth, hfifth, hrun⟩ := Script.run_seq_cons hrun
    obtain ⟨last, hlast, hrun⟩ := Script.run_seq_cons hrun
    cases Script.run_seq_nil hrun
    have hupdated := ((onPets_updateMember fuel .pad0).sameTurn hfirst).trans
      ((onPets_updateMember fuel .pad1).sameTurn hsecond)
    have hround : fifth.round = battle.round + 1 := by
      rw [Script.run_op hfifth]
      show fourth.round + 1 = battle.round + 1
      rw [swapDead_round hfourth, swapDead_round hthird, hupdated.round]
    have hlater : battle.round < fifth.round := hround ▸ Nat.lt_succ_self _
    rw [Script.run_read] at hlast
    split at hlast
    · cases hlast
      exact hlater
    obtain ⟨flagged, hflagged, hlast⟩ := Script.run_seq_cons hlast
    obtain ⟨final, hfinal, hlast⟩ := Script.run_seq_cons hlast
    cases Script.run_seq_nil hlast
    cases Script.run_op hflagged
    rw [Script.run_read] at hfinal
    split at hfinal
    · have hend := ih hfinal
      exact Nat.lt_trans hlater hend
    · cases Script.run_done hfinal
      exact hlater

/-- Every side that has not moved may act after the other, and one of them begins. -/
structure RoundBegun (battle : Battle) : Prop where
  turn : ∃! side, battle.mayAct side = true
  moved : ∀ side, battle.movedMask side = (battle.getActivePet side).hasActiveMultiTurnAbility

variable (hlives : ∀ side, (battle.getActivePet side).isDead = false)

/-- An action that takes effect: its round, its side, and whether that side might act. -/
structure Act where
  round : Nat
  side : Side
  mayAct : Bool

/-- A battle with the actions so far, and the sides that had a multi-turn ability when its round
began. -/
structure Watched where
  battle : Battle
  acts : List Act
  multiTurn : Side → Bool

def flags (battle : Battle) (side : Side) : Bool :=
  (battle.getActivePet side).hasActiveMultiTurnAbility

/-- Actions only took effect for a side that might act, and no side acted twice in a round; while
the battle is on exactly one side may act, and the sides with a multi-turn ability have moved. -/
structure Disciplined (watched : Watched) : Prop where
  allowed : ∀ act ∈ watched.acts, act.mayAct = true
  once : (watched.acts.map fun act => (act.round, act.side)).Nodup
  turn : watched.battle.state = .beginning → ∃! side, watched.battle.mayAct side = true
  moved : watched.battle.state = .beginning → ∀ side, watched.multiTurn side = true →
    watched.battle.movedMask side = true

/-- A trap is only used by the side that may act. -/
def InTurn (battle : Battle) : Call → Prop
  | .action side .useTrap _ => battle.state ≠ .ending → battle.mayAct side = true
  | _ => True

/-- What is not undone within a round. -/
structure SameRound (before after : Battle) : Prop where
  round : after.round = before.round
  state : after.state = .beginning → before.state = .beginning
  moved : ∀ side, before.movedMask side = true → after.movedMask side = true
  turn : after.state = .beginning → ∃! side, after.mayAct side = true

/-- A call leaves the round, or begins a new one. -/
def Continues (before after : Battle) : Prop :=
  SameRound before after ∨
    before.round < after.round ∧ (after.state = .beginning → RoundBegun after)

theorem actionEffect_run {action : Action}
    (hrun : (actionEffect rules fuel side action).run (perform rules) battle = some after) :
    after.movedMask = battle.movedMask ∧ after.canMoveMask = battle.canMoveMask ∧
      after.round = battle.round ∧ (after.state = .beginning → battle.state = .beginning) := by
  cases action with
  | useAbility abilityId =>
    have hcast : OnPets rules (fun _ => False) (castAbility rules fuel side abilityId) :=
      onPets_castAbility fuel side abilityId
    have hturn := hcast.sameTurn hrun
    refine ⟨hturn.moved, hturn.canMove, hturn.round, fun hstate => ?_⟩
    rcases hturn.state with hsame | hended
    · exact hsame ▸ hstate
    · rw [hended] at hstate
      cases hstate
  | swapPet index =>
    rw [actionEffect, Script.run_read] at hrun
    split at hrun
    · cases hrun
    · cases Script.run_op hrun
      exact ⟨rfl, rfl, rfl, id⟩
  | forfeit | useTrap | endBattle =>
    cases Script.run_done hrun
    exact ⟨rfl, rfl, rfl, id⟩

variable (hready : battle.state = .beginning → ∃! side, battle.mayAct side = true) {call : Call}

/-- No act is later than the battle, and who acted in its round has moved. -/
structure Kept (watched : Watched) : Prop where
  disciplined : Disciplined watched
  alive : watched.battle.Alive
  rounds : ∀ act ∈ watched.acts, act.round ≤ watched.battle.round ∧
    (act.round = watched.battle.round → watched.battle.movedMask act.side = true)

theorem Continues.ready (hcontinues : Continues battle after) (hstate : after.state = .beginning) :
    ∃! side, after.mayAct side = true := by
  rcases hcontinues with hsame | ⟨-, hbegun⟩
  · exact hsame.turn hstate
  · exact (hbegun hstate).turn

theorem Continues.moved (hcontinues : Continues battle after) (hround : after.round = battle.round)
    (hmoved : battle.movedMask side = true) : after.movedMask side = true := by
  rcases hcontinues with hsame | ⟨hlt, -⟩
  · exact hsame.moved side hmoved
  · exact absurd hround hlt.ne'

/-- The pets of a new battle live and have used no ability. -/
structure Fresh (battle : Battle) : Prop where
  lives : ∀ side, ∃ slot ∈ battle.slots side, (battle.pet slot).isDead = false
  unflagged : ∀ slot, (battle.pet slot).hasActiveMultiTurnAbility = false

def duelRules : Rules where
  state _ := true
  reported _ := false
  ability _ := some 0
  abilityData _ := none
  abilityEffects _ := []
  abilityStates _ := []
  scale _ value := value
  calculatePct value _ := value
  addPct speed _ := speed
  damage _ _ _ _ _ _ := 0
  healing _ _ _ _ _ _ := 0

def duel : Battle where
  state := .none
  movedMask _ := false
  canMoveMask _ := false
  round := 0
  roundTime := 30000
  active _ := 0
  size _ := 1
  pet _ :=
    { power := 10, speed := 10, maxHp := 100, hp := 100, states := fun _ => none
      cooldowns := fun _ => 0, auras := .empty, hasActiveMultiTurnAbility := false }
  rolls := 0

/-- In every run each side has a pet that lives until the battle ends. -/
theorem alive_foldl (hrules : rules.LeavesDeath) (hfresh : Fresh battle) (calls : List Call) :
    ∀ after ∈ calls.foldl (step rules) (some (initialBattle rules battle)), after.Alive := by
  refine List.foldlRecOn (motive := fun reached => ∀ after ∈ reached, Alive after) calls _ ?_ ?_
  · rintro _ ⟨⟩
    exact fun _ => hfresh.lives
  · intro reached hall call _ after hafter
    obtain ⟨before, hbefore, hrun⟩ := Option.bind_eq_some_iff.mp hafter
    exact run_alive hrules (hall before hbefore) hrun

/-- Two pets a side. -/
def pairs : Battle := { duel with size := fun _ => 2 }

theorem pairs_fresh : Fresh pairs where
  lives side := ⟨⟨side, 0⟩, by cases side <;> decide, rfl⟩
  unflagged _ := rfl

/-- Every ability hits the active enemy, and kills it. -/
def strikeRules : Rules :=
  { duelRules with
    abilityEffects := fun _ =>
      [(1, [{ effect := .damage, triggerId := 0, values := fun _ => 0
              isSelf := false, isActiveEnemy := true }])]
    damage := fun _ _ _ _ _ _ => 100 }

/-- A trap is used out of turn, and a pet dies. -/
def strikeOutcome : Option Battle :=
  [Call.action .pad0 .useTrap 4, .action .pad1 (.useAbility 1) 4].foldl (step strikeRules)
    (some (initialBattle strikeRules pairs))

theorem alive_foldl_pairs :
    ∃ after ∈ strikeOutcome, (after.pet ⟨.pad0, 0⟩).isDead = true ∧ after.Alive := by
  have hdies : (strikeOutcome.any fun after => (after.pet ⟨.pad0, 0⟩).isDead) = true := by
    decide +kernel
  obtain ⟨after, hafter, hdead⟩ := (Option.any_eq_true _ _).mp hdies
  exact ⟨after, hafter, hdead, alive_foldl (fun _ _ hrow => absurd hrow List.not_mem_nil)
    pairs_fresh _ after hafter⟩

end Battle

end MopServer.BattlePets
