import MopServer.BattlePets.Requests
import MopServer.BattlePets.Turns

/-! # Safety of requests

The effects of a known ability only add known ones, so no assertion fails behind the first cast.
What a client may ask for is another matter: the handlers only look at the turn.
-/

namespace MopServer.BattlePets

open MopServer.Foundation

variable {rules : Rules}

/-- `AddAura` is called for the ability that the effect triggers. -/
def BattlePetAbilityEffectEntry.AddsAura (entry : BattlePetAbilityEffectEntry) : Prop :=
  entry.effect = .aura ∨ entry.effect = .auraCondition ∨ entry.effect = .auraPeriodicDamage

/-- The store has an entry for the ability. -/
def Rules.Knows (rules : Rules) (abilityId : Nat) : Prop :=
  abilityId ≠ 0 ∧ (rules.ability abilityId).isSome = true

/-- The ability that an effect triggers is there. -/
def Rules.Triggers (rules : Rules) (entry : BattlePetAbilityEffectEntry) : Prop :=
  entry.AddsAura → rules.Knows entry.triggerId

/-- The tables of the client refer to abilities that are there. -/
structure Rules.Coherent (rules : Rules) (abilities : Slot → List Nat) : Prop where
  listed : ∀ slot, ∀ abilityId ∈ abilities slot, rules.Knows abilityId
  triggered : ∀ abilityId, ∀ turn ∈ rules.abilityEffects abilityId, ∀ entry ∈ turn.2,
    rules.Triggers entry

namespace Battle

variable {battle after : Battle} {side : Side}

/-! ## Code that always returns -/

variable {entry : BattlePetAbilityEffectEntry} {abilityId : Nat} {action : Action}

theorem isSome_makeDead (slot : Slot) (battle : Battle) :
    (makeDead rules slot battle).isSome = true := by
  refine Script.isSome_seq (List.forall_mem_cons.mpr ⟨fun state => ?_,
    List.forall_mem_singleton.mpr fun _ => rfl⟩) battle
  refine Script.isSome_seq (fun script hscript _ => ?_) state
  obtain ⟨aura, -, rfl⟩ := List.mem_map.mp hscript
  rfl

theorem isSome_dealDamageByEffect (abilityId : Nat) (caster victim : Slot) (points accuracy : Int)
    (battle : Battle) :
    (dealDamageByEffect rules abilityId caster victim points accuracy battle).isSome = true := by
  unfold dealDamageByEffect Script.read
  dsimp only
  split
  · rfl
  refine Script.isSome_seq (List.forall_mem_cons.mpr ⟨fun _ => rfl,
    List.forall_mem_singleton.mpr fun hurt => ?_⟩) battle
  split
  · exact isSome_makeDead victim hurt
  · rfl

theorem isSome_healByEffect (abilityId : Nat) (caster victim : Slot) (points accuracy : Int)
    (battle : Battle) :
    (healByEffect rules abilityId caster victim points accuracy battle).isSome = true := by
  unfold healByEffect Script.read
  dsimp only
  split <;> rfl

variable {ability : Ability}

theorem isSome_handleEffect (hnone : battle.triggeredAura ability entry = none)
    : (handleEffect rules 1 ability entry battle).isSome = true := by
  unfold triggeredAura at hnone
  rw [handleEffect, Script.read]
  cases heffect : entry.effect with
  | heal | healPct => exact isSome_healByEffect _ _ _ _ _ _
  | damage => exact isSome_dealDamageByEffect _ _ _ _ _ _
  | damage2 => exact isSome_dealDamageByEffect _ _ _ _ _ _
  | damagePctFromHp | damagePctFromTaken => exact isSome_dealDamageByEffect _ _ _ _ _ _
  | aura | auraPeriodicDamage =>
    rw [heffect] at hnone
    cases hnone
  | auraCondition =>
    simp only [heffect] at hnone ⊢
    split
    · rfl
    next hcaster =>
      rw [if_neg hcaster] at hnone
      split
      · rfl
      next htarget =>
        rw [if_neg htarget] at hnone
        cases hnone
  | auraUnapply => rfl
  | dummy => rfl
  | other => rfl

theorem isSome_removeExpired (slot : Slot) (battle : Battle) :
    (removeExpired rules slot battle).isSome = true := by
  refine Script.isSome_seq (fun script hscript _ => ?_) battle
  obtain ⟨aura, -, rfl⟩ := List.mem_map.mp hscript
  rfl

theorem isSome_swapDead (side : Side) (battle : Battle) :
    (swapDead side battle).isSome = true := by
  unfold swapDead Script.read
  dsimp only
  split
  · rfl
  · cases (battle.slots side).find? fun slot => !(battle.pet slot).isDead <;> rfl

theorem addsAura_of_triggered {duration : Int}
    (hsome : battle.triggeredAura ability entry = some duration) : entry.AddsAura := by
  unfold triggeredAura at hsome
  unfold BattlePetAbilityEffectEntry.AddsAura
  cases heffect : entry.effect <;> simp_all

theorem newAbility_of_knows (hknows : rules.Knows abilityId) (battle : Battle)
    (caster target : Side) (duration : Int) :
    ∃ ability, battle.newAbility rules abilityId caster target duration = some ability := by
  obtain ⟨hid, hentry⟩ := hknows
  unfold newAbility
  rw [if_pos (by simp [hid, hentry])]
  exact ⟨_, rfl⟩

/-- What `GetEffects` finds is in the table. -/
theorem mem_getEffects {turn : UInt8} (hentry : entry ∈ rules.getEffects abilityId turn) :
    ∃ row ∈ rules.abilityEffects abilityId, entry ∈ row.2 := by
  have hrow : ∀ (number : UInt8) (entries : List BattlePetAbilityEffectEntry),
      (rules.abilityEffects abilityId).lookup number = some entries →
        (number, entries) ∈ rules.abilityEffects abilityId := by
    intro number entries hlookup
    obtain ⟨before, after, heq, -⟩ := List.lookup_eq_some_iff.mp hlookup
    rw [heq]
    exact List.mem_append_right _ List.mem_cons_self
  unfold Rules.getEffects at hentry
  dsimp only at hentry
  cases hturn : (rules.abilityEffects abilityId).lookup turn with
  | some entries =>
    rw [hturn] at hentry
    exact ⟨_, hrow turn entries hturn, hentry⟩
  | none =>
    cases hfirst : (rules.abilityEffects abilityId).lookup 1 with
    | some entries =>
      rw [hturn, hfirst] at hentry
      exact ⟨_, hrow 1 entries hfirst, hentry⟩
    | none =>
      rw [hturn, hfirst] at hentry
      cases hentry

namespace Checked

open Attempt (ask stop Meets)

/-! ## Code in which no assertion fails -/

variable {Value : Type} {checked : Attempt Battle Stop Value}

/-- From no battle does an assertion fail. -/
def Safe {Value : Type} (checked : Attempt Battle Stop Value) : Prop :=
  Meets (fun _ => True) checked (fun _ _ => True) fun reason _ => reason = .depth

/-- From the battle no assertion fails. -/
def SafeAt {Value : Type} (checked : Attempt Battle Stop Value) (battle : Battle) : Prop :=
  Meets (fun state => battle = state ∧ True) checked (fun _ _ => True) fun reason _ =>
    reason = .depth

theorem Safe.at (hsafe : Safe checked) (battle : Battle) : SafeAt checked battle :=
  hsafe.mono (fun _ _ => trivial) fun _ _ _ => trivial

theorem safe_pure : Safe (pure () : Checked) := Attempt.meets_pure fun _ _ => trivial

theorem safe_act (op : Op) : Safe (act rules op) := Attempt.meets_update fun _ _ => trivial

theorem safe_ask {next : Battle → Attempt Battle Stop Value}
    (hnext : ∀ battle, SafeAt (next battle) battle) : Safe (ask >>= next) :=
  Attempt.meets_ask_bind hnext

theorem Safe.bind {Next : Type} {next : Value → Attempt Battle Stop Next} (hfirst : Safe checked)
    (hnext : ∀ value, Safe (next value)) : Safe (checked >>= next) :=
  Meets.bind hfirst hnext

theorem plain_safeAt {code : Code} (hcode : (code battle).isSome = true) :
    SafeAt (plain rules code) battle := by
  rintro _ ⟨rfl, -⟩
  obtain ⟨ops, hops⟩ := Option.isSome_iff_exists.mp hcode
  simp only [plain, Attempt.ofScript, Script.run, hops, Option.map_some, Attempt.Ends]

theorem safe_plain {code : Code} (hcode : ∀ battle, (code battle).isSome = true) :
    Safe (plain rules code) := by
  intro battle _
  exact plain_safeAt (hcode battle) battle ⟨rfl, trivial⟩

theorem safe_newAbility (hknows : rules.Knows abilityId) (caster target : Side) (duration : Int) :
    Safe (newAbility rules abilityId caster target duration) := by
  refine safe_ask fun battle => ?_
  obtain ⟨ability, hnew⟩ := newAbility_of_knows hknows battle caster target duration
  rw [hnew]
  exact Attempt.meets_pure fun _ _ => trivial

theorem safe_addAura {slot : Slot} {duration : Int} {caster : Side} {use : Ability → Checked}
    (hknows : rules.Knows abilityId) (huse : ∀ aura, Safe (use aura)) :
    Safe (addAura rules slot abilityId duration caster use) := by
  refine safe_ask fun battle => ?_
  split
  · exact safe_pure.at battle
  split
  next aura _ =>
    have hrefresh : Safe (refreshDuration rules slot abilityId aura) := by
      unfold refreshDuration
      split
      · exact safe_pure
      · exact safe_act _
    exact (hrefresh.bind fun _ => huse aura).at battle
  · refine Safe.at ?_ battle
    refine (safe_newAbility hknows _ _ _).bind fun aura => ?_
    exact (safe_act _).bind fun _ => huse aura

variable {abilities : Slot → List Nat} (hdata : rules.Coherent abilities) (fuel : Nat)
  (ability : Ability)

include hdata in
/-- By induction on the fuel: effects put on only auras that have entries. -/
theorem safe_handleEffect (hentry : rules.Triggers entry) :
    Safe (handleEffect rules fuel ability entry) := by
  induction fuel generalizing ability entry with
  | zero => exact Attempt.meets_stop fun _ _ => rfl
  | succ fuel ih =>
    refine safe_ask fun battle => ?_
    split
    next duration htriggered =>
      refine Safe.at (safe_addAura (hentry (addsAura_of_triggered htriggered)) ?_) battle
      intro aura
      refine Meets.forM fun other hother => ?_
      obtain ⟨row, hrow, hmem⟩ := mem_getEffects hother
      exact ih aura (hdata.triggered aura.id row hrow other hmem)
    next htriggered => exact plain_safeAt (isSome_handleEffect htriggered)

include hdata in
theorem safe_castAura (aura : Ability) : Safe (castAura rules fuel aura) := by
  refine Meets.forM fun entry hentry => ?_
  obtain ⟨row, hrow, hmem⟩ := mem_getEffects hentry
  exact safe_handleEffect hdata fuel aura (hdata.triggered aura.id row hrow entry hmem)

include hdata in
theorem safe_handleAllEffects : Safe (handleAllEffects rules fuel ability) := by
  refine Meets.forM fun turn hturn => Meets.forM fun entry hentry => ?_
  exact safe_handleEffect hdata fuel ability
    (hdata.triggered ability.id turn (List.mem_of_mem_filter hturn) entry hentry)

include hdata in
/-- No assertion fails for an ability with an entry. -/
theorem safe_castAbility (side : Side) (hknows : rules.Knows abilityId) :
    Safe (castAbility rules fuel side abilityId) := by
  refine safe_ask fun battle => Safe.at ?_ battle
  dsimp only
  split
  · exact safe_pure
  split
  · refine safe_addAura hknows fun aura => ?_
    exact (safe_castAura hdata fuel aura).bind fun _ => safe_act _
  · refine (safe_newAbility hknows _ _ _).bind fun ability => ?_
    refine (safe_act _).bind fun _ => ?_
    exact (safe_handleAllEffects hdata fuel ability).bind fun _ => safe_act _

include hdata in
theorem safe_updateAura (slot : Slot) (aura : Ability) :
    Safe (updateAura rules fuel slot aura) := by
  unfold updateAura
  split
  · exact safe_pure
  unfold updateAbility
  split
  · exact safe_act _
  · refine (safe_plain fun battle => ?_).bind fun _ => ?_
    · split <;> rfl
    · exact (safe_act _).bind fun _ => safe_castAura hdata fuel _

include hdata in
theorem safe_updateAuras (slot : Slot) (last : Option Nat) :
    Safe (updateAuras rules fuel slot last) := by
  induction fuel generalizing last with
  | zero => exact Attempt.meets_stop fun _ _ => rfl
  | succ fuel ih =>
    refine safe_ask fun battle => Safe.at ?_ battle
    split
    · exact safe_pure
    · exact (safe_updateAura hdata fuel slot _).bind fun _ => ih _

include hdata in
theorem safe_updateMember (side : Side) : Safe (updateMember rules fuel side) := by
  refine safe_ask fun battle => Safe.at (Meets.forM fun slot _ => ?_) battle
  refine Safe.bind (safe_act _) fun _ => (safe_updateAuras hdata fuel slot none).bind fun _ => ?_
  exact (safe_plain (isSome_removeExpired slot)).bind fun _ => safe_act _

theorem safe_tryToEnd {endRound : Checked} (hend : Safe endRound) : Safe (tryToEnd endRound) := by
  refine safe_ask fun battle => Safe.at ?_ battle
  split
  · exact hend
  · exact safe_pure

include hdata in
theorem safe_endRound : Safe (endRound rules fuel) := by
  induction fuel with
  | zero => exact Attempt.meets_stop fun _ _ => rfl
  | succ fuel ih =>
    refine (safe_updateMember hdata fuel .pad0).bind fun _ => ?_
    refine (safe_updateMember hdata fuel .pad1).bind fun _ => ?_
    refine (safe_plain (isSome_swapDead .pad0)).bind fun _ => ?_
    refine (safe_plain (isSome_swapDead .pad1)).bind fun _ => ?_
    refine (safe_act _).bind fun _ => safe_ask fun battle => Safe.at ?_ battle
    split
    · exact safe_pure
    · exact (safe_act _).bind fun _ => safe_tryToEnd ih

include hdata in
theorem safe_handleAccepted (side : Side)
    (haction : SafeAt (actionEffect rules fuel side action) battle) :
    SafeAt (handleAccepted rules fuel side action) battle :=
  Meets.bind haction fun _ =>
    Safe.bind (safe_act _) fun _ => safe_tryToEnd (safe_endRound hdata fuel)

/-! ## What a request changes -/

variable {battle after : Battle} {side : Side}

theorem handleAccepted_returned {fuel : Nat}
    (hreturned : (handleAccepted rules fuel side action).returned battle = some after) :
    ∃ mid, (Battle.actionEffect rules fuel side action).run (perform rules) battle = some mid ∧
      (mid.round < after.round ∨ after = mid.perform rules (.setMoved side) ∧
        ¬(after.movedMask .pad0 && after.movedMask .pad1) = true) := by
  have hrun := (handleAccepted_follows fuel side action battle).symm.trans hreturned
  obtain ⟨mid, hmid, hrun⟩ := Script.run_seq_cons hrun
  obtain ⟨moved, hmoved, hrun⟩ := Script.run_seq_cons hrun
  obtain ⟨last, hlast, hrun⟩ := Script.run_seq_cons hrun
  cases Script.run_seq_nil hrun
  cases Script.run_op hmoved
  refine ⟨mid, hmid, ?_⟩
  rw [Battle.tryEndRound, Script.run_read] at hlast
  split at hlast
  · have hround := endRound_round hlast
    exact Or.inl hround
  next hopen =>
    cases Script.run_done hlast
    exact Or.inr ⟨rfl, hopen⟩

theorem handleAccepted_ne {fuel : Nat} (hmay : battle.mayAct side = true) :
    handleAccepted rules fuel side action battle ≠ (.ok (), battle) := by
  intro heq
  have hreturned : (handleAccepted rules fuel side action).returned battle = some battle := by
    rw [Attempt.returned, heq]
  obtain ⟨mid, hmid, hchange⟩ := handleAccepted_returned hreturned
  rcases hchange with hround | ⟨hmoved, -⟩
  · rw [(actionEffect_run hmid).2.2.1] at hround
    exact Nat.lt_irrefl _ hround
  · have hself : battle.movedMask side = true := by
      rw [hmoved]
      exact Function.update_self _ _ _
    unfold mayAct at hmay
    rw [hself] at hmay
    simp at hmay

theorem handleAccepted_useTrap (hself : battle.perform rules (.setMoved side) = battle)
    (hopen : ¬(battle.movedMask .pad0 && battle.movedMask .pad1) = true) (fuel : Nat) :
    handleAccepted rules fuel side .useTrap battle = (.ok (), battle) := by
  show tryToEnd (endRound rules fuel) (battle.perform rules (.setMoved side)) = (.ok (), battle)
  rw [hself]
  exact congrFun (if_neg hopen) battle

theorem handleAction_of_accepts (hstate : battle.state = .beginning)
    (haccepts : battle.accepts side action = true) (fuel : Nat) :
    handleAction rules fuel side action battle = handleAccepted rules fuel side action battle := by
  have hon : battle.state ≠ .ending := by
    rw [hstate]
    decide
  unfold handleAction
  cases action with
  | forfeit => cases haccepts
  | _ => simp only [Bind.bind, ask, if_neg hon, if_pos haccepts]

/-- An action that is not accepted changes nothing. -/
theorem handleAction_of_rejects (hforfeit : action ≠ .forfeit)
    (hrejects : ¬battle.accepts side action = true) (fuel : Nat) :
    handleAction rules fuel side action battle = (.ok (), battle) := by
  unfold handleAction
  by_cases hended : battle.state = .ending
  · simp only [Bind.bind, ask, if_pos hended]
    rfl
  · cases action with
    | forfeit => exact absurd rfl hforfeit
    | _ =>
      simp only [Bind.bind, ask, if_neg hended, if_neg hrejects]
      rfl

theorem handleAction_forfeit (hstate : battle.state = .beginning) (fuel : Nat) :
    handleAction rules fuel side .forfeit battle = (.ok (), battle.perform rules .endBattle) := by
  have hon : battle.state ≠ .ending := by
    rw [hstate]
    decide
  unfold handleAction
  simp only [Bind.bind, ask, if_neg hon]
  rfl

end Checked

/-! ## What a member may ask for -/

variable {info : ActionInfo} {abilities : Slot → List Nat}

/-- A cast of an ability that the active pet has and may use, a swap to a pet that lives, or a
forfeit. -/
def Proper (abilities : Slot → List Nat) (battle : Battle) (side : Side) : Option Action → Prop
  | some (.useAbility abilityId) =>
    abilityId ∈ abilities (battle.activePet side) ∧
      (battle.getActivePet side).hasCooldown abilityId = false ∧
      (battle.getActivePet side).isDead = false
  | some (.swapPet index) =>
    ∃ slot ∈ battle.slots side, slot.index.val = index ∧ (battle.pet slot).isDead = false
  | some .forfeit => True
  | _ => False

/-- No assertion fails, a proper request may do what it asks for, and any other changes nothing. -/
structure SafeRequest (rules : Rules) (abilities : Slot → List Nat) (battle : Battle) (side : Side)
    (info : ActionInfo) : Prop where
  asserts : ∀ fuel, (Checked.handleRequest rules fuel side info battle).1 ≠ .error .assertion
  forfeits : info.request = some .forfeit → ∀ fuel,
    Checked.handleRequest rules fuel side info battle = (.ok (), battle.perform rules .endBattle)
  proper : ¬Proper abilities battle side info.request → ∀ fuel,
    Checked.handleRequest rules fuel side info battle = (.ok (), battle)

/-- The handlers turn the request away, or need not. -/
def Admissible (abilities : Slot → List Nat) (battle : Battle) (side : Side) :
    Option Action → Prop
  | none => True
  | some .useTrap =>
    battle.movedMask side = true ∧ battle.canMoveMask side = false ∧
      battle.movedMask side.opponent = false ∧ battle.canMoveMask side.opponent = true
  | some action => battle.accepts side action = true → Proper abilities battle side (some action)

/-- A trap changes nothing only where what it does has been done: the side has moved, and the other
may. -/
theorem setMoved_eq_self_iff :
    battle.perform rules (.setMoved side) = battle ∧
        ¬(battle.movedMask .pad0 && battle.movedMask .pad1) = true ↔
      battle.movedMask side = true ∧ battle.canMoveMask side = false ∧
        battle.movedMask side.opponent = false ∧ battle.canMoveMask side.opponent = true := by
  have hne : side.opponent ≠ side := by cases side <;> decide
  constructor
  · rintro ⟨heq, hopen⟩
    have hmoved : battle.movedMask side = true :=
      (congrArg (fun other => other.movedMask side) heq).symm.trans (Function.update_self _ _ _)
    have hfree : battle.movedMask side.opponent = false := by
      refine Bool.eq_false_iff.mpr fun hother => hopen ?_
      cases side
      · exact (Bool.and_eq_true _ _).mpr ⟨hmoved, hother⟩
      · exact (Bool.and_eq_true _ _).mpr ⟨hother, hmoved⟩
    refine ⟨hmoved, ?_, hfree, ?_⟩
    · have hself := congrArg (fun other => other.canMoveMask side) heq
      simpa [perform] using hself.symm
    · have hother := congrArg (fun other => other.canMoveMask side.opponent) heq
      simpa [perform, hne, hfree] using hother.symm
  · rintro ⟨hmoved, hcannot, hfree, hcan⟩
    refine ⟨?_, ?_⟩
    · have hmask : Function.update battle.movedMask side true = battle.movedMask := by
        rw [← hmoved]
        exact Function.update_eq_self _ _
      have hcanMask : (fun other => if other = side then false
          else if other = side.opponent && !battle.movedMask side.opponent then true
          else battle.canMoveMask other) = battle.canMoveMask := by
        funext other
        split
        next heq => rw [heq, hcannot]
        · split
          next hopponent =>
            simp only [Bool.and_eq_true, decide_eq_true_eq] at hopponent
            rw [hopponent.1, hcan]
          · rfl
      rw [perform, hmask, hcanMask]
    · cases side
      · exact fun hboth => Bool.false_ne_true (hfree.symm.trans ((Bool.and_eq_true _ _).mp hboth).2)
      · exact fun hboth => Bool.false_ne_true (hfree.symm.trans ((Bool.and_eq_true _ _).mp hboth).1)

theorem handleRequest_of_request (hrequest : info.request = some action) (fuel : Nat) :
    Checked.handleRequest rules fuel side info = Checked.handleAction rules fuel side action := by
  rw [Checked.handleRequest, hrequest]

theorem safeRequest_of_rejects (hrequest : info.request = some action)
    (hforfeit : action ≠ .forfeit) (hrejects : ¬battle.accepts side action = true) :
    SafeRequest rules abilities battle side info := by
  have hstays : ∀ fuel, Checked.handleRequest rules fuel side info battle = (.ok (), battle) := by
    intro fuel
    rw [handleRequest_of_request hrequest]
    exact Checked.handleAction_of_rejects hforfeit hrejects fuel
  refine ⟨fun fuel hfails => ?_, fun hasked => ?_, fun _ => hstays⟩
  · rw [hstays] at hfails
    cases hfails
  · rw [hrequest, Option.some.injEq] at hasked
    exact absurd hasked hforfeit

theorem proper_of_safeRequest (hstate : battle.state = .beginning)
    (hrequest : info.request = some action) (hmay : battle.mayAct side = true)
    (haccepts : battle.accepts side action = true)
    (hsafe : SafeRequest rules abilities battle side info) :
    Proper abilities battle side (some action) := by
  by_contra himproper
  have hstays := hsafe.proper (hrequest ▸ himproper) 0
  rw [handleRequest_of_request hrequest, Checked.handleAction_of_accepts hstate haccepts] at hstays
  exact Checked.handleAccepted_ne hmay hstays

theorem safeRequest_of_accepts (hdata : rules.Coherent abilities)
    (hstate : battle.state = .beginning) (hrequest : info.request = some action)
    (haccepts : battle.accepts side action = true)
    (hproper : Proper abilities battle side (some action))
    (heffect : ∀ fuel, Checked.SafeAt (Checked.actionEffect rules fuel side action) battle) :
    SafeRequest rules abilities battle side info := by
  refine ⟨fun fuel hfails => ?_, fun hasked => ?_, fun himproper => absurd hproper ?_⟩
  · rw [handleRequest_of_request hrequest,
      Checked.handleAction_of_accepts hstate haccepts] at hfails
    have hends := Checked.safe_handleAccepted hdata fuel side (heffect fuel) battle ⟨rfl, trivial⟩
    rcases hend : Checked.handleAccepted rules fuel side action battle with ⟨reason | _, reached⟩
    all_goals rw [hend] at hends hfails
    · cases hfails
      cases hends
    · cases hfails
  · rw [hrequest, Option.some.injEq] at hasked
    subst hasked
    cases haccepts
  · rw [hrequest] at himproper
    exact himproper

theorem safeRequest_forfeit (hstate : battle.state = .beginning)
    (hrequest : info.request = some .forfeit) : SafeRequest rules abilities battle side info := by
  have hends : ∀ fuel, Checked.handleRequest rules fuel side info battle =
      (.ok (), battle.perform rules .endBattle) := by
    intro fuel
    rw [handleRequest_of_request hrequest]
    exact Checked.handleAction_forfeit hstate fuel
  refine ⟨fun fuel hfails => ?_, fun _ => hends, fun himproper => absurd ?_ himproper⟩
  · rw [hends] at hfails
    cases hfails
  · rw [hrequest]
    trivial

theorem swapPet_safeAt {slot : Slot} (hslot : slot ∈ battle.slots side) (fuel : Nat) :
    Checked.SafeAt (Checked.actionEffect rules fuel side (.swapPet slot.index.val)) battle := by
  rintro state ⟨rfl, -⟩
  cases hfind : (battle.slots side).find? fun other => other.index.val = slot.index.val with
  | none =>
    have hnone := List.find?_eq_none.mp hfind slot hslot
    simp at hnone
  | some found =>
    simp only [Checked.actionEffect, Bind.bind, Attempt.ask, hfind]
    exact Checked.safe_act (.setActivePet found) battle trivial

/-- `ActionUseTrap` asks for nothing, so that even the turn is not checked. -/
theorem safeRequest_trap_iff (hstate : battle.state = .beginning)
    (hrequest : info.request = some .useTrap) :
    SafeRequest rules abilities battle side info ↔
      Admissible abilities battle side (some .useTrap) := by
  have hhandled : ∀ fuel, Checked.handleRequest rules fuel side info battle =
      Checked.handleAccepted rules fuel side .useTrap battle := by
    intro fuel
    rw [handleRequest_of_request hrequest]
    exact Checked.handleAction_of_accepts hstate rfl fuel
  have himproper : ¬Proper abilities battle side info.request := by
    rw [hrequest]
    exact id
  constructor
  · intro hsafe
    have hstays := hsafe.proper himproper 0
    rw [hhandled] at hstays
    have hreturned : (Checked.handleAccepted rules 0 side .useTrap).returned battle =
        some battle := by
      rw [Attempt.returned, hstays]
    obtain ⟨mid, hmid, hchange⟩ := Checked.handleAccepted_returned hreturned
    cases Script.run_done hmid
    rcases hchange with hround | ⟨hself, hopen⟩
    · exact absurd hround (Nat.lt_irrefl _)
    · exact setMoved_eq_self_iff.mp ⟨hself.symm, hopen⟩
  · intro hdone
    have hsame : battle.perform rules (.setMoved side) = battle ∧
        ¬(battle.movedMask .pad0 && battle.movedMask .pad1) = true := setMoved_eq_self_iff.mpr hdone
    have hstays : ∀ fuel, Checked.handleRequest rules fuel side info battle = (.ok (), battle) :=
      fun fuel => (hhandled fuel).trans
        (Checked.handleAccepted_useTrap hsame.1 hsame.2 fuel)
    refine ⟨fun fuel hfails => ?_, fun hasked => ?_, fun _ => hstays⟩
    · rw [hstays] at hfails
      cases hfails
    · rw [hrequest] at hasked
      cases hasked

/-- For one request, the condition is exact. -/
theorem safeRequest_iff_admissible {abilities : Slot → List Nat} (hdata : rules.Coherent abilities)
    (hstate : battle.state = .beginning) (side : Side) (info : ActionInfo) :
    SafeRequest rules abilities battle side info ↔
      Admissible abilities battle side info.request := by
  cases hrequest : info.request with
  | none =>
    refine iff_of_true ⟨fun fuel hfails => ?_, fun hasked => ?_, fun _ fuel => ?_⟩ trivial
    · rw [Checked.handleRequest, hrequest] at hfails
      cases hfails
    · rw [hrequest] at hasked
      cases hasked
    · rw [Checked.handleRequest, hrequest]
      rfl
  | some action =>
    cases action with
    | forfeit => exact iff_of_true (safeRequest_forfeit hstate hrequest) fun _ => trivial
    | useTrap => exact safeRequest_trap_iff hstate hrequest
    | endBattle =>
      exact iff_of_true (safeRequest_of_rejects hrequest nofun nofun) nofun
    | useAbility abilityId =>
      constructor
      · intro hsafe haccepts
        exact proper_of_safeRequest hstate hrequest ((Bool.and_eq_true _ _).mp haccepts).1
          haccepts hsafe
      · intro hadmissible
        by_cases haccepts : battle.accepts side (.useAbility abilityId) = true
        · have hproper := hadmissible haccepts
          refine safeRequest_of_accepts hdata hstate hrequest haccepts hproper fun fuel => ?_
          have hknows := hdata.listed _ abilityId hproper.1
          exact (Checked.safe_castAbility hdata fuel side hknows).at battle
        · exact safeRequest_of_rejects hrequest nofun haccepts
    | swapPet index =>
      constructor
      · intro hsafe haccepts
        exact proper_of_safeRequest hstate hrequest haccepts haccepts hsafe
      · intro hadmissible
        by_cases haccepts : battle.accepts side (.swapPet index) = true
        · have hproper := hadmissible haccepts
          refine safeRequest_of_accepts hdata hstate hrequest haccepts hproper fun fuel => ?_
          obtain ⟨slot, hslot, rfl, -⟩ := hproper
          exact swapPet_safeAt hslot fuel
        · exact safeRequest_of_rejects hrequest nofun haccepts

/-- The client decides whether requests are safe: the handlers check whose turn it is, that the
ability is not 0, and no more.  A request that is handled returns just where the script of the
battle does, in the same battle. -/
theorem safeRequest_iff {abilities : Slot → List Nat} (hdata : rules.Coherent abilities)
    (hstate : battle.state = .beginning) (side : Side) (info : ActionInfo) :
    (SafeRequest rules abilities battle side info ↔
      Admissible abilities battle side info.request) ∧
    ∀ fuel action, info.request = some action →
      (Checked.handleRequest rules fuel side info).returned battle =
        (handleAction rules fuel side action).run (perform rules) battle := by
  refine ⟨safeRequest_iff_admissible hdata hstate side info, fun fuel action hrequest => ?_⟩
  rw [handleRequest_of_request hrequest]
  exact Checked.handleAction_follows fuel side action battle

def oneAbility : Rules :=
  { duelRules with
    ability := fun abilityId => if abilityId = 1 then some 0 else none }

theorem oneAbility_coherent : oneAbility.Coherent fun _ => [1] where
  listed _ abilityId hmem := by
    rw [List.mem_singleton] at hmem
    subst hmem
    exact ⟨Nat.one_ne_zero, rfl⟩
  triggered _ _ hturn := absurd hturn List.not_mem_nil

theorem safeRequest_oneAbility :
    SafeRequest oneAbility (fun _ => [1]) (initialBattle oneAbility duel) .pad1 ⟨1, 1⟩ :=
  (safeRequest_iff oneAbility_coherent rfl .pad1 ⟨1, 1⟩).1.mpr fun _ =>
    ⟨List.mem_singleton_self 1, rfl, rfl⟩

/-- Ability 2 is not in the store. -/
theorem not_always_safeRequest :
    ¬∀ (rules : Rules) (abilities : Slot → List Nat) (battle : Battle), rules.Coherent abilities →
      battle.state = .beginning → ∀ side info, SafeRequest rules abilities battle side info := by
  intro hall
  have hsafe := hall oneAbility (fun _ => [1]) (initialBattle oneAbility duel) oneAbility_coherent
    rfl .pad1 ⟨1, 2⟩
  exact hsafe.asserts 0 rfl

end Battle

end MopServer.BattlePets
