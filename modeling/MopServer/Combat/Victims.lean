import MopServer.Combat.ThreatManager

/-! # The choice of a victim

The list is not sorted whenever its order changes.  That makes no difference while the victim can be
attacked and nobody overtakes it.
-/

namespace MopServer.Combat

open MopServer.Foundation

variable {Threat : Type} [LinearOrder Threat]

/-- The reference is a first choice and can be attacked. -/
def View.Prefers (view : View) (guid : UInt64) : Prop :=
  view.secondChoice guid = false ∧ view.canCreatureAttack guid = true

/-- The reference draws the attack away from the victim: from afar it needs 130% of its threat, and
110% in melee range. -/
def Overtakes (rules : ThreatRules Threat) (view : View) (victim ref : HostileReference Threat) :
    Prop :=
  rules.pct130 victim.threat < ref.threat ∨
    rules.pct110 victim.threat < ref.threat ∧ view.isWithinMeleeRange ref.guid = true

instance (victim ref : HostileReference Threat) :
    Decidable (Overtakes rules view victim ref) := inferInstanceAs (Decidable (_ ∨ _))

/-- The creature keeps to its victim. -/
structure Holds (rules : ThreatRules Threat) (view : View) (victim : HostileReference Threat)
    (refs : List (HostileReference Threat)) : Prop where
  mem : victim ∈ refs
  prefers : view.Prefers victim.guid
  notOvertaken : ∀ ref ∈ refs, view.Prefers ref.guid → ref.guid ≠ victim.guid →
    ¬Overtakes rules view victim ref
  unique : ∀ ref ∈ refs, ref.guid = victim.guid → ref = victim

variable {rules : ThreatRules Threat} {view : View} {victim : HostileReference Threat}
  {refs : List (HostileReference Threat)}

/-! ## One cycle of the walk -/

section Cycles

variable {noPriorityTargetFound : Bool} {current : Option (HostileReference Threat)}
  {ref : HostileReference Threat} {rest : List (HostileReference Threat)}

/-- A second choice that is not the last one is passed over, and forgotten if it is the victim. -/
theorem walk_of_secondChoice (hsecond : view.secondChoice ref.guid = true) (hrest : rest ≠ []) :
    walk rules view false current (ref :: rest) =
      walk rules view false
        (if current.any (fun victim => victim.guid = ref.guid) then none else current) rest := by
  have hmore : rest.isEmpty = false := List.isEmpty_eq_false_iff.mpr hrest
  rw [walk.eq_def]
  simp only [hsecond, hmore, Bool.not_false, Bool.true_and, if_true, Bool.false_eq_true, if_false]

theorem walk_of_last_secondChoice (hsecond : view.secondChoice ref.guid = true) :
    walk rules view false current [ref] = .restart current := by
  rw [walk.eq_def]
  simp [hsecond]

variable (hchoice : (!noPriorityTargetFound && view.secondChoice ref.guid) = false)

include hchoice in
theorem walk_of_not_attackable (hattack : view.canCreatureAttack ref.guid = false) :
    walk rules view noPriorityTargetFound current (ref :: rest) =
      walk rules view noPriorityTargetFound current rest := by
  rw [walk.eq_def]
  simp [hchoice, hattack]

variable (hattack : view.canCreatureAttack ref.guid = true)

include hchoice hattack in
theorem walk_of_no_victim :
    walk rules view noPriorityTargetFound none (ref :: rest) = .found ref := by
  rw [walk.eq_def]
  simp [hchoice, hattack]

include hchoice hattack in
theorem walk_of_victim (hsame : victim.guid = ref.guid) :
    walk rules view noPriorityTargetFound (some victim) (ref :: rest) = .found ref := by
  rw [walk, hchoice, hattack]
  simp [hsame]

include hchoice hattack in
theorem walk_of_other (hne : victim.guid ≠ ref.guid) :
    walk rules view noPriorityTargetFound (some victim) (ref :: rest) =
      if ref.threat ≤ rules.pct110 victim.threat then
        if view.canCreatureAttack victim.guid = true then .found victim else .found ref
      else if Overtakes rules view victim ref then .found ref
      else walk rules view noPriorityTargetFound (some victim) rest := by
  have hdraws : (decide (rules.pct130 victim.threat < ref.threat) ||
      decide (rules.pct110 victim.threat < ref.threat) && view.isWithinMeleeRange ref.guid) =
        decide (Overtakes rules view victim ref) := by
    rw [Bool.eq_iff_iff, decide_eq_true_iff]
    simp [Overtakes]
  rw [walk, hchoice, hattack, hdraws]
  simp [hne]

end Cycles

variable (hholds : Holds rules view victim refs)

include hholds in
theorem Holds.walk : walk rules view false (some victim) refs = .found victim := by
  obtain ⟨hmem, hprefers, hovertaken, hunique⟩ := hholds
  induction refs with
  | nil => cases hmem
  | cons ref rest ih =>
    by_cases hsame : victim.guid = ref.guid
    · cases hunique ref List.mem_cons_self hsame.symm
      have hchoice : (!false && view.secondChoice victim.guid) = false := hprefers.1
      exact walk_of_victim hchoice hprefers.2 rfl
    -- As long as the victim is still to come, the walk goes on with it.
    have hlater : victim ∈ rest := by
      rcases List.mem_cons.mp hmem with rfl | hlater
      · exact absurd rfl hsame
      · exact hlater
    have hrest := ih hlater (fun other hother => hovertaken other (List.mem_cons_of_mem _ hother))
      fun other hother => hunique other (List.mem_cons_of_mem _ hother)
    cases hsecond : view.secondChoice ref.guid with
    | true =>
      rw [walk_of_secondChoice hsecond (List.ne_nil_of_mem hlater), Option.any_some,
        decide_eq_false hsame]
      exact hrest
    | false =>
      have hchoice : (!false && view.secondChoice ref.guid) = false := hsecond
      cases hattack : view.canCreatureAttack ref.guid with
      | false => rw [walk_of_not_attackable hchoice hattack, hrest]
      | true =>
        have hslower := hovertaken ref List.mem_cons_self ⟨hsecond, hattack⟩ (Ne.symm hsame)
        rw [walk_of_other hchoice hattack hsame, if_pos hprefers.2, if_neg hslower, hrest]
        split
        · rfl
        · rfl

include hholds in
/-- A held victim is chosen, in whatever order the list is. -/
theorem Holds.selectNextVictim : selectNextVictim rules view refs (some victim) = some victim := by
  rw [Combat.selectNextVictim, hholds.walk]

include hholds in
theorem Holds.perm {others : List (HostileReference Threat)} (hperm : others.Perm refs) :
    Holds rules view victim others where
  mem := hperm.mem_iff.mpr hholds.mem
  prefers := hholds.prefers
  notOvertaken ref href := hholds.notOvertaken ref (hperm.mem_iff.mp href)
  unique ref href := hholds.unique ref (hperm.mem_iff.mp href)

namespace ThreatManager

/-- The list is in the order that sorting gives it. -/
def Sorted (manager : ThreatManager Threat) : Prop :=
  manager.online.rows.Pairwise fun first second => second.threat ≤ first.threat

/-- The current victim can be attacked, is a first choice, and nobody else who is both overtakes it.
-/
def HoldsVictim (rules : ThreatRules Threat) (view : View) (manager : ThreatManager Threat) : Prop :=
  ∃ victim, manager.victim? = some victim ∧ view.Prefers victim.guid ∧
    ∀ ref ∈ manager.online, view.Prefers ref.guid → ref.guid ≠ victim.guid →
      ¬Overtakes rules view victim ref

/-- A creature that looks for a victim in a clean list finds it sorted, or keeps to its victim. -/
def Orderly (rules : ThreatRules Threat) (manager : ThreatManager Threat) : Event Threat → Prop
  | .getHostilTarget view =>
    manager.dirty = false → manager.Sorted ∨ manager.HoldsVictim rules view
  | _ => True

/-- A creature that looks for a victim finds the one that it would find in the sorted list. -/
def FreshVictim (rules : ThreatRules Threat) (manager : ThreatManager Threat) :
    Event Threat → Prop
  | .getHostilTarget view =>
    (manager.getHostilTarget rules view).currentVictim =
      (selectNextVictim rules view (manager.online.rearrange byThreat).rows
        manager.victim?).map HostileReference.guid
  | _ => True

variable {manager : ThreatManager Threat}

theorem rearrange_of_sorted (hsorted : manager.Sorted) :
    (manager.online.rearrange byThreat).rows = manager.online.rows :=
  List.Pairwise.insertionSort_eq hsorted

theorem sorted_of_length (hlength : manager.online.rows.length ≤ 1) : manager.Sorted := by
  unfold Sorted
  match manager.online.rows, hlength with
  | [], _ => exact List.Pairwise.nil
  | [ref], _ => exact List.pairwise_singleton _ _

theorem HoldsVictim.holds (hholds : manager.HoldsVictim rules view) :
    ∃ victim, manager.victim? = some victim ∧ Holds rules view victim manager.online.rows := by
  obtain ⟨victim, hvictim, hprefers, hovertaken⟩ := hholds
  obtain ⟨guid, -, hget⟩ := Option.bind_eq_some_iff.mp hvictim
  have hmem := (Table.get?_eq_some_iff.mp hget).1
  exact ⟨victim, hvictim, hmem, hprefers, hovertaken, fun ref href heq =>
    Table.eq_of_key_eq href hmem heq⟩

/-- What a look for a victim does with the list as it stands. -/
theorem getHostilTarget_currentVictim (rules : ThreatRules Threat) (view : View)
    (manager : ThreatManager Threat) :
    (manager.getHostilTarget rules view).currentVictim =
      (selectNextVictim rules view
        (if manager.dirty && 1 < manager.online.rows.length then
          (manager.online.rearrange byThreat).rows else manager.online.rows)
        manager.victim?).map HostileReference.guid := by
  unfold getHostilTarget updateContainer
  split
  · have hvictim : ({ manager with online := manager.online.rearrange byThreat, dirty := false } :
        ThreatManager Threat).victim? = manager.victim? := by
      unfold victim?
      exact congrArg _ (funext fun guid => Table.get?_rearrange _ _ guid)
    dsimp only
    rw [hvictim]
  · rfl

theorem freshVictim_of_orderly {event : Event Threat} (horderly : manager.Orderly rules event) :
    manager.FreshVictim rules event := by
  cases event with
  | getHostilTarget view =>
    refine (getHostilTarget_currentVictim rules view manager).trans ?_
    split
    · rfl
    next hclean =>
    have hcases : manager.Sorted ∨ manager.HoldsVictim rules view := by
      cases hdirty : manager.dirty with
      | false => exact horderly hdirty
      | true =>
        rw [hdirty, Bool.true_and, decide_eq_true_eq, Nat.not_lt] at hclean
        exact Or.inl (sorted_of_length hclean)
    rcases hcases with hsorted | hholds
    · rw [rearrange_of_sorted hsorted]
    · obtain ⟨victim, hvictim, hholds⟩ := hholds.holds
      have hsorted : selectNextVictim rules view (manager.online.rearrange byThreat).rows
          (some victim) = some victim :=
        (hholds.perm (byThreat.perm manager.online.rows)).selectNextVictim
      rw [hvictim, hholds.selectNextVictim, hsorted]
  | _ => trivial

variable [Zero Threat] [Add Threat] [Sub Threat] [Neg Threat]

/-- Whatever happens to a threat list, an orderly creature always finds the victim that it would find
in the sorted list. -/
theorem freshVictim_along (manager : ThreatManager Threat) (events : List (Event Threat))
    (horderly : Along (step rules) (Orderly rules) manager events) :
    Along (step rules) (FreshVictim rules) manager events :=
  along_of_invariant (step rules) (fun _ => True) (fun _ _ _ _ => trivial)
    (fun _ _ _ => freshVictim_of_orderly) manager events trivial horderly

def percents : ThreatRules Int where
  pct110 threat := 110 * threat / 100
  pct130 threat := 130 * threat / 100
  addPct threat percent := threat + threat * percent / 100

def everybody : View where
  canCreatureAttack _ := true
  secondChoice _ := false
  isWithinMeleeRange _ := false

def unhated : ThreatManager Int where
  online := .empty
  offline := .empty
  dirty := false
  currentVictim := none

/-- The victim is kept although it is second in the list, and is kept again after it has overtaken
the first one in the clean list. -/
theorem freshVictim_along_tank :
    Along (step percents) (FreshVictim percents) unhated
      [.addThreat 1 10 true false, .getHostilTarget everybody, .addThreat 2 11 true false,
        .getHostilTarget everybody, .addThreat 1 5 true false, .getHostilTarget everybody] := by
  refine freshVictim_along unhated _ ⟨trivial, fun hclean => ?_, trivial, fun hclean => ?_, trivial,
    fun _ => Or.inr ⟨⟨1, 15, 0⟩, rfl, ⟨rfl, rfl⟩, ?_⟩, trivial⟩
  · cases hclean
  · cases hclean
  · refine List.forall_mem_cons.mpr ⟨fun _ _ => ?_, List.forall_mem_singleton.mpr ?_⟩
    · rintro (hfar | ⟨-, hmelee⟩)
      · exact absurd hfar (by decide)
      · cases hmelee
    · exact fun _ hne => absurd rfl hne

def nobody : View := { everybody with canCreatureAttack _ := false }

/-- A raider is out of reach when the creature looks for a victim and finds nobody.  When he is back
the creature turns to the other one, although he has ten times the threat. -/
theorem not_always_freshVictim :
    ¬∀ (rules : ThreatRules Int) (events : List (Event Int)),
      Along (step rules) (FreshVictim rules) unhated events := by
  intro hfresh
  obtain ⟨-, -, -, -, -, hvictim, -⟩ := hfresh percents
    [.addThreat 1 10 true false, .addThreat 2 100 true false, .setOnlineOfflineState 2 false,
      .getHostilTarget nobody, .setOnlineOfflineState 2 true, .getHostilTarget everybody]
  have hsame : some (1 : UInt64) = some 2 := hvictim
  exact absurd hsame (by decide)

end ThreatManager

end MopServer.Combat
