import Mathlib.Algebra.Order.Field.Rat
import Mathlib.Tactic.Linarith
import MopServer.Combat.Victims

/-! # When the victim is switched

In a sorted list the victim gives way to the first reference that draws the attack away from it.  A
creature may come away with nobody although somebody can be attacked.
-/

namespace MopServer.Combat

open MopServer.Foundation

variable {Threat : Type} [LinearOrder Threat] {rules : ThreatRules Threat} {view : View}

/-! ## The reference that draws the attack -/

variable {victim : HostileReference Threat} {refs : List (HostileReference Threat)}

/-- A first choice that can be attacked and overtakes the victim. -/
def Draws (rules : ThreatRules Threat) (view : View) (victim ref : HostileReference Threat) : Prop :=
  view.Prefers ref.guid ∧ Overtakes rules view victim ref

instance (victim ref : HostileReference Threat) : Decidable (Draws rules view victim ref) :=
  inferInstanceAs (Decidable ((_ ∧ _) ∧ (_ ∨ _)))

variable (hrules : rules.pct110 victim.threat ≤ rules.pct130 victim.threat)

include hrules in
theorem not_draws_of_le {ref : HostileReference Threat}
    (hthreat : ref.threat ≤ rules.pct110 victim.threat) : ¬ Draws rules view victim ref := by
  rintro ⟨-, hfar | ⟨hnear, -⟩⟩
  · exact absurd (hthreat.trans hrules) (not_le.mpr hfar)
  · exact absurd hthreat (not_le.mpr hnear)

include hrules in
theorem find?_draws_eq_none (hthreat : ∀ ref ∈ refs, ref.threat ≤ rules.pct110 victim.threat) :
    refs.find? (fun ref => Draws rules view victim ref) = none := by
  rw [List.find?_eq_none]
  intro ref href
  simpa using not_draws_of_le hrules (hthreat ref href)

/-- The walk goes on over those before the victim that do not draw the attack. -/
theorem walk_eq_find? (hvictim : view.Prefers victim.guid)
    (hbase : victim.threat ≤ rules.pct110 victim.threat)
    (hrules : rules.pct110 victim.threat ≤ rules.pct130 victim.threat) (hmem : victim ∈ refs)
    (hunique : ∀ ref ∈ refs, ref.guid = victim.guid → ref = victim)
    (hsorted : refs.Pairwise fun first second => second.threat ≤ first.threat) :
    walk rules view false (some victim) refs =
      .found ((refs.find? fun ref => Draws rules view victim ref).getD victim) := by
  induction refs with
  | nil => cases hmem
  | cons ref rest ih =>
    obtain ⟨hfirst, hrest⟩ := List.pairwise_cons.mp hsorted
    by_cases hsame : victim.guid = ref.guid
    · -- The victim itself is met, and nobody behind it has more threat.
      cases hunique ref List.mem_cons_self hsame.symm
      have hchoice : (!false && view.secondChoice victim.guid) = false := hvictim.1
      have hnone : (victim :: rest).find? (fun ref => Draws rules view victim ref) = none := by
        apply find?_draws_eq_none hrules
        intro other hother
        rcases List.mem_cons.mp hother with rfl | hother
        · exact hbase
        · exact (hfirst other hother).trans hbase
      rw [walk_of_victim hchoice hvictim.2 rfl, hnone, Option.getD_none]
    have hlater : victim ∈ rest := by
      rcases List.mem_cons.mp hmem with rfl | hlater
      · exact absurd rfl hsame
      · exact hlater
    have hrest := ih hlater (fun other hother => hunique other (List.mem_cons_of_mem _ hother)) hrest
    cases hsecond : view.secondChoice ref.guid with
    | true =>
      have hdraws : ¬ Draws rules view victim ref := by
        intro hdraws
        rw [hdraws.1.1] at hsecond
        cases hsecond
      rw [walk_of_secondChoice hsecond (List.ne_nil_of_mem hlater), Option.any_some,
        decide_eq_false hsame, List.find?_cons_of_neg (by simpa using hdraws)]
      exact hrest
    | false =>
      have hchoice : (!false && view.secondChoice ref.guid) = false := hsecond
      cases hattack : view.canCreatureAttack ref.guid with
      | false =>
        have hdraws : ¬ Draws rules view victim ref := by
          intro hdraws
          rw [hdraws.1.2] at hattack
          cases hattack
        rw [walk_of_not_attackable hchoice hattack, hrest,
          List.find?_cons_of_neg (by simpa using hdraws)]
      | true =>
        rw [walk_of_other hchoice hattack hsame, if_pos hvictim.2]
        split
        next hlower =>
          -- From here on everybody has at most 110% of the threat.
          have hnone : (ref :: rest).find? (fun ref => Draws rules view victim ref) = none := by
            apply find?_draws_eq_none hrules
            intro other hother
            rcases List.mem_cons.mp hother with rfl | hother
            · exact hlower
            · exact (hfirst other hother).trans hlower
          rw [hnone, Option.getD_none]
        next hlower =>
          split
          next hovertakes =>
            have hdraws : Draws rules view victim ref := ⟨⟨hsecond, hattack⟩, hovertakes⟩
            rw [List.find?_cons_of_pos (by simpa using hdraws), Option.getD_some]
          next hovertakes =>
            have hdraws : ¬ Draws rules view victim ref := fun hdraws => hovertakes hdraws.2
            rw [hrest, List.find?_cons_of_neg (by simpa using hdraws)]

/-! ## Who is found -/

/-- The reference is ahead of the victim, and not far enough to draw the attack. -/
def Hesitates (rules : ThreatRules Threat) (view : View) (victim ref : HostileReference Threat) :
    Prop :=
  victim.guid ≠ ref.guid ∧ rules.pct110 victim.threat < ref.threat ∧
    ¬ Overtakes rules view victim ref

/-- The reference can be attacked, and the creature does not hesitate to switch to it. -/
def Accepts (rules : ThreatRules Threat) (view : View)
    (current : Option (HostileReference Threat)) (ref : HostileReference Threat) : Prop :=
  view.canCreatureAttack ref.guid = true ∧
    ∀ victim, current = some victim → ¬ Hesitates rules view victim ref

/-- The victim is forgotten if it is among the references passed over as second choices. -/
def remembered (view : View) (noPriorityTargetFound : Bool)
    (current : Option (HostileReference Threat)) (passed : List (HostileReference Threat)) :
    Option (HostileReference Threat) :=
  if passed.any fun ref => !noPriorityTargetFound && view.secondChoice ref.guid &&
    current.any fun victim => victim.guid = ref.guid then none else current

/-- The walk ends with a reference. -/
def Finds : Walk Threat → Prop
  | .found _ => True
  | _ => False

/-- Some reference that is considered is accepted with what is remembered before it. -/
def Considers (rules : ThreatRules Threat) (view : View) (noPriorityTargetFound : Bool)
    (current : Option (HostileReference Threat)) (refs : List (HostileReference Threat)) : Prop :=
  ∃ before ref after, refs = before ++ ref :: after ∧
    (!noPriorityTargetFound && view.secondChoice ref.guid) = false ∧
    Accepts rules view (remembered view noPriorityTargetFound current before) ref

section Walks

variable {noPriorityTargetFound : Bool} {current : Option (HostileReference Threat)}
  {ref : HostileReference Threat} {refs rest : List (HostileReference Threat)}

omit [LinearOrder Threat] in
theorem remembered_nil : remembered view noPriorityTargetFound current [] = current := by
  simp [remembered]

omit [LinearOrder Threat] in
theorem remembered_none (passed : List (HostileReference Threat)) :
    remembered view noPriorityTargetFound none passed = none := by
  simp [remembered]

omit [LinearOrder Threat] in
theorem remembered_cons :
    remembered view noPriorityTargetFound current (ref :: rest) =
      remembered view noPriorityTargetFound
        (if (!noPriorityTargetFound && view.secondChoice ref.guid) &&
          current.any (fun victim => victim.guid = ref.guid) then none else current) rest := by
  cases hforgotten : (!noPriorityTargetFound && view.secondChoice ref.guid) &&
      current.any (fun victim => victim.guid = ref.guid) with
  | true =>
    rw [if_pos rfl, remembered_none, remembered, List.any_cons, hforgotten]
    rfl
  | false =>
    rw [if_neg Bool.false_ne_true, remembered, List.any_cons, hforgotten, Bool.false_or]
    rfl

theorem considers_nil : ¬ Considers rules view noPriorityTargetFound current [] := by
  rintro ⟨before, ref, after, hrefs, -⟩
  simp at hrefs

/-- Either the first reference is accepted, or one behind it with what is remembered then. -/
theorem considers_cons_iff :
    Considers rules view noPriorityTargetFound current (ref :: rest) ↔
      ((!noPriorityTargetFound && view.secondChoice ref.guid) = false ∧
        Accepts rules view current ref) ∨
      Considers rules view noPriorityTargetFound
        (if (!noPriorityTargetFound && view.secondChoice ref.guid) &&
          current.any (fun victim => victim.guid = ref.guid) then none else current) rest := by
  constructor
  · rintro ⟨before, other, after, hrefs, hchoice, haccepts⟩
    cases before with
    | nil =>
      cases hrefs
      rw [remembered_nil] at haccepts
      exact .inl ⟨hchoice, haccepts⟩
    | cons first before =>
      cases hrefs
      rw [remembered_cons] at haccepts
      exact .inr ⟨before, other, after, rfl, hchoice, haccepts⟩
  · rintro (⟨hchoice, haccepts⟩ | ⟨before, other, after, rfl, hchoice, haccepts⟩)
    · refine ⟨[], ref, rest, rfl, hchoice, ?_⟩
      rwa [remembered_nil]
    · refine ⟨ref :: before, other, after, rfl, hchoice, ?_⟩
      rwa [remembered_cons]

variable (rules current rest) in
/-- The walk ends at a reference that is considered and accepted, and goes on behind another one. -/
theorem walk_of_considered
    (hchoice : (!noPriorityTargetFound && view.secondChoice ref.guid) = false) :
    (Accepts rules view current ref ∧ ∃ found,
      walk rules view noPriorityTargetFound current (ref :: rest) = .found found ∧
        view.canCreatureAttack found.guid = true) ∨
    (¬ Accepts rules view current ref ∧
      walk rules view noPriorityTargetFound current (ref :: rest) =
        walk rules view noPriorityTargetFound current rest) := by
  cases hattack : view.canCreatureAttack ref.guid with
  | false =>
    refine .inr ⟨fun haccepts => ?_, walk_of_not_attackable hchoice hattack⟩
    rw [haccepts.1] at hattack
    cases hattack
  | true =>
    cases current with
    | none =>
      refine .inl ⟨⟨hattack, fun _ hnone => ?_⟩, ref, walk_of_no_victim hchoice hattack, hattack⟩
      cases hnone
    | some victim =>
      have haccepts : Accepts rules view (some victim) ref ↔ ¬ Hesitates rules view victim ref := by
        simp [Accepts, hattack]
      rw [haccepts]
      by_cases hsame : victim.guid = ref.guid
      · exact .inl ⟨fun hhesitates => hhesitates.1 hsame, ref,
          walk_of_victim hchoice hattack hsame, hattack⟩
      · rw [walk_of_other hchoice hattack hsame]
        split
        next hlower =>
          left
          use fun hhesitates => not_le.mpr hhesitates.2.1 hlower
          split
          next hvictim => exact ⟨victim, rfl, hvictim⟩
          · exact ⟨ref, rfl, hattack⟩
        next hlower =>
          split
          next hovertakes =>
            exact .inl ⟨fun hhesitates => hhesitates.2.2 hovertakes, ref, rfl, hattack⟩
          next hovertakes =>
            exact .inr ⟨not_not.mpr ⟨hsame, not_le.mp hlower, hovertakes⟩, rfl⟩

/-- A walk ends with a reference exactly if it considers one that is accepted. -/
theorem finds_walk_iff :
    Finds (walk rules view noPriorityTargetFound current refs) ↔
      Considers rules view noPriorityTargetFound current refs := by
  induction refs generalizing current with
  | nil => exact iff_of_false id considers_nil
  | cons ref rest ih =>
    rw [considers_cons_iff]
    cases hchoice : !noPriorityTargetFound && view.secondChoice ref.guid with
    | true =>
      obtain ⟨hpass, hsecond⟩ := Bool.and_eq_true_iff.mp hchoice
      obtain rfl : noPriorityTargetFound = false := Bool.not_eq_true' _ ▸ hpass
      simp only [Bool.true_and, Bool.true_eq_false, false_and, false_or]
      by_cases hrest : rest = []
      · subst hrest
        rw [walk_of_last_secondChoice hsecond]
        exact iff_of_false id considers_nil
      · rw [walk_of_secondChoice hsecond hrest, ih]
    | false =>
      simp only [Bool.false_and, Bool.false_eq_true, if_false, true_and]
      rcases walk_of_considered rules current rest hchoice with
        ⟨haccepts, found, hfound, -⟩ | ⟨hnot, hrest⟩
      · rw [hfound]
        exact iff_of_true trivial (.inl haccepts)
      · rw [hrest, ih]
        exact (or_iff_right hnot).symm

theorem canCreatureAttack_of_walk {found : HostileReference Threat}
    (hfound : walk rules view noPriorityTargetFound current refs = .found found) :
    view.canCreatureAttack found.guid = true := by
  induction refs generalizing current with
  | nil => cases hfound
  | cons ref rest ih =>
    cases hchoice : !noPriorityTargetFound && view.secondChoice ref.guid with
    | true =>
      obtain ⟨hpass, hsecond⟩ := Bool.and_eq_true_iff.mp hchoice
      obtain rfl : noPriorityTargetFound = false := Bool.not_eq_true' _ ▸ hpass
      by_cases hrest : rest = []
      · subst hrest
        rw [walk_of_last_secondChoice hsecond] at hfound
        cases hfound
      · rw [walk_of_secondChoice hsecond hrest] at hfound
        exact ih hfound
    | false =>
      rcases walk_of_considered rules current rest hchoice with
        ⟨-, other, hother, hattack⟩ | ⟨-, hrest⟩
      · rw [hother] at hfound
        cases hfound
        exact hattack
      · rw [hrest] at hfound
        exact ih hfound

/-! ## The second walk -/

/-- The walk over everybody does not start again. -/
theorem walk_true_ne_restart (victim : Option (HostileReference Threat)) :
    walk rules view true current refs ≠ .restart victim := by
  induction refs generalizing current with
  | nil => nofun
  | cons ref rest ih =>
    have hchoice : (!true && view.secondChoice ref.guid) = false := rfl
    rcases walk_of_considered rules current rest hchoice with
      ⟨-, found, hfound, -⟩ | ⟨-, hrest⟩
    · rw [hfound]
      nofun
    · rw [hrest]
      exact ih

def lastIsSecondChoice (view : View) (refs : List (HostileReference Threat)) : Bool :=
  refs.getLast?.any fun ref => view.secondChoice ref.guid

omit [LinearOrder Threat] in
theorem lastIsSecondChoice_cons (hrest : rest ≠ []) :
    lastIsSecondChoice view (ref :: rest) = lastIsSecondChoice view rest := by
  cases rest with
  | nil => exact absurd rfl hrest
  | cons second others => rfl

theorem walk_of_not_finds (hfinds : ¬ Finds (walk rules view false current refs)) :
    walk rules view false current refs =
      if lastIsSecondChoice view refs then .restart (remembered view false current refs.dropLast)
      else .nobody := by
  induction refs generalizing current with
  | nil => rfl
  | cons ref rest ih =>
    by_cases hrest : rest = []
    · subst hrest
      have hlast : lastIsSecondChoice view [ref] = view.secondChoice ref.guid := rfl
      rw [hlast, List.dropLast_singleton, remembered_nil]
      cases hsecond : view.secondChoice ref.guid with
      | true => rw [walk_of_last_secondChoice hsecond, if_pos rfl]
      | false =>
        have hchoice : (!false && view.secondChoice ref.guid) = false := hsecond
        rcases walk_of_considered rules current [] hchoice with
          ⟨-, found, hfound, -⟩ | ⟨-, hnobody⟩
        · rw [hfound] at hfinds
          exact absurd trivial hfinds
        · rw [hnobody]
          rfl
    · rw [lastIsSecondChoice_cons hrest, List.dropLast_cons_of_ne_nil hrest, remembered_cons]
      cases hsecond : view.secondChoice ref.guid with
      | true =>
        rw [walk_of_secondChoice hsecond hrest] at hfinds ⊢
        exact ih hfinds
      | false =>
        have hchoice : (!false && view.secondChoice ref.guid) = false := hsecond
        rcases walk_of_considered rules current rest hchoice with
          ⟨-, found, hfound, -⟩ | ⟨-, hnext⟩
        · rw [hfound] at hfinds
          exact absurd trivial hfinds
        · rw [hnext] at hfinds ⊢
          exact ih hfinds

/-! ## Whether somebody is found -/

theorem considers_true_iff :
    Considers rules view true current refs ↔ ∃ ref ∈ refs, Accepts rules view current ref := by
  have hcurrent (before : List (HostileReference Threat)) :
      remembered view true current before = current := by
    simp [remembered]
  constructor
  · rintro ⟨before, ref, after, rfl, -, haccepts⟩
    rw [hcurrent] at haccepts
    exact ⟨ref, by simp, haccepts⟩
  · rintro ⟨ref, href, haccepts⟩
    obtain ⟨before, after, rfl⟩ := List.append_of_mem href
    refine ⟨before, ref, after, rfl, rfl, ?_⟩
    rwa [hcurrent]

variable (rules view current refs) in
/-- Somebody is accepted among the first choices, or among all if the last one is a second choice. -/
def FindsSomebody : Prop :=
  Considers rules view false current refs ∨
    (lastIsSecondChoice view refs = true ∧
      ∃ ref ∈ refs, Accepts rules view (remembered view false current refs.dropLast) ref)

theorem selectNextVictim_ne_none_iff :
    selectNextVictim rules view refs current ≠ none ↔ FindsSomebody rules view current refs := by
  rw [FindsSomebody, ← finds_walk_iff, ← considers_true_iff, ← finds_walk_iff, selectNextVictim]
  by_cases hfinds : Finds (walk rules view false current refs)
  · cases hwalk : walk rules view false current refs with
    | found ref => exact iff_of_true (Option.some_ne_none ref) (.inl trivial)
    | restart _ | nobody =>
      rw [hwalk] at hfinds
      exact hfinds.elim
  · rw [or_iff_right hfinds, walk_of_not_finds hfinds]
    cases lastIsSecondChoice view refs with
    | false => simp
    | true =>
      simp only [if_true, true_and]
      generalize remembered view false current refs.dropLast = victim
      cases hwalk : walk rules view true victim refs with
      | found ref => exact iff_of_true (Option.some_ne_none ref) trivial
      | restart other => exact absurd hwalk (walk_true_ne_restart other)
      | nobody => exact iff_of_false (not_not.mpr rfl) id

theorem canCreatureAttack_of_selectNextVictim
    (hselect : selectNextVictim rules view refs current = some ref) :
    view.canCreatureAttack ref.guid = true := by
  unfold selectNextVictim at hselect
  cases hwalk : walk rules view false current refs with
  | found found =>
    rw [hwalk] at hselect
    cases hselect
    exact canCreatureAttack_of_walk hwalk
  | nobody =>
    rw [hwalk] at hselect
    cases hselect
  | restart victim =>
    rw [hwalk] at hselect
    dsimp only at hselect
    cases hagain : walk rules view true victim refs with
    | found found =>
      rw [hagain] at hselect
      cases hselect
      exact canCreatureAttack_of_walk hagain
    | nobody | restart _ =>
      rw [hagain] at hselect
      cases hselect

end Walks

/-! ## Exact threats -/

def rationals : ThreatRules ℚ where
  pct110 threat := 11 / 10 * threat
  pct130 threat := 13 / 10 * threat
  addPct threat percent := threat + threat * percent / 100

/-- A victim that can be attacked and is a first choice gives way to the first reference that draws
the attack.  The second walk ends, and whoever is found can be attacked. -/
theorem selectNextVictim_eq_find? (view : View) :
    (∀ (refs : Table (HostileReference ℚ)) (victim : HostileReference ℚ),
      refs.rows.Pairwise (fun first second => second.threat ≤ first.threat) →
      (∀ ref ∈ refs, 0 ≤ ref.threat) → victim ∈ refs → view.Prefers victim.guid →
      selectNextVictim rationals view refs.rows (some victim) =
        some ((refs.rows.find? fun ref => Draws rationals view victim ref).getD victim)) ∧
    (∀ (refs : List (HostileReference ℚ)) (current : Option (HostileReference ℚ)),
      (∀ victim, walk rationals view true current refs ≠ .restart victim) ∧
      ∀ ref, selectNextVictim rationals view refs current = some ref →
        view.canCreatureAttack ref.guid = true) := by
  constructor
  · intro refs victim hsorted hpositive hvictim hprefers
    have hthreat := hpositive victim hvictim
    have hbase : victim.threat ≤ rationals.pct110 victim.threat := by
      simp only [rationals]
      linarith
    have hrules : rationals.pct110 victim.threat ≤ rationals.pct130 victim.threat := by
      simp only [rationals]
      linarith
    rw [selectNextVictim, walk_eq_find? hprefers hbase hrules hvictim
      (fun ref href heq => Table.eq_of_key_eq href hvictim heq) hsorted]
  · exact fun refs current => ⟨walk_true_ne_restart,
      fun ref => canCreatureAttack_of_selectNextVictim⟩

/-- The tank keeps the creature although somebody comes close to him, and loses it to a mage. -/
theorem selectNextVictim_eq_find?_tank :
    (selectNextVictim rationals ThreatManager.everybody [⟨3, 140, 0⟩, ⟨2, 120, 0⟩, ⟨1, 100, 0⟩]
      (some ⟨1, 100, 0⟩)).map HostileReference.guid = some 3 := by
  have hswitch := (selectNextVictim_eq_find? ThreatManager.everybody).1
    ⟨[⟨3, 140, 0⟩, ⟨2, 120, 0⟩, ⟨1, 100, 0⟩], by decide⟩ ⟨1, 100, 0⟩ (by decide +kernel)
    (by decide +kernel) (by simp [Table.mem_def]) ⟨rfl, rfl⟩
  rw [hswitch]
  decide +kernel

/-! ## Nobody, although somebody can be attacked -/

/-- Nobody is selected only if nobody can be attacked, exactly if whenever somebody can be attacked
somebody is found. -/
theorem selectNextVictim_null_iff (rules : ThreatRules Threat) (view : View)
    (refs : List (HostileReference Threat)) (current : Option (HostileReference Threat)) :
    (selectNextVictim rules view refs current = none →
        ∀ ref ∈ refs, view.canCreatureAttack ref.guid = false) ↔
      ((∃ ref ∈ refs, view.canCreatureAttack ref.guid = true) →
        FindsSomebody rules view current refs) := by
  rw [← selectNextVictim_ne_none_iff]
  constructor
  · rintro hnull ⟨ref, href, hattack⟩ hnone
    rw [hnull hnone ref href] at hattack
    cases hattack
  · intro hfinds hnone ref href
    rw [← Bool.not_eq_true]
    exact fun hattack => hfinds ⟨ref, href, hattack⟩ hnone

/-- The victim cannot be attacked, and the other one has between 110% and 130% of its threat. -/
theorem nobody_beside_lost_victim :
    selectNextVictim rationals { ThreatManager.everybody with canCreatureAttack := (· = 2) }
      [⟨2, 120, 0⟩, ⟨1, 100, 0⟩] (some ⟨1, 100, 0⟩) = none := by
  apply Option.isNone_iff_eq_none.mp
  decide +kernel

theorem nobody_beside_secondChoice :
    selectNextVictim rationals
      { ThreatManager.everybody with canCreatureAttack := (· = 2), secondChoice := (· = 2) }
      [⟨2, 120, 0⟩, ⟨1, 100, 0⟩] none = none := by
  apply Option.isNone_iff_eq_none.mp
  decide +kernel

/-- Nobody is selected although somebody can be attacked, with a victim and without one. -/
theorem not_selectNextVictim_null :
    ¬ (∀ (view : View) (refs : Table (HostileReference ℚ)) (victim : HostileReference ℚ),
        refs.rows.Pairwise (fun first second => second.threat ≤ first.threat) → victim ∈ refs →
        selectNextVictim rationals view refs.rows (some victim) = none →
        ∀ ref ∈ refs, view.canCreatureAttack ref.guid = false) ∧
      ¬ ∀ (view : View) (refs : Table (HostileReference ℚ)),
        refs.rows.Pairwise (fun first second => second.threat ≤ first.threat) →
        selectNextVictim rationals view refs.rows none = none →
        ∀ ref ∈ refs, view.canCreatureAttack ref.guid = false := by
  constructor
  · intro hnull
    have hattack := hnull _ ⟨[⟨2, 120, 0⟩, ⟨1, 100, 0⟩], by decide⟩ ⟨1, 100, 0⟩
      (by decide +kernel) (by simp [Table.mem_def]) nobody_beside_lost_victim ⟨2, 120, 0⟩
      List.mem_cons_self
    cases hattack
  · intro hnull
    have hattack := hnull _ ⟨[⟨2, 120, 0⟩, ⟨1, 100, 0⟩], by decide⟩ (by decide +kernel)
      nobody_beside_secondChoice ⟨2, 120, 0⟩ List.mem_cons_self
    cases hattack

end MopServer.Combat
