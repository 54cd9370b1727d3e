import MopServer.Groups.RollAccounting

/-! # The roll a vote is for

A client names the looted object and the slot of the item; the roll is looked up by the slot
alone.  The vote is entered where it belongs as long as the first roll for the slot is one
for the object, or neither of the two rolls would take the vote.
-/

namespace MopServer.Groups

open MopServer.Foundation

def Rolls.rollOf (state : Rolls) (looted : UInt64) (slot : UInt8) : Option Roll :=
  state.rolls.rows.find? fun roll =>
    (roll.itemSlot = slot && roll.isValid) && roll.lootedGuid = looted

/-- A vote that names an object and a slot is entered in the roll for that slot of that object,
which may be decided by it, and all other rolls stay as they are. -/
structure Addressed (env : Environment) (state after : Rolls) (guid looted : UInt64)
    (slot choice : UInt8) : Prop where
  recorded : ∀ target ballot vote, state.rollOf looted slot = some target →
    Counts env target guid ballot → choiceVote choice = some vote →
      after.rolls.get? target.itemGuid = some (target.recordVote guid vote) ∨
      (after.rolls.get? target.itemGuid = none ∧
        ∃ decision ∈ after.decided, decision.roll = target.recordVote guid vote)
  others : ∀ roll ∈ state.rolls, state.rollOf looted slot ≠ some roll →
    after.rolls.get? roll.itemGuid = some roll
  absent : ∀ itemGuid, state.rolls.get? itemGuid = none → after.rolls.get? itemGuid = none

variable (env : Environment)

/-- A roll takes a vote: it is entered in it. -/
def Takes (roll : Roll) (guid : UInt64) (choice : UInt8) : Prop :=
  (∃ ballot, Counts env roll guid ballot) ∧ (choiceVote choice).isSome

/-- A request with a vote touches a roll: it enters the vote in it or decides it. -/
def Touches (roll : Roll) (guid : UInt64) (choice : UInt8) : Prop :=
  (∃ ballot, Counts env roll guid ballot) ∧ ((choiceVote choice).isSome ∨ roll.isComplete = true)

/-- The first roll for the slot is for the object; otherwise it is not touched, and the roll
for the object does not take the vote. -/
def Unambiguous (state : Rolls) (guid looted : UInt64) (slot choice : UInt8) : Prop :=
  ∀ first, state.getRoll slot = some first → first.lootedGuid ≠ looted →
    ¬ Touches env first guid choice ∧
      ∀ target, state.rollOf looted slot = some target → ¬ Takes env target guid choice

section

variable {env : Environment} {state : Rolls} {roll first : Roll} {guid looted : UInt64}
  {slot choice : UInt8}

theorem rollOf_eq_of_getRoll (hfirst : state.getRoll slot = some first)
    (hlooted : first.lootedGuid = looted) : state.rollOf looted slot = some first := by
  obtain ⟨hslot, before, after, hrows, hbefore⟩ := List.find?_eq_some_iff_append.mp hfirst
  refine List.find?_eq_some_iff_append.mpr ⟨?_, before, after, hrows, ?_⟩
  · rw [hslot, hlooted]
    simp
  · intro roll hroll
    have hnot := hbefore roll hroll
    simp only [Bool.not_eq_true'] at hnot
    rw [hnot]
    rfl

theorem lootedGuid_of_rollOf (htarget : state.rollOf looted slot = some roll) :
    roll ∈ state.rolls ∧ roll.lootedGuid = looted := by
  have hpred := List.find?_some htarget
  simp only [Bool.and_eq_true, decide_eq_true_eq] at hpred
  exact ⟨List.mem_of_find?_eq_some htarget, hpred.2⟩

theorem rollOf_eq_none (hnone : state.getRoll slot = none) : state.rollOf looted slot = none := by
  refine List.find?_eq_none.mpr fun roll hroll => ?_
  have hnot := List.find?_eq_none.mp hnone roll hroll
  simp only [Bool.not_eq_true] at hnot
  rw [hnot, Bool.false_and]
  exact Bool.false_ne_true

theorem add_one_ne (n : UInt8) : n + 1 ≠ n := by
  intro heq
  have hone : (1 : UInt8) = 0 := add_eq_left.mp heq
  exact absurd hone (by decide)

theorem recordVote_ne {vote : RollVote} (hchoice : choiceVote choice = some vote) (roll : Roll)
    (guid : UInt64) : roll.recordVote guid vote ≠ roll := by
  obtain ⟨hvalid, hcast⟩ := choiceVote_valid hchoice
  obtain ⟨hpass, hneed, hgreed, -⟩ := recordVote_totals roll guid vote
  intro heq
  rw [heq] at hpass hneed hgreed
  cases vote with
  | pass => exact add_one_ne _ hpass.symm
  | need => exact add_one_ne _ hneed.symm
  | greed | disenchant => exact add_one_ne _ hgreed.symm
  | notEmitedYet => exact hcast rfl
  | notValid => exact hvalid rfl

theorem get?_voteIn {ballot : Ballot} (hroll : roll ∈ state.rolls)
    (hcounts : Counts env roll guid ballot) (draws : List UInt8) (choice : UInt8) (itemGuid : Nat) :
    (voteIn env draws state roll guid choice).rolls.get? itemGuid =
      if itemGuid = roll.itemGuid then
        let voted := ((choiceVote choice).map (roll.recordVote guid)).getD roll
        if voted.isComplete then none else some voted
      else state.rolls.get? itemGuid := by
  rw [voteIn_eq_of_counts hcounts]
  have hid := itemGuid_voted roll guid choice
  generalize ((choiceVote choice).map (roll.recordVote guid)).getD roll = voted at hid ⊢
  by_cases hcomplete : voted.isComplete = true
  · simp only [hcomplete, if_true]
    by_cases hsame : itemGuid = roll.itemGuid
    · rw [if_pos hsame]
      exact Table.get?_eq_none_iff.mpr fun later hlater heq =>
        (mem_countTheRoll.mp hlater).2 (heq.trans (hsame.trans hid.symm))
    · have hne : itemGuid ≠ voted.itemGuid := by rwa [hid]
      rw [if_neg hsame]
      refine (Table.get?_erase_of_ne _ hne).trans ?_
      rw [get?_setRoll, if_neg hne]
  · simp only [hcomplete, Bool.false_eq_true, if_false]
    rw [get?_setRoll, hid]
    by_cases hsame : itemGuid = roll.itemGuid
    · rw [if_pos hsame, if_pos hsame, hsame, get?_roll hroll, Option.map_some]
    · rw [if_neg hsame, if_neg hsame]

theorem get?_ne_of_touches (hroll : roll ∈ state.rolls) (htouches : Touches env roll guid choice)
    (draws : List UInt8) :
    (voteIn env draws state roll guid choice).rolls.get? roll.itemGuid ≠ some roll := by
  obtain ⟨⟨ballot, hcounts⟩, htouched⟩ := htouches
  rw [get?_voteIn hroll hcounts, if_pos rfl]
  cases hchoice : choiceVote choice with
  | none =>
    rw [hchoice] at htouched
    have hcomplete : roll.isComplete = true := by simpa using htouched
    simp only [Option.map_none, Option.getD_none, hcomplete, if_true]
    exact fun hsome => absurd hsome (by simp)
  | some vote =>
    simp only [Option.map_some, Option.getD_some]
    split
    · exact fun hsome => absurd hsome (by simp)
    · exact fun hsome => recordVote_ne hchoice roll guid (Option.some.inj hsome)

theorem get?_eq_of_not_touches (hroll : roll ∈ state.rolls)
    (htouches : ¬ Touches env roll guid choice) (draws : List UInt8) (itemGuid : Nat) :
    (voteIn env draws state roll guid choice).rolls.get? itemGuid = state.rolls.get? itemGuid := by
  by_cases hexists : ∃ ballot, Counts env roll guid ballot
  · obtain ⟨ballot, hcounts⟩ := hexists
    have hclosed : ¬ ((choiceVote choice).isSome ∨ roll.isComplete = true) :=
      fun htouched => htouches ⟨⟨ballot, hcounts⟩, htouched⟩
    obtain ⟨hchoice, hcomplete⟩ := not_or.mp hclosed
    rw [Option.not_isSome_iff_eq_none] at hchoice
    rw [get?_voteIn hroll hcounts]
    simp only [hchoice, Option.map_none, Option.getD_none, hcomplete, Bool.false_eq_true, if_false]
    split
    next hsame => rw [hsame, get?_roll hroll]
    · rfl
  · rw [voteIn_eq_of_not_counts fun ballot hcounts => hexists ⟨ballot, hcounts⟩]

/-- A vote that is entered in the roll for the object is entered where it belongs. -/
theorem addressed_of_rollOf (htarget : state.rollOf looted slot = some roll)
    (draws : List UInt8) :
    Addressed env state (voteIn env draws state roll guid choice) guid looted slot choice := by
  have hroll := (lootedGuid_of_rollOf htarget).1
  by_cases hexists : ∃ ballot, Counts env roll guid ballot
  · obtain ⟨ballot, hcounts⟩ := hexists
    have hget := get?_voteIn hroll hcounts draws choice
    refine ⟨?_, ?_, ?_⟩
    · intro target _ vote htarget' _ hchoice
      obtain rfl := Option.some.inj (htarget.symm.trans htarget')
      rw [hget, if_pos rfl]
      simp only [hchoice, Option.map_some, Option.getD_some]
      split
      next hcomplete =>
        refine Or.inr ⟨rfl, ?_⟩
        rw [voteIn_eq_of_counts hcounts]
        simp only [hchoice, Option.map_some, Option.getD_some, hcomplete, if_true]
        exact ⟨_, List.mem_cons_self, rfl⟩
      · exact Or.inl rfl
    · intro other hother hne
      have hid : other.itemGuid ≠ roll.itemGuid := by
        intro hsame
        exact hne (htarget.trans (congrArg some (eq_of_itemGuid_eq hroll hother hsame.symm)))
      rw [hget, if_neg hid, get?_roll hother]
    · intro itemGuid hnone
      have hid : itemGuid ≠ roll.itemGuid := by
        rintro rfl
        rw [get?_roll hroll] at hnone
        cases hnone
      rw [hget, if_neg hid, hnone]
  · have hnot : ∀ ballot, ¬ Counts env roll guid ballot :=
      fun ballot hcounts => hexists ⟨ballot, hcounts⟩
    rw [voteIn_eq_of_not_counts hnot]
    refine ⟨?_, fun other hother _ => get?_roll hother, fun _ hnone => hnone⟩
    intro target ballot vote htarget' hcounts _
    obtain rfl := Option.some.inj (htarget.symm.trans htarget')
    exact absurd hcounts (hnot ballot)

/-- A request that finds a roll for another object. -/
theorem addressed_iff_of_ne (hfirst : first ∈ state.rolls) (hne : first.lootedGuid ≠ looted)
    (draws : List UInt8) :
    Addressed env state (voteIn env draws state first guid choice) guid looted slot choice ↔
      ¬ Touches env first guid choice ∧
        ∀ target, state.rollOf looted slot = some target → ¬ Takes env target guid choice := by
  constructor
  · intro haddressed
    have htouches : ¬ Touches env first guid choice := by
      intro htouches
      refine get?_ne_of_touches hfirst htouches draws (haddressed.others first hfirst ?_)
      exact fun htarget => hne (lootedGuid_of_rollOf htarget).2
    refine ⟨htouches, ?_⟩
    rintro target htarget ⟨⟨ballot, hcounts⟩, hsome⟩
    obtain ⟨vote, hchoice⟩ := Option.isSome_iff_exists.mp hsome
    have hrecorded := haddressed.recorded target ballot vote htarget hcounts hchoice
    rw [get?_eq_of_not_touches hfirst htouches, get?_roll (lootedGuid_of_rollOf htarget).1]
      at hrecorded
    rcases hrecorded with heq | ⟨hnone, -⟩
    · exact recordVote_ne hchoice target guid (Option.some.inj heq).symm
    · cases hnone
  · rintro ⟨htouches, htakes⟩
    have hget := get?_eq_of_not_touches hfirst htouches draws
    refine ⟨?_, ?_, ?_⟩
    · intro target ballot vote htarget hcounts hchoice
      exact absurd ⟨⟨ballot, hcounts⟩, by rw [hchoice]; rfl⟩ (htakes target htarget)
    · intro roll hroll _
      rw [hget, get?_roll hroll]
    · intro itemGuid hnone
      rw [hget, hnone]

end

/-- A vote is entered in the roll for the slot of the object it names, and changes no other
roll, if and only if the lookup by slot is not ambiguous. -/
theorem handleLootRoll_addressed_iff (env : Environment) (draws : List UInt8) (state : Rolls)
    (guid looted : UInt64) (slot choice : UInt8) :
    Addressed env state (handleLootRoll env draws state guid looted slot choice) guid looted slot
      choice ↔ Unambiguous env state guid looted slot choice := by
  unfold handleLootRoll countRollVote Unambiguous
  cases hfirst : state.getRoll slot with
  | none =>
    have hnone : state.rollOf looted slot = none := rollOf_eq_none hfirst
    refine iff_of_true ⟨?_, fun _ hroll _ => get?_roll hroll, fun _ habsent => habsent⟩ ?_
    · intro target _ _ htarget _ _
      rw [hnone] at htarget
      cases htarget
    · exact fun first hsome => absurd hsome (by simp)
  | some first =>
    by_cases hlooted : first.lootedGuid = looted
    · refine iff_of_true (addressed_of_rollOf (rollOf_eq_of_getRoll hfirst hlooted) draws) ?_
      intro other hother hne
      obtain rfl := Option.some.inj hother
      exact absurd hlooted hne
    · rw [addressed_iff_of_ne (mem_of_getRoll hfirst) hlooted]
      constructor
      · intro hclear other hother _
        obtain rfl := Option.some.inj hother
        exact hclear
      · exact fun hclear => hclear first rfl hlooted

def twoCorpses : Rolls :=
  groupLoot rareLoot (corpse 8) pair (groupLoot rareLoot (corpse 7) pair noRolls)

/-- A vote for the item of the second corpse is entered in the roll for the first. -/
theorem vote_for_second_corpse_misdirected :
    ¬ ∀ env draws state guid looted slot choice,
      Addressed env state (handleLootRoll env draws state guid looted slot choice) guid looted slot
        choice := by
  intro hall
  have haddressed := hall rareLoot [] twoCorpses 1 8 0 1
  have hvoted : ((handleLootRoll rareLoot [] twoCorpses 1 8 0 1).rolls.get? 1).map
      (fun roll => roll.playerVote.rows) = some [⟨1, .need⟩, ⟨2, .notEmitedYet⟩] := by
    decide +kernel
  have hfirst : (twoCorpses.rolls.get? 1).map (fun roll => (roll.lootedGuid, roll.playerVote.rows)) =
      some (7, [⟨1, .notEmitedYet⟩, ⟨2, .notEmitedYet⟩]) := by decide +kernel
  obtain ⟨first, hget, hvotes⟩ := Option.map_eq_some_iff.mp hfirst
  obtain ⟨hlooted, hvotes⟩ := Prod.mk.inj hvotes
  obtain ⟨hmem, hid⟩ := mem_of_get?_roll hget
  have hkept := haddressed.others first hmem fun htarget => by
    rw [(lootedGuid_of_rollOf htarget).2] at hlooted
    exact absurd hlooted (by decide)
  rw [hid] at hkept
  rw [hkept, Option.map_some, hvotes] at hvoted
  exact absurd hvoted (by decide)

end MopServer.Groups
