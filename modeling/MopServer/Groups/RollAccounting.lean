import Mathlib.Algebra.Order.BigOperators.Group.List
import Mathlib.Algebra.Order.Group.Nat
import MopServer.Foundation.Bits
import MopServer.Foundation.Run
import MopServer.Groups.Roll

/-! # The accounts of loot rolls

The counters of a roll agree with the votes that are entered as long as nobody votes twice,
and a roll is decided in time as long as nobody leaves as the last one to vote.
-/

namespace MopServer.Groups

open MopServer.Foundation

def RollVote.isNeed (vote : RollVote) : Bool := vote = .need
def RollVote.isGreed (vote : RollVote) : Bool := vote = .greed || vote = .disenchant
def RollVote.isPass (vote : RollVote) : Bool := vote = .pass
def RollVote.isOutstanding (vote : RollVote) : Bool := vote = .notEmitedYet

namespace Roll

/-- How many players are entered with votes of a kind. -/
def count (roll : Roll) (kind : RollVote → Bool) : Nat :=
  roll.playerVote.sum fun ballot => if kind ballot.vote then 1 else 0

/-- The counters agree with the votes that are entered. -/
structure Tallied (roll : Roll) : Prop where
  need : roll.totalNeed.toNat = roll.count RollVote.isNeed
  greed : roll.totalGreed.toNat = roll.count RollVote.isGreed
  pass : roll.totalPass.toNat = roll.count RollVote.isPass
  players : roll.totalPlayersRolling.toNat = roll.count fun _ => true

/-- Somebody has yet to vote. -/
def Outstanding (roll : Roll) : Prop := ∃ ballot ∈ roll.playerVote, ballot.vote = .notEmitedYet

/-- A tallied roll of a group of the usual size. -/
structure Sound (roll : Roll) : Prop extends roll.Tallied where
  valid : ∀ ballot ∈ roll.playerVote, ballot.vote ≠ .notValid
  size : (roll.count fun _ => true) ≤ maxRaidSize

end Roll

/-- All active rolls are sound, and item guids are not used twice. -/
structure Rolls.Sound (state : Rolls) : Prop where
  rolls : ∀ roll ∈ state.rolls, roll.Sound
  issued : ∀ roll ∈ state.rolls, roll.itemGuid < state.nextItemGuid

section

variable {roll : Roll} {ballot : Ballot} {vote : RollVote} {kind : RollVote → Bool}

theorem count_eq_zero_iff :
    roll.count kind = 0 ↔ ∀ ballot ∈ roll.playerVote, kind ballot.vote = false := by
  unfold Roll.count
  rw [Table.sum_eq_zero_iff]
  refine forall₂_congr fun ballot _ => ?_
  cases kind ballot.vote <;> simp

theorem count_outstanding_eq_zero_iff :
    roll.count RollVote.isOutstanding = 0 ↔ ¬ roll.Outstanding := by
  rw [count_eq_zero_iff]
  unfold Roll.Outstanding RollVote.isOutstanding
  simp

theorem count_partition (hvalid : ∀ ballot ∈ roll.playerVote, ballot.vote ≠ .notValid) :
    roll.count RollVote.isPass + roll.count RollVote.isNeed + roll.count RollVote.isGreed +
      roll.count RollVote.isOutstanding = roll.count fun _ => true := by
  unfold Roll.count
  rw [← Table.sum_add, ← Table.sum_add, ← Table.sum_add]
  refine Table.sum_congr fun ballot hballot => ?_
  cases hcase : ballot.vote <;>
    simp_all [RollVote.isPass, RollVote.isNeed, RollVote.isGreed, RollVote.isOutstanding]

/-- The counters say that all have voted exactly when all have. -/
theorem isComplete_iff (hsound : roll.Sound) : roll.isComplete = true ↔ ¬ roll.Outstanding := by
  have hpartition := count_partition hsound.valid
  rw [← count_outstanding_eq_zero_iff]
  unfold Roll.isComplete
  rw [decide_eq_true_eq, hsound.need, hsound.greed, hsound.pass, hsound.players]
  omega

/-! ## Voting -/

variable {counter : UInt8}

theorem count_recordVote (hballot : ballot ∈ roll.playerVote) (vote : RollVote)
    (kind : RollVote → Bool) :
    (roll.recordVote ballot.guid vote).count kind + (if kind ballot.vote then 1 else 0) =
      roll.count kind + if kind vote then 1 else 0 :=
  Table.sum_modify hballot (fun ballot => { ballot with vote := vote }) (fun _ => rfl) _

/-- A counter of a kind of votes once a vote has been counted. -/
def bumped (counter : UInt8) (counts : Bool) : UInt8 := if counts then counter + 1 else counter

theorem toNat_bumped (hcounter : counter.toNat < 255) (counts : Bool) :
    (bumped counter counts).toNat = counter.toNat + if counts then 1 else 0 := by
  cases counts with
  | true => exact toNat_add_one hcounter
  | false => rfl

theorem recordVote_totals (roll : Roll) (guid : UInt64) (vote : RollVote) :
    (roll.recordVote guid vote).totalPass = bumped roll.totalPass vote.isPass ∧
      (roll.recordVote guid vote).totalNeed = bumped roll.totalNeed vote.isNeed ∧
      (roll.recordVote guid vote).totalGreed = bumped roll.totalGreed vote.isGreed ∧
      (roll.recordVote guid vote).totalPlayersRolling = roll.totalPlayersRolling := by
  cases vote <;> exact ⟨rfl, rfl, rfl, rfl⟩

theorem count_le (roll : Roll) (kind : RollVote → Bool) :
    roll.count kind ≤ roll.count fun _ => true := by
  refine List.sum_le_sum fun ballot _ => ?_
  cases kind ballot.vote <;> simp

theorem Roll.Sound.lt (hsound : roll.Sound) (kind : RollVote → Bool) : roll.count kind < 255 := by
  have hle := count_le roll kind
  have hsize := hsound.size
  unfold maxRaidSize at hsize
  omega

/-- A counter after a vote of a kind has been entered for a player who has yet to vote, and
after it has been entered in the place of another. -/
theorem toNat_bumped_sub (hcounter : counter.toNat = roll.count kind) (hlt : roll.count kind < 255)
    (hballot : ballot ∈ roll.playerVote) (vote : RollVote) :
    (bumped counter (kind vote)).toNat =
      (roll.recordVote ballot.guid vote).count kind + if kind ballot.vote then 1 else 0 := by
  rw [count_recordVote hballot, toNat_bumped (by omega), hcounter]

theorem mem_recordVote {guid : UInt64} {entered : Ballot} :
    entered ∈ (roll.recordVote guid vote).playerVote ↔ ∃ old ∈ roll.playerVote,
      (if old.guid = guid then { old with vote := vote } else old) = entered :=
  Table.mem_modify (f := fun old : Ballot => { old with vote := vote }) fun _ => rfl

theorem choiceVote_valid {choice : UInt8} (hchoice : choiceVote choice = some vote) :
    vote ≠ .notValid ∧ vote ≠ .notEmitedYet := by
  unfold choiceVote at hchoice
  split at hchoice
  · obtain rfl := Option.some.inj hchoice
    decide
  split at hchoice
  · obtain rfl := Option.some.inj hchoice
    decide
  split at hchoice
  · obtain rfl := Option.some.inj hchoice
    decide
  split at hchoice
  · obtain rfl := Option.some.inj hchoice
    decide
  · cases hchoice

theorem totals_recordVote (hsound : roll.Sound) (hballot : ballot ∈ roll.playerVote)
    (vote : RollVote) :
    (roll.recordVote ballot.guid vote).totalNeed.toNat =
        (roll.recordVote ballot.guid vote).count RollVote.isNeed +
          (if ballot.vote.isNeed then 1 else 0) ∧
      (roll.recordVote ballot.guid vote).totalGreed.toNat =
        (roll.recordVote ballot.guid vote).count RollVote.isGreed +
          (if ballot.vote.isGreed then 1 else 0) ∧
      (roll.recordVote ballot.guid vote).totalPass.toNat =
        (roll.recordVote ballot.guid vote).count RollVote.isPass +
          (if ballot.vote.isPass then 1 else 0) ∧
      (roll.recordVote ballot.guid vote).totalPlayersRolling.toNat =
        (roll.recordVote ballot.guid vote).count fun _ => true := by
  obtain ⟨hpass, hneed, hgreed, hplayers⟩ := recordVote_totals roll ballot.guid vote
  rw [hpass, hneed, hgreed, hplayers]
  refine ⟨toNat_bumped_sub hsound.need (hsound.lt _) hballot vote,
    toNat_bumped_sub hsound.greed (hsound.lt _) hballot vote,
    toNat_bumped_sub hsound.pass (hsound.lt _) hballot vote, ?_⟩
  have hcount := count_recordVote hballot vote fun _ => true
  rw [hsound.players]
  simpa using hcount.symm

theorem sound_recordVote (hsound : roll.Sound) (hballot : ballot ∈ roll.playerVote)
    (hnew : ballot.vote = .notEmitedYet) (hvote : vote ≠ .notValid) :
    (roll.recordVote ballot.guid vote).Sound := by
  obtain ⟨hneed, hgreed, hpass, hplayers⟩ := totals_recordVote hsound hballot vote
  simp only [hnew, RollVote.isNeed, RollVote.isGreed, RollVote.isPass, reduceCtorEq, decide_false,
    Bool.or_self, Bool.false_eq_true, if_false, Nat.add_zero] at hneed hgreed hpass
  refine ⟨⟨hneed, hgreed, hpass, hplayers⟩, ?_, ?_⟩
  · intro entered hentered
    obtain ⟨old, hold, rfl⟩ := mem_recordVote.mp hentered
    split
    · exact hvote
    · exact hsound.valid old hold
  · have hcount := count_recordVote hballot vote fun _ => true
    have hsize := hsound.size
    omega

/-- A second vote leaves the first one counted. -/
theorem not_tallied_recordVote (hsound : roll.Sound) (hballot : ballot ∈ roll.playerVote)
    (hold : ballot.vote ≠ .notEmitedYet) (vote : RollVote) :
    ¬ (roll.recordVote ballot.guid vote).Tallied := by
  intro htallied
  obtain ⟨hneed, hgreed, hpass, -⟩ := totals_recordVote hsound hballot vote
  rw [htallied.need] at hneed
  rw [htallied.greed] at hgreed
  rw [htallied.pass] at hpass
  have hvalid := hsound.valid ballot hballot
  cases hcase : ballot.vote <;>
    simp_all [RollVote.isNeed, RollVote.isGreed, RollVote.isPass]

/-- After any vote in a roll in which all have voted the counters say so. -/
theorem isComplete_recordVote (hsound : roll.Sound) (hballot : ballot ∈ roll.playerVote)
    (hall : ¬ roll.Outstanding) (hvote : vote ≠ .notValid) (hvote' : vote ≠ .notEmitedYet) :
    (roll.recordVote ballot.guid vote).isComplete = true ∧
      ¬ (roll.recordVote ballot.guid vote).Outstanding := by
  have hnone : ¬ (roll.recordVote ballot.guid vote).Outstanding := by
    rintro ⟨entered, hentered, hout⟩
    obtain ⟨old, hold, rfl⟩ := mem_recordVote.mp hentered
    split at hout
    · exact hvote' hout
    · exact hall ⟨old, hold, hout⟩
  refine ⟨?_, hnone⟩
  have hvalid : ∀ entered ∈ (roll.recordVote ballot.guid vote).playerVote,
      entered.vote ≠ .notValid := by
    intro entered hentered
    obtain ⟨old, hold, rfl⟩ := mem_recordVote.mp hentered
    split
    · exact hvote
    · exact hsound.valid old hold
  have hpartition := count_partition hvalid
  rw [count_outstanding_eq_zero_iff.mpr hnone] at hpartition
  obtain ⟨hneed, hgreed, hpass, hplayers⟩ := totals_recordVote hsound hballot vote
  unfold Roll.isComplete
  rw [decide_eq_true_eq]
  omega

/-! ## Leaving -/

theorem count_withdraw (hballot : ballot ∈ roll.playerVote) (kind : RollVote → Bool) :
    (roll.withdraw ballot).count kind + (if kind ballot.vote then 1 else 0) = roll.count kind :=
  Table.sum_erase hballot _

theorem mem_withdraw {other : Ballot} :
    other ∈ (roll.withdraw ballot).playerVote ↔
      other ∈ roll.playerVote ∧ other.guid ≠ ballot.guid := Table.mem_erase

/-- A counter of a kind of votes once a vote is not counted any more. -/
def lowered (counter : UInt8) (counts : Bool) : UInt8 := if counts then counter - 1 else counter

theorem toNat_lowered (hcounter : counter.toNat = roll.count kind)
    (hballot : ballot ∈ roll.playerVote) :
    (lowered counter (kind ballot.vote)).toNat = (roll.withdraw ballot).count kind := by
  have hcount := count_withdraw hballot kind
  unfold lowered
  cases hkind : kind ballot.vote with
  | true =>
    rw [hkind, if_pos rfl] at hcount
    rw [if_pos rfl, toNat_sub_one (by omega)]
    omega
  | false =>
    rw [hkind, if_neg (by decide)] at hcount
    rw [if_neg (by decide)]
    omega

theorem withdraw_totals (roll : Roll) (hvalid : ballot.vote ≠ .notValid) :
    (roll.withdraw ballot).totalNeed = lowered roll.totalNeed ballot.vote.isNeed ∧
      (roll.withdraw ballot).totalGreed = lowered roll.totalGreed ballot.vote.isGreed ∧
      (roll.withdraw ballot).totalPass = lowered roll.totalPass ballot.vote.isPass ∧
      (roll.withdraw ballot).totalPlayersRolling = lowered roll.totalPlayersRolling true := by
  obtain ⟨guid, vote⟩ := ballot
  cases vote with
  | notValid => exact absurd rfl hvalid
  | _ => exact ⟨rfl, rfl, rfl, rfl⟩

/-- Taking a player out keeps the accounts. -/
theorem sound_withdraw (hsound : roll.Sound) (hballot : ballot ∈ roll.playerVote) :
    (roll.withdraw ballot).Sound := by
  obtain ⟨hneed, hgreed, hpass, hplayers⟩ := withdraw_totals roll (hsound.valid ballot hballot)
  refine ⟨⟨?_, ?_, ?_, ?_⟩, ?_, ?_⟩
  · rw [hneed]
    exact toNat_lowered hsound.need hballot
  · rw [hgreed]
    exact toNat_lowered hsound.greed hballot
  · rw [hpass]
    exact toNat_lowered hsound.pass hballot
  · have hlowered : (lowered roll.totalPlayersRolling ((fun _ => true) ballot.vote)).toNat =
      (roll.withdraw ballot).count fun _ => true := toNat_lowered hsound.players hballot
    rw [hplayers]
    exact hlowered
  · intro other hother
    exact hsound.valid other (mem_withdraw.mp hother).1
  · have hcount := count_withdraw hballot fun _ => true
    have hsize := hsound.size
    omega

end

/-! ## Steps -/

variable (env : Environment)

/-- What is right after a step: the accounts of all active rolls agree, only rolls in which
all have voted have been decided before their time, rolls in which the last player has voted
or left are not active any more, and rolls end only by a decision. -/
structure Correct (state after : Rolls) (timeUp : Bool) : Prop where
  tallied : ∀ roll ∈ after.rolls, roll.Tallied
  decided : ∃ new, after.decided = new ++ state.decided ∧
    (timeUp = false → ∀ decision ∈ new, ¬ decision.roll.Outstanding)
  prompt : ∀ roll ∈ state.rolls, roll.Outstanding → ∀ later ∈ after.rolls,
    later.itemGuid = roll.itemGuid → later.Outstanding
  ended : ∀ roll ∈ state.rolls, (∃ later ∈ after.rolls, later.itemGuid = roll.itemGuid) ∨
    ∃ decision ∈ after.decided, decision.roll.itemGuid = roll.itemGuid

section

variable {state after : Rolls} {roll voted : Roll} {ballot : Ballot} {guid : UInt64}

theorem eq_of_itemGuid_eq {first second : Roll} (hfirst : first ∈ state.rolls)
    (hsecond : second ∈ state.rolls) (heq : first.itemGuid = second.itemGuid) : first = second :=
  Table.eq_of_key_eq hfirst hsecond heq

theorem get?_roll (hroll : roll ∈ state.rolls) : state.rolls.get? roll.itemGuid = some roll :=
  Table.get?_key hroll

theorem mem_of_get?_roll {itemGuid : Nat} (hget : state.rolls.get? itemGuid = some roll) :
    roll ∈ state.rolls ∧ roll.itemGuid = itemGuid := Table.get?_eq_some_iff.mp hget

theorem get?_setRoll (state : Rolls) (changed : Roll) (itemGuid : Nat) :
    (state.setRoll changed).rolls.get? itemGuid =
      if itemGuid = changed.itemGuid then (state.rolls.get? itemGuid).map fun _ => changed
      else state.rolls.get? itemGuid :=
  Table.get?_replace state.rolls changed itemGuid

theorem mem_setRoll (hroll : roll ∈ state.rolls) (hid : voted.itemGuid = roll.itemGuid)
    {later : Roll} :
    later ∈ (state.setRoll voted).rolls ↔
      later = voted ∨ later ∈ state.rolls ∧ later.itemGuid ≠ voted.itemGuid := by
  have hmem : later ∈ (state.setRoll voted).rolls ↔
      (state.setRoll voted).rolls.get? later.itemGuid = some later :=
    ⟨fun hlater => get?_roll hlater, fun hget => (mem_of_get?_roll hget).1⟩
  rw [hmem, get?_setRoll]
  split
  next heq =>
    rw [heq, hid, get?_roll hroll, Option.map_some, Option.some.injEq]
    constructor
    · exact fun hvoted => Or.inl hvoted.symm
    · rintro (hvoted | ⟨-, hne⟩)
      · exact hvoted.symm
      · exact absurd rfl hne
  next hne =>
    constructor
    · exact fun hget => Or.inr ⟨(mem_of_get?_roll hget).1, hne⟩
    · rintro (rfl | ⟨hlater, -⟩)
      · exact absurd rfl hne
      · exact get?_roll hlater

theorem mem_countTheRoll {draws : List UInt8} {later : Roll} :
    later ∈ (countTheRoll draws state roll).rolls ↔
      later ∈ state.rolls ∧ later.itemGuid ≠ roll.itemGuid := Table.mem_erase

theorem correct_refl (hsound : state.Sound) (timeUp : Bool) : Correct state state timeUp where
  tallied roll hroll := (hsound.rolls roll hroll).toTallied
  decided := ⟨[], rfl, fun _ _ hdecision => absurd hdecision List.not_mem_nil⟩
  prompt roll hroll hout later hlater hid := by
    rw [eq_of_itemGuid_eq hlater hroll hid]
    exact hout
  ended roll hroll := Or.inl ⟨roll, hroll, rfl⟩

/-- A roll has been changed, and somebody has yet to vote in it if somebody had before. -/
theorem correct_setRoll (hsound : state.Sound) (hroll : roll ∈ state.rolls)
    (hid : voted.itemGuid = roll.itemGuid) (hvoted : voted.Sound)
    (hout : roll.Outstanding → voted.Outstanding) (timeUp : Bool) :
    Correct state (state.setRoll voted) timeUp ∧ (state.setRoll voted).Sound := by
  refine ⟨⟨?_, ⟨[], rfl, fun _ _ hdecision => absurd hdecision List.not_mem_nil⟩, ?_, ?_⟩, ⟨?_, ?_⟩⟩
  · intro later hlater
    rcases (mem_setRoll hroll hid).mp hlater with rfl | ⟨hold, -⟩
    · exact hvoted.toTallied
    · exact (hsound.rolls later hold).toTallied
  · intro old hold houtstanding later hlater hsame
    rcases (mem_setRoll hroll hid).mp hlater with rfl | ⟨hlater, -⟩
    · rw [eq_of_itemGuid_eq hold hroll (hsame.symm.trans hid)] at houtstanding
      exact hout houtstanding
    · rw [eq_of_itemGuid_eq hlater hold hsame]
      exact houtstanding
  · intro old hold
    by_cases hsame : old.itemGuid = voted.itemGuid
    · exact Or.inl ⟨voted, (mem_setRoll hroll hid).mpr (Or.inl rfl), hsame.symm⟩
    · exact Or.inl ⟨old, (mem_setRoll hroll hid).mpr (Or.inr ⟨hold, hsame⟩), rfl⟩
  · intro later hlater
    rcases (mem_setRoll hroll hid).mp hlater with rfl | ⟨hold, -⟩
    · exact hvoted
    · exact hsound.rolls later hold
  · intro later hlater
    rcases (mem_setRoll hroll hid).mp hlater with rfl | ⟨hold, -⟩
    · rw [hid]
      exact hsound.issued roll hroll
    · exact hsound.issued later hold

theorem correct_countTheRoll (hsound : state.Sound) (hroll : roll ∈ state.rolls)
    (hid : voted.itemGuid = roll.itemGuid) (hall : ¬ voted.Outstanding) (draws : List UInt8)
    (timeUp : Bool) :
    Correct state (countTheRoll draws (state.setRoll voted) voted) timeUp ∧
      (countTheRoll draws (state.setRoll voted) voted).Sound := by
  have hmem : ∀ later ∈ (countTheRoll draws (state.setRoll voted) voted).rolls,
      later ∈ state.rolls := by
    intro later hlater
    obtain ⟨hlater, hne⟩ := mem_countTheRoll.mp hlater
    rcases (mem_setRoll hroll hid).mp hlater with rfl | ⟨hold, -⟩
    · exact absurd rfl hne
    · exact hold
  refine ⟨⟨?_, ⟨[⟨voted, voted.outcome draws⟩], rfl, ?_⟩, ?_, ?_⟩, ⟨?_, ?_⟩⟩
  · exact fun later hlater => (hsound.rolls later (hmem later hlater)).toTallied
  · intro _ decision hdecision
    obtain rfl := List.mem_singleton.mp hdecision
    exact hall
  · intro old hold houtstanding later hlater hsame
    rw [eq_of_itemGuid_eq (hmem later hlater) hold hsame]
    exact houtstanding
  · intro old hold
    by_cases hsame : old.itemGuid = voted.itemGuid
    · exact Or.inr ⟨_, List.mem_cons_self, hsame.symm⟩
    · exact Or.inl ⟨old, mem_countTheRoll.mpr
        ⟨(mem_setRoll hroll hid).mpr (Or.inr ⟨hold, hsame⟩), hsame⟩, rfl⟩
  · exact fun later hlater => hsound.rolls later (hmem later hlater)
  · exact fun later hlater => hsound.issued later (hmem later hlater)

/-! ## A vote -/

theorem mem_of_getRoll {slot : UInt8} (hroll : state.getRoll slot = some roll) :
    roll ∈ state.rolls := List.mem_of_find?_eq_some hroll

/-- A vote of a player who takes part, in a roll whose loot has items. -/
structure Counts (env : Environment) (roll : Roll) (guid : UInt64) (ballot : Ballot) : Prop where
  entered : roll.playerVote.get? guid = some ballot
  items : roll.loot.any env.itemsEmpty = false

theorem Counts.mem {env : Environment} (hcounts : Counts env roll guid ballot) :
    ballot ∈ roll.playerVote ∧ ballot.guid = guid :=
  Table.get?_eq_some_iff.mp hcounts.entered

theorem voteIn_eq_of_counts {env : Environment} (hcounts : Counts env roll guid ballot)
    (draws : List UInt8) (state : Rolls) (choice : UInt8) :
    voteIn env draws state roll guid choice =
      let voted := ((choiceVote choice).map (roll.recordVote guid)).getD roll
      if voted.isComplete then countTheRoll draws (state.setRoll voted) voted
      else state.setRoll voted := by
  unfold voteIn
  rw [hcounts.entered]
  simp only [hcounts.items, Bool.false_eq_true, if_false]

theorem voteIn_eq_of_not_counts {env : Environment}
    (hnot : ∀ ballot, ¬ Counts env roll guid ballot) (draws : List UInt8) (state : Rolls)
    (choice : UInt8) : voteIn env draws state roll guid choice = state := by
  unfold voteIn
  cases hentered : roll.playerVote.get? guid with
  | none => rfl
  | some ballot =>
    have hitems : roll.loot.any env.itemsEmpty = true := by
      by_contra hempty
      exact hnot ballot ⟨hentered, by simpa using hempty⟩
    simp only [hitems, if_true]

theorem itemGuid_voted (roll : Roll) (guid : UInt64) (choice : UInt8) :
    (((choiceVote choice).map (roll.recordVote guid)).getD roll).itemGuid = roll.itemGuid := by
  cases choiceVote choice <;> rfl

/-- A player votes in his turn: for the first time, or after all have voted. -/
def InTurn (env : Environment) (roll : Roll) (guid : UInt64) (choice : UInt8) : Prop :=
  ∀ ballot vote, Counts env roll guid ballot → choiceVote choice = some vote →
    ballot.vote = .notEmitedYet ∨ ¬ roll.Outstanding

theorem voteIn_correct_iff (hsound : state.Sound) (hroll : roll ∈ state.rolls) (guid : UInt64)
    (choice : UInt8) (draws : List UInt8) :
    (Correct state (voteIn env draws state roll guid choice) false ↔ InTurn env roll guid choice) ∧
      (InTurn env roll guid choice → (voteIn env draws state roll guid choice).Sound) := by
  have hrollSound := hsound.rolls roll hroll
  by_cases hexists : ∃ ballot, Counts env roll guid ballot
  · obtain ⟨ballot, hcounts⟩ := hexists
    obtain ⟨hballot, rfl⟩ := hcounts.mem
    rw [voteIn_eq_of_counts hcounts]
    cases hchoice : choiceVote choice with
    | none =>
      have hturn : InTurn env roll ballot.guid choice := by
        intro _ vote _ hvote
        rw [hchoice] at hvote
        cases hvote
      simp only [Option.map_none, Option.getD_none]
      split
      next hcomplete =>
        have hdecided := correct_countTheRoll hsound hroll rfl
          ((isComplete_iff hrollSound).mp hcomplete) draws false
        exact ⟨iff_of_true hdecided.1 hturn, fun _ => hdecided.2⟩
      · have hset := correct_setRoll hsound hroll rfl hrollSound id false
        exact ⟨iff_of_true hset.1 hturn, fun _ => hset.2⟩
    | some vote =>
      obtain ⟨hvalid, hcast⟩ := choiceVote_valid hchoice
      have hturn : InTurn env roll ballot.guid choice ↔
          ballot.vote = .notEmitedYet ∨ ¬ roll.Outstanding := by
        constructor
        · exact fun hturn => hturn ballot vote hcounts hchoice
        · intro hturn other _ hother _
          obtain rfl := Option.some.inj (hcounts.entered.symm.trans hother.entered)
          exact hturn
      rw [hturn]
      simp only [Option.map_some, Option.getD_some]
      have hid : (roll.recordVote ballot.guid vote).itemGuid = roll.itemGuid := rfl
      by_cases hfirst : ballot.vote = .notEmitedYet
      · -- The first vote of the player.
        have hvoted := sound_recordVote hrollSound hballot hfirst hvalid
        split
        next hcomplete =>
          have hdecided := correct_countTheRoll hsound hroll hid
            ((isComplete_iff hvoted).mp hcomplete) draws false
          exact ⟨iff_of_true hdecided.1 (Or.inl hfirst), fun _ => hdecided.2⟩
        next hcomplete =>
          have hout : (roll.recordVote ballot.guid vote).Outstanding := by
            by_contra hnone
            exact hcomplete ((isComplete_iff hvoted).mpr hnone)
          have hset := correct_setRoll hsound hroll hid hvoted (fun _ => hout) false
          exact ⟨iff_of_true hset.1 (Or.inl hfirst), fun _ => hset.2⟩
      · by_cases hout : roll.Outstanding
        · -- A second vote while others have yet to vote.
          have hlate : ¬ (ballot.vote = .notEmitedYet ∨ ¬ roll.Outstanding) := by
            rintro (heq | hnone)
            · exact hfirst heq
            · exact hnone hout
          refine ⟨iff_of_false ?_ hlate, fun hturn => absurd hturn hlate⟩
          have hstill : (roll.recordVote ballot.guid vote).Outstanding := by
            obtain ⟨other, hother, hvote⟩ := hout
            refine ⟨other, mem_recordVote.mpr ⟨other, hother, if_neg fun heq => ?_⟩, hvote⟩
            rw [Table.eq_of_key_eq hother hballot heq] at hvote
            exact hfirst hvote
          split
          · intro hcorrect
            obtain ⟨new, hnew, hall⟩ := hcorrect.decided
            have hmem : (⟨roll.recordVote ballot.guid vote,
                (roll.recordVote ballot.guid vote).outcome draws⟩ : Decision) ∈ new := by
              have hlength := congrArg List.length hnew
              cases new with
              | nil => simp [countTheRoll, Rolls.setRoll] at hlength
              | cons first rest =>
                obtain ⟨rfl, -⟩ := List.cons.inj hnew
                exact List.mem_cons_self
            exact hall rfl _ hmem hstill
          · intro hcorrect
            exact not_tallied_recordVote hrollSound hballot hfirst vote
              (hcorrect.tallied _ ((mem_setRoll hroll hid).mpr (Or.inl rfl)))
        · obtain ⟨hcomplete, hnone⟩ := isComplete_recordVote hrollSound hballot hout hvalid hcast
          rw [if_pos hcomplete]
          have hdecided := correct_countTheRoll hsound hroll hid hnone draws false
          exact ⟨iff_of_true hdecided.1 (Or.inr hout), fun _ => hdecided.2⟩
  · have hnot : ∀ ballot, ¬ Counts env roll guid ballot := fun ballot hcounts =>
      hexists ⟨ballot, hcounts⟩
    rw [voteIn_eq_of_not_counts hnot]
    refine ⟨iff_of_true (correct_refl hsound false) ?_, fun _ => hsound⟩
    exact fun ballot _ hcounts _ => absurd hcounts (hnot ballot)

/-! ## A member leaves -/

def Roll.departed (roll : Roll) (guid : UInt64) : Roll :=
  (roll.playerVote.get? guid).elim roll roll.withdraw

theorem departed_cases (roll : Roll) (guid : UInt64) :
    (roll.playerVote.get? guid = none ∧ roll.departed guid = roll) ∨
      ∃ ballot ∈ roll.playerVote, ballot.guid = guid ∧ roll.departed guid = roll.withdraw ballot := by
  unfold Roll.departed
  cases hget : roll.playerVote.get? guid with
  | none => exact Or.inl ⟨rfl, rfl⟩
  | some ballot =>
    obtain ⟨hballot, hguid⟩ := Table.get?_eq_some_iff.mp hget
    exact Or.inr ⟨ballot, hballot, hguid, rfl⟩

theorem mem_departed {other : Ballot} :
    other ∈ (roll.departed guid).playerVote ↔ other ∈ roll.playerVote ∧ other.guid ≠ guid := by
  rcases departed_cases roll guid with ⟨hnone, heq⟩ | ⟨ballot, -, rfl, heq⟩
  · rw [heq]
    exact ⟨fun hother => ⟨hother, Table.get?_eq_none_iff.mp hnone other hother⟩, And.left⟩
  · rw [heq]
    exact mem_withdraw

/-- Without a player somebody has yet to vote if and only if somebody else had before. -/
theorem outstanding_departed :
    (roll.departed guid).Outstanding ↔
      ∃ ballot ∈ roll.playerVote, ballot.guid ≠ guid ∧ ballot.vote = .notEmitedYet := by
  unfold Roll.Outstanding
  simp only [mem_departed, and_assoc]

/-- What taking a player out of the rolls with some item guids does: all other rolls stay as
they are, unless they are decided with the player among those who have voted. -/
structure Leaves (guid : UInt64) (ids : List Nat) (state after : Rolls) : Prop where
  sound : after.Sound
  decided : ∃ new, after.decided = new ++ state.decided ∧
    ∀ decision ∈ new, ¬ decision.roll.Outstanding
  rolls : ∀ roll ∈ state.rolls,
    after.rolls.get? roll.itemGuid =
        some (if roll.itemGuid ∈ ids then roll.departed guid else roll) ∨
      (after.rolls.get? roll.itemGuid = none ∧ ¬ roll.Outstanding ∧
        (∃ ballot ∈ roll.playerVote, ballot.guid = guid) ∧
        ∃ decision ∈ after.decided, decision.roll.itemGuid = roll.itemGuid)
  absent : ∀ itemGuid, state.rolls.get? itemGuid = none → after.rolls.get? itemGuid = none

theorem leaves_nil (hsound : state.Sound) (guid : UInt64) : Leaves guid [] state state where
  sound := hsound
  decided := ⟨[], rfl, fun _ hdecision => absurd hdecision List.not_mem_nil⟩
  rolls _ hroll := Or.inl (get?_roll hroll)
  absent _ hnone := hnone

/-- The rolls after one in which the player is entered has been found by its slot. -/
theorem Leaves.vote {ids : List Nat} {left : Rolls} (hleaves : Leaves guid ids state left)
    (hroll : roll ∈ left.rolls) (env : Environment) (draws : List UInt8) :
    Leaves guid ids state (voteIn env draws left roll guid maxRollType) := by
  by_cases hexists : ∃ ballot, Counts env roll guid ballot
  · obtain ⟨ballot, hcounts⟩ := hexists
    obtain ⟨hballot, hguid⟩ := hcounts.mem
    have hchoice : choiceVote maxRollType = none := rfl
    have hrollSound := hleaves.sound.rolls roll hroll
    rw [voteIn_eq_of_counts hcounts, hchoice, Option.map_none, Option.getD_none]
    -- Nothing is entered: the roll is stored as it was.
    have hset : ∀ itemGuid,
        (left.setRoll roll).rolls.get? itemGuid = left.rolls.get? itemGuid := by
      intro itemGuid
      rw [get?_setRoll]
      split
      next heq => rw [heq, get?_roll hroll, Option.map_some]
      · rfl
    dsimp only
    split
    next hcomplete =>
      have hall := (isComplete_iff hrollSound).mp hcomplete
      have hafter := (correct_countTheRoll hleaves.sound hroll rfl hall draws false).2
      obtain ⟨new, hnew, hdecided⟩ := hleaves.decided
      refine ⟨hafter, ⟨⟨roll, roll.outcome draws⟩ :: new, ?_, ?_⟩, ?_, ?_⟩
      · exact congrArg (List.cons _) hnew
      · intro decision hdecision
        rcases List.mem_cons.mp hdecision with rfl | hdecision
        · exact hall
        · exact hdecided decision hdecision
      · intro old hold
        by_cases hsame : old.itemGuid = roll.itemGuid
        · -- The decided roll is an old one the player has not been taken out of.
          have hget := get?_roll hroll
          rw [← hsame] at hget
          rcases hleaves.rolls old hold with hkept | ⟨hnone, -⟩
          · rw [hget, Option.some.injEq] at hkept
            have hin : roll = old := by
              split at hkept
              · rw [hkept] at hballot
                exact absurd hguid (mem_departed.mp hballot).2
              · exact hkept
            subst hin
            refine Or.inr ⟨?_, hall, ⟨ballot, hballot, hguid⟩, ⟨_, List.mem_cons_self, rfl⟩⟩
            exact Table.get?_eq_none_iff.mpr fun later hlater =>
              (mem_countTheRoll.mp hlater).2
          · rw [hget] at hnone
            cases hnone
        · have hget : (countTheRoll draws (left.setRoll roll) roll).rolls.get? old.itemGuid =
              left.rolls.get? old.itemGuid :=
            (Table.get?_erase_of_ne _ hsame).trans (hset old.itemGuid)
          rw [hget]
          rcases hleaves.rolls old hold with hkept | ⟨hnone, hvoted, hentered, decision, hmem, hid⟩
          · exact Or.inl hkept
          · exact Or.inr ⟨hnone, hvoted, hentered, decision, List.mem_cons_of_mem _ hmem, hid⟩
      · intro itemGuid hnone
        refine Table.get?_eq_none_iff.mpr fun later hlater hid => ?_
        have hlater := get?_roll (mem_countTheRoll.mp hlater).1
        rw [hset, show later.itemGuid = itemGuid from hid, hleaves.absent itemGuid hnone] at hlater
        cases hlater
    · have hafter := (correct_setRoll hleaves.sound hroll rfl hrollSound id false).2
      refine ⟨hafter, hleaves.decided, ?_, ?_⟩
      · intro old hold
        rw [hset]
        exact hleaves.rolls old hold
      · intro itemGuid hnone
        rw [hset]
        exact hleaves.absent itemGuid hnone
  · rw [voteIn_eq_of_not_counts fun ballot hcounts => hexists ⟨ballot, hcounts⟩]
    exact hleaves

variable (draws : List UInt8)

/-- A player is taken out of one roll. -/
theorem leaves_removeVoter (guid : UInt64) (hsound : state.Sound) (itemGuid : Nat) :
    Leaves guid [itemGuid] state (removeVoter env draws guid state itemGuid) := by
  have hstay : (∀ roll ∈ state.rolls, roll.itemGuid = itemGuid → roll.departed guid = roll) →
      Leaves guid [itemGuid] state state := by
    intro hsame
    refine ⟨hsound, (leaves_nil hsound guid).decided, ?_, fun _ hnone => hnone⟩
    intro roll hroll
    rw [get?_roll hroll]
    split
    next hid => rw [hsame roll hroll (List.mem_singleton.mp hid)]; exact Or.inl rfl
    · exact Or.inl rfl
  unfold removeVoter
  cases hget : state.rolls.get? itemGuid with
  | none =>
    refine hstay fun roll hroll hid => ?_
    exact absurd hid (Table.get?_eq_none_iff.mp hget roll hroll)
  | some roll =>
    obtain ⟨hroll, rfl⟩ := mem_of_get?_roll hget
    dsimp only
    cases hentered : roll.playerVote.get? guid with
    | none =>
      refine hstay fun other hother hid => ?_
      rw [eq_of_itemGuid_eq hother hroll hid]
      simp only [Roll.departed, hentered, Option.elim_none]
    | some ballot =>
      obtain ⟨hballot, -⟩ := Table.get?_eq_some_iff.mp hentered
      have hdeparted : roll.departed guid = roll.withdraw ballot := by
        simp only [Roll.departed, hentered, Option.elim_some]
      have hid : (roll.withdraw ballot).itemGuid = roll.itemGuid := rfl
      have hleaves : Leaves guid [roll.itemGuid] state
          (state.setRoll (roll.withdraw ballot)) := by
        refine ⟨⟨?_, ?_⟩, (leaves_nil hsound guid).decided, ?_, ?_⟩
        · intro later hlater
          rcases (mem_setRoll hroll hid).mp hlater with rfl | ⟨hold, -⟩
          · exact sound_withdraw (hsound.rolls roll hroll) hballot
          · exact hsound.rolls later hold
        · intro later hlater
          rcases (mem_setRoll hroll hid).mp hlater with rfl | ⟨hold, -⟩
          · exact hsound.issued roll hroll
          · exact hsound.issued later hold
        · intro other hother
          rw [get?_setRoll, hid]
          by_cases hsame : other.itemGuid = roll.itemGuid
          · rw [if_pos hsame, if_pos (List.mem_singleton.mpr hsame),
              eq_of_itemGuid_eq hother hroll hsame, get?_roll hroll, Option.map_some, hdeparted]
            exact Or.inl rfl
          · rw [if_neg hsame, if_neg fun hmem => hsame (List.mem_singleton.mp hmem),
              get?_roll hother]
            exact Or.inl rfl
        · intro id hnone
          rw [get?_setRoll, hnone]
          split <;> rfl
      dsimp only [countRollVote]
      split
      · exact hleaves
      next found hfound => exact hleaves.vote (mem_of_getRoll hfound) env draws

/-- A player is taken out of one roll after he has been taken out of others. -/
theorem Leaves.trans {ids : List Nat} {itemGuid : Nat} {mid : Rolls}
    (hfirst : Leaves guid [itemGuid] state mid) (hrest : Leaves guid ids mid after)
    (hnew : itemGuid ∉ ids) : Leaves guid (itemGuid :: ids) state after := by
  obtain ⟨first, hfirstDecided, hfirstAll⟩ := hfirst.decided
  obtain ⟨rest, hrestDecided, hrestAll⟩ := hrest.decided
  refine ⟨hrest.sound, ⟨rest ++ first, ?_, ?_⟩, ?_, ?_⟩
  · rw [hrestDecided, hfirstDecided, List.append_assoc]
  · intro decision hdecision
    rcases List.mem_append.mp hdecision with hdecision | hdecision
    · exact hrestAll decision hdecision
    · exact hfirstAll decision hdecision
  · intro roll hroll
    rcases hfirst.rolls roll hroll with hget | ⟨hnone, hall, hentered, decision, hmem, hid⟩
    · obtain ⟨hmid, hid⟩ := mem_of_get?_roll hget
      have hlater := hrest.rolls _ hmid
      rw [hid] at hlater
      by_cases hsame : roll.itemGuid = itemGuid
      · have hout : roll.itemGuid ∉ ids := hsame ▸ hnew
        rw [if_pos (List.mem_singleton.mpr hsame), if_neg hout] at hlater
        rw [if_pos (List.mem_cons.mpr (Or.inl hsame))]
        rcases hlater with hlater | ⟨-, -, ⟨ballot, hballot, hguid⟩, -⟩
        · exact Or.inl hlater
        · exact absurd hguid (mem_departed.mp hballot).2
      · rw [if_neg fun hmem => hsame (List.mem_singleton.mp hmem)] at hlater
        simp only [List.mem_cons, hsame, false_or]
        exact hlater
    · refine Or.inr ⟨hrest.absent _ hnone, hall, hentered, decision, ?_, hid⟩
      rw [hrestDecided]
      exact List.mem_append_right rest hmem
  · exact fun id hnone => hrest.absent id (hfirst.absent id hnone)

theorem leaves_foldl (guid : UInt64) (ids : List Nat) (hnodup : ids.Nodup) (hsound : state.Sound) :
    Leaves guid ids state (ids.foldl (removeVoter env draws guid) state) := by
  induction ids generalizing state with
  | nil => exact leaves_nil hsound guid
  | cons itemGuid rest ih =>
    obtain ⟨hnew, hrest⟩ := List.nodup_cons.mp hnodup
    have hfirst := leaves_removeVoter env draws guid hsound itemGuid
    exact hfirst.trans (ih hrest hfirst.sound) hnew

/-- Nobody leaves as the only one who has yet to vote in a roll. -/
def NotLast (state : Rolls) (guid : UInt64) : Prop :=
  ∀ roll ∈ state.rolls, roll.Outstanding →
    ∃ ballot ∈ roll.playerVote, ballot.guid ≠ guid ∧ ballot.vote = .notEmitedYet

theorem removeMember_correct_iff (hsound : state.Sound) (guid : UInt64) (draws : List UInt8) :
    (Correct state (removeMember env draws state guid) false ↔ NotLast state guid) ∧
      (removeMember env draws state guid).Sound := by
  have hleaves : Leaves guid (state.rolls.rows.map Roll.itemGuid) state
      (removeMember env draws state guid) :=
    leaves_foldl env draws guid _ state.rolls.nodup hsound
  have hkept : ∀ roll ∈ state.rolls,
      (removeMember env draws state guid).rolls.get? roll.itemGuid = some (roll.departed guid) ∨
      ((removeMember env draws state guid).rolls.get? roll.itemGuid = none ∧ ¬ roll.Outstanding ∧
        ∃ decision ∈ (removeMember env draws state guid).decided,
          decision.roll.itemGuid = roll.itemGuid) := by
    intro roll hroll
    have hrolls := hleaves.rolls roll hroll
    rw [if_pos (List.mem_map.mpr ⟨roll, hroll, rfl⟩)] at hrolls
    rcases hrolls with hget | ⟨hnone, hall, -, hdecided⟩
    · exact Or.inl hget
    · exact Or.inr ⟨hnone, hall, hdecided⟩
  refine ⟨⟨?_, ?_⟩, hleaves.sound⟩
  · intro hcorrect roll hroll hout
    rcases hkept roll hroll with hget | ⟨-, hall, -⟩
    · obtain ⟨hlater, hid⟩ := mem_of_get?_roll hget
      exact outstanding_departed.mp (hcorrect.prompt roll hroll hout _ hlater hid)
    · exact absurd hout hall
  · intro hlast
    refine ⟨fun roll hroll => (hleaves.sound.rolls roll hroll).toTallied, ?_, ?_, ?_⟩
    · obtain ⟨new, hnew, hall⟩ := hleaves.decided
      exact ⟨new, hnew, fun _ => hall⟩
    · intro roll hroll hout later hlater hid
      have hget := get?_roll hlater
      rw [hid] at hget
      rcases hkept roll hroll with hdeparted | ⟨hnone, -⟩
      · rw [hdeparted] at hget
        rw [← Option.some.inj hget]
        exact outstanding_departed.mpr (hlast roll hroll hout)
      · rw [hnone] at hget
        cases hget
    · intro roll hroll
      rcases hkept roll hroll with hget | ⟨-, -, hdecided⟩
      · obtain ⟨hlater, hid⟩ := mem_of_get?_roll hget
        exact Or.inl ⟨_, hlater, hid⟩
      · exact Or.inr hdecided

/-! ## The time is up -/

/-- What deciding rolls does to the others: nothing. -/
structure Ends (state after : Rolls) : Prop where
  rolls : ∀ later ∈ after.rolls, later ∈ state.rolls
  next : after.nextItemGuid = state.nextItemGuid
  decided : ∃ new, after.decided = new ++ state.decided
  ended : ∀ roll ∈ state.rolls,
    roll ∈ after.rolls ∨ ∃ decision ∈ after.decided, decision.roll.itemGuid = roll.itemGuid

theorem ends_foldl (counted : List Roll) (state : Rolls) :
    Ends state (counted.foldl (countTheRoll draws) state) := by
  induction counted generalizing state with
  | nil => exact ⟨fun _ hlater => hlater, rfl, ⟨[], rfl⟩, fun _ hroll => Or.inl hroll⟩
  | cons roll rest ih =>
    have hrest := ih (countTheRoll draws state roll)
    obtain ⟨new, hnew⟩ := hrest.decided
    refine ⟨?_, hrest.next, ⟨new ++ [⟨roll, roll.outcome draws⟩], ?_⟩, ?_⟩
    · exact fun later hlater => (mem_countTheRoll.mp (hrest.rolls later hlater)).1
    · rw [List.append_assoc]
      exact hnew
    · intro old hold
      by_cases hsame : old.itemGuid = roll.itemGuid
      · refine Or.inr ⟨⟨roll, roll.outcome draws⟩, ?_, hsame.symm⟩
        rw [List.foldl_cons, hnew]
        exact List.mem_append_right new List.mem_cons_self
      · exact hrest.ended old (mem_countTheRoll.mpr ⟨hold, hsame⟩)

theorem endRoll_correct (hsound : state.Sound) (loot : Nat) (draws : List UInt8) :
    Correct state (endRoll draws state loot) true ∧ (endRoll draws state loot).Sound := by
  have hends : Ends state (endRoll draws state loot) := ends_foldl draws _ state
  refine ⟨⟨?_, ?_, ?_, ?_⟩, ⟨?_, ?_⟩⟩
  · exact fun later hlater => (hsound.rolls later (hends.rolls later hlater)).toTallied
  · obtain ⟨new, hnew⟩ := hends.decided
    exact ⟨new, hnew, fun htime => absurd htime (by decide)⟩
  · intro roll hroll hout later hlater hid
    rw [eq_of_itemGuid_eq (hends.rolls later hlater) hroll hid]
    exact hout
  · intro roll hroll
    rcases hends.ended roll hroll with hlater | hdecided
    · exact Or.inl ⟨roll, hlater, rfl⟩
    · exact Or.inr hdecided
  · exact fun later hlater => hsound.rolls later (hends.rolls later hlater)
  · intro later hlater
    rw [hends.next]
    exact hsound.issued later (hends.rolls later hlater)

/-! ## A loot is cleared -/

theorem clearReferences_correct (hsound : state.Sound) (loot : Nat) :
    Correct state (clearReferences state loot) false ∧ (clearReferences state loot).Sound := by
  have hmem : ∀ later, later ∈ (clearReferences state loot).rolls ↔ ∃ roll ∈ state.rolls,
      { roll with loot := if roll.loot = some loot then none else roll.loot } = later :=
    fun later => Table.mem_map
      (f := fun roll : Roll => { roll with loot := if roll.loot = some loot then none else roll.loot })
      fun _ => rfl
  -- Only the link to the loot has changed: the votes and the counters are those of an old roll.
  have hrolls : ∀ later ∈ (clearReferences state loot).rolls, later.Sound ∧
      later.itemGuid < state.nextItemGuid := by
    intro later hlater
    obtain ⟨roll, hroll, rfl⟩ := (hmem later).mp hlater
    have hold := hsound.rolls roll hroll
    exact ⟨⟨⟨hold.need, hold.greed, hold.pass, hold.players⟩, hold.valid, hold.size⟩,
      hsound.issued roll hroll⟩
  refine ⟨⟨?_, ⟨[], rfl, fun _ _ hdecision => absurd hdecision List.not_mem_nil⟩, ?_, ?_⟩, ⟨?_, ?_⟩⟩
  · exact fun later hlater => (hrolls later hlater).1.toTallied
  · intro roll hroll hout later hlater hid
    obtain ⟨old, hold, rfl⟩ := (hmem later).mp hlater
    obtain rfl := eq_of_itemGuid_eq hold hroll hid
    exact hout
  · exact fun roll hroll => Or.inl ⟨_, (hmem _).mpr ⟨roll, hroll, rfl⟩, rfl⟩
  · exact fun later hlater => (hrolls later hlater).1
  · exact fun later hlater => (hrolls later hlater).2

/-! ## New rolls -/

variable {member : Member} (autoPass : Bool)

def firstBallot (member : Member) : Ballot :=
  ⟨member.guid, if autoPass && member.passOnGroupLoot then .pass else .notEmitedYet⟩

theorem firstBallot_kinds (member : Member) :
    (firstBallot autoPass member).vote.isNeed = false ∧
      (firstBallot autoPass member).vote.isGreed = false ∧
      (firstBallot autoPass member).vote.isPass = (autoPass && member.passOnGroupLoot) ∧
      (firstBallot autoPass member).vote ≠ .notValid := by
  unfold firstBallot
  cases autoPass && member.passOnGroupLoot <;> exact ⟨rfl, rfl, rfl, by simp⟩

theorem count_addMember (hnew : roll.playerVote.get? member.guid = none) (autoPass : Bool)
    (kind : RollVote → Bool) :
    (roll.addMember autoPass member).count kind =
      roll.count kind + if kind (firstBallot autoPass member).vote then 1 else 0 := by
  have hkey : roll.playerVote.get? (Keyed.key (firstBallot autoPass member)) = none := hnew
  exact Table.sum_insert hkey byGuid _

theorem sound_addMember (hsound : roll.Sound) (hnew : roll.playerVote.get? member.guid = none)
    (hsize : (roll.count fun _ => true) < maxRaidSize) (autoPass : Bool) :
    (roll.addMember autoPass member).Sound := by
  obtain ⟨hneed, hgreed, hpass, hvalid⟩ := firstBallot_kinds autoPass member
  have hcount := count_addMember hnew autoPass
  refine ⟨⟨?_, ?_, ?_, ?_⟩, ?_, ?_⟩
  · rw [hcount, hneed]
    exact hsound.need
  · rw [hcount, hgreed]
    exact hsound.greed
  · rw [hcount, hpass, ← hsound.pass]
    refine toNat_bumped ?_ (autoPass && member.passOnGroupLoot)
    rw [hsound.pass]
    exact hsound.lt _
  · rw [hcount, ← hsound.players]
    refine toNat_bumped ?_ true
    rw [hsound.players]
    exact hsound.lt _
  · intro ballot hballot
    rcases Table.mem_insert.mp hballot with rfl | ⟨hold, -⟩
    · exact hvalid
    · exact hsound.valid ballot hold
  · rw [hcount]
    simp only [if_true]
    omega

theorem get?_addMember {autoPass : Bool} {other : UInt64} (hne : other ≠ member.guid) :
    (roll.addMember autoPass member).playerVote.get? other = roll.playerVote.get? other :=
  (Table.get?_insert roll.playerVote (firstBallot autoPass member) byGuid other).trans
    (if_neg hne)

theorem sound_foldl_addMember (members : List Member) (hnodup : (members.map Member.guid).Nodup)
    (hsound : roll.Sound) (hnew : ∀ member ∈ members, roll.playerVote.get? member.guid = none)
    (hsize : (roll.count fun _ => true) + members.length ≤ maxRaidSize) :
    (members.foldl (Roll.addMember autoPass) roll).Sound ∧
      (members.foldl (Roll.addMember autoPass) roll).itemGuid = roll.itemGuid := by
  induction members generalizing roll with
  | nil => exact ⟨hsound, rfl⟩
  | cons member rest ih =>
    obtain ⟨hfresh, hrest⟩ := List.nodup_cons.mp hnodup
    have hmember := hnew member List.mem_cons_self
    rw [List.length_cons] at hsize
    refine ih hrest (sound_addMember hsound hmember (by omega) autoPass) ?_ ?_
    · intro other hother
      have hne : other.guid ≠ member.guid := by
        intro heq
        exact hfresh (List.mem_map.mpr ⟨other, hother, heq⟩)
      rw [get?_addMember hne]
      exact hnew other (List.mem_cons_of_mem member hother)
    · rw [count_addMember hmember, if_pos rfl]
      omega

theorem sound_blank (itemGuid : Nat) (object : LootedObject) (itemSlot : UInt8) :
    (Roll.blank itemGuid object itemSlot).Sound := by
  refine ⟨⟨rfl, rfl, rfl, rfl⟩, ?_, Nat.zero_le _⟩
  exact fun ballot hballot => absurd hballot List.not_mem_nil

/-- What starting rolls does: the old ones stay, and the new ones are sound. -/
structure Starts (state after : Rolls) : Prop where
  decided : after.decided = state.decided
  next : state.nextItemGuid ≤ after.nextItemGuid
  kept : ∀ roll ∈ state.rolls, roll ∈ after.rolls
  rolls : ∀ later ∈ after.rolls, later ∈ state.rolls ∨
    (later.Sound ∧ state.nextItemGuid ≤ later.itemGuid ∧ later.itemGuid < after.nextItemGuid)

theorem starts_startRoll (hsound : state.Sound) (object : LootedObject) (members : Members)
    (stake : Stake) : Starts state (startRoll object members state stake) := by
  have hroll := sound_foldl_addMember stake.autoPass
    (members.list.filter fun member =>
      stake.item.allowedForPlayer member.guid && member.isWithinDist)
    (members.nodup.sublist (List.filter_sublist.map Member.guid))
    (sound_blank state.nextItemGuid object stake.itemSlot) (fun _ _ => rfl)
    (le_trans (by rw [show ((Roll.blank state.nextItemGuid object stake.itemSlot).count
      fun _ => true) = 0 from rfl, Nat.zero_add]; exact List.length_filter_le _ _) members.size)
  unfold startRoll
  dsimp only
  generalize List.foldl _ _ _ = roll at hroll
  obtain ⟨hroll, hid⟩ := hroll
  have hid : roll.itemGuid = state.nextItemGuid := hid
  refine ⟨rfl, Nat.le_succ _, ?_, ?_⟩
  · intro old hold
    have hissued := hsound.issued old hold
    split
    · refine Table.mem_insert.mpr (Or.inr ⟨hold, ?_⟩)
      rw [key_roll, key_roll, hid]
      omega
    · exact hold
  · intro later hlater
    dsimp only at hlater ⊢
    split at hlater
    · rcases Table.mem_insert.mp hlater with rfl | ⟨hold, -⟩
      · exact Or.inr ⟨hroll, by omega, by omega⟩
      · exact Or.inl hold
    · exact Or.inl hlater

theorem Starts.sound (hstarts : Starts state after) (hsound : state.Sound) : after.Sound := by
  refine ⟨fun later hlater => ?_, fun later hlater => ?_⟩
  · rcases hstarts.rolls later hlater with hold | ⟨hnew, -⟩
    · exact hsound.rolls later hold
    · exact hnew
  · rcases hstarts.rolls later hlater with hold | ⟨-, -, hlt⟩
    · exact lt_of_lt_of_le (hsound.issued later hold) hstarts.next
    · exact hlt

theorem Starts.trans {mid : Rolls} (hfirst : Starts state mid) (hsecond : Starts mid after) :
    Starts state after := by
  refine ⟨hsecond.decided.trans hfirst.decided, le_trans hfirst.next hsecond.next, ?_, ?_⟩
  · exact fun roll hroll => hsecond.kept roll (hfirst.kept roll hroll)
  · intro later hlater
    rcases hsecond.rolls later hlater with hmid | ⟨hnew, hle, hlt⟩
    · rcases hfirst.rolls later hmid with hold | ⟨hnew, hle, hlt⟩
      · exact Or.inl hold
      · exact Or.inr ⟨hnew, hle, lt_of_lt_of_le hlt hsecond.next⟩
    · exact Or.inr ⟨hnew, le_trans hfirst.next hle, hlt⟩

theorem starts_foldl (object : LootedObject) (members : Members) (stakes : List Stake)
    (hsound : state.Sound) : Starts state (stakes.foldl (startRoll object members) state) := by
  induction stakes generalizing state with
  | nil => exact ⟨rfl, le_rfl, fun _ hroll => hroll, fun _ hlater => Or.inl hlater⟩
  | cons stake rest ih =>
    have hfirst := starts_startRoll hsound object members stake
    exact hfirst.trans (ih (hfirst.sound hsound))

theorem Starts.correct (hstarts : Starts state after) (hsound : state.Sound) :
    Correct state after false := by
  refine ⟨?_, ⟨[], hstarts.decided, fun _ _ hdecision => absurd hdecision List.not_mem_nil⟩, ?_, ?_⟩
  · exact fun later hlater => ((hstarts.sound hsound).rolls later hlater).toTallied
  · intro roll hroll hout later hlater hid
    rw [eq_of_itemGuid_eq hlater (hstarts.kept roll hroll) hid]
    exact hout
  · exact fun roll hroll => Or.inl ⟨roll, hstarts.kept roll hroll, rfl⟩

end

/-! ## Runs -/

/-- An event is followed by a correct state; a group that is disbanded has no rolls left. -/
def CorrectStep (env : Environment) (state : Rolls) : RollEvent → Prop
  | .disband => ∀ roll, roll ∉ (rollStep env state .disband).rolls
  | .endRoll loot draws => Correct state (rollStep env state (.endRoll loot draws)) true
  | event => Correct state (rollStep env state event) false

/-- Nobody votes again in a roll while others have yet to vote in it, and nobody leaves as the
only one who has yet to vote in a roll. -/
def InOrder (env : Environment) (state : Rolls) : RollEvent → Prop
  | .vote guid _ itemSlot rollType _ =>
    ∀ roll, state.getRoll itemSlot = some roll → InTurn env roll guid rollType
  | .removeMember guid _ => NotLast state guid
  | _ => True

section

variable {state : Rolls}

theorem countRollVote_correct_iff (hsound : state.Sound) (guid : UInt64) (slot choice : UInt8)
    (draws : List UInt8) :
    (Correct state (countRollVote env draws state guid slot choice) false ↔
        ∀ roll, state.getRoll slot = some roll → InTurn env roll guid choice) ∧
      ((∀ roll, state.getRoll slot = some roll → InTurn env roll guid choice) →
        (countRollVote env draws state guid slot choice).Sound) := by
  unfold countRollVote
  cases hget : state.getRoll slot with
  | none =>
    refine ⟨iff_of_true (correct_refl hsound false) ?_, fun _ => hsound⟩
    exact fun _ hroll => absurd hroll (by simp)
  | some roll =>
    have hvote := voteIn_correct_iff env hsound (mem_of_getRoll hget) guid choice draws
    have hturn : (∀ other, some roll = some other → InTurn env other guid choice) ↔
        InTurn env roll guid choice := by
      constructor
      · exact fun hturn => hturn roll rfl
      · intro hturn other hother
        obtain rfl := Option.some.inj hother
        exact hturn
    rw [hturn]
    exact hvote

theorem correctStep_iff (hsound : state.Sound) (event : RollEvent) :
    (CorrectStep env state event ↔ InOrder env state event) ∧
      (InOrder env state event → (rollStep env state event).Sound) := by
  cases event with
  | groupLoot object members =>
    have hstarts : Starts state (rollStep env state (.groupLoot object members)) :=
      starts_foldl object members _ hsound
    exact ⟨iff_of_true (hstarts.correct hsound) trivial, fun _ => hstarts.sound hsound⟩
  | needBeforeGreed object members =>
    have hstarts : Starts state (rollStep env state (.needBeforeGreed object members)) :=
      starts_foldl object members _ hsound
    exact ⟨iff_of_true (hstarts.correct hsound) trivial, fun _ => hstarts.sound hsound⟩
  | doRollForAllMembers object members itemSlot item =>
    have hstarts := starts_startRoll hsound object members ⟨itemSlot, item, false⟩
    exact ⟨iff_of_true (hstarts.correct hsound) trivial, fun _ => hstarts.sound hsound⟩
  | vote guid looted itemSlot rollType draws =>
    exact countRollVote_correct_iff env hsound guid itemSlot rollType draws
  | removeMember guid draws =>
    have hremove := removeMember_correct_iff env hsound guid draws
    exact ⟨hremove.1, fun _ => hremove.2⟩
  | endRoll loot draws =>
    have hend := endRoll_correct hsound loot draws
    exact ⟨iff_of_true hend.1 trivial, fun _ => hend.2⟩
  | clearReferences loot =>
    have hclear := clearReferences_correct hsound loot
    exact ⟨iff_of_true hclear.1 trivial, fun _ => hclear.2⟩
  | disband =>
    have hempty : ∀ roll, roll ∉ (rollStep env state .disband).rolls :=
      fun _ hroll => absurd hroll List.not_mem_nil
    refine ⟨iff_of_true hempty trivial, fun _ => ⟨?_, ?_⟩⟩
    · exact fun roll hroll => absurd hroll (hempty roll)
    · exact fun roll hroll => absurd hroll (hempty roll)

end

/-- A group that has not rolled yet. -/
def noRolls : Rolls where
  rolls := Table.empty
  nextItemGuid := 1
  decided := []

theorem sound_noRolls : noRolls.Sound :=
  ⟨fun _ hroll => absurd hroll List.not_mem_nil, fun _ hroll => absurd hroll List.not_mem_nil⟩

/-- The rolls of a group are accounted for in every step of a run if and only if nobody votes
again while others have yet to vote, and nobody leaves as the last one to vote. -/
theorem rolls_correct_iff_inOrder (env : Environment) (events : List RollEvent) :
    Along (rollStep env) (CorrectStep env) noRolls events ↔
      Along (rollStep env) (InOrder env) noRolls events :=
  along_iff_of_invariant (rollStep env) Rolls.Sound
    (fun _ event hsound => (correctStep_iff env hsound event).2)
    (fun _ event hsound => (correctStep_iff env hsound event).1)
    noRolls events sound_noRolls

/-! A group of two near a corpse with one item. -/

def plainItem : LootItem := ⟨1, false, false, fun _ => true⟩

def corpse (guid : UInt64) : LootedObject := ⟨guid, guid.toNat, [plainItem], []⟩

def pair : Members := ⟨[⟨1, true, false⟩, ⟨2, true, false⟩], by decide, by decide⟩

def rareLoot : Environment := ⟨fun _ => some 3, 2, fun _ => false⟩

/-- The two players roll for the item of the corpse. -/
def rolling : Rolls := rollStep rareLoot noRolls (.groupLoot (corpse 7) pair)

def halfVoted : Rolls := rollStep rareLoot rolling (.vote 1 7 0 1 [])

/-- A second vote of one player decides a roll for which the other has yet to vote, and a roll
for which one has voted stays active when the other leaves. -/
theorem rolls_not_correct :
    (¬ ∀ env events, Along (rollStep env) (CorrectStep env) noRolls events) ∧
      ¬ Along (rollStep rareLoot) (CorrectStep rareLoot) noRolls
        [.groupLoot (corpse 7) pair, .vote 1 7 0 1 [], .vote 1 7 0 1 []] ∧
      ¬ Along (rollStep rareLoot) (CorrectStep rareLoot) noRolls
        [.groupLoot (corpse 7) pair, .vote 1 7 0 1 [], .removeMember 2 []] := by
  have htwice : ¬ Along (rollStep rareLoot) (CorrectStep rareLoot) noRolls
      [.groupLoot (corpse 7) pair, .vote 1 7 0 1 [], .vote 1 7 0 1 []] := by
    rintro ⟨-, -, hcorrect, -⟩
    obtain ⟨new, hnew, hall⟩ := hcorrect.decided
    have hbefore : halfVoted.decided = [] := by decide +kernel
    have hdecided : (rollStep rareLoot halfVoted (.vote 1 7 0 1 [])).decided.map
        (fun decision => decision.roll.playerVote.rows) = [[⟨1, .need⟩, ⟨2, .notEmitedYet⟩]] := by
      decide +kernel
    have hnew : (rollStep rareLoot halfVoted (.vote 1 7 0 1 [])).decided = new :=
      hnew.trans ((congrArg (new ++ ·) hbefore).trans (List.append_nil new))
    rw [hnew] at hdecided
    obtain ⟨decision, rfl, hvotes⟩ := List.map_eq_singleton_iff.mp hdecided
    refine hall rfl decision List.mem_cons_self ⟨⟨2, .notEmitedYet⟩, ?_, rfl⟩
    rw [Table.mem_def, hvotes]
    decide
  have hleft : ¬ Along (rollStep rareLoot) (CorrectStep rareLoot) noRolls
      [.groupLoot (corpse 7) pair, .vote 1 7 0 1 [], .removeMember 2 []] := by
    rintro ⟨-, -, hcorrect, -⟩
    have hbefore : halfVoted.rolls.rows.map (fun roll => (roll.itemGuid, roll.playerVote.rows)) =
        [(1, [⟨1, .need⟩, ⟨2, .notEmitedYet⟩])] := by decide +kernel
    have hafter : (rollStep rareLoot halfVoted (.removeMember 2 [])).rolls.rows.map
        (fun roll => (roll.itemGuid, roll.playerVote.rows)) = [(1, [⟨1, .need⟩])] := by
      decide +kernel
    obtain ⟨roll, hroll, hvotes⟩ := List.map_eq_singleton_iff.mp hbefore
    obtain ⟨later, hlater, hleft⟩ := List.map_eq_singleton_iff.mp hafter
    obtain ⟨hid, hvotes⟩ := Prod.mk.inj hvotes
    obtain ⟨hlaterId, hleft⟩ := Prod.mk.inj hleft
    have hmem : roll ∈ halfVoted.rolls := by
      rw [Table.mem_def, hroll]
      exact List.mem_cons_self
    have hlaterMem : later ∈ (rollStep rareLoot halfVoted (.removeMember 2 [])).rolls := by
      rw [Table.mem_def, hlater]
      exact List.mem_cons_self
    have hout : roll.Outstanding := by
      refine ⟨⟨2, .notEmitedYet⟩, ?_, rfl⟩
      rw [Table.mem_def, hvotes]
      decide
    obtain ⟨ballot, hballot, hvote⟩ :=
      hcorrect.prompt roll hmem hout later hlaterMem (hlaterId.trans hid.symm)
    rw [Table.mem_def, hleft, List.mem_singleton] at hballot
    rw [hballot] at hvote
    cases hvote
  exact ⟨fun hall => htwice (hall rareLoot _), htwice, hleft⟩

end MopServer.Groups
