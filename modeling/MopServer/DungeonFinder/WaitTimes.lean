import Mathlib.Tactic.Linarith
import MopServer.DungeonFinder.LFGMgr
import MopServer.Foundation.Run

/-! # How long players have waited

An average is kept of the wait times of those who found a group, in a signed word that is multiplied
as an unsigned one.
-/

namespace MopServer.DungeonFinder

open MopServer.Foundation

/-! ## One average -/

/-- `m_WaitTimeAvg` and `m_NumWaitTimeAvg`, or those of a role. -/
structure WaitTimer where
  average : Int32
  number : UInt32
  /-- The wait times that have been counted. -/
  included : List Int32

namespace WaitTimer

/-- There is no average yet. -/
def new : WaitTimer := ⟨-1, 0, []⟩

variable (timer : WaitTimer) (wait : Int32)

def record : WaitTimer :=
  let number := timer.number + 1
  { average := ((timer.average.toUInt32 * timer.number + wait.toUInt32) / number).toInt32
    number
    included := wait :: timer.included }

/-- The average lies between the least and the greatest wait time. -/
def Between : Prop :=
  (∃ wait ∈ timer.included, wait.toInt ≤ timer.average.toInt) ∧
    ∃ wait ∈ timer.included, timer.average.toInt ≤ wait.toInt

/-- What is to be divided. -/
def total : Int :=
  timer.average.toInt * timer.number.toNat + wait.toInt

/-- The number does not overflow, and what is to be divided is an unsigned word if it is not the
first wait time. -/
def Fits : Prop :=
  timer.number.toNat + 1 < 2 ^ 32 ∧
    (timer.number = 0 ∨ 0 ≤ timer.total wait ∧ timer.total wait < 2 ^ 32)

/-- All wait times are counted, and there is an average of them. -/
structure Sound (timer : WaitTimer) : Prop where
  number : timer.number.toNat = timer.included.length
  between : timer.included ≠ [] → timer.Between

theorem sound_new : Sound new := ⟨rfl, fun hnil => absurd rfl hnil⟩

theorem toNat_toUInt32 (value : Int32) : (value.toUInt32.toNat : Int) = value.toInt % 2 ^ 32 := by
  have hvalue : value.toInt = (value.toUInt32.toNat : Int).bmod (2 ^ 32) :=
    BitVec.toInt_eq_toNat_bmod value.toBitVec
  have hlt : (value.toUInt32.toNat : Int) < 2 ^ 32 := by exact_mod_cast value.toUInt32.toNat_lt
  have hsame := Int.bmod_emod (x := (value.toUInt32.toNat : Int)) (m := 2 ^ 32)
  rw [← hvalue] at hsame
  exact (hsame.trans (Int.emod_eq_of_lt (Int.natCast_nonneg _) hlt)).symm

/-- A sum that is an unsigned word is computed without overflow. -/
theorem toNat_total {timer : WaitTimer} {wait : Int32} (hlow : 0 ≤ timer.total wait)
    (hhigh : timer.total wait < 2 ^ 32) :
    ((timer.average.toUInt32 * timer.number + wait.toUInt32).toNat : Int) = timer.total wait := by
  have hproduct : ((timer.average.toUInt32.toNat * timer.number.toNat : Nat) : Int) % 2 ^ 32 =
      timer.average.toInt * timer.number.toNat % 2 ^ 32 := by
    rw [Nat.cast_mul, toNat_toUInt32, Int.mul_emod, Int.emod_emod, ← Int.mul_emod]
  rw [UInt32.toNat_add, UInt32.toNat_mul, Int.natCast_emod, Nat.cast_add, Int.natCast_emod,
    toNat_toUInt32]
  push_cast at hproduct ⊢
  rw [hproduct, Int.emod_add_emod, Int.add_emod_emod]
  exact Int.emod_eq_of_lt hlow hhigh

theorem mean_between (average wait : Int) (number : Nat) :
    (average ≤ (average * number + wait) / (number + 1) ∨
      wait ≤ (average * number + wait) / (number + 1)) ∧
    ((average * number + wait) / (number + 1) ≤ average ∨
      (average * number + wait) / (number + 1) ≤ wait) := by
  have hpositive : (0 : Int) < number + 1 := by omega
  constructor
  · by_contra hboth
    obtain ⟨haverage, hwait⟩ := not_or.mp hboth
    have hlow : min average wait ≤ (average * number + wait) / (number + 1) := by
      rw [Int.le_ediv_iff_mul_le hpositive]
      have hproduct := mul_le_mul_of_nonneg_right (min_le_left average wait)
        (Int.natCast_nonneg number)
      linarith [min_le_right average wait]
    omega
  · by_contra hboth
    obtain ⟨haverage, hwait⟩ := not_or.mp hboth
    have hhigh : (average * number + wait) / (number + 1) < max average wait + 1 := by
      rw [Int.ediv_lt_iff_lt_mul hpositive]
      have hproduct := mul_le_mul_of_nonneg_right (le_max_left average wait)
        (Int.natCast_nonneg number)
      linarith [le_max_right average wait]
    omega

/-- One more wait time keeps the average between the least and the greatest. -/
theorem Sound.record {timer : WaitTimer} (hsound : Sound timer) {wait : Int32}
    (hfits : timer.Fits wait) : Sound (timer.record wait) := by
  obtain ⟨hnumber, hbetween⟩ := hsound
  obtain ⟨hcount, htotal⟩ := hfits
  have hnext : (timer.number + 1).toNat = timer.number.toNat + 1 := by
    rw [UInt32.toNat_add]
    exact Nat.mod_eq_of_lt hcount
  refine ⟨?_, fun _ => ?_⟩
  · show (timer.number + 1).toNat = (wait :: timer.included).length
    rw [hnext, hnumber, List.length_cons]
  by_cases hzero : timer.number = 0
  · -- The first wait time is the average, whatever was there before.
    have haverage : (timer.record wait).average = wait := by
      show ((_ * timer.number + wait.toUInt32) / (timer.number + 1)).toInt32 = wait
      simp [hzero]
    refine ⟨⟨wait, List.mem_cons_self, ?_⟩, wait, List.mem_cons_self, ?_⟩
    · rw [haverage]
    · rw [haverage]
  obtain ⟨hlow, hhigh⟩ := htotal.resolve_left hzero
  have hsome : timer.included ≠ [] := by
    rintro hnil
    apply hzero
    apply UInt32.toNat_inj.mp
    rw [hnumber, hnil]
    rfl
  obtain ⟨⟨low, hlowMem, hlowLe⟩, high, hhighMem, hhighLe⟩ := hbetween hsome
  have hmean := mean_between timer.average.toInt wait.toInt timer.number.toNat
  have haverage : (timer.record wait).average.toInt =
      (timer.average.toInt * timer.number.toNat + wait.toInt) / (timer.number.toNat + 1) := by
    have hquotient : (((timer.average.toUInt32 * timer.number + wait.toUInt32) /
        (timer.number + 1)).toNat : Int) = timer.total wait / (timer.number.toNat + 1) := by
      rw [UInt32.toNat_div, Int.natCast_ediv, toNat_total hlow hhigh, hnext]
      rfl
    -- The mean is a signed word because one of the two is not less.
    have hword : timer.total wait / (timer.number.toNat + 1) < 2 ^ 31 := by
      rcases hmean.2 with hle | hle
      · exact lt_of_le_of_lt hle timer.average.toInt_lt
      · exact lt_of_le_of_lt hle wait.toInt_lt
    have hbits : (timer.record wait).average.toInt =
        (((timer.average.toUInt32 * timer.number + wait.toUInt32) /
          (timer.number + 1)).toNat : Int).bmod (2 ^ 32) := BitVec.toInt_eq_toNat_bmod _
    rw [hbits, hquotient]
    exact Int.bmod_eq_of_le (by omega) (by omega)
  rw [← haverage] at hmean
  obtain ⟨hnotBelow, hnotAbove⟩ := hmean
  constructor
  · rcases hnotBelow with hle | hle
    · exact ⟨low, List.mem_cons_of_mem _ hlowMem, hlowLe.trans hle⟩
    · exact ⟨wait, List.mem_cons_self, hle⟩
  · rcases hnotAbove with hle | hle
    · exact ⟨high, List.mem_cons_of_mem _ hhighMem, hle.trans hhighLe⟩
    · exact ⟨wait, List.mem_cons_self, hle⟩

end WaitTimer

/-! ## The averages of the finder -/

/-- The averages, by the role that a player was in the queue for. -/
structure WaitTimes where
  /-- Of those with several roles. -/
  avg : WaitTimer
  tank : WaitTimer
  healer : WaitTimer
  dps : WaitTimer

/-- A player of a proposal that everybody has accepted. -/
structure CompletedPlayer where
  /-- `GetRoles`. -/
  roles : UInt8
  /-- When he joined, or his group; nothing if the queue info is not found. -/
  joinTime : Option Int64

structure CompletedProposal where
  now : Int64
  players : List CompletedPlayer

/-- An entry of `waitTimesMap`. -/
def CompletedPlayer.waitTime (now : Int64) (player : CompletedPlayer) : Int32 :=
  match player.joinTime with
  | none => -1
  | some joinTime => (now - joinTime).toInt32

def CompletedProposal.waits (proposal : CompletedProposal) : List (UInt8 × Int32) :=
  proposal.players.map fun player => (player.roles, player.waitTime proposal.now)

namespace WaitTimes

def new : WaitTimes := ⟨.new, .new, .new, .new⟩

variable (times : WaitTimes)

/-- The average that a player counts for. -/
def timer (roles : UInt8) : WaitTimer :=
  let role := roles &&& ~~~roleLeader
  if role = roleDamage then times.dps
  else if role = roleHealer then times.healer
  else if role = roleTank then times.tank
  else times.avg

/-- Update timers. -/
def record (times : WaitTimes) (entry : UInt8 × Int32) : WaitTimes :=
  let role := entry.1 &&& ~~~roleLeader
  if role = roleDamage then { times with dps := times.dps.record entry.2 }
  else if role = roleHealer then { times with healer := times.healer.record entry.2 }
  else if role = roleTank then { times with tank := times.tank.record entry.2 }
  else { times with avg := times.avg.record entry.2 }

/-- `UpdateProposal`, once all have answered. -/
def updateProposal (proposal : CompletedProposal) : WaitTimes :=
  proposal.waits.foldl record times

/-- Every wait time of the proposal fits the average that it counts for. -/
def Fits (times : WaitTimes) (proposal : CompletedProposal) : Prop :=
  Along record (fun times entry => (times.timer entry.1).Fits entry.2) times proposal.waits

/-- Whatever holds of the averages. -/
def All (property : WaitTimer → Prop) (times : WaitTimes) : Prop :=
  property times.avg ∧ property times.tank ∧ property times.healer ∧ property times.dps

theorem all_record {times : WaitTimes} (hsound : times.All WaitTimer.Sound)
    {entry : UInt8 × Int32} (hfits : (times.timer entry.1).Fits entry.2) :
    (times.record entry).All WaitTimer.Sound := by
  obtain ⟨havg, htank, hhealer, hdps⟩ := hsound
  unfold timer at hfits
  unfold record
  dsimp only at hfits ⊢
  split
  next hrole =>
    rw [if_pos hrole] at hfits
    exact ⟨havg, htank, hhealer, hdps.record hfits⟩
  next hrole =>
    rw [if_neg hrole] at hfits
    split
    next hrole =>
      rw [if_pos hrole] at hfits
      exact ⟨havg, htank, hhealer.record hfits, hdps⟩
    next hrole =>
      rw [if_neg hrole] at hfits
      split
      next hrole =>
        rw [if_pos hrole] at hfits
        exact ⟨havg, htank.record hfits, hhealer, hdps⟩
      next hrole =>
        rw [if_neg hrole] at hfits
        exact ⟨havg.record hfits, htank, hhealer, hdps⟩

theorem all_updateProposal {times : WaitTimes} (hsound : times.All WaitTimer.Sound)
    {proposal : CompletedProposal} (hfits : times.Fits proposal) :
    (times.updateProposal proposal).All WaitTimer.Sound := by
  unfold Fits at hfits
  unfold updateProposal
  generalize proposal.waits = waits at hfits ⊢
  induction waits generalizing times with
  | nil => exact hsound
  | cons entry rest ih => exact ih (all_record hsound hfits.1) hfits.2

/-- Along proposals whose wait times fit, every average lies between the least and the greatest of
the wait times that were counted for it. -/
theorem between_along (proposals : List CompletedProposal)
    (halong : Along updateProposal Fits new proposals) :
    ∀ reached ∈ visited updateProposal new proposals,
      reached.All fun timer => timer.included ≠ [] → timer.Between := by
  intro reached hreached
  have hnew : new.All WaitTimer.Sound :=
    ⟨WaitTimer.sound_new, WaitTimer.sound_new, WaitTimer.sound_new, WaitTimer.sound_new⟩
  obtain ⟨havg, htank, hhealer, hdps⟩ :=
    invariant_of_along updateProposal (All WaitTimer.Sound) Fits
      (fun _ _ hsound hfits => all_updateProposal hsound hfits) new proposals hnew halong reached
      hreached
  exact ⟨havg.between, htank.between, hhealer.between, hdps.between⟩

end WaitTimes

end MopServer.DungeonFinder
