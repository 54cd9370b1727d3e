import MopServer.Battlegrounds.QueueUpdate

/-! # The balancing of the battleground queue ends

The balancing of two selection pools is given a number of rounds.  It is large enough: another
round would change nothing.
-/

namespace MopServer.Battlegrounds

open Foundation

variable {pool : SelectionPool}

namespace SelectionPool

/-- The players counted are those of the selected groups. -/
def Counted (pool : SelectionPool) : Prop :=
  pool.playerCount = (pool.selectedGroups.map fun ginfo => ginfo.info.players.length).sum

theorem counted_init : Counted init := rfl

theorem counted_addGroup (hpool : pool.Counted) (ginfo : QueuedGroup) (desiredCount : Nat)
    (mapId : UInt32) : (pool.addGroup ginfo desiredCount mapId).1.Counted := by
  unfold addGroup
  split
  · simp [Counted, hpool.symm]
  · exact hpool

/-- A pool is filled with groups that wait, or stays as it is. -/
theorem fill_spec (desiredCount : Nat) (mapId : UInt32) (hpool : pool.Counted)
    (waiting : List QueuedGroup) :
    (pool.fill desiredCount mapId waiting).1.Counted ∧
      ((pool.fill desiredCount mapId waiting).1 = pool ∨
        pool.selectedGroups.length <
          (pool.fill desiredCount mapId waiting).1.selectedGroups.length) ∧
      (pool.fill desiredCount mapId waiting).1.selectedGroups.length +
          (pool.fill desiredCount mapId waiting).2.length ≤
        pool.selectedGroups.length + waiting.length := by
  induction waiting generalizing pool with
  | nil => exact ⟨hpool, Or.inl rfl, le_rfl⟩
  | cons ginfo rest ih =>
    have hcounted := counted_addGroup hpool ginfo desiredCount mapId
    have hadded : (pool.addGroup ginfo desiredCount mapId).1 = pool ∨
        (pool.addGroup ginfo desiredCount mapId).1.selectedGroups.length =
          pool.selectedGroups.length + 1 := by
      unfold addGroup
      split
      · right; simp
      · left; rfl
    unfold fill
    split
    next pool' heq =>
      rw [heq] at hcounted hadded
      dsimp only at hcounted hadded
      obtain ⟨hafter, hgrown, hlength⟩ := ih hcounted
      refine ⟨hafter, ?_, ?_⟩
      · rcases hadded with rfl | hadded
        · exact hgrown
        · rcases hgrown with hsame | hgrown
          · rw [hsame]
            omega
          · omega
      · rw [List.length_cons]
        rcases hadded with rfl | hadded <;> omega
    next pool' heq =>
      have hsame : pool' = pool := by
        unfold addGroup at heq
        split at heq
        · exact absurd (Prod.mk.inj heq).2 nofun
        · exact (Prod.mk.inj heq).1.symm
      subst hsame
      exact ⟨hpool, Or.inl rfl, le_rfl⟩

theorem groupToKick_lt (size : Nat) (groups : List QueuedGroup) (position : Nat)
    (best : Nat × Nat) (found : Bool) (hbest : best.1 < position + groups.length) :
    groupToKick size groups position best found < position + groups.length := by
  induction groups generalizing position best found with
  | nil => exact hbest
  | cons ginfo rest ih =>
    rw [List.length_cons] at hbest ⊢
    have hnext : position + (rest.length + 1) = position + 1 + rest.length := by omega
    rw [hnext] at hbest ⊢
    unfold groupToKick
    dsimp only
    split
    · exact ih _ _ _ (by dsimp only; omega)
    · split
      · exact ih _ _ _ (by dsimp only; omega)
      · exact ih _ _ _ hbest

/-- A pool with players loses a group, and an empty one is left alone. -/
theorem kickGroup_spec (hpool : pool.Counted) (size : Nat) :
    (pool.kickGroup size).1.Counted ∧
      (pool.playerCount = 0 → pool.kickGroup size = (pool, true)) ∧
      (pool.playerCount ≠ 0 →
        (pool.kickGroup size).1.selectedGroups.length + 1 = pool.selectedGroups.length) := by
  unfold kickGroup
  dsimp only
  generalize (pool.selectedGroups.head?.map fun ginfo => ginfo.info.players.length).getD 0 =
    first
  by_cases hzero : pool.playerCount = 0
  · simp [hzero, hpool]
  · have hne : pool.selectedGroups ≠ [] := by
      intro hnil
      apply hzero
      rw [hpool, hnil]
      rfl
    have hlt := groupToKick_lt size pool.selectedGroups 0 (0, first) false
      (by simpa using List.length_pos_of_ne_nil hne)
    rw [Nat.zero_add] at hlt
    generalize groupToKick size pool.selectedGroups 0 (0, first) false = position at hlt
    rw [if_neg hzero, List.getElem?_eq_getElem hlt]
    refine ⟨?_, fun hcount => absurd hcount hzero, fun _ => ?_⟩
    · have hperm := (List.getElem_cons_eraseIdx_perm hlt).map
        fun ginfo => ginfo.info.players.length
      have hsum := hperm.sum_nat
      simp only [List.map_cons, List.sum_cons] at hsum
      simp only [Counted]
      rw [hpool, ← hsum, Nat.add_sub_cancel_left]
    · dsimp only
      rw [List.length_eraseIdx_of_lt hlt]
      omega

end SelectionPool

variable {restAlliance restHorde : List QueuedGroup} {pools : SelectionPools}

/-- How many rounds the balancing can still take. -/
def roundsLeft (pool : SelectionPool) (rest : List QueuedGroup) : Nat :=
  pool.selectedGroups.length + 2 * rest.length

/-- A round after which the loop goes on has used something up. -/
theorem kickLarger_spec {free diff diffOther : Int} {mapId : UInt32} {other : SelectionPool}
    {rest : List QueuedGroup} (hpool : pool.Counted) (hother : other.Counted)
    (hplayers : 0 < other.playerCount ∨ 0 < pool.playerCount) {pool' other' : SelectionPool}
    {rest' : List QueuedGroup}
    (hkick : kickLarger free diff diffOther mapId pool other rest = (pool', other', rest', false)) :
    pool'.Counted ∧ other'.Counted ∧
      roundsLeft pool' rest' + other'.selectedGroups.length <
        roundsLeft pool rest + other.selectedGroups.length := by
  unfold kickLarger at hkick
  dsimp only at hkick
  generalize (diffOther - diff).toNat = size at hkick
  generalize (if diffOther ≤ free then (free - diffOther).toNat else 0) = desired at hkick
  obtain ⟨hkicked, hempty, hlost⟩ := SelectionPool.kickGroup_spec hpool size
  obtain ⟨hotherKicked, hotherEmpty, hotherLost⟩ := SelectionPool.kickGroup_spec hother size
  have hotherLe : (other.kickGroup size).1.selectedGroups.length ≤
      other.selectedGroups.length := by
    by_cases hzero : other.playerCount = 0
    · rw [hotherEmpty hzero]
    · have := hotherLost hzero
      omega
  -- the pool after the kick and, if it asks for more, after the waiting groups
  generalize hnext : kickAndFill size desired mapId pool rest = next at hkick
  have hspec : next.1.Counted ∧
      (next.1 = (pool.kickGroup size).1 ∨
        (pool.kickGroup size).1.selectedGroups.length < next.1.selectedGroups.length) ∧
      next.1.selectedGroups.length + next.2.length ≤
        (pool.kickGroup size).1.selectedGroups.length + rest.length := by
    rw [← hnext]
    unfold kickAndFill
    split
    next kicked heq =>
      rw [heq] at hkicked ⊢
      exact SelectionPool.fill_spec desired mapId hkicked rest
    next kicked heq =>
      rw [heq] at hkicked ⊢
      exact ⟨hkicked, Or.inl rfl, le_rfl⟩
  obtain ⟨hcounted, hgrown, hlength⟩ := hspec
  have hnextLe : roundsLeft next.1 next.2 ≤ roundsLeft (pool.kickGroup size).1 rest := by
    unfold roundsLeft
    rcases hgrown with hsame | hgrown
    · rw [hsame] at hlength ⊢
      omega
    · omega
  by_cases hzero : pool.playerCount = 0
  · have hkickedEq : (pool.kickGroup size).1 = pool := by rw [hempty hzero]
    rw [hkickedEq] at hgrown hlength hnextLe
    split at hkick
    · split at hkick
      · exact absurd hkick (by simp)
      · simp only [Prod.mk.injEq, and_true] at hkick
        obtain ⟨rfl, rfl, rfl⟩ := hkick
        exact ⟨hcounted, hotherKicked, by omega⟩
    next hcount =>
      obtain ⟨rfl, rfl, rfl⟩ := hkick
      refine ⟨hcounted, hother, ?_⟩
      rcases hgrown with hsame | hgrown
      · exact absurd (hsame ▸ hzero) hcount
      · unfold roundsLeft
        omega
  · have hlostPool := hlost hzero
    have hless : roundsLeft next.1 next.2 < roundsLeft pool rest := by
      unfold roundsLeft at hnextLe ⊢
      omega
    split at hkick
    · split at hkick
      · exact absurd hkick (by simp)
      · simp only [Prod.mk.injEq, and_true] at hkick
        obtain ⟨rfl, rfl, rfl⟩ := hkick
        exact ⟨hcounted, hotherKicked, by omega⟩
    · simp only [Prod.mk.injEq, and_true] at hkick
      obtain ⟨rfl, rfl, rfl⟩ := hkick
      exact ⟨hcounted, hother, by omega⟩

/-- Rounds beyond those that are left change nothing. -/
theorem balance_succ (allianceFree hordeFree : Nat) (mapId : UInt32) (rounds : Nat)
    (halliance : pools.alliance.Counted) (hhorde : pools.horde.Counted)
    (hrounds : roundsLeft pools.alliance restAlliance + roundsLeft pools.horde restHorde ≤ rounds) :
    balance allianceFree hordeFree mapId (rounds + 1) pools restAlliance restHorde =
      balance allianceFree hordeFree mapId rounds pools restAlliance restHorde := by
  induction rounds generalizing pools restAlliance restHorde with
  | zero =>
    have hnone : ∀ {pool : SelectionPool} (rest : List QueuedGroup), pool.Counted →
        roundsLeft pool rest = 0 → pool.playerCount = 0 := by
      intro pool rest hpool hleft
      have hnil : pool.selectedGroups = [] := by
        apply List.eq_nil_of_length_eq_zero
        unfold roundsLeft at hleft
        omega
      rw [hpool, hnil]
      rfl
    have ha := hnone restAlliance halliance (by omega)
    have hh := hnone restHorde hhorde (by omega)
    unfold balance
    rw [if_neg]
    rw [ha, hh]
    simp
  | succ rounds ih =>
    conv_lhs => unfold balance
    conv_rhs => unfold balance
    dsimp only
    split
    next hloop =>
      split
      · split
        · rfl
        next alliance horde rest heq =>
          obtain ⟨hpool, hother, hless⟩ := kickLarger_spec halliance hhorde hloop.2 heq
          apply ih hpool hother
          unfold roundsLeft at hless hrounds ⊢
          dsimp only
          omega
      · split
        · rfl
        next horde alliance rest heq =>
          obtain ⟨hpool, hother, hless⟩ := kickLarger_spec hhorde halliance hloop.2.symm heq
          apply ih hother hpool
          unfold roundsLeft at hless hrounds ⊢
          dsimp only
          omega
    · rfl

end MopServer.Battlegrounds
