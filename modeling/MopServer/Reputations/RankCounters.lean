import MopServer.Foundation.Bits
import MopServer.Foundation.Run
import MopServer.Reputations.ReputationMgr

/-! # The counters of factions

The counters follow every change of a standing or of the visible flag, so they are the numbers of
factions modulo 256.  A change is exact unless its sum leaves the range of 32 bits.
-/

namespace MopServer.Reputations

open MopServer.Foundation

/-! ## Flags -/

theorem or_and_self (flags flag : UInt8) : (flags ||| flag) &&& flag = flag := by
  apply UInt8.toBitVec_inj.mp
  ext i
  simp
  tauto

namespace FactionState

variable {flag : UInt8} (faction : FactionState)

theorem has_withFlags_or (hflag : flag ≠ 0) :
    (faction.withFlags (faction.Flags ||| flag)).has flag = true := by
  unfold has withFlags
  rw [or_and_self]
  exact decide_eq_true hflag

theorem has_withFlags_or_of_disjoint {other : UInt8} (hdisjoint : flag &&& other = 0) :
    (faction.withFlags (faction.Flags ||| flag)).has other = faction.has other := by
  unfold has withFlags
  rw [or_and_of_disjoint hdisjoint]

theorem has_withFlags_and_of_disjoint {other : UInt8} (hdisjoint : flag &&& other = 0) :
    (faction.withFlags (faction.Flags &&& ~~~flag)).has other = faction.has other := by
  unfold has withFlags
  rw [and_not_and_of_disjoint hdisjoint]

/-- Two states of a faction count alike. -/
def CountsAs (first second : FactionState) : Prop :=
  first.Standing = second.Standing ∧
    first.has FactionFlag.visible = second.has FactionFlag.visible

theorem CountsAs.refl : faction.CountsAs faction := ⟨rfl, rfl⟩

theorem CountsAs.trans {first second third : FactionState} (hfirst : first.CountsAs second)
    (hsecond : second.CountsAs third) : first.CountsAs third :=
  ⟨hfirst.1.trans hsecond.1, hfirst.2.trans hsecond.2⟩

/-- A switched flag other than the visible one changes no count. -/
theorem switch_countsAs (hdisjoint : flag &&& FactionFlag.visible = 0) (on refused : Bool) :
    (faction.switch flag on refused).CountsAs faction := by
  unfold switch
  split
  · exact .refl faction
  · split
    · exact .refl faction
    · split
      · exact ⟨rfl, faction.has_withFlags_or_of_disjoint hdisjoint⟩
      · exact ⟨rfl, faction.has_withFlags_and_of_disjoint hdisjoint⟩

theorem setAtWar_countsAs (atWar : Bool) : (faction.setAtWar atWar).CountsAs faction :=
  faction.switch_countsAs (by decide) atWar _

theorem setInactive_countsAs (inactive : Bool) :
    (faction.setInactive inactive).CountsAs faction :=
  faction.switch_countsAs (by decide) inactive _

variable (visibleFactionCount : UInt8)

theorem setVisible_spec :
    (faction.setVisible visibleFactionCount).1.Standing = faction.Standing ∧
      (faction.setVisible visibleFactionCount).2 +
          (if faction.has FactionFlag.visible then 1 else 0) =
        visibleFactionCount +
          if (faction.setVisible visibleFactionCount).1.has FactionFlag.visible then 1 else 0 := by
  unfold setVisible
  split
  · exact ⟨rfl, rfl⟩
  · split
    · exact ⟨rfl, rfl⟩
    next hinvisible =>
      refine ⟨rfl, ?_⟩
      rw [faction.has_withFlags_or (by decide), if_pos rfl, UInt8.add_zero]

theorem loadFlags_spec (flags : UInt16) (rank : ReputationRank) :
    (ReputationMgr.loadFlags faction visibleFactionCount flags rank).1.Standing =
        faction.Standing ∧
      (ReputationMgr.loadFlags faction visibleFactionCount flags rank).2 +
          (if faction.has FactionFlag.visible then 1 else 0) =
        visibleFactionCount +
          if (ReputationMgr.loadFlags faction visibleFactionCount flags rank).1.has
            FactionFlag.visible then 1 else 0 := by
  unfold ReputationMgr.loadFlags
  extract_lets shown visible inactive atWar hostile saved
  have hvisible : shown.1.Standing = faction.Standing ∧
      shown.2 + (if faction.has FactionFlag.visible then 1 else 0) =
        visibleFactionCount + if shown.1.has FactionFlag.visible then 1 else 0 := by
    unfold shown
    split
    · exact faction.setVisible_spec visibleFactionCount
    · exact ⟨rfl, rfl⟩
  -- the other flags do not count
  have hinactive : inactive.CountsAs visible := by
    unfold inactive
    split
    · exact setInactive_countsAs visible true
    · exact .refl visible
  have hatWar : atWar.CountsAs inactive := by
    unfold atWar
    split
    · exact setAtWar_countsAs inactive true
    · split
      · exact setAtWar_countsAs inactive false
      · exact .refl inactive
  have hhostile : hostile.CountsAs atWar := by
    unfold hostile
    split
    · exact setAtWar_countsAs atWar true
    · exact .refl atWar
  have hsaved : saved.CountsAs hostile := by
    unfold saved
    split
    · exact ⟨rfl, rfl⟩
    · exact .refl hostile
  have hcounts : saved.CountsAs shown.1 := hsaved.trans (hhostile.trans (hatWar.trans hinactive))
  exact ⟨hcounts.1.trans hvisible.1, hcounts.2 ▸ hvisible.2⟩

end FactionState

/-! ## Counting -/

theorem eq_ofNat_of_change {count changed : UInt8} {number changedNumber : Nat} {old new : Bool}
    (hcount : count = UInt8.ofNat number)
    (hchanged : changed + (if old then 1 else 0) = count + if new then 1 else 0)
    (hnumber : changedNumber + (if old then 1 else 0) = number + if new then 1 else 0) :
    changed = UInt8.ofNat changedNumber := by
  have hsum := congrArg UInt8.ofNat hnumber
  rw [UInt8.ofNat_add, UInt8.ofNat_add, ← hcount] at hsum
  have hold : UInt8.ofNat (if old = true then 1 else 0) = if old then 1 else 0 := by
    cases old <;> rfl
  have hnew : UInt8.ofNat (if new = true then 1 else 0) = if new then 1 else 0 := by
    cases new <;> rfl
  rw [hold, hnew, ← hchanged] at hsum
  exact (add_right_cancel hsum).symm

namespace ReputationMgr

variable (store : FactionStore) (player : Player) (mgr : ReputationMgr) (rank : ReputationRank)

/-- The total standing of a faction has at least a rank. -/
def hasRank (entry : FactionEntry) : Bool :=
  rank ≤ mgr.getRank player (some entry)

/-- The number of factions whose total standing has at least a rank. -/
def ranked : Nat :=
  store.entries.rows.countP (mgr.hasRank player rank)

def isVisible (entry : FactionEntry) : Bool :=
  (mgr.getState entry).any fun faction => faction.has FactionFlag.visible

/-- The number of factions with the visible flag. -/
def visible : Nat := store.entries.rows.countP mgr.isVisible

/-- The counters are the numbers of factions, up to a multiple of 256, and only factions of the
store have a state. -/
structure Tallied (mgr : ReputationMgr) : Prop where
  honored : mgr.honoredFactionCount = UInt8.ofNat (mgr.ranked store player .honored)
  revered : mgr.reveredFactionCount = UInt8.ofNat (mgr.ranked store player .revered)
  exalted : mgr.exaltedFactionCount = UInt8.ofNat (mgr.ranked store player .exalted)
  visible : mgr.visibleFactionCount = UInt8.ofNat (mgr.visible store)
  listed : ∀ repListID faction, mgr.factions repListID = some faction →
    ∃ entry ∈ store.entries, entry.canHaveReputation = true ∧ entry.repListID = repListID

section

variable {store player} {mgr : ReputationMgr} {entry other : FactionEntry} {faction : FactionState}

theorem repListID_inj {first second : FactionEntry} (hsame : first.repListID = second.repListID) :
    first.reputationListID = second.reputationListID := by
  unfold FactionEntry.repListID at hsame
  cases hfirst : first.reputationListID
  cases hsecond : second.reputationListID
  rw [hfirst, hsecond] at hsame
  exact congrArg Int32.ofUInt32 hsame

theorem repListID_ne (hentry : entry ∈ store.entries) (hother : other ∈ store.entries)
    (hcan : entry.canHaveReputation = true) (hne : other ≠ entry) :
    other.repListID ≠ entry.repListID := fun hsame =>
  hne (store.listID_inj entry hentry other hother (repListID_inj hsame).symm
    (of_decide_eq_true hcan)).symm

variable (htallied : mgr.Tallied store player)

include htallied in
theorem Tallied.canHaveReputation (hstate : mgr.factions entry.repListID = some faction) :
    entry.canHaveReputation = true := by
  obtain ⟨other, -, hcan, hsame⟩ := htallied.listed _ _ hstate
  unfold FactionEntry.canHaveReputation at hcan ⊢
  rwa [← repListID_inj hsame]

/-- Without a state a faction is neutral. -/
theorem getRank_of_none (hstate : mgr.getState entry = none) :
    mgr.getRank player (some entry) = 3 := by
  unfold getRank
  rw [Option.map_some, Option.getD_some]
  unfold getReputation
  rw [hstate]
  show reputationToRank 0 = 3
  decide

theorem getRank_of_some (hstate : mgr.getState entry = some faction) :
    mgr.getRank player (some entry) =
      reputationToRank (entry.baseReputation player + faction.Standing) := by
  unfold getRank
  rw [Option.map_some, Option.getD_some]
  unfold getReputation
  rw [hstate]

theorem isVisible_of_some (hstate : mgr.getState entry = some faction) :
    mgr.isVisible entry = faction.has FactionFlag.visible := by
  unfold isVisible
  rw [hstate]
  rfl

/-! ## A change of one faction -/

theorem getState_putState_self (mgr : ReputationMgr) (faction : FactionState)
    (hcan : entry.canHaveReputation = true) :
    (mgr.putState entry.repListID faction).getState entry = some faction := by
  unfold getState
  rw [if_pos hcan]
  exact Function.update_self _ _ _

theorem getState_putState_of_ne (mgr : ReputationMgr) (faction : FactionState)
    (hne : other.repListID ≠ entry.repListID) :
    (mgr.putState entry.repListID faction).getState other = mgr.getState other := by
  unfold getState
  split
  · exact Function.update_of_ne hne _ _
  · rfl

theorem updateRankCounters_spec (mgr : ReputationMgr) (oldRank newRank : ReputationRank) :
    (mgr.updateRankCounters oldRank newRank).honoredFactionCount +
          (if ReputationRank.honored ≤ oldRank then 1 else 0) =
        mgr.honoredFactionCount + (if ReputationRank.honored ≤ newRank then 1 else 0) ∧
      (mgr.updateRankCounters oldRank newRank).reveredFactionCount +
          (if ReputationRank.revered ≤ oldRank then 1 else 0) =
        mgr.reveredFactionCount + (if ReputationRank.revered ≤ newRank then 1 else 0) ∧
      (mgr.updateRankCounters oldRank newRank).exaltedFactionCount +
          (if ReputationRank.exalted ≤ oldRank then 1 else 0) =
        mgr.exaltedFactionCount + if ReputationRank.exalted ≤ newRank then 1 else 0 := by
  have hchange : ∀ (count : UInt8) (rank : ReputationRank),
      (if rank ≤ newRank then (if rank ≤ oldRank then count - 1 else count) + 1
        else if rank ≤ oldRank then count - 1 else count) + (if rank ≤ oldRank then 1 else 0) =
          count + if rank ≤ newRank then 1 else 0 := by
    intro count rank
    split <;> split <;> grind
  exact ⟨hchange _ _, hchange _ _, hchange _ _⟩

include htallied in
theorem Tallied.change (hentry : entry ∈ store.entries) (hcan : entry.canHaveReputation = true)
    {count : UInt8} {increased : Bool} {oldRank newRank : ReputationRank}
    (hshown : count + (if mgr.isVisible entry then 1 else 0) =
      mgr.visibleFactionCount + if faction.has FactionFlag.visible then 1 else 0)
    (hold : ∀ rank, ReputationRank.honored ≤ rank →
      (rank ≤ oldRank ↔ rank ≤ mgr.getRank player (some entry)))
    (hnew : newRank = reputationToRank (entry.baseReputation player + faction.Standing)) :
    (({ mgr with visibleFactionCount := count, sendFactionIncreased := increased }.updateRankCounters
      oldRank newRank).putState entry.repListID faction).Tallied store player := by
  set middle := { mgr with visibleFactionCount := count
                           sendFactionIncreased := increased }.updateRankCounters oldRank newRank
    with hmiddle
  have hself : (middle.putState entry.repListID faction).getState entry = some faction :=
    getState_putState_self middle faction hcan
  have hothers : ∀ other ∈ store.entries, other ≠ entry →
      mgr.getState other = (middle.putState entry.repListID faction).getState other :=
    fun other hother hne =>
      (getState_putState_of_ne middle faction (repListID_ne hentry hother hcan hne)).symm
  -- only the rank of this faction changes
  have hranked : ∀ rank, (middle.putState entry.repListID faction).ranked store player rank +
      (if mgr.hasRank player rank entry then 1 else 0) =
        mgr.ranked store player rank + if decide (rank ≤ newRank) then 1 else 0 := by
    intro rank
    have hown : (middle.putState entry.repListID faction).hasRank player rank entry =
        decide (rank ≤ newRank) := by
      unfold hasRank
      rw [getRank_of_some hself, hnew]
    rw [← hown]
    refine store.entries.countP_change hentry fun other hother hne => ?_
    unfold hasRank getRank
    rw [Option.map_some, Option.map_some, Option.getD_some, Option.getD_some]
    unfold getReputation
    rw [hothers other hother hne]
  have hrank : ∀ rank, ReputationRank.honored ≤ rank →
      decide (rank ≤ oldRank) = mgr.hasRank player rank entry :=
    fun rank hrank => decide_eq_decide.mpr (hold rank hrank)
  obtain ⟨hhonored, hrevered, hexalted⟩ := updateRankCounters_spec { mgr with
    visibleFactionCount := count, sendFactionIncreased := increased } oldRank newRank
  refine
    { honored := eq_ofNat_of_change htallied.honored ?_ (hranked .honored)
      revered := eq_ofNat_of_change htallied.revered ?_ (hranked .revered)
      exalted := eq_ofNat_of_change htallied.exalted ?_ (hranked .exalted)
      visible := eq_ofNat_of_change htallied.visible hshown ?_
      listed := fun repListID other hother => ?_ }
  · rw [← hrank _ le_rfl]
    simp only [decide_eq_true_eq]
    exact hhonored
  · rw [← hrank _ (by decide)]
    simp only [decide_eq_true_eq]
    exact hrevered
  · rw [← hrank _ (by decide)]
    simp only [decide_eq_true_eq]
    exact hexalted
  · have hown : (middle.putState entry.repListID faction).isVisible entry =
        faction.has FactionFlag.visible := isVisible_of_some hself
    rw [← hown]
    refine store.entries.countP_change hentry fun other hother hne => ?_
    unfold isVisible
    rw [hothers other hother hne]
  · by_cases hsame : repListID = entry.repListID
    · exact ⟨entry, hentry, hcan, hsame.symm⟩
    · exact htallied.listed repListID other ((Function.update_of_ne hsame _ _).symm.trans hother)

/-! ## Loading -/

variable {rows : List ReputationRow}

theorem Tallied.of_empty : empty.Tallied store player := by
  have hstate : ∀ entry, empty.getState entry = none := by
    intro entry
    unfold getState
    split <;> rfl
  have hranked : ∀ rank, ReputationRank.honored ≤ rank → empty.ranked store player rank = 0 := by
    intro rank hrank
    refine List.countP_eq_zero.mpr fun entry _ => ?_
    unfold hasRank
    rw [getRank_of_none (hstate entry), decide_eq_true_eq]
    exact not_le.mpr (lt_of_lt_of_le (by decide) hrank)
  have hvisible : empty.visible store = 0 := by
    refine List.countP_eq_zero.mpr fun entry _ => ?_
    unfold isVisible
    rw [hstate]
    decide
  refine { honored := ?_, revered := ?_, exalted := ?_, visible := ?_, listed := ?_ }
  · rw [hranked _ le_rfl]
    rfl
  · rw [hranked _ (by decide)]
    rfl
  · rw [hranked _ (by decide)]
    rfl
  · rw [hvisible]
    rfl
  · intro repListID faction hfaction
    cases hfaction

/-- A faction that has just been initialised stands at its base reputation. -/
def Fresh (mgr : ReputationMgr) (entry : FactionEntry) : Prop :=
  ∃ faction, mgr.getState entry = some faction ∧ faction.Standing = 0

theorem Fresh.putState (hfresh : mgr.Fresh entry) (faction : FactionState)
    (hne : entry.repListID ≠ other.repListID) :
    (mgr.putState other.repListID faction).Fresh entry := by
  obtain ⟨state, hstate, hstanding⟩ := hfresh
  exact ⟨state, (getState_putState_of_ne mgr faction hne).trans hstate, hstanding⟩

include htallied in
theorem Tallied.initFaction (hentry : entry ∈ store.entries) (hstate : mgr.getState entry = none) :
    (mgr.initFaction player entry).Tallied store player ∧
      (entry.canHaveReputation = true → (mgr.initFaction player entry).Fresh entry) ∧
      ∀ other ∈ store.entries, other ≠ entry →
        (mgr.initFaction player entry).getState other = mgr.getState other := by
  unfold ReputationMgr.initFaction
  split
  next hcan =>
    rw [Bool.and_eq_true] at hcan
    refine ⟨?_, fun _ => ⟨_, getState_putState_self _ _ hcan.2, rfl⟩, fun other hother hne =>
      getState_putState_of_ne _ _ (repListID_ne hentry hother hcan.2 hne)⟩
    refine htallied.change hentry hcan.2 ?_ (fun rank hrank => ?_) ?_
    · have hvisible : mgr.isVisible entry = false := by
        unfold isVisible
        rw [hstate]
        rfl
      rw [hvisible, if_neg Bool.false_ne_true, UInt8.add_zero]
      unfold FactionState.has
      split <;> simp_all
    · rw [getRank_of_none hstate]
      exact iff_of_false (not_le.mpr (lt_of_lt_of_le (by decide) hrank))
        (not_le.mpr (lt_of_lt_of_le (by decide) hrank))
    · rw [Int32.add_zero]
  next hcan =>
    rw [Bool.and_eq_true, not_and] at hcan
    refine ⟨htallied, fun hlisted => absurd hlisted (hcan ?_), fun other hother hne => rfl⟩
    exact decide_eq_true (store.id_ne_zero entry hentry)

include htallied in
theorem Tallied.foldl_initFaction {rest : List FactionEntry}
    (hentries : ∀ entry ∈ rest, entry ∈ store.entries) (hnodup : rest.Nodup)
    (hnone : ∀ entry ∈ rest, mgr.getState entry = none) :
    (rest.foldl (ReputationMgr.initFaction player) mgr).Tallied store player ∧
      (∀ entry ∈ rest, entry.canHaveReputation = true →
        (rest.foldl (ReputationMgr.initFaction player) mgr).Fresh entry) ∧
      ∀ other ∈ store.entries, other ∉ rest →
        (rest.foldl (ReputationMgr.initFaction player) mgr).getState other =
          mgr.getState other := by
  induction rest generalizing mgr with
  | nil => exact ⟨htallied, by simp, fun other _ _ => rfl⟩
  | cons entry rest ih =>
    rw [List.forall_mem_cons] at hentries hnone
    obtain ⟨hnotin, hnodup⟩ := List.nodup_cons.mp hnodup
    obtain ⟨hnext, hfresh, hothers⟩ := htallied.initFaction hentries.1 hnone.1
    have hrest : ∀ other ∈ rest, other ≠ entry := fun other hother hsame =>
      hnotin (hsame ▸ hother)
    obtain ⟨hfinal, hfreshRest, hkept⟩ := ih hnext hentries.2 hnodup fun other hother =>
      (hothers other (hentries.2 other hother) (hrest other hother)).trans (hnone.2 other hother)
    refine ⟨hfinal, fun other hother hcan => ?_, fun other hother hnot => ?_⟩
    · rcases List.mem_cons.mp hother with rfl | hother
      · obtain ⟨faction, hstate, hstanding⟩ := hfresh hcan
        exact ⟨faction, (hkept _ hentries.1 hnotin).trans hstate, hstanding⟩
      · exact hfreshRest other hother hcan
    · rw [List.mem_cons, not_or] at hnot
      exact (hkept other hother hnot.2).trans (hothers other hother hnot.1)

theorem initFactions_tallied (store : FactionStore) (player : Player) :
    (initFactions store player).Tallied store player ∧
      ∀ entry ∈ store.entries, entry.canHaveReputation = true →
        (initFactions store player).Fresh entry := by
  have hnone : ∀ entry, empty.getState entry = none := by
    intro entry
    unfold getState
    split <;> rfl
  have hempty : empty.Tallied store player := Tallied.of_empty
  have hrows : ∀ entry ∈ store.entries.rows, entry ∈ store.entries :=
    fun entry hentry => Table.mem_def.mpr hentry
  obtain ⟨htallied, hfresh, -⟩ := hempty.foldl_initFaction hrows
    (List.Nodup.of_map _ store.entries.nodup) fun entry _ => hnone entry
  exact ⟨htallied, fun entry hentry => hfresh entry (Table.mem_def.mp hentry)⟩

include htallied in
/-- A row replaces the standing of a faction that stood at its base reputation. -/
theorem Tallied.loadRow {row : ReputationRow}
    (hfresh : ∀ entry ∈ store.entries, entry.canHaveReputation = true →
      entry.ID = row.faction.toUInt32 → mgr.Fresh entry) :
    (mgr.loadRow store player row).Tallied store player ∧
      ∀ other ∈ store.entries, other.ID ≠ row.faction.toUInt32 → mgr.Fresh other →
        (mgr.loadRow store player row).Fresh other := by
  unfold ReputationMgr.loadRow
  split
  · exact ⟨htallied, fun other _ _ hother => hother⟩
  next entry hget =>
    obtain ⟨hentry, hid⟩ := Table.get?_eq_some_iff.mp hget
    split
    next hcan =>
      obtain ⟨faction, hstate, hstanding⟩ := hfresh entry hentry hcan hid
      have hfaction : mgr.factions entry.repListID = some faction := by
        unfold getState at hstate
        rwa [if_pos hcan] at hstate
      rw [hfaction, Option.getD_some]
      obtain ⟨hloaded, hcount⟩ := FactionState.loadFlags_spec
        { faction with Standing := row.standing } mgr.visibleFactionCount row.flags
        (reputationToRank (entry.baseReputation player + row.standing))
      refine ⟨htallied.change hentry hcan ?_ (fun rank _ => ?_) ?_,
        fun other hother hne hotherFresh => ?_⟩
      · rw [isVisible_of_some hstate]
        exact hcount
      · rw [getRank_of_some hstate, hstanding, Int32.add_zero]
      · rw [hloaded]
      · exact Fresh.putState hotherFresh _ (repListID_ne hentry hother hcan
          fun hsame => hne (hsame ▸ hid))
    · exact ⟨htallied, fun other _ _ hother => hother⟩

variable (hrows : (rows.map ReputationRow.faction).Nodup)

include htallied hrows in
theorem Tallied.foldl_loadRow
    (hfresh : ∀ row ∈ rows, ∀ entry ∈ store.entries, entry.canHaveReputation = true →
      entry.ID = row.faction.toUInt32 → mgr.Fresh entry) :
    (rows.foldl (ReputationMgr.loadRow store player) mgr).Tallied store player := by
  induction rows generalizing mgr with
  | nil => exact htallied
  | cons row rest ih =>
    rw [List.forall_mem_cons] at hfresh
    obtain ⟨hnotin, hrest⟩ := List.nodup_cons.mp hrows
    obtain ⟨hnext, hkept⟩ := htallied.loadRow hfresh.1
    refine ih hnext hrest fun other hother entry hentry hcan hid => ?_
    refine hkept entry hentry (fun hsame => hnotin ?_) (hfresh.2 other hother entry hentry hcan hid)
    have hfaction : other.faction = row.faction := UInt16.toUInt32_inj.mp (hid.symm.trans hsame)
    exact hfaction ▸ List.mem_map_of_mem hother

include hrows in
/-- Loaded, the counters are the numbers of factions. -/
theorem loadFromDB_tallied : (loadFromDB store player rows).Tallied store player := by
  obtain ⟨htallied, hfresh⟩ := initFactions_tallied store player
  exact htallied.foldl_loadRow hrows fun row _ entry hentry hcan _ => hfresh entry hentry hcan

end

end ReputationMgr

end MopServer.Reputations
