import MopServer.Reputations.Persistence
import MopServer.Reputations.Spillover

/-! # What loading makes of a saved state

Every faction that is not marked has a row that agrees with it, after any calls.  So the rows
that are saved are those of all factions, and what is left is what the setters make of the flags
of a row, from the flags the faction has by default.
-/

namespace MopServer.Reputations

open MopServer.Foundation

variable {faction : FactionState}

/-- What `Initialize` makes of a faction. -/
def FactionEntry.initialState (player : Player) (entry : FactionEntry) : FactionState where
  ID := entry.ID
  ReputationListID := entry.repListID
  Standing := 0
  Flags := (entry.defaultStateFlags player).toUInt8
  needSend := true
  needSave := true

/-- What `LoadFromDB` makes of a faction with a row. -/
def FactionEntry.loadedState (player : Player) (entry : FactionEntry) (row : ReputationRow) :
    FactionState :=
  (ReputationMgr.loadFlags { entry.initialState player with Standing := row.standing } 0 row.flags
    (reputationToRank (entry.baseReputation player + row.standing))).1

def FactionState.row (faction : FactionState) : ReputationRow where
  faction := faction.ID.toUInt16
  standing := faction.Standing
  flags := faction.Flags.toUInt16

namespace FactionState

theorem toUInt16_and_ne_zero_iff (faction : FactionState) (flag : UInt8) :
    faction.Flags.toUInt16 &&& flag.toUInt16 ≠ 0 ↔ faction.has flag = true := by
  have hand : faction.Flags.toUInt16 &&& flag.toUInt16 = (faction.Flags &&& flag).toUInt16 := by
    rw [UInt8.toUInt16_and]
  have hzero : (faction.Flags &&& flag).toUInt16 = 0 ↔ faction.Flags &&& flag = 0 := by
    rw [← UInt8.toUInt16_inj]
    rfl
  unfold has
  rw [hand, ne_eq, hzero, decide_eq_true_iff]

theorem fst_setVisible (faction : FactionState) (count : UInt8) :
    (faction.setVisible count).1 = (faction.setVisible 0).1 := by
  unfold setVisible
  split
  · rfl
  · split <;> rfl

theorem fst_loadFlags (faction : FactionState) (count : UInt8) (flags : UInt16)
    (rank : ReputationRank) :
    (ReputationMgr.loadFlags faction count flags rank).1 =
      (ReputationMgr.loadFlags faction 0 flags rank).1 := by
  have hshown : (if flags &&& FactionFlag.visible.toUInt16 ≠ 0 then faction.setVisible count
        else (faction, count)).1 =
      (if flags &&& FactionFlag.visible.toUInt16 ≠ 0 then faction.setVisible 0
        else (faction, 0)).1 := by
    split
    · exact faction.fst_setVisible count
    · rfl
  unfold ReputationMgr.loadFlags
  dsimp only
  rw [hshown]

/-- The setters that a row goes through change no more than setters do, and a faction is left
unmarked only if it is as in the row. -/
theorem loadFlags_follows (faction : FactionState) (count : UInt8) (flags : UInt16)
    (rank : ReputationRank) (hmarked : faction.needSave = true) :
    Follows faction (ReputationMgr.loadFlags faction count flags rank).1 ∧
      ((ReputationMgr.loadFlags faction count flags rank).1.needSave = false →
        (ReputationMgr.loadFlags faction count flags rank).1.Flags.toUInt16 = flags) := by
  unfold ReputationMgr.loadFlags
  extract_lets shown visible inactive atWar hostile saved
  have hshown : Changes faction visible := by
    unfold visible shown
    split
    · exact faction.setVisible_changes count
    · exact .refl faction
  have hinactive : Changes faction inactive := by
    unfold inactive
    split
    · exact hshown.trans (visible.setInactive_changes true)
    · exact hshown
  have hatWar : Changes faction atWar := by
    unfold atWar
    split
    · exact hinactive.trans (inactive.setAtWar_changes true)
    · split
      · exact hinactive.trans (inactive.setAtWar_changes false)
      · exact hinactive
  have hhostile : Changes faction hostile := by
    unfold hostile
    split
    · exact hatWar.trans (atWar.setAtWar_changes true)
    · exact hatWar
  unfold saved
  split
  next hsame => exact ⟨hhostile.follows.trans (.of_flags rfl rfl), fun _ => hsame⟩
  · refine ⟨hhostile.follows, fun hsaved => ?_⟩
    rw [(hhostile.marked hsaved).1] at hmarked
    cases hmarked

/-- From the flags of a state that follows, the visible flag is loaded as it was; the other two
get what the state before and the rank add. -/
theorem loadFlags_row {start : FactionState} (hfollows : Follows start faction) (count : UInt8)
    (rank : ReputationRank) {loaded : FactionState}
    (hloaded : loaded = (ReputationMgr.loadFlags start count faction.Flags.toUInt16 rank).1) :
    loaded.has FactionFlag.visible = faction.has FactionFlag.visible ∧
      loaded.has FactionFlag.inactive =
        (faction.has FactionFlag.inactive || start.has FactionFlag.inactive) ∧
      loaded.has FactionFlag.atWar =
        (faction.has FactionFlag.atWar ||
          (!faction.has FactionFlag.visible && start.has FactionFlag.atWar) ||
          (decide (rank ≤ .hostile) && !faction.has FactionFlag.peaceForced)) := by
  have hflag := faction.toUInt16_and_ne_zero_iff
  unfold ReputationMgr.loadFlags at hloaded
  extract_lets shown visible inactive atWar hostile saved at hloaded
  -- the visible flag is set again exactly if it was
  have hvisible : visible.has FactionFlag.visible = faction.has FactionFlag.visible := by
    unfold visible shown
    split
    next hset =>
      rw [hflag] at hset
      rw [has_setVisible, hset]
      rcases hfollows.shown hset with hbefore | hopen | hspecial
      · rw [hbefore, Bool.true_or]
      · rw [hopen, Bool.not_false, Bool.true_or, Bool.or_true]
      · rw [hspecial, Bool.or_true, Bool.or_true]
    next hunset =>
      rw [hflag] at hunset
      rw [Bool.eq_false_iff.mpr hunset]
      exact Bool.eq_false_iff.mpr fun hbefore => hunset (hfollows.visible hbefore)
  have hvisibleOther : ∀ flag, FactionFlag.visible &&& flag = 0 →
      visible.has flag = start.has flag := by
    intro flag hdisjoint
    unfold visible shown
    split
    · exact start.has_setVisible_of_disjoint count hdisjoint
    · rfl
  have hinactive : inactive.has FactionFlag.inactive =
      (faction.has FactionFlag.inactive || start.has FactionFlag.inactive) := by
    unfold inactive
    split
    next hset =>
      rw [hflag] at hset
      rw [has_setInactive, hset, Bool.true_or, hvisible, hvisibleOther _ (by decide),
        hvisibleOther _ (by decide)]
      split
      next hrefused =>
        rcases hfollows.inactive hset with hbefore | ⟨hopen, hseen⟩
        · exact hbefore
        · rw [hopen, hseen] at hrefused
          cases hrefused
      · rfl
    next hunset =>
      rw [hflag] at hunset
      rw [Bool.eq_false_iff.mpr hunset, Bool.false_or]
      exact hvisibleOther _ (by decide)
  have hinactiveOther : ∀ flag, FactionFlag.inactive &&& flag = 0 →
      inactive.has flag = visible.has flag := by
    intro flag hdisjoint
    unfold inactive
    split
    · exact visible.has_setInactive_of_disjoint true hdisjoint
    · rfl
  have hpeace : inactive.has FactionFlag.peaceForced = faction.has FactionFlag.peaceForced := by
    rw [hinactiveOther _ (by decide), hvisibleOther _ (by decide), hfollows.peaceForced]
  have hatWar : atWar.has FactionFlag.atWar = (faction.has FactionFlag.atWar ||
      (!faction.has FactionFlag.visible && start.has FactionFlag.atWar)) := by
    have hbefore : inactive.has FactionFlag.atWar = start.has FactionFlag.atWar := by
      rw [hinactiveOther _ (by decide), hvisibleOther _ (by decide)]
    unfold atWar
    split
    next hset =>
      rw [hflag] at hset
      rw [has_setAtWar, hpeace, hbefore, hset, Bool.true_or, Bool.true_and]
      split
      next hforced =>
        rcases hfollows.atWar hset with hold | hfree
        · exact hold
        · rw [hfollows.peaceForced, hfree] at hforced
          cases hforced
      · rfl
    next hunset =>
      rw [hflag] at hunset
      rw [Bool.eq_false_iff.mpr hunset, Bool.false_or, hinactiveOther _ (by decide), hvisible]
      split
      next hseen =>
        rw [has_setAtWar, hseen]
        rfl
      next hunseen => rw [hbefore, Bool.eq_false_iff.mpr hunseen, Bool.not_false, Bool.true_and]
  have hatWarOther : ∀ flag, FactionFlag.atWar &&& flag = 0 →
      atWar.has flag = inactive.has flag := by
    intro flag hdisjoint
    unfold atWar
    split
    · exact inactive.has_setAtWar_of_disjoint true hdisjoint
    · split
      · exact inactive.has_setAtWar_of_disjoint false hdisjoint
      · rfl
  -- a hostile faction is set at war, unless it is bound to peace
  have hhostile : hostile.has FactionFlag.atWar = (faction.has FactionFlag.atWar ||
      (!faction.has FactionFlag.visible && start.has FactionFlag.atWar) ||
      (decide (rank ≤ .hostile) && !faction.has FactionFlag.peaceForced)) := by
    unfold hostile
    split
    next hrank =>
      rw [has_setAtWar, hatWarOther _ (by decide), hpeace, hatWar, decide_eq_true hrank,
        Bool.true_and, Bool.true_and]
      cases faction.has FactionFlag.peaceForced with
      | false => rw [if_neg Bool.false_ne_true, Bool.not_false, Bool.or_true]
      | true => rw [if_pos rfl, Bool.not_true, Bool.or_false]
    next hrank => rw [hatWar, decide_eq_false hrank, Bool.false_and, Bool.or_false]
  have hhostileOther : ∀ flag, FactionFlag.atWar &&& flag = 0 →
      hostile.has flag = inactive.has flag := by
    intro flag hdisjoint
    unfold hostile
    split
    · exact (atWar.has_setAtWar_of_disjoint true hdisjoint).trans (hatWarOther flag hdisjoint)
    · exact hatWarOther flag hdisjoint
  have hsaved : ∀ flag, saved.has flag = hostile.has flag := by
    intro flag
    unfold saved
    split <;> rfl
  rw [hloaded]
  refine ⟨?_, ?_, ?_⟩
  · rw [hsaved, hhostileOther _ (by decide), hinactiveOther _ (by decide), hvisible]
  · rw [hsaved, hhostileOther _ (by decide), hinactive]
  · rw [hsaved, hhostile]

end FactionState

namespace ReputationMgr

variable {store : FactionStore} {player : Player}

/-! ## Loading -/

variable (mgr : ReputationMgr) {entry : FactionEntry} (hentry : entry ∈ store.entries)
  (hcan : entry.canHaveReputation = true)

include hentry hcan in
theorem factions_initFaction :
    (mgr.initFaction player entry).factions =
      Function.update mgr.factions entry.repListID (some (entry.initialState player)) := by
  unfold initFaction
  rw [decide_eq_true (store.id_ne_zero entry hentry), hcan]
  rfl

theorem factions_initFaction_of_ne {repListID : UInt32} (hne : repListID ≠ entry.repListID) :
    (mgr.initFaction player entry).factions repListID = mgr.factions repListID := by
  unfold initFaction
  split
  · exact Function.update_of_ne hne _ _
  · rfl

include hentry hcan in
theorem factions_initFactions :
    (initFactions store player).factions entry.repListID = some (entry.initialState player) := by
  have hfold : ∀ (rest : List FactionEntry) (mgr : ReputationMgr),
      (∀ other ∈ rest, other ∈ store.entries) → rest.Nodup →
        (entry ∈ rest ∨ mgr.factions entry.repListID = some (entry.initialState player)) →
          (rest.foldl (initFaction player) mgr).factions entry.repListID =
            some (entry.initialState player) := by
    intro rest
    induction rest with
    | nil => exact fun mgr _ _ hdone => hdone.resolve_left List.not_mem_nil
    | cons first rest ih =>
      intro mgr hrest hnodup hdone
      rw [List.forall_mem_cons] at hrest
      refine ih _ hrest.2 (List.nodup_cons.mp hnodup).2 ?_
      by_cases hsame : entry = first
      · subst hsame
        right
        rw [factions_initFaction mgr hentry hcan, Function.update_self]
      · rw [List.mem_cons, or_iff_right hsame] at hdone
        refine hdone.imp_right fun hstate => ?_
        have hne := repListID_ne hentry hrest.1 hcan fun heq => hsame heq.symm
        rw [factions_initFaction_of_ne mgr hne.symm, hstate]
  refine hfold store.entries.rows empty (fun other hother => Table.mem_def.mpr hother)
    (List.Nodup.of_map _ store.entries.nodup) (Or.inl (Table.mem_def.mp hentry))

include hentry hcan in
theorem factions_loadRow {row : ReputationRow} (hrow : row.faction.toUInt32 = entry.ID)
    (hstate : mgr.factions entry.repListID = some (entry.initialState player)) :
    (mgr.loadRow store player row).factions entry.repListID =
      some (entry.loadedState player row) := by
  have hget : store.entries.get? row.faction.toUInt32 = some entry :=
    Table.get?_eq_some_iff.mpr ⟨hentry, hrow.symm⟩
  unfold loadRow
  rw [hget]
  dsimp only
  rw [if_pos hcan, hstate, Option.getD_some]
  refine (Function.update_self _ _ _).trans (congrArg some ?_)
  exact FactionState.fst_loadFlags _ mgr.visibleFactionCount row.flags _

include hentry hcan in
theorem factions_loadRow_of_ne {row : ReputationRow} (hrow : row.faction.toUInt32 ≠ entry.ID) :
    (mgr.loadRow store player row).factions entry.repListID = mgr.factions entry.repListID := by
  unfold loadRow
  split
  · rfl
  next other hget =>
    obtain ⟨hother, hid⟩ := Table.get?_eq_some_iff.mp hget
    split
    · refine Function.update_of_ne (repListID_ne hentry hother hcan fun heq => hrow ?_).symm _ _
      exact hid.symm.trans (congrArg FactionEntry.ID heq)
    · rfl

theorem factions_foldl_loadRow_of_ne (rows : List ReputationRow) (mgr : ReputationMgr)
    {entry : FactionEntry} (hentry : entry ∈ store.entries)
    (hcan : entry.canHaveReputation = true)
    (hrows : ∀ row ∈ rows, row.faction.toUInt32 ≠ entry.ID) :
    (rows.foldl (loadRow store player) mgr).factions entry.repListID =
      mgr.factions entry.repListID := by
  induction rows generalizing mgr with
  | nil => rfl
  | cons row rest ih =>
    rw [List.forall_mem_cons] at hrows
    rw [List.foldl_cons, ih _ hrows.2, factions_loadRow_of_ne mgr hentry hcan hrows.1]

include hentry hcan in
theorem factions_loadFromDB (hid : entry.ID.toNat < 65536) (table : ReputationTable) :
    (loadFromDB store player table.rows).factions entry.repListID =
      some (((table.get? entry.ID.toUInt16).map (entry.loadedState player)).getD
        (entry.initialState player)) := by
  have hfaction : ∀ row : ReputationRow,
      row.faction.toUInt32 = entry.ID ↔ row.faction = entry.ID.toUInt16 := by
    intro row
    rw [← UInt32.toNat_inj, ← UInt16.toNat_inj, UInt16.toNat_toUInt32, UInt32.toNat_toUInt16]
    omega
  have hinitial : (initFactions store player).factions entry.repListID =
      some (entry.initialState player) := factions_initFactions hentry hcan
  unfold loadFromDB
  cases hget : table.get? entry.ID.toUInt16 with
  | none =>
    rw [factions_foldl_loadRow_of_ne _ _ hentry hcan, hinitial]
    · rfl
    · intro row hrow heq
      exact Table.get?_eq_none_iff.mp hget row (Table.mem_def.mpr hrow) ((hfaction row).mp heq)
  | some row =>
    obtain ⟨hrow, hkey⟩ := Table.get?_eq_some_iff.mp hget
    obtain ⟨left, right, hrows⟩ := List.append_of_mem (Table.mem_def.mp hrow)
    have hnodup := table.nodup
    rw [hrows, List.map_append, List.map_cons] at hnodup
    obtain ⟨-, hright, hleft⟩ := List.nodup_append.mp hnodup
    rw [hrows, List.foldl_append, List.foldl_cons, factions_foldl_loadRow_of_ne right _ hentry hcan,
      factions_loadRow _ hentry hcan ((hfaction row).mpr hkey)]
    · rfl
    · rw [factions_foldl_loadRow_of_ne left _ hentry hcan, hinitial]
      intro other hother heq
      refine hleft _ (List.mem_map_of_mem hother) _ List.mem_cons_self ?_
      exact ((hfaction other).mp heq).trans hkey.symm
    · intro other hother heq
      have hsame : other.faction = row.faction := ((hfaction other).mp heq).trans hkey.symm
      have hmem : Keyed.key other ∈ right.map Keyed.key := List.mem_map_of_mem hother
      rw [show Keyed.key other = Keyed.key row from hsame] at hmem
      exact (List.nodup_cons.mp hright).1 hmem

/-! ## Saving -/

variable (saved : ReputationMgr × ReputationTable) (entry : FactionEntry)

/-- The factions of the store have a state that follows from the default, and one that is not
marked has its row in the table. -/
structure Backed (store : FactionStore) (player : Player)
    (saved : ReputationMgr × ReputationTable) : Prop where
  listed : ∀ repListID faction, saved.1.factions repListID = some faction →
    ∃ entry ∈ store.entries, entry.canHaveReputation = true ∧ entry.repListID = repListID
  known : ∀ entry ∈ store.entries, entry.canHaveReputation = true →
    ∃ faction, saved.1.factions entry.repListID = some faction ∧
      (entry.initialState player).Follows faction ∧
        (faction.needSave = false → saved.2.get? entry.ID.toUInt16 = some faction.row)

variable (hids : ∀ entry ∈ store.entries, entry.ID.toNat < 65536)

include hids in
theorem loadFromDB_backed (table : ReputationTable) :
    Backed store player (loadFromDB store player table.rows, table) where
  listed := (loadFromDB_tallied table.nodup).listed
  known := by
    intro entry hentry hcan
    refine ⟨_, factions_loadFromDB hentry hcan (hids entry hentry) table, ?_⟩
    cases hget : table.get? entry.ID.toUInt16 with
    | none => exact ⟨.refl _, nofun⟩
    | some row =>
      have hfollows : (entry.initialState player).Follows
          { entry.initialState player with Standing := row.standing } := .of_flags rfl rfl
      have hloaded := FactionState.loadFlags_follows
        { entry.initialState player with Standing := row.standing } 0 row.flags
        (reputationToRank (entry.baseReputation player + row.standing)) rfl
      have hstanding := (FactionState.loadFlags_spec
        { entry.initialState player with Standing := row.standing } 0 row.flags
        (reputationToRank (entry.baseReputation player + row.standing))).1
      refine ⟨hfollows.trans hloaded.1, fun hsaved => congrArg some ?_⟩
      have hkey : row.faction = entry.ID.toUInt16 := (Table.get?_eq_some_iff.mp hget).2
      have hflags := hloaded.2 hsaved
      have hid : entry.ID.toUInt16 = (entry.loadedState player row).ID.toUInt16 :=
        congrArg UInt32.toUInt16 hloaded.1.ID.symm
      exact (ReputationRow.mk.injEq _ _ _ _ _ _).mpr ⟨hkey.trans hid, hstanding.symm, hflags.symm⟩

/-- A call keeps the factions backed. -/
theorem Backed.advance {mgr changed : ReputationMgr} {table : ReputationTable}
    (hbacked : Backed store player (mgr, table)) (hadvances : mgr.Advances changed) :
    Backed store player (changed, table) where
  listed := by
    intro repListID faction hfaction
    have hrel := hadvances repListID
    rw [hfaction] at hrel
    generalize hbefore : mgr.factions repListID = before at hrel
    cases hrel with
    | some hchange => exact hbacked.listed repListID _ hbefore
  known := by
    intro entry hentry hcan
    obtain ⟨faction, hfaction, hfollows, hrow⟩ := hbacked.known entry hentry hcan
    have hrel := hadvances entry.repListID
    rw [hfaction] at hrel
    generalize changed.factions entry.repListID = after at hrel
    cases hrel with
    | some hchange =>
      refine ⟨_, rfl, hfollows.trans hchange.follows, fun hsaved => ?_⟩
      obtain ⟨hbefore, hstanding, hflags⟩ := hchange.marked hsaved
      rw [hrow hbefore]
      unfold FactionState.row
      rw [hstanding, hflags, hchange.follows.ID]

theorem saveState_cases :
    saveState saved entry = saved ∧
        (∀ faction, saved.1.getState entry = some faction → faction.needSave = false) ∨
      ∃ faction, saved.1.getState entry = some faction ∧
        saveState saved entry =
          (saved.1.putState entry.repListID { faction with needSave := false },
            saved.2.insert faction.row (Rearrangement.back ReputationRow)) := by
  unfold saveState
  cases hstate : saved.1.getState entry with
  | none => exact Or.inl ⟨rfl, nofun⟩
  | some faction =>
    dsimp only
    split
    · exact Or.inr ⟨faction, rfl, rfl⟩
    next hsaved =>
      refine Or.inl ⟨rfl, fun other hother => ?_⟩
      rw [← Option.some.inj hother]
      exact Bool.eq_false_iff.mpr hsaved

theorem Backed.saveState {saved : ReputationMgr × ReputationTable}
    (hids : ∀ entry ∈ store.entries, entry.ID.toNat < 65536)
    (hbacked : Backed store player saved) {entry : FactionEntry} (hentry : entry ∈ store.entries) :
    Backed store player (saveState saved entry) := by
  rcases saveState_cases saved entry with ⟨hsame, -⟩ | ⟨faction, hstate, hsaved⟩
  · rwa [hsame]
  · obtain ⟨hcan, hfaction⟩ := factions_of_getState hstate
    rw [hsaved]
    refine ⟨fun repListID other hother => ?_, fun other hother hotherCan => ?_⟩
    · by_cases hsame : repListID = entry.repListID
      · exact ⟨entry, hentry, hcan, hsame.symm⟩
      · exact hbacked.listed repListID other ((Function.update_of_ne hsame _ _).symm.trans hother)
    · obtain ⟨known, hknown, hfollows, hrow⟩ := hbacked.known other hother hotherCan
      by_cases hsame : other = entry
      · subst hsame
        rw [hfaction, Option.some.injEq] at hknown
        subst hknown
        refine ⟨_, Function.update_self _ _ _, hfollows.trans (.of_flags rfl rfl), fun _ => ?_⟩
        rw [Table.get?_insert, if_pos]
        · rfl
        · exact congrArg UInt32.toUInt16 hfollows.ID.symm
      · refine ⟨known, (Function.update_of_ne (repListID_ne hentry hother hcan hsame) _ _).trans
          hknown, hfollows, fun hmarked => ?_⟩
        have hid : faction.ID = entry.ID := by
          obtain ⟨own, hown, hownFollows, -⟩ := hbacked.known entry hentry hcan
          rw [hfaction, Option.some.injEq] at hown
          exact hown ▸ hownFollows.ID
        have hother' := hids other hother
        have hentry' := hids entry hentry
        rw [Table.get?_insert, if_neg, hrow hmarked]
        intro heq
        refine hsame (Table.eq_of_key_eq hother hentry ?_)
        have hkeys : other.ID.toUInt16 = faction.ID.toUInt16 := heq
        rw [hid, ← UInt16.toNat_inj, UInt32.toNat_toUInt16, UInt32.toNat_toUInt16] at hkeys
        have hsameID : other.ID.toNat = entry.ID.toNat := by omega
        exact UInt32.toNat_inj.mp hsameID

def unmarked (faction : FactionState) : FactionState := { faction with needSave := false }

/-- Saving takes the marks away and changes nothing else. -/
theorem saveState_spec :
    (∀ repListID, ((saveState saved entry).1.factions repListID).map unmarked =
        (saved.1.factions repListID).map unmarked) ∧
      (∀ repListID faction, saved.1.factions repListID = some faction → faction.needSave = false →
        ((saveState saved entry).1.factions repListID) = some faction) ∧
      (entry.canHaveReputation = true → ∀ faction,
        (saveState saved entry).1.factions entry.repListID = some faction →
          faction.needSave = false) := by
  rcases saveState_cases saved entry with ⟨hsame, hnone⟩ | ⟨faction, hstate, hsaved⟩
  · rw [hsame]
    refine ⟨fun _ => rfl, fun _ _ hfaction _ => hfaction, fun hcan faction hfaction => ?_⟩
    refine hnone faction ?_
    unfold getState
    rwa [if_pos hcan]
  · obtain ⟨-, hfaction⟩ := factions_of_getState hstate
    rw [hsaved]
    unfold putState
    dsimp only
    refine ⟨fun repListID => ?_, fun repListID other hother hmarked => ?_, fun _ other hother => ?_⟩
    · rw [Function.update_apply]
      split
      next hsame =>
        rw [hsame, hfaction]
        rfl
      · rfl
    · rw [Function.update_apply]
      split
      next hsame =>
        rw [hsame, hfaction, Option.some.injEq] at hother
        subst hother
        rw [← hmarked]
      · exact hother
    · rw [Function.update_self, Option.some.injEq] at hother
      rw [← hother]

include hids in
theorem foldl_saveState (rest : List FactionEntry) (hrest : ∀ entry ∈ rest, entry ∈ store.entries)
    {saved : ReputationMgr × ReputationTable} (hbacked : Backed store player saved) :
    Backed store player (rest.foldl saveState saved) ∧
      (∀ repListID, ((rest.foldl saveState saved).1.factions repListID).map unmarked =
        (saved.1.factions repListID).map unmarked) ∧
      (∀ repListID faction, saved.1.factions repListID = some faction → faction.needSave = false →
        ((rest.foldl saveState saved).1.factions repListID) = some faction) ∧
      ∀ entry ∈ rest, entry.canHaveReputation = true → ∀ faction,
        (rest.foldl saveState saved).1.factions entry.repListID = some faction →
          faction.needSave = false := by
  induction rest generalizing saved with
  | nil => exact ⟨hbacked, fun _ => rfl, fun _ _ hfaction _ => hfaction, by simp⟩
  | cons entry rest ih =>
    rw [List.forall_mem_cons] at hrest
    obtain ⟨hsame, hkept, hdone⟩ := saveState_spec saved entry
    obtain ⟨hfinal, hsameRest, hkeptRest, hdoneRest⟩ := ih hrest.2 (hbacked.saveState hids hrest.1)
    rw [List.foldl_cons]
    refine ⟨hfinal, fun repListID => (hsameRest repListID).trans (hsame repListID),
      fun repListID faction hfaction hmarked =>
        hkeptRest repListID faction (hkept repListID faction hfaction hmarked) hmarked, ?_⟩
    intro other hother hcan faction hfaction
    rcases List.mem_cons.mp hother with rfl | hother
    · obtain ⟨known, hknown, -, -⟩ := (hbacked.saveState hids hrest.1).known other hrest.1 hcan
      have hmarked := hdone hcan known hknown
      rw [hkeptRest _ known hknown hmarked, Option.some.injEq] at hfaction
      rwa [← hfaction]
    · exact hdoneRest other hother hcan faction hfaction

include hids in
theorem saveToDB_spec {saved : ReputationMgr × ReputationTable}
    (hbacked : Backed store player saved) :
    Backed store player (saveToDB store saved.1 saved.2) ∧
      ∀ entry ∈ store.entries, entry.canHaveReputation = true → ∀ faction,
        saved.1.factions entry.repListID = some faction →
          (saveToDB store saved.1 saved.2).2.get? entry.ID.toUInt16 = some faction.row := by
  obtain ⟨hfinal, hsame, -, hdone⟩ := foldl_saveState hids store.entries.rows
    (fun entry hentry => Table.mem_def.mpr hentry) hbacked
  refine ⟨hfinal, fun entry hentry hcan faction hfaction => ?_⟩
  obtain ⟨known, hknown, -, hrow⟩ := hfinal.known entry hentry hcan
  have hmarked := hdone entry (Table.mem_def.mp hentry) hcan known hknown
  have hunmarked := hsame entry.repListID
  rw [hknown, hfaction, Option.map_some, Option.map_some, Option.some.injEq] at hunmarked
  have hrows : (unmarked known).row = (unmarked faction).row := by rw [hunmarked]
  exact (hrow hmarked).trans (congrArg some hrows)

/-! ## Runs -/

/-- A call, with what becomes of amounts in it. -/
inductive ReputationCall where
  | setReputation (rates : Rates) (entry : FactionEntry) (standing : Int32) (incremental : Bool)
  | setAtWar (repListID : UInt32) (on : Bool)
  | setInactive (repListID : UInt32) (on : Bool)
  | setVisible (entry : FactionEntry)
  | saveToDB

def perform (store : FactionStore) (player : Player) (saved : ReputationMgr × ReputationTable) :
    ReputationCall → ReputationMgr × ReputationTable
  | .setReputation rates entry standing incremental =>
    ((saved.1.setReputation store player rates entry standing incremental).1, saved.2)
  | .setAtWar repListID on => (saved.1.setAtWar repListID on, saved.2)
  | .setInactive repListID on => (saved.1.setInactive repListID on, saved.2)
  | .setVisible entry => (saved.1.setVisible entry, saved.2)
  | .saveToDB => saveToDB store saved.1 saved.2

include hids in
theorem Backed.perform {saved : ReputationMgr × ReputationTable}
    (hbacked : Backed store player saved) (call : ReputationCall) :
    Backed store player (perform store player saved call) := by
  cases call with
  | setReputation rates entry standing incremental =>
    exact hbacked.advance (setReputation_advances saved.1 entry standing incremental)
  | setAtWar repListID on => exact hbacked.advance (setAtWar_advances saved.1 repListID on)
  | setInactive repListID on => exact hbacked.advance (setInactive_advances saved.1 repListID on)
  | setVisible entry => exact hbacked.advance (setVisible_advances saved.1 entry)
  | saveToDB => exact (saveToDB_spec hids hbacked).1

def restorable (faction : FactionState) : Int32 × Bool × Bool × Bool :=
  (faction.Standing, faction.has FactionFlag.visible, faction.has FactionFlag.inactive,
    faction.has FactionFlag.atWar)

/-- Saved and loaded again, every faction has its standing and its flags. -/
def Restores (store : FactionStore) (player : Player) (saved : ReputationMgr × ReputationTable) :
    Prop :=
  ∀ repListID,
    ((loadFromDB store player (saveToDB store saved.1 saved.2).2.rows).factions repListID).map
        restorable =
      (saved.1.factions repListID).map restorable

/-- The flags of a faction are not ones that loading sets by itself: it is inactive if it is so by
default, and one that is not at war is not set at war by default, unless that is seen and taken
back, nor for its rank. -/
structure Reloadable (player : Player) (entry : FactionEntry) (faction : FactionState) : Prop where
  inactive : (entry.initialState player).has FactionFlag.inactive = true →
    faction.has FactionFlag.inactive = true
  atWarByDefault : faction.has FactionFlag.atWar = false →
    faction.has FactionFlag.visible = true ∨
      (entry.initialState player).has FactionFlag.atWar = false
  atWarByRank : faction.has FactionFlag.atWar = false →
    ReputationRank.hostile < reputationToRank (entry.baseReputation player + faction.Standing) ∨
      faction.has FactionFlag.peaceForced = true

theorem restorable_loadedState_iff {entry : FactionEntry}
    (hfollows : (entry.initialState player).Follows faction) :
    restorable (entry.loadedState player faction.row) = restorable faction ↔
      Reloadable player entry faction := by
  have hback : FactionState.Follows
      { entry.initialState player with Standing := faction.Standing }
      (entry.initialState player) := .of_flags rfl rfl
  have hloaded : entry.loadedState player faction.row =
      (loadFlags { entry.initialState player with Standing := faction.Standing } 0
        faction.Flags.toUInt16
        (reputationToRank (entry.baseReputation player + faction.Standing))).1 := rfl
  have hstanding : (entry.loadedState player faction.row).Standing = faction.Standing :=
    (FactionState.loadFlags_spec _ 0 faction.Flags.toUInt16 _).1
  obtain ⟨hvisible, hinactive, hatWar⟩ :=
    FactionState.loadFlags_row (hback.trans hfollows) 0 _ hloaded
  have hflags : ∀ flag, FactionState.has
      { entry.initialState player with Standing := faction.Standing } flag =
        (entry.initialState player).has flag := fun _ => rfl
  unfold restorable
  rw [hstanding, hvisible, hinactive, hatWar, hflags, hflags, Prod.mk.injEq, Prod.mk.injEq,
    Prod.mk.injEq, eq_self, eq_self, true_and, true_and, Bool.or_eq_left_iff_imp, Bool.or_assoc,
    Bool.or_eq_left_iff_imp]
  constructor
  · rintro ⟨hinactive, hatWar⟩
    rw [Bool.or_eq_true, Bool.and_eq_true, Bool.and_eq_true, Bool.not_eq_true',
      Bool.not_eq_true', decide_eq_true_iff] at hatWar
    refine ⟨hinactive, fun hoff => ?_, fun hoff => ?_⟩
    · by_contra hneither
      rw [not_or, Bool.not_eq_true, Bool.not_eq_false] at hneither
      exact Bool.eq_false_iff.mp hoff (hatWar (Or.inl hneither))
    · by_contra hneither
      rw [not_or, not_lt, Bool.not_eq_true] at hneither
      exact Bool.eq_false_iff.mp hoff (hatWar (Or.inr hneither))
  · rintro ⟨hinactive, hdefault, hrank⟩
    rw [Bool.or_eq_true, Bool.and_eq_true, Bool.and_eq_true, Bool.not_eq_true',
      Bool.not_eq_true', decide_eq_true_iff]
    refine ⟨hinactive, fun hset => ?_⟩
    by_contra hoff
    rw [Bool.not_eq_true] at hoff
    rcases hset with ⟨hunseen, hwar⟩ | ⟨hhostile, hfree⟩
    · rcases hdefault hoff with hseen | hpeace
      · exact Bool.eq_false_iff.mp hunseen hseen
      · exact Bool.eq_false_iff.mp hpeace hwar
    · rcases hrank hoff with hhigher | hforced
      · exact not_le.mpr hhigher hhostile
      · exact Bool.eq_false_iff.mp hfree hforced

/-- In every state that is reached from a loaded one, saving and loading restores all factions if
and only if all are reloadable. -/
theorem restores_iff_reloadable (store : FactionStore) (player : Player)
    (hids : ∀ entry ∈ store.entries, entry.ID.toNat < 65536) (table : ReputationTable)
    (calls : List ReputationCall) :
    ∀ saved ∈ visited (perform store player) (loadFromDB store player table.rows, table) calls,
      Restores store player saved ↔
        ∀ entry ∈ store.entries, ∀ faction, saved.1.getState entry = some faction →
          Reloadable player entry faction := by
  intro saved hsaved
  have hbacked : Backed store player saved :=
    invariant_of_along (perform store player) (Backed store player) (fun _ _ => True)
      (fun _ call hbacked _ => hbacked.perform hids call) _ calls (loadFromDB_backed hids table)
      (along_of_forall _ (fun _ _ => trivial) _ calls) saved hsaved
  obtain ⟨-, hrows⟩ := saveToDB_spec hids hbacked
  -- each faction is loaded from its own row
  have hloaded : ∀ entry ∈ store.entries, entry.canHaveReputation = true → ∀ faction,
      saved.1.factions entry.repListID = some faction →
        (loadFromDB store player (saveToDB store saved.1 saved.2).2.rows).factions
          entry.repListID = some (entry.loadedState player faction.row) := by
    intro entry hentry hcan faction hfaction
    rw [factions_loadFromDB hentry hcan (hids entry hentry),
      hrows entry hentry hcan faction hfaction]
    rfl
  constructor
  · intro hrestores entry hentry faction hstate
    obtain ⟨hcan, hfaction⟩ := factions_of_getState hstate
    obtain ⟨known, hknown, hfollows, -⟩ := hbacked.known entry hentry hcan
    rw [hfaction, Option.some.injEq] at hknown
    subst hknown
    have hsame := hrestores entry.repListID
    rw [hloaded entry hentry hcan faction hfaction, hfaction, Option.map_some, Option.map_some,
      Option.some.injEq] at hsame
    exact (restorable_loadedState_iff hfollows).mp hsame
  · intro hreloadable repListID
    cases hfaction : saved.1.factions repListID with
    | none =>
      have hnone : (loadFromDB store player (saveToDB store saved.1 saved.2).2.rows).factions
          repListID = none := by
        rw [Option.eq_none_iff_forall_ne_some]
        intro faction hagain
        obtain ⟨entry, hentry, hcan, rfl⟩ :=
          (loadFromDB_tallied (saveToDB store saved.1 saved.2).2.nodup).listed _ _ hagain
        obtain ⟨known, hknown, -⟩ := hbacked.known entry hentry hcan
        rw [hfaction] at hknown
        cases hknown
      rw [hnone]
    | some faction =>
      obtain ⟨entry, hentry, hcan, rfl⟩ := hbacked.listed repListID faction hfaction
      obtain ⟨known, hknown, hfollows, -⟩ := hbacked.known entry hentry hcan
      rw [hfaction, Option.some.injEq] at hknown
      subst hknown
      have hstate : saved.1.getState entry = some faction := by
        unfold getState
        rwa [if_pos hcan]
      rw [hloaded entry hentry hcan faction hfaction, Option.map_some, Option.map_some,
        (restorable_loadedState_iff hfollows).mpr (hreloadable entry hentry faction hstate)]

/-- The faction becomes hostile, is saved, and the player hides it in his list. -/
def hidden : List ReputationCall :=
  [.setReputation plainRates bootyBay (-5000) false, .saveToDB, .setInactive 1 true]

theorem restores_iff_reloadable_bootyBay :
    (∀ entry ∈ bootyBayStore.entries, entry.ID.toNat < 65536) ∧
      ∀ saved ∈ visited (perform bootyBayStore human)
        (loadFromDB bootyBayStore human (Table.empty : ReputationTable).rows, Table.empty) hidden,
        Restores bootyBayStore human saved := by
  have hids : ∀ entry ∈ bootyBayStore.entries, entry.ID.toNat < 65536 := by
    intro entry hentry
    rw [List.mem_singleton.mp (Table.mem_def.mp hentry)]
    decide
  refine ⟨hids, fun saved hsaved => ?_⟩
  apply (restores_iff_reloadable bootyBayStore human hids Table.empty hidden saved hsaved).mpr
  intro entry hentry faction hstate
  rw [List.mem_singleton.mp (Table.mem_def.mp hentry)] at hstate ⊢
  -- he is not at war at the start, and at war with a hostile faction from then on
  simp only [hidden, visited, List.mem_cons, List.not_mem_nil, or_false] at hsaved
  rcases hsaved with rfl | rfl | rfl | rfl <;>
    obtain rfl : _ = faction := Option.some.inj hstate <;>
    exact ⟨by decide, by decide, by decide⟩

/-- The faction becomes hostile, and the player calls off the war. -/
def calledOff : List ReputationCall :=
  [.setReputation plainRates bootyBay (-5000) false, .setAtWar 1 false]

/-- The war with a hostile faction that was called off is on again after loading. -/
theorem not_restores_calledOff :
    ¬ ∀ saved ∈ visited (perform bootyBayStore human)
        (loadFromDB bootyBayStore human (Table.empty : ReputationTable).rows, Table.empty)
        calledOff,
      Restores bootyBayStore human saved := by
  intro hrestores
  have hlast := hrestores _ (List.mem_cons_of_mem _ (List.mem_cons_of_mem _ List.mem_cons_self)) 1
  exact absurd hlast (by decide +kernel)

end ReputationMgr

end MopServer.Reputations
