import MopServer.Reputations.RankCounters

/-! # Saved and loaded again

A faction is saved when it has been changed since it was loaded.  Loading starts from the flags
the faction has by default and goes through the setters again, with all that these refuse.
-/

namespace MopServer.Reputations

open MopServer.Foundation

instance : Keyed ReputationRow UInt16 := ⟨ReputationRow.faction⟩

/-- The rows of `character_reputation` of one character. -/
abbrev ReputationTable := Table ReputationRow

namespace ReputationMgr

/-- `SetAtWar` of a faction the client names. -/
def setAtWar (mgr : ReputationMgr) (repListID : UInt32) (on : Bool) : ReputationMgr :=
  match mgr.factions repListID with
  | none => mgr
  | some faction =>
    if faction.has (FactionFlag.invisibleForced ||| FactionFlag.hidden) then mgr
    else mgr.putState repListID (faction.setAtWar on)

/-- `SetInactive` of a faction the client names. -/
def setInactive (mgr : ReputationMgr) (repListID : UInt32) (on : Bool) : ReputationMgr :=
  match mgr.factions repListID with
  | none => mgr
  | some faction => mgr.putState repListID (faction.setInactive on)

/-- `SetVisible` of a faction. -/
def setVisible (mgr : ReputationMgr) (entry : FactionEntry) : ReputationMgr :=
  match mgr.getState entry with
  | none => mgr
  | some faction =>
    let shown := faction.setVisible mgr.visibleFactionCount
    { mgr with visibleFactionCount := shown.2 }.putState entry.repListID shown.1

/-- The body of the loop of `SaveToDB`: the row of a changed faction is deleted and inserted
anew. -/
def saveState (saved : ReputationMgr × ReputationTable) (entry : FactionEntry) :
    ReputationMgr × ReputationTable :=
  match saved.1.getState entry with
  | none => saved
  | some faction =>
    if faction.needSave then
      (saved.1.putState entry.repListID { faction with needSave := false },
        saved.2.insert
          { faction := faction.ID.toUInt16, standing := faction.Standing
            flags := faction.Flags.toUInt16 }
          (Rearrangement.back ReputationRow))
    else saved

/-- `SaveToDB`.  The states are those of the factions of the store. -/
def saveToDB (store : FactionStore) (mgr : ReputationMgr) (table : ReputationTable) :
    ReputationMgr × ReputationTable :=
  store.entries.rows.foldl saveState (mgr, table)

end ReputationMgr

/-! ## What the setters do to a flag -/

namespace FactionState

variable {flag : UInt8} {first second third : FactionState} (faction : FactionState)
  (inactive : Bool)

theorem has_withFlags_and (flag : UInt8) :
    (faction.withFlags (faction.Flags &&& ~~~flag)).has flag = false := by
  have hzero : faction.Flags &&& ~~~flag &&& flag = 0 := by
    apply UInt8.toBitVec_inj.mp
    ext i
    simp
  exact decide_eq_false (not_not.mpr hzero)

variable (count : UInt8)

/-- A faction that is hidden by force is shown only when it is special. -/
theorem has_setVisible :
    (faction.setVisible count).1.has FactionFlag.visible =
      (faction.has FactionFlag.visible ||
        (!faction.has (FactionFlag.invisibleForced ||| FactionFlag.hidden) ||
          faction.has FactionFlag.special)) := by
  unfold setVisible
  split
  next hforced =>
    rw [Bool.and_eq_true, Bool.not_eq_true'] at hforced
    rw [hforced.1, hforced.2, Bool.not_true, Bool.or_false, Bool.or_false]
  next hopen =>
    split
    next hvisible => rw [hvisible, Bool.true_or]
    · rw [faction.has_withFlags_or (by decide)]
      grind

theorem has_setVisible_of_disjoint (hdisjoint : FactionFlag.visible &&& flag = 0) :
    (faction.setVisible count).1.has flag = faction.has flag := by
  unfold setVisible
  split
  · rfl
  · split
    · rfl
    · exact faction.has_withFlags_or_of_disjoint hdisjoint

variable (on refused : Bool)

/-- A flag is as asked, unless it is to be set and that is refused. -/
theorem has_switch (hflag : flag ≠ 0) :
    (faction.switch flag on refused).has flag =
      if on && refused then faction.has flag else on := by
  unfold switch
  split
  · rfl
  · split
    next hsame => exact hsame
    · split
      next hon => rw [faction.has_withFlags_or hflag, hon]
      next hoff => rw [faction.has_withFlags_and, Bool.eq_false_iff.mpr hoff]

/-- No other flag is touched. -/
theorem has_switch_of_disjoint {other : UInt8} (hdisjoint : flag &&& other = 0) :
    (faction.switch flag on refused).has other = faction.has other := by
  unfold switch
  split
  · rfl
  · split
    · rfl
    · split
      · exact faction.has_withFlags_or_of_disjoint hdisjoint
      · exact faction.has_withFlags_and_of_disjoint hdisjoint

theorem ID_switch : (faction.switch flag on refused).ID = faction.ID := by
  unfold switch withFlags
  split_ifs <;> rfl

variable (atWar : Bool)

theorem has_setAtWar :
    (faction.setAtWar atWar).has FactionFlag.atWar =
      if atWar && faction.has FactionFlag.peaceForced then faction.has FactionFlag.atWar
      else atWar :=
  faction.has_switch atWar _ (by decide)

theorem has_setAtWar_of_disjoint (hdisjoint : FactionFlag.atWar &&& flag = 0) :
    (faction.setAtWar atWar).has flag = faction.has flag :=
  faction.has_switch_of_disjoint atWar _ hdisjoint

theorem has_setInactive :
    (faction.setInactive inactive).has FactionFlag.inactive =
      if inactive && (faction.has (FactionFlag.invisibleForced ||| FactionFlag.hidden) ||
          !faction.has FactionFlag.visible) then faction.has FactionFlag.inactive
      else inactive :=
  faction.has_switch inactive _ (by decide)

theorem has_setInactive_of_disjoint (hdisjoint : FactionFlag.inactive &&& flag = 0) :
    (faction.setInactive inactive).has flag = faction.has flag :=
  faction.has_switch_of_disjoint inactive _ hdisjoint

/-- What becomes of the flags of a faction: those that bind it stay as they are, and a flag that
they refuse is not set. -/
structure Follows (old new : FactionState) : Prop where
  ID : new.ID = old.ID
  concealed : new.has (FactionFlag.invisibleForced ||| FactionFlag.hidden) =
    old.has (FactionFlag.invisibleForced ||| FactionFlag.hidden)
  special : new.has FactionFlag.special = old.has FactionFlag.special
  peaceForced : new.has FactionFlag.peaceForced = old.has FactionFlag.peaceForced
  visible : old.has FactionFlag.visible = true → new.has FactionFlag.visible = true
  shown : new.has FactionFlag.visible = true → old.has FactionFlag.visible = true ∨
    old.has (FactionFlag.invisibleForced ||| FactionFlag.hidden) = false ∨
      old.has FactionFlag.special = true
  inactive : new.has FactionFlag.inactive = true → old.has FactionFlag.inactive = true ∨
    old.has (FactionFlag.invisibleForced ||| FactionFlag.hidden) = false ∧
      new.has FactionFlag.visible = true
  atWar : new.has FactionFlag.atWar = true → old.has FactionFlag.atWar = true ∨
    old.has FactionFlag.peaceForced = false

/-- Nothing but the standing and the marks may be different. -/
theorem Follows.of_flags {old new : FactionState} (hid : new.ID = old.ID)
    (hflags : new.Flags = old.Flags) : Follows old new := by
  have hhas : ∀ flag, new.has flag = old.has flag := by
    intro flag
    unfold has
    rw [hflags]
  refine
    { ID := hid, concealed := hhas _, special := hhas _, peaceForced := hhas _
      visible := fun hvisible => (hhas _).trans hvisible
      shown := fun hshown => Or.inl ((hhas _).symm.trans hshown)
      inactive := fun hinactive => Or.inl ((hhas _).symm.trans hinactive)
      atWar := fun hatWar => Or.inl ((hhas _).symm.trans hatWar) }

theorem Follows.refl : Follows faction faction := .of_flags rfl rfl

theorem Follows.trans (hfirst : Follows first second) (hsecond : Follows second third) :
    Follows first third where
  ID := hsecond.ID.trans hfirst.ID
  concealed := hsecond.concealed.trans hfirst.concealed
  special := hsecond.special.trans hfirst.special
  peaceForced := hsecond.peaceForced.trans hfirst.peaceForced
  visible := fun hvisible => hsecond.visible (hfirst.visible hvisible)
  shown := by
    intro hshown
    rcases hsecond.shown hshown with hvisible | hopen | hspecial
    · exact hfirst.shown hvisible
    · exact Or.inr (Or.inl (hfirst.concealed.symm.trans hopen))
    · exact Or.inr (Or.inr (hfirst.special.symm.trans hspecial))
  inactive := by
    intro hinactive
    rcases hsecond.inactive hinactive with hbefore | ⟨hopen, hvisible⟩
    · exact (hfirst.inactive hbefore).imp_right fun hboth =>
        ⟨hboth.1, hsecond.visible hboth.2⟩
    · exact Or.inr ⟨hfirst.concealed.symm.trans hopen, hvisible⟩
  atWar := by
    intro hatWar
    rcases hsecond.atWar hatWar with hbefore | hfree
    · exact hfirst.atWar hbefore
    · exact Or.inr (hfirst.peaceForced.symm.trans hfree)

theorem ID_setVisible : (faction.setVisible count).1.ID = faction.ID := by
  unfold setVisible
  split
  · rfl
  · split <;> rfl

/-- `SetVisible` adds the flag only where the faction may be seen. -/
theorem setVisible_follows : Follows faction (faction.setVisible count).1 where
  ID := faction.ID_setVisible count
  concealed := faction.has_setVisible_of_disjoint count (by decide)
  special := faction.has_setVisible_of_disjoint count (by decide)
  peaceForced := faction.has_setVisible_of_disjoint count (by decide)
  visible := fun hvisible => by rw [has_setVisible, hvisible, Bool.true_or]
  shown := by
    rw [has_setVisible, Bool.or_eq_true, Bool.or_eq_true, Bool.not_eq_true']
    exact id
  inactive := by
    rw [faction.has_setVisible_of_disjoint count (by decide)]
    exact Or.inl
  atWar := by
    rw [faction.has_setVisible_of_disjoint count (by decide)]
    exact Or.inl

/-- `SetAtWar` starts no war with a faction that peace is forced with. -/
theorem setAtWar_follows : Follows faction (faction.setAtWar atWar) where
  ID := faction.ID_switch atWar _
  concealed := faction.has_setAtWar_of_disjoint atWar (by decide)
  special := faction.has_setAtWar_of_disjoint atWar (by decide)
  peaceForced := faction.has_setAtWar_of_disjoint atWar (by decide)
  visible := fun hvisible => by rwa [faction.has_setAtWar_of_disjoint atWar (by decide)]
  shown := by
    rw [faction.has_setAtWar_of_disjoint atWar (by decide)]
    exact Or.inl
  inactive := by
    rw [faction.has_setAtWar_of_disjoint atWar (by decide)]
    exact Or.inl
  atWar := by
    rw [has_setAtWar]
    cases faction.has FactionFlag.peaceForced with
    | false => exact fun _ => Or.inr rfl
    | true =>
      cases atWar with
      | false => exact fun hoff => nomatch hoff
      | true => exact Or.inl

/-- `SetInactive` hides only factions that can be seen. -/
theorem setInactive_follows : Follows faction (faction.setInactive inactive) where
  ID := faction.ID_switch inactive _
  concealed := faction.has_setInactive_of_disjoint inactive (by decide)
  special := faction.has_setInactive_of_disjoint inactive (by decide)
  peaceForced := faction.has_setInactive_of_disjoint inactive (by decide)
  visible := fun hvisible => by rwa [faction.has_setInactive_of_disjoint inactive (by decide)]
  shown := by
    rw [faction.has_setInactive_of_disjoint inactive (by decide)]
    exact Or.inl
  inactive := by
    rw [has_setInactive, faction.has_setInactive_of_disjoint inactive (by decide)]
    intro hinactive
    split at hinactive
    · exact Or.inl hinactive
    next hallowed =>
      rw [hinactive, Bool.true_and, Bool.or_eq_true, not_or, Bool.not_eq_true,
        Bool.not_eq_true, Bool.not_eq_false'] at hallowed
      exact Or.inr hallowed
  atWar := by
    rw [faction.has_setInactive_of_disjoint inactive (by decide)]
    exact Or.inl

/-! ## Marked changes -/

/-- A faction that is not marked to be saved is as it was, and was not marked before. -/
structure Changes (old new : FactionState) : Prop where
  follows : Follows old new
  marked : new.needSave = false →
    old.needSave = false ∧ new.Standing = old.Standing ∧ new.Flags = old.Flags

theorem Changes.refl : Changes faction faction :=
  ⟨.refl faction, fun hsaved => ⟨hsaved, rfl, rfl⟩⟩

theorem Changes.trans (hfirst : Changes first second) (hsecond : Changes second third) :
    Changes first third where
  follows := hfirst.follows.trans hsecond.follows
  marked := by
    intro hsaved
    obtain ⟨hmiddle, hstanding, hflags⟩ := hsecond.marked hsaved
    obtain ⟨hold, hstandingOld, hflagsOld⟩ := hfirst.marked hmiddle
    exact ⟨hold, hstanding.trans hstandingOld, hflags.trans hflagsOld⟩

theorem setVisible_changes : Changes faction (faction.setVisible count).1 := by
  refine ⟨faction.setVisible_follows count, ?_⟩
  unfold setVisible
  split
  · exact fun hsaved => ⟨hsaved, rfl, rfl⟩
  · split
    · exact fun hsaved => ⟨hsaved, rfl, rfl⟩
    · nofun

/-- A flag that is turned marks the faction. -/
theorem switch_changes (hfollows : Follows faction (faction.switch flag on refused)) :
    Changes faction (faction.switch flag on refused) := by
  refine ⟨hfollows, ?_⟩
  unfold switch withFlags
  split_ifs
  · exact fun hsaved => ⟨hsaved, rfl, rfl⟩
  · exact fun hsaved => ⟨hsaved, rfl, rfl⟩
  · nofun
  · nofun

theorem setAtWar_changes : Changes faction (faction.setAtWar atWar) :=
  faction.switch_changes atWar _ (faction.setAtWar_follows atWar)

theorem setInactive_changes : Changes faction (faction.setInactive inactive) :=
  faction.switch_changes inactive _ (faction.setInactive_follows inactive)

end FactionState

namespace ReputationMgr

/-! ## Calls -/

/-- Every faction has changed, if at all, with a mark. -/
def Advances (before after : ReputationMgr) : Prop :=
  ∀ repListID, Option.Rel FactionState.Changes (before.factions repListID)
    (after.factions repListID)

section

variable {store : FactionStore} {player : Player} {rates : Rates} {mgr : ReputationMgr}
  {faction : FactionState}

theorem Advances.refl (mgr : ReputationMgr) : mgr.Advances mgr := by
  intro repListID
  cases mgr.factions repListID with
  | none => exact .none
  | some faction => exact .some (.refl faction)

theorem Advances.trans {first second third : ReputationMgr} (hfirst : first.Advances second)
    (hsecond : second.Advances third) : first.Advances third := by
  intro repListID
  have hbefore := hfirst repListID
  have hafter := hsecond repListID
  generalize first.factions repListID = before at *
  generalize second.factions repListID = middle at *
  generalize third.factions repListID = after at *
  cases hbefore with
  | none => exact hafter
  | some hchange =>
    cases hafter with
    | some hnext => exact .some (hchange.trans hnext)

/-- It is enough to look at the state that is put. -/
theorem Advances.putState {middle : ReputationMgr} (hmiddle : middle.factions = mgr.factions)
    {repListID : UInt32} {changed : FactionState} (hfaction : mgr.factions repListID = some faction)
    (hchanges : faction.Changes changed) : mgr.Advances (middle.putState repListID changed) := by
  intro other
  unfold ReputationMgr.putState
  dsimp only
  rw [Function.update_apply, hmiddle]
  split
  next hsame =>
    rw [hsame, hfaction]
    exact .some hchanges
  · exact Advances.refl mgr other

/-- A change of standing always marks the faction. -/
theorem setOneFactionReputation_advances (mgr : ReputationMgr) (entry : FactionEntry)
    (standing : Int32) (incremental : Bool) :
    mgr.Advances (mgr.setOneFactionReputation player rates entry standing incremental).1 := by
  unfold setOneFactionReputation
  split
  · exact .refl mgr
  next faction hfaction =>
    extract_lets base total oldRank newRank shown faction' after
    refine Advances.putState (by rfl) hfaction ?_
    have hstanding : faction.Changes
        { faction with Standing := total - base, needSend := true, needSave := true } :=
      ⟨.of_flags rfl rfl, nofun⟩
    have hshown : faction.Changes shown.1 :=
      hstanding.trans (FactionState.setVisible_changes _ mgr.visibleFactionCount)
    unfold faction'
    split
    · exact hshown.trans (FactionState.setAtWar_changes shown.1 true)
    · exact hshown

/-- A call with all its spillover changes no faction without a mark. -/
theorem setReputation_advances (mgr : ReputationMgr) (entry : FactionEntry) (standing : Int32)
    (incremental : Bool) :
    mgr.Advances (mgr.setReputation store player rates entry standing incremental).1 :=
  have hcomposes : Composes player rates (fun _ => True)
      (fun mgr result => mgr.Advances result.1) :=
    { refl := .refl
      andThen := .trans
      change := fun {entry} _ mgr => setOneFactionReputation_advances mgr entry }
  hcomposes.setReputation (fun _ _ => trivial) trivial mgr standing incremental

theorem setAtWar_advances (mgr : ReputationMgr) (repListID : UInt32) (on : Bool) :
    mgr.Advances (mgr.setAtWar repListID on) := by
  unfold setAtWar
  split
  · exact .refl mgr
  next faction hfaction =>
    split
    · exact .refl mgr
    · exact Advances.putState rfl hfaction (faction.setAtWar_changes on)

theorem setInactive_advances (mgr : ReputationMgr) (repListID : UInt32) (on : Bool) :
    mgr.Advances (mgr.setInactive repListID on) := by
  unfold setInactive
  split
  · exact .refl mgr
  next faction hfaction =>
    exact Advances.putState rfl hfaction (faction.setInactive_changes on)

theorem factions_of_getState {entry : FactionEntry} (hstate : mgr.getState entry = some faction) :
    entry.canHaveReputation = true ∧ mgr.factions entry.repListID = some faction := by
  unfold getState at hstate
  split at hstate
  next hcan => exact ⟨hcan, hstate⟩
  · cases hstate

theorem setVisible_advances (mgr : ReputationMgr) (entry : FactionEntry) :
    mgr.Advances (mgr.setVisible entry) := by
  unfold setVisible
  split
  · exact .refl mgr
  next faction hstate =>
    exact Advances.putState rfl (factions_of_getState hstate).2
      (faction.setVisible_changes mgr.visibleFactionCount)

end

end ReputationMgr

end MopServer.Reputations
