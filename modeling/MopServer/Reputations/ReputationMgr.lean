import Mathlib.Logic.Function.Basic
import Mathlib.Data.UInt
import MopServer.Foundation.Table

/-! # The reputation of a player

The manager holds a standing and flags for every faction of the reputation list, and counts how
many factions are visible, honored, revered and exalted.
-/

namespace MopServer.Reputations

open MopServer.Foundation

/-- From hated to exalted. -/
abbrev ReputationRank := Fin 8

namespace ReputationRank

def hostile : ReputationRank := 1
def honored : ReputationRank := 5
def revered : ReputationRank := 6
def exalted : ReputationRank := 7

end ReputationRank

namespace FactionFlag

def visible : UInt8 := 0x01
def atWar : UInt8 := 0x02
def hidden : UInt8 := 0x04
def invisibleForced : UInt8 := 0x08
def peaceForced : UInt8 := 0x10
def inactive : UInt8 := 0x20
def special : UInt8 := 0x80

end FactionFlag

def Reputation_Cap : Int32 := 42999
def Reputation_Bottom : Int32 := -42000

/-- `PointsInRank`, from the highest rank down. -/
def pointsInRank : List (ReputationRank × Int32) :=
  [(7, 1000), (6, 21000), (5, 12000), (4, 6000), (3, 3000), (2, 3000), (1, 3000), (0, 36000)]

/-- The loop of `ReputationToRank`. -/
def rankBelow (standing : Int32) : Int32 → List (ReputationRank × Int32) → ReputationRank
  | _, [] => 0
  | limit, (rank, points) :: rest =>
    if limit - points ≤ standing then rank else rankBelow standing (limit - points) rest

/-- `ReputationToRank`. -/
def reputationToRank (standing : Int32) : ReputationRank :=
  rankBelow standing (Reputation_Cap + 1) pointsInRank

/-- A base reputation with its flags, for some races and classes. -/
structure BaseRep where
  raceMask : UInt32
  classMask : UInt32
  value : Int32
  flags : UInt32
  deriving DecidableEq, Repr

/-- A faction, with its four base reputations in order. -/
structure FactionEntry where
  ID : UInt32
  reputationListID : Int32
  baseReps : List BaseRep
  team : UInt32
  /-- `spilloverRateOut` is not 0. -/
  spillsOut : Bool
  spilloverMaxRankIn : UInt32
  deriving DecidableEq, Repr

instance instKeyedFactionEntry : Keyed FactionEntry UInt32 := ⟨FactionEntry.ID⟩

/-- A rate of `reputation_spillover_template`; the amount is multiplied and cut to whole points. -/
structure RepSpillover where
  faction : UInt32
  rate : Int32 → Int32
  rank : UInt32

/-- `sFactionStore` and the spillover templates. -/
structure FactionStore where
  entries : Table FactionEntry
  templates : UInt32 → Option (List RepSpillover)
  /-- Row 0 of the store is not used. -/
  id_ne_zero : ∀ entry ∈ entries, entry.ID ≠ 0
  listID_inj : ∀ first ∈ entries, ∀ second ∈ entries,
    first.reputationListID = second.reputationListID → 0 ≤ first.reputationListID →
      first = second

/-- What becomes of an amount by the scripts and by the rates, which are floating point numbers. -/
structure Rates where
  /-- What the scripts make of the amount for a faction. -/
  script : UInt32 → Int32 → Bool → Int32
  /-- A gain, at the rate of the player. -/
  gain : Int32 → Int32
  /-- What a faction hands to its parent. -/
  toParent : FactionEntry → Int32 → Int32
  /-- What a faction hands to another, before or after its own outgoing rate. -/
  toSister : FactionEntry → Bool → FactionEntry → Int32 → Int32

structure Player where
  raceMask : UInt32
  classMask : UInt32

structure FactionState where
  ID : UInt32
  ReputationListID : UInt32
  Standing : Int32
  Flags : UInt8
  needSend : Bool
  needSave : Bool
  deriving DecidableEq, Repr

structure ReputationMgr where
  factions : UInt32 → Option FactionState
  visibleFactionCount : UInt8
  honoredFactionCount : UInt8
  reveredFactionCount : UInt8
  exaltedFactionCount : UInt8
  sendFactionIncreased : Bool

namespace BaseRep

/-- The base reputation applies to the race and class of the player. -/
def isFor (base : BaseRep) (player : Player) : Bool :=
  (base.raceMask &&& player.raceMask ≠ 0 || base.raceMask = 0 && base.classMask ≠ 0) &&
    (base.classMask &&& player.classMask ≠ 0 || base.classMask = 0)

end BaseRep

namespace FactionEntry

variable (entry : FactionEntry)

def canHaveReputation : Bool := 0 ≤ entry.reputationListID

/-- The list id as a `RepListID`. -/
def repListID : UInt32 := entry.reputationListID.toUInt32

/-- `GetBaseReputation`. -/
def baseReputation (player : Player) (entry : FactionEntry) : Int32 :=
  ((entry.baseReps.find? fun base => base.isFor player).map BaseRep.value).getD 0

/-- `GetDefaultStateFlags`. -/
def defaultStateFlags (player : Player) (entry : FactionEntry) : UInt32 :=
  ((entry.baseReps.find? fun base => base.isFor player).map BaseRep.flags).getD 0

end FactionEntry

namespace FactionState

variable (faction : FactionState)

def has (flag : UInt8) : Bool := faction.Flags &&& flag ≠ 0

def withFlags (flags : UInt8) : FactionState :=
  { faction with Flags := flags, needSend := true, needSave := true }

/-- `SetVisible`, with the count of visible factions. -/
def setVisible (visibleFactionCount : UInt8) : FactionState × UInt8 :=
  if faction.has (FactionFlag.invisibleForced ||| FactionFlag.hidden) &&
      !faction.has FactionFlag.special then
    (faction, visibleFactionCount)
  else if faction.has FactionFlag.visible then (faction, visibleFactionCount)
  else (faction.withFlags (faction.Flags ||| FactionFlag.visible), visibleFactionCount + 1)

/-- A flag is switched on or off; switching it on can be refused. -/
def switch (flag : UInt8) (on refused : Bool) : FactionState :=
  if on && refused then faction
  else if faction.has flag = on then faction
  else if on then faction.withFlags (faction.Flags ||| flag)
  else faction.withFlags (faction.Flags &&& ~~~flag)

/-- `SetAtWar`. -/
def setAtWar (atWar : Bool) : FactionState :=
  faction.switch FactionFlag.atWar atWar (faction.has FactionFlag.peaceForced)

/-- `SetInactive`. -/
def setInactive (inactive : Bool) : FactionState :=
  faction.switch FactionFlag.inactive inactive
    (faction.has (FactionFlag.invisibleForced ||| FactionFlag.hidden) ||
      !faction.has FactionFlag.visible)

end FactionState

/-- A saved row of `character_reputation`. -/
structure ReputationRow where
  faction : UInt16
  standing : Int32
  flags : UInt16
  deriving DecidableEq, Repr

/-- A faction that has been changed, with its total standing before and after. -/
structure Change where
  entry : FactionEntry
  standing : Int32
  incremental : Bool
  before : Int32
  after : Int32

namespace ReputationMgr

def empty : ReputationMgr :=
  { factions := fun _ => none, visibleFactionCount := 0, honoredFactionCount := 0
    reveredFactionCount := 0, exaltedFactionCount := 0, sendFactionIncreased := false }

variable (mgr : ReputationMgr)

def putState (repListID : UInt32) (faction : FactionState) : ReputationMgr :=
  { mgr with factions := Function.update mgr.factions repListID (some faction) }

/-- `GetState`. -/
def getState (entry : FactionEntry) : Option FactionState :=
  if entry.canHaveReputation then mgr.factions entry.repListID else none

/-- `UpdateRankCounters`. -/
def updateRankCounters (oldRank newRank : ReputationRank) : ReputationMgr :=
  let change := fun (count : UInt8) (rank : ReputationRank) =>
    let count := if rank ≤ oldRank then count - 1 else count
    if rank ≤ newRank then count + 1 else count
  { mgr with
    exaltedFactionCount := change mgr.exaltedFactionCount .exalted
    reveredFactionCount := change mgr.reveredFactionCount .revered
    honoredFactionCount := change mgr.honoredFactionCount .honored }

section

variable (store : FactionStore) (player : Player) (mgr : ReputationMgr) (entry : FactionEntry)

/-- `GetReputation` of a faction in the store. -/
def getReputation : Int32 :=
  match mgr.getState entry with
  | none => 0
  | some faction => entry.baseReputation player + faction.Standing

/-- `GetRank`; a faction that is not in the store has reputation 0. -/
def getRank (entry : Option FactionEntry) : ReputationRank :=
  reputationToRank ((entry.map (mgr.getReputation player)).getD 0)

/-- The loop body of `Initialize`. -/
def initFaction : ReputationMgr :=
  if entry.ID ≠ 0 && entry.canHaveReputation then
    let flags := (entry.defaultStateFlags player).toUInt8
    let count := if flags &&& FactionFlag.visible ≠ 0 then mgr.visibleFactionCount + 1
      else mgr.visibleFactionCount
    (({ mgr with visibleFactionCount := count }.updateRankCounters .hostile
      (reputationToRank (entry.baseReputation player))).putState entry.repListID
        { ID := entry.ID, ReputationListID := entry.repListID, Standing := 0, Flags := flags
          needSend := true, needSave := true })
  else mgr

/-- `Initialize`. -/
def initFactions : ReputationMgr :=
  store.entries.rows.foldl (initFaction player) empty

/-- What `LoadFromDB` makes of the flags of a row. -/
def loadFlags (faction : FactionState) (visibleFactionCount : UInt8) (flags : UInt16)
    (rank : ReputationRank) : FactionState × UInt8 :=
  let shown :=
    if flags &&& FactionFlag.visible.toUInt16 ≠ 0 then faction.setVisible visibleFactionCount
    else (faction, visibleFactionCount)
  let faction := shown.1
  let faction :=
    if flags &&& FactionFlag.inactive.toUInt16 ≠ 0 then faction.setInactive true else faction
  let faction :=
    if flags &&& FactionFlag.atWar.toUInt16 ≠ 0 then faction.setAtWar true
    else if faction.has FactionFlag.visible then faction.setAtWar false
    else faction
  let faction := if rank ≤ .hostile then faction.setAtWar true else faction
  let faction :=
    if faction.Flags.toUInt16 = flags then { faction with needSend := false, needSave := false }
    else faction
  (faction, shown.2)

/-- The loop body of `LoadFromDB`. -/
def loadRow (row : ReputationRow) : ReputationMgr :=
  match store.entries.get? row.faction.toUInt32 with
  | none => mgr
  | some entry =>
    if entry.canHaveReputation then
      let faction := (mgr.factions entry.repListID).getD
        { ID := 0, ReputationListID := 0, Standing := 0, Flags := 0, needSend := false
          needSave := false }
      let base := entry.baseReputation player
      let loaded := loadFlags { faction with Standing := row.standing } mgr.visibleFactionCount
        row.flags (reputationToRank (base + row.standing))
      (({ mgr with visibleFactionCount := loaded.2 }.updateRankCounters (reputationToRank base)
        (reputationToRank (base + row.standing))).putState entry.repListID loaded.1)
    else mgr

/-- `LoadFromDB`. -/
def loadFromDB (rows : List ReputationRow) : ReputationMgr :=
  rows.foldl (loadRow store player) (initFactions store player)

def clamp (standing : Int32) : Int32 :=
  if Reputation_Cap < standing then Reputation_Cap
  else if standing < Reputation_Bottom then Reputation_Bottom
  else standing

variable (rates : Rates)

/-- `SetOneFactionReputation`, with the change it makes. -/
def setOneFactionReputation (entry : FactionEntry) (standing : Int32) (incremental : Bool)
    (mgr : ReputationMgr) : ReputationMgr × List Change :=
  match mgr.factions entry.repListID with
  | none => (mgr, [])
  | some faction =>
    let base := entry.baseReputation player
    let total := clamp
      (if incremental then rates.gain standing + (faction.Standing + base) else standing)
    let oldRank := reputationToRank (faction.Standing + base)
    let newRank := reputationToRank total
    let shown := FactionState.setVisible
      { faction with Standing := total - base, needSend := true, needSave := true }
      mgr.visibleFactionCount
    let faction' := if newRank ≤ .hostile then shown.1.setAtWar true else shown.1
    let after := ({ mgr with
      visibleFactionCount := shown.2
      sendFactionIncreased := mgr.sendFactionIncreased || oldRank < newRank }.updateRankCounters
        oldRank newRank).putState entry.repListID faction'
    (after, [{ entry := entry, standing := standing, incremental := incremental
               before := mgr.getReputation player entry
               after := after.getReputation player entry }])

/-- Make the changes of two steps. -/
def andThen (first : ReputationMgr × List Change)
    (second : ReputationMgr → ReputationMgr × List Change) : ReputationMgr × List Change :=
  ((second first.1).1, first.2 ++ (second first.1).2)

/-- `GetFactionTeamList`. -/
def factionTeamList (faction : UInt32) : List FactionEntry :=
  store.entries.rows.filter fun entry => entry.team ≠ 0 && entry.team = faction

/-- The spillover by a template; its loader lets no unknown faction through. -/
def spillTemplate (template : List RepSpillover) (standing : Int32) (incremental : Bool)
    (mgr : ReputationMgr) : ReputationMgr × List Change :=
  template.foldl
    (fun result (spill : RepSpillover) => andThen result fun mgr =>
      let target := store.entries.get? spill.faction
      if spill.faction ≠ 0 ∧ (mgr.getRank player target).val ≤ spill.rank.toNat then
        match target with
        | none => (mgr, [])
        | some target =>
          mgr.setOneFactionReputation player rates target (spill.rate standing) incremental
      else (mgr, []))
    (mgr, [])

/-- The spillover to the factions of a team. -/
def spillSisters (entry : FactionEntry) (scaled : Bool) (standing : Int32) (incremental : Bool)
    (sisters : List FactionEntry) (mgr : ReputationMgr) : ReputationMgr × List Change :=
  sisters.foldl
    (fun result sister => andThen result fun mgr =>
      if sister.ID = entry.ID ||
          sister.spilloverMaxRankIn.toNat < (mgr.getRank player (some sister)).val then
        (mgr, [])
      else
        let spilloverRep := rates.toSister entry scaled sister standing
        if spilloverRep ≠ 0 || !incremental then
          mgr.setOneFactionReputation player rates sister spilloverRep incremental
        else (mgr, []))
    (mgr, [])

/-- The spillover without a template: to the factions of its own team, or else to its parent or the
factions of the same team. -/
def spillTeam (entry : FactionEntry) (standing : Int32) (incremental : Bool) (mgr : ReputationMgr) :
    ReputationMgr × List Change :=
  let flist := factionTeamList store entry.ID
  if flist.isEmpty && entry.team ≠ 0 && entry.spillsOut then
    match store.entries.get? entry.team with
    | none => (mgr, [])
    | some parent =>
      if (mgr.factions parent.repListID).any fun faction => faction.has FactionFlag.special then
        mgr.setOneFactionReputation player rates parent (rates.toParent entry standing)
          incremental
      else
        mgr.spillSisters player rates entry true standing incremental
          (factionTeamList store entry.team)
  else mgr.spillSisters player rates entry false standing incremental flist

/-- `SetReputation`, with all changes it makes. -/
def setReputation (entry : FactionEntry) (standing : Int32) (incremental : Bool)
    (mgr : ReputationMgr) : ReputationMgr × List Change :=
  let standing := rates.script entry.ID standing incremental
  let spilled :=
    match store.templates entry.ID with
    | some template => mgr.spillTemplate store player rates template standing incremental
    | none => mgr.spillTeam store player rates entry standing incremental
  andThen spilled fun mgr => mgr.setOneFactionReputation player rates entry standing incremental

end

/-! ## A call, step by step -/

/-- A relation between a state and what a step makes of it that holds of doing nothing, of one
change of a known faction, and of two steps of which it holds. -/
structure Composes (player : Player) (rates : Rates) (known : FactionEntry → Prop)
    (relation : ReputationMgr → ReputationMgr × List Change → Prop) : Prop where
  refl : ∀ mgr, relation mgr (mgr, [])
  andThen : ∀ {mgr first second}, relation mgr first → relation first.1 (second first.1) →
    relation mgr (andThen first second)
  change : ∀ {entry}, known entry → ∀ mgr standing incremental,
    relation mgr (mgr.setOneFactionReputation player rates entry standing incremental)

namespace Composes

variable {store : FactionStore} {player : Player} {rates : Rates} {known : FactionEntry → Prop}
  {relation : ReputationMgr → ReputationMgr × List Change → Prop}
  (hcomposes : Composes player rates known relation) {mgr : ReputationMgr}

include hcomposes

/-- It holds of a loop when it holds of each round. -/
theorem foldl {Item : Type} {items : List Item} {result : ReputationMgr × List Change}
    {round : Item → ReputationMgr → ReputationMgr × List Change} (hresult : relation mgr result)
    (hround : ∀ item ∈ items, ∀ mgr, relation mgr (round item mgr)) :
    relation mgr
      (items.foldl (fun result item => ReputationMgr.andThen result (round item)) result) := by
  induction items generalizing result with
  | nil => exact hresult
  | cons item rest ih =>
    rw [List.forall_mem_cons] at hround
    exact ih (hcomposes.andThen hresult (hround.1 result.1)) hround.2

theorem spillSisters (mgr : ReputationMgr) (entry : FactionEntry) (scaled : Bool)
    (standing : Int32) (incremental : Bool) {sisters : List FactionEntry}
    (hsisters : ∀ sister ∈ sisters, known sister) :
    relation mgr
      (mgr.spillSisters player rates entry scaled standing incremental sisters) := by
  refine hcomposes.foldl (hcomposes.refl mgr) fun sister hsister mgr => ?_
  dsimp only
  split
  · exact hcomposes.refl mgr
  · split
    · exact hcomposes.change (hsisters sister hsister) mgr _ incremental
    · exact hcomposes.refl mgr

variable (hknown : ∀ entry ∈ store.entries, known entry)

include hknown

theorem spillTemplate (mgr : ReputationMgr) (template : List RepSpillover) (standing : Int32)
    (incremental : Bool) :
    relation mgr (mgr.spillTemplate store player rates template standing incremental) := by
  refine hcomposes.foldl (hcomposes.refl mgr) fun spill _ mgr => ?_
  dsimp only
  split
  · split
    · exact hcomposes.refl mgr
    next target htarget =>
      exact hcomposes.change (hknown target (Table.get?_eq_some_iff.mp htarget).1) mgr _ incremental
  · exact hcomposes.refl mgr

theorem spillTeam (mgr : ReputationMgr) (entry : FactionEntry) (standing : Int32)
    (incremental : Bool) :
    relation mgr (mgr.spillTeam store player rates entry standing incremental) := by
  have hteam (faction : UInt32) : ∀ sister ∈ factionTeamList store faction, known sister :=
    fun sister hsister => hknown sister (Table.mem_def.mpr (List.mem_of_mem_filter hsister))
  unfold ReputationMgr.spillTeam
  dsimp only
  split
  · split
    · exact hcomposes.refl mgr
    next parent hparent =>
      split
      · exact hcomposes.change (hknown parent (Table.get?_eq_some_iff.mp hparent).1) mgr _
          incremental
      · exact hcomposes.spillSisters mgr entry true standing incremental (hteam _)
  · exact hcomposes.spillSisters mgr entry false standing incremental (hteam _)

/-- It holds of a call with all its spillover. -/
theorem setReputation {entry : FactionEntry} (hentry : known entry) (mgr : ReputationMgr)
    (standing : Int32) (incremental : Bool) :
    relation mgr (mgr.setReputation store player rates entry standing incremental) := by
  refine hcomposes.andThen ?_ (hcomposes.change hentry _ _ incremental)
  split
  · exact hcomposes.spillTemplate hknown mgr _ _ incremental
  · exact hcomposes.spillTeam hknown mgr entry _ incremental

end Composes

end ReputationMgr

end MopServer.Reputations
