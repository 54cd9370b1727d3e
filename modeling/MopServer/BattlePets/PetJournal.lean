import Mathlib.Data.UInt
import Mathlib.Logic.Function.Basic

/-! # The pet journal

A pet that is deleted is only marked, and leaves the list of pets with the next save.  What the save
writes to the database, the declined names and what the client is told are left out.
-/

namespace MopServer.BattlePets.Journal

def BATTLE_PET_MAX_JOURNAL_SPECIES : UInt8 := 3

def BATTLE_PET_MAX_JOURNAL_PETS : Nat := 500

def BATTLE_PET_INITIAL_LEVEL : UInt8 := 1

def BATTLE_PET_FLAG_UNIQUE : UInt32 := 0x0040

/-- `BattlePetDbState`. -/
inductive DbState where
  | unchanged
  | changed
  | new
  | removed
  deriving DecidableEq, Repr

structure PetTemplate where
  id : UInt64
  species : UInt16
  level : UInt8
  quality : UInt8
  breed : UInt8
  modelId : UInt32
  dbState : DbState
  deriving DecidableEq, Repr

/-- `BattlePetSpeciesEntry`. -/
structure SpeciesEntry where
  npcId : UInt32
  flags : UInt32
  deriving DecidableEq, Repr

def SpeciesEntry.hasFlag (entry : SpeciesEntry) (flag : UInt32) : Bool := entry.flags &&& flag ≠ 0

/-- The species and the creature templates that have been loaded. -/
structure Stores where
  /-- `sBattlePetSpeciesStore.LookupEntry`. -/
  lookupEntry : UInt16 → Option SpeciesEntry
  /-- `Modelid1` of a creature template. -/
  modelid1 : UInt32 → Option UInt32

structure PetJournal where
  pets : List PetTemplate
  loadoutFlags : UInt8
  loadout : Fin 3 → UInt64
  /-- `m_state`, of the loadout. -/
  state : DbState

/-- The modifiers of a cage item. -/
structure CageItem where
  species : UInt16
  breedAndQuality : UInt32
  level : UInt8
  model : UInt32
  deriving DecidableEq, Repr

namespace PetJournal

variable (stores : Stores) (journal : PetJournal)

/-! ## Loadout -/

variable (slot : Fin 3)

/-- `LoadoutSlotIsUnlocked`; no flag is set when none is unlocked. -/
def loadoutSlotIsUnlocked : Bool :=
  journal.loadoutFlags &&& (1 <<< UInt8.ofNat slot.1) ≠ 0

def getLoadoutSlot : UInt64 :=
  if journal.loadoutSlotIsUnlocked slot then journal.loadout slot else 0

variable (id : UInt64)

/-- `GetLoadoutSlotForBattlePet`: the first slot. -/
def getLoadoutSlotForBattlePet : Option (Fin 3) :=
  (List.finRange 3).find? fun slot => journal.getLoadoutSlot slot = id

def setLoadoutSlot : PetJournal :=
  if journal.loadoutSlotIsUnlocked slot then
    { journal with loadout := Function.update journal.loadout slot id, state := .changed }
  else journal

/-! ## Pets -/

def getBattlePet : Option PetTemplate := journal.pets.find? fun pet => pet.id = id

variable (speciesId : UInt16)

/-- `GetBattlePetCount`: removed pets count as well. -/
def getBattlePetCount : UInt8 :=
  UInt8.ofNat (journal.pets.countP fun pet => pet.species = speciesId)

variable (entry : SpeciesEntry)

/-- `PetTemplate::Create`. -/
def newPet (id : UInt64) (speciesId : UInt16) (level quality breed : UInt8) : PetTemplate :=
  ⟨id, speciesId, level, quality, breed, (stores.modelid1 entry.npcId).getD 0, .new⟩

/-- What both forms of `Create` check. -/
def mayCreate (speciesId : UInt16) : Bool :=
  let speciesCount := journal.getBattlePetCount speciesId
  ¬ journal.pets.length > BATTLE_PET_MAX_JOURNAL_PETS ∧
    ¬ (entry.hasFlag BATTLE_PET_FLAG_UNIQUE ∧ speciesCount ≥ 1) ∧
    ¬ speciesCount ≥ BATTLE_PET_MAX_JOURNAL_SPECIES

/-- What both forms of `Create` do. -/
def createPet (level quality breed : UInt8) : PetJournal :=
  match stores.lookupEntry speciesId with
  | none => journal
  | some entry =>
    if journal.mayCreate entry speciesId then
      { journal with
        pets := journal.pets ++ [newPet stores entry id speciesId level quality breed] }
    else journal

/-- `Create(speciesId)`, with the id and the quality and breed that are drawn. -/
def create (quality breed : UInt8) : PetJournal :=
  journal.createPet stores id speciesId BATTLE_PET_INITIAL_LEVEL quality breed

/-- `Create(speciesId, breed, quality, level)`, with the id that is drawn. -/
def createFrom (breed quality level : UInt8) : PetJournal :=
  journal.createPet stores id speciesId level quality breed

/-- `SetDbState` of the first pet with the id. -/
def markRemoved (id : UInt64) : List PetTemplate → List PetTemplate
  | [] => []
  | pet :: rest =>
    if pet.id = id then { pet with dbState := .removed } :: rest else pet :: markRemoved id rest

/-- `Delete`, of the pet that is found by its id. -/
def delete : PetJournal :=
  match journal.getBattlePet id with
  | none => journal
  | some proto =>
    if proto.dbState = .removed then journal
    else
      let journal := match journal.getLoadoutSlotForBattlePet id with
        | some srcSlot => journal.setLoadoutSlot srcSlot 0
        | none => journal
      { journal with pets := markRemoved id journal.pets }

/-- `Cage`, of the pet that is found by its id, and the item if the inventory of the owner takes
it. -/
def cage (stored : Bool) : PetJournal × Option CageItem :=
  match journal.getBattlePet id with
  | none => (journal, none)
  | some proto =>
    let item : CageItem :=
      ⟨proto.species, proto.breed.toUInt32 ||| proto.quality.toUInt32 <<< 24, proto.level,
        proto.modelId⟩
    (journal.delete id, if stored then some item else none)

/-- `SaveToDb`. -/
def saveToDb : PetJournal :=
  { journal with
    pets := (journal.pets.filter fun pet => pet.dbState ≠ .removed).map fun pet =>
      { pet with dbState := .unchanged }
    state := .unchanged }

/-! ## Runs -/

inductive Event where
  | create (id : UInt64) (speciesId : UInt16) (quality breed : UInt8)
  | createFrom (id : UInt64) (speciesId : UInt16) (breed quality level : UInt8)
  | cage (id : UInt64) (stored : Bool)
  | delete (id : UInt64)
  | saveToDb
  deriving DecidableEq, Repr

def step : Event → PetJournal
  | .create id speciesId quality breed => journal.create stores id speciesId quality breed
  | .createFrom id speciesId breed quality level =>
    journal.createFrom stores id speciesId breed quality level
  | .cage id stored => (journal.cage id stored).1
  | .delete id => journal.delete id
  | .saveToDb => journal.saveToDb

end PetJournal

end MopServer.BattlePets.Journal
