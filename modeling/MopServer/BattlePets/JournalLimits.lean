import MopServer.BattlePets.PetJournal
import MopServer.Foundation.Run

/-! # The limits of the pet journal

The limits are about the pets that have not been removed.  The checks count the removed ones too,
and one pet more than there may be.
-/

namespace MopServer.BattlePets.Journal

open MopServer.Foundation

namespace PetJournal

variable (stores : Stores) (journal : PetJournal)

def kept : List PetTemplate := journal.pets.filter fun pet => pet.dbState ≠ .removed

variable (speciesId : UInt16)

def keptCount : Nat := journal.kept.countP fun pet => pet.species = speciesId

def speciesLimit : Nat :=
  if (stores.lookupEntry speciesId).any fun entry => entry.hasFlag BATTLE_PET_FLAG_UNIQUE then 1
  else BATTLE_PET_MAX_JOURNAL_SPECIES.toNat

structure WithinLimits : Prop where
  pets : journal.kept.length ≤ BATTLE_PET_MAX_JOURNAL_PETS
  species : ∀ speciesId, journal.keptCount speciesId ≤ speciesLimit stores speciesId
  loadout : ∀ slot, journal.getLoadoutSlot slot = 0 ∨
    ∃ pet ∈ journal.kept, pet.id = journal.getLoadoutSlot slot

/-- There is room for one more pet of the species. -/
def HasRoom : Prop :=
  journal.kept.length < BATTLE_PET_MAX_JOURNAL_PETS ∧
    journal.keptCount speciesId < speciesLimit stores speciesId

/-- A pet of the species has been added. -/
def Created (after : PetJournal) : Prop :=
  ∃ pet : PetTemplate, pet.species = speciesId ∧ pet.dbState ≠ .removed ∧
    after.pets = journal.pets ++ [pet]

/-- A pet for which there is room is created, and no pet is caged without an item. -/
def LosesNoPet : Event → Prop
  | .create id speciesId quality breed =>
    (stores.lookupEntry speciesId).isSome → journal.HasRoom stores speciesId →
      journal.Created speciesId (journal.create stores id speciesId quality breed)
  | .createFrom id speciesId breed quality level =>
    (stores.lookupEntry speciesId).isSome → journal.HasRoom stores speciesId →
      journal.Created speciesId (journal.createFrom stores id speciesId breed quality level)
  | .cage id stored =>
    (journal.cage id stored).1.kept.length < journal.kept.length →
      (journal.cage id stored).2.isSome
  | .delete _ | .saveToDb => True

/-- The event loses no pet and leaves the journal within its limits. -/
def KeepsLimits (event : Event) : Prop :=
  journal.LosesNoPet stores event ∧ (journal.step stores event).WithinLimits stores

/-- Counting the removed pets, and up to one pet more, comes to the same as counting the others. -/
def CountsAlike : Prop :=
  (stores.lookupEntry speciesId).isSome →
    (journal.pets.length ≤ BATTLE_PET_MAX_JOURNAL_PETS ∧
        journal.pets.countP (fun pet => pet.species = speciesId) % 256 <
          speciesLimit stores speciesId ↔
        journal.HasRoom stores speciesId)

variable (id : UInt64)

/-- The pet is in one slot at most, or there is another one with its id. -/
def InOneSlot : Prop :=
  (∀ slot other, journal.getLoadoutSlot slot = id → journal.getLoadoutSlot other = id → id ≠ 0 →
    slot = other) ∨
    1 < journal.kept.countP fun pet => pet.id = id

/-- The pet that is found by the id has not been removed. -/
def Keeps : Prop :=
  ∃ proto, journal.getBattlePet id = some proto ∧ proto.dbState ≠ .removed

/-- The event reaches none of the defects. -/
def Careful : Event → Prop
  | .create _ speciesId _ _ | .createFrom _ speciesId _ _ _ => journal.CountsAlike stores speciesId
  | .cage id stored => journal.Keeps id → stored = true ∧ journal.InOneSlot id
  | .delete id => journal.Keeps id → journal.InOneSlot id
  | .saveToDb => True

variable {stores journal}

/-! ## Creating -/

theorem mayCreate_iff {speciesId : UInt16} {entry : SpeciesEntry}
    (hentry : stores.lookupEntry speciesId = some entry) :
    journal.mayCreate entry speciesId = true ↔
      journal.pets.length ≤ BATTLE_PET_MAX_JOURNAL_PETS ∧
        journal.pets.countP (fun pet => pet.species = speciesId) % 256 <
          speciesLimit stores speciesId := by
  have hcount : (journal.getBattlePetCount speciesId).toNat =
      journal.pets.countP (fun pet => pet.species = speciesId) % 256 := UInt8.toNat_ofNat'
  unfold mayCreate speciesLimit
  rw [← hcount, hentry, decide_eq_true_iff, not_lt]
  refine and_congr_right fun _ => ?_
  simp only [ge_iff_le, UInt8.le_iff_toNat_le, Option.any_some]
  have hone : (1 : UInt8).toNat = 1 := rfl
  have hmax : BATTLE_PET_MAX_JOURNAL_SPECIES.toNat = 3 := rfl
  rw [hone, hmax]
  by_cases hunique : entry.hasFlag BATTLE_PET_FLAG_UNIQUE = true
  · rw [if_pos hunique]
    simp only [hunique, true_and, not_le]
    omega
  · rw [if_neg hunique]
    simp [hunique]

/-- Either form of `Create` adds a pet, or does nothing. -/
theorem createPet_cases (speciesId : UInt16) (level quality breed : UInt8) :
    (∃ entry, stores.lookupEntry speciesId = some entry ∧ journal.mayCreate entry speciesId = true ∧
      journal.createPet stores id speciesId level quality breed = { journal with
        pets := journal.pets ++ [newPet stores entry id speciesId level quality breed] }) ∨
      journal.createPet stores id speciesId level quality breed = journal ∧
        ∀ entry, stores.lookupEntry speciesId = some entry →
          ¬journal.mayCreate entry speciesId = true := by
  unfold createPet
  cases hentry : stores.lookupEntry speciesId with
  | none => exact .inr ⟨rfl, nofun⟩
  | some entry =>
    by_cases hmay : journal.mayCreate entry speciesId = true
    · exact .inl ⟨entry, rfl, hmay, if_pos hmay⟩
    · refine .inr ⟨if_neg hmay, ?_⟩
      rintro _ ⟨⟩
      exact hmay

theorem kept_append {pet : PetTemplate} (hpet : pet.dbState ≠ .removed) :
    kept { journal with pets := journal.pets ++ [pet] } = journal.kept ++ [pet] := by
  unfold kept
  rw [List.filter_append]
  exact congrArg _ (List.filter_cons_of_pos (decide_eq_true hpet))

variable (hlimits : journal.WithinLimits stores)

include hlimits in
theorem WithinLimits.append_iff {pet : PetTemplate} (hpet : pet.dbState ≠ .removed) :
    WithinLimits stores { journal with pets := journal.pets ++ [pet] } ↔
      journal.HasRoom stores pet.species := by
  have hcount : ∀ speciesId, keptCount { journal with pets := journal.pets ++ [pet] } speciesId =
      journal.keptCount speciesId + if pet.species = speciesId then 1 else 0 := by
    intro speciesId
    unfold keptCount
    rw [kept_append hpet, List.countP_append, List.countP_singleton]
    simp only [decide_eq_true_eq]
  constructor
  · intro hafter
    refine ⟨?_, ?_⟩
    · have hpets := hafter.pets
      rw [kept_append hpet, List.length_append] at hpets
      exact hpets
    · have hspecies := hafter.species pet.species
      rw [hcount, if_pos rfl] at hspecies
      exact hspecies
  · rintro ⟨hpets, hspecies⟩
    refine ⟨?_, fun speciesId => ?_, fun slot => ?_⟩
    · rw [kept_append hpet, List.length_append]
      exact hpets
    · rw [hcount]
      split
      next heq => exact heq ▸ hspecies
      next => exact hlimits.species speciesId
    · rw [kept_append hpet]
      refine (hlimits.loadout slot).imp_right ?_
      rintro ⟨other, hother, hid⟩
      exact ⟨other, List.mem_append_left _ hother, hid⟩

theorem not_created_self : ¬journal.Created speciesId journal := by
  rintro ⟨pet, -, -, hpets⟩
  have hlength := congrArg List.length hpets
  rw [List.length_append] at hlength
  exact Nat.ne_of_lt (Nat.lt_succ_self _) hlength

include hlimits in
/-- `Create` does as it should exactly if its counts come to the same as those of the pets that are
kept. -/
theorem createPet_keepsLimits_iff (id : UInt64) (speciesId : UInt16) (level quality breed : UInt8) :
    ((stores.lookupEntry speciesId).isSome → journal.HasRoom stores speciesId →
        journal.Created speciesId (journal.createPet stores id speciesId level quality breed)) ∧
      (journal.createPet stores id speciesId level quality breed).WithinLimits stores ↔
        journal.CountsAlike stores speciesId := by
  obtain ⟨entry, hentry, hmay, hcreate⟩ | ⟨hcreate, hmay⟩ :=
    @createPet_cases stores journal id speciesId level quality breed
  · have hpet : (newPet stores entry id speciesId level quality breed).dbState ≠ .removed := nofun
    have hcreated : journal.Created speciesId
        (journal.createPet stores id speciesId level quality breed) :=
      ⟨_, rfl, hpet, congrArg PetJournal.pets hcreate⟩
    have hlimitsIff :
        (journal.createPet stores id speciesId level quality breed).WithinLimits stores ↔
          journal.HasRoom stores speciesId := hcreate ▸ hlimits.append_iff hpet
    rw [hlimitsIff]
    constructor
    · rintro ⟨-, hroom⟩ -
      exact iff_of_true ((mayCreate_iff hentry).mp hmay) hroom
    · intro halike
      exact ⟨fun _ _ => hcreated, (halike (hentry ▸ rfl)).mp ((mayCreate_iff hentry).mp hmay)⟩
  · rw [hcreate]
    constructor
    · rintro ⟨hcreated, -⟩ hsome
      obtain ⟨entry, hentry⟩ := Option.isSome_iff_exists.mp hsome
      rw [← mayCreate_iff hentry]
      exact iff_of_false (hmay entry hentry) fun hroom => not_created_self _ (hcreated hsome hroom)
    · intro halike
      refine ⟨fun hsome hroom => ?_, hlimits⟩
      obtain ⟨entry, hentry⟩ := Option.isSome_iff_exists.mp hsome
      exact absurd ((mayCreate_iff hentry).mpr ((halike hsome).mpr hroom)) (hmay entry hentry)

/-! ## Deleting -/

variable {id : UInt64}

/-- One is left when the first one is taken out, if there was a second one. -/
theorem exists_mem_eraseP_iff {Element : Type} {chosen : Element → Bool} {elements : List Element} :
    (∃ element ∈ elements.eraseP chosen, chosen element = true) ↔ 1 < elements.countP chosen := by
  induction elements with
  | nil => simp
  | cons element rest ih =>
    by_cases hchosen : chosen element = true
    · rw [List.eraseP_cons_of_pos hchosen, List.countP_cons_of_pos hchosen,
        Nat.lt_add_left_iff_pos, List.countP_pos_iff]
    · rw [List.eraseP_cons_of_neg hchosen, List.countP_cons_of_neg hchosen, ← ih]
      simp [hchosen]

theorem filter_markRemoved {pets : List PetTemplate} {proto : PetTemplate}
    (hfind : (pets.find? fun pet => pet.id = id) = some proto) (hkept : proto.dbState ≠ .removed) :
    (markRemoved id pets).filter (fun pet => pet.dbState ≠ .removed) =
      (pets.filter fun pet => pet.dbState ≠ .removed).eraseP fun pet => pet.id = id := by
  induction pets with
  | nil => cases hfind
  | cons pet rest ih =>
    unfold markRemoved
    by_cases hid : pet.id = id
    · have hproto : pet = proto := by simpa [hid] using hfind
      subst hproto
      rw [if_pos hid]
      simp [hkept, hid]
    · have hlater : (rest.find? fun pet => pet.id = id) = some proto := by
        simpa [hid] using hfind
      rw [if_neg hid]
      by_cases hstate : pet.dbState = .removed
      · simpa [hstate] using ih hlater
      · simpa [hstate, hid] using ih hlater

theorem getLoadoutSlot_setLoadoutSlot (slot other : Fin 3) :
    (journal.setLoadoutSlot slot 0).getLoadoutSlot other =
      if other = slot then 0 else journal.getLoadoutSlot other := by
  unfold setLoadoutSlot
  split
  next hunlocked =>
    change (if journal.loadoutSlotIsUnlocked other then
      Function.update journal.loadout slot 0 other else 0) = _
    by_cases heq : other = slot
    · rw [if_pos heq, heq, Function.update_self, ite_self]
    · rw [if_neg heq, Function.update_of_ne heq]
      rfl
  next hlocked =>
    by_cases heq : other = slot
    · rw [if_pos heq, heq]
      exact if_neg hlocked
    · rw [if_neg heq]

def afterSlot (journal : PetJournal) (id : UInt64) : PetJournal :=
  match journal.getLoadoutSlotForBattlePet id with
  | some srcSlot => journal.setLoadoutSlot srcSlot 0
  | none => journal

theorem getLoadoutSlot_afterSlot (id : UInt64) (slot : Fin 3) :
    (journal.afterSlot id).getLoadoutSlot slot =
      if journal.getLoadoutSlotForBattlePet id = some slot then 0
      else journal.getLoadoutSlot slot := by
  unfold afterSlot
  split
  next srcSlot hsrc =>
    rw [getLoadoutSlot_setLoadoutSlot, hsrc]
    simp only [Option.some.injEq, eq_comm]
  next hnone =>
    rw [hnone]
    rfl

theorem delete_of_keeps (hkeeps : journal.Keeps id) :
    (journal.delete id).kept = journal.kept.eraseP (fun pet => pet.id = id) ∧
      ∀ slot, (journal.delete id).getLoadoutSlot slot =
        if journal.getLoadoutSlotForBattlePet id = some slot then 0
        else journal.getLoadoutSlot slot := by
  obtain ⟨proto, hproto, hkept⟩ := hkeeps
  have hdelete : journal.delete id =
      { journal.afterSlot id with pets := markRemoved id (journal.afterSlot id).pets } := by
    unfold delete
    rw [hproto]
    exact if_neg hkept
  have hpets : (journal.afterSlot id).pets = journal.pets := by
    unfold afterSlot setLoadoutSlot
    split
    · split <;> rfl
    · rfl
  rw [hdelete, hpets]
  exact ⟨filter_markRemoved hproto hkept, fun slot => getLoadoutSlot_afterSlot id slot⟩

/-- A pet that is not kept is not deleted again. -/
theorem delete_of_not_keeps (hkeeps : ¬journal.Keeps id) : journal.delete id = journal := by
  unfold delete
  cases hproto : journal.getBattlePet id with
  | none => rfl
  | some proto => exact if_pos (by_contra fun hkept => hkeeps ⟨proto, hproto, hkept⟩)

theorem exists_kept_of_keeps (hkeeps : journal.Keeps id) : ∃ pet ∈ journal.kept, pet.id = id := by
  obtain ⟨proto, hproto, hkept⟩ := hkeeps
  have hid := List.find?_some hproto
  exact ⟨proto, List.mem_filter.mpr ⟨List.mem_of_find?_eq_some hproto, decide_eq_true hkept⟩,
    of_decide_eq_true hid⟩

theorem first_of_holds {slot : Fin 3} (hholds : journal.getLoadoutSlot slot = id)
    (honly : ∀ other, journal.getLoadoutSlot other = id → other = slot) :
    journal.getLoadoutSlotForBattlePet id = some slot := by
  unfold getLoadoutSlotForBattlePet
  cases hfind : (List.finRange 3).find? fun slot => journal.getLoadoutSlot slot = id with
  | none =>
    rw [List.find?_eq_none] at hfind
    exact absurd (decide_eq_true hholds) (hfind slot (List.mem_finRange slot))
  | some other =>
    have hother := List.find?_some hfind
    rw [honly other (of_decide_eq_true hother)]

include hlimits in
/-- A deletion leaves no slot with a pet that is gone exactly if one slot at most had it. -/
theorem delete_withinLimits_iff (hkeeps : journal.Keeps id)
    : (journal.delete id).WithinLimits stores ↔ journal.InOneSlot id := by
  obtain ⟨hkept, hslot⟩ := delete_of_keeps hkeeps
  have hsecond : (∃ pet ∈ (journal.delete id).kept, pet.id = id) ↔
      1 < journal.kept.countP fun pet => pet.id = id := by
    rw [hkept, ← exists_mem_eraseP_iff]
    simp only [decide_eq_true_eq]
  constructor
  · intro hafter
    by_cases hmore : 1 < journal.kept.countP fun pet => pet.id = id
    · exact .inr hmore
    refine .inl ?_
    have hfirst : ∀ slot, journal.getLoadoutSlot slot = id → id ≠ 0 →
        journal.getLoadoutSlotForBattlePet id = some slot := by
      intro slot hholds hid
      by_contra hother
      have hstill := hafter.loadout slot
      rw [hslot, if_neg hother, hholds] at hstill
      exact hmore (hsecond.mp (hstill.resolve_left hid))
    intro slot other hholds hother hid
    exact Option.some.inj ((hfirst slot hholds hid).symm.trans (hfirst other hother hid))
  · intro honce
    have hsub : (journal.delete id).kept.Sublist journal.kept := hkept ▸ List.eraseP_sublist
    refine ⟨hsub.length_le.trans hlimits.pets,
      fun speciesId => hsub.countP_le.trans (hlimits.species speciesId), fun slot => ?_⟩
    rw [hslot]
    split
    next => exact .inl rfl
    next hother =>
      rcases hlimits.loadout slot with hempty | ⟨pet, hpet, hid⟩
      · exact .inl hempty
      · by_cases hsame : pet.id = id
        · have hholds : journal.getLoadoutSlot slot = id := hid.symm.trans hsame
          rcases honce with hone | hmore
          · by_cases hzero : id = 0
            · exact .inl (hholds.trans hzero)
            · exact absurd (first_of_holds hholds fun other hother => hone other slot hother hholds
                hzero) hother
          · obtain ⟨twin, htwin, htwinId⟩ := hsecond.mpr hmore
            exact .inr ⟨twin, htwin, htwinId.trans hholds.symm⟩
        · refine .inr ⟨pet, ?_, hid⟩
          rw [hkept, List.mem_eraseP_of_neg (by simpa using hsame)]
          exact hpet

include hlimits in
/-- Caging a pet that is kept takes it out, and is safe if the item has been stored. -/
theorem cage_keepsLimits_iff (id : UInt64) (stored : Bool) :
    ((journal.cage id stored).1.kept.length < journal.kept.length →
        (journal.cage id stored).2.isSome) ∧
      (journal.cage id stored).1.WithinLimits stores ↔
        (journal.Keeps id → stored = true ∧ journal.InOneSlot id) := by
  have hdelete : (journal.cage id stored).1 = journal.delete id := by
    unfold cage delete
    cases journal.getBattlePet id <;> rfl
  rw [hdelete]
  by_cases hkeeps : journal.Keeps id
  · obtain ⟨pet, hpet, hid⟩ := exists_kept_of_keeps hkeeps
    have hless : (journal.delete id).kept.length < journal.kept.length := by
      rw [(delete_of_keeps hkeeps).1, List.length_eraseP_of_mem hpet (decide_eq_true hid)]
      exact Nat.sub_lt (List.length_pos_of_mem hpet) Nat.one_pos
    have hitem : (journal.cage id stored).2.isSome ↔ stored = true := by
      obtain ⟨proto, hproto, -⟩ := hkeeps
      unfold cage
      rw [hproto]
      cases stored <;> simp
    rw [delete_withinLimits_iff hlimits hkeeps, hitem]
    exact ⟨fun hboth _ => ⟨hboth.1 hless, hboth.2⟩,
      fun hboth => ⟨fun _ => (hboth hkeeps).1, (hboth hkeeps).2⟩⟩
  · rw [delete_of_not_keeps hkeeps]
    exact iff_of_true ⟨fun hless => absurd hless (lt_irrefl _), hlimits⟩ fun h => absurd h hkeeps

include hlimits in
/-- A save keeps the pets that have not been removed. -/
theorem WithinLimits.saveToDb : journal.saveToDb.WithinLimits stores := by
  have hkept : journal.saveToDb.kept =
      journal.kept.map fun pet => { pet with dbState := .unchanged } := by
    refine List.filter_eq_self.mpr fun pet hpet => ?_
    obtain ⟨before, -, rfl⟩ := List.mem_map.mp hpet
    rfl
  refine ⟨?_, fun speciesId => ?_, fun slot => ?_⟩
  · rw [hkept, List.length_map]
    exact hlimits.pets
  · unfold keptCount
    rw [hkept, List.countP_map]
    exact hlimits.species speciesId
  · refine (hlimits.loadout slot).imp_right ?_
    rintro ⟨pet, hpet, hid⟩
    rw [hkept]
    exact ⟨_, List.mem_map_of_mem hpet, hid⟩

/-! ## Runs -/

include hlimits in
/-- An event loses no pet and stays within the limits exactly if it reaches no defect. -/
theorem keepsLimits_iff_careful (event : Event) :
    journal.KeepsLimits stores event ↔ journal.Careful stores event := by
  cases event with
  | create id speciesId quality breed =>
    exact createPet_keepsLimits_iff hlimits id speciesId _ quality breed
  | createFrom id speciesId breed quality level =>
    exact createPet_keepsLimits_iff hlimits id speciesId level quality breed
  | cage id stored => exact cage_keepsLimits_iff hlimits id stored
  | delete id =>
    change True ∧ (journal.delete id).WithinLimits stores ↔
      (journal.Keeps id → journal.InOneSlot id)
    rw [true_and]
    by_cases hkeeps : journal.Keeps id
    · rw [delete_withinLimits_iff hlimits hkeeps]
      exact ⟨fun hone _ => hone, fun hone => hone hkeeps⟩
    · rw [delete_of_not_keeps hkeeps]
      exact iff_of_true hlimits fun h => absurd h hkeeps
  | saveToDb => exact iff_of_true ⟨trivial, hlimits.saveToDb⟩ trivial

/-- A journal that starts within its limits keeps them, and every pet, in exactly the runs whose
events reach no defect. -/
theorem keepsLimits_along_iff (stores : Stores) (journal : PetJournal) (events : List Event)
    (hlimits : journal.WithinLimits stores) :
    Along (PetJournal.step stores) (KeepsLimits stores) journal events ↔
      Along (PetJournal.step stores) (Careful stores) journal events :=
  along_iff_of_invariant _ (WithinLimits stores)
    (fun _ event hbefore hcareful => ((keepsLimits_iff_careful hbefore event).mpr hcareful).2)
    (fun _ event hbefore => keepsLimits_iff_careful hbefore event) journal events hlimits

def empty : PetJournal := ⟨[], 0x7, fun _ => 0, .unchanged⟩

theorem withinLimits_empty (stores : Stores) : empty.WithinLimits stores :=
  ⟨Nat.zero_le _, fun _ => Nat.zero_le _, fun slot => .inl (by revert slot; decide)⟩

/-- One species without limits of its own. -/
def oneSpecies : Stores where
  lookupEntry speciesId := if speciesId = 40 then some ⟨7385, 0⟩ else none
  modelid1 _ := none

/-- A pet is created, caged and saved. -/
theorem keepsLimits_caged : Along (PetJournal.step oneSpecies) (KeepsLimits oneSpecies) empty
    [.create 1 40 3 5, .cage 1 true, .saveToDb] := by
  refine (keepsLimits_along_iff oneSpecies empty _ (withinLimits_empty _)).mpr ⟨?_, ?_, ?_, trivial⟩
  · exact fun _ => iff_of_true ⟨by decide, by decide⟩ ⟨by decide, by decide⟩
  · exact fun _ => ⟨rfl, .inl (by decide)⟩
  · trivial

def onePet : PetJournal := { empty with pets := [⟨1, 40, 1, 3, 5, 0, .unchanged⟩] }

/-- With a full inventory the pet is gone and there is no cage. -/
theorem not_always_keepsLimits : ¬∀ (stores : Stores) (journal : PetJournal) (events : List Event),
    journal.WithinLimits stores →
      Along (PetJournal.step stores) (KeepsLimits stores) journal events := by
  intro hall
  have hlimits : onePet.WithinLimits oneSpecies := by
    refine ⟨by decide, fun speciesId => ?_, fun slot => .inl (by revert slot; decide)⟩
    have hone : onePet.keptCount speciesId ≤ 1 := List.countP_le_length
    refine hone.trans ?_
    unfold speciesLimit
    split <;> decide
  have hcage := (hall oneSpecies onePet [.cage 1 false] hlimits).1.1
  exact absurd (hcage (by decide)) (by decide)

end PetJournal

end MopServer.BattlePets.Journal
