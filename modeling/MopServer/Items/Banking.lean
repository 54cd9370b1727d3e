import MopServer.Items.Plan

/-! # The bank of a player

`CanBankItem` searches the bank as `CanStoreItem` searches the inventory, in slots of the player
himself and in the bags he keeps there.
-/

namespace MopServer.Items

/-- What `SendEquipError` tells the client: what storing an item says, what moving one says, or
what another part of the server says. -/
inductive EquipError where
  | store (result : InventoryResult)
  | splitFailed
  | tooFewToSplit
  | playerDead
  | clientLockedOut
  | wrongSlot
  | noBankSlot
  | other (code : Nat)
  deriving DecidableEq, Repr

/-- `InventoryType`, as far as the hands are concerned. -/
inductive InventoryType where
  | weapon
  | weaponOffhand
  | twoHandWeapon
  | ranged
  | thrown
  | rangedRight
  | other
  deriving DecidableEq, Repr

/-- A player who moves items, and what the rest of the server says about him. -/
structure Mover where
  player : UInt64
  isAlive : Bool
  bankBagSlotCount : Nat
  canUseItem : Item → Option EquipError
  /-- Combat, arenas and disarming. -/
  cannotUnequip : Item → Option EquipError
  /-- `GetTradeSlotForItem`. -/
  isTraded : Item → Bool
  hasTrader : Bool
  /-- A spell is cast from an item. -/
  castsFromItem : Bool
  /-- `GetLootGUID`. -/
  isLooting : Bool
  /-- `DoLootRelease`, which may use up what is looted. -/
  doLootRelease : Store → Store
  canDualWield : Bool
  canTitanGrip : Bool
  inventoryType : UInt32 → InventoryType
  isWand : UInt32 → Bool

/-- `IsCurrencyToken`. -/
def ItemTemplate.isCurrencyToken (proto : ItemTemplate) : Bool := proto.bagFamily &&& 0x2000 ≠ 0

section

variable (env : Environment) (items : Place → Option Item) (proto : ItemTemplate) (item : Item)
  (bag slot : UInt8) (merge : Bool)

def bankSearch : Search :=
  ⟨true, canStoreItemInInventorySlots env items bankSlotItem proto (some item) merge bag slot⟩

def bankBagSearches (nonSpecialized : Bool) : List Search :=
  (slotRange bankSlotBag.1 bankSlotBag.2).map fun other =>
    ⟨false, canStoreItemInBag env items proto (some item) merge nonSpecialized bag slot other⟩

/-- Search the part of the bank the client names, but not for a bag with something in it. -/
def thisBankSearch : Search :=
  ⟨true, fun reservation =>
    if isNotEmptyBag env items item then (.bagInBag, reservation)
    else if bag = inventorySlotBag0 then
      canStoreItemInInventorySlots env items bankSlotItem proto (some item) merge bag slot reservation
    else
      let special :=
        canStoreItemInBag env items proto (some item) merge false nullBag slot bag reservation
      if special.1 = .ok then special
      else canStoreItemInBag env items proto (some item) merge true nullBag slot bag special.2⟩

/-- The searches of `CanBankItem`, in the order in which they are made. -/
def bankSearches (swap : Bool) (bag slot : UInt8) : List Search :=
  let bank := bankSearch env items proto item bag slot
  let bags := bankBagSearches env items proto item bag slot
  let thisBank := thisBankSearch env items proto item bag slot
  (if bag ≠ nullBag ∧ slot ≠ nullSlot then
      [⟨true, canStoreItemInSpecificSlot env items proto (some item) swap bag slot⟩]
    else []) ++
  (if bag ≠ nullBag ∧ proto.stackable ≠ 1 then [thisBank true] else []) ++
  (if bag ≠ nullBag then [thisBank false] else []) ++
  (if proto.stackable ≠ 1 then [bank true] else []) ++
  (if proto.stackable ≠ 1 ∧ proto.bagFamily ≠ 0 then bags true false else []) ++
  (if proto.stackable ≠ 1 then bags true true else []) ++
  (if proto.bagFamily ≠ 0 then bags false false else []) ++
  [bank false] ++ bags false true

/-- What `CanBankItem` asks of an item for a slot that holds bags. -/
def bankBagSlotRefuses (mover : Mover) (bag slot : UInt8) (item : Item) : Option EquipError :=
  if bag ≠ nullBag ∧ slot ≠ nullSlot ∧ within bankSlotBag slot = true then
    if !isBag env item then some .wrongSlot
    else if mover.bankBagSlotCount ≤ slot.toNat - bankSlotBag.1 then some .noBankSlot
    else mover.canUseItem item
  else none

/-- `CanBankItem`. -/
def canBankItem (mover : Mover) (bag slot : UInt8) (item : Item) (swap : Bool) :
    Except EquipError (List (Position × Nat)) :=
  match env.getItemTemplate item.entry with
  | none => .error (.store (if swap then .cantSwap else .itemNotFound))
  | some proto =>
    let similar := canTakeMoreSimilarItems env items proto item.count (some item)
    if item.lootGenerated then .error (.store .lootGone)
    else if isBindedNotWith env item mover.player then .error (.store .notOwner)
    else if proto.isCurrencyToken then .error (.store .cantSwap)
    else if similar.1 ≠ .ok then .error (.store similar.1)
    else match bankBagSlotRefuses env mover bag slot item with
      | some error => .error error
      | none =>
        let found := runSearches 0 (bankSearches env items proto item swap bag slot)
          ⟨[], item.count⟩
        if found.1 = .ok then .ok found.2.dest
        else .error (.store (if found.1 = .invFull then .bankFull else found.1))

end

section Searching

variable {env : Environment} {items : Place → Option Item} {proto : ItemTemplate} {item : Item}
  {inUse : Position → Prop} {bag slot : UInt8} {mover : Mover} {swap : Bool}
  {dest : List (Position × Nat)}

theorem runSearches_of_canBankItem
    (hok : canBankItem env items mover bag slot item swap = .ok dest) :
    ∃ proto, env.getItemTemplate item.entry = some proto ∧
      (runSearches 0 (bankSearches env items proto item swap bag slot) ⟨[], item.count⟩).1 = .ok ∧
      dest = (runSearches 0 (bankSearches env items proto item swap bag slot)
        ⟨[], item.count⟩).2.dest := by
  unfold canBankItem at hok
  cases hproto : env.getItemTemplate item.entry with
  | none =>
    rw [hproto] at hok
    cases hok
  | some proto =>
    refine ⟨proto, rfl, ?_⟩
    simp only [hproto] at hok
    split at hok
    · cases hok
    split at hok
    · cases hok
    split at hok
    · cases hok
    split at hok
    · cases hok
    split at hok
    · cases hok
    split at hok
    next hfound => exact ⟨hfound, (Except.ok.inj hok).symm⟩
    · cases hok

theorem SoundAttempt.unless {src : Option Item} {entry : UInt32} {p : Prop} [Decidable p]
    {result : InventoryResult} {attempt : Reservation → InventoryResult × Reservation}
    (hattempt : SoundAttempt env items src entry inUse attempt) :
    SoundAttempt env items src entry inUse fun reservation =>
      if p then (result, reservation) else attempt reservation := by
  by_cases hp : p
  · simp only [if_pos hp]
    exact soundAttempt_test result
  · simp only [if_neg hp]
    exact hattempt

section Admitted

variable (hadmits : Admits env items (some item) bag slot inUse)
  (hproto : env.getItemTemplate item.entry = some proto) (merge : Bool)

include hadmits hproto

theorem sound_bankSearch : SoundAttempt env items (some item) item.entry inUse
    (bankSearch env items proto item bag slot merge).attempt :=
  sound_canStoreItemInInventorySlots hadmits hproto (by decide) merge bag slot

theorem sound_bankBagSearches (nonSpecialized : Bool) :
    ∀ search ∈ bankBagSearches env items proto item bag slot merge nonSpecialized,
      SoundAttempt env items (some item) item.entry inUse search.attempt := by
  intro search hsearch
  obtain ⟨other, -, rfl⟩ := List.mem_map.mp hsearch
  exact sound_canStoreItemInBag hadmits hproto merge nonSpecialized bag slot other

theorem sound_thisBankSearch : SoundAttempt env items (some item) item.entry inUse
    (thisBankSearch env items proto item bag slot merge).attempt := by
  refine SoundAttempt.unless ?_
  by_cases hown : bag = inventorySlotBag0
  · simp only [if_pos hown]
    exact sound_bankSearch hadmits hproto merge
  · simp only [if_neg hown]
    exact (sound_canStoreItemInBag hadmits hproto merge false nullBag slot bag).orElse
      (sound_canStoreItemInBag hadmits hproto merge true nullBag slot bag)

/-- All searches of `CanBankItem` keep the reservation valid. -/
theorem sound_bankSearches : ∀ search ∈ bankSearches env items proto item false bag slot,
    SoundAttempt env items (some item) item.entry inUse search.attempt := by
  have hsingle (search : Search)
      (hsound : SoundAttempt env items (some item) item.entry inUse search.attempt) :
      ∀ other ∈ [search], SoundAttempt env items (some item) item.entry inUse other.attempt :=
    List.forall_mem_singleton.mpr hsound
  have hbank := sound_bankSearch hadmits hproto
  have hbags := sound_bankBagSearches hadmits hproto
  have hthis := sound_thisBankSearch hadmits hproto
  unfold bankSearches
  simp only [List.forall_mem_append]
  refine ⟨⟨⟨⟨⟨⟨⟨⟨?_, ?_⟩, ?_⟩, ?_⟩, ?_⟩, ?_⟩, ?_⟩, ?_⟩, hbags false true⟩
  · exact forall_mem_guarded fun hnamed =>
      hsingle _ (sound_canStoreItemInSpecificSlot hadmits hproto hnamed.2)
  · exact forall_mem_guarded fun _ => hsingle _ (hthis true)
  · exact forall_mem_guarded fun _ => hsingle _ (hthis false)
  · exact forall_mem_guarded fun _ => hsingle _ (hbank true)
  · exact forall_mem_guarded fun _ => hbags true false
  · exact forall_mem_guarded fun _ => hbags true true
  · exact forall_mem_guarded fun _ => hbags false false
  · exact hsingle _ (hbank false)

omit hproto

/-- The positions `CanBankItem` returns take everything that is to be banked. -/
theorem reserved_of_canBankItem
    (hok : canBankItem env items mover bag slot item false = .ok dest) :
    Reserved env inUse (viewOf env items (some item)) item.entry item.count ⟨dest, 0⟩ := by
  obtain ⟨proto, hproto, hfound, rfl⟩ := runSearches_of_canBankItem hok
  exact reserved_of_runSearches (sound_bankSearches hadmits hproto)
    (reserved_start env inUse (viewOf env items (some item)) item.entry item.count)
    (fun hpos => hpos) hfound

end Admitted

theorem bankSearches_eq_specificSlot (swap : Bool) (hbag : bag ≠ nullBag)
    (hslot : slot ≠ nullSlot) : ∃ rest, bankSearches env items proto item swap bag slot =
      ⟨true, canStoreItemInSpecificSlot env items proto (some item) swap bag slot⟩ :: rest := by
  unfold bankSearches
  rw [if_pos (And.intro hbag hslot)]
  exact ⟨_, rfl⟩

theorem specificSlot_of_canBankItem (hbag : bag ≠ nullBag) (hslot : slot ≠ nullSlot)
    (hok : canBankItem env items mover bag slot item swap = .ok dest) :
    ∃ proto reservation, env.getItemTemplate item.entry = some proto ∧
      (canStoreItemInSpecificSlot env items proto (some item) swap bag slot
        reservation).1 = .ok := by
  obtain ⟨proto, hproto, hfound, -⟩ := runSearches_of_canBankItem hok
  obtain ⟨rest, hrest⟩ := bankSearches_eq_specificSlot swap hbag hslot
  rw [hrest] at hfound
  exact ⟨proto, _, hproto, attempt_of_runSearches hfound⟩

/-- A stack that is swapped into the bank goes to the position the client names. -/
theorem swapped_of_canBankItem (hbag : bag ≠ nullBag) (hslot : slot ≠ nullSlot)
    (hcount : item.count ≤ maxStackCount env item.entry)
    (hok : canBankItem env items mover bag slot item true = .ok dest) :
    dest = [(.player bag slot, item.count)] ∧ (placeOf env items bag slot).isSome = true := by
  obtain ⟨proto, hproto, hfound, rfl⟩ := runSearches_of_canBankItem hok
  rw [maxStackCount_eq hproto] at hcount
  obtain ⟨rest, hrest⟩ := bankSearches_eq_specificSlot true hbag hslot
  rw [hrest] at hfound ⊢
  exact swapped_of_runSearches hcount hfound

end Searching

end MopServer.Items
