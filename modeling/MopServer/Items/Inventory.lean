import MopServer.Items.Item

/-! # The inventory of a player

Before items are stored the server searches the inventory for room: in the slot the client
names, then in stacks of the same kind, then in empty slots.
-/

namespace MopServer.Items

open MopServer.Foundation

/-- `INVENTORY_SLOT_BAG_0`: the slots of the player himself. -/
def inventorySlotBag0 : UInt8 := 255

def nullBag : UInt8 := 0
def nullSlot : UInt8 := 255

/-- `INVENTORY_SLOT_BAG_START` and `INVENTORY_SLOT_BAG_END`. -/
def inventorySlotBag : Nat × Nat := (19, 23)

/-- `INVENTORY_SLOT_ITEM_START` and `INVENTORY_SLOT_ITEM_END`. -/
def inventorySlotItem : Nat × Nat := (23, 39)

/-- `BANK_SLOT_ITEM_START` and `BANK_SLOT_ITEM_END`. -/
def bankSlotItem : Nat × Nat := (39, 67)

/-- `BANK_SLOT_BAG_START` and `BANK_SLOT_BAG_END`. -/
def bankSlotBag : Nat × Nat := (67, 74)

def within (bounds : Nat × Nat) (slot : UInt8) : Bool :=
  bounds.1 ≤ slot.toNat && slot.toNat < bounds.2

section

variable (env : Environment) (items : Place → Option Item) (bag : UInt8)

/-- `GetBagByPos`. -/
def getBagByPos : Option Item :=
  if within inventorySlotBag bag || within bankSlotBag bag then
    (items (.own bag)).filter (isBag env)
  else none

variable (slot : UInt8)

/-- The place at a position: a slot of the player himself, or of the bag he has there. -/
def placeOf : Option Place :=
  if bag = inventorySlotBag0 ∧ slot.toNat < bankSlotBag.2 then some (.own slot)
  else (getBagByPos env items bag).bind fun container =>
    if slot.toNat < bagSize env container then some (.inBag container.guid slot) else none

/-- `GetItemByPos`. -/
def getItemByPos : Option Item := (placeOf env items bag slot).bind items

/-- `IsBagPos`. -/
def isBagPos : Bool :=
  bag = inventorySlotBag0 && (within inventorySlotBag slot || within bankSlotBag slot)

def bagPlaces (container : Item) : List Place :=
  (slotRange 0 (bagSize env container)).map (Place.inBag container.guid)

/-- `IsNotEmptyBag`. -/
def isNotEmptyBag (item : Item) : Bool :=
  isBag env item && (bagPlaces env item).any fun place => (items place).isSome

/-- `CanBeTraded` without mail and trade. -/
def canBeTraded (item : Item) : Bool :=
  !item.lootGenerated && !item.soulBound &&
    !(isBag env item && (isBagPos bag slot || isNotEmptyBag env items item)) &&
    env.canLeave bag slot item

variable (src : Option Item)

/-- Another object than the one that is moved. -/
def isOther (item : Item) : Bool :=
  src.all fun moved => item.guid ≠ moved.guid

def sumOver (places : List Place) (amount : Item → Nat) : Nat :=
  ((places.filterMap items).map amount).sum

/-- The slots of the player himself between two bounds. -/
def ownPlaces (first last : Nat) : List Place :=
  (slotRange first last).map Place.own

variable (bounds : Nat × Nat)

def bagContents : List Place :=
  (slotRange bounds.1 bounds.2).flatMap fun bag =>
    ((getBagByPos env items bag).map (bagPlaces env)).getD []

/-- `GetItemCount` with the bank, in 32 bits. -/
def getItemCount (entry : UInt32) (skipItem : Option Item) : Nat :=
  let owned (item : Item) := if isOther skipItem item ∧ item.entry = entry then item.count else 0
  let isGem := skipItem.any fun skipItem =>
    (env.getItemTemplate skipItem.entry).any fun proto => proto.gemProperties ≠ 0
  let gems (item : Item) :=
    if isGem ∧ isOther skipItem item ∧
        (env.getItemTemplate item.entry).any fun proto => proto.socketColor ≠ 0 then
      env.gemCountWithId item entry
    else 0
  let both (item : Item) := owned item + gems item
  (sumOver items (ownPlaces 0 inventorySlotItem.2) both +
    sumOver items (bagContents env items inventorySlotBag) both +
    sumOver items (ownPlaces bankSlotItem.1 bankSlotBag.2) owned +
    sumOver items (bagContents env items bankSlotBag) both +
    sumOver items (ownPlaces bankSlotItem.1 bankSlotItem.2) gems) % 2 ^ 32

/-- `GetItemCountWithLimitCategory`, in 32 bits. -/
def getItemCountWithLimitCategory (limitCategory : UInt32) (skipItem : Option Item) : Nat :=
  let owned (item : Item) :=
    if isOther skipItem item ∧
        (env.getItemTemplate item.entry).any fun proto =>
          proto.itemLimitCategory = limitCategory then
      item.count
    else 0
  (sumOver items (ownPlaces 0 inventorySlotItem.2) owned +
    sumOver items (bagContents env items inventorySlotBag) owned +
    sumOver items (ownPlaces bankSlotItem.1 bankSlotBag.2) owned +
    sumOver items (bagContents env items bankSlotBag) owned) % 2 ^ 32

/-- A limit on how many one may have: the result, and how many are too many. -/
def checkLimit (current count limit : Nat) (result : InventoryResult) : InventoryResult × Nat :=
  let wanted := (current + count) % 2 ^ 32
  if limit < wanted then (result, wanted - limit) else (.ok, 0)

variable (proto : ItemTemplate) (count : Nat)

def checkMaxCount (src : Option Item) : InventoryResult × Nat :=
  if 0 < proto.maxCount then
    checkLimit (getItemCount env items proto.itemId src) count proto.maxCount.toNat .itemMaxCount
  else (.ok, 0)

def checkLimitCategory (src : Option Item) : InventoryResult × Nat :=
  if proto.itemLimitCategory = 0 then (.ok, 0)
  else match env.limitCategory proto.itemLimitCategory with
    | none => (.notEquippable, count)
    | some limit =>
      if limit.modeHave then
        checkLimit (getItemCountWithLimitCategory env items proto.itemLimitCategory src)
          count limit.maxCount .itemMaxLimitCategoryCountExceededIs
      else (.ok, 0)

/-- `CanTakeMoreSimilarItems`: the result, and how many cannot be taken. -/
def canTakeMoreSimilarItems (src : Option Item) : InventoryResult × Nat :=
  if src.any Item.lootGenerated then (.lootGone, 0)
  else if (proto.maxCount ≤ 0 ∧ proto.itemLimitCategory = 0) ∨ proto.maxCount = 2147483647 then
    (.ok, 0)
  else if (checkMaxCount env items proto count src).1 ≠ .ok then
    checkMaxCount env items proto count src
  else checkLimitCategory env items proto count src

/-! ## Searching for room -/

def slotFits (bag slot : UInt8) : Bool :=
  if bag = inventorySlotBag0 then slot.toNat < bankSlotBag.2
  else (getBagByPos env items bag).any fun container =>
    slot.toNat < bagSize env container &&
      (env.getItemTemplate container.entry).any (itemCanGoIntoBag proto)

def othersAt (bag slot : UInt8) : Option Item :=
  (getItemByPos env items bag slot).filter (isOther src)

/-- `CanStoreItem_InSpecificSlot`. -/
def canStoreItemInSpecificSlot (src : Option Item) (swap : Bool) (bag slot : UInt8)
    (reservation : Reservation) : InventoryResult × Reservation :=
  if src.any (isNotEmptyBag env items) && !isBagPos bag slot then
    (.destroyNonemptyBag, reservation)
  else match if swap then none else othersAt env items src bag slot with
    | none =>
      if slotFits env items proto bag slot then
        (.ok, reservation.reserve (.player bag slot) proto.getMaxStackSize)
      else (.wrongBagType, reservation)
    | some held =>
      match canBeMergedPartlyWith held proto with
      | .ok => (.ok, reservation.reserve (.player bag slot) (proto.getMaxStackSize - held.count))
      | result => (result, reservation)

def visitSlot (src : Option Item) (merge : Bool) (bag slot : UInt8) (reservation : Reservation) :
    Option Reservation :=
  if .player bag slot ∈ reservation.dest.map Prod.fst then none
  else match othersAt env items src bag slot, merge with
    | none, false => some (reservation.reserve (.player bag slot) proto.getMaxStackSize)
    | some held, true =>
      if canBeMergedPartlyWith held proto = .ok then
        some (reservation.reserve (.player bag slot) (proto.getMaxStackSize - held.count))
      else none
    | _, _ => none

/-- `CanStoreItem_InBag`. -/
def canStoreItemInBag (src : Option Item) (merge nonSpecialized : Bool)
    (skipBag skipSlot bag : UInt8) (reservation : Reservation) : InventoryResult × Reservation :=
  if bag = skipBag then (.wrongBagType, reservation)
  else match getBagByPos env items bag with
    | none => (.wrongBagType, reservation)
    | some container =>
      if !isOther src container then (.wrongBagType, reservation)
      else if src.any (isNotEmptyBag env items) then (.destroyNonemptyBag, reservation)
      else match env.getItemTemplate container.entry with
        | none => (.wrongBagType, reservation)
        | some bagProto =>
          if nonSpecialized ≠ decide (bagProto.itemClass = .container .container) then
            (.wrongBagType, reservation)
          else if !itemCanGoIntoBag proto bagProto then (.wrongBagType, reservation)
          else
            let visit (slot : UInt8) (reservation : Reservation) :=
              if slot = skipSlot then none
              else visitSlot env items proto src merge bag slot reservation
            (.ok, searchSlots visit (slotRange 0 (bagSize env container)) reservation)

/-- `CanStoreItem_InInventorySlots`: slots of the player himself between two bounds. -/
def canStoreItemInInventorySlots (src : Option Item) (merge : Bool) (skipBag skipSlot : UInt8)
    (reservation : Reservation) : InventoryResult × Reservation :=
  if src.any (isNotEmptyBag env items) then (.destroyNonemptyBag, reservation)
  else
    let visit (slot : UInt8) (reservation : Reservation) :=
      if inventorySlotBag0 = skipBag ∧ slot = skipSlot then none
      else visitSlot env items proto src merge inventorySlotBag0 slot reservation
    (.ok, searchSlots visit (slotRange bounds.1 bounds.2) reservation)

/-- A search in one part of the inventory; the whole search ends if a required one fails. -/
structure Search where
  required : Bool
  attempt : Reservation → InventoryResult × Reservation

/-- Search one part after the other until everything is placed. -/
def runSearches (noSimilarCount : Nat) :
    List Search → Reservation → InventoryResult × Reservation
  | [], reservation => (.invFull, reservation)
  | search :: rest, reservation =>
    let (result, reservation) := search.attempt reservation
    if result ≠ .ok then
      if search.required then (result, reservation)
      else runSearches noSimilarCount rest reservation
    else if reservation.count = 0 then
      (if noSimilarCount = 0 then .ok else .itemMaxCount, reservation)
    else runSearches noSimilarCount rest reservation

def backpackSearch (src : Option Item) (bag slot : UInt8) (merge : Bool) : Search :=
  ⟨true, canStoreItemInInventorySlots env items inventorySlotItem proto src merge bag slot⟩

def bagSearches (src : Option Item) (bag slot : UInt8) (merge nonSpecialized : Bool) :
    List Search :=
  (slotRange inventorySlotBag.1 inventorySlotBag.2).map fun other =>
    ⟨false, canStoreItemInBag env items proto src merge nonSpecialized bag slot other⟩

/-- Search the bag the client names, as a special bag and as a plain one. -/
def thisBagSearch (src : Option Item) (bag slot : UInt8) (merge : Bool) : Search :=
  if bag = inventorySlotBag0 then backpackSearch env items proto src bag slot merge
  else ⟨true, fun reservation =>
    let special := canStoreItemInBag env items proto src merge false nullBag slot bag reservation
    if special.1 = .ok then special
    else canStoreItemInBag env items proto src merge true nullBag slot bag special.2⟩

/-- The searches of `CanStoreItem`, in the order in which they are made. -/
def searches (src : Option Item) (swap : Bool) (bag slot : UInt8) : List Search :=
  let backpack := backpackSearch env items proto src bag slot
  let bags := bagSearches env items proto src bag slot
  let thisBag := thisBagSearch env items proto src bag slot
  let tested := if src.any (isNotEmptyBag env items) then InventoryResult.bagInBag else .ok
  (if bag ≠ nullBag ∧ slot ≠ nullSlot then
      [⟨true, canStoreItemInSpecificSlot env items proto src swap bag slot⟩]
    else []) ++
  (if bag ≠ nullBag ∧ proto.stackable ≠ 1 then [thisBag true] else []) ++
  (if bag ≠ nullBag then [thisBag false] else []) ++
  (if proto.stackable ≠ 1 then [backpack true] else []) ++
  (if proto.stackable ≠ 1 ∧ proto.bagFamily ≠ 0 then bags true false else []) ++
  (if proto.stackable ≠ 1 then bags true true else []) ++
  (if proto.bagFamily ≠ 0 then bags false false else []) ++
  [⟨true, fun reservation => (tested, reservation)⟩, backpack false] ++ bags false true

/-- `CanStoreItem`: the result, and where to store the items. -/
def canStoreItem (player : UInt64) (bag slot : UInt8) (entry : UInt32) (count : Nat)
    (src : Option Item) (swap : Bool) : InventoryResult × List (Position × Nat) :=
  match env.getItemTemplate entry with
  | none => (if swap then .cantSwap else .itemNotFound, [])
  | some proto =>
    if src.any Item.lootGenerated then (.lootGone, [])
    else if src.any fun item => isBindedNotWith env item player then (.notOwner, [])
    else
      let similar := canTakeMoreSimilarItems env items proto count src
      if similar.1 ≠ .ok ∧ count = similar.2 then (similar.1, [])
      else
        -- The count wraps around if the player already has more than he may.
        let left := if similar.1 = .ok then count else (count + (2 ^ 32 - similar.2)) % 2 ^ 32
        let noSimilarCount := if similar.1 = .ok then 0 else similar.2
        let found := runSearches noSimilarCount (searches env items proto src swap bag slot)
          ⟨[], left⟩
        (found.1, found.2.dest)

end

/-! ## What a successful search gives -/

variable {proto : ItemTemplate} {held : Item}

/-- What the searches see at a position. -/
def viewOf (env : Environment) (items : Place → Option Item) (src : Option Item) :
    Position → Option Item
  | .bank _ _ => none
  | .player bag slot => othersAt env items src bag slot

/-- Positions that may be reserved when the client names one of them: slots of the player,
of bags other than the one that is moved, and the named one. -/
structure Admits (env : Environment) (items : Place → Option Item) (src : Option Item)
    (bag slot : UInt8) (inUse : Position → Prop) : Prop where
  own : ∀ other, other.toNat < bankSlotBag.2 → inUse (.player inventorySlotBag0 other)
  bags : ∀ otherBag container other, getBagByPos env items otherBag = some container →
    isOther src container = true → other.toNat < bagSize env container →
      inUse (.player otherBag other)
  named : slot ≠ nullSlot → (placeOf env items bag slot).isSome = true →
    inUse (.player bag slot)

theorem getMaxStackSize_pos (proto : ItemTemplate) : 0 < proto.getMaxStackSize := by
  unfold ItemTemplate.getMaxStackSize
  split <;> omega

theorem maxStackCount_eq {env : Environment} {entry : UInt32}
    (hproto : env.getItemTemplate entry = some proto) :
    maxStackCount env entry = proto.getMaxStackSize := by
  unfold maxStackCount
  rw [hproto]
  rfl

theorem canBeMergedPartlyWith_eq_ok (hmerge : canBeMergedPartlyWith held proto = .ok) :
    held.entry = proto.itemId ∧ held.count < proto.getMaxStackSize := by
  unfold canBeMergedPartlyWith at hmerge
  split at hmerge
  · cases hmerge
  · split at hmerge
    · cases hmerge
    · split at hmerge
      · cases hmerge
      next hentry hcount => exact ⟨not_not.mp hentry, Nat.lt_of_not_le hcount⟩

theorem toNat_lt_of_mem_slotRange {slot : UInt8} {first last : Nat}
    (hslot : slot ∈ slotRange first last) : slot.toNat < last := by
  obtain ⟨n, hn, rfl⟩ := List.mem_map.mp hslot
  obtain ⟨i, hi, rfl⟩ := List.mem_range'.mp hn
  have hle : (UInt8.ofNat (first + 1 * i)).toNat ≤ first + 1 * i := by
    rw [UInt8.toNat_ofNat']
    exact Nat.mod_le _ _
  omega

section Searching

variable {env : Environment} {items : Place → Option Item} {src : Option Item} {entry : UInt32}
  {total : Nat} {proto : ItemTemplate} {inUse : Position → Prop} {bag slot : UInt8}
  {reservation : Reservation} {view : Position → Option Item} {position : Position}
  {list : List Search} {noSimilarCount count : Nat} {player : UInt64} {swap : Bool}

theorem takes_of_none (hproto : env.getItemTemplate entry = some proto) (huse : inUse position)
    (hheld : view position = none) : Takes env inUse view entry position proto.getMaxStackSize := by
  refine ⟨huse, ?_⟩
  rw [hheld]
  exact Nat.le_of_eq (maxStackCount_eq hproto).symm

theorem takes_of_some (hproto : env.getItemTemplate entry = some proto) (huse : inUse position)
    (hheld : view position = some held) (hmerge : canBeMergedPartlyWith held proto = .ok) :
    Takes env inUse view entry position (proto.getMaxStackSize - held.count) := by
  obtain ⟨hentry, hcount⟩ := canBeMergedPartlyWith_eq_ok hmerge
  refine ⟨huse, ?_⟩
  rw [hheld, maxStackCount_eq hproto]
  exact ⟨hentry.trans (env.templateId _ _ hproto), by omega⟩

theorem reserved_visitSlot (hproto : env.getItemTemplate entry = some proto)
    (huse : inUse (.player bag slot)) (merge : Bool) {next : Reservation}
    (hnext : visitSlot env items proto src merge bag slot reservation = some next)
    (hreserved : Reserved env inUse (viewOf env items src) entry total reservation)
    (hleft : reservation.Unfinished total) :
    Reserved env inUse (viewOf env items src) entry total next := by
  unfold visitSlot at hnext
  split at hnext
  · cases hnext
  split at hnext
  next hnone =>
    obtain rfl := Option.some.inj hnext
    exact hreserved.reserve hleft (getMaxStackSize_pos proto) (takes_of_none hproto huse hnone)
  next held hheld =>
    split at hnext
    next hmerge =>
      obtain rfl := Option.some.inj hnext
      have hroom := (canBeMergedPartlyWith_eq_ok hmerge).2
      exact hreserved.reserve hleft (Nat.sub_pos_of_lt hroom)
        (takes_of_some hproto huse hheld hmerge)
    · cases hnext
  · cases hnext

/-- An attempt that fails changes nothing, and one that succeeds keeps the reservation
valid. -/
structure SoundAttempt (env : Environment) (items : Place → Option Item) (src : Option Item)
    (entry : UInt32) (inUse : Position → Prop)
    (attempt : Reservation → InventoryResult × Reservation) : Prop where
  failed : ∀ reservation, (attempt reservation).1 ≠ .ok → (attempt reservation).2 = reservation
  reserved : ∀ total reservation,
    Reserved env inUse (viewOf env items src) entry total reservation →
      reservation.Unfinished total →
        Reserved env inUse (viewOf env items src) entry total (attempt reservation).2

def visitBag (env : Environment) (items : Place → Option Item) (proto : ItemTemplate)
    (src : Option Item) (merge : Bool) (bag skipSlot slot : UInt8) (reservation : Reservation) :
    Option Reservation :=
  if slot = skipSlot then none
  else visitSlot env items proto src merge bag slot reservation

theorem canStoreItemInBag_cases (env : Environment) (items : Place → Option Item)
    (proto : ItemTemplate) (src : Option Item) (merge nonSpecialized : Bool)
    (skipBag skipSlot bag : UInt8) (reservation : Reservation) :
    (∃ result, result ≠ .ok ∧ canStoreItemInBag env items proto src merge nonSpecialized skipBag
        skipSlot bag reservation = (result, reservation)) ∨
      ∃ container, getBagByPos env items bag = some container ∧ isOther src container = true ∧
        canStoreItemInBag env items proto src merge nonSpecialized skipBag skipSlot bag
          reservation = (.ok, searchSlots (visitBag env items proto src merge bag skipSlot)
            (slotRange 0 (bagSize env container)) reservation) := by
  unfold canStoreItemInBag
  split
  · exact Or.inl ⟨_, by decide, rfl⟩
  split
  · exact Or.inl ⟨_, by decide, rfl⟩
  next container hbag =>
    split
    · exact Or.inl ⟨_, by decide, rfl⟩
    next hother =>
      split
      · exact Or.inl ⟨_, by decide, rfl⟩
      split
      · exact Or.inl ⟨_, by decide, rfl⟩
      split
      · exact Or.inl ⟨_, by decide, rfl⟩
      split
      · exact Or.inl ⟨_, by decide, rfl⟩
      exact Or.inr ⟨container, hbag, by simpa using hother, rfl⟩

/-- A slot the client names is refused, takes the item as an empty one, or takes what is
missing in a stack. -/
theorem canStoreItemInSpecificSlot_cases (env : Environment) (items : Place → Option Item)
    (proto : ItemTemplate) (src : Option Item) (swap : Bool) (bag slot : UInt8)
    (reservation : Reservation) :
    (∃ result, result ≠ .ok ∧ canStoreItemInSpecificSlot env items proto src swap bag slot
        reservation = (result, reservation)) ∨
      (slotFits env items proto bag slot = true ∧
        (swap = true ∨ othersAt env items src bag slot = none) ∧
        canStoreItemInSpecificSlot env items proto src swap bag slot reservation =
          (.ok, reservation.reserve (.player bag slot) proto.getMaxStackSize)) ∨
      ∃ held, swap = false ∧ othersAt env items src bag slot = some held ∧
        canBeMergedPartlyWith held proto = .ok ∧
        canStoreItemInSpecificSlot env items proto src swap bag slot reservation =
          (.ok, reservation.reserve (.player bag slot) (proto.getMaxStackSize - held.count)) := by
  unfold canStoreItemInSpecificSlot
  split
  · exact Or.inl ⟨_, by decide, rfl⟩
  split
  next hnone =>
    have hempty : swap = true ∨ othersAt env items src bag slot = none := by
      cases swap with
      | true => exact Or.inl rfl
      | false => exact Or.inr hnone
    split
    next hfits => exact Or.inr (Or.inl ⟨hfits, hempty, rfl⟩)
    · exact Or.inl ⟨_, by decide, rfl⟩
  next held hheld =>
    have hswap : swap = false := by
      cases swap with
      | true => cases hheld
      | false => rfl
    subst hswap
    split
    next hmerge => exact Or.inr (Or.inr ⟨held, rfl, hheld, hmerge, rfl⟩)
    next hmerge => exact Or.inl ⟨_, hmerge, rfl⟩

theorem getBagByPos_eq_some {container : Item}
    (hbag : getBagByPos env items bag = some container) :
    items (.own bag) = some container ∧ isBag env container = true := by
  unfold getBagByPos at hbag
  split at hbag
  · exact Option.filter_eq_some_iff.mp hbag
  · cases hbag

/-- A bag of the player is never the player himself. -/
theorem placeOf_of_getBagByPos {container : Item}
    (hbag : getBagByPos env items bag = some container)
    (hslot : slot.toNat < bagSize env container) :
    placeOf env items bag slot = some (.inBag container.guid slot) := by
  have hown : ¬ (bag = inventorySlotBag0 ∧ slot.toNat < bankSlotBag.2) := by
    rintro ⟨rfl, -⟩
    exact absurd hbag (by simp [getBagByPos, within, inventorySlotBag0, inventorySlotBag,
      bankSlotBag])
  unfold placeOf
  rw [if_neg hown, hbag, Option.bind_some, if_pos hslot]

theorem placeOf_eq_some_iff {place : Place} :
    placeOf env items bag slot = some place ↔
      (bag = inventorySlotBag0 ∧ slot.toNat < bankSlotBag.2 ∧ place = .own slot) ∨
        ∃ container, getBagByPos env items bag = some container ∧
          slot.toNat < bagSize env container ∧ place = .inBag container.guid slot := by
  constructor
  · intro hplace
    unfold placeOf at hplace
    split at hplace
    next hown => exact Or.inl ⟨hown.1, hown.2, (Option.some.inj hplace).symm⟩
    · obtain ⟨container, hbag, hslot⟩ := Option.bind_eq_some_iff.mp hplace
      split at hslot
      next hsize => exact Or.inr ⟨container, hbag, hsize, (Option.some.inj hslot).symm⟩
      · cases hslot
  · rintro (⟨hbag, hslot, rfl⟩ | ⟨container, hbag, hslot, rfl⟩)
    · unfold placeOf
      rw [if_pos ⟨hbag, hslot⟩]
    · exact placeOf_of_getBagByPos hbag hslot

theorem placeOf_isSome_of_slotFits (hfits : slotFits env items proto bag slot = true) :
    (placeOf env items bag slot).isSome = true := by
  unfold slotFits at hfits
  split at hfits
  next hown =>
    unfold placeOf
    rw [if_pos ⟨hown, by simpa using hfits⟩]
    rfl
  · cases hbag : getBagByPos env items bag with
    | none => simp [hbag] at hfits
    | some container =>
      simp only [hbag, Option.any_some, Bool.and_eq_true, decide_eq_true_eq] at hfits
      rw [placeOf_of_getBagByPos hbag hfits.1]
      rfl

/-- Something is found only in slots that exist. -/
theorem placeOf_isSome_of_othersAt (hheld : othersAt env items src bag slot = some held) :
    (placeOf env items bag slot).isSome = true := by
  have hfound : getItemByPos env items bag slot = some held :=
    (Option.filter_eq_some_iff.mp hheld).1
  obtain ⟨place, hplace, -⟩ := Option.bind_eq_some_iff.mp hfound
  rw [hplace]
  rfl

theorem soundAttempt_test (result : InventoryResult) :
    SoundAttempt env items src entry inUse fun reservation => (result, reservation) where
  failed _ _ := rfl
  reserved _ _ hreserved _ := hreserved

/-- Try one way, and another if the first fails. -/
theorem SoundAttempt.orElse {first second : Reservation → InventoryResult × Reservation}
    (hfirst : SoundAttempt env items src entry inUse first)
    (hsecond : SoundAttempt env items src entry inUse second) :
    SoundAttempt env items src entry inUse fun reservation =>
      if (first reservation).1 = .ok then first reservation
      else second (first reservation).2 := by
  constructor
  · intro reservation hfailed
    split
    next hok => exact absurd (by rw [if_pos hok, hok]) hfailed
    next hne =>
      rw [if_neg hne, hfirst.failed reservation hne] at hfailed
      rw [hfirst.failed reservation hne]
      exact hsecond.failed reservation hfailed
  · intro total reservation hreserved hleft
    split
    · exact hfirst.reserved total reservation hreserved hleft
    next hne =>
      rw [hfirst.failed reservation hne]
      exact hsecond.reserved total reservation hreserved hleft

theorem forall_mem_guarded {p : Prop} [Decidable p] {property : Search → Prop}
    (hall : p → ∀ search ∈ list, property search) :
    ∀ search ∈ if p then list else [], property search := by
  split
  next hp => exact hall hp
  · exact fun _ hsearch => absurd hsearch List.not_mem_nil

/-- The search fails if items are held back. -/
theorem eq_zero_of_runSearches (hok : (runSearches noSimilarCount list reservation).1 = .ok) :
    noSimilarCount = 0 := by
  induction list generalizing reservation with
  | nil => cases hok
  | cons search rest ih =>
    unfold runSearches at hok
    simp only at hok
    split at hok
    next hfailed =>
      split at hok
      · exact absurd hok hfailed
      · exact ih hok
    · split at hok
      · by_contra hsimilar
        simp [hsimilar] at hok
      · exact ih hok

/-- A search that succeeds has placed everything. -/
theorem reserved_of_runSearches
    (hsound : ∀ search ∈ list, SoundAttempt env items src entry inUse search.attempt)
    (hreserved : Reserved env inUse (viewOf env items src) entry total reservation)
    (hleft : reservation.Unfinished total)
    (hok : (runSearches noSimilarCount list reservation).1 = .ok) :
    Reserved env inUse (viewOf env items src) entry total
      ⟨(runSearches noSimilarCount list reservation).2.dest, 0⟩ := by
  induction list generalizing reservation with
  | nil => cases hok
  | cons search rest ih =>
    have hsearch := hsound search List.mem_cons_self
    have hrest := fun other hother => hsound other (List.mem_cons_of_mem search hother)
    have hnext := hsearch.reserved total reservation hreserved hleft
    unfold runSearches at hok ⊢
    simp only at hok ⊢
    split
    next hfailed =>
      have hsame := hsearch.failed reservation hfailed
      rw [if_pos hfailed] at hok
      split
      next hrequired =>
        rw [if_pos hrequired] at hok
        exact absurd hok hfailed
      next hoptional =>
        rw [if_neg hoptional] at hok
        rw [hsame] at hok ⊢
        exact ih hrest hreserved hleft hok
    next hplaced =>
      rw [if_neg hplaced] at hok
      split
      next hzero =>
        rw [← hzero]
        exact hnext
      next hcount =>
        rw [if_neg hcount] at hok
        exact ih hrest hnext (fun _ => Nat.pos_of_ne_zero hcount) hok

/-- A check that fails says how many items are too many. -/
def Counted (checked : InventoryResult × Nat) : Prop := checked.1 ≠ .ok → 0 < checked.2

theorem counted_ok : Counted (.ok, 0) := fun hfailed => absurd rfl hfailed

theorem counted_checkLimit (current count limit : Nat) (result : InventoryResult) :
    Counted (checkLimit current count limit result) := by
  unfold checkLimit
  simp only
  split
  next hlimit => exact fun _ => Nat.sub_pos_of_lt hlimit
  · exact counted_ok

theorem canTakeMoreSimilarItems_cases (count : Nat) (hloot : src.any Item.lootGenerated = false) :
    Counted (canTakeMoreSimilarItems env items proto count src) ∨
      (canTakeMoreSimilarItems env items proto count src).2 = count := by
  unfold canTakeMoreSimilarItems
  simp only [hloot, Bool.false_eq_true, if_false]
  split
  · exact Or.inl counted_ok
  split
  · unfold checkMaxCount
    split
    · exact Or.inl (counted_checkLimit _ _ _ _)
    · exact Or.inl counted_ok
  · unfold checkLimitCategory
    split
    · exact Or.inl counted_ok
    split
    · exact Or.inr rfl
    · split
      · exact Or.inl (counted_checkLimit _ _ _ _)
      · exact Or.inl counted_ok

/-- Items that can be stored are found a place by the searches, and none is held back. -/
theorem runSearches_of_canStoreItem
    (hok : (canStoreItem env items player bag slot entry count src swap).1 = .ok) :
    ∃ proto noSimilarCount left, env.getItemTemplate entry = some proto ∧
      (noSimilarCount = 0 → left = count) ∧
      (runSearches noSimilarCount (searches env items proto src swap bag slot)
        ⟨[], left⟩).1 = .ok ∧
      (canStoreItem env items player bag slot entry count src swap).2 =
        (runSearches noSimilarCount (searches env items proto src swap bag slot)
          ⟨[], left⟩).2.dest := by
  unfold canStoreItem at hok ⊢
  cases hproto : env.getItemTemplate entry with
  | none =>
    rw [hproto] at hok
    cases swap <;> cases hok
  | some proto =>
    simp only [hproto] at hok ⊢
    split
    next hloot =>
      rw [if_pos hloot] at hok
      cases hok
    next hloot =>
    split
    next hbinded =>
      rw [if_neg hloot, if_pos hbinded] at hok
      cases hok
    next hbinded =>
    split
    next hall =>
      rw [if_neg hloot, if_neg hbinded, if_pos hall] at hok
      exact absurd hok hall.1
    next hall =>
      rw [if_neg hloot, if_neg hbinded, if_neg hall] at hok
      refine ⟨proto, _, _, rfl, ?_, hok, rfl⟩
      intro hsimilar
      split
      · rfl
      next hfailed =>
        rw [if_neg hfailed] at hsimilar
        rcases canTakeMoreSimilarItems_cases count (by simpa using hloot) with
          hcounted | hcount
        · have hpos := hcounted hfailed
          omega
        · exact absurd ⟨hfailed, hcount.symm⟩ hall

variable (hadmits : Admits env items src bag slot inUse)
  (hproto : env.getItemTemplate entry = some proto) (merge nonSpecialized : Bool)

include hadmits hproto

theorem sound_canStoreItemInBag (skipBag skipSlot otherBag : UInt8) :
    SoundAttempt env items src entry inUse
      (canStoreItemInBag env items proto src merge nonSpecialized skipBag skipSlot otherBag) := by
  constructor
  · intro reservation hfailed
    rcases canStoreItemInBag_cases env items proto src merge nonSpecialized skipBag skipSlot
      otherBag reservation with ⟨result, -, heq⟩ | ⟨container, -, -, heq⟩
    · rw [heq]
    · rw [heq] at hfailed
      exact absurd rfl hfailed
  · intro total reservation hreserved hleft
    rcases canStoreItemInBag_cases env items proto src merge nonSpecialized skipBag skipSlot
      otherBag reservation with ⟨result, -, heq⟩ | ⟨container, hbag, hother, heq⟩
    · rwa [heq]
    · rw [heq]
      refine hreserved.searchSlots _ ?_ hleft
      intro other hslot reservation next hnext hreserved hleft
      unfold visitBag at hnext
      split at hnext
      · cases hnext
      · exact reserved_visitSlot hproto
          (hadmits.bags otherBag container other hbag hother (toNat_lt_of_mem_slotRange hslot))
          merge hnext hreserved hleft

theorem sound_canStoreItemInInventorySlots {bounds : Nat × Nat} (hbounds : bounds.2 ≤ bankSlotBag.2)
    (merge : Bool) (skipBag skipSlot : UInt8) :
    SoundAttempt env items src entry inUse
      (canStoreItemInInventorySlots env items bounds proto src merge skipBag skipSlot) := by
  constructor
  · intro reservation hfailed
    unfold canStoreItemInInventorySlots at hfailed ⊢
    split
    · rfl
    next hempty =>
      rw [if_neg hempty] at hfailed
      exact absurd rfl hfailed
  · intro total reservation hreserved hleft
    unfold canStoreItemInInventorySlots
    split
    · exact hreserved
    · refine hreserved.searchSlots _ ?_ hleft
      intro other hslot reservation next hnext hreserved hleft
      split at hnext
      · cases hnext
      · have hbound : other.toNat < bounds.2 := toNat_lt_of_mem_slotRange hslot
        exact reserved_visitSlot hproto (hadmits.own other (hbound.trans_le hbounds)) merge
          hnext hreserved hleft

theorem sound_canStoreItemInSpecificSlot (hslot : slot ≠ nullSlot) :
    SoundAttempt env items src entry inUse
      (canStoreItemInSpecificSlot env items proto src false bag slot) := by
  constructor
  · intro reservation hfailed
    rcases canStoreItemInSpecificSlot_cases env items proto src false bag slot reservation with
      ⟨result, -, heq⟩ | ⟨-, -, heq⟩ | ⟨held, -, -, -, heq⟩
    · rw [heq]
    · exact absurd (by rw [heq]) hfailed
    · exact absurd (by rw [heq]) hfailed
  · intro total reservation hreserved hleft
    rcases canStoreItemInSpecificSlot_cases env items proto src false bag slot reservation with
      ⟨result, -, heq⟩ | ⟨hfits, hnone, heq⟩ | ⟨held, -, hheld, hmerge, heq⟩
    · rwa [heq]
    · rw [heq]
      have hempty : othersAt env items src bag slot = none := by simpa using hnone
      exact hreserved.reserve hleft (getMaxStackSize_pos proto)
        (takes_of_none hproto (hadmits.named hslot (placeOf_isSome_of_slotFits hfits)) hempty)
    · rw [heq]
      have hroom := (canBeMergedPartlyWith_eq_ok hmerge).2
      exact hreserved.reserve hleft (Nat.sub_pos_of_lt hroom)
        (takes_of_some hproto (hadmits.named hslot (placeOf_isSome_of_othersAt hheld)) hheld
          hmerge)

theorem sound_bagSearches :
    ∀ search ∈ bagSearches env items proto src bag slot merge nonSpecialized,
      SoundAttempt env items src entry inUse search.attempt := by
  intro search hsearch
  obtain ⟨other, -, rfl⟩ := List.mem_map.mp hsearch
  exact sound_canStoreItemInBag hadmits hproto merge nonSpecialized bag slot other

theorem sound_thisBagSearch :
    SoundAttempt env items src entry inUse
      (thisBagSearch env items proto src bag slot merge).attempt := by
  unfold thisBagSearch
  split
  · exact sound_canStoreItemInInventorySlots hadmits hproto (by decide) merge bag slot
  · exact (sound_canStoreItemInBag hadmits hproto merge false nullBag slot bag).orElse
      (sound_canStoreItemInBag hadmits hproto merge true nullBag slot bag)

/-- All searches of `CanStoreItem` keep the reservation valid. -/
theorem sound_searches :
    ∀ search ∈ searches env items proto src false bag slot,
      SoundAttempt env items src entry inUse search.attempt := by
  have hsingle (search : Search)
      (hsound : SoundAttempt env items src entry inUse search.attempt) :
      ∀ other ∈ [search], SoundAttempt env items src entry inUse other.attempt :=
    List.forall_mem_singleton.mpr hsound
  have hbackpack (merge : Bool) : SoundAttempt env items src entry inUse
      (backpackSearch env items proto src bag slot merge).attempt :=
    sound_canStoreItemInInventorySlots hadmits hproto (by decide) merge bag slot
  have hbags := sound_bagSearches hadmits hproto
  have hthis := sound_thisBagSearch hadmits hproto
  unfold searches
  simp only [List.forall_mem_append]
  refine ⟨⟨⟨⟨⟨⟨⟨⟨?_, ?_⟩, ?_⟩, ?_⟩, ?_⟩, ?_⟩, ?_⟩, ?_⟩, hbags false true⟩
  · exact forall_mem_guarded fun hnamed =>
      hsingle _ (sound_canStoreItemInSpecificSlot hadmits hproto hnamed.2)
  · exact forall_mem_guarded fun _ => hsingle _ (hthis true)
  · exact forall_mem_guarded fun _ => hsingle _ (hthis false)
  · exact forall_mem_guarded fun _ => hsingle _ (hbackpack true)
  · exact forall_mem_guarded fun _ => hbags true false
  · exact forall_mem_guarded fun _ => hbags true true
  · exact forall_mem_guarded fun _ => hbags false false
  · exact List.forall_mem_cons.mpr ⟨soundAttempt_test _, hsingle _ (hbackpack false)⟩

omit hproto

/-- The positions `CanStoreItem` returns take everything that is to be stored. -/
theorem reserved_of_canStoreItem
    (hok : (canStoreItem env items player bag slot entry count src false).1 = .ok) :
    Reserved env inUse (viewOf env items src) entry count
      ⟨(canStoreItem env items player bag slot entry count src false).2, 0⟩ := by
  obtain ⟨proto, noSimilarCount, left, hproto, hleft, hfound, hdest⟩ :=
    runSearches_of_canStoreItem hok
  have hreserved := reserved_of_runSearches (sound_searches hadmits hproto)
    (reserved_start env inUse (viewOf env items src) entry left) (fun hpos => hpos) hfound
  rw [hdest, ← hleft (eq_zero_of_runSearches hfound)]
  exact hreserved

omit hadmits

theorem attempt_of_runSearches {attempt : Reservation → InventoryResult × Reservation}
    {rest : List Search}
    (hfound : (runSearches noSimilarCount (⟨true, attempt⟩ :: rest) reservation).1 = .ok) :
    (attempt reservation).1 = .ok := by
  by_contra hfailed
  unfold runSearches at hfound
  simp only [if_pos hfailed, if_true] at hfound
  exact hfailed hfound

/-- The slot the client names is tried first. -/
theorem searches_eq_specificSlot (src : Option Item) (swap : Bool) (hbag : bag ≠ nullBag)
    (hslot : slot ≠ nullSlot) : ∃ rest, searches env items proto src swap bag slot =
      ⟨true, canStoreItemInSpecificSlot env items proto src swap bag slot⟩ :: rest := by
  unfold searches
  rw [if_pos (And.intro hbag hslot)]
  exact ⟨_, rfl⟩

theorem canBeMerged_of_specificSlot (hheld : othersAt env items src bag slot = some held)
    (hok : (canStoreItemInSpecificSlot env items proto src false bag slot reservation).1 = .ok) :
    canBeMergedPartlyWith held proto = .ok := by
  rcases canStoreItemInSpecificSlot_cases env items proto src false bag slot reservation with
    ⟨result, hresult, heq⟩ | ⟨-, hnone, -⟩ | ⟨held', -, hheld', hmerge, -⟩
  · rw [heq] at hok
    exact absurd hok hresult
  · rw [hheld] at hnone
    simp at hnone
  · obtain rfl := Option.some.inj (hheld.symm.trans hheld')
    exact hmerge

theorem isBagPos_of_specificSlot {item : Item} (hfull : isNotEmptyBag env items item = true)
    (hok : (canStoreItemInSpecificSlot env items proto (some item) swap bag slot
      reservation).1 = .ok) : isBagPos bag slot = true := by
  by_contra hpos
  unfold canStoreItemInSpecificSlot at hok
  rw [if_pos (by simp [hfull, hpos])] at hok
  cases hok

theorem specificSlot_of_canStoreItem (hbag : bag ≠ nullBag) (hslot : slot ≠ nullSlot)
    (hok : (canStoreItem env items player bag slot entry count src swap).1 = .ok) :
    ∃ proto reservation, env.getItemTemplate entry = some proto ∧
      (canStoreItemInSpecificSlot env items proto src swap bag slot reservation).1 = .ok := by
  obtain ⟨proto, noSimilarCount, left, hproto, -, hfound, -⟩ := runSearches_of_canStoreItem hok
  obtain ⟨rest, hrest⟩ := searches_eq_specificSlot src swap hbag hslot
  rw [hrest] at hfound
  exact ⟨proto, _, hproto, attempt_of_runSearches hfound⟩

/-- A stack that is swapped in goes as a whole to the position the client names. -/
theorem swapped_of_runSearches {rest : List Search} {left : Nat}
    (hleft : left ≤ proto.getMaxStackSize) (hfound : (runSearches noSimilarCount
      (⟨true, canStoreItemInSpecificSlot env items proto src true bag slot⟩ :: rest)
        ⟨[], left⟩).1 = .ok) :
    (runSearches noSimilarCount
        (⟨true, canStoreItemInSpecificSlot env items proto src true bag slot⟩ :: rest)
          ⟨[], left⟩).2.dest = [(.player bag slot, left)] ∧
      (placeOf env items bag slot).isSome = true := by
  have hattempt := attempt_of_runSearches hfound
  rcases canStoreItemInSpecificSlot_cases env items proto src true bag slot ⟨[], left⟩ with
    ⟨result, hresult, heq⟩ | ⟨hfits, -, heq⟩ | ⟨held, ⟨⟩, -⟩
  · rw [heq] at hattempt
    exact absurd hattempt hresult
  · have hreserve : (Reservation.mk [] left).reserve (.player bag slot) proto.getMaxStackSize =
        ⟨[(.player bag slot, left)], 0⟩ := by
      simp [Reservation.reserve, Nat.min_eq_right hleft]
    unfold runSearches
    dsimp only
    rw [heq, hreserve]
    exact ⟨rfl, placeOf_isSome_of_slotFits hfits⟩

theorem swapped_of_canStoreItem (hbag : bag ≠ nullBag) (hslot : slot ≠ nullSlot)
    (hcount : count ≤ maxStackCount env entry)
    (hok : (canStoreItem env items player bag slot entry count src true).1 = .ok) :
    (canStoreItem env items player bag slot entry count src true).2 =
        [(.player bag slot, count)] ∧
      (placeOf env items bag slot).isSome = true := by
  obtain ⟨proto, noSimilarCount, left, hproto, hleft, hfound, hdest⟩ :=
    runSearches_of_canStoreItem hok
  obtain rfl := hleft (eq_zero_of_runSearches hfound)
  rw [maxStackCount_eq hproto] at hcount
  obtain ⟨rest, hrest⟩ := searches_eq_specificSlot src true hbag hslot
  rw [hrest] at hfound hdest
  rw [hdest]
  exact swapped_of_runSearches hcount hfound

end Searching

end MopServer.Items
