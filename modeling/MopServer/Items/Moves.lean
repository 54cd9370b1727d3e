import MopServer.Items.Banking

/-! # Moving items

A client asks to split a stack or to swap two positions.  A swap is a move if nothing is at the
destination, puts two stacks together if it can, and exchanges the items else.
-/

namespace MopServer.Items

def equipmentSlotMainhand : UInt8 := 15
def equipmentSlotOffhand : UInt8 := 16

/-- `EQUIPMENT_SLOT_END`. -/
def equipmentSlotEnd : Nat := 19

variable (bag slot : UInt8)

/-- `IsInventoryPos`. -/
def isInventoryPos : Bool :=
  (bag = inventorySlotBag0 && (slot = nullSlot || within inventorySlotItem slot)) ||
    within inventorySlotBag bag

/-- `IsEquipmentPos`. -/
def isEquipmentPos : Bool :=
  bag = inventorySlotBag0 && (slot.toNat < equipmentSlotEnd || within inventorySlotBag slot)

/-- `IsBankPos`. -/
def isBankPos : Bool :=
  (bag = inventorySlotBag0 && (within bankSlotItem slot || within bankSlotBag slot)) ||
    within bankSlotBag bag

/-- A position of the inventory or of the bank. -/
structure StoragePos where
  bag : UInt8
  slot : UInt8
  stored : isInventoryPos bag slot = true ∨ isBankPos bag slot = true
  deriving DecidableEq

/-- What becomes of a request: it is refused, maybe with an error, or it is carried out, and maybe
an item is sent by mail. -/
inductive Outcome where
  | refused (error : Option EquipError)
  | done (mailed : Option Item)
  deriving DecidableEq

/-- How many items of a kind go into the mail. -/
def Outcome.mailedCount (outcome : Outcome) (entry : UInt32) : Nat :=
  match outcome with
  | .done (some item) => if item.entry = entry then item.count else 0
  | _ => 0

section

variable (env : Environment) (mover : Mover)

section

variable (items : Place → Option Item)

/-- `IsValidPos`. -/
def isValidPos (bag slot : UInt8) (explicitPos : Bool) : Bool :=
  if bag = nullBag ∧ explicitPos = false then true
  else if bag = inventorySlotBag0 then
    (slot = nullSlot && !explicitPos) || slot.toNat < equipmentSlotEnd ||
      within inventorySlotBag slot || within inventorySlotItem slot ||
      within bankSlotItem slot || within bankSlotBag slot
  else (getBagByPos env items bag).any fun container =>
    (slot = nullSlot && !explicitPos) || slot.toNat < bagSize env container

variable (pos : StoragePos)

/-- The object at a position, and where it is. -/
def itemAt : Option (Place × Item) :=
  (placeOf env items pos.bag pos.slot).bind fun place => (items place).map (place, ·)

/-- `CanStoreItem` or `CanBankItem`. -/
def canPlace (item : Item) (swap : Bool) : Except EquipError (List (Position × Nat)) :=
  if isInventoryPos pos.bag pos.slot then
    let found := canStoreItem env items mover.player pos.bag pos.slot item.entry item.count
      (some item) swap
    if found.1 = .ok then .ok found.2 else .error (.store found.1)
  else canBankItem env items mover pos.bag pos.slot item swap

/-- `CanUnequipItem`. -/
def canUnequipItem (bag slot : UInt8) (swap : Bool) : Option EquipError :=
  if !isEquipmentPos bag slot && !isBagPos bag slot then none
  else match getItemByPos env items bag slot with
    | none => none
    | some item =>
      if (env.getItemTemplate item.entry).isNone then some (.store .itemNotFound)
      else if item.lootGenerated then some (.store .lootGone)
      else match mover.cannotUnequip item with
        | some error => some error
        | none =>
          if !swap && isNotEmptyBag env items item then some (.store .destroyNonemptyBag)
          else none

def isEmptyBag (item : Item) : Bool := isBag env item && !isNotEmptyBag env items item

/-- What `SwapItem` checks of one of the two items; bags may leave their slots for other bags
even with something in them. -/
def checkLeaving (other : StoragePos) (otherItem : Option Item) : Option EquipError :=
  if isEquipmentPos pos.bag pos.slot || isBagPos pos.bag pos.slot then
    canUnequipItem env mover items pos.bag pos.slot
      (!isBagPos pos.bag pos.slot || isBagPos other.bag other.slot ||
        otherItem.any (isEmptyBag env items))
  else none

/-- The checks of `SwapItem` before anything is moved. -/
def swapRefuses (src dst : StoragePos) (srcItem : Item) (dstItem : Option Item) :
    Option EquipError :=
  if !mover.isAlive then some .playerDead
  else if srcItem.lootGenerated then some .clientLockedOut
  else (checkLeaving env mover items src dst dstItem).or <|
    -- A bag does not go into itself, and nothing in it goes to its place.
    if isBagPos src.bag src.slot ∧ src.slot = dst.bag then some (.store .bagInBag)
    else if isBagPos dst.bag dst.slot ∧ src.bag = dst.slot then some (.store .cantSwap)
    else dstItem.bind fun item =>
      if item.lootGenerated then some .clientLockedOut
      else checkLeaving env mover items dst src (some srcItem)

def contentsOf (container : Item) : List (UInt8 × Item) :=
  (slotRange 0 (bagSize env container)).filterMap fun slot =>
    (items (.inBag container.guid slot)).map (slot, ·)

end

variable (store : Store) (place : Place)

/-- Change the count of a stack. -/
def Store.setCount (item : Item) (count : Nat) : Store :=
  { store with items := store.items.put place (some { item with count := count }) }

/-- `RemoveItem`. -/
def Store.removeItem : Store :=
  { store with items := store.items.put place none }

/-! ## Splitting -/

variable (src dst : StoragePos)

/-- `SplitItem`.  The count is changed before the check, and changed back if the check fails. -/
def splitItem (count : Nat) (store : Store) : Outcome × Store :=
  match itemAt env store.items.at? src with
  | none => (.refused (some (.store .itemNotFound)), store)
  | some (place, item) =>
    if item.lootGenerated then (.refused (some .splitFailed), store)
    else if item.count = count then (.refused (some .splitFailed), store)
    else if item.count < count then (.refused (some .tooFewToSplit), store)
    else if mover.isTraded item then (.refused none, store)
    else if count < 1 ∨ (env.getItemTemplate item.entry).isNone then
      -- `CloneItem` creates nothing.
      (.refused (some (.store .itemNotFound)), store)
    else
      let newItem := cloneItem env item count store.nextGuid mover.player
      let left := { item with count := item.count - count }
      let lowered := Store.mk store.items (store.nextGuid + 1) |>.setCount place item left.count
      match canPlace env mover lowered.items.at? dst newItem false with
      | .error error => (.refused (some error), lowered.setCount place left (left.count + count))
      | .ok dest => (.done none, storeItem env mover.player lowered newItem dest)

/-! ## Swapping -/

/-- Take the item out of its slot and store it according to a plan. -/
def moveItem (item : Item) (dest : List (Position × Nat)) : Store :=
  storeItem env mover.player (store.removeItem place) item dest

/-- Put two stacks together, or fill up the second with items of the first. -/
def mergeOrFill (srcPlace dstPlace : Place) (srcItem dstItem : Item) (dest : List (Position × Nat))
    : Store :=
  if srcItem.count + dstItem.count ≤ maxStackCount env srcItem.entry then
    moveItem env mover store srcPlace srcItem dest
  else
    (store.setCount srcPlace srcItem
      (srcItem.count + dstItem.count - maxStackCount env srcItem.entry)).setCount dstPlace dstItem
        (maxStackCount env srcItem.entry)

/-- `Bag::StoreItem`. -/
def Store.storeInBag (container : Item) (slot : UInt8) (item : Item) : Store :=
  if item.guid = container.guid then store
  else
    { store with
      items := store.items.put (.inBag container.guid slot)
        (some { item with ownerGuid := container.ownerGuid }) }

/-- Move the things in a bag to the first slots of another. -/
def moveContents (full empty : Item) (store : Store) : Store :=
  (contentsOf env store.items.at? full).zipIdx.foldl
    (fun store content => (store.removeItem (.inBag full.guid content.1.1)).storeInBag empty
      (UInt8.ofNat content.2) content.1.2)
    store

/-- The exchange of what is in two bags: the things in one go into the other, which is empty. -/
def exchangeContents (full empty : Item) (store : Store) : Except EquipError Store :=
  let contents := contentsOf env store.items.at? full
  let goesIn (item : Item) : Bool :=
    (env.getItemTemplate item.entry).any fun proto =>
      (env.getItemTemplate empty.entry).any fun bagProto => itemCanGoIntoBag proto bagProto
  if contents.any fun content => !goesIn content.2 then .error (.store .bagInBag)
  else if bagSize env empty < contents.length then .error (.store .cantSwap)
  else .ok (moveContents env full empty store)

/-- A swap of two bags exchanges what is in them if the empty one of them is not in use. -/
def exchangeBags (srcItem dstItem : Item) : Except EquipError Store :=
  if isBag env srcItem && isBag env dstItem then
    if mover.hasTrader then .error (.store .cantSwap)
    else if isEmptyBag env store.items.at? srcItem && !isBagPos src.bag src.slot then
      exchangeContents env dstItem srcItem store
    else if isEmptyBag env store.items.at? dstItem && !isBagPos dst.bag dst.slot then
      exchangeContents env srcItem dstItem store
    else .ok store
  else .ok store

variable (items : Place → Option Item)

def isLootedInside (pos : StoragePos) (item : Item) : Bool :=
  isBagPos pos.bag pos.slot && (bagPlaces env item).any fun place =>
    (items place).any Item.lootGenerated

def releaseLoot (srcItem dstItem : Item) : Store :=
  if mover.isLooting && (isLootedInside env store.items.at? src srcItem ||
      isLootedInside env store.items.at? dst dstItem) then
    mover.doLootRelease store
  else store

/-- `IsTwoHandUsed`. -/
def isTwoHandUsed : Bool :=
  (items (.own equipmentSlotMainhand)).any fun mainItem =>
    !mover.isWand mainItem.entry && match mover.inventoryType mainItem.entry with
      | .twoHandWeapon => !mover.canTitanGrip
      | .ranged | .thrown | .rangedRight => true
      | _ => false

def offhandMayStay (offItem : Item) : Bool :=
  let forced := !mover.canDualWield && match mover.inventoryType offItem.entry with
    | .weaponOffhand | .weapon => true
    | _ => false
  !forced && (mover.canTitanGrip ||
    (mover.inventoryType offItem.entry ≠ .twoHandWeapon && !isTwoHandUsed mover items))

/-- `AutoUnequipOffhandIfNeed`: what may not stay in the off hand goes to the inventory or into
the mail. -/
def autoUnequipOffhandIfNeed : Option Item × Store :=
  match store.items.at? (.own equipmentSlotOffhand) with
  | none => (none, store)
  | some offItem =>
    if offhandMayStay mover store.items.at? offItem then (none, store)
    else
      let found := canStoreItem env store.items.at? mover.player nullBag nullSlot offItem.entry
        offItem.count (some offItem) false
      if found.1 = .ok then
        (none, moveItem env mover store (.own equipmentSlotOffhand) offItem found.2)
      else (some offItem, store.removeItem (.own equipmentSlotOffhand))

/-- Exchange two items, if each can go to the position of the other. -/
def exchangeItems (srcPlace dstPlace : Place) (srcItem dstItem : Item) (store : Store) :
    Outcome × Store :=
  match canPlace env mover store.items.at? dst srcItem true with
  | .error error => (.refused (some error), store)
  | .ok srcDest =>
    match canPlace env mover store.items.at? src dstItem true with
    | .error error => (.refused (some error), store)
    | .ok dstDest =>
      match exchangeBags env mover store src dst srcItem dstItem with
      | .error error => (.refused (some error), store)
      | .ok exchanged =>
        let removed := (exchanged.removeItem dstPlace).removeItem srcPlace
        let stored := storeItem env mover.player
          (storeItem env mover.player removed srcItem srcDest) dstItem dstDest
        let released := releaseLoot env mover stored src dst srcItem dstItem
        let worn := autoUnequipOffhandIfNeed env mover released
        (.done worn.1, worn.2)

/-- `SwapItem`. -/
def swapItem (store : Store) : Outcome × Store :=
  match itemAt env store.items.at? src with
  | none => (.refused none, store)
  | some (srcPlace, srcItem) =>
    let held := itemAt env store.items.at? dst
    match swapRefuses env mover store.items.at? src dst srcItem (held.map Prod.snd) with
    | some error => (.refused (some error), store)
    | none =>
      match held with
      | none =>
        match canPlace env mover store.items.at? dst srcItem false with
        | .error error => (.refused (some error), store)
        | .ok dest => (.done none, moveItem env mover store srcPlace srcItem dest)
      | some (dstPlace, dstItem) =>
        match if isBag env srcItem || isBag env dstItem then none
          else (canPlace env mover store.items.at? dst srcItem false).toOption with
        | some dest =>
          (.done none, mergeOrFill env mover store srcPlace dstPlace srcItem dstItem dest)
        | none => exchangeItems env mover src dst srcPlace dstPlace srcItem dstItem store

/-! ## Requests -/

/-- What a client asks for. -/
inductive MoveRequest where
  | split (src dst : StoragePos) (count : Nat)
  | swap (src dst : StoragePos)

/-- `HandleSplitItemOpcode`. -/
def handleSplitItem (count : Nat) (store : Store) : Outcome × Store :=
  if src = dst then (.refused none, store)
  else if count = 0 then (.refused none, store)
  else if !isValidPos env store.items.at? src.bag src.slot true then
    (.refused (some (.store .itemNotFound)), store)
  else if !isValidPos env store.items.at? dst.bag dst.slot false then
    (.refused (some .wrongSlot), store)
  else if mover.castsFromItem then (.refused (some .clientLockedOut), store)
  else splitItem env mover src dst count store

/-- `HandleSwapItem` and `HandleSwapInvItemOpcode`. -/
def handleSwapItem (store : Store) : Outcome × Store :=
  if src = dst then (.refused none, store)
  else if !isValidPos env store.items.at? src.bag src.slot true then
    (.refused (some (.store .itemNotFound)), store)
  else if !isValidPos env store.items.at? dst.bag dst.slot true then
    (.refused (some .wrongSlot), store)
  else if mover.castsFromItem then (.refused (some .clientLockedOut), store)
  else swapItem env mover src dst store

def MoveRequest.positions : MoveRequest → List StoragePos
  | .split src dst _ => [src, dst]
  | .swap src dst => [src, dst]

def handleMove : MoveRequest → Outcome × Store
  | .split src dst count => handleSplitItem env mover src dst count store
  | .swap src dst => handleSwapItem env mover src dst store

end

end MopServer.Items
