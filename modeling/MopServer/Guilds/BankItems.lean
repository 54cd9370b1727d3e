import MopServer.Items.MoveConservation

/-! # The items of a guild bank

A member moves a stack to another slot of the bank, takes it out or puts it in.  Everything is
checked before anything is moved.  The stack may be split, put on top of others, spread over
several slots, or exchanged for what is in its way.
-/

namespace MopServer.Guilds

open MopServer.Items

/-- `GUILD_BANK_MAX_SLOTS`. -/
def guildBankMaxSlots : Nat := 98

/-- A member at the bank: what the guild has bought, and what his rank lets him do in a tab. -/
structure BankVisitor where
  player : UInt64
  /-- `GetPurchasedTabsSize`. -/
  purchasedTabs : UInt8
  /-- `_MemberHasTabRights`, to put items in. -/
  mayDeposit : UInt8 → Bool
  /-- `_GetMemberRemainingSlots`. -/
  remainingSlots : UInt8 → UInt32

def BankVisitor.hasSlot (visitor : BankVisitor) (tab slot : UInt8) : Bool :=
  tab < visitor.purchasedTabs && slot.toNat < guildBankMaxSlots

section

variable (env : Environment) (visitor : BankVisitor)

/-! ## The slots of a tab -/

section

variable (items : Place → Option Item)

/-- `_GetItem`. -/
def getBankItem (tab slot : UInt8) : Option Item :=
  if visitor.hasSlot tab slot then items (.bank tab slot) else none

variable (item : Item)

def othersInBank (tab slot : UInt8) : Option Item :=
  (getBankItem visitor items tab slot).filter (isOther (some item))

/-- `_ReserveSpace`. -/
def reserveSpace (tab slot : UInt8) (item : Item) (destItem : Option Item)
    (reservation : Reservation) : Option Reservation :=
  match destItem with
  | none => some (reservation.reserve (.bank tab slot) (maxStackCount env item.entry))
  | some held =>
    if held.entry ≠ item.entry ∨ maxStackCount env item.entry ≤ held.count then none
    else
      some (reservation.reserve (.bank tab slot) (maxStackCount env item.entry - held.count))

/-- One slot in the loop of `CanStoreItemInTab`. -/
def visitBankSlot (tab skipSlot : UInt8) (merge : Bool) (slot : UInt8) (reservation : Reservation) :
    Option Reservation :=
  let destItem := othersInBank visitor items item tab slot
  if slot = skipSlot then none
  else if destItem.isSome ≠ merge then none
  else reserveSpace env tab slot item destItem reservation

/-- `CanStoreItemInTab`. -/
def canStoreItemInTab (tab skipSlot : UInt8) (merge : Bool) (reservation : Reservation) :
    Reservation :=
  if reservation.count = 0 then reservation
  else
    searchSlots (visitBankSlot env visitor items item tab skipSlot merge)
      (slotRange 0 guildBankMaxSlots) reservation

/-- The slot that is named, if one is; what is there is ignored if it is swapped away. -/
def reserveNamedSlot (tab slot : UInt8) (swap : Bool) : Option Reservation :=
  if slot = nullSlot then some ⟨[], item.count⟩
  else
    reserveSpace env tab slot item
      (if swap then none else othersInBank visitor items item tab slot) ⟨[], item.count⟩

/-- `BankMoveItemData::CanStore`.  A search does nothing if everything has a place. -/
def canStoreInBank (tab slot : UInt8) (swap : Bool) :
    Except InventoryResult (List (Position × Nat)) :=
  if item.soulBound then .error .dropBoundItem
  else if visitor.purchasedTabs ≤ tab then .error .wrongBagType
  else match reserveNamedSlot env visitor items item tab slot swap with
    | none => .error .cantStack
    | some named =>
      let merged :=
        if 1 < maxStackCount env item.entry then
          canStoreItemInTab env visitor items item tab slot true named
        else named
      let found := canStoreItemInTab env visitor items item tab slot false merged
      if found.count = 0 then .ok found.dest else .error .bankFull

end

/-- `BankMoveItemData::_StoreItem`. -/
def bankStoreAt (item : Item) (store : Store) (position : Position) (count : Nat)
    (clone : Bool) : Store :=
  match position with
  | .player _ _ => store
  | .bank tab slot =>
    match getBankItem visitor store.items.at? tab slot with
    | some held => store.setCount (.bank tab slot) held (held.count + count)
    | none =>
      let stack := { newStack env store item count clone 0 with ownerGuid := 0 }
      let nextGuid := store.guidAfter clone
      if visitor.hasSlot tab slot then
        ⟨store.items.put (.bank tab slot) (some stack), nextGuid⟩
      else ⟨store.items, nextGuid⟩

/-! ## The two sides of a move -/

def tabOf : Position → Option UInt8
  | .bank tab _ => some tab
  | .player _ _ => none

variable (position : Position) (items : Place → Option Item)

/-- `InitItem`: what is to be moved from a position, or the error that is sent. -/
def initItem (position : Position) : Except (Option InventoryResult) (Place × Item) :=
  match position with
  | .bank tab slot =>
    match getBankItem visitor items tab slot with
    | none => .error none
    | some item => .ok (.bank tab slot, item)
  | .player bag slot =>
    match (placeOf env items bag slot).bind fun place => (items place).map (place, ·) with
    | none => .error none
    | some (place, item) =>
      if isNotEmptyBag env items item then .error (some .destroyNonemptyBag)
      else if !canBeTraded env items bag slot item then .error (some .cantSwap)
      else .ok (place, item)

variable (other : Position)

/-- `HasStoreRights`: within a tab no rights are needed. -/
def hasStoreRights : Bool :=
  match position with
  | .bank tab _ => tabOf other = some tab || visitor.mayDeposit tab
  | .player _ _ => true

/-- `HasWithdrawRights`. -/
def hasWithdrawRights : Bool :=
  match position with
  | .bank tab _ => tabOf other = some tab || visitor.remainingSlots tab ≠ 0
  | .player _ _ => true

/-- The tab out of which the member has taken an item. -/
def decreased : List UInt8 :=
  match position with
  | .bank tab _ => if tabOf other = some tab then [] else [tab]
  | .player _ _ => []

/-- `CanStore`. -/
def canStore (position : Position) (item : Item) (swap : Bool) :
    Except InventoryResult (List (Position × Nat)) :=
  match position with
  | .bank tab slot => canStoreInBank env visitor items item tab slot swap
  | .player bag slot =>
    let found := canStoreItem env items visitor.player bag slot item.entry item.count
      (some item) swap
    if found.1 = .ok then .ok found.2 else .error found.1

/-- `RemoveItem`: as many items as are split off, or the whole stack. -/
def removeItem (store : Store) (place : Place) (item : Item) (splitedAmount : Nat) : Store :=
  if splitedAmount ≠ 0 then store.setCount place item (item.count - splitedAmount)
  else store.removeItem place

variable (store : Store)

/-- `StoreItem`. -/
def storeMoved (item : Item) (dest : List (Position × Nat)) : Store :=
  match position with
  | .bank tab _ =>
    if tab < visitor.purchasedTabs then storeLoop (bankStoreAt env visitor item) store dest
    else store
  | .player _ _ => storeItem env visitor.player store item dest

/-! ## Moves -/

variable (src dst : Position)

/-- `_DoItemsMove`: the tabs out of which something has been taken, and the new store.  The item
that is moved is the source item, or the copy that has been split off. -/
def doItemsMove (srcPlace : Place) (srcItem moved : Item) (destItem : Option (Place × Item))
    (splitedAmount : Nat) (store : Store) : Except InventoryResult (List UInt8 × Store) :=
  match canStore env visitor store.items.at? dst moved destItem.isSome with
  | .error error => .error error
  | .ok dest =>
    match destItem with
    | none =>
      let removed := removeItem store srcPlace srcItem splitedAmount
      .ok (decreased src dst, storeMoved env visitor dst removed moved dest)
    | some (dstPlace, dstItem) =>
      match canStore env visitor store.items.at? src dstItem true with
      | .error error => .error error
      | .ok srcDest =>
        let removed :=
          removeItem (removeItem store srcPlace srcItem splitedAmount) dstPlace dstItem 0
        .ok (decreased src dst ++ decreased dst src,
          storeMoved env visitor src (storeMoved env visitor dst removed moved dest)
            dstItem srcDest)

/-- What becomes of a request: it is refused, maybe with an error, or it is carried out, and the
member may take fewer items out of some tabs. -/
inductive BankOutcome where
  | refused (error : Option InventoryResult)
  | moved (decreased : List UInt8)
  deriving DecidableEq

def finishMove : Except InventoryResult (List UInt8 × Store) → BankOutcome × Store
  | .error error => (.refused (some error), store)
  | .ok (tabs, after) => (.moved tabs, after)

/-- The exchange in `_MoveItems`, when the item could not just be put down. -/
def swapMoved (srcPlace : Place) (srcItem : Item) (store : Store) : BankOutcome × Store :=
  match initItem env visitor store.items.at? dst with
  | .error error => (.refused error, store)
  | .ok held =>
    if !hasStoreRights visitor src dst then (.refused none, store)
    else if !hasWithdrawRights visitor dst src then (.refused none, store)
    else
      finishMove store
        (doItemsMove env visitor src dst srcPlace srcItem srcItem (some held) 0 store)

/-- `_MoveItems`.  To split off all items is to move the whole stack. -/
def moveItems (splitedAmount : Nat) (store : Store) : BankOutcome × Store :=
  match initItem env visitor store.items.at? src with
  | .error error => (.refused error, store)
  | .ok (srcPlace, srcItem) =>
    if srcItem.count < splitedAmount then (.refused none, store)
    else if !hasStoreRights visitor dst src then (.refused none, store)
    else if !hasWithdrawRights visitor src dst then (.refused none, store)
    else if splitedAmount ≠ srcItem.count ∧ splitedAmount ≠ 0 then
      if (env.getItemTemplate srcItem.entry).isNone then
        -- `CloneItem` creates nothing.
        (.refused (some .itemNotFound), store)
      else
        let moved := cloneItem env srcItem splitedAmount store.nextGuid 0
        let issued := Store.mk store.items (store.nextGuid + 1)
        finishMove issued
          (doItemsMove env visitor src dst srcPlace srcItem moved none splitedAmount issued)
    else
      match doItemsMove env visitor src dst srcPlace srcItem srcItem none 0 store with
      | .ok (tabs, after) => (.moved tabs, after)
      | .error _ => swapMoved env visitor src dst srcPlace srcItem store

/-! ## Requests -/

/-- `SwapItems`. -/
def swapItems (tab slot destTab destSlot : UInt8) (splitedAmount : Nat) (store : Store) :
    BankOutcome × Store :=
  if !visitor.hasSlot tab slot || !visitor.hasSlot destTab destSlot then (.refused none, store)
  else if tab = destTab ∧ slot = destSlot then (.refused none, store)
  else moveItems env visitor (.bank tab slot) (.bank destTab destSlot) splitedAmount store

def BankVisitor.hasSlotOrNull (visitor : BankVisitor) (tab slot : UInt8) : Bool :=
  (slot.toNat < guildBankMaxSlots || slot = nullSlot) && tab < visitor.purchasedTabs

/-- `SwapItemsWithInventory`. -/
def swapItemsWithInventory (toChar : Bool) (tab slot playerBag playerSlot : UInt8)
    (splitedAmount : Nat) (store : Store) : BankOutcome × Store :=
  if !visitor.hasSlotOrNull tab slot then (.refused none, store)
  else if toChar then
    moveItems env visitor (.bank tab slot) (.player playerBag playerSlot) splitedAmount store
  else moveItems env visitor (.player playerBag playerSlot) (.bank tab slot) splitedAmount store

/-- `AutoStoreItemInInventory`. -/
def autoStoreItemInInventory (tab slot : UInt8) (store : Store) : BankOutcome × Store :=
  if !visitor.hasSlotOrNull tab slot then (.refused none, store)
  else match getBankItem visitor store.items.at? tab slot with
    | none => (.refused (some .itemNotFound), store)
    | some item =>
      let found := canStoreItem env store.items.at? visitor.player nullBag nullSlot item.entry
        item.count (some item) false
      if found.1 ≠ .ok then (.refused (some found.1), store)
      else if visitor.remainingSlots tab = 0 then (.refused none, store)
      else
        (.moved [tab],
          storeItem env visitor.player (store.removeItem (.bank tab slot)) item found.2)

/-- What a member asks for at the bank. -/
inductive BankRequest where
  | swapItems (tab slot destTab destSlot : UInt8) (splitedAmount : Nat)
  | swapItemsWithInventory (toChar : Bool) (tab slot playerBag playerSlot : UInt8)
      (splitedAmount : Nat)
  | autoStoreItemInInventory (tab slot : UInt8)

def handleBank : BankRequest → BankOutcome × Store
  | .swapItems tab slot destTab destSlot splitedAmount =>
    swapItems env visitor tab slot destTab destSlot splitedAmount store
  | .swapItemsWithInventory toChar tab slot playerBag playerSlot splitedAmount =>
    swapItemsWithInventory env visitor toChar tab slot playerBag playerSlot splitedAmount store
  | .autoStoreItemInInventory tab slot => autoStoreItemInInventory env visitor tab slot store

end

end MopServer.Guilds
