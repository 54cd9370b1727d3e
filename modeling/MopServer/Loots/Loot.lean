import Mathlib.Data.UInt
import Mathlib.Logic.Function.Basic
import MopServer.Foundation.Table

/-! # Loot

A loot has items and quest items, and lists with what single players may take of them.  A
counter says how much is left; it is raised where items are added and listed, and lowered
where they are taken.
-/

namespace MopServer.Loots

open MopServer.Foundation

/-- `LootStoreItem`, as far as it is copied into a loot. -/
structure StoreItem where
  itemId : UInt32
  needsQuest : Bool
  /-- The type is `LOOT_ITEM_TYPE_CURRENCY`. -/
  currency : Bool
  hasConditions : Bool
  deriving DecidableEq, Repr

/-- `LootItem`. -/
structure LootItem extends StoreItem where
  freeforall : Bool
  followLootRules : Bool
  isLooted : Bool
  isBlocked : Bool
  isCounted : Bool
  deriving DecidableEq, Repr

/-- `QuestItem`: an item a player may take, by its index. -/
structure QuestItem where
  index : Nat
  isLooted : Bool
  deriving DecidableEq, Repr

/-- An entry of a `QuestItemMap`. -/
structure PlayerItems where
  guidLow : UInt32
  entries : List QuestItem
  deriving DecidableEq, Repr

instance : Keyed PlayerItems UInt32 := ⟨PlayerItems.guidLow⟩

@[simp] theorem key_playerItems (row : PlayerItems) : Keyed.key row = row.guidLow := rfl

/-- The maps of a loot. -/
inductive ListKind where
  | currency
  | quest
  | ffa
  | conditional
  deriving DecidableEq, Repr

/-- `Loot`. -/
structure Loot where
  items : List LootItem
  questItems : List LootItem
  gold : UInt32
  unlootedCount : UInt8
  lists : ListKind → Table PlayerItems
  /-- How often the counter has wrapped; the server does not keep this. -/
  wraps : Nat

/-- `MAX_NR_LOOT_ITEMS`. -/
def maxNrLootItems : Nat := 16

/-- `MAX_NR_QUEST_ITEMS`. -/
def maxNrQuestItems : Nat := 32

/-- `LootMethod`. -/
inductive LootMethod where
  | freeForAll
  | roundRobin
  | masterLoot
  | groupLoot
  | needBeforeGreed
  deriving DecidableEq, Repr

/-- A player, whether he is near, and which items there is space for when they are stored. -/
structure Looter where
  guidLow : UInt32
  present : Bool
  fits : Nat → Bool

/-- The group of the players. -/
structure LootGroup where
  lootMethod : LootMethod
  looterGuid : UInt32
  members : List Looter
  nodup : (members.map Looter.guidLow).Nodup

/-- What a loot asks of the rest of the server. -/
structure Environment where
  /-- The template has `ITEM_PROTO_FLAG_PARTY_LOOT`. -/
  partyLoot : UInt32 → Bool
  /-- The template has `ITEM_FLAGS_CU_FOLLOW_LOOT_RULES`. -/
  followLootRules : UInt32 → Bool
  isCurrencyToken : UInt32 → Bool
  /-- `AllowedForPlayer`. -/
  allowed : UInt32 → StoreItem → Bool

namespace Loot

def empty (gold : UInt32) : Loot where
  items := []
  questItems := []
  gold := gold
  unlootedCount := 0
  lists := fun _ => Table.empty
  wraps := 0

variable (loot : Loot)

/-- `isLooted`. -/
def isLooted : Bool := loot.gold = 0 && loot.unlootedCount = 0

def raise (n : Nat) : Loot :=
  { loot with
    unlootedCount := loot.unlootedCount + UInt8.ofNat n
    wraps := loot.wraps + (loot.unlootedCount.toNat + n) / 256 }

def lower : Loot :=
  { loot with
    unlootedCount := loot.unlootedCount - 1
    wraps := loot.wraps + if loot.unlootedCount = 0 then 1 else 0 }

def itemsOf : ListKind → List LootItem
  | .quest => loot.questItems
  | _ => loot.items

variable (kind : ListKind)

/-- Rewrite an item in place. -/
def modifyItem (index : Nat) (f : LootItem → LootItem) : Loot :=
  match kind with
  | .quest => { loot with questItems := loot.questItems.modify index f }
  | _ => { loot with items := loot.items.modify index f }

def entriesOf (guidLow : UInt32) : List QuestItem :=
  ((loot.lists kind).get? guidLow).elim [] PlayerItems.entries

def markEntry (guidLow : UInt32) (index : Nat) : Loot :=
  let mark (entry : QuestItem) : QuestItem :=
    if entry.index = index then { entry with isLooted := true } else entry
  let marked : Table PlayerItems :=
    (loot.lists kind).modify guidLow fun row => { row with entries := row.entries.map mark }
  { loot with lists := Function.update loot.lists kind marked }

end Loot

/-! ## Filling -/

variable (env : Environment)

/-- The constructor of `LootItem`. -/
def LootItem.ofStore (item : StoreItem) : LootItem where
  toStoreItem := item
  freeforall := !item.currency && env.partyLoot item.itemId
  followLootRules := !item.currency && env.followLootRules item.itemId
  isLooted := false
  isBlocked := false
  isCounted := false

/-- `AddItem`. -/
def addItem (loot : Loot) (item : StoreItem) : Loot :=
  if item.needsQuest then
    if loot.questItems.length < maxNrQuestItems then
      { loot with questItems := loot.questItems ++ [LootItem.ofStore env item] }
    else loot
  else if loot.items.length < maxNrLootItems then
    let added := { loot with items := loot.items ++ [LootItem.ofStore env item] }
    if !item.hasConditions && !item.currency && !env.partyLoot item.itemId then added.raise 1
    else added
  else loot

def indices (items : List LootItem) (p : LootItem → Bool) : List Nat :=
  (items.zipIdx.filter fun indexed => p indexed.1).map Prod.snd

variable (group : Option LootGroup)

/-- An item that follows the loot rules is listed without a look at who may have it. -/
def follows (guidLow : UInt32) (item : LootItem) : Bool :=
  item.followLootRules && group.any fun group =>
    (group.lootMethod = .masterLoot && group.looterGuid = guidLow) ||
      group.lootMethod ≠ .masterLoot

/-- Quest items are blocked once they are listed, outside of group loot and round robin. -/
def blocks : Bool :=
  group.all fun group => group.lootMethod ≠ .groupLoot && group.lootMethod ≠ .roundRobin

def candidates (loot : Loot) (guidLow : UInt32) : ListKind → List Nat
  | .currency => indices loot.items fun item =>
    !item.isLooted && item.currency && env.allowed guidLow item.toStoreItem
  | .quest =>
    (indices loot.questItems fun item =>
      !item.isLooted && (env.allowed guidLow item.toStoreItem || follows group guidLow item)).take
        (maxNrLootItems - loot.items.length)
  | .ffa => indices loot.items fun item =>
    !item.isLooted && item.freeforall && env.allowed guidLow item.toStoreItem
  | .conditional => indices loot.items fun item =>
    !item.isLooted && !item.currency && !item.freeforall &&
      (env.allowed guidLow item.toStoreItem || follows group guidLow item) && item.hasConditions

def counted (kind : ListKind) (item : LootItem) : Bool :=
  match kind with
  | .currency => true
  | .quest => item.freeforall || !item.isBlocked
  | .ffa => true
  | .conditional => !item.isCounted

def listed (kind : ListKind) (item : LootItem) : LootItem :=
  match kind with
  | .currency => item
  | .quest => if blocks group then { item with isBlocked := true } else item
  | .ffa => item
  | .conditional => { item with isCounted := true }

/-- `FillCurrencyLoot`, `FillQuestLoot`, `FillFFALoot` and
`FillNonQuestNonFFANonCurrencyConditionalLoot`, for a player without a list. -/
def fillList (guidLow : UInt32) (loot : Loot) (kind : ListKind) : Loot :=
  if ((loot.lists kind).get? guidLow).isSome then loot
  else
    let indices := candidates env group loot guidLow kind
    if indices.isEmpty then loot
    else
      let raised := loot.raise
        (indices.countP fun index => ((loot.itemsOf kind)[index]?).any (counted kind))
      let marked := indices.foldl
        (fun loot index => loot.modifyItem kind index (listed group kind)) raised
      let row : PlayerItems := ⟨guidLow, indices.map fun index => ⟨index, false⟩⟩
      let lists := Function.update marked.lists kind
        ((marked.lists kind).insert row (Rearrangement.keep PlayerItems))
      { marked with lists := lists }

/-- The lists in the order in which they are filled. -/
def listKinds : List ListKind := [.currency, .quest, .ffa, .conditional]

/-! ## Taking -/

def LootItem.listKind (item : LootItem) : Option ListKind :=
  if item.currency then some .currency
  else if item.freeforall then some .ffa
  else if item.hasConditions then some .conditional
  else none

/-- An item that is handed out, and the list with an entry of the player for it. -/
structure Found where
  kind : Option ListKind
  index : Nat
  item : LootItem

namespace Loot

variable (loot : Loot)

/-- `LootItemInSlot`: the entry of the player, if he has one, says whether the item is looted. -/
def lootItemInSlot (lootSlot : Nat) (guidLow : UInt32) : Option Found :=
  if loot.items.length ≤ lootSlot then
    match (loot.entriesOf .quest guidLow)[lootSlot - loot.items.length]? with
    | none => none
    | some entry =>
      if entry.isLooted then none
      else (loot.questItems[entry.index]?).map fun item => ⟨some .quest, entry.index, item⟩
  else
    match loot.items[lootSlot]? with
    | none => none
    | some item =>
      let entry := item.listKind.bind fun kind =>
        (loot.entriesOf kind guidLow).find? fun entry => entry.index = lootSlot
      match entry with
      | none => if item.isLooted then none else some ⟨none, lootSlot, item⟩
      | some entry => if entry.isLooted then none else some ⟨item.listKind, lootSlot, item⟩

/-- Mark an item as looted if only one player is supposed to loot it. -/
def lootOnce (kind : ListKind) (index : Nat) (item : LootItem) : Loot :=
  if item.freeforall then loot
  else loot.modifyItem kind index fun item => { item with isLooted := true }

/-- `StoreLootItem`, with the answer to whether the player can store the item. -/
def storeLootItem (guidLow : UInt32) (lootSlot : Nat) (canStore : Bool) : Loot :=
  match loot.lootItemInSlot lootSlot guidLow with
  | none => loot
  | some found =>
    if found.kind ≠ some .quest && found.item.isBlocked then loot
    else match found.kind with
      | some .currency => (loot.markEntry .currency guidLow found.index).lower
      | some kind =>
        if canStore then
          ((loot.markEntry kind guidLow found.index).lootOnce kind found.index found.item).lower
        else loot
      | none =>
        if canStore then (loot.lootOnce .ffa found.index found.item).lower else loot

/-- `GetMaxSlotInLootFor`. -/
def maxSlotInLootFor (guidLow : UInt32) : Nat :=
  loot.items.length + (loot.entriesOf .quest guidLow).length

def itemInSlot (slot : Nat) : Option LootItem :=
  if slot < loot.items.length then loot.items[slot]?
  else loot.questItems[slot - loot.items.length]?

end Loot

def autoStore (looter : Looter) (loot : Loot) (slot : Nat) : Loot :=
  if (loot.itemInSlot slot).any fun item => !item.isLooted && item.freeforall &&
      env.allowed looter.guidLow item.toStoreItem && env.isCurrencyToken item.itemId then
    loot.storeLootItem looter.guidLow slot (looter.fits slot)
  else loot

/-- `FillNotNormalLootFor`. -/
def fillNotNormalLootFor (loot : Loot) (looter : Looter) : Loot :=
  let filled := listKinds.foldl (fillList env group looter.guidLow) loot
  if looter.present then
    (List.range (filled.maxSlotInLootFor looter.guidLow)).foldl (autoStore env looter) filled
  else filled

/-- The players a loot is filled for: the members of the owner's group, or the owner alone. -/
def looters (personal : Bool) (owner : Looter) (group : Option LootGroup) : List Looter :=
  match group with
  | none => [{ owner with present := true }]
  | some group => if personal then [{ owner with present := true }] else group.members

def processed (gold : UInt32) (store : List StoreItem) : Loot :=
  store.foldl (addItem env) (Loot.empty gold)

/-- `FillLoot`. -/
def fillLoot (gold : UInt32) (store : List StoreItem) (personal : Bool) (owner : Looter)
    (group : Option LootGroup) : Loot :=
  (looters personal owner group).foldl (fillNotNormalLootFor env group)
    (processed env gold store)

/-! ## Events -/

/-- What a roll for an item does to it. -/
inductive RollResult where
  | stored
  | notStored
  | winnerOffline
  deriving DecidableEq, Repr

inductive LootEvent where
  | store (guidLow : UInt32) (lootSlot : Nat) (canStore : Bool)
  | startRoll (slot : Nat)
  | countTheRoll (slot : Nat) (result : RollResult)
  | takeGold

namespace Loot

variable (loot : Loot) (slot : Nat)

def rollPlace : ListKind × Nat :=
  if loot.items.length ≤ slot then (.quest, slot - loot.items.length) else (.ffa, slot)

def modifyRolled (f : LootItem → LootItem) : Loot :=
  loot.modifyItem (loot.rollPlace slot).1 (loot.rollPlace slot).2 f

/-- The part of `CountTheRoll` that changes the loot. -/
def countTheRoll : RollResult → Loot
  | .stored => (loot.modifyRolled slot fun item => { item with isLooted := true }).lower
  | .notStored => loot.modifyRolled slot fun item => { item with isBlocked := false }
  | .winnerOffline => loot

end Loot

def lootStep (loot : Loot) : LootEvent → Loot
  | .store guidLow lootSlot canStore => loot.storeLootItem guidLow lootSlot canStore
  | .startRoll slot => loot.modifyRolled slot fun item => { item with isBlocked := true }
  | .countTheRoll slot result => loot.countTheRoll slot result
  | .takeGold => { loot with gold := 0 }

end MopServer.Loots
