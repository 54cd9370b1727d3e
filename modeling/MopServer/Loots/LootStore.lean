import MopServer.Loots.Template

/-! # Loot stores

A store is loaded row by row into templates.  What is checked of a row is the row alone: where a
reference leads is looked at neither here nor when the store is verified.
-/

namespace MopServer.Loots

/-- What is computed of a chance in floating point. -/
structure Floats (Chance : Type) where
  fabs : Chance → Chance
  negative : Chance → Bool
  isZero : Chance → Bool
  /-- Below 0.000001. -/
  isLow : Chance → Bool

/-- Which items and currencies there are. -/
structure ItemStores where
  hasItem : UInt32 → Bool
  hasCurrency : UInt32 → Bool

/-- A row of a loot table. -/
structure LootRow (Chance : Type) where
  entry : UInt32
  /-- Minus the currency, or the item. -/
  item : Int32
  chanceOrQuestChance : Chance
  lootmode : UInt16
  groupid : UInt8
  mincountOrRef : Int32
  maxcount : UInt16

/-- `LootTemplateMap`. -/
abbrev LootStore (Chance : Type) := UInt32 → Option (LootTemplate Chance)

variable {Chance : Type} (floats : Floats Chance) (stores : ItemStores)

/-- The constructor of `LootStoreItem`, for the values of a row.  Conditions are added later. -/
def LootRow.storeItem (row : LootRow Chance) : LootStoreItem Chance where
  itemId := row.item.abs.toUInt32
  needsQuest := floats.negative row.chanceOrQuestChance
  currency := row.item ≤ 0
  hasConditions := false
  chance := floats.fabs row.chanceOrQuestChance
  mincountOrRef := row.mincountOrRef.toInt
  lootmode := row.lootmode
  group := row.groupid
  maxcount := row.maxcount.toUInt32

variable (item : LootStoreItem Chance)

/-- `LootStoreItem::IsValid`. -/
def LootStoreItem.isValid : Bool :=
  if item.group ≠ 0 && item.currency then false
  else if item.mincountOrRef = 0 then false
  else if 0 < item.mincountOrRef then
    if !(if item.currency then stores.hasCurrency item.itemId else stores.hasItem item.itemId) then
      false
    else if floats.isZero item.chance && item.group = 0 then false
    else if !floats.isZero item.chance && floats.isLow item.chance then false
    else !(item.maxcount.toNat < item.mincountOrRef)
  else item.needsQuest || !floats.isZero item.chance

variable (group : LootTemplate.LootGroup Chance)

/-- `LootGroup::AddEntry`. -/
def LootTemplate.LootGroup.addEntry : LootTemplate.LootGroup Chance :=
  if !floats.isZero item.chance then
    { group with explicitlyChanced := group.explicitlyChanced ++ [item] }
  else { group with equalChanced := group.equalChanced ++ [item] }

/-- `LootTemplate::AddEntry`. -/
def LootTemplate.addEntry (template : LootTemplate Chance) (item : LootStoreItem Chance) :
    LootTemplate Chance :=
  if 0 < item.group && 0 < item.mincountOrRef then
    let groups := template.groups ++
      List.replicate (item.group.toNat - template.groups.length) ⟨[], []⟩
    { template with
      groups := groups.modify (item.group.toNat - 1) (LootTemplate.LootGroup.addEntry floats item) }
  else { template with entries := template.entries ++ [item] }

def LootStore.addRow (store : LootStore Chance) (row : LootRow Chance) : LootStore Chance :=
  Function.update store row.entry
    (some (LootTemplate.addEntry floats ((store row.entry).getD ⟨[], []⟩) (row.storeItem floats)))

/-- The loop of `LoadLootTable`; it ends with a group that is too large. -/
def loadRows : LootStore Chance → List (LootRow Chance) → LootStore Chance
  | store, [] => store
  | store, row :: rest =>
    if 0 < row.item && 255 < row.maxcount then loadRows store rest
    else if 128 ≤ row.groupid then store
    else if !(row.storeItem floats).isValid floats stores then loadRows store rest
    else loadRows (store.addRow floats row) rest

/-- `LoadLootTable`. -/
def loadLootTable (rows : List (LootRow Chance)) : LootStore Chance :=
  loadRows floats stores (fun _ => none) rows

/-- The tables. -/
inductive LootStoreName where
  | creature
  | disenchant
  | fishing
  | gameobject
  | item
  | mail
  | milling
  | pickpocketing
  | prospecting
  | reference
  | skinning
  | spell
  deriving DecidableEq, Repr

/-- `LootTemplates_Creature` and the others. -/
abbrev LootStores (Chance : Type) := LootStoreName → LootStore Chance

/-! ## Looking for quest items -/

/-- The template an entry with a negative count refers to. -/
def LootStoreItem.referenceId : UInt32 :=
  UInt32.ofNat (-item.mincountOrRef).toNat

/-- `LootGroup::HasQuestDrop`. -/
def LootTemplate.LootGroup.hasQuestDrop : Bool :=
  group.explicitlyChanced.any (fun item => item.needsQuest) ||
    group.equalChanced.any fun item => item.needsQuest

/-- The loop of `HasQuestDrop`: it returns at the first reference. -/
def scanQuestDrop (haveQuestLootFor : UInt32 → Option Bool) (inGroups : Bool) :
    List (LootStoreItem Chance) → Option Bool
  | [] => some inGroups
  | item :: rest =>
    if item.mincountOrRef < 0 then haveQuestLootFor item.referenceId
    else if item.needsQuest then some true
    else scanQuestDrop haveQuestLootFor inGroups rest

/-- `LootTemplate::HasQuestDrop`, with `HaveQuestLootFor` of the reference store.  Each reference
takes one unit of fuel. -/
def LootTemplate.hasQuestDrop (references : LootStore Chance) :
    Nat → UInt8 → LootTemplate Chance → Option Bool
  | 0, _, _ => none
  | fuel + 1, groupId, template =>
    if groupId ≠ 0 then
      some ((template.groups[groupId.toNat - 1]?).any LootTemplate.LootGroup.hasQuestDrop)
    else
      scanQuestDrop
        (fun id =>
          match references id with
          | none => some false
          | some referenced => hasQuestDrop references fuel 0 referenced)
        (template.groups.any LootTemplate.LootGroup.hasQuestDrop) template.entries

/-- `LootGroup::HasQuestDropForPlayer`. -/
def LootTemplate.LootGroup.hasQuestDropForPlayer (hasQuestForItem : UInt32 → Bool)
    (group : LootTemplate.LootGroup Chance) : Bool :=
  group.explicitlyChanced.any (fun item => hasQuestForItem item.itemId) ||
    group.equalChanced.any fun item => hasQuestForItem item.itemId

/-- The loop of `HasQuestDropForPlayer`: a reference is looked up in the store of the template. -/
def scanForPlayer (store : LootStore Chance) (hasQuestForItem : UInt32 → Bool)
    (evaluate : UInt8 → LootTemplate Chance → Option Bool) (inGroups : Bool) :
    List (LootStoreItem Chance) → Option Bool
  | [] => some inGroups
  | item :: rest =>
    if item.mincountOrRef < 0 then
      match store item.referenceId with
      | none => scanForPlayer store hasQuestForItem evaluate inGroups rest
      | some referenced =>
        (evaluate item.group referenced).bind fun found =>
          if found then some true
          else scanForPlayer store hasQuestForItem evaluate inGroups rest
    else if hasQuestForItem item.itemId then some true
    else scanForPlayer store hasQuestForItem evaluate inGroups rest

/-- `LootTemplate::HasQuestDropForPlayer`. -/
def LootTemplate.hasQuestDropForPlayer (store : LootStore Chance)
    (hasQuestForItem : UInt32 → Bool) : Nat → UInt8 → LootTemplate Chance → Option Bool
  | 0, _, _ => none
  | fuel + 1, groupId, template =>
    if groupId ≠ 0 then
      some ((template.groups[groupId.toNat - 1]?).any
        (LootTemplate.LootGroup.hasQuestDropForPlayer hasQuestForItem))
    else
      scanForPlayer store hasQuestForItem (hasQuestDropForPlayer store hasQuestForItem fuel)
        (template.groups.any (LootTemplate.LootGroup.hasQuestDropForPlayer hasQuestForItem))
        template.entries

end MopServer.Loots
