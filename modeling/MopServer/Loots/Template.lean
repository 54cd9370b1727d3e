import MopServer.Foundation.Script
import MopServer.Loots.Loot

/-! # Loot templates

A template has plain entries and groups.  Plain entries are rolled one by one, from a group at most
one item is taken, and a reference runs another template.
-/

namespace MopServer.Loots

open MopServer.Foundation

/-- `LootStoreItem`. -/
structure LootStoreItem (Chance : Type) extends StoreItem where
  chance : Chance
  /-- The smallest count, or minus the referenced template. -/
  mincountOrRef : Int
  lootmode : UInt16
  group : UInt8
  maxcount : UInt32

/-- `LootTemplate::LootGroup`. -/
structure LootTemplate.LootGroup (Chance : Type) where
  explicitlyChanced : List (LootStoreItem Chance)
  equalChanced : List (LootStoreItem Chance)

structure LootTemplate (Chance : Type) where
  entries : List (LootStoreItem Chance)
  groups : List (LootTemplate.LootGroup Chance)

/-- The tables, the dice and what is computed in floating point. -/
structure World (Chance : Type) extends Environment where
  /-- The inventory types of the items with a template. -/
  inventoryType : UInt32 → Option UInt32
  /-- `LootTemplates_Reference`. -/
  reference : Nat → Option (LootTemplate Chance)
  /-- A multiplicator of a reference by its rate. -/
  referencedAmount : UInt32 → UInt32
  /-- The chance is 100 or more. -/
  certain : Chance → Bool
  sub : Chance → Chance → Chance
  negative : Chance → Bool
  /-- What the dice show at the n-th roll. -/
  randChance : Nat → Chance
  rollChance : Nat → LootStoreItem Chance → Bool
  irand : Nat → (max : Nat) → Fin (max + 1)

/-- A loot that is filled, and how often the dice have been rolled. -/
structure Drops where
  loot : Loot
  rolls : Nat

inductive DropOp (Chance : Type)
  | roll
  /-- `AddItem` for a plain entry. -/
  | plain (item : LootStoreItem Chance)
  /-- `AddItem` for an entry of a group. -/
  | grouped (item : LootStoreItem Chance)

variable {Chance : Type} (world : World Chance)

def Drops.perform (drops : Drops) : DropOp Chance → Drops
  | .roll => { drops with rolls := drops.rolls + 1 }
  | .plain item => { drops with loot := addItem world.toEnvironment drops.loot item.toStoreItem }
  | .grouped item => { drops with loot := addItem world.toEnvironment drops.loot item.toStoreItem }

abbrev DropCode (Chance : Type) := Script Drops (DropOp Chance)

def dropSeq (scripts : List (DropCode Chance)) : DropCode Chance :=
  Script.seq (Drops.perform world) scripts

/-! ## Groups -/

/-- The search through what has dropped: an item that is not equippable drops three times, one that
is drops once. -/
def isDuplicate (loot : Loot) (itemId : UInt32) : Bool :=
  match world.inventoryType itemId with
  | none => false
  | some inventoryType =>
    (loot.items.foldl (fun (found : UInt8 × Bool) item =>
      if item.itemId = itemId then
        let counter := found.1 + 1
        (counter, found.2 || (inventoryType = 0 && counter = 3) ||
          (inventoryType ≠ 0 && counter = 1))
      else found) (0, false)).2

/-- The walk over explicitly chanced entries; those that miss are erased. -/
def afterMisses : Chance → List (LootStoreItem Chance) → List (LootStoreItem Chance)
  | _, [] => []
  | roll, item :: rest =>
    if world.certain item.chance then item :: rest
    else
      let roll := world.sub roll item.chance
      if world.negative roll then item :: rest else afterMisses roll rest

/-- An entry that is rolled, and the possible drops without it. -/
structure Selection (Chance : Type) where
  item : LootStoreItem Chance
  explicitDrops : List (LootStoreItem Chance)
  equalDrops : List (LootStoreItem Chance)

/-- If no explicitly chanced entry is selected, an equal-chanced one is. -/
def select (rolls : Nat) (explicitDrops equalDrops : List (LootStoreItem Chance)) :
    Option (Selection Chance) :=
  match explicitDrops with
  | item :: rest => some ⟨item, rest, equalDrops⟩
  | [] =>
    let index := (world.irand rolls (equalDrops.length - 1)).val
    (equalDrops[index]?).map fun item => ⟨item, [], equalDrops.eraseIdx index⟩

theorem attempts_decreasing {maxAttempts attemptCount : UInt8} (hne : attemptCount ≠ maxAttempts) :
    (maxAttempts - (attemptCount + 1)).toNat < (maxAttempts - attemptCount).toNat := by
  have hne : attemptCount.toNat ≠ maxAttempts.toNat := fun heq => hne (UInt8.toNat_inj.mp heq)
  have hcount : attemptCount.toNat < 256 := attemptCount.toNat_lt
  have hmax : maxAttempts.toNat < 256 := maxAttempts.toNat_lt
  rw [UInt8.toNat_sub, UInt8.toNat_sub, UInt8.toNat_add]
  simp only [UInt8.toNat_one]
  omega

/-- The loop of `LootGroup::Process`: an entry of another mode is rolled again, a duplicate is not.
-/
def attempts (lootMode : UInt16) (maxAttempts : UInt8)
    (explicitDrops equalDrops : List (LootStoreItem Chance)) (attemptCount : UInt8) :
    DropCode Chance :=
  if explicitDrops.isEmpty && equalDrops.isEmpty then .done
  else if _hmax : attemptCount = maxAttempts then .done
  else
    .read fun drops =>
      let explicitDrops := afterMisses world (world.randChance drops.rolls) explicitDrops
      let attemptCount := attemptCount + 1
      match select world drops.rolls explicitDrops equalDrops with
      | none =>
        dropSeq world
          [.op .roll, attempts lootMode maxAttempts explicitDrops equalDrops attemptCount]
      | some selection =>
        if selection.item.lootmode &&& lootMode = 0 then
          dropSeq world
            [.op .roll, attempts lootMode maxAttempts explicitDrops equalDrops attemptCount]
        else if isDuplicate world drops.loot selection.item.itemId then
          dropSeq world
            [.op .roll, attempts lootMode maxAttempts selection.explicitDrops
              selection.equalDrops attemptCount]
        else dropSeq world [.op .roll, .op (.grouped selection.item)]
termination_by (maxAttempts - attemptCount).toNat
decreasing_by all_goals exact attempts_decreasing _hmax

variable (lootMode : UInt16)

/-- `LootGroup::Process`. -/
def LootTemplate.LootGroup.process (group : LootTemplate.LootGroup Chance) : DropCode Chance :=
  attempts world lootMode (.ofNat (group.explicitlyChanced.length + group.equalChanced.length))
    group.explicitlyChanced group.equalChanced 0

/-! ## Templates -/

/-- Where the search of `LootTemplate::Process` ends: its `continue`s only continue the search. -/
def searchEnd (inventoryType itemId : UInt32) : UInt8 → List LootItem → Nat
  | _, [] => 0
  | counter, item :: rest =>
    if item.itemId = itemId then
      let counter := counter + 1
      if inventoryType = 0 && counter = 3 then searchEnd inventoryType itemId counter rest + 1
      else if inventoryType ≠ 0 && counter = 1 then
        searchEnd inventoryType itemId counter rest + 1
      else searchEnd inventoryType itemId counter rest + 1
    else searchEnd inventoryType itemId counter rest + 1

/-- `LootStoreItem::Roll`. -/
def LootStoreItem.roll (rolls : Nat) (item : LootStoreItem Chance) : Bool :=
  world.certain item.chance || world.rollChance rolls item

def searchSkips (loot : Loot) (item : LootStoreItem Chance) : Bool :=
  !item.currency && (world.inventoryType item.itemId).any fun inventoryType =>
    searchEnd inventoryType item.itemId 0 loot.items ≠ loot.items.length

/-- One turn of the loop over the entries. -/
def processEntry (processReference : UInt8 → LootTemplate Chance → DropCode Chance)
    (item : LootStoreItem Chance) : DropCode Chance :=
  .read fun drops =>
    if item.lootmode &&& ~~~lootMode ≠ 0 then .done
    else if !item.roll world drops.rolls then .op .roll
    else if searchSkips world drops.loot item then .op .roll
    else if item.mincountOrRef < 0 && !item.currency then
      match world.reference (-item.mincountOrRef).toNat with
      | none => .op .roll
      | some referenced =>
        dropSeq world (.op .roll :: List.replicate (world.referencedAmount item.maxcount).toNat
          (processReference item.group referenced))
    else dropSeq world [.op .roll, .op (.plain item)]

/-- `LootTemplate::Process`; the fuel bounds how deep references are nested. -/
def LootTemplate.process (lootMode : UInt16) : Nat → UInt8 → LootTemplate Chance → DropCode Chance
  | 0, _, _ => .fail
  | fuel + 1, groupId, template =>
    if groupId ≠ 0 then
      match template.groups[groupId.toNat - 1]? with
      | none => .done
      | some group => group.process world lootMode
    else
      dropSeq world
        (template.entries.map (processEntry world lootMode (process lootMode fuel)) ++
          template.groups.map (LootTemplate.LootGroup.process world lootMode))

end MopServer.Loots
