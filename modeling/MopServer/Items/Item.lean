import MopServer.Entities.ObjectGuid
import MopServer.Foundation.Shelf

/-! # Items

Item templates, stacks of items, and where a stack can be.  A bag is a stack like any
other, and what it contains goes wherever the bag goes.
-/

namespace MopServer.Items

open MopServer.Foundation

/-- `ItemSubclassContainer`. -/
inductive ContainerSubclass where
  | container
  | soul
  | herb
  | enchanting
  | engineering
  | gem
  | mining
  | leatherworking
  | inscription
  | tackle
  | cooking
  deriving DecidableEq, Repr

/-- The subclasses of `ItemSubclassQuiver` that are in use. -/
inductive QuiverSubclass where
  | quiver
  | ammoPouch
  deriving DecidableEq, Repr

/-- The class of an item, as far as it decides what a bag takes. -/
inductive ItemClass where
  | container (subClass : ContainerSubclass)
  | quiver (subClass : QuiverSubclass)
  | other
  deriving DecidableEq, Repr

/-- `ItemBondingType`. -/
inductive Bonding where
  | noBind
  | whenPickedUp
  | whenEquiped
  | whenUse
  | questItem
  | questItem1
  deriving DecidableEq, Repr

structure ItemTemplate where
  itemId : UInt32
  itemClass : ItemClass
  bagFamily : UInt32
  /-- `InventoryType == INVTYPE_BAG`. -/
  isBag : Bool
  containerSlots : Nat
  stackable : Int
  maxCount : Int
  itemLimitCategory : UInt32
  bonding : Bonding
  bindToAccount : Bool
  gemProperties : UInt32
  socketColor : UInt32
  deriving DecidableEq, Repr

variable (proto : ItemTemplate)

/-- `GetMaxStackSize`. -/
def ItemTemplate.getMaxStackSize : Nat :=
  if proto.stackable = 2147483647 ∨ proto.stackable ≤ 0 then 0x7FFFFFFE
  else proto.stackable.toNat

/-- A row of `ItemLimitCategory.dbc`; in mode `have` it limits what one may own. -/
structure ItemLimitCategoryEntry where
  maxCount : Nat
  modeHave : Bool
  deriving DecidableEq, Repr

/-- A stack of items.  The guid stands for the object. -/
structure Item where
  guid : Nat
  entry : UInt32
  count : Nat
  soulBound : Bool
  bopTradeable : Bool
  allowedGuids : List UInt32
  lootGenerated : Bool
  ownerGuid : UInt64
  deriving DecidableEq, Repr

/-- Where a stack is: in a guild bank tab, in a slot of the player himself, or in a bag. -/
inductive Place where
  | bank (tab slot : UInt8)
  | own (slot : UInt8)
  | inBag (container : Nat) (slot : UInt8)
  deriving DecidableEq, Repr

/-- A position as clients name it; a bag of the player is named by the slot it is in. -/
inductive Position where
  | bank (tab slot : UInt8)
  | player (bag slot : UInt8)
  deriving DecidableEq, Repr

/-- What stands in the item stores, and what the rest of the server says about a player and
his items. -/
structure Environment where
  getItemTemplate : UInt32 → Option ItemTemplate
  /-- Templates are stored under their id. -/
  templateId : ∀ entry proto, getItemTemplate entry = some proto → proto.itemId = entry
  limitCategory : UInt32 → Option ItemLimitCategoryEntry
  gemCountWithId : Item → UInt32 → Nat
  /-- `CanUnequipItem`, the loot window and enchants that bind. -/
  canLeave : UInt8 → UInt8 → Item → Bool

section

variable (env : Environment)

def maxStackCount (entry : UInt32) : Nat :=
  ((env.getItemTemplate entry).map ItemTemplate.getMaxStackSize).getD 0

/-- `IsBag`. -/
def isBag (item : Item) : Bool := (env.getItemTemplate item.entry).any ItemTemplate.isBag

variable (item : Item)

/-- `GetBagSize`. -/
def bagSize : Nat :=
  ((env.getItemTemplate item.entry).map ItemTemplate.containerSlots).getD 0

/-- `IsBindedNotWith`. -/
def isBindedNotWith (player : UInt64) : Bool :=
  item.soulBound && item.ownerGuid ≠ player &&
    !(item.bopTradeable && item.allowedGuids.contains (guidLoPart player)) &&
    !(env.getItemTemplate item.entry).any ItemTemplate.bindToAccount

/-- `CloneItem`: a new object, of at most the largest stack. -/
def cloneItem (count guid : Nat) (owner : UInt64) : Item where
  guid := guid
  entry := item.entry
  count := min count (maxStackCount env item.entry)
  soulBound := item.soulBound
  bopTradeable := false
  allowedGuids := []
  lootGenerated := false
  ownerGuid := owner

end

/-- The bag family a special bag takes; any item goes into a plain container. -/
def bagMask : ItemClass → Option UInt32
  | .container .container => none
  | .container .soul => some 0x4
  | .container .herb => some 0x20
  | .container .enchanting => some 0x40
  | .container .mining => some 0x400
  | .container .engineering => some 0x80
  | .container .gem => some 0x200
  | .container .leatherworking => some 0x8
  | .container .inscription => some 0x10
  | .container .tackle => some 0x8000
  | .container .cooking => some 0x10000
  | .quiver .quiver => some 0x1
  | .quiver .ammoPouch => some 0x2
  | .other => some 0

/-- `ItemCanGoIntoBag`. -/
def itemCanGoIntoBag (bagProto : ItemTemplate) : Bool :=
  (bagMask bagProto.itemClass).all fun mask => proto.bagFamily &&& mask ≠ 0

/-- `InventoryResult`, as far as storing an item can return it. -/
inductive InventoryResult where
  | ok
  | itemMaxCount
  | lootGone
  | notEquippable
  | itemMaxLimitCategoryCountExceededIs
  | destroyNonemptyBag
  | wrongBagType
  | cantStack
  | itemNotFound
  | cantSwap
  | notOwner
  | bagInBag
  | invFull
  | dropBoundItem
  | bankFull
  deriving DecidableEq, Repr

/-- `CanBeMergedPartlyWith`. -/
def canBeMergedPartlyWith (item : Item) (proto : ItemTemplate) : InventoryResult :=
  if item.lootGenerated then .lootGone
  else if item.entry ≠ proto.itemId then .cantStack
  else if proto.getMaxStackSize ≤ item.count then .cantStack
  else .ok

/-! ## Reserving space -/

/-- `ItemPosCountVec` with the count that is still to be placed. -/
structure Reservation where
  dest : List (Position × Nat)
  count : Nat
  deriving DecidableEq, Repr

/-- Reserve at most some space at a position, unless it is reserved already. -/
def Reservation.reserve (reservation : Reservation) (position : Position) (space : Nat) :
    Reservation :=
  if position ∈ reservation.dest.map Prod.fst then reservation
  else
    let needed := min space reservation.count
    ⟨reservation.dest ++ [(position, needed)], reservation.count - needed⟩

/-- Visit slots in order until nothing is left to be placed; a slot may be of no use. -/
def searchSlots (visit : UInt8 → Reservation → Option Reservation) :
    List UInt8 → Reservation → Reservation
  | [], reservation => reservation
  | slot :: rest, reservation =>
    match visit slot reservation with
    | none => searchSlots visit rest reservation
    | some next => if next.count = 0 then next else searchSlots visit rest next

def slotRange (first last : Nat) : List UInt8 :=
  (List.range' first (last - first)).map UInt8.ofNat

/-- A position takes a number of items of a kind: it is in use, and empty or with a stack of
the same kind that has enough room. -/
def Takes (env : Environment) (inUse : Position → Prop) (view : Position → Option Item)
    (entry : UInt32) (position : Position) (count : Nat) : Prop :=
  inUse position ∧ match view position with
    | none => count ≤ maxStackCount env entry
    | some held => held.entry = entry ∧ held.count + count ≤ maxStackCount env entry

/-- The positions of a reservation are different, take what is reserved there, and together
with the rest make up what was asked for. -/
structure Reserved (env : Environment) (inUse : Position → Prop)
    (view : Position → Option Item) (entry : UInt32) (total : Nat) (reservation : Reservation) :
    Prop where
  nodup : (reservation.dest.map Prod.fst).Nodup
  takes : ∀ pos ∈ reservation.dest, Takes env inUse view entry pos.1 pos.2
  positive : ∀ pos ∈ reservation.dest, 0 < total → 0 < pos.2
  sum : (reservation.dest.map Prod.snd).sum + reservation.count = total

section

variable {env : Environment} {inUse : Position → Prop} {view : Position → Option Item}
  {entry : UInt32} {total : Nat} {position : Position} {reservation : Reservation}

theorem Takes.mono {count space : Nat} (htakes : Takes env inUse view entry position space)
    (hle : count ≤ space) : Takes env inUse view entry position count := by
  obtain ⟨huse, hroom⟩ := htakes
  refine ⟨huse, ?_⟩
  cases hheld : view position with
  | none =>
    rw [hheld] at hroom
    exact hle.trans hroom
  | some held =>
    rw [hheld] at hroom
    exact ⟨hroom.1, (Nat.add_le_add_left hle _).trans hroom.2⟩

theorem reserved_start (env : Environment) (inUse : Position → Prop)
    (view : Position → Option Item) (entry : UInt32) (total : Nat) :
    Reserved env inUse view entry total ⟨[], total⟩ where
  nodup := List.nodup_nil
  takes _ hpos := absurd hpos List.not_mem_nil
  positive _ hpos := absurd hpos List.not_mem_nil
  sum := Nat.zero_add _

/-- There is something left to be placed, or there never was. -/
def Reservation.Unfinished (reservation : Reservation) (total : Nat) : Prop :=
  0 < total → 0 < reservation.count

theorem Reserved.reserve (hreserved : Reserved env inUse view entry total reservation)
    (hleft : reservation.Unfinished total) {space : Nat} (hspace : 0 < space)
    (htakes : Takes env inUse view entry position space) :
    Reserved env inUse view entry total (reservation.reserve position space) := by
  unfold Reservation.reserve
  split
  · exact hreserved
  next hfresh =>
    refine ⟨?_, ?_, ?_, ?_⟩
    · simp only [List.map_append, List.map_cons, List.map_nil]
      exact List.nodup_append'.mpr ⟨hreserved.nodup, List.nodup_singleton _, by simpa using hfresh⟩
    · intro pos hpos
      rcases List.mem_append.mp hpos with hpos | hpos
      · exact hreserved.takes pos hpos
      · obtain rfl := List.mem_singleton.mp hpos
        exact htakes.mono (Nat.min_le_left _ _)
    · intro pos hpos htotal
      rcases List.mem_append.mp hpos with hpos | hpos
      · exact hreserved.positive pos hpos htotal
      · obtain rfl := List.mem_singleton.mp hpos
        have hcount := hleft htotal
        omega
    · have hsum := hreserved.sum
      simp only [List.map_append, List.map_cons, List.map_nil, List.sum_append, List.sum_singleton]
      omega

theorem Reserved.searchSlots {visit : UInt8 → Reservation → Option Reservation}
    (slots : List UInt8)
    (hvisit : ∀ slot ∈ slots, ∀ reservation next, visit slot reservation = some next →
      Reserved env inUse view entry total reservation → reservation.Unfinished total →
        Reserved env inUse view entry total next)
    (hreserved : Reserved env inUse view entry total reservation)
    (hleft : reservation.Unfinished total) :
    Reserved env inUse view entry total (searchSlots visit slots reservation) := by
  induction slots generalizing reservation with
  | nil => exact hreserved
  | cons slot rest ih =>
    have hrest := fun other hother => hvisit other (List.mem_cons_of_mem slot hother)
    unfold Items.searchSlots
    cases hnext : visit slot reservation with
    | none => exact ih hrest hreserved hleft
    | some next =>
      have hreserved' := hvisit slot List.mem_cons_self reservation next hnext hreserved hleft
      simp only
      split
      · exact hreserved'
      next hcount => exact ih hrest hreserved' fun _ => Nat.pos_of_ne_zero hcount

end

end MopServer.Items
