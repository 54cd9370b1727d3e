import Mathlib.Algebra.Order.BigOperators.Group.List
import MopServer.Items.Inventory

/-! # How many new items an inventory takes

New items are put wherever they fit.  What is left when all searches have failed is what there is
no room for.
-/

namespace MopServer.Items

section

variable (env : Environment) (items : Place → Option Item) (proto : ItemTemplate)

/-- The room for new items in a slot: in a stack when merging, else in an empty slot. -/
def slotRoom (merge : Bool) (bag slot : UInt8) : Nat :=
  match getItemByPos env items bag slot, merge with
  | none, false => proto.getMaxStackSize
  | some held, true =>
    if canBeMergedPartlyWith held proto = .ok then proto.getMaxStackSize - held.count else 0
  | _, _ => 0

variable (bag : UInt8)

def fittingSlots : List UInt8 :=
  match getBagByPos env items bag with
  | none => []
  | some container =>
    if (env.getItemTemplate container.entry).any (itemCanGoIntoBag proto) then
      slotRange 0 (bagSize env container)
    else []

/-- The slots for new items: those of the backpack, and of the bags that take them. -/
def storageSlots : List (UInt8 × UInt8) :=
  (slotRange inventorySlotItem.1 inventorySlotItem.2).map (inventorySlotBag0, ·) ++
    (slotRange inventorySlotBag.1 inventorySlotBag.2).flatMap fun bag =>
      (fittingSlots env items proto bag).map (bag, ·)

def roomAt : Position → Nat
  | .bank _ _ => 0
  | .player bag slot =>
    slotRoom env items proto false bag slot + slotRoom env items proto true bag slot

def storagePositions : List Position :=
  (storageSlots env items proto).map fun pos => .player pos.1 pos.2

def totalRoom : Nat := ((storagePositions env items proto).map (roomAt env items proto)).sum

variable (slot : UInt8)

/-- Slots of the number that is named are left out in other bags. -/
def isSkipped : Position → Bool
  | .bank _ _ => false
  | .player other free => other ≠ bag && other ≠ inventorySlotBag0 && free = slot

def searchedPositions : List Position :=
  (storagePositions env items proto).filter fun position => !isSkipped bag slot position

def searchedRoom : Nat :=
  ((searchedPositions env items proto bag slot).map (roomAt env items proto)).sum

def categoryLimits : List (Nat × Nat) :=
  if proto.itemLimitCategory = 0 then []
  else
    match env.limitCategory proto.itemLimitCategory with
    | none => [(0, 0)]
    | some limit =>
      if limit.modeHave then
        [(getItemCountWithLimitCategory env items proto.itemLimitCategory none, limit.maxCount)]
      else []

/-- How many one has and may have of the items, for each limit on them. -/
def limits : List (Nat × Nat) :=
  if proto.maxCount = 2147483647 then []
  else
    (if 0 < proto.maxCount then
        [(getItemCount env items proto.itemId none, proto.maxCount.toNat)]
      else []) ++ categoryLimits env items proto

/-- How many of so many new items some limits leave room for. -/
def allowedBy (list : List (Nat × Nat)) (count : Nat) : Nat :=
  list.foldr (fun limit allowed => min (limit.2 - limit.1) allowed) count

/-- How many of so many new items the limits leave room for. -/
def allowedCount (count : Nat) : Nat := allowedBy (limits env items proto) count

/-- What `CanStoreItem` writes to `no_space_count`.  It writes nothing when all items can be stored,
or when a bag would go into a bag. -/
def noSpaceCount (player : UInt64) (bag slot : UInt8) (entry : UInt32) (count : Nat)
    (src : Option Item) (swap : Bool) : Option Nat :=
  match env.getItemTemplate entry with
  | none => some count
  | some proto =>
    if src.any Item.lootGenerated then some count
    else if src.any fun item => isBindedNotWith env item player then some count
    else
      let similar := canTakeMoreSimilarItems env items proto count src
      if similar.1 ≠ .ok ∧ count = similar.2 then some similar.2
      else
        let left := if similar.1 = .ok then count else (count + (2 ^ 32 - similar.2)) % 2 ^ 32
        let noSimilarCount := if similar.1 = .ok then 0 else similar.2
        let found := runSearches noSimilarCount (searches env items proto src swap bag slot)
          ⟨[], left⟩
        if found.1 = .ok ∨ found.1 = .bagInBag then none
        else some ((found.2.count + noSimilarCount) % 2 ^ 32)

end

section Slots

variable {env : Environment} {items : Place → Option Item} {proto : ItemTemplate}
  {bag slot : UInt8} {merge : Bool}

theorem roomAt_eq (hroom : 0 < slotRoom env items proto merge bag slot) :
    roomAt env items proto (.player bag slot) = slotRoom env items proto merge bag slot := by
  unfold roomAt slotRoom at *
  cases hheld : getItemByPos env items bag slot <;> cases merge <;> simp_all

theorem roomAt_of_none (hnone : getItemByPos env items bag slot = none) :
    roomAt env items proto (.player bag slot) = proto.getMaxStackSize := by
  unfold roomAt slotRoom
  dsimp only
  rw [hnone]
  rfl

theorem roomAt_of_some {held : Item} (hheld : getItemByPos env items bag slot = some held) :
    roomAt env items proto (.player bag slot) =
      if canBeMergedPartlyWith held proto = .ok then proto.getMaxStackSize - held.count else 0 := by
  unfold roomAt slotRoom
  dsimp only
  rw [hheld]
  exact Nat.zero_add _

theorem mem_storageSlots_iff :
    (bag, slot) ∈ storageSlots env items proto ↔
      (bag = inventorySlotBag0 ∧ slot ∈ slotRange inventorySlotItem.1 inventorySlotItem.2) ∨
        bag ∈ slotRange inventorySlotBag.1 inventorySlotBag.2 ∧
          slot ∈ fittingSlots env items proto bag := by
  unfold storageSlots
  rw [List.mem_append, List.mem_map, List.mem_flatMap]
  constructor
  · rintro (⟨other, hother, heq⟩ | ⟨other, hother, hslot⟩)
    · obtain ⟨rfl, rfl⟩ := Prod.mk.inj heq
      exact Or.inl ⟨rfl, hother⟩
    · obtain ⟨other', hother', heq⟩ := List.mem_map.mp hslot
      obtain ⟨rfl, rfl⟩ := Prod.mk.inj heq
      exact Or.inr ⟨hother, hother'⟩
  · rintro (⟨rfl, hslot⟩ | ⟨hbag, hslot⟩)
    · exact Or.inl ⟨slot, hslot, rfl⟩
    · exact Or.inr ⟨bag, hbag, List.mem_map_of_mem hslot⟩

theorem mem_searchedPositions {other free : UInt8}
    (hstored : (other, free) ∈ storageSlots env items proto)
    (hfree : other ≠ bag → other ≠ inventorySlotBag0 → free ≠ slot) :
    .player other free ∈ searchedPositions env items proto bag slot := by
  refine List.mem_filter.mpr ⟨List.mem_map.mpr ⟨(other, free), hstored, rfl⟩, ?_⟩
  unfold isSkipped
  by_cases hbag : other = bag
  · simp [hbag]
  · by_cases hown : other = inventorySlotBag0
    · simp [hown]
    · simp [hfree hbag hown]

theorem nodup_slotRange {first last : Nat} (hlast : last ≤ 256) : (slotRange first last).Nodup := by
  refine List.Nodup.map_on ?_ List.nodup_range'
  intro n hn m hm heq
  obtain ⟨i, hi, rfl⟩ := List.mem_range'.mp hn
  obtain ⟨j, hj, rfl⟩ := List.mem_range'.mp hm
  have hnat := congrArg UInt8.toNat heq
  rw [UInt8.toNat_ofNat', UInt8.toNat_ofNat'] at hnat
  omega

/-- Bags have at most this many slots: `MAX_BAG_SIZE`. -/
def maxBagSize : Nat := 36

theorem nodup_storagePositions
    (hbags : ∀ bag container, getBagByPos env items bag = some container →
      bagSize env container ≤ maxBagSize) :
    (storagePositions env items proto).Nodup := by
  have hfitting : ∀ bag, (fittingSlots env items proto bag).Nodup := by
    intro bag
    unfold fittingSlots
    cases hbag : getBagByPos env items bag with
    | none => exact List.nodup_nil
    | some container =>
      dsimp only
      split
      · exact nodup_slotRange ((hbags bag container hbag).trans (by decide))
      · exact List.nodup_nil
  have hslots : (storageSlots env items proto).Nodup := by
    refine List.nodup_append'.mpr ⟨?_, ?_, ?_⟩
    · exact (nodup_slotRange (by decide)).map fun _ _ heq => (Prod.mk.inj heq).2
    · refine List.nodup_flatMap.mpr ⟨?_, ?_⟩
      · intro bag _
        exact (hfitting bag).map fun _ _ heq => (Prod.mk.inj heq).2
      · refine (nodup_slotRange (by decide)).imp ?_
        intro first second hne pos hfirst hsecond
        obtain ⟨_, _, rfl⟩ := List.mem_map.mp hfirst
        obtain ⟨_, _, heq⟩ := List.mem_map.mp hsecond
        exact hne (Prod.mk.inj heq).1.symm
    · intro pos hown hbag
      obtain ⟨_, _, rfl⟩ := List.mem_map.mp hown
      obtain ⟨bag, hrange, hpos⟩ := List.mem_flatMap.mp hbag
      obtain ⟨_, _, heq⟩ := List.mem_map.mp hpos
      have hlt := toNat_lt_of_mem_slotRange hrange
      rw [(Prod.mk.inj heq).1] at hlt
      exact absurd hlt (by decide)
  refine hslots.map ?_
  rintro ⟨firstBag, firstSlot⟩ ⟨secondBag, secondSlot⟩ heq
  obtain ⟨hbag, hslot⟩ := Position.player.inj heq
  exact Prod.ext hbag hslot

end Slots

/-! ## The limits -/

section Limits

variable {env : Environment} {items : Place → Option Item} {proto : ItemTemplate} {count : Nat}
  {result : InventoryResult}

/-- Nobody has more than he may, no sum overflows, and the category of the items is known. -/
structure LimitsKept (env : Environment) (items : Place → Option Item) (proto : ItemTemplate)
    (count : Nat) : Prop where
  kept : ∀ limit ∈ limits env items proto, limit.1 ≤ limit.2
  small : ∀ limit ∈ limits env items proto, limit.1 + count < 2 ^ 32
  known : proto.itemLimitCategory ≠ 0 → env.limitCategory proto.itemLimitCategory = none →
    0 < count

variable (list : List (Nat × Nat))

/-- A limit that is exceeded leaves no more room than the ones after it. -/
def OrderedLimits (count : Nat) : Prop :=
  list.Pairwise fun first second =>
    count ≤ first.2 - first.1 ∨ first.2 - first.1 ≤ second.2 - second.1

/-- A limit that is exceeded leaves no more room than the ones checked after it. -/
def LimitsOrdered (env : Environment) (items : Place → Option Item) (proto : ItemTemplate)
    (count : Nat) : Prop := OrderedLimits (limits env items proto) count

/-- What a check of limits, one after the other, says about a number of items: all are allowed, or
how many are not. -/
structure Checks (list : List (Nat × Nat)) (count : Nat) (result : InventoryResult × Nat) :
    Prop where
  allowed : allowedBy list count = count → result = (.ok, 0)
  refused : allowedBy list count < count → result.1 ≠ .ok ∧
    (OrderedLimits list count → result.2 = count - allowedBy list count)

theorem allowedBy_le (count : Nat) : allowedBy list count ≤ count := by
  induction list with
  | nil => exact le_rfl
  | cons limit rest ih => exact (min_le_right _ _).trans ih

theorem le_allowedBy {list : List (Nat × Nat)} {least : Nat} (hcount : least ≤ count)
    (hlist : ∀ limit ∈ list, least ≤ limit.2 - limit.1) : least ≤ allowedBy list count := by
  induction list with
  | nil => exact hcount
  | cons limit rest ih =>
    exact le_min (hlist limit List.mem_cons_self)
      (ih fun other hother => hlist other (List.mem_cons_of_mem _ hother))

theorem checks_nil : Checks [] count (.ok, 0) where
  allowed _ := rfl
  refused hlt := absurd hlt (lt_irrefl count)

variable {limit : Nat × Nat}

/-- A limit that is not exceeded leaves the decision to the others. -/
theorem Checks.keep {rest : List (Nat × Nat)} {result : InventoryResult × Nat}
    (hchecks : Checks rest count result) (hkept : count ≤ limit.2 - limit.1) :
    Checks (limit :: rest) count result := by
  have hsame : allowedBy (limit :: rest) count = allowedBy rest count :=
    min_eq_right ((allowedBy_le rest count).trans hkept)
  refine ⟨?_, ?_⟩
  · rw [hsame]
    exact hchecks.allowed
  · rw [hsame]
    intro hlt
    obtain ⟨hresult, hcount⟩ := hchecks.refused hlt
    exact ⟨hresult, fun hordered => hcount (List.pairwise_cons.mp hordered).2⟩

theorem checks_exceeded (rest : List (Nat × Nat)) (hresult : result ≠ .ok)
    (hexceeded : limit.2 - limit.1 < count) :
    Checks (limit :: rest) count (result, count - (limit.2 - limit.1)) := by
  have hle : allowedBy (limit :: rest) count ≤ limit.2 - limit.1 := min_le_left _ _
  refine ⟨fun hall => ?_, fun _ => ⟨hresult, fun hordered => ?_⟩⟩
  · rw [hall] at hle
    exact absurd hle (Nat.not_le.mpr hexceeded)
  · -- The others leave room for at least as many.
    have hleast : limit.2 - limit.1 ≤ allowedBy rest count := by
      refine le_allowedBy hexceeded.le fun other hother => ?_
      rcases (List.pairwise_cons.mp hordered).1 other hother with hle | hle
      · exact absurd hle (Nat.not_le.mpr hexceeded)
      · exact hle
    have hsame : allowedBy (limit :: rest) count = limit.2 - limit.1 := min_eq_left hleast
    rw [hsame]

theorem checkLimit_eq {current limit : Nat} (hkept : current ≤ limit)
    (hsmall : current + count < 2 ^ 32) :
    checkLimit current count limit result =
      if limit - current < count then (result, count - (limit - current)) else (.ok, 0) := by
  unfold checkLimit
  rw [Nat.mod_eq_of_lt hsmall]
  split
  next hlimit =>
    rw [if_pos (by omega)]
    congr 1
    omega
  next hlimit => rw [if_neg (by omega)]

theorem checks_checkLimit {current limit : Nat} (hresult : result ≠ .ok) (hkept : current ≤ limit)
    (hsmall : current + count < 2 ^ 32) :
    Checks [(current, limit)] count (checkLimit current count limit result) := by
  rw [checkLimit_eq hkept hsmall]
  split
  next hexceeded => exact checks_exceeded [] hresult hexceeded
  next hfits => exact checks_nil.keep (Nat.le_of_not_lt hfits)

theorem checks_checkLimitCategory (hmax : proto.maxCount ≠ 2147483647)
    (hlimits : LimitsKept env items proto count) :
    Checks (categoryLimits env items proto) count
      (checkLimitCategory env items proto count none) := by
  have hmem : ∀ limit ∈ categoryLimits env items proto, limit ∈ limits env items proto := by
    intro limit hlimit
    unfold limits
    rw [if_neg hmax]
    exact List.mem_append_right _ hlimit
  unfold categoryLimits checkLimitCategory at *
  by_cases hcategory : proto.itemLimitCategory = 0
  · rw [if_pos hcategory, if_pos hcategory]
    exact checks_nil
  · rw [if_neg hcategory] at hmem ⊢
    rw [if_neg hcategory]
    cases hentry : env.limitCategory proto.itemLimitCategory with
    | none => exact checks_exceeded [] (by decide) (hlimits.known hcategory hentry)
    | some limit =>
      rw [hentry] at hmem
      dsimp only at hmem ⊢
      cases hmode : limit.modeHave with
      | false => exact checks_nil
      | true =>
        rw [hmode] at hmem
        have hlimit := hmem _ (List.mem_singleton_self _)
        exact checks_checkLimit (by decide) (hlimits.kept _ hlimit) (hlimits.small _ hlimit)

/-- `CanTakeMoreSimilarItems` checks all limits for new items. -/
theorem checks_canTakeMoreSimilarItems (hlimits : LimitsKept env items proto count) :
    Checks (limits env items proto) count
      (canTakeMoreSimilarItems env items proto count none) := by
  unfold canTakeMoreSimilarItems
  rw [if_neg (by simp)]
  by_cases hmax : proto.maxCount = 2147483647
  · rw [if_pos (Or.inr hmax)]
    unfold limits
    rw [if_pos hmax]
    exact checks_nil
  have hcategory := checks_checkLimitCategory hmax hlimits
  by_cases hnone : proto.maxCount ≤ 0 ∧ proto.itemLimitCategory = 0
  · rw [if_pos (Or.inl hnone)]
    unfold limits categoryLimits
    rw [if_neg hmax, if_neg (not_lt.mpr hnone.1), if_pos hnone.2]
    exact checks_nil
  · rw [if_neg (not_or.mpr ⟨hnone, hmax⟩)]
    by_cases hpos : 0 < proto.maxCount
    · have hlimit : (getItemCount env items proto.itemId none, proto.maxCount.toNat) ∈
          limits env items proto := by
        unfold limits
        rw [if_neg hmax, if_pos hpos]
        exact List.mem_append_left _ (List.mem_singleton_self _)
      have hcheck : checkMaxCount env items proto count none =
          checkLimit (getItemCount env items proto.itemId none) count proto.maxCount.toNat
            .itemMaxCount := if_pos hpos
      rw [hcheck, checkLimit_eq (hlimits.kept _ hlimit) (hlimits.small _ hlimit)]
      unfold limits
      rw [if_neg hmax, if_pos hpos]
      by_cases hexceeded : proto.maxCount.toNat - getItemCount env items proto.itemId none < count
      · simp only [if_pos hexceeded]
        rw [if_pos (by decide : InventoryResult.itemMaxCount ≠ .ok)]
        exact checks_exceeded _ (by decide) hexceeded
      · simp only [if_neg hexceeded]
        rw [if_neg (not_not.mpr rfl : ¬ InventoryResult.ok ≠ .ok)]
        have hfits : count ≤ ((getItemCount env items proto.itemId none, proto.maxCount.toNat) :
          Nat × Nat).2 - getItemCount env items proto.itemId none := Nat.le_of_not_lt hexceeded
        exact hcategory.keep hfits
    · have hcheck : checkMaxCount env items proto count none = (.ok, 0) := if_neg hpos
      rw [hcheck, if_neg (not_not.mpr rfl : ¬ InventoryResult.ok ≠ .ok)]
      unfold limits
      rw [if_neg hmax, if_neg hpos]
      exact hcategory

end Limits

end MopServer.Items
