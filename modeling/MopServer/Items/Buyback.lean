import Mathlib.Data.UInt
import Mathlib.Logic.Function.Basic
import MopServer.Foundation.Run

/-! # Buying back from a vendor

The last items a player has sold are kept in twelve slots.  A cursor runs through them; once it
stands on a filled slot, the next item goes to the slot with the oldest time.
-/

namespace MopServer.Items

open MopServer.Foundation

/-- An item that is sold, with the price in its template. -/
structure SoldItem where
  guid : UInt64
  sellPrice : Option UInt32
  count : UInt32
  deriving DecidableEq, Repr

/-- `BUYBACK_SLOT_START`. -/
def buybackSlotStart : Nat := 74

/-- `BUYBACK_SLOT_END`. -/
def buybackSlotEnd : Nat := 86

/-- The slots of a player, with what the client is shown of them: guids, prices and times, which
are counted from the first slot. -/
structure BuybackSlots where
  items : Nat → Option SoldItem
  vendorBuybackSlot : Nat → UInt64
  buybackPrice : Nat → UInt32
  buybackTimestamp : Nat → UInt32
  currentBuybackSlot : Nat

namespace BuybackSlots

variable (slots : BuybackSlots) (slot : Nat)

def timestamp : UInt32 :=
  slots.buybackTimestamp (slot - buybackSlotStart)

/-- `RemoveItemFromBuyBackSlot`, with the item that is deleted. -/
def removeItemFromBuyBackSlot (del : Bool) : Option SoldItem × BuybackSlots :=
  if buybackSlotStart ≤ slot ∧ slot < buybackSlotEnd then
    let eslot := slot - buybackSlotStart
    let items := Function.update slots.items slot none
    (if del then slots.items slot else none,
      { items := items
        vendorBuybackSlot := Function.update slots.vendorBuybackSlot eslot 0
        buybackPrice := Function.update slots.buybackPrice eslot 0
        buybackTimestamp := Function.update slots.buybackTimestamp eslot 0
        -- a cursor on a filled slot goes to the one that is free now
        currentBuybackSlot :=
          if (items slots.currentBuybackSlot).isSome then slot
          else slots.currentBuybackSlot })
  else (none, slots)

/-- The search of `AddItemToBuyBackSlot` for an empty or the oldest slot, in as many slots as
are left.  An empty slot only ends it: `slot` is set to the oldest one behind the loop. -/
def findOldest (slots : BuybackSlots) (i : Nat) : Nat → Nat × UInt32 → Nat
  | 0, oldest => oldest.1
  | left + 1, oldest =>
    if slots.items i = none then oldest.1
    else
      slots.findOldest (i + 1) left
        (if slots.timestamp i < oldest.2 then (i, slots.timestamp i) else oldest)

def slotForItem : Nat :=
  if (slots.items slots.currentBuybackSlot).isSome then
    slots.findOldest (buybackSlotStart + 1) (buybackSlotEnd - (buybackSlotStart + 1))
      (buybackSlotStart, slots.timestamp buybackSlotStart)
  else slots.currentBuybackSlot

/-- The item is put into an empty slot, and the cursor moves on. -/
def storeItem (item : SoldItem) (etime : UInt32) : BuybackSlots :=
  let eslot := slot - buybackSlotStart
  { items := Function.update slots.items slot (some item)
    vendorBuybackSlot := Function.update slots.vendorBuybackSlot eslot item.guid
    buybackPrice := Function.update slots.buybackPrice eslot
      ((item.sellPrice.map fun price => price * item.count).getD 0)
    buybackTimestamp := Function.update slots.buybackTimestamp eslot etime
    currentBuybackSlot :=
      if slots.currentBuybackSlot < buybackSlotEnd - 1 then slots.currentBuybackSlot + 1
      else slots.currentBuybackSlot }

/-- `AddItemToBuyBackSlot` at a time since the login, with the item that is deleted. -/
def addItemToBuyBackSlot (item : Option SoldItem) (sinceLogin : Int) :
    Option SoldItem × BuybackSlots :=
  match item with
  | none => (none, slots)
  | some item =>
    let slot := slots.slotForItem
    let removed := slots.removeItemFromBuyBackSlot slot true
    (removed.1,
      removed.2.storeItem slot item (UInt32.ofInt (sinceLogin + 30 * 3600)))

end BuybackSlots

/-- What is done with the slots. -/
inductive BuybackEvent where
  | add (item : Option SoldItem) (sinceLogin : Int)
  | remove (slot : Nat) (del : Bool)

namespace BuybackSlots

variable (slots : BuybackSlots)

def step : BuybackEvent → BuybackSlots
  | .add item sinceLogin => (slots.addItemToBuyBackSlot item sinceLogin).2
  | .remove slot del => (slots.removeItemFromBuyBackSlot slot del).2

/-- The slots of a player who has just logged in. -/
def empty : BuybackSlots :=
  ⟨fun _ => none, fun _ => 0, fun _ => 0, fun _ => 0, buybackSlotStart⟩

/-- A slot in the range of the buyback slots. -/
def IsSlot (slot : Nat) : Prop := buybackSlotStart ≤ slot ∧ slot < buybackSlotEnd

instance : DecidablePred IsSlot :=
  fun slot => inferInstanceAs (Decidable (buybackSlotStart ≤ slot ∧ slot < buybackSlotEnd))

/-- All slots are taken. -/
def Full : Prop :=
  ∀ slot, IsSlot slot → (slots.items slot).isSome = true

/-- An item is deleted only from full slots, and it is one of the oldest. -/
def DeletesOldest (deleted : Option SoldItem) : Prop :=
  ∀ item, deleted = some item →
    slots.Full ∧ ∃ slot, IsSlot slot ∧ slots.items slot = some item ∧
      ∀ other, IsSlot other → slots.timestamp slot ≤ slots.timestamp other

/-- The cursor stays in range, and a new item deletes nothing but one of the oldest when all
slots are taken. -/
def KeepsWhatItCan (event : BuybackEvent) : Prop :=
  IsSlot (slots.step event).currentBuybackSlot ∧
    match event with
    | .add item sinceLogin =>
      slots.DeletesOldest (slots.addItemToBuyBackSlot item sinceLogin).1
    | .remove _ _ => True

/-- The cursor or the first slot is free when an item comes, or none is. -/
def Sparing : BuybackEvent → Prop
  | .add (some _) _ =>
    slots.items slots.currentBuybackSlot = none ∨ slots.items buybackSlotStart = none ∨
      slots.Full
  | _ => True

/-- The cursor is in range, and empty slots have no time. -/
structure Regular (slots : BuybackSlots) : Prop where
  cursor : IsSlot slots.currentBuybackSlot
  timeless : ∀ slot, IsSlot slot → slots.items slot = none → slots.timestamp slot = 0

section

variable {slots : BuybackSlots} {slot : Nat}

theorem isSlot_start : IsSlot buybackSlotStart := by decide

/-! ## The search -/

/-- The search ends at the slot it started with or at a taken one that is left. -/
theorem findOldest_cases (slots : BuybackSlots) (i left : Nat) (oldest : Nat × UInt32) :
    slots.findOldest i left oldest = oldest.1 ∨
      i ≤ slots.findOldest i left oldest ∧ slots.findOldest i left oldest < i + left ∧
        (slots.items (slots.findOldest i left oldest)).isSome = true := by
  induction left generalizing i oldest with
  | zero => exact Or.inl rfl
  | succ left ih =>
    unfold findOldest
    split
    · exact Or.inl rfl
    next htaken =>
      split
      · rcases ih (i + 1) (i, slots.timestamp i) with heq | ⟨hlower, hupper, hsome⟩
        · rw [heq]
          exact Or.inr ⟨le_refl i, by omega, Option.isSome_iff_ne_none.mpr htaken⟩
        · exact Or.inr ⟨by omega, by omega, hsome⟩
      · rcases ih (i + 1) oldest with heq | ⟨hlower, hupper, hsome⟩
        · exact Or.inl heq
        · exact Or.inr ⟨by omega, by omega, hsome⟩

/-- Nothing is older than a slot without a time. -/
theorem findOldest_zero (slots : BuybackSlots) (i left start : Nat) :
    slots.findOldest i left (start, 0) = start := by
  induction left generalizing i with
  | zero => rfl
  | succ left ih =>
    unfold findOldest
    split
    · rfl
    · rw [if_neg (UInt32.not_lt.mpr (UInt32.zero_le : 0 ≤ slots.timestamp i))]
      exact ih (i + 1)

theorem findOldest_le (slots : BuybackSlots) (i left start : Nat)
    (hfull : ∀ j, i ≤ j → j < i + left → (slots.items j).isSome = true) :
    let found := slots.findOldest i left (start, slots.timestamp start)
    slots.timestamp found ≤ slots.timestamp start ∧
      ∀ j, i ≤ j → j < i + left → slots.timestamp found ≤ slots.timestamp j := by
  induction left generalizing i start with
  | zero => exact ⟨UInt32.le_refl _, fun j hlower hupper => by omega⟩
  | succ left ih =>
    have htaken : slots.items i ≠ none :=
      Option.isSome_iff_ne_none.mp (hfull i (le_refl i) (by omega))
    have hrest : ∀ j, i + 1 ≤ j → j < i + 1 + left → (slots.items j).isSome = true :=
      fun j hlower hupper => hfull j (by omega) (by omega)
    unfold findOldest
    rw [if_neg htaken]
    split
    next holder =>
      obtain ⟨hhere, hothers⟩ := ih (i + 1) i hrest
      refine ⟨UInt32.le_trans hhere (UInt32.le_of_lt holder), fun j hlower hupper => ?_⟩
      rcases Nat.eq_or_lt_of_le hlower with rfl | hgreater
      · exact hhere
      · exact hothers j hgreater (by omega)
    next hnewer =>
      obtain ⟨hstart, hothers⟩ := ih (i + 1) start hrest
      refine ⟨hstart, fun j hlower hupper => ?_⟩
      rcases Nat.eq_or_lt_of_le hlower with rfl | hgreater
      · exact UInt32.le_trans hstart (UInt32.not_lt.mp hnewer)
      · exact hothers j hgreater (by omega)

/-! ## The slot of a new item -/

variable (hregular : slots.Regular)

include hregular in
theorem slotForItem_isSlot : IsSlot slots.slotForItem := by
  unfold slotForItem
  split
  · rcases findOldest_cases slots (buybackSlotStart + 1)
      (buybackSlotEnd - (buybackSlotStart + 1))
      (buybackSlotStart, slots.timestamp buybackSlotStart) with heq | ⟨hlower, hupper, -⟩
    · rw [heq]
      exact isSlot_start
    · refine ⟨by omega, ?_⟩
      omega
  · exact hregular.cursor

include hregular in
theorem slotForItem_free
    (hfree : slots.items slots.currentBuybackSlot = none ∨ slots.items buybackSlotStart = none) :
    slots.items slots.slotForItem = none := by
  unfold slotForItem
  split
  next htaken =>
    have hfirst : slots.items buybackSlotStart = none :=
      hfree.resolve_left (Option.isSome_iff_ne_none.mp htaken)
    rw [hregular.timeless _ isSlot_start hfirst, findOldest_zero]
    exact hfirst
  next hempty => exact Option.not_isSome_iff_eq_none.mp hempty

/-- Otherwise it takes the place of an item. -/
theorem slotForItem_taken
    (hcursor : (slots.items slots.currentBuybackSlot).isSome = true)
    (hfirst : (slots.items buybackSlotStart).isSome = true) :
    (slots.items slots.slotForItem).isSome = true := by
  unfold slotForItem
  rw [if_pos hcursor]
  rcases findOldest_cases slots (buybackSlotStart + 1)
    (buybackSlotEnd - (buybackSlotStart + 1))
    (buybackSlotStart, slots.timestamp buybackSlotStart) with heq | ⟨-, -, hsome⟩
  · rw [heq]
    exact hfirst
  · exact hsome

include hregular in
theorem slotForItem_oldest (hfull : slots.Full) :
    ∀ other, IsSlot other → slots.timestamp slots.slotForItem ≤ slots.timestamp other := by
  have hend : buybackSlotStart + 1 + (buybackSlotEnd - (buybackSlotStart + 1)) =
      buybackSlotEnd := by decide
  obtain ⟨hfirst, hothers⟩ := findOldest_le slots (buybackSlotStart + 1)
    (buybackSlotEnd - (buybackSlotStart + 1)) buybackSlotStart
    fun j hlower hupper => hfull j ⟨by omega, hend ▸ hupper⟩
  unfold slotForItem
  rw [if_pos (hfull _ hregular.cursor)]
  rintro other ⟨hlower, hupper⟩
  rcases Nat.eq_or_lt_of_le hlower with rfl | hgreater
  · exact hfirst
  · exact hothers other hgreater (hend.symm ▸ hupper)

/-! ## The operations -/

theorem removeItemFromBuyBackSlot_fst (hslot : IsSlot slot) :
    (slots.removeItemFromBuyBackSlot slot true).1 = slots.items slot := by
  have hin : buybackSlotStart ≤ slot ∧ slot < buybackSlotEnd := hslot
  unfold removeItemFromBuyBackSlot
  rw [if_pos hin]
  rfl

/-- The times of two slots are apart. -/
theorem timestamp_update {buybackTimestamp : Nat → UInt32} {other : Nat} (time : UInt32)
    (hslot : IsSlot slot) (hother : IsSlot other) :
    Function.update buybackTimestamp (slot - buybackSlotStart) time
        (other - buybackSlotStart) =
      if other = slot then time else buybackTimestamp (other - buybackSlotStart) := by
  obtain ⟨hslotLower, -⟩ := hslot
  obtain ⟨hotherLower, -⟩ := hother
  rw [Function.update_apply]
  by_cases heq : other = slot
  · rw [if_pos heq, if_pos (by rw [heq])]
  · rw [if_neg heq, if_neg (by omega)]

include hregular in
theorem Regular.remove (slot : Nat) (del : Bool) :
    (slots.removeItemFromBuyBackSlot slot del).2.Regular := by
  unfold removeItemFromBuyBackSlot
  split
  next hslot =>
    refine ⟨?_, fun other hother hempty => ?_⟩
    · dsimp only
      split
      · exact hslot
      · exact hregular.cursor
    · unfold timestamp
      dsimp only at hempty ⊢
      rw [timestamp_update 0 hslot hother]
      rw [Function.update_apply] at hempty
      split
      · rfl
      next hne =>
        rw [if_neg hne] at hempty
        exact hregular.timeless other hother hempty
  · exact hregular

include hregular in
theorem Regular.store (hslot : IsSlot slot) (item : SoldItem) (etime : UInt32) :
    (slots.storeItem slot item etime).Regular := by
  refine ⟨?_, fun other hother hempty => ?_⟩
  · obtain ⟨hlower, hupper⟩ := hregular.cursor
    unfold storeItem
    dsimp only
    split
    next hroom => exact ⟨by omega, by omega⟩
    · exact ⟨hlower, hupper⟩
  · unfold storeItem at hempty ⊢
    unfold timestamp
    dsimp only at hempty ⊢
    rw [timestamp_update etime hslot hother]
    rw [Function.update_apply] at hempty
    split
    next heq =>
      rw [if_pos heq] at hempty
      cases hempty
    next hne =>
      rw [if_neg hne] at hempty
      exact hregular.timeless other hother hempty

variable (event : BuybackEvent)

include hregular in
/-- Every event keeps the cursor in range and clears the times of empty slots. -/
theorem Regular.step : (slots.step event).Regular := by
  cases event with
  | add item sinceLogin =>
    cases item with
    | none => exact hregular
    | some item =>
      exact (hregular.remove slots.slotForItem true).store (slotForItem_isSlot hregular) item _
  | remove slot del => exact hregular.remove slot del

include hregular in
theorem addItemToBuyBackSlot_fst (item : SoldItem) (sinceLogin : Int) :
    (slots.addItemToBuyBackSlot (some item) sinceLogin).1 = slots.items slots.slotForItem :=
  removeItemFromBuyBackSlot_fst (slotForItem_isSlot hregular)

include hregular in
/-- An item is kept if it can be, exactly if the cursor or the first slot is free when an item
comes, or none is. -/
theorem keepsWhatItCan_iff : slots.KeepsWhatItCan event ↔ slots.Sparing event := by
  unfold KeepsWhatItCan
  rw [and_iff_right (hregular.step event).cursor]
  match event with
  | .remove slot del => exact Iff.rfl
  | .add none sinceLogin => exact iff_of_true (fun item hitem => nomatch hitem) trivial
  | .add (some item) sinceLogin =>
    dsimp only [Sparing]
    rw [addItemToBuyBackSlot_fst hregular]
    constructor
    · intro holdest
      by_cases hcursor : slots.items slots.currentBuybackSlot = none
      · exact Or.inl hcursor
      by_cases hfirst : slots.items buybackSlotStart = none
      · exact Or.inr (Or.inl hfirst)
      · obtain ⟨deleted, hdeleted⟩ := Option.isSome_iff_exists.mp (slotForItem_taken
          (Option.isSome_iff_ne_none.mpr hcursor) (Option.isSome_iff_ne_none.mpr hfirst))
        exact Or.inr (Or.inr (holdest deleted hdeleted).1)
    · intro hsparing deleted hdeleted
      have hfull : slots.Full := by
        by_contra hnotFull
        have hfree := slotForItem_free hregular
          (hsparing.imp_right fun hrest => hrest.resolve_right hnotFull)
        rw [hfree] at hdeleted
        cases hdeleted
      exact ⟨hfull, slots.slotForItem, slotForItem_isSlot hregular, hdeleted,
        slotForItem_oldest hregular hfull⟩

theorem regular_empty : empty.Regular := ⟨isSlot_start, fun _ _ _ => rfl⟩

/-- Along a run the slots keep what they can exactly if, whenever an item comes, the cursor or
the first slot is free or none is. -/
theorem empty_keepsWhatItCan_iff (events : List BuybackEvent) :
    Along step KeepsWhatItCan empty events ↔ Along step Sparing empty events :=
  along_iff_of_invariant step Regular (fun _ event hregular _ => hregular.step event)
    (fun _ event hregular => keepsWhatItCan_iff hregular event) empty events regular_empty

/-- In every run the cursor is in range, and an empty slot has no time. -/
theorem regular_foldl (events : List BuybackEvent) : (events.foldl step empty).Regular :=
  invariant_of_along step Regular (fun _ _ => True) (fun _ event hregular _ => hregular.step event)
    empty events regular_empty (along_of_forall step (fun _ _ => trivial) empty events) _
    (foldl_mem_visited step empty events)

end

def sold (guid : UInt64) : SoldItem := ⟨guid, some 1, 1⟩

/-- A free second slot does not save the item in the first one. -/
theorem not_empty_keepsWhatItCan :
    ¬ ∀ events : List BuybackEvent, Along step KeepsWhatItCan empty events := by
  intro hall
  -- three items are sold, the second is bought back, then all slots behind it are filled
  have hrun := hall ([.add (some (sold 1)) 1, .add (some (sold 2)) 2, .add (some (sold 3)) 3,
    .remove 75 false] ++ (List.range 9).map (fun i => .add (some (sold 4)) (i + 4)) ++
    [.add (some (sold 5)) 20])
  obtain ⟨⟨-, hlast⟩, -⟩ := ((along_append step _ _ _ _).mp hrun).2
  obtain ⟨hfull, -⟩ := hlast (sold 1) (by decide +kernel)
  exact absurd (hfull 75 (by decide)) (by decide +kernel)

end BuybackSlots

end MopServer.Items
