import Mathlib.Algebra.Order.BigOperators.Group.List
import MopServer.Auctions.GoldConservation

/-! # Posting an auction

The stacks of a seller lie in the slots of his bags.  A request to sell either leaves his money
and his slots alone, or takes the deposit and the offered stacks.
-/

namespace MopServer.Auctions

open MopServer.Foundation

/-! ## Bags -/

/-- An item and where it lies. -/
structure StoredItem where
  bag : UInt8
  slot : UInt8
  item : Item
  deriving DecidableEq

instance : Keyed StoredItem UInt64 := ⟨fun stored => stored.item.guid⟩

variable (stored : StoredItem)

@[simp] theorem key_storedItem : Keyed.key stored = stored.item.guid := rfl

def StoredItem.position : UInt8 × UInt8 := (stored.bag, stored.slot)

def StoredItem.setCount (count : UInt32) (stored : StoredItem) : StoredItem :=
  { stored with item := { stored.item with count } }

/-- The items of a player, no two in one place. -/
structure Bags where
  stored : Table StoredItem
  apart : (stored.rows.map StoredItem.position).Nodup

namespace Bags

variable (bags : Bags)

/-- `Player::GetItemByGuid`. -/
def getItemByGuid (guid : UInt64) : Option Item := (bags.stored.get? guid).map StoredItem.item

/-- `Player::RemoveItem`. -/
def removeItem (position : UInt8 × UInt8) : Bags where
  stored := bags.stored.filter fun stored => stored.position ≠ position
  apart := bags.apart.sublist (List.filter_sublist.map StoredItem.position)

/-- `Player::MoveItemFromInventory` of the place where an item lies. -/
def moveItemFromInventory (item : Item) : Bags :=
  match bags.stored.get? item.guid with
  | none => bags
  | some stored => bags.removeItem stored.position

/-- `Item::SetCount`. -/
def setCount (item : Item) (count : UInt32) : Bags where
  stored := bags.stored.modify item.guid (StoredItem.setCount count)
  apart := by
    have hsame : (fun stored : StoredItem => (if stored.item.guid = item.guid then
        stored.setCount count else stored).position) = StoredItem.position := by
      funext stored
      split <;> rfl
    have hrows : (bags.stored.modify item.guid (StoredItem.setCount count)).rows.map
        StoredItem.position = bags.stored.rows.map StoredItem.position := by
      simp only [Table.modify, List.map_map, key_storedItem]
      exact congrArg (fun position => bags.stored.rows.map position) hsame
    exact hrows ▸ bags.apart

def total : Nat := bags.stored.sum fun stored => stored.item.count.toNat

end Bags

/-- `Item::CloneItem`, with what `Create` makes of the item's template. -/
def Item.cloneItem (create : Item → Option Item) (item : Item) (count : UInt32) : Option Item :=
  if count < 1 then none
  else (create item).map fun newItem =>
    { newItem with
      count := if count > item.maxStackCount then item.maxStackCount else count }

variable (env : Environment Bags)

def Environment.withBags (create : Item → Option Item) : Environment Bags :=
  { env with
    getItemByGuid := Bags.getItemByGuid
    moveItemFromInventory := Bags.moveItemFromInventory
    setCount := Bags.setCount
    cloneItem := Item.cloneItem create }

/-- A number of items has been taken out of bags and nothing else has been done to them. -/
structure Bags.Taken (before after : Bags) (count : Nat) : Prop where
  total : after.total + count = before.total
  stays : ∀ stored ∈ after.stored, ∃ old ∈ before.stored,
    stored = old.setCount stored.item.count ∧
      stored.item.count.toNat ≤ old.item.count.toNat

/-- A request ends with the seller as he was, or with a new auction: the seller has paid exactly
its deposit, and its items are those taken out of his bags. -/
def PostedAtomically (world : World Bags) (circumstances : Circumstances)
    (character : Character Bags) (request : SellRequest) : Prop :=
  ∃ after seller,
    handleAuctionSellItem env world circumstances character request = some after ∧
      after.characters.get? character.low = some seller ∧
      (after.auctions = world.auctions → seller = character) ∧
      (after.auctions ≠ world.auctions →
        ∃ auction, world.auctions.get? auction.id = none ∧
          after.auctions.get? auction.id = some auction ∧
          seller.money.toNat + auction.deposit.toNat = character.money.toNat ∧
          character.inventory.Taken seller.inventory auction.itemCount.toNat)

/-- The deposit of an offer is charged as it is; if the item cannot be made, nothing is. -/
def ChargedExactly (money : UInt64) (offer : Offer) : Prop :=
  if (offeredItem env offer).isSome then (offerDeposit env offer).toNat < 2 ^ 31
  else offerDeposit env offer = 0 ∨
    money.toNat = maxMoneyAmount ∧ 2 ^ 31 < (offerDeposit env offer).toNat

/-! ## Taking stacks out of bags -/

namespace Bags

variable {bags before middle after : Bags} {item : Item} {guid : UInt64}

theorem getItemByGuid_eq_some_iff :
    bags.getItemByGuid guid = some item ↔
      ∃ stored ∈ bags.stored, stored.item = item ∧ item.guid = guid := by
  simp only [getItemByGuid, Option.map_eq_some_iff, Table.get?_eq_some_iff, key_storedItem]
  constructor
  · rintro ⟨stored, ⟨hstored, hguid⟩, rfl⟩
    exact ⟨stored, hstored, rfl, hguid⟩
  · rintro ⟨stored, hstored, rfl, hguid⟩
    exact ⟨stored, ⟨hstored, hguid⟩, rfl⟩

theorem stored_moveItemFromInventory (bags : Bags) (item : Item) :
    (bags.moveItemFromInventory item).stored = bags.stored.erase item.guid := by
  unfold moveItemFromInventory
  cases hget : bags.stored.get? item.guid with
  | none => exact Table.eq_of_rows_eq (Table.erase_eq_self hget).symm
  | some stored =>
    obtain ⟨hstored, hguid⟩ := Table.get?_eq_some_iff.mp hget
    apply Table.eq_of_rows_eq
    apply List.filter_congr
    intro other hother
    have hiff : other.position = stored.position ↔ other.item.guid = item.guid := by
      constructor
      · intro hposition
        rw [List.inj_on_of_nodup_map bags.apart hother hstored hposition]
        exact hguid
      · intro hsame
        rw [Table.eq_of_key_eq hother hstored (hsame.trans hguid.symm)]
    simp only [ne_eq, hiff, key_storedItem]

theorem Taken.refl (bags : Bags) : bags.Taken bags 0 :=
  ⟨Nat.add_zero _, fun stored hstored => ⟨stored, hstored, rfl, le_rfl⟩⟩

theorem Taken.trans {first second : Nat} (hfirst : before.Taken middle first)
    (hsecond : middle.Taken after second) : before.Taken after (first + second) where
  total := by
    have htotal := hfirst.total
    have htotal' := hsecond.total
    omega
  stays stored hstored := by
    obtain ⟨old, hold, hsame, hle⟩ := hsecond.stays stored hstored
    obtain ⟨older, holder, hsame', hle'⟩ := hfirst.stays old hold
    refine ⟨older, holder, ?_, hle.trans hle'⟩
    rw [hsame, hsame']
    rfl

theorem taken_moveItemFromInventory (hitem : bags.getItemByGuid item.guid = some item) :
    bags.Taken (bags.moveItemFromInventory item) item.count.toNat := by
  obtain ⟨stored, hstored, rfl, -⟩ := getItemByGuid_eq_some_iff.mp hitem
  have hrows := stored_moveItemFromInventory bags stored.item
  constructor
  · unfold total
    rw [hrows]
    exact Table.sum_erase hstored fun stored => stored.item.count.toNat
  · intro other hother
    rw [hrows] at hother
    exact ⟨other, (Table.mem_erase.mp hother).1, rfl, le_rfl⟩

theorem taken_setCount (hitem : bags.getItemByGuid item.guid = some item) {count : UInt32}
    (hcount : count ≤ item.count) :
    bags.Taken (bags.setCount item (item.count - count)) count.toNat := by
  obtain ⟨stored, hstored, rfl, -⟩ := getItemByGuid_eq_some_iff.mp hitem
  have hle := UInt32.le_iff_toNat_le.mp hcount
  have hsub := UInt32.toNat_sub_of_le _ _ hcount
  constructor
  · have hsum := Table.sum_modify hstored (StoredItem.setCount (stored.item.count - count))
      (fun _ => rfl) fun stored => stored.item.count.toNat
    have hset : (stored.setCount (stored.item.count - count)).item.count =
        stored.item.count - count := rfl
    have htotal : (bags.setCount stored.item (stored.item.count - count)).total +
        stored.item.count.toNat = bags.total + (stored.item.count.toNat - count.toNat) := by
      rw [hset, hsub] at hsum
      exact hsum
    omega
  · intro other hother
    obtain ⟨old, hold, rfl⟩ := (Table.mem_modify
      (f := StoredItem.setCount (stored.item.count - count)) fun _ => rfl).mp hother
    refine ⟨old, hold, ?_⟩
    split
    next hguid =>
      obtain rfl : old = stored := Table.eq_of_key_eq hold hstored hguid
      have hset : (old.setCount (old.item.count - count)).item.count =
          old.item.count - count := rfl
      refine ⟨rfl, ?_⟩
      rw [hset, hsub]
      omega
    · exact ⟨rfl, le_rfl⟩

theorem getItemByGuid_moveItemFromInventory (hne : guid ≠ item.guid) :
    (bags.moveItemFromInventory item).getItemByGuid guid = bags.getItemByGuid guid := by
  unfold getItemByGuid
  rw [stored_moveItemFromInventory, Table.get?_erase_of_ne _ hne]

theorem getItemByGuid_setCount (count : UInt32) (hne : guid ≠ item.guid) :
    (bags.setCount item count).getItemByGuid guid = bags.getItemByGuid guid := by
  have hget := Table.get?_modify bags.stored item.guid guid (StoredItem.setCount count) fun _ => rfl
  rw [if_neg hne] at hget
  exact congrArg (Option.map StoredItem.item) hget

end Bags

variable {items : List (Item × UInt32)}

section Withdrawal

variable {env : Environment Bags} {create : Item → Option Item}

theorem taken_withdrawStacks {bags : Bags} (hdistinct : (items.map fun stack => stack.1.guid).Nodup)
    (hheld : ∀ stack ∈ items, bags.getItemByGuid stack.1.guid = some stack.1 ∧
      stack.2 ≤ stack.1.count) :
    bags.Taken (withdrawStacks (env.withBags create) bags items)
      (items.map fun stack => stack.2.toNat).sum := by
  induction items generalizing bags with
  | nil => exact Bags.Taken.refl bags
  | cons stack items ih =>
    obtain ⟨hfirst, hrest⟩ := List.nodup_cons.mp hdistinct
    obtain ⟨hitem, hcount⟩ := hheld stack List.mem_cons_self
    have hother : ∀ later ∈ items, later.1.guid ≠ stack.1.guid := fun later hlater heq =>
      hfirst (List.mem_map.mpr ⟨later, hlater, heq⟩)
    by_cases hwhole : stack.1.count = stack.2
    · have hheld' : ∀ later ∈ items,
          (bags.moveItemFromInventory stack.1).getItemByGuid later.1.guid = some later.1 ∧
            later.2 ≤ later.1.count := by
        intro later hlater
        rw [Bags.getItemByGuid_moveItemFromInventory (hother later hlater)]
        exact hheld later (List.mem_cons_of_mem stack hlater)
      have hstep : withdrawStacks (env.withBags create) bags (stack :: items) =
          withdrawStacks (env.withBags create) (bags.moveItemFromInventory stack.1) items := by
        simp only [withdrawStacks, List.foldl_cons, if_pos hwhole, Environment.withBags]
      rw [hstep, List.map_cons, List.sum_cons, ← hwhole]
      exact (Bags.taken_moveItemFromInventory hitem).trans (ih hrest hheld')
    · have hheld' : ∀ later ∈ items,
          (bags.setCount stack.1 (stack.1.count - stack.2)).getItemByGuid later.1.guid =
              some later.1 ∧ later.2 ≤ later.1.count := by
        intro later hlater
        rw [Bags.getItemByGuid_setCount _ (hother later hlater)]
        exact hheld later (List.mem_cons_of_mem stack hlater)
      have hstep : withdrawStacks (env.withBags create) bags (stack :: items) =
          withdrawStacks (env.withBags create)
            (bags.setCount stack.1 (stack.1.count - stack.2)) items := by
        simp only [withdrawStacks, List.foldl_cons, if_neg hwhole, Environment.withBags]
      rw [hstep, List.map_cons, List.sum_cons]
      exact (Bags.taken_setCount hitem hcount).trans (ih hrest hheld')

end Withdrawal

/-! ## What the checks say of an offer -/

section Checks

variable {Inventory : Type} {env : Environment Inventory} {world : World Inventory}
  {circumstances : Circumstances} {character : Character Inventory} {request : SellRequest}
  {offer : Offer}

/-- The stacks that have passed are those of the request, each with its item. -/
theorem checkStacks_spec {entry : Option UInt32} {wanted : List (UInt64 × UInt32)}
    (hcheck : checkStacks env world character entry wanted = some items) :
    List.Forall₂ (fun stack item => env.getItemByGuid character.inventory stack.1 = some item.1 ∧
      item.2 = stack.2 ∧ item.2 ≤ item.1.count) wanted items := by
  induction wanted generalizing entry items with
  | nil =>
    obtain rfl := Option.some.inj hcheck
    exact List.Forall₂.nil
  | cons stack wanted ih =>
    simp only [checkStacks, Option.bind_eq_bind, Option.bind_eq_some_iff,
      Option.some.injEq] at hcheck
    obtain ⟨item, hitem, rest, hrest, rfl⟩ := hcheck
    obtain ⟨hget, hpassed⟩ := Option.filter_eq_some_iff.mp hitem
    simp only [Bool.and_eq_true, decide_eq_true_eq] at hpassed
    exact List.Forall₂.cons ⟨hget, rfl, hpassed.2⟩ (ih hrest)

/-- What is known of an offer. -/
structure Offered (env : Environment Inventory) (character : Character Inventory)
    (request : SellRequest) (offer : Offer) : Prop where
  distinct : (request.items.map Prod.fst).Nodup
  small : ∀ stack ∈ request.items, stack.2 ≤ 1000
  held : List.Forall₂ (fun stack item =>
    env.getItemByGuid character.inventory stack.1 = some item.1 ∧ item.2 = stack.2 ∧
      item.2 ≤ item.1.count) request.items offer.items
  nonzero : finalCount offer.items ≠ 0
  first : (offer.items.head?.map Prod.fst) = some offer.item
  fits : ∀ stack ∈ offer.items, finalCount offer.items ≤ stack.1.maxStackCount

theorem offered_of_checkSellItem
    (hcheck : checkSellItem env world circumstances character request = some offer) :
    Offered env character request offer := by
  simp only [checkSellItem, Option.bind_eq_bind, Option.bind_eq_some_iff, Option.guard_eq_some',
    exists_const, Option.some.injEq] at hcheck
  obtain ⟨hdistinct, hall, -, auctioneer, -, entry, -, -, items, hitems, hnonzero, ⟨item, count⟩,
    hhead, -, hfits, rfl⟩ := hcheck
  refine ⟨hdistinct, ?_, checkStacks_spec hitems, hnonzero, by simp [hhead], ?_⟩
  · intro stack hstack
    have hstack' := List.all_eq_true.mp hall stack hstack
    simp only [decide_eq_true_eq] at hstack'
    exact hstack'.2.2
  · intro stack hstack
    have hstack' := List.all_eq_true.mp hfits stack hstack
    simpa using hstack'

theorem toNat_finalCount (hsum : (items.map fun stack => stack.2.toNat).sum < 2 ^ 32) :
    (finalCount items).toNat = (items.map fun stack => stack.2.toNat).sum := by
  induction items with
  | nil => rfl
  | cons stack items ih =>
    rw [List.map_cons, List.sum_cons] at hsum ⊢
    have hrest := ih (by omega)
    have hcons : finalCount (stack :: items) = stack.2 + finalCount items := rfl
    rw [hcons, UInt32.toNat_add, hrest, Nat.mod_eq_of_lt hsum]

theorem Offered.held_of_mem (hoffered : Offered env character request offer)
    {stack : Item × UInt32} (hstack : stack ∈ offer.items) :
    ∃ wanted ∈ request.items, env.getItemByGuid character.inventory wanted.1 = some stack.1 ∧
      stack.2 = wanted.2 ∧ stack.2 ≤ stack.1.count := by
  obtain ⟨i, hi, rfl⟩ := List.getElem_of_mem hstack
  have hlength := hoffered.held.length_eq
  have hwanted : i < request.items.length := by omega
  exact ⟨request.items[i], List.getElem_mem hwanted,
    (List.forall₂_iff_get.mp hoffered.held).2 i hwanted hi⟩

theorem Offered.count_eq (hoffered : Offered env character request offer)
    (hrequest : request.items.length < 32) :
    (finalCount offer.items).toNat = (offer.items.map fun stack => stack.2.toNat).sum := by
  have hlength := hoffered.held.length_eq
  have hsmall : ∀ count ∈ offer.items.map fun stack => stack.2.toNat, count ≤ 1000 := by
    intro count hcount
    obtain ⟨stack, hstack, rfl⟩ := List.mem_map.mp hcount
    obtain ⟨wanted, hwanted, -, hcount, -⟩ := hoffered.held_of_mem hstack
    rw [hcount]
    exact UInt32.le_iff_toNat_le.mp (hoffered.small wanted hwanted)
  have hsum := List.sum_le_card_nsmul _ _ hsmall
  rw [List.length_map, Nat.nsmul_eq_mul] at hsum
  exact toNat_finalCount (by omega)

end Checks

section Offers

variable {env : Environment Bags} {create : Item → Option Item}
  {character : Character Bags} {request : SellRequest} {offer : Offer} {item : Item}

theorem count_cloneItem {count : UInt32} {offered : Item}
    (hclone : item.cloneItem create count = some offered)
    (hfits : count ≤ item.maxStackCount) : offered.count = count := by
  unfold Item.cloneItem at hclone
  split at hclone
  · cases hclone
  · obtain ⟨newItem, -, rfl⟩ := Option.map_eq_some_iff.mp hclone
    exact if_neg (UInt32.not_lt.mpr hfits)

variable (hoffered : Offered (env.withBags create) character request offer)

include hoffered in
theorem count_offeredItem (hitem : offeredItem (env.withBags create) offer = some item) :
    item.count = finalCount offer.items := by
  have hfirst : ∃ stack ∈ offer.items, stack.1 = offer.item := by
    obtain ⟨stack, hhead, hstack⟩ := Option.map_eq_some_iff.mp hoffered.first
    exact ⟨stack, List.mem_of_head? hhead, hstack⟩
  obtain ⟨first, hmem, hitem'⟩ := hfirst
  have hfits := hoffered.fits first hmem
  unfold offeredItem at hitem
  split at hitem
  next single count hitems =>
    rw [hitems, List.mem_singleton] at hmem
    split at hitem
    next hwhole =>
      obtain rfl := Option.some.inj hitem
      rw [hitems, hwhole]
      exact (add_zero count).symm
    · rw [hmem] at hfits
      exact count_cloneItem hitem hfits
  · exact count_cloneItem hitem (hitem' ▸ hfits)

include hoffered in
theorem taken_of_offered (hrequest : request.items.length < 32) :
    character.inventory.Taken
      (withdrawStacks (env.withBags create) character.inventory offer.items)
      (finalCount offer.items).toNat := by
  rw [hoffered.count_eq hrequest]
  have hguids : ∀ stack ∈ offer.items,
      character.inventory.getItemByGuid stack.1.guid = some stack.1 ∧
        stack.2 ≤ stack.1.count := by
    intro stack hstack
    obtain ⟨wanted, -, hget, -, hcount⟩ := hoffered.held_of_mem hstack
    obtain ⟨stored, hstored, hitem, -⟩ := Bags.getItemByGuid_eq_some_iff.mp hget
    exact ⟨Bags.getItemByGuid_eq_some_iff.mpr ⟨stored, hstored, hitem, rfl⟩, hcount⟩
  apply taken_withdrawStacks _ hguids
  have hsame : offer.items.map (fun stack => stack.1.guid) = request.items.map Prod.fst := by
    apply Eq.symm
    rw [← List.forall₂_eq_eq_eq, List.forall₂_map_left_iff, List.forall₂_map_right_iff]
    apply hoffered.held.imp
    rintro wanted stack ⟨hget, -⟩
    obtain ⟨stored, -, -, hguid⟩ := Bags.getItemByGuid_eq_some_iff.mp hget
    exact hguid.symm
  rw [hsame]
  exact hoffered.distinct

end Offers

/-! ## What a sale leaves -/

section Sale

variable {env : Environment Bags} {world : World Bags}
  {circumstances : Circumstances} {character : Character Bags} {request : SellRequest}
  {offer : Offer} {item : Item} {time : Nat} {d : Int}
  (hcharacter : world.characters.get? character.low = some character)

include hcharacter in
/-- Only the seller's money may have changed. -/
theorem sold_of_none (hitem : offeredItem env offer = none) :
    (sold env world time character request offer d).auctions = world.auctions ∧
      (sold env world time character request offer d).characters.get? character.low =
        some { character with money := modifyMoney character.money d } := by
  have hget := get?_setMoney world character.low character.low (modifyMoney character.money d)
  rw [if_pos rfl, hcharacter] at hget
  unfold sold
  rw [hitem]
  exact ⟨rfl, hget⟩

include hcharacter in
/-- The auction is there, and the seller has paid and given his stacks. -/
theorem sold_of_some (hitem : offeredItem env offer = some item) :
    (sold env world time character request offer d).auctions =
        world.auctions.insert (newAuction env world time character.low request offer item)
          (Rearrangement.keep AuctionEntry) ∧
      (sold env world time character request offer d).characters.get? character.low =
        some { character with
          money := modifyMoney character.money d
          inventory := withdrawStacks env character.inventory offer.items } := by
  have hget := get?_setMoney world character.low character.low (modifyMoney character.money d)
  rw [if_pos rfl, hcharacter] at hget
  unfold sold
  rw [hitem]
  refine ⟨rfl, ?_⟩
  have hgiven := Table.get?_modify (world.setMoney character.low
    (modifyMoney character.money d)).characters character.low character.low
      (fun seller : Character Bags =>
        { seller with inventory := withdrawStacks env character.inventory offer.items })
      fun _ => rfl
  rw [if_pos rfl, hget] at hgiven
  exact hgiven

include hcharacter in
theorem postedAtomically_iff_of_none
    (hcheck : checkSellItem env world circumstances character request = some offer)
    (henough : hasEnoughMoney character.money (offerDeposit env offer).toUInt64 = true)
    (hitem : offeredItem env offer = none) :
    PostedAtomically env world circumstances character request ↔
      ∃ d, negSigned 32 (offerDeposit env offer).toNat = some d ∧
        modifyMoney character.money d = character.money := by
  unfold PostedAtomically
  rw [handleAuctionSellItem_eq hcheck henough]
  simp only [Option.map_eq_some_iff]
  constructor
  · rintro ⟨_, seller, ⟨d, hd, rfl⟩, hseller, hunchanged, -⟩
    obtain ⟨hauctions, hget⟩ := sold_of_none hcharacter hitem
    rw [hget, Option.some.injEq] at hseller
    exact ⟨d, hd, congrArg Character.money (hseller.trans (hunchanged hauctions))⟩
  · rintro ⟨d, hd, hsame⟩
    obtain ⟨hauctions, hget⟩ := sold_of_none hcharacter hitem
    refine ⟨_, _, ⟨d, hd, rfl⟩, hget, fun _ => ?_, fun hne => absurd hauctions hne⟩
    rw [hsame]

include hcharacter in
theorem postedAtomically_iff_of_some
    (hissued : ∀ auction ∈ world.auctions, auction.id < world.auctionId)
    (hcheck : checkSellItem env world circumstances character request = some offer)
    (henough : hasEnoughMoney character.money (offerDeposit env offer).toUInt64 = true)
    (hitem : offeredItem env offer = some item)
    (htaken : character.inventory.Taken (withdrawStacks env character.inventory offer.items)
      item.count.toNat) :
    PostedAtomically env world circumstances character request ↔
      ∃ d, negSigned 32 (offerDeposit env offer).toNat = some d ∧
        (modifyMoney character.money d).toNat + (offerDeposit env offer).toNat =
          character.money.toNat := by
  have hfresh : world.auctions.get? world.auctionId = none := by
    rw [Table.get?_eq_none_iff]
    intro auction hauction
    exact Nat.ne_of_lt (hissued auction hauction)
  let posted := newAuction env world circumstances.time character.low request offer item
  have hdeposit : posted.deposit.toNat = (offerDeposit env offer).toNat := UInt32.toNat_toUInt64 _
  have hadded : ∀ auctionId,
      (world.auctions.insert posted (Rearrangement.keep AuctionEntry)).get? auctionId =
        if auctionId = world.auctionId then some posted else world.auctions.get? auctionId :=
    Table.get?_insert world.auctions posted (Rearrangement.keep AuctionEntry)
  have hdiffer : world.auctions.insert posted (Rearrangement.keep AuctionEntry) ≠
      world.auctions := by
    intro hsame
    have hposted := hadded world.auctionId
    rw [hsame, hfresh, if_pos rfl] at hposted
    cases hposted
  unfold PostedAtomically
  rw [handleAuctionSellItem_eq hcheck henough]
  simp only [Option.map_eq_some_iff]
  constructor
  · rintro ⟨_, seller, ⟨d, hd, rfl⟩, hseller, -, hopened⟩
    obtain ⟨hauctions, hget⟩ := sold_of_some hcharacter hitem
    rw [hauctions] at hopened
    obtain ⟨auction, hnew, hauction, hpaid, -⟩ := hopened hdiffer
    rw [hadded] at hauction
    split at hauction
    · rw [← Option.some.inj hauction, hdeposit] at hpaid
      rw [hget, Option.some.injEq] at hseller
      rw [← hseller] at hpaid
      exact ⟨d, hd, hpaid⟩
    · rw [hnew] at hauction
      cases hauction
  · rintro ⟨d, hd, hexact⟩
    obtain ⟨hauctions, hget⟩ := sold_of_some hcharacter hitem
    refine ⟨_, _, ⟨d, hd, rfl⟩, hget, fun hsame => absurd (hauctions.symm.trans hsame) hdiffer,
      fun _ => ⟨posted, hfresh, ?_, ?_, htaken⟩⟩
    · rw [hauctions]
      exact (hadded world.auctionId).trans (if_pos rfl)
    · rw [hdeposit]
      exact hexact

end Sale

/-- A request to sell is atomic if and only if, whenever all checks have passed and the seller
can pay, the deposit is below the sign bit of a 32-bit number, or, if the item cannot be made,
there is nothing to pay or a credit to a full purse. -/
theorem postedAtomically_iff (env : Environment Bags) (create : Item → Option Item)
    {world : World Bags} {character : Character Bags}
    (hcharacter : world.characters.get? character.low = some character)
    (hmoney : character.money.toNat ≤ maxMoneyAmount)
    (hissued : ∀ auction ∈ world.auctions, auction.id < world.auctionId)
    (circumstances : Circumstances) {request : SellRequest}
    (hrequest : request.items.length < 32) :
    PostedAtomically (env.withBags create) world circumstances character request ↔
      ∀ offer,
        checkSellItem (env.withBags create) world circumstances character request = some offer →
        hasEnoughMoney character.money (offerDeposit (env.withBags create) offer).toUInt64 = true →
        ChargedExactly (env.withBags create) character.money offer := by
  have hrefused : handleAuctionSellItem (env.withBags create) world circumstances character
      request = some world →
        PostedAtomically (env.withBags create) world circumstances character request :=
    fun hsame => ⟨world, character, hsame, hcharacter, fun _ => rfl, fun hne => absurd rfl hne⟩
  cases hcheck : checkSellItem (env.withBags create) world circumstances character request with
  | none =>
    have hatomic := hrefused (by simp only [handleAuctionSellItem, hcheck])
    exact iff_of_true hatomic fun offer hoffer =>
      absurd hoffer (Option.some_ne_none offer).symm
  | some offer =>
    simp only [Option.some.injEq, forall_eq']
    cases henough : hasEnoughMoney character.money
        (offerDeposit (env.withBags create) offer).toUInt64 with
    | false =>
      have hatomic := hrefused (by
        simp only [handleAuctionSellItem, hcheck, henough, Bool.not_false, if_true])
      exact iff_of_true hatomic fun htrue => absurd htrue Bool.false_ne_true
    | true =>
      have hdeposit : (offerDeposit (env.withBags create) offer).toNat ≤
          character.money.toNat := by
        simpa [hasEnoughMoney, UInt64.le_iff_toNat_le] using henough
      have hoffered := offered_of_checkSellItem hcheck
      unfold ChargedExactly
      cases hitem : offeredItem (env.withBags create) offer with
      | none =>
        have hsame := modifyMoney_negSigned_32_eq_iff hmoney hdeposit
          (offerDeposit (env.withBags create) offer).toNat_lt
        rw [postedAtomically_iff_of_none hcharacter hcheck henough hitem, hsame, ← UInt32.toNat_inj]
        simp
      | some item =>
        have htaken := taken_of_offered hoffered hrequest
        rw [← count_offeredItem hoffered hitem] at htaken
        rw [postedAtomically_iff_of_some hcharacter hissued hcheck henough hitem htaken,
          modifyMoney_negSigned_32_exact_iff hmoney hdeposit]
        simp

/-! ## Selling the precious stack -/

def bagEnvironment : Environment Bags where
  gmLogTrade := false
  calculateDeposit := plainEnvironment.calculateDeposit
  calculateCut := plainEnvironment.calculateCut
  fivePercent := plainEnvironment.fivePercent
  auctionTime := id
  getItemByGuid := Bags.getItemByGuid
  hasItemCount bags entry count :=
    count.toNat ≤ ((bags.stored.filter fun stored => stored.item.entry = entry).sum fun stored =>
      stored.item.count.toNat)
  moveItemFromInventory := Bags.moveItemFromInventory
  setCount := Bags.setCount
  cloneItem := Item.cloneItem some

def stackSeller : Character Bags :=
  ⟨1, 10, true, 5000000000, ⟨⟨[⟨255, 23, preciousStack⟩], by decide⟩, by decide⟩⟩

def bagMarket : World Bags where
  characters := ⟨[stackSeller], by decide⟩
  auctions := Table.empty
  auctionItems := fun _ => none
  letters := []
  auctionId := 1

/-- Offer some of the stack for 48 hours. -/
def sellStack (count : UInt32) : SellRequest := ⟨100, 1000, 2880, [(7, count)]⟩

/-- One item is taken from the stack. -/
theorem postedAtomically_one :
    PostedAtomically (bagEnvironment.withBags some) bagMarket neutralHouse stackSeller
      (sellStack 1) := by
  have hseller : bagMarket.characters.get? stackSeller.low = some stackSeller := rfl
  refine (postedAtomically_iff bagEnvironment some hseller (by decide)
    (fun auction hauction => absurd hauction List.not_mem_nil) neutralHouse (by decide)).mpr ?_
  intro offer hoffer _
  have hcharged : ∀ offer ∈ checkSellItem (bagEnvironment.withBags some) bagMarket neutralHouse
      stackSeller (sellStack 1), (offeredItem (bagEnvironment.withBags some) offer).isSome = true ∧
        (offerDeposit (bagEnvironment.withBags some) offer).toNat < 2 ^ 31 := by
    decide +kernel
  obtain ⟨hitem, hdeposit⟩ := hcharged offer hoffer
  unfold ChargedExactly
  rw [if_pos hitem]
  exact hdeposit

/-- The deposit for all forty items is credited to the seller; and a seller whose item cannot be
made has paid for nothing. -/
theorem not_postedAtomically :
    ¬ PostedAtomically (bagEnvironment.withBags some) bagMarket neutralHouse stackSeller
        (sellStack 40) ∧
      ¬ PostedAtomically (bagEnvironment.withBags fun _ => none) bagMarket neutralHouse
        stackSeller (sellStack 1) := by
  constructor
  · rintro ⟨after, seller, hafter, hseller, hunchanged, hopened⟩
    have hmoney : (handleAuctionSellItem (bagEnvironment.withBags some) bagMarket neutralHouse
        stackSeller (sellStack 40)).map (fun after => (after.characters.get? stackSeller.low).map
          Character.money) = some (some 5694967296) := by
      decide +kernel
    rw [hafter, Option.map_some, hseller, Option.map_some, Option.some.injEq,
      Option.some.injEq] at hmoney
    by_cases hsame : after.auctions = bagMarket.auctions
    · rw [hunchanged hsame] at hmoney
      exact absurd hmoney (by decide)
    · obtain ⟨auction, -, -, hpaid, -⟩ := hopened hsame
      rw [hmoney] at hpaid
      have hbefore : stackSeller.money.toNat = 5000000000 := by decide
      have hcredited : (5694967296 : UInt64).toNat = 5694967296 := by decide
      omega
  · rintro ⟨after, seller, hafter, hseller, hunchanged, hopened⟩
    have hmoney : (handleAuctionSellItem (bagEnvironment.withBags fun _ => none) bagMarket
        neutralHouse stackSeller (sellStack 1)).map (fun after =>
          ((after.characters.get? stackSeller.low).map Character.money, after.auctions.rows)) =
            some (some 4910000000, []) := by
      decide +kernel
    rw [hafter, Option.map_some, hseller, Option.map_some, Option.some.injEq, Prod.mk.injEq,
      Option.some.injEq] at hmoney
    have hsame : after.auctions = bagMarket.auctions := Table.eq_of_rows_eq hmoney.2
    rw [hunchanged hsame] at hmoney
    exact absurd hmoney.1 (by decide)

end MopServer.Auctions
