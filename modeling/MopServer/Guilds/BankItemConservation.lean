import MopServer.Guilds.BankItems

/-! # The guild bank conserves items

Whatever a member asks for at the bank, there are as many items of every kind as before, and all
stacks stay within bounds.  If the request is refused, nothing has been touched.
-/

namespace MopServer.Guilds

open MopServer.Items

/-! ## Plans for a tab -/

variable (visitor : BankVisitor)

def InBank : Position → Prop
  | .bank tab slot => visitor.hasSlot tab slot = true
  | .player _ _ => False

/-- What the searches in the bank see. -/
def bankView (items : Place → Option Item) (item : Item) : Position → Option Item
  | .bank tab slot => othersInBank visitor items item tab slot
  | .player _ _ => none

section Searching

variable {env : Environment} {visitor : BankVisitor} {items : Place → Option Item} {item : Item}
  {tab slot : UInt8} {total : Nat} {reservation next : Reservation} {dest : List (Position × Nat)}

theorem hasSlot_iff : visitor.hasSlot tab slot = true ↔
    tab < visitor.purchasedTabs ∧ slot.toNat < guildBankMaxSlots := by
  simp [BankVisitor.hasSlot]

theorem getBankItem_eq_some {held : Item}
    (hheld : getBankItem visitor items tab slot = some held) :
    visitor.hasSlot tab slot = true ∧ items (.bank tab slot) = some held := by
  unfold getBankItem at hheld
  split at hheld
  next hslot => exact ⟨hslot, hheld⟩
  · cases hheld

theorem getBankItem_of_hasSlot (hslot : visitor.hasSlot tab slot = true) :
    getBankItem visitor items tab slot = items (.bank tab slot) := if_pos hslot

theorem reserved_reserveSpace (hmax : 0 < maxStackCount env item.entry)
    (hslot : visitor.hasSlot tab slot = true)
    (hnext : reserveSpace env tab slot item (othersInBank visitor items item tab slot)
      reservation = some next)
    (hreserved : Reserved env (InBank visitor) (bankView visitor items item) item.entry total
      reservation)
    (hleft : reservation.Unfinished total) :
    Reserved env (InBank visitor) (bankView visitor items item) item.entry total next := by
  have hview : bankView visitor items item (.bank tab slot) =
    othersInBank visitor items item tab slot := rfl
  unfold reserveSpace at hnext
  cases hheld : othersInBank visitor items item tab slot with
  | none =>
    rw [hheld] at hnext hview
    obtain rfl := Option.some.inj hnext
    refine hreserved.reserve hleft hmax ⟨hslot, ?_⟩
    rw [hview]
  | some held =>
    rw [hheld] at hnext hview
    dsimp only at hnext
    split at hnext
    · cases hnext
    next hroom =>
      obtain ⟨hentry, hcount⟩ := not_or.mp hroom
      obtain rfl := Option.some.inj hnext
      refine hreserved.reserve hleft (by omega) ⟨hslot, ?_⟩
      rw [hview]
      exact ⟨not_not.mp hentry, by omega⟩

theorem reserved_canStoreItemInTab (skipSlot : UInt8) (merge : Bool)
    (hmax : 0 < maxStackCount env item.entry) (htab : tab < visitor.purchasedTabs)
    (hreserved : Reserved env (InBank visitor) (bankView visitor items item) item.entry total
      reservation) :
    Reserved env (InBank visitor) (bankView visitor items item) item.entry total
      (canStoreItemInTab env visitor items item tab skipSlot merge reservation) := by
  unfold canStoreItemInTab
  split
  · exact hreserved
  next hcount =>
    refine hreserved.searchSlots _ ?_ fun _ => Nat.pos_of_ne_zero hcount
    intro slot hslot reservation next hnext hreserved hleft
    unfold visitBankSlot at hnext
    dsimp only at hnext
    split at hnext
    · cases hnext
    split at hnext
    · cases hnext
    · exact reserved_reserveSpace hmax (hasSlot_iff.mpr ⟨htab, toNat_lt_of_mem_slotRange hslot⟩)
        hnext hreserved hleft

/-- The parts of a check that has been passed. -/
theorem canStoreInBank_cases {swap : Bool}
    (hok : canStoreInBank env visitor items item tab slot swap = .ok dest) :
    tab < visitor.purchasedTabs ∧
      ∃ named merged, reserveNamedSlot env visitor items item tab slot swap = some named ∧
        (merged = named ∨ merged = canStoreItemInTab env visitor items item tab slot true named) ∧
        (canStoreItemInTab env visitor items item tab slot false merged).count = 0 ∧
        dest = (canStoreItemInTab env visitor items item tab slot false merged).dest := by
  unfold canStoreInBank at hok
  split at hok
  · cases hok
  split at hok
  · cases hok
  next htab =>
    refine ⟨UInt8.not_le.mp htab, ?_⟩
    cases hnamed : reserveNamedSlot env visitor items item tab slot swap with
    | none =>
      rw [hnamed] at hok
      cases hok
    | some named =>
      rw [hnamed] at hok
      dsimp only at hok
      have hmerged : (if 1 < maxStackCount env item.entry then
          canStoreItemInTab env visitor items item tab slot true named else named) = named ∨
        (if 1 < maxStackCount env item.entry then
          canStoreItemInTab env visitor items item tab slot true named else named) =
            canStoreItemInTab env visitor items item tab slot true named :=
        (ite_eq_or_eq _ _ _).symm
      generalize (if 1 < maxStackCount env item.entry then
        canStoreItemInTab env visitor items item tab slot true named else named) = merged at *
      split at hok
      next hcount => exact ⟨named, merged, rfl, hmerged, hcount, (Except.ok.inj hok).symm⟩
      · cases hok

/-- The positions the bank returns take everything that is to be stored. -/
theorem reserved_of_canStoreInBank (hmax : 0 < maxStackCount env item.entry)
    (hslot : slot.toNat < guildBankMaxSlots ∨ slot = nullSlot)
    (hok : canStoreInBank env visitor items item tab slot false = .ok dest) :
    Reserved env (InBank visitor) (bankView visitor items item) item.entry item.count
      ⟨dest, 0⟩ := by
  obtain ⟨htab, named, merged, hnamed, hmerged, hcount, rfl⟩ := canStoreInBank_cases hok
  have hstart := reserved_start env (InBank visitor) (bankView visitor items item) item.entry
    item.count
  have hreserved : Reserved env (InBank visitor) (bankView visitor items item) item.entry
      item.count named := by
    unfold reserveNamedSlot at hnamed
    split at hnamed
    · obtain rfl := Option.some.inj hnamed
      exact hstart
    next hnull =>
      have hexists := hasSlot_iff.mpr ⟨htab, hslot.resolve_right hnull⟩
      exact reserved_reserveSpace hmax hexists hnamed hstart fun hpos => hpos
  have hreserved' : Reserved env (InBank visitor) (bankView visitor items item) item.entry
      item.count merged := by
    rcases hmerged with rfl | rfl
    · exact hreserved
    · exact reserved_canStoreItemInTab slot true hmax htab hreserved
  have hfound := reserved_canStoreItemInTab slot false hmax htab hreserved'
  generalize canStoreItemInTab env visitor items item tab slot false merged = found at *
  obtain ⟨dest, count⟩ := found
  obtain rfl : count = 0 := hcount
  exact hfound

theorem swapped_of_canStoreInBank (hcount : item.count ≤ maxStackCount env item.entry)
    (hslot : slot ≠ nullSlot) (hok : canStoreInBank env visitor items item tab slot true = .ok dest)
    : dest = [(.bank tab slot, item.count)] := by
  obtain ⟨-, named, merged, hnamed, hmerged, -, rfl⟩ := canStoreInBank_cases hok
  have hreserve : (Reservation.mk [] item.count).reserve (.bank tab slot)
      (maxStackCount env item.entry) = ⟨[(.bank tab slot, item.count)], 0⟩ := by
    simp [Reservation.reserve, Nat.min_eq_right hcount]
  unfold reserveNamedSlot at hnamed
  rw [if_neg hslot, if_pos rfl] at hnamed
  obtain rfl := (Option.some.inj hnamed).symm.trans hreserve
  -- Nothing is left for the searches.
  have hnothing (merge : Bool) : canStoreItemInTab env visitor items item tab slot merge
      ⟨[(.bank tab slot, item.count)], 0⟩ = ⟨[(.bank tab slot, item.count)], 0⟩ := if_pos rfl
  rcases hmerged with rfl | rfl
  · rw [hnothing]
  · rw [hnothing, hnothing]

end Searching

/-! ## Plans for a move -/

section Planning

variable {env : Environment} {visitor : BankVisitor} {store : Store} {item : Item}
  {position : Position} {dest : List (Position × Nat)}

theorem ready_of_bankTakes {supply : Supply} {entry : UInt32} {count : Nat}
    (hvalid : supply.Valid store entry count) (hsound : store.Sound env)
    (hitem : supply.item? = some item) {pos : Position × Nat} (hpos : 0 < pos.2)
    (htakes : Takes env (InBank visitor) (bankView visitor store.items.at? item) entry pos.1
      pos.2) :
    Ready env (supply.takeOut store) entry pos := by
  obtain ⟨position, n⟩ := pos
  obtain ⟨hslot, hroom⟩ := htakes
  cases position with
  | player bag slot => exact hslot.elim
  | bank tab slot =>
    have hview : bankView visitor store.items.at? item (.bank tab slot) =
        (supply.takeOut store).items.at? (.bank tab slot) := by
      rw [← filter_isOther_eq_takeOut hvalid hsound, hitem]
      exact congrArg (Option.filter _) (getBankItem_of_hasSlot hslot)
    rw [hview] at hroom
    exact ⟨.bank tab slot, rfl, hpos, hroom⟩

/-- The positions to which a side of a move sends items. -/
def Receives (visitor : BankVisitor) : Position → Position → Prop
  | .bank _ _ => InBank visitor
  | .player _ _ => IsPlayer

/-- A plan by which an item can be stored. -/
structure Fits (env : Environment) (visitor : BankVisitor) (store : Store) (position : Position)
    (item : Item) (dest : List (Position × Nat)) : Prop where
  kind : ∀ pos ∈ dest, Receives visitor position pos.1
  nodup : (dest.map Prod.fst).Nodup
  sum : (dest.map Prod.snd).sum = item.count
  ready : ∀ pos ∈ dest, Ready env store item.entry pos

/-- A side of a move is a slot of the bank, none in particular, or a position of the player. -/
def Named (visitor : BankVisitor) : Position → Prop
  | .bank tab slot => visitor.hasSlotOrNull tab slot = true
  | .player _ _ => True

/-- A plan still fits when a stack gets smaller. -/
theorem Fits.setCount {place : Place} {srcItem : Item} {count : Nat}
    (hfits : Fits env visitor store position item dest)
    (hat : store.items.at? place = some srcItem) (hle : count ≤ srcItem.count) :
    Fits env visitor (store.setCount place srcItem count) position item dest :=
  { hfits with ready := fun pos hpos => (hfits.ready pos hpos).setCount hat hle }

/-- A check that succeeds gives a plan for the store without the moved item. -/
theorem fits_of_canStore {supply : Supply} (hsound : store.Sound env)
    (hvalid : supply.Valid store item.entry item.count) (hitem : supply.item? = some item)
    (hbounds : 1 ≤ item.count ∧ item.count ≤ maxStackCount env item.entry)
    (hnamed : Named visitor position)
    (houtside : ∀ bag slot, position = .player bag slot → ¬ InMovedBag env store supply bag)
    (hok : canStore env visitor store.items.at? position item false = .ok dest) :
    Fits env visitor (supply.takeOut store) position item dest := by
  cases position with
  | bank tab slot =>
    unfold Named BankVisitor.hasSlotOrNull at hnamed
    simp only [Bool.and_eq_true, Bool.or_eq_true, decide_eq_true_eq] at hnamed
    have hreserved := reserved_of_canStoreInBank (by omega) hnamed.1 hok
    exact {
      kind := fun pos hpos => (hreserved.takes pos hpos).1
      nodup := hreserved.nodup
      sum := hreserved.sum
      ready := fun pos hpos => ready_of_bankTakes hvalid hsound hitem
        (hreserved.positive pos hpos hbounds.1) (hreserved.takes pos hpos) }
  | player bag slot =>
    unfold canStore at hok
    dsimp only at hok
    split at hok
    next hfound =>
      obtain rfl := Except.ok.inj hok
      have hadmits : Admits env store.items.at? supply.item? bag slot
        (Outside env store supply) := admits_outside hsound hvalid fun _ => houtside bag slot rfl
      rw [← hitem] at hfound ⊢
      have hreserved := reserved_of_canStoreItem hadmits hfound
      exact {
        kind := fun pos hpos => isPlayer_of_outside (hreserved.takes pos hpos).1
        nodup := hreserved.nodup
        sum := hreserved.sum
        ready := fun pos hpos => ready_of_takes hvalid hsound
          (hreserved.positive pos hpos hbounds.1) (hreserved.takes pos hpos) }
    · cases hok

end Planning

/-! ## Storing -/

section Storing

variable {env : Environment} {visitor : BankVisitor} {store : Store} {item : Item}
  {position : Position} {dest : List (Position × Nat)}

theorem adds_bankStoreAt (env : Environment) (visitor : BankVisitor) (item : Item) :
    Adds env (InBank visitor) item (bankStoreAt env visitor item) := by
  intro store position count clone place hkind hsound hloose hlocate hroom
  cases position with
  | player bag slot => exact hkind.elim
  | bank tab slot =>
    obtain rfl := Option.some.inj hlocate
    have hslot : visitor.hasSlot tab slot = true := hkind
    obtain ⟨-, hroom⟩ := hroom
    unfold bankStoreAt
    simp only [getBankItem_of_hasSlot hslot, if_pos hslot]
    cases hheld : store.items.at? (.bank tab slot) with
    | some held =>
      rw [hheld] at hroom
      refine ⟨⟨_, rfl, hroom.1, ?_, ?_⟩, Nat.le_refl _, ?_⟩
      · rw [hheld, Option.elim_some]
      · rw [hheld, Option.elim_some]
      · intro _ hnone
        rw [hheld] at hnone
        cases hnone
    | none =>
      rw [hheld] at hroom
      obtain ⟨hentry, hcount, hguid⟩ := newStack_facts env store item count clone 0 hroom
      refine ⟨⟨_, rfl, hentry, ?_, ?_⟩, store.le_guidAfter clone, ?_⟩
      · rw [hheld, Option.elim_none, Nat.zero_add]
        exact hcount
      · rw [hheld, Option.elim_none]
        exact hguid
      · rintro rfl -
        exact Nat.lt_succ_self _

theorem Fits.stored (hfits : Fits env visitor store position item dest)
    (hsound : store.Sound env) (hloose : Loose store item) (hnamed : Named visitor position) :
    (storeMoved env visitor position store item dest).Sound env ∧
      ∀ entry, (storeMoved env visitor position store item dest).countOf entry =
        store.countOf entry + if item.entry = entry then item.count else 0 := by
  rw [← hfits.sum]
  cases position with
  | bank tab slot =>
    unfold Named BankVisitor.hasSlotOrNull at hnamed
    simp only [Bool.and_eq_true, decide_eq_true_eq] at hnamed
    unfold storeMoved
    dsimp only
    rw [if_pos hnamed.2]
    exact storeLoop_spec (adds_bankStoreAt env visitor item) dest hfits.kind hfits.nodup hsound
      hloose hfits.ready
  | player bag slot =>
    exact storeLoop_spec (adds_playerStoreAt env visitor.player item) dest hfits.kind
      hfits.nodup hsound hloose hfits.ready

/-- Storing at a position of either kind. -/
def storeAt (env : Environment) (visitor : BankVisitor) (item : Item) (store : Store)
    (position : Position) (count : Nat) (clone : Bool) : Store :=
  match position with
  | .bank _ _ => bankStoreAt env visitor item store position count clone
  | .player _ _ => playerStoreAt env visitor.player item store position count clone

/-- A slot of the bank that exists, or a position of the player. -/
def Exists (visitor : BankVisitor) (position : Position) : Prop :=
  InBank visitor position ∨ IsPlayer position

theorem adds_storeAt (env : Environment) (visitor : BankVisitor) (item : Item) :
    Adds env (Exists visitor) item (storeAt env visitor item) := by
  intro store position count clone place hkind hsound hloose hlocate hroom
  cases position with
  | bank tab slot =>
    exact adds_bankStoreAt env visitor item store _ count clone place
      (hkind.resolve_right fun hplayer => hplayer) hsound hloose hlocate hroom
  | player bag slot =>
    exact adds_playerStoreAt env visitor.player item store _ count clone place
      (hkind.resolve_left fun hbank => hbank) hsound hloose hlocate hroom

/-- Storing a stack as a whole. -/
theorem storeMoved_singleton (hexists : Exists visitor position) (store : Store) (item : Item)
    (count : Nat) :
    storeMoved env visitor position store item [(position, count)] =
      storeLoop (storeAt env visitor item) store [(position, count)] := by
  cases position with
  | bank tab slot =>
    have hslot : visitor.hasSlot tab slot = true := hexists.resolve_right fun hplayer => hplayer
    exact if_pos (hasSlot_iff.mp hslot).1
  | player bag slot => rfl

end Storing

/-! ## Moves -/

section Moving

variable {env : Environment} {visitor : BankVisitor} {store : Store} {src dst position : Position}
  {place srcPlace dstPlace : Place} {item srcItem dstItem : Item} {dest : List (Position × Nat)}
  {splitedAmount : Nat}

/-- An item that is ready to be moved from a position. -/
structure Held (env : Environment) (visitor : BankVisitor) (store : Store) (position : Position)
    (place : Place) (item : Item) : Prop where
  located : locate env store.items.at? position = some place
  at? : store.items.at? place = some item
  valid : Exists visitor position

theorem held_of_initItem
    (hok : initItem env visitor store.items.at? position = .ok (place, item)) :
    Held env visitor store position place item := by
  unfold initItem at hok
  cases position with
  | bank tab slot =>
    dsimp only at hok
    split at hok
    · cases hok
    next found hfound =>
      obtain ⟨rfl, rfl⟩ := Prod.mk.inj (Except.ok.inj hok)
      obtain ⟨hslot, hat⟩ := getBankItem_eq_some hfound
      exact ⟨rfl, hat, Or.inl hslot⟩
  | player bag slot =>
    dsimp only at hok
    split at hok
    · cases hok
    next found stack hfound =>
      obtain ⟨other, hplace, hstack⟩ := Option.bind_eq_some_iff.mp hfound
      obtain ⟨held, hheld, heq⟩ := Option.map_eq_some_iff.mp hstack
      obtain ⟨rfl, rfl⟩ := Prod.mk.inj heq
      split at hok
      · cases hok
      split at hok
      · cases hok
      · obtain ⟨rfl, rfl⟩ := Prod.mk.inj (Except.ok.inj hok)
        exact ⟨hplace, hheld, Or.inr trivial⟩

/-- There are as many items of every kind as before, and all stacks are within bounds. -/
def Conserved (env : Environment) (store after : Store) : Prop :=
  after.Sound env ∧ ∀ entry, after.countOf entry = store.countOf entry

/-- One side of the move is the bank. -/
def AtBank (src dst : Position) : Prop := (tabOf src).isSome = true ∨ (tabOf dst).isSome = true

theorem AtBank.symm (hbank : AtBank src dst) : AtBank dst src := Or.symm hbank

/-- What is moved is no bag in which it ends up. -/
theorem AtBank.ne_holder (hbank : AtBank src dst)
    (hlocate : locate env store.items.at? src = some srcPlace) :
    ∀ holder ∈ holderOf dst, holder ≠ srcPlace := by
  cases dst with
  | bank tab slot => exact fun _ hholder => nomatch hholder
  | player bag slot =>
    rintro holder hholder rfl
    obtain rfl := Option.some.inj hholder
    cases src with
    | bank tab slot => cases hlocate
    | player bag slot => rcases hbank with hbank | hbank <;> cases hbank

theorem conserved_whole (hsound : store.Sound env) (hbank : AtBank src dst)
    (hheld : Held env visitor store src srcPlace srcItem) (hnamed : Named visitor dst)
    (hok : canStore env visitor store.items.at? dst srcItem false = .ok dest) :
    Conserved env store (storeMoved env visitor dst (store.removeItem srcPlace) srcItem dest) := by
  have hvalid : (Supply.held srcPlace srcItem).Valid store srcItem.entry srcItem.count :=
    ⟨hheld.at?, rfl, rfl⟩
  have houtside : ∀ bag slot, dst = .player bag slot →
      ¬ InMovedBag env store (.held srcPlace srcItem) bag := by
    rintro bag slot rfl
    exact not_inMovedBag hsound hheld.at? (hbank.ne_holder hheld.located _ rfl).symm
  have hfits := fits_of_canStore hsound hvalid rfl (hsound.bounds _ _ hheld.at?) hnamed houtside hok
  obtain ⟨hsound', hcount⟩ := hfits.stored (sound_removeItem hsound srcPlace srcItem)
    (loose_removeItem hsound hheld.at?) hnamed
  exact ⟨hsound', fun entry => (hcount entry).trans (countOf_removeItem hheld.at? entry)⟩

/-- A part of a stack that is put down. -/
theorem conserved_split (hsound : store.Sound env)
    (hheld : Held env visitor store src srcPlace srcItem) (hnamed : Named visitor dst)
    (hpos : 1 ≤ splitedAmount) (hless : splitedAmount < srcItem.count)
    (hok : canStore env visitor store.items.at? dst
      (cloneItem env srcItem splitedAmount store.nextGuid 0) false = .ok dest) :
    Conserved env store (storeMoved env visitor dst
      ((Store.mk store.items (store.nextGuid + 1)).setCount srcPlace srcItem
        (srcItem.count - splitedAmount))
      (cloneItem env srcItem splitedAmount store.nextGuid 0) dest) := by
  obtain ⟨-, hmax⟩ := hsound.bounds _ _ hheld.at?
  have hentry : (cloneItem env srcItem splitedAmount store.nextGuid 0).entry = srcItem.entry := rfl
  have hmoved : (cloneItem env srcItem splitedAmount store.nextGuid 0).count = splitedAmount :=
    Nat.min_eq_left (by omega)
  have hissued := sound_nextGuid hsound
  have hloose : Loose ⟨store.items, store.nextGuid + 1⟩
    (cloneItem env srcItem splitedAmount store.nextGuid 0) := loose_nextGuid hsound rfl
  have hat : (Store.mk store.items (store.nextGuid + 1)).items.at? srcPlace = some srcItem :=
    hheld.at?
  generalize cloneItem env srcItem splitedAmount store.nextGuid 0 = moved at *
  have hvalid : (Supply.loose moved).Valid ⟨store.items, store.nextGuid + 1⟩ moved.entry
    moved.count := ⟨hloose, rfl, rfl, by omega⟩
  have houtside : ∀ bag slot, dst = .player bag slot →
      ¬ InMovedBag env ⟨store.items, store.nextGuid + 1⟩ (.loose moved) bag := by
    rintro bag slot - ⟨item, hitem, hbag⟩
    obtain rfl := Option.some.inj hitem
    exact hloose.absent (getBagByPos_eq_some hbag).1 rfl
  have hbounds : 1 ≤ moved.count ∧ moved.count ≤ maxStackCount env moved.entry := by
    rw [hentry]
    omega
  -- The plan is made before the stack gets smaller.
  have hfits : Fits env visitor ⟨store.items, store.nextGuid + 1⟩ dst moved dest :=
    fits_of_canStore hissued hvalid rfl hbounds hnamed houtside hok
  have hlower : srcItem.count - splitedAmount ≤ srcItem.count := Nat.sub_le _ _
  have hstored := (hfits.setCount hat hlower).stored
    (sound_setCount hissued hat (by omega) (hlower.trans hmax)) (loose_setCount hat _ hloose) hnamed
  refine ⟨hstored.1, fun entry => ?_⟩
  have hcount := countOf_setCount hat (srcItem.count - splitedAmount) entry
  rw [hstored.2 entry, hentry, hmoved]
  change _ = (Store.mk store.items (store.nextGuid + 1)).countOf entry
  by_cases hkind : srcItem.entry = entry
  · simp only [if_pos hkind] at hcount ⊢
    omega
  · simp only [if_neg hkind] at hcount ⊢
    exact hcount

theorem swapped_of_canStore (hsizes : SmallBags env store)
    (hheld : Held env visitor store position place item)
    (hcount : srcItem.count ≤ maxStackCount env srcItem.entry)
    (hok : canStore env visitor store.items.at? position srcItem true = .ok dest) :
    dest = [(position, srcItem.count)] := by
  cases position with
  | bank tab slot =>
    have hslot : visitor.hasSlot tab slot = true := hheld.valid.resolve_right fun hplayer => hplayer
    refine swapped_of_canStoreInBank hcount ?_ hok
    rintro rfl
    exact absurd (hasSlot_iff.mp hslot).2 (by decide)
  | player bag slot =>
    have hplace : placeOf env store.items.at? bag slot = some place := hheld.located
    unfold canStore at hok
    dsimp only at hok
    split at hok
    next hfound =>
      obtain rfl := Except.ok.inj hok
      exact (swapped_of_canStoreItem (ne_nullBag_of_placeOf hplace)
        (ne_nullSlot_of_placeOf hsizes hplace) hcount hfound).1
    · cases hok

/-- Two stacks that change places. -/
theorem conserved_swap {srcDest : List (Position × Nat)} (hsound : store.Sound env)
    (hsizes : SmallBags env store) (hbank : AtBank src dst) (hne : src ≠ dst)
    (hsrc : Held env visitor store src srcPlace srcItem)
    (hdst : Held env visitor store dst dstPlace dstItem)
    (hok : canStore env visitor store.items.at? dst srcItem true = .ok dest)
    (hok' : canStore env visitor store.items.at? src dstItem true = .ok srcDest) :
    Conserved env store
      (storeMoved env visitor src
        (storeMoved env visitor dst ((store.removeItem srcPlace).removeItem dstPlace) srcItem dest)
        dstItem srcDest) := by
  obtain rfl := swapped_of_canStore hsizes hdst (hsound.bounds _ _ hsrc.at?).2 hok
  obtain rfl := swapped_of_canStore hsizes hsrc (hsound.bounds _ _ hdst.at?).2 hok'
  have hplaces : srcPlace ≠ dstPlace := by
    rintro rfl
    exact hne (locate_inj hsound hsrc.located hdst.located)
  have hremoved := (bothRemoved hsound hdst.at? hsrc.at? hplaces.symm).symm hplaces.symm
  have hexchanged := exchanged_of_bothRemoved (adds_storeAt env visitor) hsrc.valid hdst.valid
    hsound hsrc.located hdst.located hsrc.at? hdst.at? hplaces (hbank.symm.ne_holder hdst.located)
    (hbank.ne_holder hsrc.located) hremoved
  rw [storeMoved_singleton hsrc.valid, storeMoved_singleton hdst.valid]
  exact ⟨hexchanged.sound, hexchanged.counts⟩

/-! ## Requests -/

variable {after : Store}

/-- A request conserves all items, and touches nothing if it is refused. -/
structure Conserves (env : Environment) (store : Store) (result : BankOutcome × Store) : Prop where
  conserved : Conserved env store result.2
  refused : ∀ error, result.1 = .refused error → result.2.items = store.items

theorem conserves_refused (error : Option InventoryResult) (hsound : store.Sound env) :
    Conserves env store (.refused error, store) where
  conserved := ⟨hsound, fun _ => rfl⟩
  refused _ _ := rfl

theorem conserves_moved (tabs : List UInt8) (hconserved : Conserved env store after) :
    Conserves env store (.moved tabs, after) where
  conserved := hconserved
  refused _ hrefused := nomatch hrefused

theorem doItemsMove_eq_ok {moved : Item} {tabs : List UInt8} {issued : Store}
    (hok : doItemsMove env visitor src dst srcPlace srcItem moved none splitedAmount issued =
      .ok (tabs, after)) :
    ∃ dest, canStore env visitor issued.items.at? dst moved false = .ok dest ∧
      after = storeMoved env visitor dst (removeItem issued srcPlace srcItem splitedAmount) moved
        dest := by
  unfold doItemsMove at hok
  cases hdest : canStore env visitor issued.items.at? dst moved false with
  | error error =>
    rw [Option.isSome_none, hdest] at hok
    cases hok
  | ok dest =>
    rw [Option.isSome_none, hdest] at hok
    exact ⟨dest, rfl, (Prod.mk.inj (Except.ok.inj hok)).2.symm⟩

/-- What an exchange does. -/
theorem doItemsMove_swap_eq_ok {tabs : List UInt8}
    (hok : doItemsMove env visitor src dst srcPlace srcItem srcItem (some (dstPlace, dstItem)) 0
      store = .ok (tabs, after)) :
    ∃ dest srcDest, canStore env visitor store.items.at? dst srcItem true = .ok dest ∧
      canStore env visitor store.items.at? src dstItem true = .ok srcDest ∧
      after = storeMoved env visitor src
        (storeMoved env visitor dst ((store.removeItem srcPlace).removeItem dstPlace) srcItem dest)
        dstItem srcDest := by
  unfold doItemsMove at hok
  rw [Option.isSome_some] at hok
  cases hdest : canStore env visitor store.items.at? dst srcItem true with
  | error error =>
    rw [hdest] at hok
    cases hok
  | ok dest =>
    rw [hdest] at hok
    dsimp only at hok
    cases hsrcDest : canStore env visitor store.items.at? src dstItem true with
    | error error =>
      rw [hsrcDest] at hok
      cases hok
    | ok srcDest =>
      rw [hsrcDest] at hok
      exact ⟨dest, srcDest, rfl, rfl, (Prod.mk.inj (Except.ok.inj hok)).2.symm⟩

theorem conserves_swapMoved (hsound : store.Sound env) (hsizes : SmallBags env store)
    (hbank : AtBank src dst) (hne : src ≠ dst)
    (hsrc : Held env visitor store src srcPlace srcItem) :
    Conserves env store (swapMoved env visitor src dst srcPlace srcItem store) := by
  unfold swapMoved
  cases hdst : initItem env visitor store.items.at? dst with
  | error error => exact conserves_refused error hsound
  | ok held =>
    obtain ⟨dstPlace, dstItem⟩ := held
    dsimp only
    split
    · exact conserves_refused none hsound
    split
    · exact conserves_refused none hsound
    cases hmove : doItemsMove env visitor src dst srcPlace srcItem srcItem
      (some (dstPlace, dstItem)) 0 store with
    | error error => exact conserves_refused (some error) hsound
    | ok result =>
      obtain ⟨tabs, after⟩ := result
      obtain ⟨dest, srcDest, hok, hok', rfl⟩ := doItemsMove_swap_eq_ok hmove
      exact conserves_moved tabs
        (conserved_swap hsound hsizes hbank hne hsrc (held_of_initItem hdst) hok hok')

theorem conserves_moveItems (splitedAmount : Nat) (hsound : store.Sound env)
    (hsizes : SmallBags env store) (hbank : AtBank src dst) (hne : src ≠ dst)
    (hnamed : Named visitor dst) :
    Conserves env store (moveItems env visitor src dst splitedAmount store) := by
  unfold moveItems
  cases hsrc : initItem env visitor store.items.at? src with
  | error error => exact conserves_refused error hsound
  | ok held =>
    obtain ⟨srcPlace, srcItem⟩ := held
    have hheld := held_of_initItem hsrc
    dsimp only
    split
    · exact conserves_refused none hsound
    next hless =>
      split
      · exact conserves_refused none hsound
      split
      · exact conserves_refused none hsound
      split
      next hsplit =>
        split
        · exact conserves_refused (some .itemNotFound) hsound
        · cases hmove : doItemsMove env visitor src dst srcPlace srcItem
            (cloneItem env srcItem splitedAmount store.nextGuid 0) none splitedAmount
            ⟨store.items, store.nextGuid + 1⟩ with
          | error error =>
            exact ⟨⟨sound_nextGuid hsound, fun _ => rfl⟩, fun _ _ => rfl⟩
          | ok result =>
            obtain ⟨tabs, after⟩ := result
            obtain ⟨dest, hok, rfl⟩ := doItemsMove_eq_ok hmove
            have hremoved : removeItem ⟨store.items, store.nextGuid + 1⟩ srcPlace srcItem
              splitedAmount = (Store.mk store.items (store.nextGuid + 1)).setCount srcPlace
                srcItem (srcItem.count - splitedAmount) := if_pos hsplit.2
            rw [hremoved]
            exact conserves_moved tabs (conserved_split hsound hheld hnamed
              (Nat.pos_of_ne_zero hsplit.2) (by omega) hok)
      · cases hmove : doItemsMove env visitor src dst srcPlace srcItem srcItem none 0 store with
        | error error => exact conserves_swapMoved hsound hsizes hbank hne hheld
        | ok result =>
          obtain ⟨tabs, after⟩ := result
          obtain ⟨dest, hok, rfl⟩ := doItemsMove_eq_ok hmove
          exact conserves_moved tabs (conserved_whole hsound hbank hheld hnamed hok)

theorem conserves_autoStore (env : Environment) (visitor : BankVisitor) (tab slot : UInt8)
    (hsound : store.Sound env) :
    Conserves env store (autoStoreItemInInventory env visitor tab slot store) := by
  unfold autoStoreItemInInventory
  split
  · exact conserves_refused none hsound
  cases hitem : getBankItem visitor store.items.at? tab slot with
  | none => exact conserves_refused (some .itemNotFound) hsound
  | some item =>
    obtain ⟨hslot, hat⟩ := getBankItem_eq_some hitem
    dsimp only
    split
    · exact conserves_refused _ hsound
    split
    · exact conserves_refused none hsound
    next hfound _ =>
      have hok : canStore env visitor store.items.at? (.player nullBag nullSlot) item false =
          .ok (canStoreItem env store.items.at? visitor.player nullBag nullSlot item.entry
            item.count (some item) false).2 := if_pos (not_not.mp hfound)
      have hheld : Held env visitor store (.bank tab slot) (.bank tab slot) item :=
        ⟨rfl, hat, Or.inl hslot⟩
      have hbank : AtBank (.bank tab slot) (.player nullBag nullSlot) := Or.inl rfl
      have hnamed : Named visitor (.player nullBag nullSlot) := trivial
      exact conserves_moved [tab] (conserved_whole hsound hbank hheld hnamed hok)

end Moving

/-- Whatever a member asks for, for any state of the bank and of his inventory: there are as many
items of every kind as before, and all stacks are within bounds.  A request that is refused
touches nothing. -/
theorem handleBank_conserves (env : Environment) (visitor : BankVisitor) (store : Store)
    (request : BankRequest) (hsound : store.Sound env) (hsizes : SmallBags env store) :
    Conserves env store (handleBank env visitor store request) := by
  cases request with
  | swapItems tab slot destTab destSlot splitedAmount =>
    unfold handleBank swapItems
    dsimp only
    split
    · exact conserves_refused none hsound
    next hslots =>
      split
      · exact conserves_refused none hsound
      next hsame =>
        simp only [Bool.or_eq_true, Bool.not_eq_true', not_or, Bool.not_eq_false] at hslots
        refine conserves_moveItems splitedAmount hsound hsizes (Or.inl rfl) ?_ ?_
        · rintro heq
          obtain ⟨rfl, rfl⟩ := Position.bank.inj heq
          exact hsame ⟨rfl, rfl⟩
        · obtain ⟨htab, hslot⟩ := hasSlot_iff.mp hslots.2
          simp [Named, BankVisitor.hasSlotOrNull, htab, hslot]
  | swapItemsWithInventory toChar tab slot playerBag playerSlot splitedAmount =>
    unfold handleBank swapItemsWithInventory
    dsimp only
    split
    · exact conserves_refused none hsound
    next hslot =>
      split
      · exact conserves_moveItems splitedAmount hsound hsizes (Or.inl rfl)
          (fun heq => nomatch heq) trivial
      · exact conserves_moveItems splitedAmount hsound hsizes (Or.inr rfl)
          (fun heq => nomatch heq) (by simpa [Named] using hslot)
  | autoStoreItemInInventory tab slot => exact conserves_autoStore env visitor tab slot hsound

/-- A member who may do everything in the one tab that has been bought. -/
def sampleVisitor : BankVisitor := ⟨7, 1, fun _ => true, fun _ => 5⟩

/-- A part of the cloth goes to the bank. -/
theorem cloth_deposited :
    (handleBank sampleEnvironment sampleVisitor clothStore
        (.swapItemsWithInventory false 0 255 255 23 2)).1 = .moved [] ∧
      Conserves sampleEnvironment clothStore
        (handleBank sampleEnvironment sampleVisitor clothStore
          (.swapItemsWithInventory false 0 255 255 23 2)) :=
  ⟨by decide +kernel, handleBank_conserves sampleEnvironment sampleVisitor clothStore _
    sound_clothStore (smallBags_of_template _ fun entry proto hproto =>
      sampleTemplate_small hproto)⟩

end MopServer.Guilds
