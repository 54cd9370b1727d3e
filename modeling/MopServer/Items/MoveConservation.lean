import MopServer.Items.Exchange
import MopServer.Items.Room

/-! # Moves conserve items

Whatever a client asks for, the items of every kind stay as many as they were, and all stacks stay
within bounds.
-/

namespace MopServer.Items

open MopServer.Foundation

/-! ## Positions and places -/

section Places

variable {env : Environment} {items other : Place → Option Item}
  {pos : StoragePos} {place : Place} {item : Item}

theorem itemAt_eq_some_iff : itemAt env items pos = some (place, item) ↔
    placeOf env items pos.bag pos.slot = some place ∧ items place = some item := by
  unfold itemAt
  rw [Option.bind_eq_some_iff]
  constructor
  · rintro ⟨found, hplace, hitem⟩
    obtain ⟨held, hheld, heq⟩ := Option.map_eq_some_iff.mp hitem
    obtain ⟨rfl, rfl⟩ := Prod.mk.inj heq
    exact ⟨hplace, hheld⟩
  · rintro ⟨hplace, hitem⟩
    exact ⟨place, hplace, by rw [hitem, Option.map_some]⟩

theorem getItemByPos_eq (hat : itemAt env items pos = some (place, item)) :
    getItemByPos env items pos.bag pos.slot = some item := by
  obtain ⟨hplace, hitem⟩ := itemAt_eq_some_iff.mp hat
  unfold getItemByPos
  rw [hplace, Option.bind_some, hitem]

theorem StoragePos.bag_cases (pos : StoragePos) :
    pos.bag = inventorySlotBag0 ∨ within inventorySlotBag pos.bag = true ∨
      within bankSlotBag pos.bag = true := by
  rcases pos.stored with hstored | hstored
  · unfold isInventoryPos at hstored
    simp only [Bool.or_eq_true, Bool.and_eq_true, decide_eq_true_eq] at hstored
    rcases hstored with ⟨hbag, -⟩ | hbag
    · exact Or.inl hbag
    · exact Or.inr (Or.inl hbag)
  · unfold isBankPos at hstored
    simp only [Bool.or_eq_true, Bool.and_eq_true, decide_eq_true_eq] at hstored
    rcases hstored with ⟨hbag, -⟩ | hbag
    · exact Or.inl hbag
    · exact Or.inr (Or.inr hbag)

theorem StoragePos.bag_ne_nullBag (pos : StoragePos) : pos.bag ≠ nullBag := by
  intro hnull
  rcases pos.bag_cases with hbag | hbag | hbag
  · exact absurd (hnull.symm.trans hbag) (by decide)
  · rw [hnull] at hbag
    exact absurd hbag (by decide)
  · rw [hnull] at hbag
    exact absurd hbag (by decide)

variable (hplace : placeOf env items pos.bag pos.slot = some place)

include hplace in
theorem ne_own_bag {other : StoragePos}
    (hself : ¬ (isBagPos pos.bag pos.slot = true ∧ pos.slot = other.bag)) :
    place ≠ .own other.bag := by
  rintro rfl
  rcases placeOf_eq_some_iff.mp hplace with ⟨hown, hslot, heq⟩ | ⟨container, -, -, heq⟩
  · have hsame : other.bag = pos.slot := Place.own.inj heq
    refine hself ⟨?_, hsame.symm⟩
    unfold isBagPos
    rw [← hsame]
    rcases other.bag_cases with hbag | hbag | hbag
    · rw [← hsame, hbag] at hslot
      exact absurd hslot (by decide)
    · simp [hown, hbag]
    · simp [hown, hbag]
  · cases heq

include hplace in
theorem ne_own_of_worn {worn : UInt8} (hworn : worn.toNat < equipmentSlotEnd) :
    place ≠ .own worn := by
  rintro rfl
  rcases placeOf_eq_some_iff.mp hplace with ⟨hown, -, heq⟩ | ⟨container, -, -, heq⟩
  · have hslot : pos.slot = worn := (Place.own.inj heq).symm
    have hlow : ∀ bounds : Nat × Nat, equipmentSlotEnd ≤ bounds.1 →
        within bounds pos.slot = false := by
      intro bounds hbounds
      unfold within
      rw [hslot]
      simp only [Bool.and_eq_false_imp, decide_eq_true_eq]
      intro hle
      omega
    have hnull : pos.slot ≠ nullSlot := by
      rw [hslot]
      rintro rfl
      exact absurd hworn (by decide)
    have hbag := hlow inventorySlotItem (by decide)
    have hbank := hlow bankSlotItem (by decide)
    have hbankBag := hlow bankSlotBag (by decide)
    have hplayer : within inventorySlotBag inventorySlotBag0 = false := by decide
    have hplayer' : within bankSlotBag inventorySlotBag0 = false := by decide
    rcases pos.stored with hstored | hstored
    · unfold isInventoryPos at hstored
      simp [hown, hnull, hbag, hplayer] at hstored
    · unfold isBankPos at hstored
      simp [hown, hbank, hbankBag, hplayer'] at hstored
  · cases heq

end Places

/-! ## Plans for a position -/

section Placing

variable {env : Environment} {mover : Mover} {items : Place → Option Item} {pos : StoragePos}
  {item : Item} {swap : Bool} {dest : List (Position × Nat)}

theorem reserved_of_canPlace {inUse : Position → Prop}
    (hadmits : Admits env items (some item) pos.bag pos.slot inUse)
    (hok : canPlace env mover items pos item false = .ok dest) :
    Reserved env inUse (viewOf env items (some item)) item.entry item.count ⟨dest, 0⟩ := by
  unfold canPlace at hok
  split at hok
  · dsimp only at hok
    split at hok
    next hfound =>
      obtain rfl := Except.ok.inj hok
      exact reserved_of_canStoreItem hadmits hfound
    · cases hok
  · exact reserved_of_canBankItem hadmits hok

theorem specificSlot_of_canPlace (hslot : pos.slot ≠ nullSlot)
    (hok : canPlace env mover items pos item swap = .ok dest) :
    ∃ proto reservation, env.getItemTemplate item.entry = some proto ∧
      (canStoreItemInSpecificSlot env items proto (some item) swap pos.bag pos.slot
        reservation).1 = .ok := by
  unfold canPlace at hok
  split at hok
  · dsimp only at hok
    split at hok
    next hfound => exact specificSlot_of_canStoreItem pos.bag_ne_nullBag hslot hfound
    · cases hok
  · exact specificSlot_of_canBankItem pos.bag_ne_nullBag hslot hok

theorem swapped_of_canPlace (hslot : pos.slot ≠ nullSlot)
    (hcount : item.count ≤ maxStackCount env item.entry)
    (hok : canPlace env mover items pos item true = .ok dest) :
    dest = [(.player pos.bag pos.slot, item.count)] := by
  unfold canPlace at hok
  split at hok
  · dsimp only at hok
    split at hok
    next hfound =>
      obtain rfl := Except.ok.inj hok
      exact (swapped_of_canStoreItem pos.bag_ne_nullBag hslot hcount hfound).1
    · cases hok
  · exact (swapped_of_canBankItem pos.bag_ne_nullBag hslot hcount hok).1

theorem executes_of_canPlace {store : Store} {supply : Supply} (hsound : store.Sound env)
    (hvalid : supply.Valid store item.entry item.count) (hitem : supply.item? = some item)
    (hself : ¬ InMovedBag env store supply pos.bag)
    (hok : canPlace env mover store.items.at? pos item false = .ok dest) :
    Executes env mover.player store supply item.entry item.count dest := by
  have hadmits : Admits env store.items.at? supply.item? pos.bag pos.slot
    (Outside env store supply) := admits_outside hsound hvalid fun _ => hself
  rw [hitem] at hadmits
  have hreserved := reserved_of_canPlace hadmits hok
  rw [← hitem] at hreserved
  exact executes_of_reserved mover.player hsound hvalid hreserved

end Placing

/-! ## The ways a swap ends -/

variable {dest : List (Position × Nat)} {items : Place → Option Item} {item : Item}

section Swapping

variable {env : Environment} {mover : Mover} {store : Store} {src dst : StoragePos}
  {srcPlace dstPlace : Place} {srcItem dstItem : Item}

/-- A stack that is stored elsewhere is still there. -/
theorem Executes.moveItem (hat : store.items.at? place = some item)
    (hexecutes : Executes env mover.player store (.held place item) item.entry item.count dest) :
    (moveItem env mover store place item dest).Sound env ∧
      ∀ entry, (moveItem env mover store place item dest).countOf entry = store.countOf entry := by
  obtain ⟨hsound, hcounts⟩ := hexecutes
  refine ⟨hsound, fun entry => ?_⟩
  have hcount := hcounts entry
  have hremoved : ((Supply.held place item).takeOut store).countOf entry +
      (if item.entry = entry then item.count else 0) = store.countOf entry :=
    countOf_removeItem hat entry
  have hmoved : (Supply.held place item).execute env mover.player store item.entry dest =
    Items.moveItem env mover store place item dest := rfl
  rw [hmoved] at hcount
  omega

/-- Two items at different positions, neither of which is the bag the other is in. -/
structure Apart (env : Environment) (store : Store) (src dst : StoragePos)
    (srcPlace dstPlace : Place) (srcItem dstItem : Item) : Prop where
  atSrc : itemAt env store.items.at? src = some (srcPlace, srcItem)
  atDst : itemAt env store.items.at? dst = some (dstPlace, dstItem)
  different : srcPlace ≠ dstPlace
  srcOutside : srcPlace ≠ .own dst.bag
  dstOutside : dstPlace ≠ .own src.bag

theorem exchanged_of_apart (mover : Mover) (hsound : store.Sound env)
    (hapart : Apart env store src dst srcPlace dstPlace srcItem dstItem) :
    Exchanged env store
      (storeItem env mover.player
        (storeItem env mover.player ((store.removeItem dstPlace).removeItem srcPlace) srcItem
          [(.player dst.bag dst.slot, srcItem.count)])
        dstItem [(.player src.bag src.slot, dstItem.count)])
      srcPlace dstPlace := by
  obtain ⟨hsrcPlace, hsrcItem⟩ := itemAt_eq_some_iff.mp hapart.atSrc
  obtain ⟨hdstPlace, hdstItem⟩ := itemAt_eq_some_iff.mp hapart.atDst
  have hsrcHolder : ∀ holder ∈ holderOf (.player src.bag src.slot), holder ≠ dstPlace := by
    rintro holder hholder rfl
    obtain rfl := Option.some.inj hholder
    exact hapart.dstOutside rfl
  have hdstHolder : ∀ holder ∈ holderOf (.player dst.bag dst.slot), holder ≠ srcPlace := by
    rintro holder hholder rfl
    obtain rfl := Option.some.inj hholder
    exact hapart.srcOutside rfl
  exact exchanged_of_bothRemoved (fun item => adds_playerStoreAt env mover.player item) trivial
    trivial hsound hsrcPlace hdstPlace hsrcItem hdstItem hapart.different hsrcHolder hdstHolder
    (bothRemoved hsound hsrcItem hdstItem hapart.different)

/-- The bags of a store have at most as many slots as bags may have. -/
def SmallBags (env : Environment) (store : Store) : Prop :=
  ∀ place item, store.items.at? place = some item → isBag env item = true →
    bagSize env item ≤ maxBagSize

theorem ne_nullSlot_of_placeOf {bag slot : UInt8} (hsizes : SmallBags env store)
    (hplace : placeOf env store.items.at? bag slot = some srcPlace) : slot ≠ nullSlot := by
  intro hnull
  rcases placeOf_eq_some_iff.mp hplace with ⟨-, hslot, -⟩ | ⟨container, hbag, hslot, -⟩
  · rw [hnull] at hslot
    exact absurd hslot (by decide)
  · obtain ⟨hat, hisBag⟩ := getBagByPos_eq_some hbag
    have hsize := hsizes _ _ hat hisBag
    rw [hnull] at hslot
    exact absurd (hslot.trans_le hsize) (by decide)

/-- An item goes nowhere into itself. -/
theorem not_inMovedBag {bag : UInt8} (hsound : store.Sound env)
    (hsrc : store.items.at? srcPlace = some srcItem) (houtside : srcPlace ≠ .own bag) :
    ¬ InMovedBag env store (.held srcPlace srcItem) bag := by
  rintro ⟨item, hitem, hbag⟩
  obtain rfl := Option.some.inj hitem
  exact houtside (hsound.distinct hsrc (getBagByPos_eq_some hbag).1 rfl)

theorem moveItem_of_canPlace (hsound : store.Sound env)
    (hsrc : store.items.at? srcPlace = some srcItem) (houtside : srcPlace ≠ .own dst.bag)
    (hok : canPlace env mover store.items.at? dst srcItem false = .ok dest) :
    (moveItem env mover store srcPlace srcItem dest).Sound env ∧
      ∀ entry, (moveItem env mover store srcPlace srcItem dest).countOf entry =
        store.countOf entry := by
  have hvalid : (Supply.held srcPlace srcItem).Valid store srcItem.entry srcItem.count :=
    ⟨hsrc, rfl, rfl⟩
  exact (executes_of_canPlace hsound hvalid rfl (not_inMovedBag hsound hsrc houtside) hok).moveItem
    hsrc

/-- Two stacks that are put together are of one kind. -/
theorem entry_of_canPlace (hsound : store.Sound env) (hsizes : SmallBags env store)
    (hapart : Apart env store src dst srcPlace dstPlace srcItem dstItem)
    (hok : canPlace env mover store.items.at? dst srcItem false = .ok dest) :
    dstItem.entry = srcItem.entry := by
  obtain ⟨-, hsrcItem⟩ := itemAt_eq_some_iff.mp hapart.atSrc
  obtain ⟨hdstPlace, hdstItem⟩ := itemAt_eq_some_iff.mp hapart.atDst
  obtain ⟨proto, reservation, hproto, hslot⟩ :=
    specificSlot_of_canPlace (ne_nullSlot_of_placeOf hsizes hdstPlace) hok
  have hothers : othersAt env store.items.at? (some srcItem) dst.bag dst.slot = some dstItem := by
    unfold othersAt
    rw [getItemByPos_eq hapart.atDst, Option.filter_some_eq_some]
    refine isOther_iff.mpr fun moved hmoved hguid => ?_
    obtain rfl := Option.some.inj hmoved
    exact hapart.different (hsound.distinct hsrcItem hdstItem hguid.symm)
  exact (canBeMergedPartlyWith_eq_ok (canBeMerged_of_specificSlot hothers hslot)).1.trans
    (env.templateId _ _ hproto)

theorem mergeOrFill_spec (hsound : store.Sound env) (hsizes : SmallBags env store)
    (hapart : Apart env store src dst srcPlace dstPlace srcItem dstItem)
    (hok : canPlace env mover store.items.at? dst srcItem false = .ok dest) :
    (mergeOrFill env mover store srcPlace dstPlace srcItem dstItem dest).Sound env ∧
      ∀ entry, (mergeOrFill env mover store srcPlace dstPlace srcItem dstItem dest).countOf entry =
        store.countOf entry := by
  obtain ⟨-, hsrcItem⟩ := itemAt_eq_some_iff.mp hapart.atSrc
  obtain ⟨-, hdstItem⟩ := itemAt_eq_some_iff.mp hapart.atDst
  unfold mergeOrFill
  split
  · exact moveItem_of_canPlace hsound hsrcItem hapart.srcOutside hok
  next hmore =>
    exact fill_spec hsound hsrcItem hdstItem hapart.different
      (entry_of_canPlace hsound hsizes hapart hok) (Nat.lt_of_not_le hmore)

theorem contentsOf_eq_nil {pos : StoragePos} {swap : Bool} (hslot : pos.slot ≠ nullSlot)
    (hpos : isBagPos pos.bag pos.slot = false) (hbag : isBag env item = true)
    (hok : canPlace env mover items pos item swap = .ok dest) : contentsOf env items item = [] := by
  obtain ⟨proto, reservation, -, hspecific⟩ := specificSlot_of_canPlace hslot hok
  have hempty : isNotEmptyBag env items item = false := by
    by_contra hfull
    have hbagPos := isBagPos_of_specificSlot (Bool.not_eq_false _ ▸ hfull) hspecific
    rw [hpos] at hbagPos
    cases hbagPos
  unfold isNotEmptyBag bagPlaces at hempty
  rw [hbag, Bool.true_and, List.any_eq_false] at hempty
  refine List.filterMap_eq_nil_iff.mpr fun slot hslot => ?_
  have hnone := hempty _ (List.mem_map_of_mem hslot)
  cases hitem : items (.inBag item.guid slot) with
  | none => rfl
  | some held =>
    rw [hitem] at hnone
    exact absurd rfl hnone

theorem exchangeBags_eq {srcDest dstDest : List (Position × Nat)} {exchanged : Store}
    (hsizes : SmallBags env store)
    (hapart : Apart env store src dst srcPlace dstPlace srcItem dstItem)
    (hsrc : canPlace env mover store.items.at? dst srcItem true = .ok srcDest)
    (hdst : canPlace env mover store.items.at? src dstItem true = .ok dstDest)
    (hok : exchangeBags env mover store src dst srcItem dstItem = .ok exchanged) :
    exchanged = store := by
  have hsrcSlot := ne_nullSlot_of_placeOf hsizes (itemAt_eq_some_iff.mp hapart.atSrc).1
  have hdstSlot := ne_nullSlot_of_placeOf hsizes (itemAt_eq_some_iff.mp hapart.atDst).1
  have hnothing (full empty : Item) (hnil : contentsOf env store.items.at? full = [])
      (hexchange : exchangeContents env full empty store = .ok exchanged) : exchanged = store := by
    unfold exchangeContents moveContents at hexchange
    rw [hnil] at hexchange
    exact (Except.ok.inj hexchange).symm
  -- The bag that is not in use is empty, and the other one has to go to its position.
  unfold exchangeBags at hok
  split at hok
  next hbags =>
    rw [Bool.and_eq_true] at hbags
    split at hok
    · cases hok
    · split at hok
      next hempty =>
        rw [Bool.and_eq_true, Bool.not_eq_true'] at hempty
        exact hnothing dstItem srcItem (contentsOf_eq_nil hsrcSlot hempty.2 hbags.2 hdst) hok
      · split at hok
        next hempty =>
          rw [Bool.and_eq_true, Bool.not_eq_true'] at hempty
          exact hnothing srcItem dstItem (contentsOf_eq_nil hdstSlot hempty.2 hbags.1 hsrc) hok
        · exact (Except.ok.inj hok).symm
  · exact (Except.ok.inj hok).symm

end Swapping

/-! ## What a request comes to -/

/-- What is in the off hand may not stay there, the inventory has no room for it, and it is taken
away. -/
structure MailsOffhand (env : Environment) (mover : Mover) (store after : Store) (item : Item) :
    Prop where
  held : store.items.at? (.own equipmentSlotOffhand) = some item
  mayNotStay : offhandMayStay mover store.items.at? item = false
  noRoom : (canStoreItem env store.items.at? mover.player nullBag nullSlot item.entry item.count
    (some item) false).1 ≠ .ok
  removed : after = store.removeItem (.own equipmentSlotOffhand)

/-- Nothing changes if a request is refused, and nothing is lost if it is carried out.  Something is
sent by mail only after an exchange: what was in the off hand all the time, may not stay there and
finds no room in the inventory. -/
structure Conserves (env : Environment) (mover : Mover) (store : Store)
    (result : Outcome × Store) : Prop where
  refused : ∀ error, result.1 = .refused error → result.2.items.at? = store.items.at?
  sound : result.2.Sound env
  counts : ∀ entry, result.2.countOf entry + result.1.mailedCount entry = store.countOf entry
  mailed : ∀ item, result.1 = .done (some item) →
    store.items.at? (.own equipmentSlotOffhand) = some item ∧
      offhandMayStay mover store.items.at? item = false ∧
      ∃ exchanged srcPlace dstPlace, srcPlace ≠ dstPlace ∧
        Exchanged env store exchanged srcPlace dstPlace ∧
        MailsOffhand env mover exchanged result.2 item

section Requests

variable {env : Environment} {mover : Mover} {store : Store} {src dst : StoragePos} {after : Store}
  {srcPlace dstPlace : Place} {srcItem dstItem : Item} (hsound : store.Sound env)

include hsound in
theorem conserves_refused (error : Option EquipError) :
    Conserves env mover store (.refused error, store) where
  refused _ _ := rfl
  sound := hsound
  counts _ := rfl
  mailed _ hdone := nomatch hdone

theorem conserves_done
    (hafter : after.Sound env ∧ ∀ entry, after.countOf entry = store.countOf entry) :
    Conserves env mover store (.done none, after) where
  refused _ hrefused := nomatch hrefused
  sound := hafter.1
  counts := hafter.2
  mailed _ hdone := nomatch hdone

/-- What is in the off hand stays, goes to the inventory, or is sent by mail. -/
theorem autoUnequipOffhand_spec (mover : Mover) (hsound : store.Sound env) :
    (autoUnequipOffhandIfNeed env mover store).2.Sound env ∧
      (∀ entry, (autoUnequipOffhandIfNeed env mover store).2.countOf entry +
        (Outcome.done (autoUnequipOffhandIfNeed env mover store).1).mailedCount entry =
          store.countOf entry) ∧
      ∀ item, (autoUnequipOffhandIfNeed env mover store).1 = some item →
        MailsOffhand env mover store (autoUnequipOffhandIfNeed env mover store).2 item := by
  unfold autoUnequipOffhandIfNeed
  cases hoff : store.items.at? (.own equipmentSlotOffhand) with
  | none => exact ⟨hsound, fun _ => rfl, nofun⟩
  | some offItem =>
    dsimp only
    by_cases hstays : offhandMayStay mover store.items.at? offItem = true
    · rw [if_pos hstays]
      exact ⟨hsound, fun _ => rfl, nofun⟩
    rw [if_neg hstays]
    by_cases hfound : (canStoreItem env store.items.at? mover.player nullBag nullSlot
        offItem.entry offItem.count (some offItem) false).1 = .ok
    · rw [if_pos hfound]
      have hvalid : (Supply.held (.own equipmentSlotOffhand) offItem).Valid store offItem.entry
        offItem.count := ⟨hoff, rfl, rfl⟩
      have hadmits : Admits env store.items.at? (some offItem) nullBag nullSlot
          (Outside env store (.held (.own equipmentSlotOffhand) offItem)) :=
        admits_outside hsound hvalid fun hslot => absurd rfl hslot
      have hexecutes := executes_of_reserved mover.player hsound hvalid
        (reserved_of_canStoreItem hadmits hfound)
      obtain ⟨hafter, hcounts⟩ := hexecutes.moveItem hoff
      exact ⟨hafter, hcounts, nofun⟩
    · rw [if_neg hfound]
      refine ⟨sound_removeItem hsound _ offItem, countOf_removeItem hoff, fun item hitem => ?_⟩
      obtain rfl := Option.some.inj hitem
      exact ⟨hoff, Bool.not_eq_true _ ▸ hstays, hfound, rfl⟩

/-- Nothing that is moved with its bag is being looted. -/
def NotLooted (env : Environment) (mover : Mover) (store : Store) (pos : StoragePos) : Prop :=
  mover.isLooting = true → ∀ place item, itemAt env store.items.at? pos = some (place, item) →
    isLootedInside env store.items.at? pos item = false

theorem isLootedInside_of_frame {pos : StoragePos}
    (hexchanged : Exchanged env store after srcPlace dstPlace)
    (hsrc : isBagPos pos.bag pos.slot = true → ∀ slot, Place.inBag item.guid slot ≠ srcPlace)
    (hdst : isBagPos pos.bag pos.slot = true → ∀ slot, Place.inBag item.guid slot ≠ dstPlace) :
    isLootedInside env after.items.at? pos item = isLootedInside env store.items.at? pos item := by
  unfold isLootedInside
  cases hpos : isBagPos pos.bag pos.slot with
  | false => rfl
  | true =>
    rw [Bool.true_and, Bool.true_and, Bool.eq_iff_iff, List.any_eq_true, List.any_eq_true]
    refine exists_congr fun place => and_congr_right fun hplace => ?_
    obtain ⟨slot, -, rfl⟩ := List.mem_map.mp hplace
    rw [hexchanged.frame _ (hsrc hpos slot) (hdst hpos slot)]

variable (hapart : Apart env store src dst srcPlace dstPlace srcItem dstItem)

include hsound hapart in
theorem inBag_ne_of_apart (hpos : isBagPos src.bag src.slot = true) (slot : UInt8) :
    Place.inBag srcItem.guid slot ≠ srcPlace ∧ Place.inBag srcItem.guid slot ≠ dstPlace := by
  obtain ⟨hsrcPlace, hsrcItem⟩ := itemAt_eq_some_iff.mp hapart.atSrc
  obtain ⟨hdstPlace, -⟩ := itemAt_eq_some_iff.mp hapart.atDst
  have hown : src.bag = inventorySlotBag0 := by
    unfold isBagPos at hpos
    rw [Bool.and_eq_true] at hpos
    exact of_decide_eq_true hpos.1
  constructor
  · rintro rfl
    rcases placeOf_eq_some_iff.mp hsrcPlace with ⟨-, -, hplace⟩ | ⟨container, hbag, -⟩
    · cases hplace
    · rw [hown] at hbag
      exact absurd hbag (by simp [getBagByPos, within, inventorySlotBag0, inventorySlotBag,
        bankSlotBag])
  · rintro rfl
    rcases placeOf_eq_some_iff.mp hdstPlace with ⟨-, -, hplace⟩ | ⟨container, hbag, -, hplace⟩
    · cases hplace
    · obtain ⟨hguid, -⟩ := Place.inBag.inj hplace
      exact hapart.srcOutside (hsound.distinct hsrcItem (getBagByPos_eq_some hbag).1 hguid)

include hapart in
theorem Apart.symm : Apart env store dst src dstPlace srcPlace dstItem srcItem :=
  ⟨hapart.atDst, hapart.atSrc, hapart.different.symm, hapart.dstOutside, hapart.srcOutside⟩

include hsound hapart in
theorem releaseLoot_eq (hexchanged : Exchanged env store after srcPlace dstPlace)
    (hsrc : NotLooted env mover store src) (hdst : NotLooted env mover store dst) :
    releaseLoot env mover after src dst srcItem dstItem = after := by
  have hsrcInside : isLootedInside env after.items.at? src srcItem =
      isLootedInside env store.items.at? src srcItem := isLootedInside_of_frame hexchanged
    (fun hpos slot => (inBag_ne_of_apart hsound hapart hpos slot).1)
    (fun hpos slot => (inBag_ne_of_apart hsound hapart hpos slot).2)
  have hdstInside : isLootedInside env after.items.at? dst dstItem =
      isLootedInside env store.items.at? dst dstItem := isLootedInside_of_frame hexchanged
    (fun hpos slot => (inBag_ne_of_apart hsound hapart.symm hpos slot).2)
    (fun hpos slot => (inBag_ne_of_apart hsound hapart.symm hpos slot).1)
  unfold releaseLoot
  rw [hsrcInside, hdstInside]
  cases hlooting : mover.isLooting with
  | false => rfl
  | true =>
    rw [hsrc hlooting _ _ hapart.atSrc, hdst hlooting _ _ hapart.atDst]
    rfl

include hsound in
/-- Putting on or taking off comes after the exchange, and is the only thing that does. -/
theorem conserves_exchangeItems (hsizes : SmallBags env store)
    (hapart : Apart env store src dst srcPlace dstPlace srcItem dstItem)
    (hsrcLoot : NotLooted env mover store src) (hdstLoot : NotLooted env mover store dst) :
    Conserves env mover store
      (exchangeItems env mover src dst srcPlace dstPlace srcItem dstItem store) := by
  obtain ⟨hsrcPlace, hsrcItem⟩ := itemAt_eq_some_iff.mp hapart.atSrc
  obtain ⟨hdstPlace, hdstItem⟩ := itemAt_eq_some_iff.mp hapart.atDst
  unfold exchangeItems
  split
  · exact conserves_refused hsound _
  next srcDest hsrc =>
    split
    · exact conserves_refused hsound _
    next dstDest hdst =>
      split
      · exact conserves_refused hsound _
      next exchanged hbags =>
        obtain rfl := exchangeBags_eq hsizes hapart hsrc hdst hbags
        obtain rfl := swapped_of_canPlace (ne_nullSlot_of_placeOf hsizes hdstPlace)
          (hsound.bounds _ _ hsrcItem).2 hsrc
        obtain rfl := swapped_of_canPlace (ne_nullSlot_of_placeOf hsizes hsrcPlace)
          (hsound.bounds _ _ hdstItem).2 hdst
        have hexchanged := exchanged_of_apart mover hsound hapart
        dsimp only
        generalize storeItem env mover.player (storeItem env mover.player
          ((exchanged.removeItem dstPlace).removeItem srcPlace) srcItem
            [(.player dst.bag dst.slot, srcItem.count)]) dstItem
              [(.player src.bag src.slot, dstItem.count)] = stored at hexchanged ⊢
        rw [releaseLoot_eq hsound hapart hexchanged hsrcLoot hdstLoot]
        obtain ⟨hafter, hcounts, hmailed⟩ := autoUnequipOffhand_spec mover hexchanged.sound
        -- What is worn has not been touched by the exchange.
        have hoffhand : stored.items.at? (.own equipmentSlotOffhand) =
            exchanged.items.at? (.own equipmentSlotOffhand) :=
          hexchanged.frame _ (ne_own_of_worn hsrcPlace (by decide)).symm
            (ne_own_of_worn hdstPlace (by decide)).symm
        have hmainhand : stored.items.at? (.own equipmentSlotMainhand) =
            exchanged.items.at? (.own equipmentSlotMainhand) :=
          hexchanged.frame _ (ne_own_of_worn hsrcPlace (by decide)).symm
            (ne_own_of_worn hdstPlace (by decide)).symm
        refine ⟨(fun _ hrefused => nomatch hrefused), hafter, fun entry => ?_,
          fun item hitem => ?_⟩
        · rw [hcounts entry, hexchanged.counts entry]
        · have hmails := hmailed item (Outcome.done.inj hitem)
          refine ⟨hoffhand ▸ hmails.held, ?_, stored, srcPlace, dstPlace, hapart.different,
            hexchanged, hmails⟩
          have hstays := hmails.mayNotStay
          unfold offhandMayStay isTwoHandUsed at hstays ⊢
          rw [hmainhand] at hstays
          exact hstays

/-- The checks of `SwapItem` keep a bag out of itself. -/
theorem outside_of_swapRefuses {dstItem : Option Item}
    (hok : swapRefuses env mover items src dst srcItem dstItem = none) :
    ¬ (isBagPos src.bag src.slot = true ∧ src.slot = dst.bag) ∧
      ¬ (isBagPos dst.bag dst.slot = true ∧ src.bag = dst.slot) := by
  unfold swapRefuses at hok
  split at hok
  · cases hok
  split at hok
  · cases hok
  have hrest := (Option.or_eq_none_iff.mp hok).2
  split at hrest
  · cases hrest
  next hself =>
    split at hrest
    · cases hrest
    next hinside => exact ⟨hself, hinside⟩

include hsound in
theorem conserves_swapItem (hsizes : SmallBags env store) (hne : src ≠ dst)
    (hsrcLoot : NotLooted env mover store src) (hdstLoot : NotLooted env mover store dst) :
    Conserves env mover store (swapItem env mover src dst store) := by
  unfold swapItem
  cases hsrc : itemAt env store.items.at? src with
  | none => exact conserves_refused hsound _
  | some found =>
    obtain ⟨srcPlace, srcItem⟩ := found
    obtain ⟨hsrcPlace, hsrcItem⟩ := itemAt_eq_some_iff.mp hsrc
    dsimp only
    cases hrefuses : swapRefuses env mover store.items.at? src dst srcItem
        ((itemAt env store.items.at? dst).map Prod.snd) with
    | some error => exact conserves_refused hsound _
    | none =>
      obtain ⟨hself, hinside⟩ := outside_of_swapRefuses hrefuses
      have hsrcOutside := ne_own_bag hsrcPlace hself
      cases hdst : itemAt env store.items.at? dst with
      | none =>
        cases hplace : canPlace env mover store.items.at? dst srcItem false with
        | error error => exact conserves_refused hsound _
        | ok dest =>
          exact conserves_done (moveItem_of_canPlace hsound hsrcItem hsrcOutside hplace)
      | some held =>
        obtain ⟨dstPlace, dstItem⟩ := held
        obtain ⟨hdstPlace, hdstItem⟩ := itemAt_eq_some_iff.mp hdst
        -- Different positions are different places.
        have hdifferent : srcPlace ≠ dstPlace := by
          rintro rfl
          have hsame : Position.player src.bag src.slot = .player dst.bag dst.slot :=
            locate_inj hsound hsrcPlace hdstPlace
          obtain ⟨hbag, hslot⟩ := Position.player.inj hsame
          exact hne (by cases src; cases dst; simp_all)
        have hapart : Apart env store src dst srcPlace dstPlace srcItem dstItem :=
          ⟨hsrc, hdst, hdifferent, hsrcOutside,
            ne_own_bag hdstPlace fun hboth => hinside ⟨hboth.1, hboth.2.symm⟩⟩
        dsimp only
        split
        next dest hmerge =>
          split at hmerge
          · cases hmerge
          · cases hplace : canPlace env mover store.items.at? dst srcItem false with
            | error error =>
              rw [hplace] at hmerge
              cases hmerge
            | ok dest' =>
              rw [hplace] at hmerge
              obtain rfl := Option.some.inj hmerge
              exact conserves_done (mergeOrFill_spec hsound hsizes hapart hplace)
        · exact conserves_exchangeItems hsound hsizes hapart hsrcLoot hdstLoot

/-- The count of a stack has been lowered, and a copy with the difference is not stored yet. -/
structure Lowered (env : Environment) (store lowered : Store) (place : Place)
    (item newItem : Item) (count : Nat) : Prop where
  held : store.items.at? place = some item
  less : count < item.count
  at? : lowered.items.at? =
    Function.update store.items.at? place (some { item with count := item.count - count })
  sound : lowered.Sound env
  counts : ∀ entry, lowered.countOf entry + (if item.entry = entry then count else 0) =
    store.countOf entry
  loose : Loose lowered newItem
  copies : newItem.entry = item.entry ∧ newItem.count = count ∧ 1 ≤ count

theorem lowered_setCount (mover : Mover) {place : Place} {count : Nat} (hsound : store.Sound env)
    (hat : store.items.at? place = some item) (hpos : 1 ≤ count) (hless : count < item.count) :
    Lowered env store
      ((Store.mk store.items (store.nextGuid + 1)).setCount place item (item.count - count)) place
      item (cloneItem env item count store.nextGuid mover.player) count := by
  obtain ⟨-, hmax⟩ := hsound.bounds place item hat
  have hsound' := sound_nextGuid hsound
  have hat' : (Store.mk store.items (store.nextGuid + 1)).items.at? place = some item := hat
  refine ⟨hat, hless, at?_setCount, sound_setCount hsound' hat' (by omega) (by omega),
    fun entry => ?_, ?_, rfl, Nat.min_eq_left (by omega), hpos⟩
  · have hcount := countOf_setCount hat' (item.count - count) entry
    have hsame : (Store.mk store.items (store.nextGuid + 1)).countOf entry =
      store.countOf entry := rfl
    rw [hsame] at hcount
    by_cases hkind : item.entry = entry
    · simp only [if_pos hkind] at hcount ⊢
      omega
    · simp only [if_neg hkind] at hcount ⊢
      exact hcount
  · -- A new object is nowhere yet.
    have hloose := loose_nextGuid hsound
      (rfl : (cloneItem env item count store.nextGuid mover.player).guid = store.nextGuid)
    refine ⟨?_, hloose.issued⟩
    rw [at?_setCount]
    exact hloose.absent.put (Nat.ne_of_lt (hsound.issued place item hat))

section Split

variable {lowered : Store} {place : Place} {item newItem : Item} {count : Nat}
  (hlowered : Lowered env store lowered place item newItem count)

include hlowered

theorem Lowered.conserves_refused (hsound : store.Sound env) (error : Option EquipError) :
    Conserves env mover store (.refused error,
      lowered.setCount place { item with count := item.count - count }
        (item.count - count + count)) := by
  have hless := hlowered.less
  have hrestored : item.count - count + count = item.count := by omega
  have hleft : lowered.items.at? place = some { item with count := item.count - count } := by
    rw [hlowered.at?, Function.update_self]
  obtain ⟨hpos, hmax⟩ := hsound.bounds place item hlowered.held
  rw [hrestored]
  refine ⟨fun _ _ => ?_, sound_setCount hlowered.sound hleft hpos hmax, fun entry => ?_,
    fun _ hdone => nomatch hdone⟩
  · rw [at?_setCount, hlowered.at?, Function.update_idem]
    exact hlowered.held ▸ Function.update_eq_self place store.items.at?
  · have hback := countOf_setCount hleft item.count entry
    have hlower := hlowered.counts entry
    dsimp only [Outcome.mailedCount] at hback ⊢
    by_cases hkind : item.entry = entry
    · simp only [if_pos hkind] at hback hlower
      omega
    · simp only [if_neg hkind] at hback hlower
      omega

/-- A split that is carried out stores what has been taken away. -/
theorem Lowered.conserves_stored
    (hcheck : canPlace env mover lowered.items.at? dst newItem false = .ok dest) :
    Conserves env mover store (.done none, storeItem env mover.player lowered newItem dest) := by
  obtain ⟨hentry, hcount, hpos⟩ := hlowered.copies
  have hvalid : (Supply.loose newItem).Valid lowered newItem.entry newItem.count :=
    ⟨hlowered.loose, rfl, rfl, hcount ▸ hpos⟩
  have hself : ¬ InMovedBag env lowered (.loose newItem) dst.bag := by
    rintro ⟨moved, hmoved, hbag⟩
    obtain rfl := Option.some.inj hmoved
    exact hlowered.loose.absent (getBagByPos_eq_some hbag).1 rfl
  obtain ⟨hafter, hadded⟩ := executes_of_canPlace hlowered.sound hvalid rfl hself hcheck
  refine conserves_done ⟨hafter, fun entry => ?_⟩
  have hmore := hadded entry
  rw [hentry, hcount] at hmore
  exact hmore.trans (hlowered.counts entry)

end Split

include hsound in
theorem conserves_splitItem (count : Nat) :
    Conserves env mover store (splitItem env mover src dst count store) := by
  unfold splitItem
  cases hsrc : itemAt env store.items.at? src with
  | none => exact conserves_refused hsound _
  | some found =>
    obtain ⟨place, item⟩ := found
    have hitem := (itemAt_eq_some_iff.mp hsrc).2
    dsimp only
    split
    · exact conserves_refused hsound _
    split
    · exact conserves_refused hsound _
    next hall =>
      split
      · exact conserves_refused hsound _
      next hfew =>
        split
        · exact conserves_refused hsound _
        split
        · exact conserves_refused hsound _
        next hclone =>
          have hpos : 1 ≤ count := Nat.le_of_not_lt (not_or.mp hclone).1
          have hlowered := lowered_setCount mover hsound hitem hpos (by omega)
          split
          · exact hlowered.conserves_refused hsound _
          next dest hcheck => exact hlowered.conserves_stored hcheck

/-- Every request between positions of the inventory and of the bank conserves the items of every
kind and keeps all stacks within bounds, and one that is refused changes nothing.  What is being
looted inside a bag that is moved, and what may not stay in the off hand, apart. -/
theorem handleMove_conserves (env : Environment) (mover : Mover) (store : Store)
    (request : MoveRequest) (hsound : store.Sound env) (hsizes : SmallBags env store)
    (hloot : ∀ pos ∈ request.positions, NotLooted env mover store pos) :
    Conserves env mover store (handleMove env mover store request) := by
  cases request with
  | split src dst count =>
    unfold handleMove handleSplitItem
    dsimp only
    split
    · exact conserves_refused hsound _
    split
    · exact conserves_refused hsound _
    split
    · exact conserves_refused hsound _
    split
    · exact conserves_refused hsound _
    split
    · exact conserves_refused hsound _
    · exact conserves_splitItem hsound count
  | swap src dst =>
    obtain ⟨hsrcLoot, hrest⟩ := List.forall_mem_cons.mp hloot
    have hdstLoot := List.forall_mem_singleton.mp hrest
    unfold handleMove handleSwapItem
    dsimp only
    split
    · exact conserves_refused hsound _
    next hne =>
      split
      · exact conserves_refused hsound _
      split
      · exact conserves_refused hsound _
      split
      · exact conserves_refused hsound _
      · exact conserves_swapItem hsound hsizes hne hsrcLoot hdstLoot

end Requests

/-- Things that are held in the hands, one by one; the fourth kind in the off hand. -/
def armedTemplate (entry : UInt32) : Option ItemTemplate :=
  if entry = 3 ∨ entry = 4 then
    some ⟨entry, .other, 0, false, 0, 1, 0, 0, .noBind, false, 0, 0⟩
  else none

def armedEnvironment : Environment where
  getItemTemplate := armedTemplate
  templateId entry proto hproto := by
    unfold armedTemplate at hproto
    split at hproto
    · exact congrArg ItemTemplate.itemId (Option.some.inj hproto).symm
    · cases hproto
  limitCategory _ := none
  gemCountWithId _ _ := 0
  canLeave _ _ _ := true

def sampleMover : Mover where
  player := 7
  isAlive := true
  bankBagSlotCount := 0
  canUseItem _ := none
  cannotUnequip _ := none
  isTraded _ := false
  hasTrader := false
  castsFromItem := false
  isLooting := false
  doLootRelease := id
  canDualWield := false
  canTitanGrip := false
  inventoryType entry := if entry = 4 then .weaponOffhand else .other
  isWand _ := false

def sampleWeapon (guid : Nat) (entry : UInt32) : Item :=
  ⟨guid, entry, 1, false, false, [], false, 7⟩

def Store.arm (store : Store) (entry : UInt32) (places : List Place) : Store :=
  places.foldl (fun store place => store.deposit place (sampleWeapon store.nextGuid entry)) store

theorem sound_arm {store : Store} {entry : UInt32} (places : List Place)
    (hsound : store.Sound armedEnvironment) (hentry : maxStackCount armedEnvironment entry = 1) :
    (store.arm entry places).Sound armedEnvironment := by
  induction places generalizing store with
  | nil => exact hsound
  | cons place rest ih => exact ih (sound_deposit hsound place rfl ⟨le_rfl, hentry.ge⟩)

theorem smallBags_of_template {env : Environment} (store : Store)
    (htemplate : ∀ entry proto, env.getItemTemplate entry = some proto →
      proto.containerSlots ≤ maxBagSize) : SmallBags env store := by
  intro place item _ _
  unfold bagSize
  cases hproto : env.getItemTemplate item.entry with
  | none => exact Nat.zero_le _
  | some proto => exact htemplate _ _ hproto

theorem sampleTemplate_small {entry : UInt32} {proto : ItemTemplate}
    (hproto : sampleTemplate entry = some proto) : proto.containerSlots ≤ maxBagSize := by
  unfold sampleTemplate at hproto
  split at hproto
  · obtain rfl := Option.some.inj hproto
    exact Nat.zero_le _
  · split at hproto
    · obtain rfl := Option.some.inj hproto
      exact (by decide : 16 ≤ maxBagSize)
    · cases hproto

/-- A full backpack, and a weapon in the off hand that is worn no longer rightfully. -/
def armedStore : Store :=
  (emptyStore.arm 3 (ownPlaces inventorySlotItem.1 inventorySlotItem.2)).arm 4
    [.own equipmentSlotOffhand]

/-- A swap of two things in a full backpack sends what is in the off hand by mail. -/
theorem offhand_mailed :
    armedStore.Sound armedEnvironment ∧ SmallBags armedEnvironment armedStore ∧
      (handleMove armedEnvironment sampleMover armedStore
        (.swap ⟨255, 23, Or.inl rfl⟩ ⟨255, 24, Or.inl rfl⟩)).1 = .done (some (sampleWeapon 16 4)) ∧
      armedStore.countOf 4 = 1 ∧
      (handleMove armedEnvironment sampleMover armedStore
        (.swap ⟨255, 23, Or.inl rfl⟩ ⟨255, 24, Or.inl rfl⟩)).2.countOf 4 = 0 := by
  refine ⟨sound_arm _ (sound_arm _ (sound_emptyStore _) (by decide)) (by decide),
    smallBags_of_template _ ?_, by decide +kernel, by decide +kernel, by decide +kernel⟩
  intro entry proto hproto
  change armedTemplate entry = some proto at hproto
  unfold armedTemplate at hproto
  split at hproto
  · obtain rfl := Option.some.inj hproto
    exact Nat.zero_le _
  · cases hproto

/-- Cloth and a bag change places. -/
theorem cloth_and_bag_conserved :
    (handleMove sampleEnvironment sampleMover clothStore
        (.swap ⟨255, 23, Or.inl rfl⟩ ⟨255, 30, Or.inl rfl⟩)).1 = .done none ∧
      Conserves sampleEnvironment sampleMover clothStore
        (handleMove sampleEnvironment sampleMover clothStore
          (.swap ⟨255, 23, Or.inl rfl⟩ ⟨255, 30, Or.inl rfl⟩)) := by
  exact ⟨by decide +kernel, handleMove_conserves sampleEnvironment sampleMover clothStore _
    sound_clothStore (smallBags_of_template _ fun _ _ => sampleTemplate_small)
    fun _ _ hlooting => nomatch hlooting⟩

end MopServer.Items
