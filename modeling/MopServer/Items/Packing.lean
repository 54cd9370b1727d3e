import Mathlib.Algebra.Order.BigOperators.Group.Finset
import Mathlib.Algebra.Order.Ring.Nat
import MopServer.Items.Plan
import MopServer.Items.Room

/-! # Nothing is refused that there is room for

A search that ends with items left over has reserved all the room there is: what is reserved then
adds up to the total room.
-/

namespace MopServer.Items

variable (env : Environment) (items : Place → Option Item)

def takesItem (proto : ItemTemplate) (bag : UInt8) : Bool :=
  (getBagByPos env items bag).any fun container =>
    (env.getItemTemplate container.entry).any (itemCanGoIntoBag proto)

def isPlainBag (bag : UInt8) : Bool :=
  (getBagByPos env items bag).any fun container =>
    (env.getItemTemplate container.entry).any fun bagProto =>
      bagProto.itemClass = .container .container

/-- A request that stands in the way of nothing: it names no bag, the backpack or a bag that takes
the items, and a slot only if there is room in it. -/
structure Serves (env : Environment) (items : Place → Option Item) (proto : ItemTemplate)
    (bag slot : UInt8) : Prop where
  inBag : bag = nullBag ∨ bag = inventorySlotBag0 ∨
    bag ∈ slotRange inventorySlotBag.1 inventorySlotBag.2 ∧
      takesItem env items proto bag = true
  inSlot : bag ≠ nullBag → slot ≠ nullSlot →
    (bag, slot) ∈ storageSlots env items proto ∧ 0 < roomAt env items proto (.player bag slot)

/-- A reservation for new items, with no room left in it as long as something is to be placed. -/
structure Packed (env : Environment) (items : Place → Option Item) (proto : ItemTemplate)
    (positions : List Position) (total : Nat) (reservation : Reservation) : Prop where
  nodup : (reservation.dest.map Prod.fst).Nodup
  stored : ∀ pos ∈ reservation.dest, pos.1 ∈ positions
  fits : ∀ pos ∈ reservation.dest, pos.2 ≤ roomAt env items proto pos.1
  full : 0 < reservation.count →
    ∀ pos ∈ reservation.dest, pos.2 = roomAt env items proto pos.1
  sum : (reservation.dest.map Prod.snd).sum + reservation.count = total

/-- A search keeps what was reserved, and adds the positions it covers unless everything is
placed. -/
structure Searched (env : Environment) (items : Place → Option Item) (proto : ItemTemplate)
    (positions : List Position) (covered : Position → Prop) (total : Nat)
    (reservation found : Reservation) : Prop where
  packed : Packed env items proto positions total found
  keeps : ∀ position ∈ reservation.dest.map Prod.fst, position ∈ found.dest.map Prod.fst
  covers : 0 < found.count →
    ∀ position, covered position → position ∈ found.dest.map Prod.fst

/-- A search covers some positions.  One that is not required may fail if it covers none. -/
def Finds (proto : ItemTemplate) (positions : List Position) (covered : Position → Prop)
    (search : Search) : Prop :=
  ∀ total reservation, Packed env items proto positions total reservation →
    ((search.attempt reservation).1 = .ok ∧
        Searched env items proto positions covered total reservation
          (search.attempt reservation).2) ∨
      search.required = false ∧ (search.attempt reservation).1 ≠ .ok ∧
        (search.attempt reservation).2 = reservation ∧ ∀ position, ¬ covered position

/-- What all searches together come to. -/
structure Completed (env : Environment) (items : Place → Option Item) (proto : ItemTemplate)
    (positions : List Position) (list : List Search) (total noSimilarCount : Nat)
    (reservation : Reservation) (found : InventoryResult × Reservation) : Prop where
  packed : Packed env items proto positions total found.2
  keeps : ∀ position ∈ reservation.dest.map Prod.fst, position ∈ found.2.dest.map Prod.fst
  full : 0 < found.2.count → found.1 = .invFull ∧ ∀ search ∈ list, ∀ covered,
    Finds env items proto positions covered search →
      ∀ position, covered position → position ∈ found.2.dest.map Prod.fst
  placed : found.2.count = 0 →
    (0 < reservation.count ∨ ∃ search ∈ list, search.required = true) →
      found.1 = if noSimilarCount = 0 then .ok else .itemMaxCount

section

variable {env : Environment} {items : Place → Option Item} {proto : ItemTemplate}
  {positions : List Position} {total : Nat} {reservation : Reservation} {bag slot : UInt8}
  {merge : Bool} {position : Position} {visit : UInt8 → Reservation → Option Reservation}

theorem packed_start (env : Environment) (items : Place → Option Item) (proto : ItemTemplate)
    (positions : List Position) (total : Nat) :
    Packed env items proto positions total ⟨[], total⟩ where
  nodup := List.nodup_nil
  stored _ hpos := absurd hpos List.not_mem_nil
  fits _ hpos := absurd hpos List.not_mem_nil
  full _ _ hpos := absurd hpos List.not_mem_nil
  sum := Nat.zero_add _

theorem Packed.reserve (hpacked : Packed env items proto positions total reservation)
    (hstored : position ∈ positions) (hfresh : position ∉ reservation.dest.map Prod.fst) :
    Packed env items proto positions total
      (reservation.reserve position (roomAt env items proto position)) := by
  unfold Reservation.reserve
  rw [if_neg hfresh]
  refine ⟨?_, ?_, ?_, ?_, ?_⟩
  · simp only [List.map_append, List.map_cons, List.map_nil]
    exact List.nodup_append'.mpr ⟨hpacked.nodup, List.nodup_singleton _, by simpa using hfresh⟩
  · intro pos hpos
    rcases List.mem_append.mp hpos with hpos | hpos
    · exact hpacked.stored pos hpos
    · obtain rfl := List.mem_singleton.mp hpos
      exact hstored
  · intro pos hpos
    rcases List.mem_append.mp hpos with hpos | hpos
    · exact hpacked.fits pos hpos
    · obtain rfl := List.mem_singleton.mp hpos
      exact Nat.min_le_left _ _
  · intro hleft pos hpos
    dsimp only at hleft
    rcases List.mem_append.mp hpos with hpos | hpos
    · exact hpacked.full (by omega) pos hpos
    · obtain rfl := List.mem_singleton.mp hpos
      dsimp only
      omega
  · have hsum := hpacked.sum
    simp only [List.map_append, List.map_cons, List.map_nil, List.sum_append, List.sum_singleton]
    omega

theorem map_fst_reserve {space : Nat} (hfresh : position ∉ reservation.dest.map Prod.fst) :
    (reservation.reserve position space).dest.map Prod.fst =
      reservation.dest.map Prod.fst ++ [position] := by
  unfold Reservation.reserve
  rw [if_neg hfresh, List.map_append, List.map_singleton]

theorem othersAt_none : othersAt env items none bag slot = getItemByPos env items bag slot := by
  unfold othersAt
  cases getItemByPos env items bag slot <;> rfl

theorem visitSlot_eq : visitSlot env items proto none merge bag slot reservation =
    if .player bag slot ∈ reservation.dest.map Prod.fst ∨
        slotRoom env items proto merge bag slot = 0 then none
    else
      some (reservation.reserve (.player bag slot)
        (slotRoom env items proto merge bag slot)) := by
  have hstack := getMaxStackSize_pos proto
  unfold visitSlot slotRoom
  rw [othersAt_none]
  by_cases hdest : Position.player bag slot ∈ reservation.dest.map Prod.fst
  · rw [if_pos hdest, if_pos (Or.inl hdest)]
  · rw [if_neg hdest]
    cases getItemByPos env items bag slot with
    | none =>
      cases merge with
      | false => rw [if_neg (not_or.mpr ⟨hdest, Nat.ne_of_gt hstack⟩)]
      | true => rw [if_pos (Or.inr rfl)]
    | some held =>
      cases merge with
      | false => rw [if_pos (Or.inr rfl)]
      | true =>
        by_cases hmerge : canBeMergedPartlyWith held proto = .ok
        · have hroom := (canBeMergedPartlyWith_eq_ok hmerge).2
          simp only [if_pos hmerge]
          rw [if_neg (not_or.mpr ⟨hdest, by omega⟩)]
        · simp only [if_neg hmerge, or_true, if_true]

variable {rest : List UInt8}

theorem searchSlots_of_none (hvisit : visit slot reservation = none) :
    searchSlots visit (slot :: rest) reservation = searchSlots visit rest reservation := by
  rw [searchSlots, hvisit]

theorem searchSlots_of_some {next : Reservation} (hvisit : visit slot reservation = some next) :
    searchSlots visit (slot :: rest) reservation =
      if next.count = 0 then next else searchSlots visit rest next := by
  rw [searchSlots, hvisit]

theorem searched_searchSlots {skip : UInt8 → Prop} [DecidablePred skip] (slots : List UInt8)
    (hvisit : ∀ slot reservation, visit slot reservation = if skip slot then none
      else visitSlot env items proto none merge bag slot reservation)
    (hstored : ∀ slot ∈ slots, ¬ skip slot → .player bag slot ∈ positions)
    (hpacked : Packed env items proto positions total reservation) :
    Searched env items proto positions (fun position => ∃ slot ∈ slots, ¬ skip slot ∧
        0 < slotRoom env items proto merge bag slot ∧ position = .player bag slot) total reservation
      (searchSlots visit slots reservation) := by
  induction slots generalizing reservation with
  | nil =>
    refine ⟨hpacked, fun _ hposition => hposition, ?_⟩
    rintro - position ⟨slot, hslot, -⟩
    exact absurd hslot List.not_mem_nil
  | cons slot rest ih =>
    have hrest := fun other hother => hstored other (List.mem_cons_of_mem slot hother)
    by_cases hout : skip slot ∨ .player bag slot ∈ reservation.dest.map Prod.fst ∨
        slotRoom env items proto merge bag slot = 0
    · -- The slot is skipped, reserved already, or without room.
      have hnone : visit slot reservation = none := by
        rw [hvisit, visitSlot_eq]
        rcases hout with hskip | hout
        · rw [if_pos hskip]
        · rw [if_pos hout, ite_self]
      rw [searchSlots_of_none hnone]
      have hfound := ih hrest hpacked
      refine ⟨hfound.packed, hfound.keeps, ?_⟩
      rintro hleft position ⟨other, hother, hskip, hroom, rfl⟩
      rcases List.mem_cons.mp hother with rfl | hother
      · rcases hout with hout | hdest | hzero
        · exact absurd hout hskip
        · exact hfound.keeps _ hdest
        · exact absurd hzero (Nat.ne_of_gt hroom)
      · exact hfound.covers hleft _ ⟨other, hother, hskip, hroom, rfl⟩
    · obtain ⟨hskip, hvisible⟩ := not_or.mp hout
      obtain ⟨hfresh, hroom⟩ := not_or.mp hvisible
      have hsome : visit slot reservation = some (reservation.reserve (.player bag slot)
          (slotRoom env items proto merge bag slot)) := by
        rw [hvisit, visitSlot_eq, if_neg hskip, if_neg hvisible]
      have hnext := hpacked.reserve (hstored slot List.mem_cons_self hskip) hfresh
      rw [roomAt_eq (Nat.pos_of_ne_zero hroom)] at hnext
      have hdest : (reservation.reserve (.player bag slot)
          (slotRoom env items proto merge bag slot)).dest.map Prod.fst =
            reservation.dest.map Prod.fst ++ [.player bag slot] := map_fst_reserve hfresh
      rw [searchSlots_of_some hsome]
      generalize reservation.reserve (.player bag slot)
        (slotRoom env items proto merge bag slot) = next at hnext hdest ⊢
      split
      next hzero =>
        refine ⟨hnext, fun position hposition => ?_, fun hleft => absurd hzero hleft.ne'⟩
        rw [hdest]
        exact List.mem_append_left _ hposition
      · have hfound := ih hrest hnext
        have hkeeps : ∀ position ∈ reservation.dest.map Prod.fst ++ [.player bag slot],
            position ∈ (searchSlots visit rest next).dest.map Prod.fst := by
          rw [← hdest]
          exact hfound.keeps
        refine ⟨hfound.packed, fun position hposition =>
          hkeeps position (List.mem_append_left _ hposition), ?_⟩
        rintro hleft position ⟨other, hother, hskip', hroom', rfl⟩
        rcases List.mem_cons.mp hother with rfl | hother
        · exact hkeeps _ (List.mem_append_right _ (List.mem_singleton_self _))
        · exact hfound.covers hleft _ ⟨other, hother, hskip', hroom', rfl⟩

theorem completed_runSearches {list : List Search} (noSimilarCount : Nat)
    (hfinds : ∀ search ∈ list, ∃ covered, Finds env items proto positions covered search)
    (hpacked : Packed env items proto positions total reservation) :
    Completed env items proto positions list total noSimilarCount reservation
      (runSearches noSimilarCount list reservation) := by
  -- The induction is on the searches that are left; what the first one found is kept by the rest.
  induction list generalizing reservation with
  | nil =>
    refine ⟨hpacked, fun _ hposition => hposition, fun _ => ⟨rfl, ?_⟩, ?_⟩
    · exact fun _ hsearch => absurd hsearch List.not_mem_nil
    · rintro hzero (hleft | ⟨search, hsearch, -⟩)
      · exact absurd hzero hleft.ne'
      · exact absurd hsearch List.not_mem_nil
  | cons search rest ih =>
    have hrest := fun other hother => hfinds other (List.mem_cons_of_mem search hother)
    obtain ⟨covered, hsearch⟩ := hfinds search List.mem_cons_self
    unfold runSearches
    dsimp only
    rcases hsearch total reservation hpacked with
      ⟨hok, hfound⟩ | ⟨hoptional, hfailed, hsame, hnone⟩
    · rw [if_neg (not_not.mpr hok)]
      split
      next hzero =>
        exact ⟨hfound.packed, hfound.keeps, fun hleft => absurd hzero hleft.ne', fun _ _ => rfl⟩
      next hleft =>
        have hdone := ih hrest hfound.packed
        refine ⟨hdone.packed, fun position hposition =>
          hdone.keeps position (hfound.keeps position hposition), ?_, ?_⟩
        · intro hcount
          refine ⟨(hdone.full hcount).1, ?_⟩
          intro other hother covered' hcovers position hposition
          rcases List.mem_cons.mp hother with rfl | hother
          · rcases hcovers total reservation hpacked with ⟨-, hfound'⟩ | ⟨-, hfailed, -⟩
            · exact hdone.keeps position
                (hfound'.covers (Nat.pos_of_ne_zero hleft) position hposition)
            · exact absurd hok hfailed
          · exact (hdone.full hcount).2 other hother covered' hcovers position hposition
        · exact fun hzero _ => hdone.placed hzero (Or.inl (Nat.pos_of_ne_zero hleft))
    · rw [if_pos hfailed, hoptional, hsame]
      have hdone := ih hrest hpacked
      refine ⟨hdone.packed, hdone.keeps, ?_, ?_⟩
      · intro hcount
        refine ⟨(hdone.full hcount).1, ?_⟩
        intro other hother covered' hcovers position hposition
        rcases List.mem_cons.mp hother with rfl | hother
        · rcases hcovers total reservation hpacked with ⟨hok, -⟩ | ⟨-, -, -, hnone'⟩
          · exact absurd hok hfailed
          · exact absurd hposition (hnone' position)
        · exact (hdone.full hcount).2 other hother covered' hcovers position hposition
      · rintro hzero (hleft | ⟨other, hother, hrequired⟩)
        · exact hdone.placed hzero (Or.inl hleft)
        · rcases List.mem_cons.mp hother with rfl | hother
          · rw [hoptional] at hrequired
            cases hrequired
          · exact hdone.placed hzero (Or.inr ⟨other, hother, hrequired⟩)

/-! ## The searches -/

variable {nonSpecialized : Bool} {other : UInt8}

theorem finds_backpackSearch :
    Finds env items proto (searchedPositions env items proto bag slot) (fun position =>
      ∃ other ∈ slotRange inventorySlotItem.1 inventorySlotItem.2,
        ¬ (inventorySlotBag0 = bag ∧ other = slot) ∧
          0 < slotRoom env items proto merge inventorySlotBag0 other ∧
            position = .player inventorySlotBag0 other)
    (backpackSearch env items proto none bag slot merge) := by
  intro total reservation hpacked
  refine Or.inl ⟨rfl, ?_⟩
  exact searched_searchSlots _ (fun _ _ => rfl)
    (fun _ hother _ => mem_searchedPositions (mem_storageSlots_iff.mpr (Or.inl ⟨rfl, hother⟩))
      fun _ hown => absurd rfl hown) hpacked

theorem mem_fittingSlots {container : Item} {bagProto : ItemTemplate}
    (hbag : getBagByPos env items bag = some container)
    (hproto : env.getItemTemplate container.entry = some bagProto)
    (hgoes : itemCanGoIntoBag proto bagProto = true) :
    fittingSlots env items proto bag = slotRange 0 (bagSize env container) := by
  unfold fittingSlots
  rw [hbag]
  dsimp only
  rw [hproto, Option.any_some, if_pos hgoes]

theorem container_of_mem_fittingSlots (hslot : slot ∈ fittingSlots env items proto bag) :
    ∃ container, getBagByPos env items bag = some container ∧
      (env.getItemTemplate container.entry).any (itemCanGoIntoBag proto) = true ∧
        slot.toNat < bagSize env container := by
  unfold fittingSlots at hslot
  cases hbag : getBagByPos env items bag with
  | none =>
    rw [hbag] at hslot
    exact absurd hslot List.not_mem_nil
  | some container =>
    rw [hbag] at hslot
    dsimp only at hslot
    split at hslot
    next hgoes => exact ⟨container, rfl, hgoes, toNat_lt_of_mem_slotRange hslot⟩
    · exact absurd hslot List.not_mem_nil

theorem takesItem_of_mem_fittingSlots (hslot : slot ∈ fittingSlots env items proto bag) :
    takesItem env items proto bag = true := by
  obtain ⟨container, hbag, hgoes, -⟩ := container_of_mem_fittingSlots hslot
  unfold takesItem
  rw [hbag, Option.any_some, hgoes]

theorem toNat_lt_of_mem_fittingSlots
    (hsizes : ∀ bag container, getBagByPos env items bag = some container →
      bagSize env container ≤ maxBagSize) (hslot : slot ∈ fittingSlots env items proto bag) :
    slot.toNat < maxBagSize := by
  obtain ⟨container, hbag, -, hlt⟩ := container_of_mem_fittingSlots hslot
  exact hlt.trans_le (hsizes bag container hbag)

variable (hbag : bag ∈ slotRange inventorySlotBag.1 inventorySlotBag.2)

include hbag in
theorem ne_own_of_mem_slotRange : bag ≠ inventorySlotBag0 := by
  rintro rfl
  exact absurd (toNat_lt_of_mem_slotRange hbag) (by decide)

theorem canStoreItemInBag_eq {skipBag skipSlot : UInt8} :
    canStoreItemInBag env items proto none merge nonSpecialized skipBag skipSlot bag reservation =
      if bag ≠ skipBag ∧ takesItem env items proto bag = true ∧
          isPlainBag env items bag = nonSpecialized then
        (.ok, searchSlots (visitBag env items proto none merge bag skipSlot)
          (fittingSlots env items proto bag) reservation)
      else (.wrongBagType, reservation) := by
  unfold canStoreItemInBag takesItem isPlainBag
  by_cases hskip : bag = skipBag
  · rw [if_pos hskip, if_neg fun hall => hall.1 hskip]
  rw [if_neg hskip]
  cases hbag : getBagByPos env items bag with
  | none => rw [if_neg fun hall => by simp at hall]
  | some container =>
    dsimp only
    rw [if_neg (by simp [isOther]), if_neg (by simp)]
    cases hproto : env.getItemTemplate container.entry with
    | none => rw [if_neg fun hall => by simp [hproto] at hall]
    | some bagProto =>
      simp only [Option.any_some, hproto]
      by_cases hsort : nonSpecialized = decide (bagProto.itemClass = .container .container)
      · rw [if_neg (not_not.mpr hsort)]
        by_cases hgoes : itemCanGoIntoBag proto bagProto = true
        · rw [if_neg (by simp [hgoes]), if_pos ⟨hskip, hgoes, hsort.symm⟩,
            mem_fittingSlots hbag hproto hgoes]
          rfl
        · rw [if_pos (by simpa using hgoes), if_neg fun hall => hgoes hall.2.1]
      · rw [if_pos hsort, if_neg fun hall => hsort hall.2.2.symm]

theorem searched_bag (merge : Bool)
    (hother : other ∈ slotRange inventorySlotBag.1 inventorySlotBag.2)
    (hpacked : Packed env items proto (searchedPositions env items proto bag slot) total
      reservation) :
    Searched env items proto (searchedPositions env items proto bag slot)
      (fun position => ∃ free ∈ fittingSlots env items proto other, ¬ free = slot ∧
        0 < slotRoom env items proto merge other free ∧ position = .player other free)
      total reservation (searchSlots (visitBag env items proto none merge other slot)
        (fittingSlots env items proto other) reservation) :=
  searched_searchSlots _ (fun _ _ => rfl)
    (fun _ hfree hskip => mem_searchedPositions
      (mem_storageSlots_iff.mpr (Or.inr ⟨hother, hfree⟩)) fun _ _ => hskip) hpacked

/-- A bag of the wrong sort is left out. -/
theorem finds_bagSearch (hother : other ∈ slotRange inventorySlotBag.1 inventorySlotBag.2) :
    Finds env items proto (searchedPositions env items proto bag slot) (fun position =>
      other ≠ bag ∧ isPlainBag env items other = nonSpecialized ∧
          ∃ free ∈ fittingSlots env items proto other, ¬ free = slot ∧
            0 < slotRoom env items proto merge other free ∧ position = .player other free)
      ⟨false, canStoreItemInBag env items proto none merge nonSpecialized bag slot other⟩ := by
  intro total reservation hpacked
  dsimp only
  rw [canStoreItemInBag_eq]
  split
  next hall =>
    have hfound := searched_bag merge hother hpacked
    exact Or.inl ⟨rfl, hfound.packed, hfound.keeps, fun hleft position hposition =>
      hfound.covers hleft position hposition.2.2⟩
  next hout =>
    refine Or.inr ⟨rfl, (fun hok => nomatch hok), rfl, ?_⟩
    rintro position ⟨hskip, hsort, free, hfree, -⟩
    exact hout ⟨hskip, takesItem_of_mem_fittingSlots hfree, hsort⟩

include hbag in
theorem finds_thisBagSearch (htakes : takesItem env items proto bag = true) :
    Finds env items proto (searchedPositions env items proto bag slot) (fun position =>
      ∃ other ∈ fittingSlots env items proto bag,
        ¬ other = slot ∧ 0 < slotRoom env items proto merge bag other ∧
          position = .player bag other)
      (thisBagSearch env items proto none bag slot merge) := by
  have hnamed : bag ≠ nullBag := by
    rintro rfl
    exact absurd hbag (by decide)
  intro total reservation hpacked
  have hattempt (nonSpecialized : Bool) :
      canStoreItemInBag env items proto none merge nonSpecialized nullBag slot bag reservation =
        if isPlainBag env items bag = nonSpecialized then
          (.ok, searchSlots (visitBag env items proto none merge bag slot)
            (fittingSlots env items proto bag) reservation)
        else (.wrongBagType, reservation) := by
    rw [canStoreItemInBag_eq]
    simp only [hnamed, htakes, ne_eq, not_false_eq_true, true_and]
  have hfound := searched_bag merge hbag hpacked
  unfold thisBagSearch
  rw [if_neg (ne_own_of_mem_slotRange hbag)]
  dsimp only
  refine Or.inl ?_
  cases hsort : isPlainBag env items bag with
  | false =>
    rw [hattempt, if_pos hsort]
    exact ⟨rfl, hfound⟩
  | true =>
    have hspecial := hattempt false
    rw [hsort, if_neg (by decide : ¬ true = false)] at hspecial
    rw [hspecial, if_neg (fun hok => nomatch hok), hattempt, if_pos hsort]
    exact ⟨rfl, hfound⟩

variable (hstored : (bag, slot) ∈ storageSlots env items proto)

include hstored in
theorem slotFits_of_mem : slotFits env items proto bag slot = true := by
  unfold slotFits
  rcases mem_storageSlots_iff.mp hstored with ⟨rfl, hslot⟩ | ⟨hbag, hslot⟩
  · have hlt := toNat_lt_of_mem_slotRange hslot
    rw [if_pos rfl]
    exact decide_eq_true (hlt.trans (by decide))
  · obtain ⟨container, hheld, hgoes, hlt⟩ := container_of_mem_fittingSlots hslot
    rw [if_neg (ne_own_of_mem_slotRange hbag), hheld, Option.any_some, hgoes, Bool.and_true]
    exact decide_eq_true hlt

variable (hroom : 0 < roomAt env items proto (.player bag slot))

include hstored hroom in
theorem canStoreItemInSpecificSlot_eq :
    canStoreItemInSpecificSlot env items proto none false bag slot reservation =
      (.ok, reservation.reserve (.player bag slot)
        (roomAt env items proto (.player bag slot))) := by
  have hfits := slotFits_of_mem hstored
  unfold canStoreItemInSpecificSlot
  rw [if_neg (by simp), if_neg (by decide : ¬ false = true), othersAt_none]
  cases hheld : getItemByPos env items bag slot with
  | none =>
    rw [if_pos hfits, roomAt_of_none hheld]
  | some held =>
    rw [roomAt_of_some hheld] at hroom ⊢
    dsimp only
    by_cases hmerge : canBeMergedPartlyWith held proto = .ok
    · rw [hmerge, if_pos rfl]
    · rw [if_neg hmerge] at hroom
      exact absurd hroom (lt_irrefl 0)

include hstored hroom in
theorem finds_specificSlot :
    Finds env items proto (searchedPositions env items proto bag slot)
      (fun position => position = .player bag slot)
      ⟨true, canStoreItemInSpecificSlot env items proto none false bag slot⟩ := by
  intro total reservation hpacked
  dsimp only
  rw [canStoreItemInSpecificSlot_eq hstored hroom]
  refine Or.inl ⟨rfl, ?_⟩
  by_cases hdest : Position.player bag slot ∈ reservation.dest.map Prod.fst
  · have hsame : reservation.reserve (.player bag slot)
        (roomAt env items proto (.player bag slot)) = reservation := if_pos hdest
    rw [hsame]
    refine ⟨hpacked, fun _ hposition => hposition, ?_⟩
    rintro - position rfl
    exact hdest
  · have hstored' : Position.player bag slot ∈ searchedPositions env items proto bag slot :=
      mem_searchedPositions hstored fun hbag => absurd rfl hbag
    refine ⟨hpacked.reserve hstored' hdest, ?_, ?_⟩
    · intro position hposition
      rw [map_fst_reserve hdest]
      exact List.mem_append_left _ hposition
    · rintro - position rfl
      rw [map_fst_reserve hdest]
      exact List.mem_append_right _ (List.mem_singleton_self _)

theorem stackable_of_slotRoom (hstacks : ∀ place stack, items place = some stack → 1 ≤ stack.count)
    (hroom : 0 < slotRoom env items proto true bag slot) : proto.stackable ≠ 1 := by
  intro hone
  unfold slotRoom at hroom
  cases hheld : getItemByPos env items bag slot with
  | none =>
    rw [hheld] at hroom
    exact lt_irrefl 0 hroom
  | some held =>
    rw [hheld] at hroom
    dsimp only at hroom
    obtain ⟨place, -, hplace⟩ := Option.bind_eq_some_iff.mp hheld
    have hcount := hstacks place held hplace
    have hmax : proto.getMaxStackSize = 1 := by
      unfold ItemTemplate.getMaxStackSize
      rw [hone]
      decide
    split at hroom
    · omega
    · exact lt_irrefl 0 hroom

theorem bagFamily_of_special (htakes : takesItem env items proto bag = true)
    (hspecial : isPlainBag env items bag = false) : proto.bagFamily ≠ 0 := by
  intro hfamily
  unfold takesItem isPlainBag at *
  cases hheld : getBagByPos env items bag with
  | none =>
    rw [hheld] at htakes
    cases htakes
  | some container =>
    rw [hheld, Option.any_some] at htakes hspecial
    cases hproto : env.getItemTemplate container.entry with
    | none =>
      rw [hproto] at htakes
      cases htakes
    | some bagProto =>
      rw [hproto, Option.any_some] at htakes hspecial
      unfold itemCanGoIntoBag at htakes
      rw [hfamily] at htakes
      unfold bagMask at htakes
      split at htakes <;> simp_all

section Made

variable (src : Option Item) (swap : Bool) (hmerge : merge = true → proto.stackable ≠ 1)

theorem specificSlot_mem_searches (hbag : bag ≠ nullBag) (hslot : slot ≠ nullSlot) :
    ⟨true, canStoreItemInSpecificSlot env items proto src swap bag slot⟩ ∈
      searches env items proto src swap bag slot := by
  unfold searches
  simp [hbag, hslot]

include hmerge

theorem thisBagSearch_mem_searches (hbag : bag ≠ nullBag) :
    thisBagSearch env items proto src bag slot merge ∈
      searches env items proto src swap bag slot := by
  unfold searches
  cases merge with
  | true => simp [hbag, hmerge rfl]
  | false => simp [hbag]

theorem backpackSearch_mem_searches : backpackSearch env items proto src bag slot merge ∈
    searches env items proto src swap bag slot := by
  unfold searches
  cases merge with
  | true => simp [hmerge rfl]
  | false => simp

theorem bagSearch_mem_searches (hother : other ∈ slotRange inventorySlotBag.1 inventorySlotBag.2)
    (hfamily : nonSpecialized = false → proto.bagFamily ≠ 0) :
    ⟨false, canStoreItemInBag env items proto src merge nonSpecialized bag slot other⟩ ∈
      searches env items proto src swap bag slot := by
  have hmem : ⟨false, canStoreItemInBag env items proto src merge nonSpecialized bag slot other⟩ ∈
      bagSearches env items proto src bag slot merge nonSpecialized :=
    List.mem_map.mpr ⟨other, hother, rfl⟩
  unfold searches
  cases merge with
  | true =>
    cases nonSpecialized with
    | true => simp [hmerge rfl, hmem]
    | false => simp [hmerge rfl, hfamily rfl, hmem]
  | false =>
    cases nonSpecialized with
    | true => simp [hmem]
    | false => simp [hfamily rfl, hmem]

end Made

section Requests

variable (hserves : Serves env items proto bag slot)

include hserves

theorem finds_searches : ∀ search ∈ searches env items proto none false bag slot,
    ∃ covered,
      Finds env items proto (searchedPositions env items proto bag slot) covered search := by
  have hsingle {covered : Position → Prop} (search : Search)
      (hfinds : Finds env items proto (searchedPositions env items proto bag slot) covered search) :
      ∀ other ∈ [search], ∃ covered,
        Finds env items proto (searchedPositions env items proto bag slot) covered other :=
    List.forall_mem_singleton.mpr ⟨_, hfinds⟩
  have hbags (merge nonSpecialized : Bool) :
      ∀ search ∈ bagSearches env items proto none bag slot merge nonSpecialized,
        ∃ covered,
          Finds env items proto (searchedPositions env items proto bag slot) covered search := by
    intro search hsearch
    obtain ⟨other, hother, rfl⟩ := List.mem_map.mp hsearch
    exact ⟨_, finds_bagSearch hother⟩
  have hthis (hnamed : bag ≠ nullBag) (merge : Bool) :
      ∃ covered, Finds env items proto (searchedPositions env items proto bag slot) covered
        (thisBagSearch env items proto none bag slot merge) := by
    rcases hserves.inBag with hnull | hown | ⟨hbag, htakes⟩
    · exact absurd hnull hnamed
    · unfold thisBagSearch
      rw [if_pos hown]
      exact ⟨_, finds_backpackSearch⟩
    · exact ⟨_, finds_thisBagSearch hbag htakes⟩
  unfold searches
  simp only [List.forall_mem_append]
  refine ⟨⟨⟨⟨⟨⟨⟨⟨?_, ?_⟩, ?_⟩, ?_⟩, ?_⟩, ?_⟩, ?_⟩, ?_⟩, hbags false true⟩
  · exact forall_mem_guarded fun hnamed =>
      have hslot := hserves.inSlot hnamed.1 hnamed.2
      hsingle _ (finds_specificSlot hslot.1 hslot.2)
  · exact forall_mem_guarded fun hnamed => List.forall_mem_singleton.mpr (hthis hnamed.1 true)
  · exact forall_mem_guarded fun hnamed => List.forall_mem_singleton.mpr (hthis hnamed false)
  · exact forall_mem_guarded fun _ => hsingle _ finds_backpackSearch
  · exact forall_mem_guarded fun _ => hbags true false
  · exact forall_mem_guarded fun _ => hbags true true
  · exact forall_mem_guarded fun _ => hbags false false
  · refine List.forall_mem_cons.mpr ⟨⟨fun _ => False, ?_⟩, hsingle _ finds_backpackSearch⟩
    intro total reservation hpacked
    exact Or.inl ⟨rfl, hpacked, fun _ hposition => hposition, fun _ _ hnone => hnone.elim⟩

theorem covers_searches (hstacks : ∀ place stack, items place = some stack → 1 ≤ stack.count)
    (hsizes : ∀ bag container, getBagByPos env items bag = some container →
      bagSize env container ≤ maxBagSize)
    (hsearched : position ∈ searchedPositions env items proto bag slot)
    (hroom : 0 < roomAt env items proto position) :
    ∃ search ∈ searches env items proto none false bag slot, ∃ covered,
      Finds env items proto (searchedPositions env items proto bag slot) covered search ∧
        covered position := by
  obtain ⟨hstored, hskipped⟩ := List.mem_filter.mp hsearched
  obtain ⟨⟨other, free⟩, hmem, rfl⟩ := List.mem_map.mp hstored
  obtain ⟨merge, hslotRoom⟩ : ∃ merge, 0 < slotRoom env items proto merge other free := by
    rcases Nat.add_pos_iff_pos_or_pos.mp hroom with hempty | hstack
    · exact ⟨false, hempty⟩
    · exact ⟨true, hstack⟩
  have hmerge : merge = true → proto.stackable ≠ 1 := by
    rintro rfl
    exact stackable_of_slotRoom hstacks hslotRoom
  -- A slot that the others leave out is the one that is named.
  have hnamed (hbag : other = bag) (hslot : free = slot) (hnull : bag ≠ nullBag)
      (hfree : free ≠ nullSlot) : ∃ search ∈ searches env items proto none false bag slot,
        ∃ covered, Finds env items proto (searchedPositions env items proto bag slot) covered
          search ∧ covered (.player other free) := by
    subst hbag hslot
    exact ⟨_, specificSlot_mem_searches none false hnull hfree, _,
      finds_specificSlot hmem hroom, rfl⟩
  rcases mem_storageSlots_iff.mp hmem with ⟨rfl, hfree⟩ | ⟨hother, hfree⟩
  · by_cases hskip : inventorySlotBag0 = bag ∧ free = slot
    · refine hnamed hskip.1 hskip.2 (hskip.1 ▸ by decide) ?_
      rintro rfl
      exact absurd (toNat_lt_of_mem_slotRange hfree) (by decide)
    · exact ⟨_, backpackSearch_mem_searches none false hmerge, _, finds_backpackSearch,
        free, hfree, hskip, hslotRoom, rfl⟩
  · have htakes := takesItem_of_mem_fittingSlots hfree
    by_cases hbag : other = bag
    · have hnull : other ≠ nullBag := by
        rintro rfl
        exact absurd hother (by decide)
      by_cases hslot : free = slot
      · refine hnamed hbag hslot (hbag ▸ hnull) ?_
        rintro rfl
        exact absurd (toNat_lt_of_mem_fittingSlots hsizes hfree) (by decide)
      · subst hbag
        exact ⟨_, thisBagSearch_mem_searches none false hmerge hnull, _,
          finds_thisBagSearch hother htakes, free, hfree, hslot, hslotRoom, rfl⟩
    · -- Slots with the number of the named one are not searched in other bags.
      have hslot : free ≠ slot := by
        rintro rfl
        exact absurd hskipped (by simp [isSkipped, hbag, ne_own_of_mem_slotRange hother])
      exact ⟨_, bagSearch_mem_searches none false hmerge hother
          fun hspecial => bagFamily_of_special htakes hspecial,
        _, finds_bagSearch hother, hbag, rfl, free, hfree, hslot, hslotRoom, rfl⟩

end Requests

/-! ## The total room -/

section Totals

variable (hpacked : Packed env items proto positions total reservation)

include hpacked

theorem dest_subset :
    (reservation.dest.map Prod.fst).toFinset ⊆ positions.toFinset := by
  intro position hposition
  obtain ⟨pos, hpos, rfl⟩ := List.mem_map.mp (List.mem_toFinset.mp hposition)
  exact List.mem_toFinset.mpr (hpacked.stored pos hpos)

theorem sum_stored : (reservation.dest.map fun pos => roomAt env items proto pos.1).sum =
    ∑ position ∈ (reservation.dest.map Prod.fst).toFinset, roomAt env items proto position := by
  rw [List.sum_toFinset _ hpacked.nodup, List.map_map]
  rfl

variable (hnodup : positions.Nodup)

include hnodup

theorem Packed.sum_le : (reservation.dest.map Prod.snd).sum ≤
    (positions.map (roomAt env items proto)).sum := by
  calc (reservation.dest.map Prod.snd).sum
      ≤ (reservation.dest.map fun pos => roomAt env items proto pos.1).sum :=
        List.sum_le_sum hpacked.fits
    _ = ∑ position ∈ (reservation.dest.map Prod.fst).toFinset,
          roomAt env items proto position := sum_stored hpacked
    _ ≤ ∑ position ∈ positions.toFinset, roomAt env items proto position :=
        Finset.sum_le_sum_of_subset (dest_subset hpacked)
    _ = (positions.map (roomAt env items proto)).sum := List.sum_toFinset _ hnodup

/-- If something is left over, all the room is taken. -/
theorem Packed.sum_eq (hleft : 0 < reservation.count)
    (hall : ∀ position ∈ positions, 0 < roomAt env items proto position →
      position ∈ reservation.dest.map Prod.fst) :
    (reservation.dest.map Prod.snd).sum = (positions.map (roomAt env items proto)).sum := by
  calc (reservation.dest.map Prod.snd).sum
      = (reservation.dest.map fun pos => roomAt env items proto pos.1).sum := by
        rw [List.map_congr_left (hpacked.full hleft)]
    _ = ∑ position ∈ (reservation.dest.map Prod.fst).toFinset,
          roomAt env items proto position := sum_stored hpacked
    _ = ∑ position ∈ positions.toFinset, roomAt env items proto position := by
        refine Finset.sum_subset (dest_subset hpacked) fun position hstored hout => ?_
        by_contra hroom
        exact hout (List.mem_toFinset.mpr
          (hall position (List.mem_toFinset.mp hstored) (Nat.pos_of_ne_zero hroom)))
    _ = (positions.map (roomAt env items proto)).sum := List.sum_toFinset _ hnodup

end Totals

theorem searchedRoom_le : searchedRoom env items proto bag slot ≤ totalRoom env items proto := by
  exact (List.Sublist.map _ List.filter_sublist).sum_le_sum fun _ _ => Nat.zero_le _

/-- A request that names nothing stands in the way of nothing. -/
theorem serves_anywhere : Serves env items proto nullBag nullSlot where
  inBag := Or.inl rfl
  inSlot hbag := absurd rfl hbag

theorem left_of_searches (hserves : Serves env items proto bag slot)
    (hstacks : ∀ place stack, items place = some stack → 1 ≤ stack.count)
    (hsizes : ∀ bag container, getBagByPos env items bag = some container →
      bagSize env container ≤ maxBagSize) (noSimilarCount total : Nat) :
    (runSearches noSimilarCount (searches env items proto none false bag slot)
        ⟨[], total⟩).2.count = total - searchedRoom env items proto bag slot ∧
      (runSearches noSimilarCount (searches env items proto none false bag slot)
        ⟨[], total⟩).1 =
          if total ≤ searchedRoom env items proto bag slot then
            if noSimilarCount = 0 then .ok else .itemMaxCount
          else .invFull := by
  have hdone := completed_runSearches noSimilarCount (finds_searches hserves)
    (packed_start env items proto (searchedPositions env items proto bag slot) total)
  have hnodup : (searchedPositions env items proto bag slot).Nodup :=
    (nodup_storagePositions hsizes).filter _
  generalize runSearches noSimilarCount (searches env items proto none false bag slot)
    ⟨[], total⟩ = found at hdone ⊢
  have hsum := hdone.packed.sum
  have hle : (found.2.dest.map Prod.snd).sum ≤ searchedRoom env items proto bag slot :=
    hdone.packed.sum_le hnodup
  rcases Nat.eq_zero_or_pos found.2.count with hzero | hleft
  · rw [if_pos (by omega), hzero]
    refine ⟨by omega, hdone.placed hzero (Or.inr ?_)⟩
    exact ⟨_, backpackSearch_mem_searches none false fun hmerge => absurd hmerge Bool.false_ne_true,
      rfl⟩
  · obtain ⟨hresult, hcovers⟩ := hdone.full hleft
    have heq : (found.2.dest.map Prod.snd).sum = searchedRoom env items proto bag slot := by
      refine hdone.packed.sum_eq hnodup hleft fun position hsearched hroom => ?_
      obtain ⟨search, hsearch, covered, hfinds, hposition⟩ :=
        covers_searches hserves hstacks hsizes hsearched hroom
      exact hcovers search hsearch covered hfinds position hposition
    rw [if_neg (by omega)]
    exact ⟨by omega, hresult⟩

/-- New items are stored if the limits allow them all and there is room for them all, for any
request that stands in the way of nothing and leaves out no slot they need.  Else `CanStoreItem`
counts exactly those that are not allowed or that there is no room for. -/
theorem canStoreItem_complete (env : Environment) (items : Place → Option Item) (player : UInt64)
    (bag slot : UInt8) (entry : UInt32) (count : Nat) (proto : ItemTemplate)
    (hproto : env.getItemTemplate entry = some proto) (hcount : count < 2 ^ 32)
    (hstacks : ∀ place stack, items place = some stack → 1 ≤ stack.count)
    (hsizes : ∀ bag container, getBagByPos env items bag = some container →
      bagSize env container ≤ maxBagSize)
    (hlimits : LimitsKept env items proto count) (hserves : Serves env items proto bag slot)
    (hskipped : min (allowedCount env items proto count) (totalRoom env items proto) ≤
      searchedRoom env items proto bag slot) :
    (count ≤ allowedCount env items proto count → count ≤ totalRoom env items proto →
        (canStoreItem env items player bag slot entry count none false).1 = .ok) ∧
      (allowedCount env items proto count < count ∨ totalRoom env items proto < count →
        LimitsOrdered env items proto count →
          (canStoreItem env items player bag slot entry count none false).1 ≠ .ok ∧
            noSpaceCount env items player bag slot entry count none false =
              some (count - min (allowedCount env items proto count)
                (totalRoom env items proto))) := by
  have hchecks := checks_canTakeMoreSimilarItems hlimits
  have hle : allowedCount env items proto count ≤ count := allowedBy_le _ _
  have hleft := left_of_searches hserves hstacks hsizes
  have hsearched : searchedRoom env items proto bag slot ≤ totalRoom env items proto :=
    searchedRoom_le
  unfold canStoreItem noSpaceCount
  simp only [hproto, Option.any_none, Bool.false_eq_true, if_false]
  rcases Nat.lt_or_eq_of_le hle with hrefused | hallowed
  · obtain ⟨hresult, hsimilar⟩ := hchecks.refused hrefused
    refine ⟨fun hall => absurd hall (Nat.not_le.mpr hrefused), fun _ hordered => ?_⟩
    have hexact : (canTakeMoreSimilarItems env items proto count none).2 =
      count - allowedCount env items proto count := hsimilar hordered
    generalize canTakeMoreSimilarItems env items proto count none = similar at hresult hexact ⊢
    generalize allowedCount env items proto count = allowed at *
    generalize totalRoom env items proto = room at *
    generalize searchedRoom env items proto bag slot = searched at *
    by_cases hnone : allowed = 0
    · have hall : similar.1 ≠ .ok ∧ count = similar.2 := ⟨hresult, by omega⟩
      rw [if_pos hall, if_pos hall]
      refine ⟨hresult, congrArg some ?_⟩
      omega
    · have hsome : ¬ (similar.1 ≠ .ok ∧ count = similar.2) := by omega
      have htotal : (count + (2 ^ 32 - similar.2)) % 2 ^ 32 = allowed := by omega
      rw [if_neg hsome, if_neg hsome, if_neg hresult, if_neg hresult, htotal]
      obtain ⟨hover, hfound⟩ := hleft similar.2 allowed
      generalize runSearches similar.2 (searches env items proto none false bag slot)
        ⟨[], allowed⟩ = found at hover hfound ⊢
      have hfailed : found.1 ≠ .ok ∧ found.1 ≠ .bagInBag := by
        rw [hfound]
        split
        · rw [if_neg (by omega)]
          decide
        · decide
      rw [if_neg (not_or.mpr hfailed)]
      refine ⟨hfailed.1, congrArg some ?_⟩
      omega
  · rw [hchecks.allowed hallowed, hallowed]
    have hnone : ¬ (InventoryResult.ok ≠ .ok ∧ count = 0) := fun hall => hall.1 rfl
    rw [if_neg hnone, if_neg hnone]
    simp only [if_true]
    obtain ⟨hover, hfound⟩ := hleft 0 count
    generalize runSearches 0 (searches env items proto none false bag slot) ⟨[], count⟩ = found
      at hover hfound ⊢
    generalize totalRoom env items proto = room at *
    generalize searchedRoom env items proto bag slot = searched at *
    refine ⟨fun _ hroom => ?_, fun hmore _ => ?_⟩
    · rw [hfound, if_pos (by omega), if_pos rfl]
    · rw [if_neg (by omega)] at hfound
      rw [hfound]
      refine ⟨by decide, ?_⟩
      rw [if_neg (by decide)]
      refine congrArg some ?_
      omega

end

theorem bagSize_sampleEnvironment (container : Item) :
    bagSize sampleEnvironment container ≤ maxBagSize := by
  have htemplate : ∀ entry, ((sampleTemplate entry).map ItemTemplate.containerSlots).getD 0 ≤
      maxBagSize := by
    intro entry
    unfold sampleTemplate
    split
    · exact Nat.zero_le maxBagSize
    · split
      · exact (by decide : 16 ≤ maxBagSize)
      · exact Nat.zero_le maxBagSize
  exact htemplate container.entry

def clothTemplate : ItemTemplate := ⟨1, .other, 0, false, 0, 20, 0, 0, .noBind, false, 0, 0⟩

theorem limitsKept_cloth (count : Nat) :
    LimitsKept sampleEnvironment clothStore.items.at? clothTemplate count where
  kept _ hlimit := absurd hlimit List.not_mem_nil
  small _ hlimit := absurd hlimit List.not_mem_nil
  known hcategory := absurd rfl hcategory

/-- There is room for 295 pieces of cloth, and of 300 there are five too many. -/
theorem cloth_stored_completely :
    (canStoreItem sampleEnvironment clothStore.items.at? 7 0 255 1 295 none false).1 = .ok ∧
      noSpaceCount sampleEnvironment clothStore.items.at? 7 0 255 1 300 none false = some 5 := by
  have hroom : totalRoom sampleEnvironment clothStore.items.at? clothTemplate = 295 := by
    decide +kernel
  have hsearched :
      searchedRoom sampleEnvironment clothStore.items.at? clothTemplate 0 255 = 295 := by
    decide +kernel
  have hsizes := fun (bag : UInt8) (container : Item)
    (_ : getBagByPos sampleEnvironment clothStore.items.at? bag = some container) =>
      bagSize_sampleEnvironment container
  have hskipped (count : Nat) :
      min (allowedCount sampleEnvironment clothStore.items.at? clothTemplate count)
        (totalRoom sampleEnvironment clothStore.items.at? clothTemplate) ≤
          searchedRoom sampleEnvironment clothStore.items.at? clothTemplate 0 255 := by
    rw [hroom, hsearched]
    exact min_le_right _ _
  have hstacks := fun place stack hstack => (sound_clothStore.bounds place stack hstack).1
  refine ⟨?_, ?_⟩
  · exact (canStoreItem_complete sampleEnvironment clothStore.items.at? 7 0 255 1 295 clothTemplate
      rfl (by decide) hstacks hsizes (limitsKept_cloth 295) serves_anywhere (hskipped 295)).1
        (le_of_eq rfl) (le_of_eq hroom.symm)
  · have hcounted := ((canStoreItem_complete sampleEnvironment clothStore.items.at? 7 0 255 1 300
      clothTemplate rfl (by decide) hstacks hsizes (limitsKept_cloth 300) serves_anywhere
        (hskipped 300)).2 (Or.inr (hroom ▸ by decide)) List.Pairwise.nil).2
    rw [hroom] at hcounted
    exact hcounted

/-- A slot that holds something else is refused, however much room there is elsewhere. -/
theorem named_slot_refused :
    clothStore.Sound sampleEnvironment ∧
      allowedCount sampleEnvironment clothStore.items.at? clothTemplate 1 = 1 ∧
      1 ≤ totalRoom sampleEnvironment clothStore.items.at? clothTemplate ∧
      (canStoreItem sampleEnvironment clothStore.items.at? 7 255 30 1 1 none false).1 ≠ .ok :=
  ⟨sound_clothStore, by decide +kernel, by decide +kernel, by decide +kernel⟩

end MopServer.Items
