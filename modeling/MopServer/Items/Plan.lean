import MopServer.Items.Storage

/-! # Plans

`CanStoreItem` plans and `StoreItem` executes.  Between the two an item of the inventory is
taken out of its slot, so that its own slot counts as free.
-/

namespace MopServer.Items

open MopServer.Foundation

/-- What is to be stored: new items, an item that is in no slot, or an item of the
inventory. -/
inductive Supply where
  | fresh
  | loose (item : Item)
  | held (place : Place) (item : Item)
  deriving DecidableEq, Repr

namespace Supply

/-- `pItem`. -/
def item? : Supply → Option Item
  | fresh => none
  | loose item => some item
  | held _ item => some item

def takeOut (supply : Supply) (store : Store) : Store :=
  match supply with
  | held place _ => { store with items := store.items.put place none }
  | _ => store

def execute (env : Environment) (player : UInt64) (supply : Supply) (store : Store)
    (entry : UInt32) (dest : List (Position × Nat)) : Store :=
  match supply.item? with
  | none => storeNewItem env player store entry dest
  | some item => storeItem env player (supply.takeOut store) item dest

/-- The supply is what it claims to be: a stack of the entry and count. -/
def Valid (store : Store) (entry : UInt32) (count : Nat) : Supply → Prop
  | fresh => True
  | loose item => Loose store item ∧ item.entry = entry ∧ item.count = count ∧ 1 ≤ item.count
  | held place item =>
    store.items.at? place = some item ∧ item.entry = entry ∧ item.count = count

end Supply

variable (env : Environment) (store : Store)

/-- A position of a plan: a free slot, the slot of the moved item itself, or a stack that can
be merged with and has room. -/
def Planned (supply : Supply) (entry : UInt32) (pos : Position × Nat) : Prop :=
  ∃ place, locate env store.items.at? pos.1 = some place ∧
    ((store.items.at? place = none ∧ pos.2 ≤ maxStackCount env entry) ∨
      (∃ item, supply = .held place item ∧ pos.2 ≤ maxStackCount env entry) ∨
      ∃ stack, store.items.at? place = some stack ∧ stack.entry = entry ∧
        stack.count + pos.2 ≤ maxStackCount env entry)

/-- A plan for a number of items. -/
structure SoundPlan (env : Environment) (store : Store) (supply : Supply) (entry : UInt32)
    (count : Nat) (dest : List (Position × Nat)) : Prop where
  distinct : (dest.map Prod.fst).Nodup
  sum : (dest.map Prod.snd).sum = count
  planned : ∀ pos ∈ dest, Planned env store supply entry pos

/-- Executing a plan adds the items and nothing else, and keeps all stacks within bounds. -/
def Executes (player : UInt64) (store : Store) (supply : Supply) (entry : UInt32) (count : Nat)
    (dest : List (Position × Nat)) : Prop :=
  (supply.execute env player store entry dest).Sound env ∧
    ∀ other, (supply.execute env player store entry dest).countOf other =
      (supply.takeOut store).countOf other + if entry = other then count else 0

/-- The position lies in the bag that is moved. -/
def InMovedBag (supply : Supply) (bag : UInt8) : Prop :=
  ∃ item, supply.item? = some item ∧ getBagByPos env store.items.at? bag = some item

section

variable {env : Environment} {store : Store} {supply : Supply} {entry : UInt32} {count : Nat}
  {bag slot : UInt8} {position : Position} {place : Place} {item : Item} {pos : Position × Nat}

/-- A position of the player that does not lie in the bag that is moved. -/
def Outside (env : Environment) (store : Store) (supply : Supply) : Position → Prop
  | .bank _ _ => False
  | .player bag slot => (placeOf env store.items.at? bag slot).isSome = true ∧
      ∀ container item, getBagByPos env store.items.at? bag = some container →
        supply.item? = some item → container.guid ≠ item.guid

theorem isPlayer_of_outside (houtside : Outside env store supply position) : IsPlayer position := by
  cases position with
  | bank tab slot => exact houtside.elim
  | player bag slot => trivial

variable (hvalid : supply.Valid store entry count) (hsound : store.Sound env)

include hvalid hsound in
theorem Supply.Valid.held_of_guid {stack : Item} (hitem : supply.item? = some item)
    (hstack : store.items.at? place = some stack) (hguid : stack.guid = item.guid) :
    supply = .held place item ∧ stack = item := by
  cases supply with
  | fresh => cases hitem
  | loose other =>
    obtain rfl := Option.some.inj hitem
    exact absurd hguid (hvalid.1.absent hstack)
  | held home other =>
    obtain rfl := Option.some.inj hitem
    obtain rfl := hsound.distinct hstack hvalid.1 hguid
    exact ⟨rfl, Option.some.inj (hstack.symm.trans hvalid.1)⟩

theorem isOther_iff {src : Option Item} :
    isOther src item = true ↔ ∀ moved, src = some moved → item.guid ≠ moved.guid := by
  cases src <;> simp [isOther]

include hsound in
theorem admits_outside (hvalid : supply.Valid store entry count)
    (hself : slot ≠ nullSlot → ¬ InMovedBag env store supply bag) :
    Admits env store.items.at? supply.item? bag slot (Outside env store supply) where
  own other hother := by
    have hplace : placeOf env store.items.at? inventorySlotBag0 other = some (.own other) :=
      placeOf_eq_some_iff.mpr (Or.inl ⟨rfl, hother, rfl⟩)
    refine ⟨by rw [hplace]; rfl, ?_⟩
    intro container item hbag
    exact absurd hbag (by simp [getBagByPos, within, inventorySlotBag0, inventorySlotBag,
      bankSlotBag])
  bags otherBag container other hbag hother hslot := by
    refine ⟨by rw [placeOf_of_getBagByPos hbag hslot]; rfl, ?_⟩
    intro container' item hbag' hitem
    obtain rfl := Option.some.inj (hbag.symm.trans hbag')
    exact isOther_iff.mp hother item hitem
  named hslot hplace := by
    refine ⟨hplace, ?_⟩
    intro container item hbag hitem hguid
    obtain ⟨-, rfl⟩ := hvalid.held_of_guid hsound hitem (getBagByPos_eq_some hbag).1 hguid
    exact hself hslot ⟨container, hitem, hbag⟩

theorem at?_takeOut (supply : Supply) (store : Store) :
    (supply.takeOut store).items.at? = match supply with
      | .held place _ => Function.update store.items.at? place none
      | _ => store.items.at? := by
  cases supply with
  | held place item => exact Shelf.at?_put store.items place none
  | fresh => rfl
  | loose item => rfl

theorem takeOut_of_ne (hplace : ∀ item, supply ≠ .held place item) :
    (supply.takeOut store).items.at? place = store.items.at? place := by
  rw [at?_takeOut]
  cases supply with
  | held home item =>
    have hne : place ≠ home := fun heq => hplace item (heq ▸ rfl)
    exact Function.update_of_ne hne _ _
  | fresh => rfl
  | loose item => rfl

include hvalid in
theorem getBagByPos_takeOut {container : Item}
    (hbag : getBagByPos env store.items.at? bag = some container)
    (hother : ∀ item, supply.item? = some item → container.guid ≠ item.guid) :
    getBagByPos env (supply.takeOut store).items.at? bag = some container := by
  obtain ⟨hinside, -⟩ := getBagByPos_eq_some hbag
  have hplace : ∀ item, supply ≠ .held (.own bag) item := by
    rintro item rfl
    obtain rfl := Option.some.inj (hinside.symm.trans hvalid.1)
    exact hother container rfl rfl
  unfold getBagByPos at hbag ⊢
  rw [takeOut_of_ne hplace]
  exact hbag

include hvalid in
theorem locate_takeOut (houtside : Outside env store supply position)
    (hlocate : locate env store.items.at? position = some place) :
    locate env (supply.takeOut store).items.at? position = some place := by
  cases position with
  | bank tab slot => exact hlocate
  | player bag slot =>
    rcases placeOf_eq_some_iff.mp hlocate with hown | ⟨container, hbag, hslot, hplace⟩
    · exact placeOf_eq_some_iff.mpr (Or.inl hown)
    · exact placeOf_eq_some_iff.mpr (Or.inr ⟨container,
        getBagByPos_takeOut hvalid hbag fun item => houtside.2 container item hbag, hslot,
        hplace⟩)

include hvalid hsound in
/-- To leave out the moved item is to see the store after it has been taken out. -/
theorem filter_isOther_eq_takeOut (place : Place) :
    (store.items.at? place).filter (isOther supply.item?) =
      (supply.takeOut store).items.at? place := by
  by_cases hheld : ∃ item, supply = .held place item
  · obtain ⟨item, rfl⟩ := hheld
    rw [at?_takeOut, hvalid.1]
    simp [Supply.item?, isOther]
  · have hne : ∀ item, supply ≠ .held place item := fun item heq => hheld ⟨item, heq⟩
    rw [takeOut_of_ne hne]
    cases hstack : store.items.at? place with
    | none => rfl
    | some stack =>
      rw [Option.filter_some_eq_some]
      refine isOther_iff.mpr fun item hitem hguid => ?_
      exact hne item (hvalid.held_of_guid hsound hitem hstack hguid).1

include hvalid hsound in
/-- The searches see the inventory as it is after the moved item has been taken out. -/
theorem viewOf_eq_takeOut (hplace : placeOf env store.items.at? bag slot = some place) :
    viewOf env store.items.at? supply.item? (.player bag slot) =
      (supply.takeOut store).items.at? place := by
  have hview : viewOf env store.items.at? supply.item? (.player bag slot) =
      (store.items.at? place).filter (isOther supply.item?) := by
    simp only [viewOf, othersAt, getItemByPos, hplace, Option.bind_some]
  rw [hview]
  exact filter_isOther_eq_takeOut hvalid hsound place

include hvalid hsound in
/-- A plan of `CanStoreItem` fits the inventory without the moved item. -/
theorem ready_of_takes (hpos : 0 < pos.2)
    (htakes : Takes env (Outside env store supply) (viewOf env store.items.at? supply.item?)
      entry pos.1 pos.2) : Ready env (supply.takeOut store) entry pos := by
  obtain ⟨position, n⟩ := pos
  obtain ⟨houtside, hroom⟩ := htakes
  cases position with
  | bank tab slot => exact houtside.elim
  | player bag slot =>
    obtain ⟨place, hplace⟩ := Option.isSome_iff_exists.mp houtside.1
    rw [viewOf_eq_takeOut hvalid hsound hplace] at hroom
    exact ⟨place, locate_takeOut hvalid houtside hplace, hpos, hroom⟩

include hvalid hsound in
theorem planned_of_takes
    (htakes : Takes env (Outside env store supply) (viewOf env store.items.at? supply.item?)
      entry pos.1 pos.2) : Planned env store supply entry pos := by
  obtain ⟨position, n⟩ := pos
  obtain ⟨houtside, hroom⟩ := htakes
  cases position with
  | bank tab slot => exact houtside.elim
  | player bag slot =>
    obtain ⟨place, hplace⟩ := Option.isSome_iff_exists.mp houtside.1
    rw [viewOf_eq_takeOut hvalid hsound hplace] at hroom
    refine ⟨place, hplace, ?_⟩
    by_cases hheld : ∃ item, supply = .held place item
    · obtain ⟨item, rfl⟩ := hheld
      rw [at?_takeOut] at hroom
      simp only [Function.update_self] at hroom
      exact Or.inr (Or.inl ⟨item, rfl, hroom⟩)
    · have hne : ∀ item, supply ≠ .held place item := fun item heq => hheld ⟨item, heq⟩
      rw [takeOut_of_ne hne] at hroom
      cases hstack : store.items.at? place with
      | none =>
        rw [hstack] at hroom
        exact Or.inl ⟨rfl, hroom⟩
      | some stack =>
        rw [hstack] at hroom
        exact Or.inr (Or.inr ⟨stack, rfl, hroom⟩)

theorem sound_takeOut (supply : Supply) (hsound : store.Sound env) :
    (supply.takeOut store).Sound env := by
  cases supply with
  | fresh => exact hsound
  | loose item => exact hsound
  | held place item =>
    have hat : ((Supply.held place item).takeOut store).items.at? =
      Function.update store.items.at? place none := at?_takeOut _ store
    refine ⟨?_, ?_, ?_⟩
    · intro other found hfound
      rw [hat, update_eq_some_iff] at hfound
      rcases hfound with ⟨-, ⟨⟩⟩ | ⟨-, hfound⟩
      exact hsound.bounds other found hfound
    · rw [hat]
      exact hsound.distinct.clear place
    · intro other found hfound
      rw [hat, update_eq_some_iff] at hfound
      rcases hfound with ⟨-, ⟨⟩⟩ | ⟨-, hfound⟩
      exact hsound.issued other found hfound

include hvalid hsound in
/-- The moved item can be stored once it has been taken out. -/
theorem loose_takeOut (hitem : supply.item? = some item) : Loose (supply.takeOut store) item := by
  cases supply with
  | fresh => cases hitem
  | loose other =>
    obtain rfl := Option.some.inj hitem
    exact hvalid.1
  | held place other =>
    obtain rfl := Option.some.inj hitem
    refine ⟨?_, hsound.issued place other hvalid.1⟩
    rw [at?_takeOut]
    exact hsound.distinct.absent_clear hvalid.1

/-- The template of items that can be stored exists. -/
theorem createItem_eq_some (player : UInt64) (hpos : 0 < count)
    (hroom : 0 < maxStackCount env entry) :
    ∃ item, createItem env store entry count player = some item ∧
      item.guid = store.nextGuid ∧ item.entry = entry := by
  unfold createItem
  rw [if_neg (by omega)]
  unfold maxStackCount at hroom
  cases hproto : env.getItemTemplate entry with
  | none =>
    rw [hproto] at hroom
    exact absurd hroom (Nat.lt_irrefl 0)
  | some proto => exact ⟨_, rfl, rfl, rfl⟩

include hsound in
theorem sound_nextGuid : (Store.mk store.items (store.nextGuid + 1)).Sound env where
  bounds := hsound.bounds
  distinct := hsound.distinct
  issued place item hitem := Nat.lt_succ_of_lt (hsound.issued place item hitem)

include hsound in
theorem loose_nextGuid (hguid : item.guid = store.nextGuid) :
    Loose ⟨store.items, store.nextGuid + 1⟩ item where
  absent place other hother := by
    rw [hguid]
    exact Nat.ne_of_lt (hsound.issued place other hother)
  issued := by
    rw [hguid]
    exact Nat.lt_succ_self _

theorem executes_of_reserved (player : UInt64) (hsound : store.Sound env)
    (hvalid : supply.Valid store entry count) {dest : List (Position × Nat)}
    (hreserved : Reserved env (Outside env store supply)
      (viewOf env store.items.at? supply.item?) entry count ⟨dest, 0⟩) :
    Executes env player store supply entry count dest := by
  have hsum : (dest.map Prod.snd).sum = count := hreserved.sum
  have hkind : ∀ pos ∈ dest, IsPlayer pos.1 := fun pos hpos =>
    isPlayer_of_outside (hreserved.takes pos hpos).1
  have hready (hpos : 0 < count) :
      ∀ pos ∈ dest, Ready env (supply.takeOut store) entry pos := fun pos hmem =>
    ready_of_takes hvalid hsound (hreserved.positive pos hmem hpos) (hreserved.takes pos hmem)
  unfold Executes Supply.execute
  cases hitem : supply.item? with
  | some item =>
    have hfacts : item.entry = entry ∧ 0 < count := by
      cases supply with
      | fresh => cases hitem
      | loose other =>
        obtain rfl := Option.some.inj hitem
        exact ⟨hvalid.2.1, hvalid.2.2.1 ▸ hvalid.2.2.2⟩
      | held place other =>
        obtain rfl := Option.some.inj hitem
        exact ⟨hvalid.2.1, hvalid.2.2 ▸ (hsound.bounds place other hvalid.1).1⟩
    obtain ⟨rfl, hpos⟩ := hfacts
    rw [← hsum]
    exact storeLoop_spec (adds_playerStoreAt env player item) dest hkind hreserved.nodup
      (sound_takeOut supply hsound) (loose_takeOut hvalid hsound hitem) (hready hpos)
  | none =>
    cases supply with
    | loose other => cases hitem
    | held place other => cases hitem
    | fresh =>
      simp only [storeNewItem, hsum]
      rcases Nat.eq_zero_or_pos count with rfl | hpos
      · have hcreate : createItem env store entry 0 player = none := rfl
        rw [hcreate]
        refine ⟨hsound, fun other => ?_⟩
        have hzero : (if entry = other then 0 else 0) = 0 := ite_self 0
        rw [hzero]
        rfl
      · obtain ⟨pos, hmem⟩ : ∃ pos, pos ∈ dest := by
          cases dest with
          | nil => simp at hsum; omega
          | cons pos rest => exact ⟨pos, List.mem_cons_self⟩
        have hroom : 0 < maxStackCount env entry := by
          obtain ⟨place, -, hpos', hroom⟩ := hready hpos pos hmem
          split at hroom <;> omega
        obtain ⟨item, hcreate, hguid, hentry⟩ := createItem_eq_some player hpos hroom
        rw [hcreate]
        have hspec := storeLoop_spec (adds_playerStoreAt env player item) dest hkind
          hreserved.nodup (sound_nextGuid hsound) (loose_nextGuid hsound hguid)
          (hentry ▸ hready hpos)
        rw [hentry, hsum] at hspec
        exact hspec

/-- Whatever `CanStoreItem` plans for any inventory, items and position is a sound plan, and
executing it adds exactly those items; a position in the very bag that is moved apart. -/
theorem canStoreItem_plan_sound (env : Environment) (store : Store) (hsound : store.Sound env)
    (player : UInt64) (bag slot : UInt8) (entry : UInt32) (count : Nat) (supply : Supply)
    (hvalid : supply.Valid store entry count)
    (hself : slot ≠ nullSlot → ¬ InMovedBag env store supply bag)
    (dest : List (Position × Nat))
    (hok : canStoreItem env store.items.at? player bag slot entry count supply.item? false =
      (.ok, dest)) :
    SoundPlan env store supply entry count dest ∧
      Executes env player store supply entry count dest := by
  have hreserved := reserved_of_canStoreItem (admits_outside hsound hvalid hself) (by rw [hok])
  rw [hok] at hreserved
  refine ⟨⟨hreserved.nodup, hreserved.sum, ?_⟩, executes_of_reserved player hsound hvalid hreserved⟩
  intro pos hpos
  exact planned_of_takes hvalid hsound (hreserved.takes pos hpos)

end

/-- Cloth comes in stacks of twenty, bags one by one. -/
def sampleTemplate (entry : UInt32) : Option ItemTemplate :=
  let plain : ItemTemplate := ⟨entry, .other, 0, false, 0, 20, 0, 0, .noBind, false, 0, 0⟩
  if entry = 1 then some plain
  else if entry = 2 then
    some { plain with
      itemClass := .container .container
      isBag := true
      containerSlots := 16
      stackable := 1 }
  else none

def sampleEnvironment : Environment where
  getItemTemplate := sampleTemplate
  templateId entry proto hproto := by
    unfold sampleTemplate at hproto
    simp only at hproto
    split at hproto
    · exact congrArg ItemTemplate.itemId (Option.some.inj hproto).symm
    · split at hproto
      · exact congrArg ItemTemplate.itemId (Option.some.inj hproto).symm
      · cases hproto
  limitCategory _ := none
  gemCountWithId _ _ := 0
  canLeave _ _ _ := true

def sampleCloth (guid count : Nat) : Item := ⟨guid, 1, count, false, false, [], false, 7⟩

def sampleBag (guid : Nat) : Item := ⟨guid, 2, 1, false, false, [], false, 7⟩

/-- A store with nothing in it, before the first guid has been issued. -/
def emptyStore : Store := ⟨Shelf.bare, 0⟩

def Store.deposit (place : Place) (stack : Item) : Store :=
  ⟨store.items.put place (some stack), store.nextGuid + 1⟩

theorem sound_emptyStore : emptyStore.Sound env where
  bounds _ _ hitem := nomatch hitem
  distinct := fun _ _ _ _ hitem => nomatch hitem
  issued _ _ hitem := nomatch hitem

theorem sound_deposit {env : Environment} {store : Store} (hsound : store.Sound env)
    (place : Place) {stack : Item} (hguid : stack.guid = store.nextGuid)
    (hbounds : 1 ≤ stack.count ∧ stack.count ≤ maxStackCount env stack.entry) :
    (store.deposit place stack).Sound env := by
  have hat : (store.deposit place stack).items.at? =
    Function.update store.items.at? place (some stack) := Shelf.at?_put store.items place _
  refine ⟨?_, ?_, ?_⟩
  · rw [hat]
    exact forall_update hsound.bounds hbounds
  · rw [hat]
    refine hsound.distinct.put fun other found hfound => ?_
    rw [hguid]
    exact Nat.ne_of_lt (hsound.issued other found hfound)
  · rw [hat]
    refine forall_update (fun other found hfound => ?_) (hguid ▸ Nat.lt_succ_self _)
    exact Nat.lt_succ_of_lt (hsound.issued other found hfound)

/-- Five pieces of cloth in the backpack, and a bag that is not in use. -/
def clothStore : Store :=
  (emptyStore.deposit (.own 23) (sampleCloth 0 5)).deposit (.own 30) (sampleBag 1)

theorem sound_clothStore : clothStore.Sound sampleEnvironment :=
  sound_deposit (sound_deposit (sound_emptyStore _) _ rfl (by decide +kernel)) _ rfl
    (by decide +kernel)

/-- Eighteen pieces of cloth fill up the stack, and the rest goes to the next slot. -/
theorem cloth_plan_sound :
    SoundPlan sampleEnvironment clothStore .fresh 1 18
        [(.player 255 23, 15), (.player 255 24, 3)] ∧
      Executes sampleEnvironment 7 clothStore .fresh 1 18
        [(.player 255 23, 15), (.player 255 24, 3)] :=
  canStoreItem_plan_sound sampleEnvironment clothStore sound_clothStore 7 0 255 1 18 .fresh
    trivial (fun hslot => absurd rfl hslot) _ (by decide +kernel)

/-- Cloth in a slot with a low number, and an empty bag in use. -/
def bagStore : Store :=
  (emptyStore.deposit (.own 3) (sampleCloth 0 5)).deposit (.own 19) (sampleBag 1)

theorem sound_bagStore : bagStore.Sound sampleEnvironment :=
  sound_deposit (sound_deposit (sound_emptyStore _) _ rfl (by decide +kernel)) _ rfl
    (by decide +kernel)

/-- A bag can be planned into itself.  With the bag taken out, its slot number is taken for one
of the player, and the cloth there is lost. -/
theorem bag_into_itself_loses_cloth :
    bagStore.Sound sampleEnvironment ∧
      (Supply.held (.own 19) (sampleBag 1)).Valid bagStore 2 1 ∧
      canStoreItem sampleEnvironment bagStore.items.at? 7 19 3 2 1 (some (sampleBag 1)) false =
        (.ok, [(.player 19 3, 1)]) ∧
      ¬ Executes sampleEnvironment 7 bagStore (.held (.own 19) (sampleBag 1)) 2 1
        [(.player 19 3, 1)] := by
  refine ⟨sound_bagStore, ⟨by decide +kernel, rfl, rfl⟩, by decide +kernel, ?_⟩
  rintro ⟨-, hcount⟩
  have hlost : ((Supply.held (.own 19) (sampleBag 1)).execute sampleEnvironment 7 bagStore 2
      [(.player 19 3, 1)]).countOf 1 = 0 := by decide +kernel
  have hheld : ((Supply.held (.own 19) (sampleBag 1)).takeOut bagStore).countOf 1 = 5 := by
    decide +kernel
  have hcloth := hcount 1
  rw [hlost, hheld] at hcloth
  exact absurd hcloth (by decide)

end MopServer.Items
