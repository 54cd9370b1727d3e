import MopServer.Items.Inventory

/-! # Storing items

A plan says how many items go to which positions.  Storing follows the plan: it adds to
stacks that are there, puts copies into empty slots, and the item itself goes to the last
position.
-/

namespace MopServer.Items

open MopServer.Foundation

/-- All stacks, and the next guid. -/
structure Store where
  items : Shelf Place Item
  nextGuid : Nat

/-- All stacks are within bounds, no object is in two places, and guids have been issued. -/
structure Store.Sound (env : Environment) (store : Store) : Prop where
  bounds : ∀ place item, store.items.at? place = some item →
    1 ≤ item.count ∧ item.count ≤ maxStackCount env item.entry
  distinct : Distinct Item.guid store.items.at?
  issued : ∀ place item, store.items.at? place = some item → item.guid < store.nextGuid

/-- How many items of a kind there are. -/
def Store.countOf (store : Store) (entry : UInt32) : Nat :=
  store.items.tally fun item => if item.entry = entry then item.count else 0

section

variable (env : Environment)

/-- `_StoreItem` binds items that bind when picked up, or as bags when put to use. -/
def bindOnStore (bag slot : UInt8) (item : Item) : Item :=
  let binds := (env.getItemTemplate item.entry).any fun proto =>
    proto.bonding = .whenPickedUp || proto.bonding = .questItem ||
      (proto.bonding = .whenEquiped && isBagPos bag slot)
  if binds then { item with soulBound := true } else item

variable (store : Store)

def newStack (item : Item) (count : Nat) (clone : Bool) (owner : UInt64) : Item :=
  if clone then cloneItem env item count store.nextGuid owner else { item with count := count }

/-- Guids are used up by copies. -/
def Store.guidAfter (clone : Bool) : Nat :=
  if clone then store.nextGuid + 1 else store.nextGuid

variable (player : UInt64)

/-- `Player::_StoreItem`.  Without a bag there, the slot number is taken for one of the
player himself; a bag does not go into itself. -/
def playerStoreAt (item : Item) (store : Store) (position : Position) (count : Nat) (clone : Bool) :
    Store :=
  match position with
  | .bank _ _ => store
  | .player bag slot =>
    let container := if bag = inventorySlotBag0 then none else getBagByPos env store.items.at? bag
    let place := match container with
      | none => Place.own slot
      | some container => .inBag container.guid slot
    match getItemByPos env store.items.at? bag slot with
    | some held =>
      let held := bindOnStore env bag slot { held with count := held.count + count }
      { store with items := store.items.put place (some held) }
    | none =>
      let stack := bindOnStore env bag slot (newStack env store item count clone player)
      let nextGuid := store.guidAfter clone
      match container with
      | none => ⟨store.items.put place (some { stack with ownerGuid := player }), nextGuid⟩
      | some container =>
        if stack.guid = container.guid then ⟨store.items, nextGuid⟩
        else
          let stack := { stack with ownerGuid := container.ownerGuid }
          ⟨store.items.put place (some stack), nextGuid⟩

/-- The loop of `StoreItem`: all positions but the last get copies. -/
def storeLoop (step : Store → Position → Nat → Bool → Store) :
    Store → List (Position × Nat) → Store
  | store, [] => store
  | store, [(position, count)] => step store position count false
  | store, (position, count) :: rest => storeLoop step (step store position count true) rest

/-- `Player::StoreItem`. -/
def storeItem (store : Store) (item : Item) (dest : List (Position × Nat)) : Store :=
  storeLoop (playerStoreAt env player item) store dest

/-- `CreateItem` for a player: nothing is created for a count of zero. -/
def createItem (entry : UInt32) (count : Nat) (player : UInt64) : Option Item :=
  if count < 1 then none
  else (env.getItemTemplate entry).map fun proto =>
    { guid := store.nextGuid
      entry := entry
      count := min count proto.getMaxStackSize
      soulBound := false
      bopTradeable := false
      allowedGuids := []
      lootGenerated := false
      ownerGuid := player }

/-- `StoreNewItem`. -/
def storeNewItem (store : Store) (entry : UInt32) (dest : List (Position × Nat)) : Store :=
  match createItem env store entry (dest.map Prod.snd).sum player with
  | none => store
  | some item => storeItem env player ⟨store.items, store.nextGuid + 1⟩ item dest

end

/-! ## One position -/

section

variable {env : Environment} {store : Store} {item : Item} {place : Place} {count : Nat}
  {clone : Bool}

/-- The place at a position; a slot of a bank tab is one. -/
def locate (env : Environment) (items : Place → Option Item) : Position → Option Place
  | .bank tab slot => some (.bank tab slot)
  | .player bag slot => placeOf env items bag slot

/-- What may be done to a stack on the way: guid, kind and count stay. -/
def Keeps (dress : Item → Item) : Prop :=
  ∀ item, (dress item).guid = item.guid ∧ (dress item).entry = item.entry ∧
    (dress item).count = item.count

theorem keeps_bindOnStore (env : Environment) (bag slot : UInt8) :
    Keeps (bindOnStore env bag slot) := by
  intro item
  unfold bindOnStore
  simp only
  split <;> exact ⟨rfl, rfl, rfl⟩

/-- The store with a number of items of a kind added at a place. -/
structure Added (env : Environment) (store after : Store) (item : Item) (place : Place)
    (count : Nat) (clone : Bool) : Prop where
  stack : ∃ stack : Item, after.items = store.items.put place (some stack) ∧
    stack.entry = item.entry ∧
    stack.count = (store.items.at? place).elim 0 Item.count + count ∧
    stack.guid = (store.items.at? place).elim
      (if clone then store.nextGuid else item.guid) Item.guid
  nextGuid : store.nextGuid ≤ after.nextGuid
  fresh : clone = true → store.items.at? place = none → store.nextGuid < after.nextGuid

def Room (env : Environment) (store : Store) (entry : UInt32) (place : Place) (count : Nat) :
    Prop :=
  0 < count ∧ match store.items.at? place with
    | none => count ≤ maxStackCount env entry
    | some held => held.entry = entry ∧ held.count + count ≤ maxStackCount env entry

/-- A stack that is ready to be stored. -/
structure Loose (store : Store) (item : Item) : Prop where
  absent : Absent Item.guid store.items.at? item.guid
  issued : item.guid < store.nextGuid

variable {after : Store} (hadded : Added env store after item place count clone)

include hadded in
theorem Added.at? :
    ∃ stack : Item, after.items.at? = Function.update store.items.at? place (some stack) ∧
      stack.entry = item.entry ∧
      stack.count = (store.items.at? place).elim 0 Item.count + count ∧
      stack.guid = (store.items.at? place).elim
        (if clone then store.nextGuid else item.guid) Item.guid := by
  obtain ⟨stack, hitems, hstack⟩ := hadded.stack
  exact ⟨stack, by rw [hitems, Shelf.at?_put], hstack⟩

include hadded in
theorem Added.countOf (hroom : Room env store item.entry place count) (entry : UInt32) :
    after.countOf entry = store.countOf entry + if item.entry = entry then count else 0 := by
  obtain ⟨stack, hitems, hentry, hcount, -⟩ := hadded.stack
  have htally := Shelf.tally_put store.items place (some stack)
    fun item => if item.entry = entry then item.count else 0
  unfold Store.countOf
  rw [hitems]
  simp only [Option.elim_some, hentry, hcount] at htally
  cases hheld : store.items.at? place with
  | none =>
    simp only [hheld, Option.elim_none, Nat.zero_add, Nat.add_zero] at htally
    exact htally
  | some held =>
    have hsame : held.entry = item.entry := by
      have hheld' := hroom.2
      rw [hheld] at hheld'
      exact hheld'.1
    simp only [hheld, Option.elim_some, hsame] at htally
    split at htally
    next heq =>
      rw [if_pos heq]
      omega
    next hne =>
      rw [if_neg hne]
      exact htally

include hadded in
theorem Added.sound (hsound : store.Sound env) (hroom : Room env store item.entry place count)
    (hloose : Loose store item) : after.Sound env := by
  obtain ⟨stack, hat, hentry, hcount, hguid⟩ := hadded.at?
  obtain ⟨hpos, hroom⟩ := hroom
  refine ⟨?_, ?_, ?_⟩
  · rw [hat]
    refine forall_update hsound.bounds ?_
    rw [hcount, hentry]
    cases hheld : store.items.at? place with
    | none =>
      rw [hheld] at hroom
      simp only [Option.elim_none, Nat.zero_add]
      exact ⟨hpos, hroom⟩
    | some held =>
      rw [hheld] at hroom
      exact ⟨by omega, hroom.2⟩
  · rw [hat]
    cases hheld : store.items.at? place with
    | none =>
      rw [hheld, Option.elim_none] at hguid
      refine hsound.distinct.put ?_
      rw [hguid]
      split
      · exact fun other found hfound => Nat.ne_of_lt (hsound.issued other found hfound)
      · exact hloose.absent
    | some held =>
      rw [hheld, Option.elim_some] at hguid
      exact hsound.distinct.modify hheld hguid
  · rw [hat]
    refine forall_update (fun other found hfound =>
      (hsound.issued other found hfound).trans_le hadded.nextGuid) ?_
    rw [hguid]
    cases hheld : store.items.at? place with
    | none =>
      rw [Option.elim_none]
      split
      next hclone => exact hadded.fresh hclone hheld
      · exact hloose.issued.trans_le hadded.nextGuid
    | some held => exact (hsound.issued place held hheld).trans_le hadded.nextGuid

/-- After a copy has been stored, the item itself can still be stored. -/
theorem Added.loose (hadded : Added env store after item place count true)
    (hloose : Loose store item) : Loose after item := by
  obtain ⟨stack, hat, -, -, hguid⟩ := hadded.at?
  refine ⟨?_, hloose.issued.trans_le hadded.nextGuid⟩
  rw [hat]
  refine hloose.absent.put ?_
  rw [hguid]
  cases hheld : store.items.at? place with
  | none =>
    exact Nat.ne_of_gt hloose.issued
  | some held => exact hloose.absent hheld

section

variable {items : Place → Option Item} {stack : Item}
  (hsame : ∀ held, items place = some held → stack.guid = held.guid ∧ stack.entry = held.entry)

include hsame

theorem getBagByPos_update {bag : UInt8} {container : Item}
    (hbag : getBagByPos env items bag = some container) :
    ∃ container', getBagByPos env (Function.update items place (some stack)) bag =
        some container' ∧
      container'.guid = container.guid ∧ container'.entry = container.entry := by
  obtain ⟨hheld, hisBag⟩ := getBagByPos_eq_some hbag
  unfold getBagByPos at hbag ⊢
  split at hbag
  next hslot =>
    rw [if_pos hslot]
    by_cases hplace : Place.own bag = place
    · subst hplace
      obtain ⟨hguid, hentry⟩ := hsame container hheld
      refine ⟨stack, ?_, hguid, hentry⟩
      rw [Function.update_self, Option.filter_some_eq_some]
      unfold isBag at hisBag ⊢
      rw [hentry]
      exact hisBag
    · rw [Function.update_of_ne hplace, hheld]
      exact ⟨container, by rw [Option.filter_some_eq_some]; exact hisBag, rfl, rfl⟩
  · cases hbag

/-- Positions keep their places when an item is put in the place of one of its kind. -/
theorem locate_update {position : Position} {other : Place}
    (hlocate : locate env items position = some other) :
    locate env (Function.update items place (some stack)) position = some other := by
  cases position with
  | bank tab slot => exact hlocate
  | player bag slot =>
    rcases placeOf_eq_some_iff.mp hlocate with hown | ⟨container, hbag, hslot, rfl⟩
    · exact placeOf_eq_some_iff.mpr (Or.inl hown)
    · obtain ⟨container', hbag', hguid, hentry⟩ := getBagByPos_update hsame hbag
      have hsize : bagSize env container' = bagSize env container := by
        unfold bagSize
        rw [hentry]
      exact placeOf_eq_some_iff.mpr (Or.inr ⟨container', hbag', hsize ▸ hslot, by rw [hguid]⟩)

end

variable (hroom : Room env store item.entry place count)

include hadded hroom in
/-- Positions keep their places when something is added. -/
theorem Added.locate {position : Position} {other : Place}
    (hlocate : locate env store.items.at? position = some other) :
    locate env after.items.at? position = some other := by
  obtain ⟨stack, hat, hentry, -, hguid⟩ := hadded.at?
  have hheld := hroom.2
  rw [hat]
  refine locate_update (fun held hplace => ?_) hlocate
  rw [hplace] at hguid hheld
  exact ⟨hguid, hentry.trans hheld.1.symm⟩

/-- Different positions are different places. -/
theorem locate_inj (hsound : store.Sound env) {first second : Position} {other : Place}
    (hfirst : locate env store.items.at? first = some other)
    (hsecond : locate env store.items.at? second = some other) : first = second := by
  cases first with
  | bank tab slot =>
    obtain rfl := Option.some.inj hfirst
    cases second with
    | bank tab' slot' =>
      obtain ⟨rfl, rfl⟩ := Place.bank.inj (Option.some.inj hsecond)
      rfl
    | player bag slot' =>
      rcases placeOf_eq_some_iff.mp hsecond with ⟨-, -, hplace⟩ | ⟨container, -, -, hplace⟩ <;>
        cases hplace
  | player bag slot =>
    rcases placeOf_eq_some_iff.mp hfirst with ⟨hbag, -, rfl⟩ | ⟨container, hbag, -, rfl⟩
    · cases second with
      | bank tab slot' => cases hsecond
      | player bag' slot' =>
        rcases placeOf_eq_some_iff.mp hsecond with
          ⟨hbag', -, hplace⟩ | ⟨container, -, -, hplace⟩
        · obtain rfl := Place.own.inj hplace
          rw [hbag, hbag']
        · cases hplace
    · cases second with
      | bank tab slot' => cases hsecond
      | player bag' slot' =>
        rcases placeOf_eq_some_iff.mp hsecond with
          ⟨-, -, hplace⟩ | ⟨container', hbag', -, hplace⟩
        · cases hplace
        · obtain ⟨hguid, rfl⟩ := Place.inBag.inj hplace
          have hsame := hsound.distinct (getBagByPos_eq_some hbag).1
            (getBagByPos_eq_some hbag').1 hguid
          rw [Place.own.inj hsame]

/-- A position with room for a number of items of a kind. -/
def Ready (env : Environment) (store : Store) (entry : UInt32) (pos : Position × Nat) : Prop :=
  ∃ place, locate env store.items.at? pos.1 = some place ∧ Room env store entry place pos.2

include hadded in
theorem Added.ready (hsound : store.Sound env) (hroom : Room env store item.entry place count)
    {position : Position} (hlocate : Items.locate env store.items.at? position = some place)
    {pos : Position × Nat} (hne : pos.1 ≠ position) (hready : Ready env store item.entry pos) :
    Ready env after item.entry pos := by
  obtain ⟨other, hother, hroom'⟩ := hready
  have hplaces : other ≠ place := by
    rintro rfl
    exact hne (locate_inj hsound hother hlocate)
  obtain ⟨stack, hat, -⟩ := hadded.at?
  refine ⟨other, hadded.locate hroom hother, ?_⟩
  unfold Room at hroom' ⊢
  rw [hat, Function.update_of_ne hplaces]
  exact hroom'

/-- A step that adds items at the place of a position of some kind. -/
def Adds (env : Environment) (kind : Position → Prop) (item : Item)
    (step : Store → Position → Nat → Bool → Store) : Prop :=
  ∀ store position count clone place, kind position → store.Sound env → Loose store item →
    locate env store.items.at? position = some place → Room env store item.entry place count →
      Added env store (step store position count clone) item place count clone

theorem storeLoop_spec {step : Store → Position → Nat → Bool → Store}
    {kind : Position → Prop} (hstep : Adds env kind item step) (dest : List (Position × Nat))
    (hkind : ∀ pos ∈ dest, kind pos.1) (hnodup : (dest.map Prod.fst).Nodup)
    (hsound : store.Sound env) (hloose : Loose store item)
    (hready : ∀ pos ∈ dest, Ready env store item.entry pos) :
    (storeLoop step store dest).Sound env ∧
      ∀ entry, (storeLoop step store dest).countOf entry =
        store.countOf entry + if item.entry = entry then (dest.map Prod.snd).sum else 0 := by
  induction dest generalizing store with
  | nil =>
    refine ⟨hsound, fun entry => ?_⟩
    simp [storeLoop]
  | cons pos rest ih =>
    obtain ⟨position, count⟩ := pos
    obtain ⟨place, hlocate, hroom⟩ := hready _ List.mem_cons_self
    obtain ⟨hfresh, hnodup⟩ := List.nodup_cons.mp hnodup
    have hposition : kind position := hkind _ List.mem_cons_self
    cases rest with
    | nil =>
      have hadded := hstep store position count false place hposition hsound hloose hlocate hroom
      refine ⟨hadded.sound hsound hroom hloose, fun entry => ?_⟩
      exact hadded.countOf hroom entry
    | cons next rest =>
      have hadded := hstep store position count true place hposition hsound hloose hlocate hroom
      obtain ⟨hsound', hcount'⟩ := ih
        (fun pos hpos => hkind pos (List.mem_cons_of_mem _ hpos)) hnodup
        (hadded.sound hsound hroom hloose)
        (hadded.loose hloose) fun pos hpos => hadded.ready hsound hroom hlocate
          (fun heq => hfresh (List.mem_map.mpr ⟨pos, hpos, heq⟩))
          (hready pos (List.mem_cons_of_mem _ hpos))
      refine ⟨hsound', fun entry => ?_⟩
      have hloop : storeLoop step store ((position, count) :: next :: rest) =
        storeLoop step (step store position count true) (next :: rest) := rfl
      have hsum : (((position, count) :: next :: rest).map Prod.snd).sum =
        count + ((next :: rest).map Prod.snd).sum := rfl
      rw [hloop, hcount', hadded.countOf hroom entry, hsum]
      split <;> omega

/-! ## The player -/

def IsPlayer : Position → Prop
  | .bank _ _ => False
  | .player _ _ => True

/-- The slot in which `_StoreItem` puts an item, for a position that exists. -/
theorem storePlace_eq {items : Place → Option Item} {bag slot : UInt8}
    (hplace : placeOf env items bag slot = some place) :
    (match if bag = inventorySlotBag0 then none else getBagByPos env items bag with
      | none => Place.own slot
      | some container => .inBag container.guid slot) = place := by
  rcases placeOf_eq_some_iff.mp hplace with ⟨hbag, -, rfl⟩ | ⟨container, hbag, -, rfl⟩
  · rw [if_pos hbag]
  · have hother : bag ≠ inventorySlotBag0 := by
      rintro rfl
      exact absurd hbag (by simp [getBagByPos, within, inventorySlotBag0, inventorySlotBag,
        bankSlotBag])
    rw [if_neg hother, hbag]

theorem newStack_facts (env : Environment) (store : Store) (item : Item) (count : Nat)
    (clone : Bool) (owner : UInt64) (hcount : count ≤ maxStackCount env item.entry) :
    (newStack env store item count clone owner).entry = item.entry ∧
      (newStack env store item count clone owner).count = count ∧
      (newStack env store item count clone owner).guid =
        if clone then store.nextGuid else item.guid := by
  cases clone with
  | true => exact ⟨rfl, Nat.min_eq_left hcount, rfl⟩
  | false => exact ⟨rfl, rfl, rfl⟩

theorem Store.le_guidAfter (store : Store) (clone : Bool) :
    store.nextGuid ≤ store.guidAfter clone := by
  unfold Store.guidAfter
  split <;> omega

theorem adds_playerStoreAt (env : Environment) (player : UInt64) (item : Item) :
    Adds env IsPlayer item (playerStoreAt env player item) := by
  intro store position count clone place hkind hsound hloose hlocate hroom
  cases position with
  | bank tab slot => exact hkind.elim
  | player bag slot =>
    have hplace : placeOf env store.items.at? bag slot = some place := hlocate
    have hstore := storePlace_eq hplace
    have hitem : getItemByPos env store.items.at? bag slot = store.items.at? place := by
      unfold getItemByPos
      rw [hplace]
      rfl
    obtain ⟨-, hroom⟩ := hroom
    unfold playerStoreAt
    simp only [hitem, hstore]
    cases hheld : store.items.at? place with
    | some held =>
      rw [hheld] at hroom
      obtain ⟨hguid, hentry, hcount⟩ := keeps_bindOnStore env bag slot
        { held with count := held.count + count }
      refine ⟨⟨_, rfl, hentry.trans hroom.1, ?_, ?_⟩, Nat.le_refl _, ?_⟩
      · rw [hcount, hheld, Option.elim_some]
      · rw [hguid, hheld, Option.elim_some]
      · intro _ hnone
        rw [hheld] at hnone
        cases hnone
    | none =>
      rw [hheld] at hroom
      obtain ⟨hentry, hcount, hguid⟩ := newStack_facts env store item count clone player hroom
      obtain ⟨hguid', hentry', hcount'⟩ := keeps_bindOnStore env bag slot
        (newStack env store item count clone player)
      have hnext := store.le_guidAfter clone
      have hfresh : clone = true → store.items.at? place = none →
          store.nextGuid < store.guidAfter clone := by
        rintro rfl -
        exact Nat.lt_succ_self _
      simp only
      split
      · refine ⟨⟨_, rfl, hentry'.trans hentry, ?_, ?_⟩, hnext, hfresh⟩
        · rw [hheld, Option.elim_none, Nat.zero_add]
          exact hcount'.trans hcount
        · rw [hheld, Option.elim_none]
          exact hguid'.trans hguid
      next container hcontainer =>
        have hbag : getBagByPos env store.items.at? bag = some container := by
          split at hcontainer
          · cases hcontainer
          · exact hcontainer
        have hinside := (getBagByPos_eq_some hbag).1
        -- The bag is stored already, so it is neither the item nor a copy of it.
        have hother : (bindOnStore env bag slot
            (newStack env store item count clone player)).guid ≠ container.guid := by
          rw [hguid', hguid]
          split
          · exact Nat.ne_of_gt (hsound.issued _ _ hinside)
          · exact (hloose.absent hinside).symm
        rw [if_neg hother]
        refine ⟨⟨_, rfl, hentry'.trans hentry, ?_, ?_⟩, hnext, hfresh⟩
        · rw [hheld, Option.elim_none, Nat.zero_add]
          exact hcount'.trans hcount
        · rw [hheld, Option.elim_none]
          exact hguid'.trans hguid

end

end MopServer.Items
