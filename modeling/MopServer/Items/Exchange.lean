import MopServer.Items.Moves

/-! # Exchanging two items

Two items are taken out of their places, and each is stored at the position of the other.  Nothing
is lost if neither of them is the bag that the other goes into.
-/

namespace MopServer.Items

open MopServer.Foundation

/-! ## What is done to the store -/

variable {position : Position}

section Stores

variable {env : Environment} {store : Store} {place : Place} {item : Item} {count : Nat}

theorem at?_removeItem : (store.removeItem place).items.at? =
    Function.update store.items.at? place none := Shelf.at?_put store.items place none

theorem at?_setCount : (store.setCount place item count).items.at? =
    Function.update store.items.at? place (some { item with count := count }) :=
  Shelf.at?_put store.items place _

theorem sound_removeItem (hsound : store.Sound env) (place : Place) (item : Item) :
    (store.removeItem place).Sound env := sound_takeOut (.held place item) hsound

variable (hat : store.items.at? place = some item)

include hat in
theorem countOf_removeItem (entry : UInt32) :
    (store.removeItem place).countOf entry + (if item.entry = entry then item.count else 0) =
      store.countOf entry := by
  have htally := Shelf.tally_put store.items place none
    fun item => if item.entry = entry then item.count else 0
  rw [hat] at htally
  exact htally

theorem loose_removeItem (hsound : store.Sound env) (hat : store.items.at? place = some item) :
    Loose (store.removeItem place) item := by
  have hvalid : (Supply.held place item).Valid store item.entry item.count := ⟨hat, rfl, rfl⟩
  exact loose_takeOut hvalid hsound rfl

theorem sound_setCount (hsound : store.Sound env) (hat : store.items.at? place = some item)
    (hpos : 1 ≤ count) (hmax : count ≤ maxStackCount env item.entry) :
    (store.setCount place item count).Sound env := by
  refine ⟨?_, ?_, ?_⟩
  · rw [at?_setCount]
    exact forall_update hsound.bounds ⟨hpos, hmax⟩
  · rw [at?_setCount]
    exact hsound.distinct.modify hat rfl
  · rw [at?_setCount]
    exact forall_update hsound.issued (hsound.issued place item hat)

include hat in
theorem countOf_setCount (count : Nat) (entry : UInt32) :
    (store.setCount place item count).countOf entry +
        (if item.entry = entry then item.count else 0) =
      store.countOf entry + if item.entry = entry then count else 0 := by
  have htally := Shelf.tally_put store.items place (some { item with count := count })
    fun item => if item.entry = entry then item.count else 0
  rw [hat] at htally
  exact htally

include hat in
theorem loose_setCount {other : Item} (count : Nat) (hloose : Loose store other) :
    Loose (store.setCount place item count) other where
  absent := by
    rw [at?_setCount]
    have hother : item.guid ≠ other.guid := hloose.absent hat
    exact hloose.absent.put hother
  issued := hloose.issued

theorem locate_setCount {other : Place} (count : Nat) (hat : store.items.at? place = some item)
    (hlocate : locate env store.items.at? position = some other) :
    locate env (store.setCount place item count).items.at? position = some other := by
  rw [at?_setCount]
  refine locate_update (fun held hheld => ?_) hlocate
  obtain rfl := Option.some.inj (hat.symm.trans hheld)
  exact ⟨rfl, rfl⟩

include hat in
/-- What has room still has when a stack gets smaller. -/
theorem Ready.setCount {entry : UInt32} {pos : Position × Nat} (hle : count ≤ item.count)
    (hready : Ready env store entry pos) :
    Ready env (store.setCount place item count) entry pos := by
  obtain ⟨other, hlocate, hpos, hroom⟩ := hready
  refine ⟨other, locate_setCount count hat hlocate, hpos, ?_⟩
  rw [at?_setCount]
  by_cases hplace : other = place
  · subst hplace
    rw [hat] at hroom
    rw [Function.update_self]
    exact ⟨hroom.1, by dsimp only; omega⟩
  · rw [Function.update_of_ne hplace]
    exact hroom

end Stores

/-! ## Positions -/

section Positions

variable {env : Environment} {items other : Place → Option Item} {bag slot : UInt8} {place : Place}

theorem placeOf_congr (hsame : items (.own bag) = other (.own bag)) :
    placeOf env items bag slot = placeOf env other bag slot := by
  unfold placeOf getBagByPos
  rw [hsame]

theorem ne_nullBag_of_placeOf (hplace : placeOf env items bag slot = some place) :
    bag ≠ nullBag := by
  rintro rfl
  rcases placeOf_eq_some_iff.mp hplace with ⟨hown, -⟩ | ⟨container, hbag, -⟩
  · exact absurd hown (by decide)
  · cases hbag

theorem ne_own_self (hplace : placeOf env items bag slot = some place) : place ≠ .own bag := by
  rintro rfl
  rcases placeOf_eq_some_iff.mp hplace with ⟨hown, hslot, heq⟩ | ⟨container, -, -, heq⟩
  · rw [← Place.own.inj heq, hown] at hslot
    exact absurd hslot (by decide)
  · cases heq

def holderOf : Position → Option Place
  | .bank _ _ => none
  | .player bag _ => some (.own bag)

theorem locate_congr (hsame : ∀ holder ∈ holderOf position, items holder = other holder) :
    locate env items position = locate env other position := by
  cases position with
  | bank tab slot => rfl
  | player bag slot => exact placeOf_congr (hsame _ rfl)

theorem ne_holderOf_self (hlocate : locate env items position = some place) :
    ∀ holder ∈ holderOf position,
      holder ≠ place := by
  cases position with
  | bank tab slot => exact fun _ hholder => nomatch hholder
  | player bag slot =>
    rintro holder hholder rfl
    obtain rfl := Option.some.inj hholder
    exact ne_own_self hlocate rfl

end Positions

/-! ## Two items -/

section Exchanging

variable {env : Environment} {store removed : Store} {srcPlace dstPlace : Place}
  {srcItem dstItem : Item}

/-- The stack at one place has gone to another place. -/
def Gone (store after : Store) (oldPlace newPlace : Place) : Prop :=
  ∃ item stack, store.items.at? oldPlace = some item ∧ after.items.at? newPlace = some stack ∧
    stack.guid = item.guid ∧ stack.entry = item.entry ∧ stack.count = item.count

/-- Two items have been exchanged: everything is there, and nothing else has been touched. -/
structure Exchanged (env : Environment) (store after : Store) (srcPlace dstPlace : Place) :
    Prop where
  sound : after.Sound env
  counts : ∀ entry, after.countOf entry = store.countOf entry
  there : Gone store after srcPlace dstPlace
  back : Gone store after dstPlace srcPlace
  frame : ∀ place, place ≠ srcPlace → place ≠ dstPlace →
    after.items.at? place = store.items.at? place

/-- Two items have been taken out of their places. -/
structure BothRemoved (env : Environment) (store removed : Store) (srcPlace dstPlace : Place)
    (srcItem dstItem : Item) : Prop where
  sound : removed.Sound env
  at? : removed.items.at? =
    Function.update (Function.update store.items.at? dstPlace none) srcPlace none
  counts : ∀ entry, removed.countOf entry + (if srcItem.entry = entry then srcItem.count else 0) +
    (if dstItem.entry = entry then dstItem.count else 0) = store.countOf entry
  looseSrc : Loose removed srcItem
  looseDst : Loose removed dstItem

/-- Two items are taken out, the one after the other. -/
theorem bothRemoved (hsound : store.Sound env) (hsrc : store.items.at? srcPlace = some srcItem)
    (hdst : store.items.at? dstPlace = some dstItem) (hne : srcPlace ≠ dstPlace) :
    BothRemoved env store ((store.removeItem dstPlace).removeItem srcPlace) srcPlace dstPlace
      srcItem dstItem := by
  have hsound' := sound_removeItem hsound dstPlace dstItem
  have hsrc' : (store.removeItem dstPlace).items.at? srcPlace = some srcItem := by
    rw [at?_removeItem, Function.update_of_ne hne, hsrc]
  refine ⟨sound_removeItem hsound' srcPlace srcItem, by rw [at?_removeItem, at?_removeItem],
    fun entry => ?_, loose_removeItem hsound' hsrc', ?_⟩
  · rw [countOf_removeItem hsrc' entry, countOf_removeItem hdst entry]
  · have hloose := loose_removeItem hsound hdst
    refine ⟨?_, hloose.issued⟩
    rw [at?_removeItem]
    exact hloose.absent.clear srcPlace

theorem BothRemoved.symm (hremoved : BothRemoved env store removed srcPlace dstPlace srcItem
    dstItem) (hne : srcPlace ≠ dstPlace) :
    BothRemoved env store removed dstPlace srcPlace dstItem srcItem where
  sound := hremoved.sound
  at? := hremoved.at?.trans (Function.update_comm hne none none store.items.at?).symm
  counts entry := by
    rw [Nat.add_right_comm]
    exact hremoved.counts entry
  looseSrc := hremoved.looseDst
  looseDst := hremoved.looseSrc

variable {step : Item → Store → Position → Nat → Bool → Store} {kind : Position → Prop}
  {srcPos dstPos : Position}

/-- An item that nobody holds is put into an empty place. -/
theorem added_of_adds {place : Place} {item : Item} (hstep : Adds env kind item (step item))
    (hkind : kind position) (hsound : store.Sound env) (hloose : Loose store item)
    (hlocate : locate env store.items.at? position = some place)
    (hempty : store.items.at? place = none) (hpos : 1 ≤ item.count)
    (hmax : item.count ≤ maxStackCount env item.entry) :
    Added env store (storeLoop (step item) store [(position, item.count)]) item place item.count
        false ∧
      Room env store item.entry place item.count := by
  have hroom : Room env store item.entry place item.count := by
    refine ⟨hpos, ?_⟩
    rw [hempty]
    exact hmax
  exact ⟨hstep store position item.count false place hkind hsound hloose hlocate hroom, hroom⟩

theorem Added.at?_of_empty {after : Store} {item : Item} {place : Place} {count : Nat}
    (hadded : Added env store after item place count false)
    (hempty : store.items.at? place = none) :
    ∃ stack, after.items.at? = Function.update store.items.at? place (some stack) ∧
      stack.guid = item.guid ∧ stack.entry = item.entry ∧ stack.count = count := by
  obtain ⟨stack, hat, hentry, hcount, hguid⟩ := hadded.at?
  rw [hempty] at hcount hguid
  exact ⟨stack, hat, hguid, hentry, hcount.trans (Nat.zero_add count)⟩

/-- Each of two items that have been taken out goes to the position of the other. -/
theorem exchanged_of_bothRemoved (hstep : ∀ item, Adds env kind item (step item))
    (hsrcKind : kind srcPos) (hdstKind : kind dstPos) (hsound : store.Sound env)
    (hsrcPlace : locate env store.items.at? srcPos = some srcPlace)
    (hdstPlace : locate env store.items.at? dstPos = some dstPlace)
    (hsrcItem : store.items.at? srcPlace = some srcItem)
    (hdstItem : store.items.at? dstPlace = some dstItem) (hne : srcPlace ≠ dstPlace)
    (hsrcHolder : ∀ holder ∈ holderOf srcPos, holder ≠ dstPlace)
    (hdstHolder : ∀ holder ∈ holderOf dstPos, holder ≠ srcPlace)
    (hremoved : BothRemoved env store removed srcPlace dstPlace srcItem dstItem) :
    Exchanged env store
      (storeLoop (step dstItem) (storeLoop (step srcItem) removed [(dstPos, srcItem.count)])
        [(srcPos, dstItem.count)])
      srcPlace dstPlace := by
  -- The first item goes to the position of the second.
  have hdstPlace' : locate env removed.items.at? dstPos = some dstPlace := by
    refine (locate_congr fun holder hholder => ?_).trans hdstPlace
    rw [hremoved.at?, Function.update_of_ne (hdstHolder holder hholder),
      Function.update_of_ne (ne_holderOf_self hdstPlace holder hholder)]
  have hdstEmpty : removed.items.at? dstPlace = none := by
    rw [hremoved.at?, Function.update_of_ne hne.symm, Function.update_self]
  obtain ⟨hsrcPos, hsrcMax⟩ := hsound.bounds srcPlace srcItem hsrcItem
  obtain ⟨hadded, hroom⟩ := added_of_adds (hstep srcItem) hdstKind hremoved.sound
    hremoved.looseSrc hdstPlace' hdstEmpty hsrcPos hsrcMax
  have hsound' := hadded.sound hremoved.sound hroom hremoved.looseSrc
  obtain ⟨stack, hat, hstack⟩ := hadded.at?_of_empty hdstEmpty
  have hcount := hadded.countOf hroom
  have hnext := hadded.nextGuid
  generalize storeLoop (step srcItem) removed [(dstPos, srcItem.count)] = stored at *
  -- The second item goes to the position of the first.
  have hloose : Loose stored dstItem := by
    refine ⟨?_, hremoved.looseDst.issued.trans_le hnext⟩
    rw [hat]
    refine hremoved.looseDst.absent.put ?_
    rw [hstack.1]
    exact fun hsame => hne (hsound.distinct hsrcItem hdstItem hsame)
  have hsrcPlace' : locate env stored.items.at? srcPos = some srcPlace := by
    refine (locate_congr fun holder hholder => ?_).trans hsrcPlace
    rw [hat, Function.update_of_ne (hsrcHolder holder hholder), hremoved.at?,
      Function.update_of_ne (ne_holderOf_self hsrcPlace holder hholder),
      Function.update_of_ne (hsrcHolder holder hholder)]
  have hsrcEmpty : stored.items.at? srcPlace = none := by
    rw [hat, Function.update_of_ne hne, hremoved.at?, Function.update_self]
  obtain ⟨hdstPos, hdstMax⟩ := hsound.bounds dstPlace dstItem hdstItem
  obtain ⟨hadded', hroom'⟩ := added_of_adds (hstep dstItem) hsrcKind hsound' hloose hsrcPlace'
    hsrcEmpty hdstPos hdstMax
  obtain ⟨stack', hat', hstack'⟩ := hadded'.at?_of_empty hsrcEmpty
  refine ⟨hadded'.sound hsound' hroom' hloose, fun entry => ?_,
    ⟨srcItem, stack, hsrcItem, ?_, hstack⟩, ⟨dstItem, stack', hdstItem, ?_, hstack'⟩,
    fun place hsrc hdst => ?_⟩
  · rw [hadded'.countOf hroom' entry, hcount entry]
    exact hremoved.counts entry
  · rw [hat', Function.update_of_ne hne.symm, hat, Function.update_self]
  · rw [hat', Function.update_self]
  · rw [hat', Function.update_of_ne hsrc, hat, Function.update_of_ne hdst, hremoved.at?,
      Function.update_of_ne hsrc, Function.update_of_ne hdst]

/-- A stack that cannot take all of another one is filled up from it. -/
theorem fill_spec (hsound : store.Sound env) (hsrc : store.items.at? srcPlace = some srcItem)
    (hdst : store.items.at? dstPlace = some dstItem) (hne : srcPlace ≠ dstPlace)
    (hentry : dstItem.entry = srcItem.entry)
    (hmore : maxStackCount env srcItem.entry < srcItem.count + dstItem.count) :
    ((store.setCount srcPlace srcItem
        (srcItem.count + dstItem.count - maxStackCount env srcItem.entry)).setCount dstPlace dstItem
          (maxStackCount env srcItem.entry)).Sound env ∧
      ∀ entry, ((store.setCount srcPlace srcItem
        (srcItem.count + dstItem.count - maxStackCount env srcItem.entry)).setCount dstPlace dstItem
          (maxStackCount env srcItem.entry)).countOf entry = store.countOf entry := by
  obtain ⟨hsrcPos, hsrcMax⟩ := hsound.bounds srcPlace srcItem hsrc
  obtain ⟨hdstPos, hdstMax⟩ := hsound.bounds dstPlace dstItem hdst
  rw [hentry] at hdstMax
  have hdst₁ : (store.setCount srcPlace srcItem
      (srcItem.count + dstItem.count - maxStackCount env srcItem.entry)).items.at? dstPlace =
        some dstItem := by
    rw [at?_setCount, Function.update_of_ne hne.symm, hdst]
  have hsound₁ : (store.setCount srcPlace srcItem
      (srcItem.count + dstItem.count - maxStackCount env srcItem.entry)).Sound env :=
    sound_setCount hsound hsrc (by omega) (by omega)
  refine ⟨sound_setCount hsound₁ hdst₁ (by omega) (hentry ▸ le_rfl), fun entry => ?_⟩
  have hcount₁ := countOf_setCount hsrc
    (srcItem.count + dstItem.count - maxStackCount env srcItem.entry) entry
  have hcount₂ := countOf_setCount hdst₁ (maxStackCount env srcItem.entry) entry
  rw [hentry] at hcount₂
  by_cases hkind : srcItem.entry = entry
  · simp only [if_pos hkind] at hcount₁ hcount₂
    omega
  · simp only [if_neg hkind] at hcount₁ hcount₂
    omega

end Exchanging

end MopServer.Items
