import MopServer.Loots.Template

/-! # What a group drops

A group adds at most one of its entries to a loot, and the attempts that it makes for it are counted
in eight bits.
-/

namespace MopServer.Loots

open MopServer.Foundation

variable {Chance : Type} (world : World Chance)

/-! ## Limits -/

def dropLimit (itemId : UInt32) : Option Nat :=
  (world.inventoryType itemId).map fun inventoryType => if inventoryType = 0 then 3 else 1

variable (loot : Loot)

def Loot.dropped (itemId : UInt32) : Nat :=
  loot.items.countP fun item => item.itemId = itemId

/-- `AddItem` takes the item. -/
def Loot.hasRoom (item : StoreItem) : Prop :=
  if item.needsQuest then loot.questItems.length < maxNrQuestItems
  else loot.items.length < maxNrLootItems

def Loot.size : Nat := loot.items.length + loot.questItems.length

variable {world}

theorem foldl_search (inventoryType itemId : UInt32) {limit : Nat}
    (hlimit : limit = if inventoryType = 0 then 3 else 1) (items : List LootItem) (count : Nat) :
    items.foldl (fun (found : UInt8 × Bool) item =>
        if item.itemId = itemId then
          let counter := found.1 + 1
          (counter, found.2 || (inventoryType = 0 && counter = 3) ||
            (inventoryType ≠ 0 && counter = 1))
        else found) (UInt8.ofNat count, decide (limit ≤ count)) =
      (UInt8.ofNat (count + items.countP fun item => item.itemId = itemId),
        decide (limit ≤ count + items.countP fun item => item.itemId = itemId)) := by
  induction items generalizing count with
  | nil => rfl
  | cons item rest ih =>
    rw [List.foldl_cons, List.countP_cons]
    by_cases hitem : item.itemId = itemId
    · have hcounter : UInt8.ofNat count + 1 = UInt8.ofNat (count + 1) := by
        rw [UInt8.ofNat_add]
        rfl
      have hreached : (decide (limit ≤ count) ||
          (decide (inventoryType = 0) && decide (UInt8.ofNat (count + 1) = 3)) ||
            (decide (inventoryType ≠ 0) && decide (UInt8.ofNat (count + 1) = 1))) =
          decide (limit ≤ count + 1) := by
        have hmod : ∀ n : UInt8, UInt8.ofNat (count + 1) = n ↔ (count + 1) % 256 = n.toNat := by
          intro n
          rw [← UInt8.toNat_inj, UInt8.toNat_ofNat']
        rw [Bool.eq_iff_iff]
        simp only [Bool.or_eq_true, Bool.and_eq_true, decide_eq_true_eq, hmod]
        have hthree : (3 : UInt8).toNat = 3 := rfl
        have hone : (1 : UInt8).toNat = 1 := rfl
        rw [hthree, hone]
        split at hlimit <;> next hequip =>
          simp only [hequip, true_and, ne_eq, not_true_eq_false, false_and, or_false,
            not_false_eq_true]
          omega
      simp only [hitem, if_true, decide_true, hcounter, hreached]
      rw [ih (count + 1)]
      have hsum : count + 1 + rest.countP (fun item => decide (item.itemId = itemId)) =
          count + (rest.countP (fun item => decide (item.itemId = itemId)) + 1) := by omega
      rw [hsum]
    · simp only [hitem, if_false, decide_false, Bool.false_eq_true, add_zero]
      exact ih count

/-- The search finds a duplicate exactly if the item has dropped as often as it may. -/
theorem isDuplicate_iff (itemId : UInt32) :
    isDuplicate world loot itemId = true ↔
      ∃ limit, dropLimit world itemId = some limit ∧ limit ≤ loot.dropped itemId := by
  unfold isDuplicate dropLimit
  cases world.inventoryType itemId with
  | none => simp
  | some inventoryType =>
    have hpositive : ¬(if inventoryType = 0 then 3 else 1) ≤ 0 := by split <;> decide
    have hsearch := foldl_search inventoryType itemId rfl loot.items 0
    rw [decide_eq_false hpositive, Nat.zero_add] at hsearch
    rw [Option.map_some]
    refine (iff_of_eq (congrArg (·.2 = true) hsearch)).trans ?_
    simp [Loot.dropped]

theorem addItem_size {env : Environment} {loot : Loot} {item : StoreItem} (hroom : loot.hasRoom item) :
    (addItem env loot item).size = loot.size + 1 := by
  unfold Loot.hasRoom at hroom
  unfold addItem Loot.size
  split at hroom
  next hquest =>
    rw [if_pos hquest, if_pos hroom]
    simp only [List.length_append, List.length_singleton]
    omega
  next hquest =>
    rw [if_neg hquest, if_pos hroom]
    split <;> simp only [Loot.raise, List.length_append, List.length_singleton] <;> omega

/-! ## Attempts -/

variable {equalDrops explicitDrops : List (LootStoreItem Chance)}

theorem afterMisses_suffix (roll : Chance) (items : List (LootStoreItem Chance)) :
    afterMisses world roll items <:+ items := by
  induction items generalizing roll with
  | nil => exact List.suffix_rfl
  | cons item rest ih =>
    rw [afterMisses]
    split
    · exact List.suffix_rfl
    dsimp only
    split
    · exact List.suffix_rfl
    · exact (ih _).trans (List.suffix_cons item rest)

/-- A selected entry is possible, and so is what is left. -/
structure Selects (explicitDrops equalDrops : List (LootStoreItem Chance))
    (selection : Selection Chance) : Prop where
  mem : selection.item ∈ explicitDrops ++ equalDrops
  explicitDrops : selection.explicitDrops ⊆ explicitDrops
  equalDrops : selection.equalDrops ⊆ equalDrops

theorem select_spec {rolls : Nat} {selection : Selection Chance}
    (hselect : select world rolls explicitDrops equalDrops = some selection) :
    Selects explicitDrops equalDrops selection := by
  unfold select at hselect
  split at hselect
  · cases hselect
    exact ⟨List.mem_append_left _ List.mem_cons_self, List.subset_cons_self _ _, List.Subset.refl _⟩
  · obtain ⟨item, hitem, rfl⟩ := Option.map_eq_some_iff.mp hselect
    exact ⟨List.mem_append_right _ (List.mem_of_getElem? hitem), List.Subset.refl _,
      List.eraseIdx_subset⟩

theorem select_isSome {rolls : Nat} (explicitDrops : List (LootStoreItem Chance))
    (hequal : equalDrops ≠ []) : (select world rolls explicitDrops equalDrops).isSome = true := by
  unfold select
  split
  · rfl
  · have hlength : 0 < equalDrops.length := List.length_pos_iff.mpr hequal
    have hbound : (world.irand rolls (equalDrops.length - 1)).val < equalDrops.length := by omega
    rw [Option.isSome_map, List.getElem?_eq_getElem hbound]
    rfl

variable (world) in
/-- The entry may be added in the loot mode. -/
structure Droppable (lootMode : UInt16) (loot : Loot) (item : LootStoreItem Chance) : Prop where
  mode : item.lootmode &&& lootMode ≠ 0
  below : ∀ limit, dropLimit world item.itemId = some limit → loot.dropped item.itemId < limit

theorem isDuplicate_eq_false_iff (loot : Loot) (itemId : UInt32) :
    isDuplicate world loot itemId = false ↔
      ∀ limit, dropLimit world itemId = some limit → loot.dropped itemId < limit := by
  rw [← Bool.not_eq_true, isDuplicate_iff]
  push Not
  exact Iff.rfl

/-! ## Runs of a group -/

def groupOps (count : Nat) (dropped : Option (LootStoreItem Chance)) : List (DropOp Chance) :=
  List.replicate count .roll ++ dropped.toList.map .grouped

theorem foldl_groupOps (count : Nat) (dropped : Option (LootStoreItem Chance)) (drops : Drops) :
    ((groupOps count dropped).foldl (Drops.perform world) drops).loot =
      dropped.elim drops.loot fun item =>
        addItem world.toEnvironment drops.loot item.toStoreItem := by
  induction count generalizing drops with
  | zero => cases dropped <;> rfl
  | succ count ih => exact ih (drops.perform world (DropOp.roll))

theorem append_subset_append {Item : Type} {first second firstItems secondItems : List Item}
    (hfirst : first ⊆ firstItems) (hsecond : second ⊆ secondItems) :
    first ++ second ⊆ firstItems ++ secondItems :=
  List.append_subset.mpr ⟨List.Subset.trans hfirst (List.subset_append_left _ _),
    List.Subset.trans hsecond (List.subset_append_right _ _)⟩

/-- Whatever is rolled, the loop ends, and what it adds is droppable. -/
theorem attempts_spec (lootMode : UInt16) (maxAttempts : UInt8)
    (explicitDrops equalDrops : List (LootStoreItem Chance)) (attemptCount : UInt8)
    (drops : Drops) :
    ∃ count dropped, attempts world lootMode maxAttempts explicitDrops equalDrops attemptCount drops =
        some (groupOps count dropped) ∧
      ∀ item ∈ dropped, item ∈ explicitDrops ++ equalDrops ∧
        Droppable world lootMode drops.loot item := by
  -- The measure is the attempts that are left.
  induction hleft : (maxAttempts - attemptCount).toNat using Nat.strong_induction_on
    generalizing explicitDrops equalDrops attemptCount drops with
  | _ left ih =>
  have hdone : ∀ item ∈ (none : Option (LootStoreItem Chance)),
      item ∈ explicitDrops ++ equalDrops ∧ Droppable world lootMode drops.loot item :=
    fun item hitem => by cases hitem
  rw [attempts]
  split
  · exact ⟨0, none, rfl, hdone⟩
  split
  · exact ⟨0, none, rfl, hdone⟩
  next hmax =>
  have hless := attempts_decreasing hmax
  rw [hleft] at hless
  simp only [Script.read]
  set hits := afterMisses world (world.randChance drops.rolls) explicitDrops with hhits
  have hsuffix : hits ⊆ explicitDrops := (afterMisses_suffix _ _).subset
  -- Another attempt is made with some of the entries.
  have hagain : ∀ explicitLeft equalLeft : List (LootStoreItem Chance),
      explicitLeft ⊆ explicitDrops → equalLeft ⊆ equalDrops →
      ∃ count dropped, dropSeq world [.op .roll, attempts world lootMode maxAttempts explicitLeft
          equalLeft (attemptCount + 1)] drops = some (groupOps count dropped) ∧
        ∀ item ∈ dropped, item ∈ explicitDrops ++ equalDrops ∧
          Droppable world lootMode drops.loot item := by
    intro explicitLeft equalLeft hexplicit hequal
    obtain ⟨count, dropped, hops, hdropped⟩ := ih _ hless explicitLeft equalLeft (attemptCount + 1)
      (drops.perform world (DropOp.roll)) rfl
    refine ⟨count + 1, dropped, ?_, fun item hitem => ?_⟩
    · rw [dropSeq, Script.seq_op, hops]
      rfl
    · obtain ⟨hmem, hdroppable⟩ := hdropped item hitem
      exact ⟨append_subset_append hexplicit hequal hmem, hdroppable⟩
  cases hselect : select world drops.rolls hits equalDrops with
  | none => exact hagain hits equalDrops hsuffix (List.Subset.refl _)
  | some selection =>
    have hselects := select_spec hselect
    dsimp only
    split
    · exact hagain hits equalDrops hsuffix (List.Subset.refl _)
    next hmode =>
    split
    · exact hagain _ _ (List.Subset.trans hselects.explicitDrops hsuffix) hselects.equalDrops
    next hduplicate =>
    refine ⟨1, some selection.item, rfl, fun item hitem => ?_⟩
    cases hitem
    refine ⟨append_subset_append hsuffix (List.Subset.refl _) hselects.mem, hmode, ?_⟩
    exact (isDuplicate_eq_false_iff _ _).mp (Bool.eq_false_iff.mpr hduplicate)

/-- With equal-chanced entries and nothing that may not drop, the first attempt adds an entry. -/
theorem attempts_first {lootMode : UInt16} {maxAttempts : UInt8} {drops : Drops}
    (hequal : equalDrops ≠ []) (hmax : maxAttempts ≠ 0)
    (hall : ∀ item ∈ explicitDrops ++ equalDrops, Droppable world lootMode drops.loot item) :
    ∃ after, (attempts world lootMode maxAttempts explicitDrops equalDrops 0).run
        (Drops.perform world) drops = some after ∧
      ∃ item ∈ explicitDrops ++ equalDrops,
        after.loot = addItem world.toEnvironment drops.loot item.toStoreItem := by
  have hmore : ¬(explicitDrops.isEmpty && equalDrops.isEmpty) = true := by
    simp [List.isEmpty_iff, hequal]
  rw [attempts, if_neg hmore, dif_neg (Ne.symm hmax), Script.run_read]
  dsimp only
  set hits := afterMisses world (world.randChance drops.rolls) explicitDrops with hhits
  obtain ⟨selection, hselect⟩ := Option.isSome_iff_exists.mp (select_isSome hits hequal)
  have hsuffix : hits ⊆ explicitDrops := (afterMisses_suffix _ _).subset
  have hmem : selection.item ∈ explicitDrops ++ equalDrops :=
    append_subset_append hsuffix (List.Subset.refl _) (select_spec hselect).mem
  obtain ⟨hmode, hbelow⟩ := hall _ hmem
  rw [hselect]
  dsimp only
  rw [if_neg hmode, (isDuplicate_eq_false_iff _ _).mpr hbelow, if_neg Bool.false_ne_true]
  exact ⟨_, rfl, selection.item, hmem, rfl⟩

theorem attempts_none (lootMode : UInt16) (explicitDrops equalDrops : List (LootStoreItem Chance))
    (attemptCount : UInt8) (drops : Drops) :
    (attempts world lootMode attemptCount explicitDrops equalDrops attemptCount).run
      (Drops.perform world) drops = some drops := by
  rw [attempts]
  split
  · rfl
  · rw [dif_pos rfl]
    rfl

namespace LootTemplate.LootGroup

variable (group : LootGroup Chance)

def items : List (LootStoreItem Chance) :=
  group.explicitlyChanced ++ group.equalChanced

variable (world) in
/-- Every entry may be added, and there is room for it. -/
def AllDroppable (lootMode : UInt16) (loot : Loot) : Prop :=
  ∀ item ∈ group.items, Droppable world lootMode loot item ∧ loot.hasRoom item.toStoreItem

variable (world) in
/-- A group adds at most one of its entries, and exactly one if it has equal-chanced entries and all
of its entries may drop. -/
structure DropsOne (group : LootGroup Chance) (lootMode : UInt16) (drops : Drops) : Prop where
  atMostOne : ∃ after, (group.process world lootMode).run (Drops.perform world) drops = some after ∧
    (after.loot = drops.loot ∨ ∃ item ∈ group.items,
      after.loot = addItem world.toEnvironment drops.loot item.toStoreItem)
  exactlyOne : group.equalChanced ≠ [] → group.AllDroppable world lootMode drops.loot →
    ∃ after, (group.process world lootMode).run (Drops.perform world) drops = some after ∧
      after.loot.size = drops.loot.size + 1 ∧ ∃ item ∈ group.items,
        after.loot = addItem world.toEnvironment drops.loot item.toStoreItem

variable (world) in
theorem process_spec (lootMode : UInt16) (drops : Drops) :
    ∃ count dropped, group.process world lootMode drops = some (groupOps count dropped) ∧
      ∀ item ∈ dropped, item ∈ group.items ∧ Droppable world lootMode drops.loot item :=
  attempts_spec lootMode _ group.explicitlyChanced group.equalChanced 0 drops

theorem process_of_mod_eq_zero {group : LootGroup Chance}
    (hwraps : group.items.length % 256 = 0) (lootMode : UInt16) (drops : Drops) :
    (group.process world lootMode).run (Drops.perform world) drops = some drops := by
  have hzero : UInt8.ofNat (group.explicitlyChanced.length + group.equalChanced.length) = 0 := by
    rw [← UInt8.toNat_inj, UInt8.toNat_ofNat', ← List.length_append]
    exact hwraps
  unfold process
  rw [hzero]
  exact attempts_none _ _ _ _ _

/-- The attempts are counted in eight bits: a group fails to drop one of its entries exactly if
their number is a multiple of 256. -/
theorem dropsOne_iff (group : LootGroup Chance) (lootMode : UInt16) (drops : Drops) :
    group.DropsOne world lootMode drops ↔
      (group.equalChanced ≠ [] → group.AllDroppable world lootMode drops.loot →
        group.items.length % 256 ≠ 0) := by
  constructor
  · intro hdrops hequal hall hwraps
    obtain ⟨after, hrun, hsize, -⟩ := hdrops.exactlyOne hequal hall
    rw [process_of_mod_eq_zero hwraps] at hrun
    cases hrun
    omega
  · intro hcount
    refine ⟨?_, fun hequal hall => ?_⟩
    · obtain ⟨count, dropped, hops, hdropped⟩ := process_spec world group lootMode drops
      refine ⟨_, Option.map_eq_some_iff.mpr ⟨_, hops, rfl⟩, ?_⟩
      rw [foldl_groupOps]
      cases dropped with
      | none => exact Or.inl rfl
      | some item => exact Or.inr ⟨item, (hdropped item rfl).1, rfl⟩
    · have hmax : UInt8.ofNat (group.explicitlyChanced.length + group.equalChanced.length) ≠ 0 := by
        rw [Ne, ← UInt8.toNat_inj, UInt8.toNat_ofNat', ← List.length_append]
        exact hcount hequal hall
      obtain ⟨after, hrun, item, hitem, hadded⟩ :=
        attempts_first hequal hmax fun item hitem => (hall item hitem).1
      refine ⟨after, hrun, ?_, item, hitem, hadded⟩
      rw [hadded]
      exact addItem_size (hall item hitem).2

/-- Items without a template, and dice that always show the same. -/
def flatWorld : World Nat where
  partyLoot _ := false
  followLootRules _ := false
  isCurrencyToken _ := false
  allowed _ _ := true
  inventoryType _ := none
  reference _ := none
  referencedAmount count := count
  certain chance := 100 ≤ chance
  sub roll chance := roll - chance
  negative _ := false
  randChance _ := 0
  rollChance _ _ := true
  irand _ _ := 0

def largeGroup : LootGroup Nat where
  explicitlyChanced := []
  equalChanced := List.replicate 256
    { itemId := 1, needsQuest := false, currency := false, hasConditions := false, chance := 0
      mincountOrRef := 1, lootmode := 1, group := 1, maxcount := 1 }

theorem largeGroup_allDroppable : largeGroup.AllDroppable flatWorld 1 (Loot.empty 0) := by
  intro item hitem
  obtain ⟨-, rfl⟩ := List.mem_replicate.mp hitem
  refine ⟨⟨by decide, fun limit hlimit => ?_⟩, ?_⟩
  · cases hlimit
  · simp [Loot.hasRoom, Loot.empty, maxNrLootItems]

theorem not_always_dropsOne :
    ¬∀ (world : World Nat) (group : LootGroup Nat) (lootMode : UInt16) (drops : Drops),
      group.DropsOne world lootMode drops := by
  intro hall
  obtain ⟨after, hrun, hsize, -⟩ := (hall flatWorld largeGroup 1 ⟨Loot.empty 0, 0⟩).exactlyOne
    (List.cons_ne_nil _ _) largeGroup_allDroppable
  have hwraps : largeGroup.items.length % 256 = 0 := by
    rw [items, largeGroup, List.nil_append, List.length_replicate]
  rw [process_of_mod_eq_zero hwraps] at hrun
  cases hrun
  omega

end LootTemplate.LootGroup

end MopServer.Loots
