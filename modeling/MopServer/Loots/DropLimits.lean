import MopServer.Loots.GroupDrops

/-! # Drop limits

An item that is not equippable may drop three times, one that is once.  Groups keep to it; plain
entries do not.
-/

namespace MopServer.Loots

open MopServer.Foundation

variable {Chance : Type} (world : World Chance)

/-- How often an item has dropped; a currency of the same number is no item. -/
def Loot.copies (loot : Loot) (itemId : UInt32) : Nat :=
  loot.items.countP fun item => item.itemId = itemId && !item.currency

/-- No item has dropped more often than it may, and no more than fit. -/
structure WithinLimits (loot : Loot) : Prop where
  copies : ∀ itemId limit, dropLimit world itemId = some limit → loot.copies itemId ≤ limit
  items : loot.items.length ≤ maxNrLootItems
  questItems : loot.questItems.length ≤ maxNrQuestItems

/-- An item that is added to the others has dropped less often than it may. -/
def LootStoreItem.Allowed (loot : Loot) (item : LootStoreItem Chance) : Prop :=
  item.needsQuest = false → item.currency = false → loot.items.length < maxNrLootItems →
    ∀ limit, dropLimit world item.itemId = some limit → loot.copies item.itemId < limit

variable {world}

/-! ## One item -/

variable {item : LootStoreItem Chance}

variable (env : Environment)

/-- `AddItem` appends the item to one of the lists, or does nothing. -/
theorem addItem_cases (loot : Loot) (item : StoreItem) :
    (item.needsQuest = true ∧ (addItem env loot item).items = loot.items ∧
      (addItem env loot item).questItems.length ≤ max loot.questItems.length maxNrQuestItems ∧
      loot.questItems.length ≤ (addItem env loot item).questItems.length) ∨
    (item.needsQuest = false ∧ (addItem env loot item).questItems = loot.questItems ∧
      (loot.items.length < maxNrLootItems ∧
          (addItem env loot item).items = loot.items ++ [LootItem.ofStore env item] ∨
        maxNrLootItems ≤ loot.items.length ∧ (addItem env loot item).items = loot.items)) := by
  unfold addItem
  cases hquest : item.needsQuest with
  | true =>
    rw [if_pos rfl]
    left
    split
    next hroom =>
      refine ⟨rfl, rfl, ?_, ?_⟩ <;> simp only [List.length_append, List.length_singleton]
      · exact (Nat.succ_le_of_lt hroom).trans (le_max_right _ _)
      · omega
    · exact ⟨rfl, rfl, le_max_left _ _, le_rfl⟩
  | false =>
    rw [if_neg Bool.false_ne_true]
    right
    split
    next hroom =>
      refine ⟨rfl, ?_, Or.inl ⟨hroom, ?_⟩⟩ <;> dsimp only <;> split <;> rfl
    next hfull => exact ⟨rfl, rfl, Or.inr ⟨Nat.le_of_not_lt hfull, rfl⟩⟩

theorem copies_append (items : List LootItem) (item : StoreItem) (itemId : UInt32) :
    (items ++ [LootItem.ofStore env item]).countP
        (fun other => other.itemId = itemId && !other.currency) =
      items.countP (fun other => other.itemId = itemId && !other.currency) +
        if item.itemId = itemId ∧ item.currency = false then 1 else 0 := by
  rw [List.countP_append, List.countP_singleton]
  congr 1
  by_cases hitem : item.itemId = itemId
  · cases hcurrency : item.currency <;> simp [LootItem.ofStore, hitem, hcurrency]
  · simp [LootItem.ofStore, hitem]

theorem WithinLimits.addItem {loot : Loot} (hwithin : WithinLimits world loot)
    (hallowed : item.Allowed world loot) :
    WithinLimits world (addItem world.toEnvironment loot item.toStoreItem) := by
  rcases addItem_cases world.toEnvironment loot item.toStoreItem with
    ⟨-, hitems, hquest, -⟩ | ⟨hquest, hquests, ⟨hroom, hitems⟩ | ⟨-, hitems⟩⟩
  · refine ⟨fun itemId limit hlimit => ?_, hitems ▸ hwithin.items, hquest.trans ?_⟩
    · rw [Loot.copies, hitems]
      exact hwithin.copies itemId limit hlimit
    · exact max_le hwithin.questItems le_rfl
  · refine ⟨fun itemId limit hlimit => ?_, ?_, hquests ▸ hwithin.questItems⟩
    · rw [Loot.copies, hitems, copies_append]
      split
      next hitem =>
        obtain ⟨rfl, hcurrency⟩ := hitem
        exact hallowed hquest hcurrency hroom limit hlimit
      · exact hwithin.copies itemId limit hlimit
    · rw [hitems, List.length_append]
      exact hroom
  · refine ⟨fun itemId limit hlimit => ?_, hitems ▸ hwithin.items, hquests ▸ hwithin.questItems⟩
    rw [Loot.copies, hitems]
    exact hwithin.copies itemId limit hlimit

variable {drops : Drops}

variable (lootMode : UInt16)

/-- A certain plain entry for an item. -/
def ring : LootStoreItem Nat :=
  { itemId := 1, needsQuest := false, currency := false, hasConditions := false, chance := 100
    mincountOrRef := 1, lootmode := 1, group := 0, maxcount := 1 }

end MopServer.Loots
