import MopServer.Foundation.Bits
import MopServer.Foundation.Run
import MopServer.Loots.Loot

/-! # What is left of a loot

The counter of a loot is meant to be the number of items and of entries in the lists of
players that are left.  A loot with such a counter is finished exactly when nothing is left
for anybody, and taking what one has an entry for keeps it so.
-/

namespace MopServer.Loots

open MopServer.Foundation

def unlooted (row : PlayerItems) : Nat := row.entries.countP fun entry => !entry.isLooted

/-- An item without the flags that change. -/
def LootItem.statics (item : LootItem) : LootItem :=
  { item with isLooted := false, isBlocked := false, isCounted := false }

namespace Loot

variable (loot : Loot) (kind : ListKind)

def left : Nat := (loot.lists kind).sum unlooted

def plainLeft : Nat :=
  loot.items.countP fun item => decide (item.listKind = none) && !item.isLooted

def remaining : Nat :=
  loot.plainLeft + (loot.left .currency + loot.left .quest + loot.left .ffa +
    loot.left .conditional)

/-- The part of an item that does not change. -/
def staticAt (index : Nat) : Option LootItem :=
  ((loot.itemsOf kind)[index]?).map LootItem.statics

def indicesOf (guidLow : UInt32) : List Nat :=
  (loot.entriesOf kind guidLow).map QuestItem.index

/-- The counter says how much is left, and has never wrapped. -/
def Exact : Prop :=
  loot.unlootedCount.toNat = loot.remaining ∧ loot.wraps = 0

end Loot

/-- Nobody can take anything he is allowed to take any more. -/
def NothingLeft (env : Environment) (looters : List Looter) (loot : Loot) : Prop :=
  loot.gold = 0 ∧ ∀ looter ∈ looters, ∀ lootSlot found,
    loot.lootItemInSlot lootSlot looter.guidLow = some found →
      env.allowed looter.guidLow found.item.toStoreItem = false

/-- What the lists of a loot say; `filled` tells which have been filled for whom. -/
structure Listed (env : Environment) (looters : List Looter) (filled : Looter → ListKind → Prop)
    (loot : Loot) : Prop where
  nodup : ∀ kind guidLow, (loot.indicesOf kind guidLow).Nodup
  entries : ∀ kind guidLow, ∀ index ∈ loot.indicesOf kind guidLow,
    ∃ item, loot.staticAt kind index = some item ∧
      (kind ≠ .quest → item.listKind = some kind) ∧
      env.allowed guidLow item.toStoreItem = true
  complete : ∀ looter kind index item, filled looter kind →
    loot.staticAt kind index = some item → item.listKind = some kind →
      env.allowed looter.guidLow item.toStoreItem = true →
        index ∈ loot.indicesOf kind looter.guidLow
  owned : ∀ index item, loot.staticAt .ffa index = some item → item.listKind = none →
    ∃ looter ∈ looters, env.allowed looter.guidLow item.toStoreItem = true
  currencies : ∀ index item, loot.staticAt .ffa index = some item → item.freeforall = true →
    item.currency = false
  players : ∀ kind, ∀ row ∈ loot.lists kind,
    ∃ looter, filled looter kind ∧ looter.guidLow = row.guidLow

/-! ## Lookups -/

variable (item : LootItem)

theorem listKind_ne_quest : item.listKind ≠ some .quest := by
  unfold LootItem.listKind
  repeat' split
  all_goals decide

@[simp] theorem listKind_statics : item.statics.listKind = item.listKind := rfl

@[simp] theorem toStoreItem_statics : item.statics.toStoreItem = item.toStoreItem := rfl

theorem itemsOf_of_ne_quest (loot : Loot) {kind : ListKind} (hkind : kind ≠ .quest) :
    loot.itemsOf kind = loot.items := by
  cases kind <;> first | rfl | exact absurd rfl hkind

section

variable {env : Environment} {looters : List Looter} {filled : Looter → ListKind → Prop}
  {loot after : Loot} {kind : ListKind} {guidLow : UInt32} {index slot : Nat} {found : Found}
  {entry : QuestItem} {item : LootItem}

theorem mem_entriesOf : entry ∈ loot.entriesOf kind guidLow ↔
    ∃ row ∈ loot.lists kind, row.guidLow = guidLow ∧ entry ∈ row.entries := by
  unfold Loot.entriesOf
  constructor
  · intro hentry
    cases hget : (loot.lists kind).get? guidLow with
    | none =>
      rw [hget] at hentry
      cases hentry
    | some row =>
      rw [hget] at hentry
      obtain ⟨hrow, hguid⟩ := Table.get?_eq_some_iff.mp hget
      exact ⟨row, hrow, hguid, hentry⟩
  · rintro ⟨row, hrow, hguid, hentry⟩
    rw [Table.get?_eq_some_iff.mpr ⟨hrow, hguid⟩]
    exact hentry

/-- An item that is handed out is one the player has an entry for that is left, or one he has
no entry for that is itself left. -/
theorem lootItemInSlot_cases (hfound : loot.lootItemInSlot slot guidLow = some found) :
    (∃ kind, found.kind = some kind ∧
      (kind ≠ .quest → found.item.listKind = some kind ∧ found.index = slot) ∧
      (loot.itemsOf kind)[found.index]? = some found.item ∧
      ∃ entry ∈ loot.entriesOf kind guidLow, entry.index = found.index ∧
        entry.isLooted = false) ∨
      (found.kind = none ∧ loot.items[found.index]? = some found.item ∧
        found.item.isLooted = false ∧ found.index = slot ∧
        ∀ kind, found.item.listKind = some kind →
          found.index ∉ loot.indicesOf kind guidLow) := by
  unfold Loot.lootItemInSlot at hfound
  split at hfound
  · -- A slot of a quest item.
    split at hfound
    · cases hfound
    next entry hentry =>
    split at hfound
    · cases hfound
    next hlooted =>
    obtain ⟨item, hitem, rfl⟩ := Option.map_eq_some_iff.mp hfound
    refine Or.inl ⟨.quest, rfl, fun hne => absurd rfl hne, hitem, entry,
      List.mem_of_getElem? hentry, rfl, by simpa using hlooted⟩
  · split at hfound
    · cases hfound
    next item hitem =>
    dsimp only at hfound
    split at hfound
    next hentry =>
      split at hfound
      · cases hfound
      next hlooted =>
      obtain rfl := Option.some.inj hfound
      refine Or.inr ⟨rfl, hitem, by simpa using hlooted, rfl, fun kind hkind hmem => ?_⟩
      rw [hkind, Option.bind_some, List.find?_eq_none] at hentry
      obtain ⟨entry, hmem, hindex⟩ := List.mem_map.mp hmem
      exact hentry entry hmem (by simpa using hindex)
    next entry hentry =>
      split at hfound
      · cases hfound
      next hlooted =>
      obtain rfl := Option.some.inj hfound
      obtain ⟨kind, hkind, hentry⟩ := Option.bind_eq_some_iff.mp hentry
      have hne : kind ≠ .quest := by
        rintro rfl
        exact listKind_ne_quest item hkind
      refine Or.inl ⟨kind, hkind, fun _ => ⟨hkind, rfl⟩, ?_, entry,
        List.mem_of_find?_eq_some hentry, by simpa using List.find?_some hentry,
        by simpa using hlooted⟩
      rw [itemsOf_of_ne_quest loot hne]
      exact hitem

theorem staticAt_of_getElem? (hitem : (loot.itemsOf kind)[index]? = some item) :
    loot.staticAt kind index = some item.statics := by
  unfold Loot.staticAt
  rw [hitem, Option.map_some]

theorem getElem?_of_staticAt {static : LootItem} (hstatic : loot.staticAt kind index = some static) :
    ∃ item, (loot.itemsOf kind)[index]? = some item ∧ item.statics = static :=
  Option.map_eq_some_iff.mp hstatic

variable (hlisted : Listed env looters filled loot) (hentry : entry ∈ loot.entriesOf kind guidLow)
  (hleft : entry.isLooted = false)

include hlisted hentry hleft in
theorem exists_found_of_entry :
    ∃ slot found, loot.lootItemInSlot slot guidLow = some found ∧
      env.allowed guidLow found.item.toStoreItem = true := by
  obtain ⟨static, hstatic, hkind, hallowed⟩ := hlisted.entries kind guidLow entry.index
    (List.mem_map.mpr ⟨entry, hentry, rfl⟩)
  obtain ⟨item, hitem, rfl⟩ := getElem?_of_staticAt hstatic
  by_cases hquest : kind = .quest
  · subst hquest
    obtain ⟨position, hposition⟩ := List.getElem?_of_mem hentry
    refine ⟨loot.items.length + position, ⟨some .quest, entry.index, item⟩, ?_, hallowed⟩
    unfold Loot.lootItemInSlot
    rw [if_pos (Nat.le_add_right _ _), Nat.add_sub_cancel_left, hposition]
    dsimp only
    rw [hleft, if_neg Bool.false_ne_true]
    have hitem : loot.questItems[entry.index]? = some item := hitem
    rw [hitem, Option.map_some]
  · have hkind : item.listKind = some kind := hkind hquest
    rw [itemsOf_of_ne_quest loot hquest] at hitem
    have hlt : entry.index < loot.items.length := (List.getElem?_eq_some_iff.mp hitem).1
    refine ⟨entry.index, ⟨item.listKind, entry.index, item⟩, ?_, hallowed⟩
    have hfind : (loot.entriesOf kind guidLow).find? (fun other => other.index = entry.index) =
        some entry := by
      obtain ⟨before, rest, hsplit⟩ := List.append_of_mem hentry
      have hnodup := hlisted.nodup kind guidLow
      unfold Loot.indicesOf at hnodup
      rw [hsplit, List.map_append, List.map_cons] at hnodup
      refine List.find?_eq_some_iff_append.mpr ⟨by simp, before, rest, hsplit, fun other hother => ?_⟩
      have hne := (List.nodup_append.mp hnodup).2.2 other.index
        (List.mem_map.mpr ⟨other, hother, rfl⟩) entry.index List.mem_cons_self
      simpa using hne
    unfold Loot.lootItemInSlot
    rw [if_neg (by omega), hitem]
    dsimp only
    rw [hkind, Option.bind_some, hfind]
    dsimp only
    rw [hleft, if_neg Bool.false_ne_true]

variable (hitem : loot.items[index]? = some item) (hplain : item.listKind = none)

include hitem hplain in
theorem lootItemInSlot_plain (hleft : item.isLooted = false) (guidLow : UInt32) :
    loot.lootItemInSlot index guidLow = some ⟨none, index, item⟩ := by
  have hlt : index < loot.items.length := (List.getElem?_eq_some_iff.mp hitem).1
  unfold Loot.lootItemInSlot
  rw [if_neg (by omega), hitem]
  dsimp only
  rw [hplain, Option.bind_none]
  rw [hleft, if_neg Bool.false_ne_true]

include hentry hleft in
theorem left_pos : 0 < loot.left kind := by
  obtain ⟨row, hrow, -, hentry⟩ := mem_entriesOf.mp hentry
  rw [Nat.pos_iff_ne_zero]
  intro hzero
  have hrow := Table.sum_eq_zero_iff.mp hzero row hrow
  exact List.countP_eq_zero.mp hrow entry hentry (by rw [hleft]; rfl)

theorem left_le_remaining (loot : Loot) (kind : ListKind) : loot.left kind ≤ loot.remaining := by
  unfold Loot.remaining
  cases kind <;> omega

include hitem hplain in
theorem plainLeft_pos (hleft : item.isLooted = false) : 0 < loot.plainLeft := by
  unfold Loot.plainLeft
  rw [List.countP_pos_iff]
  refine ⟨item, List.mem_of_getElem? hitem, ?_⟩
  rw [hplain, hleft]
  rfl

/-- With an exact counter, the loot is over exactly when nothing is left for anybody. -/
theorem isLooted_iff_nothingLeft
    (hlisted : Listed env looters (fun looter _ => looter ∈ looters) loot) (hexact : loot.Exact) :
    loot.isLooted = true ↔ NothingLeft env looters loot := by
  have hcount : loot.unlootedCount = 0 ↔ loot.remaining = 0 := by
    rw [← hexact.1]
    exact ⟨fun hzero => by rw [hzero]; rfl, fun hzero => UInt8.toNat_inj.mp hzero⟩
  unfold Loot.isLooted
  rw [Bool.and_eq_true, decide_eq_true_eq, decide_eq_true_eq, hcount]
  refine and_congr_right fun _ => ⟨?_, ?_⟩
  · intro hzero looter hlooter lootSlot found hfound
    rw [← Bool.not_eq_true]
    intro hallowed
    rcases lootItemInSlot_cases hfound with
      ⟨kind, -, -, -, entry, hentry, -, hleft⟩ | ⟨-, hitem, hleft, -, hunlisted⟩
    · have hpos := left_pos hentry hleft
      have hle := left_le_remaining loot kind
      omega
    · cases hkind : found.item.listKind with
      | none =>
        have hpos := plainLeft_pos hitem hkind hleft
        unfold Loot.remaining at hzero
        omega
      | some kind =>
        have hne : kind ≠ .quest := by
          rintro rfl
          exact listKind_ne_quest found.item hkind
        have hstatic : loot.staticAt kind found.index = some found.item.statics :=
          staticAt_of_getElem? (by rw [itemsOf_of_ne_quest loot hne]; exact hitem)
        exact hunlisted kind hkind
          (hlisted.complete looter kind found.index _ hlooter hstatic hkind hallowed)
  · intro hnothing
    by_contra hremaining
    -- Something is left: an entry of a list, or an item on no list.
    have hsplit : loot.plainLeft ≠ 0 ∨ ∃ kind, loot.left kind ≠ 0 := by
      by_contra hnone
      obtain ⟨hplain, hlists⟩ := not_or.mp hnone
      have hzero : ∀ kind, loot.left kind = 0 := fun kind => by
        by_contra hne
        exact hlists ⟨kind, hne⟩
      apply hremaining
      unfold Loot.remaining
      rw [hzero, hzero, hzero, hzero]
      omega
    rcases hsplit with hplain | ⟨kind, hleft⟩
    · obtain ⟨item, hitem, hproperty⟩ := List.countP_pos_iff.mp (Nat.pos_of_ne_zero hplain)
      rw [Bool.and_eq_true, decide_eq_true_eq, Bool.not_eq_true'] at hproperty
      obtain ⟨index, hindex⟩ := List.getElem?_of_mem hitem
      obtain ⟨looter, hlooter, hallowed⟩ := hlisted.owned index item.statics
        (staticAt_of_getElem? hindex) hproperty.1
      have hfound := lootItemInSlot_plain hindex hproperty.1 hproperty.2 looter.guidLow
      rw [show env.allowed looter.guidLow item.statics.toStoreItem = _ from
        hnothing looter hlooter _ _ hfound] at hallowed
      cases hallowed
    · obtain ⟨row, hrow, hpositive⟩ : ∃ row ∈ loot.lists kind, unlooted row ≠ 0 := by
        by_contra hnone
        refine hleft (Table.sum_eq_zero_iff.mpr fun row hrow => ?_)
        by_contra hne
        exact hnone ⟨row, hrow, hne⟩
      obtain ⟨entry, hentry, hunlooted⟩ := List.countP_pos_iff.mp (Nat.pos_of_ne_zero hpositive)
      obtain ⟨looter, hlooter, hguid⟩ := hlisted.players kind row hrow
      obtain ⟨lootSlot, found, hfound, hallowed⟩ := exists_found_of_entry hlisted
        (mem_entriesOf.mpr ⟨row, hrow, rfl, hentry⟩) (by simpa using hunlooted)
      rw [← hguid] at hfound hallowed
      rw [hnothing looter hlooter lootSlot found hfound] at hallowed
      cases hallowed

/-! ## Steps -/

variable (f : LootItem → LootItem)

/-- Only flags, the counter and the gold have changed. -/
structure SameLists (loot after : Loot) : Prop where
  statics : ∀ kind index, after.staticAt kind index = loot.staticAt kind index
  indices : ∀ kind guidLow, after.indicesOf kind guidLow = loot.indicesOf kind guidLow
  players : ∀ kind, ∀ row ∈ after.lists kind, ∃ old ∈ loot.lists kind, old.guidLow = row.guidLow

theorem SameLists.refl (loot : Loot) : SameLists loot loot :=
  ⟨fun _ _ => rfl, fun _ _ => rfl, fun _ row hrow => ⟨row, hrow, rfl⟩⟩

theorem SameLists.trans {mid : Loot} (hfirst : SameLists loot mid) (hsecond : SameLists mid after) :
    SameLists loot after where
  statics kind index := (hsecond.statics kind index).trans (hfirst.statics kind index)
  indices kind guidLow := (hsecond.indices kind guidLow).trans (hfirst.indices kind guidLow)
  players kind row hrow := by
    obtain ⟨middle, hmiddle, hguid⟩ := hsecond.players kind row hrow
    obtain ⟨old, hold, hold'⟩ := hfirst.players kind middle hmiddle
    exact ⟨old, hold, hold'.trans hguid⟩

include hlisted in
theorem Listed.of_same (hsame : SameLists loot after) : Listed env looters filled after := by
  refine ⟨?_, ?_, ?_, ?_, ?_, ?_⟩
  · intro kind guidLow
    rw [hsame.indices]
    exact hlisted.nodup kind guidLow
  · intro kind guidLow index hindex
    rw [hsame.indices] at hindex
    rw [hsame.statics]
    exact hlisted.entries kind guidLow index hindex
  · intro looter kind index item hfilled hstatic
    rw [hsame.statics] at hstatic
    rw [hsame.indices]
    exact hlisted.complete looter kind index item hfilled hstatic
  · intro index item hstatic
    rw [hsame.statics] at hstatic
    exact hlisted.owned index item hstatic
  · intro index item hstatic
    rw [hsame.statics] at hstatic
    exact hlisted.currencies index item hstatic
  · intro kind row hrow
    obtain ⟨old, hold, hguid⟩ := hsame.players kind row hrow
    rw [← hguid]
    exact hlisted.players kind old hold

theorem lists_modifyItem (loot : Loot) (kind : ListKind) (index : Nat) :
    (loot.modifyItem kind index f).lists = loot.lists := by
  cases kind <;> rfl

/-- The number of rows with a property after one of them has been rewritten. -/
theorem countP_modify {Row : Type*} (rows : List Row) (p : Row → Bool) (f : Row → Row) (index : Nat)
    {row : Row} (hrow : rows[index]? = some row) :
    (rows.modify index f).countP p + (if p row then 1 else 0) =
      rows.countP p + if p (f row) then 1 else 0 := by
  induction rows generalizing index with
  | nil => cases hrow
  | cons first rest ih =>
    cases index with
    | zero =>
      obtain rfl : first = row := by simpa using hrow
      simp only [List.modify_zero_cons, List.countP_cons]
      omega
    | succ index =>
      have hrest := ih index (by simpa using hrow)
      simp only [List.modify_succ_cons, List.countP_cons]
      omega

theorem modify_of_none {Row : Type*} (rows : List Row) (f : Row → Row) (index : Nat)
    (hrow : rows[index]? = none) : rows.modify index f = rows :=
  List.modify_eq_self (List.getElem?_eq_none_iff.mp hrow)

/-- A rewriting of flags. -/
theorem sameLists_modifyItem {f : LootItem → LootItem} (hf : ∀ item, (f item).statics = item.statics)
    (loot : Loot) (kind : ListKind) (index : Nat) : SameLists loot (loot.modifyItem kind index f) := by
  have hmodify : ∀ (items : List LootItem) (other : Nat),
      ((items.modify index f)[other]?).map LootItem.statics =
        (items[other]?).map LootItem.statics := by
    intro items other
    rw [List.getElem?_modify]
    cases items[other]? with
    | none => split <;> rfl
    | some item =>
      split
      · exact congrArg some (hf item)
      · rfl
  refine ⟨?_, ?_, ?_⟩
  · intro other position
    cases kind <;> cases other <;> first | rfl | exact hmodify _ position
  · intro other guidLow
    unfold Loot.indicesOf Loot.entriesOf
    rw [lists_modifyItem]
  · intro other row hrow
    rw [lists_modifyItem] at hrow
    exact ⟨row, hrow, rfl⟩

theorem left_modifyItem (loot : Loot) (kind : ListKind) (index : Nat) (other : ListKind) :
    (loot.modifyItem kind index f).left other = loot.left other := by
  unfold Loot.left
  rw [lists_modifyItem]

/-- Flags that do not say what is looted, or are those of items on lists, do not change how
much is left. -/
theorem remaining_modifyItem {f : LootItem → LootItem} (hf : ∀ item, (f item).statics = item.statics)
    (hlooted : ∀ item, kind ≠ .quest → loot.items[index]? = some item →
      (f item).isLooted = item.isLooted ∨ item.listKind ≠ none) :
    (loot.modifyItem kind index f).remaining = loot.remaining := by
  have hplain : (loot.modifyItem kind index f).plainLeft = loot.plainLeft := by
    have hitems : kind ≠ .quest → (loot.items.modify index f).countP
        (fun item => decide (item.listKind = none) && !item.isLooted) = loot.plainLeft := by
      intro hkind
      cases hitem : loot.items[index]? with
      | none =>
        rw [modify_of_none _ _ _ hitem]
        rfl
      | some item =>
        have hcount := countP_modify loot.items
          (fun item => decide (item.listKind = none) && !item.isLooted) f index hitem
        have hstatic : (f item).listKind = item.listKind := by
          rw [← listKind_statics, hf, listKind_statics]
        have hsame : (decide ((f item).listKind = none) && !(f item).isLooted) =
            (decide (item.listKind = none) && !item.isLooted) := by
          rw [hstatic]
          rcases hlooted item hkind hitem with heq | hne
          · rw [heq]
          · rw [decide_eq_false hne]
            rfl
        rw [hsame] at hcount
        unfold Loot.plainLeft
        omega
    cases kind <;> first | rfl | exact hitems (by decide)
  unfold Loot.remaining
  rw [hplain, left_modifyItem, left_modifyItem, left_modifyItem, left_modifyItem]

include hitem hplain in
theorem remaining_loot_plain (hleft : item.isLooted = false) :
    (loot.modifyItem .ffa index fun item => { item with isLooted := true }).remaining + 1 =
      loot.remaining := by
  have hcount := countP_modify loot.items
    (fun item => decide (item.listKind = none) && !item.isLooted)
    (fun item => { item with isLooted := true }) index hitem
  have hbefore : (decide (item.listKind = none) && !item.isLooted) = true := by
    rw [hplain, hleft]
    rfl
  rw [hbefore, if_pos rfl] at hcount
  simp only [Bool.not_true, Bool.and_false, Bool.false_eq_true, if_false, Nat.add_zero] at hcount
  have hplainLeft : (loot.modifyItem .ffa index fun item => { item with isLooted := true }).plainLeft +
      1 = loot.plainLeft := hcount
  unfold Loot.remaining
  rw [left_modifyItem, left_modifyItem, left_modifyItem, left_modifyItem]
  omega

theorem countP_map_mark {entries : List QuestItem} (hnodup : (entries.map QuestItem.index).Nodup)
    (hentry : entry ∈ entries) (hleft : entry.isLooted = false) :
    (entries.map fun other => if other.index = entry.index then { other with isLooted := true }
      else other).countP (fun other => !other.isLooted) + 1 =
      entries.countP fun other => !other.isLooted := by
  obtain ⟨before, rest, rfl⟩ := List.append_of_mem hentry
  rw [List.map_append, List.map_cons] at hnodup
  have hkeep : ∀ part : List QuestItem, entry.index ∉ part.map QuestItem.index →
      part.map (fun other => if other.index = entry.index then { other with isLooted := true }
        else other) = part := by
    intro part hpart
    refine (List.map_congr_left fun other hother => if_neg fun heq => ?_).trans (List.map_id' part)
    exact hpart (List.mem_map.mpr ⟨other, hother, heq⟩)
  have hbefore : entry.index ∉ before.map QuestItem.index := fun hmem =>
    (List.nodup_append.mp hnodup).2.2 _ hmem _ List.mem_cons_self rfl
  have hrest := (List.nodup_cons.mp (List.nodup_append.mp hnodup).2.1).1
  rw [List.map_append, List.map_cons, hkeep before hbefore, hkeep rest hrest, if_pos rfl]
  simp only [List.countP_append, List.countP_cons, hleft, Bool.not_true, Bool.false_eq_true,
    if_false, Bool.not_false, if_true]
  omega

theorem sameLists_markEntry (loot : Loot) (kind : ListKind) (guidLow : UInt32) (index : Nat) :
    SameLists loot (loot.markEntry kind guidLow index) := by
  refine ⟨fun other _ => by cases other <;> rfl, ?_, ?_⟩
  · intro other player
    unfold Loot.indicesOf Loot.entriesOf Loot.markEntry
    dsimp only
    by_cases hkind : other = kind
    · subst hkind
      rw [Function.update_self, Table.get?_modify]
      split
      next hplayer =>
        subst hplayer
        cases (loot.lists other).get? player with
        | none => rfl
        | some row =>
          simp only [Option.map_some, Option.elim_some, List.map_map]
          refine List.map_congr_left fun entry _ => ?_
          simp only [Function.comp_apply]
          split <;> rfl
      · rfl
    · rw [Function.update_of_ne hkind]
  · intro other row hrow
    unfold Loot.markEntry at hrow
    dsimp only at hrow
    by_cases hkind : other = kind
    · subst hkind
      rw [Function.update_self] at hrow
      obtain ⟨old, hold, rfl⟩ := (Table.mem_modify _).mp hrow
      refine ⟨old, hold, ?_⟩
      split <;> rfl
    · rw [Function.update_of_ne hkind] at hrow
      exact ⟨row, hrow, rfl⟩

include hlisted hentry hleft in
/-- An own entry that is taken is one less. -/
theorem remaining_markEntry :
    (loot.markEntry kind guidLow entry.index).remaining + 1 = loot.remaining := by
  obtain ⟨row, hrow, rfl, hmem⟩ := mem_entriesOf.mp hentry
  have hnodup : (row.entries.map QuestItem.index).Nodup := by
    have hlist := hlisted.nodup kind row.guidLow
    unfold Loot.indicesOf Loot.entriesOf at hlist
    have hget : (loot.lists kind).get? row.guidLow = some row := Table.get?_key hrow
    rw [hget] at hlist
    exact hlist
  have hsum := Table.sum_modify hrow
    (fun row => { row with entries := row.entries.map fun other =>
      if other.index = entry.index then { other with isLooted := true } else other })
    (fun _ => rfl) unlooted
  have hcount : unlooted { row with entries := row.entries.map fun other =>
      if other.index = entry.index then { other with isLooted := true } else other } + 1 =
      unlooted row := countP_map_mark hnodup hmem hleft
  have hself : (loot.markEntry kind row.guidLow entry.index).left kind + 1 = loot.left kind := by
    unfold Loot.left Loot.markEntry
    dsimp only
    rw [Function.update_self]
    rw [key_playerItems] at hsum
    omega
  have hother : ∀ other, other ≠ kind →
      (loot.markEntry kind row.guidLow entry.index).left other = loot.left other := by
    intro other hne
    unfold Loot.left Loot.markEntry
    dsimp only
    rw [Function.update_of_ne hne]
  have hplain : (loot.markEntry kind row.guidLow entry.index).plainLeft = loot.plainLeft := rfl
  unfold Loot.remaining
  rw [hplain]
  cases kind with
  | currency =>
    rw [hother .quest (by decide), hother .ffa (by decide), hother .conditional (by decide)]
    omega
  | quest =>
    rw [hother .currency (by decide), hother .ffa (by decide), hother .conditional (by decide)]
    omega
  | ffa =>
    rw [hother .currency (by decide), hother .quest (by decide), hother .conditional (by decide)]
    omega
  | conditional =>
    rw [hother .currency (by decide), hother .quest (by decide), hother .ffa (by decide)]
    omega

/-- The counter stays exact when it is lowered and one less is left. -/
theorem exact_lower (hexact : loot.Exact) (hremaining : after.remaining + 1 = loot.remaining)
    (hcount : after.unlootedCount = loot.unlootedCount) (hwraps : after.wraps = loot.wraps) :
    after.lower.Exact := by
  obtain ⟨hvalue, hnone⟩ := hexact
  have hpositive : 0 < after.unlootedCount.toNat := by
    rw [hcount]
    omega
  have hne : after.unlootedCount ≠ 0 := by
    intro hzero
    rw [hzero] at hpositive
    exact absurd hpositive (by decide)
  refine ⟨?_, ?_⟩
  · have hremaining' : after.lower.remaining = after.remaining := rfl
    rw [hremaining']
    unfold Loot.lower
    rw [toNat_sub_one hpositive, hcount]
    omega
  · unfold Loot.lower
    rw [if_neg hne, hwraps, hnone]

theorem sameLists_lower (loot : Loot) : SameLists loot loot.lower :=
  ⟨fun kind _ => by cases kind <;> rfl, fun _ _ => rfl, fun _ row hrow => ⟨row, hrow, rfl⟩⟩

/-! ## Taking -/

/-- A player takes only what he has an entry for, if the item is on a list. -/
def TakesHisOwn (loot : Loot) (guidLow : UInt32) (lootSlot : Nat) : Prop :=
  ∀ found, loot.lootItemInSlot lootSlot guidLow = some found → found.kind = none →
    found.item.listKind = none

theorem sameLists_looted (loot : Loot) (kind : ListKind) (index : Nat) :
    SameLists loot (loot.modifyItem kind index fun item => { item with isLooted := true }) :=
  sameLists_modifyItem (f := fun item => { item with isLooted := true }) (fun _ => rfl) loot kind
    index

include hlisted in
theorem take_entry (hexact : loot.Exact) (hentry : entry ∈ loot.entriesOf kind guidLow)
    (hleft : entry.isLooted = false) (hkind : kind ≠ .quest → item.listKind = some kind)
    (hitem : (loot.itemsOf kind)[entry.index]? = some item) :
    SameLists loot
        ((loot.markEntry kind guidLow entry.index).lootOnce kind entry.index item).lower ∧
      ((loot.markEntry kind guidLow entry.index).lootOnce kind entry.index item).lower.Exact := by
  have hmarked := remaining_markEntry hlisted hentry hleft
  have hsame := sameLists_markEntry loot kind guidLow entry.index
  unfold Loot.lootOnce
  split
  · exact ⟨hsame.trans (sameLists_lower _), exact_lower hexact hmarked rfl rfl⟩
  · refine ⟨(hsame.trans (sameLists_looted _ kind entry.index)).trans (sameLists_lower _),
      exact_lower hexact ?_ ?_ ?_⟩
    · rw [remaining_modifyItem (f := fun item => { item with isLooted := true }) (fun _ => rfl),
        hmarked]
      -- The item is on a list or a quest item: its own flag is not counted.
      intro other hquest hother
      rw [itemsOf_of_ne_quest loot hquest] at hitem
      obtain rfl := Option.some.inj (hitem.symm.trans hother)
      rw [hkind hquest]
      exact Or.inr (by simp)
    · cases kind <;> rfl
    · cases kind <;> rfl

theorem take_plain (hexact : loot.Exact) (hitem : loot.items[index]? = some item)
    (hplain : item.listKind = none) (hleft : item.isLooted = false) :
    SameLists loot (loot.lootOnce .ffa index item).lower ∧
      (loot.lootOnce .ffa index item).lower.Exact := by
  have hfree : item.freeforall = false := by
    unfold LootItem.listKind at hplain
    split at hplain
    · cases hplain
    split at hplain
    · cases hplain
    next hfree => simpa using hfree
  unfold Loot.lootOnce
  rw [if_neg (by rw [hfree]; exact Bool.false_ne_true)]
  exact ⟨(sameLists_looted loot .ffa index).trans (sameLists_lower _),
    exact_lower hexact (remaining_loot_plain hitem hplain hleft) rfl rfl⟩

include hlisted in
/-- Who takes an entry of his own or a plain item leaves the counter exact. -/
theorem storeLootItem_kept (hexact : loot.Exact) (hown : TakesHisOwn loot guidLow slot)
    (canStore : Bool) :
    SameLists loot (loot.storeLootItem guidLow slot canStore) ∧
      (loot.storeLootItem guidLow slot canStore).Exact := by
  have hstay : SameLists loot loot ∧ loot.Exact := ⟨SameLists.refl loot, hexact⟩
  unfold Loot.storeLootItem
  split
  · exact hstay
  next found hfound =>
  split
  · exact hstay
  rcases lootItemInSlot_cases hfound with
    ⟨kind, hkind, hlist, hitem, entry, hentry, hindex, hleft⟩ | ⟨hkind, hitem, hleft, -⟩
  · rw [← hindex] at hitem ⊢
    have htake := take_entry hlisted hexact hentry hleft (fun hne => (hlist hne).1) hitem
    rw [hkind]
    cases kind with
    | currency =>
      -- Currencies are only marked in the list of the player.
      exact ⟨(sameLists_markEntry loot .currency guidLow entry.index).trans (sameLists_lower _),
        exact_lower hexact (remaining_markEntry hlisted hentry hleft) rfl rfl⟩
    | quest | ffa | conditional =>
      dsimp only
      split
      · exact htake
      · exact hstay
  · rw [hkind]
    dsimp only
    split
    · exact take_plain hexact hitem (hown found hfound hkind) hleft
    · exact hstay

end

end MopServer.Loots
