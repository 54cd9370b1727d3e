import MopServer.Loots.Remaining

/-! # When a loot is finished

The counter of a loot is the number of items and of entries in the lists of players that are
left, as long as every entry has been counted and only what has been counted is taken.
-/

namespace MopServer.Loots

open MopServer.Foundation

section

variable {env : Environment} {looters : List Looter} {filled : Looter → ListKind → Prop}
  {loot after : Loot} {kind : ListKind} {guidLow : UInt32} {index slot : Nat} {found : Found}
  {entry : QuestItem} {item : LootItem}

/-! ## Listing -/

variable {group : Option LootGroup} {looter : Looter}

theorem mem_indices {items : List LootItem} {p : LootItem → Bool} :
    index ∈ indices items p ↔ ∃ item, items[index]? = some item ∧ p item = true := by
  unfold indices
  simp only [List.mem_map, List.mem_filter, Prod.exists, exists_eq_right]
  constructor
  · rintro ⟨item, hmem, hp⟩
    exact ⟨item, List.mem_zipIdx_iff_getElem?.mp hmem, hp⟩
  · rintro ⟨item, hitem, hp⟩
    exact ⟨item, List.mem_zipIdx_iff_getElem?.mpr hitem, hp⟩

theorem nodup_indices (items : List LootItem) (p : LootItem → Bool) : (indices items p).Nodup := by
  have hnodup : (items.zipIdx.map Prod.snd).Nodup := by
    rw [List.zipIdx_map_snd]
    exact List.nodup_range'
  exact hnodup.sublist (List.filter_sublist.map Prod.snd)

theorem nodup_candidates (env : Environment) (group : Option LootGroup) (loot : Loot)
    (guidLow : UInt32) (kind : ListKind) : (candidates env group loot guidLow kind).Nodup := by
  unfold candidates
  cases kind with
  | quest => exact (nodup_indices _ _).sublist (List.take_sublist _ _)
  | _ => exact nodup_indices _ _

theorem candidates_spec
    (hcurrencies : ∀ index item, loot.staticAt .ffa index = some item → item.freeforall = true →
      item.currency = false) (hindex : index ∈ candidates env group loot guidLow kind) :
    ∃ item, (loot.itemsOf kind)[index]? = some item ∧ (kind ≠ .quest → item.listKind = some kind) := by
  unfold candidates at hindex
  cases kind with
  | currency =>
    obtain ⟨item, hitem, hp⟩ := mem_indices.mp hindex
    simp only [Bool.and_eq_true] at hp
    refine ⟨item, hitem, fun _ => ?_⟩
    unfold LootItem.listKind
    rw [if_pos hp.1.2]
  | quest =>
    obtain ⟨item, hitem, -⟩ := mem_indices.mp (List.mem_of_mem_take hindex)
    exact ⟨item, hitem, fun hne => absurd rfl hne⟩
  | ffa =>
    obtain ⟨item, hitem, hp⟩ := mem_indices.mp hindex
    simp only [Bool.and_eq_true] at hp
    have hcurrency : item.currency = false := hcurrencies index item.statics
      (staticAt_of_getElem? hitem) hp.1.2
    refine ⟨item, hitem, fun _ => ?_⟩
    unfold LootItem.listKind
    rw [if_neg (by rw [hcurrency]; exact Bool.false_ne_true), if_pos hp.1.2]
  | conditional =>
    obtain ⟨item, hitem, hp⟩ := mem_indices.mp hindex
    simp only [Bool.and_eq_true, Bool.not_eq_true'] at hp
    refine ⟨item, hitem, fun _ => ?_⟩
    unfold LootItem.listKind
    rw [hp.1.1.1.2, hp.1.1.2, hp.2]
    rfl

theorem mem_candidates (hitem : (loot.itemsOf kind)[index]? = some item)
    (hkind : item.listKind = some kind) (hleft : item.isLooted = false)
    (hallowed : env.allowed guidLow item.toStoreItem = true) :
    index ∈ candidates env group loot guidLow kind := by
  unfold candidates
  unfold LootItem.listKind at hkind
  split at hkind
  next hcurrency =>
    obtain rfl := Option.some.inj hkind
    refine mem_indices.mpr ⟨item, hitem, ?_⟩
    rw [hleft, hcurrency, hallowed]
    rfl
  next hcurrency =>
  split at hkind
  next hfree =>
    obtain rfl := Option.some.inj hkind
    refine mem_indices.mpr ⟨item, hitem, ?_⟩
    rw [hleft, hfree, hallowed]
    rfl
  next hfree =>
  split at hkind
  next hconditions =>
    obtain rfl := Option.some.inj hkind
    refine mem_indices.mpr ⟨item, hitem, ?_⟩
    rw [Bool.not_eq_true] at hcurrency hfree
    rw [hleft, hallowed, hconditions, hcurrency, hfree]
    rfl
  · cases hkind

/-- Everything that is listed for a player is allowed for him and raises the counter, which
has space for it. -/
def Regular (env : Environment) (group : Option LootGroup) (guidLow : UInt32) (loot : Loot)
    (kind : ListKind) : Prop :=
  (∀ index ∈ candidates env group loot guidLow kind, ∀ item,
    (loot.itemsOf kind)[index]? = some item →
      counted kind item = true ∧ env.allowed guidLow item.toStoreItem = true) ∧
  loot.unlootedCount.toNat + (candidates env group loot guidLow kind).length < 256

theorem statics_listed (group : Option LootGroup) (kind : ListKind) (item : LootItem) :
    (listed group kind item).statics = item.statics ∧
      (listed group kind item).isLooted = item.isLooted := by
  cases kind with
  | quest =>
    unfold listed
    dsimp only
    split <;> exact ⟨rfl, rfl⟩
  | _ => exact ⟨rfl, rfl⟩

/-- Nothing but quest items and entries of players has been taken. -/
def Fresh (loot : Loot) : Prop := ∀ item ∈ loot.items, item.isLooted = false

theorem fresh_modifyItem {f : LootItem → LootItem} (hfresh : Fresh loot)
    (hf : kind ≠ .quest → ∀ item, (f item).isLooted = item.isLooted) :
    Fresh (loot.modifyItem kind index f) := by
  have hmodify : kind ≠ .quest → ∀ item ∈ loot.items.modify index f, item.isLooted = false := by
    intro hkind item hitem
    obtain ⟨position, hposition⟩ := List.getElem?_of_mem hitem
    rw [List.getElem?_modify] at hposition
    obtain ⟨old, hold, rfl⟩ := Option.map_eq_some_iff.mp hposition
    have hlooted := hfresh old (List.mem_of_getElem? hold)
    split
    · rw [hf hkind]
      exact hlooted
    · exact hlooted
  cases kind <;> first | exact hfresh | exact hmodify (by decide)

theorem foldl_listed (group : Option LootGroup) (kind : ListKind) (marks : List Nat) (loot : Loot) :
    let after := marks.foldl (fun loot index => loot.modifyItem kind index (listed group kind)) loot
    SameLists loot after ∧ after.remaining = loot.remaining ∧ after.lists = loot.lists ∧
      after.unlootedCount = loot.unlootedCount ∧ after.wraps = loot.wraps ∧
      (Fresh loot → Fresh after) := by
  induction marks generalizing loot with
  | nil => exact ⟨SameLists.refl loot, rfl, rfl, rfl, rfl, id⟩
  | cons index rest ih =>
    obtain ⟨hsame, hremaining, hlists, hcount, hwraps, hfresh⟩ :=
      ih (loot.modifyItem kind index (listed group kind))
    have hfirst := sameLists_modifyItem (fun item => (statics_listed group kind item).1) loot kind
      index
    refine ⟨hfirst.trans hsame, hremaining.trans ?_, hlists.trans (lists_modifyItem _ _ _ _),
      hcount.trans ?_, hwraps.trans ?_, fun hold => hfresh ?_⟩
    · exact remaining_modifyItem (fun item => (statics_listed group kind item).1)
        fun item _ _ => Or.inl (statics_listed group kind item).2
    · cases kind <;> rfl
    · cases kind <;> rfl
    · exact fresh_modifyItem hold fun _ item => (statics_listed group kind item).2

def orFilled (filled : Looter → ListKind → Prop) (looter : Looter) (kind : ListKind) :
    Looter → ListKind → Prop :=
  fun other otherKind => filled other otherKind ∨ (other = looter ∧ otherKind = kind)

variable (hlisted : Listed env looters filled loot)

include hlisted in
theorem listed_orFilled (hfresh : Fresh loot)
    (hregular : Regular env group looter.guidLow loot kind)
    (hstatics : ∀ other index, after.staticAt other index = loot.staticAt other index)
    (hself : after.indicesOf kind looter.guidLow = candidates env group loot looter.guidLow kind)
    (hothers : ∀ other guidLow, ¬ (other = kind ∧ guidLow = looter.guidLow) →
      after.indicesOf other guidLow = loot.indicesOf other guidLow)
    (hplayers : ∀ other, ∀ row ∈ after.lists other, (other = kind ∧ row.guidLow = looter.guidLow) ∨
      row ∈ loot.lists other) : Listed env looters (orFilled filled looter kind) after := by
  refine ⟨?_, ?_, ?_, ?_, ?_, ?_⟩
  · intro other guidLow
    by_cases hsame : other = kind ∧ guidLow = looter.guidLow
    · obtain ⟨rfl, rfl⟩ := hsame
      rw [hself]
      exact nodup_candidates env group loot looter.guidLow other
    · rw [hothers other guidLow hsame]
      exact hlisted.nodup other guidLow
  · intro other guidLow index hindex
    rw [hstatics]
    by_cases hsame : other = kind ∧ guidLow = looter.guidLow
    · obtain ⟨rfl, rfl⟩ := hsame
      rw [hself] at hindex
      obtain ⟨item, hitem, hkind⟩ := candidates_spec hlisted.currencies hindex
      exact ⟨item.statics, staticAt_of_getElem? hitem, hkind,
        (hregular.1 index hindex item hitem).2⟩
    · rw [hothers other guidLow hsame] at hindex
      exact hlisted.entries other guidLow index hindex
  · intro other otherKind index static hfilled hstatic hkind hallowed
    rw [hstatics] at hstatic
    by_cases hsame : otherKind = kind ∧ other.guidLow = looter.guidLow
    · obtain ⟨rfl, hguid⟩ := hsame
      rw [hguid] at hallowed ⊢
      rw [hself]
      obtain ⟨item, hitem, rfl⟩ := getElem?_of_staticAt hstatic
      have hne : otherKind ≠ .quest := by
        rintro rfl
        exact listKind_ne_quest _ hkind
      have hleft : item.isLooted = false := by
        rw [itemsOf_of_ne_quest loot hne] at hitem
        exact hfresh item (List.mem_of_getElem? hitem)
      exact mem_candidates hitem hkind hleft hallowed
    · rw [hothers otherKind other.guidLow hsame]
      rcases hfilled with hfilled | ⟨rfl, rfl⟩
      · exact hlisted.complete other otherKind index static hfilled hstatic hkind hallowed
      · exact absurd ⟨rfl, rfl⟩ hsame
  · intro index item hstatic
    rw [hstatics] at hstatic
    exact hlisted.owned index item hstatic
  · intro index item hstatic
    rw [hstatics] at hstatic
    exact hlisted.currencies index item hstatic
  · intro other row hrow
    rcases hplayers other row hrow with ⟨rfl, hguid⟩ | hold
    · exact ⟨looter, Or.inr ⟨rfl, rfl⟩, hguid.symm⟩
    · obtain ⟨player, hfilled, hguid⟩ := hlisted.players other row hold
      exact ⟨player, Or.inl hfilled, hguid⟩

variable (hexact : loot.Exact)

include hexact in
theorem exact_raise {n : Nat} (hfits : loot.unlootedCount.toNat + n < 256) :
    (loot.raise n).unlootedCount.toNat = loot.remaining + n ∧ (loot.raise n).wraps = 0 := by
  obtain ⟨hvalue, hnone⟩ := hexact
  unfold Loot.raise
  refine ⟨?_, ?_⟩
  · rw [UInt8.toNat_add, UInt8.toNat_ofNat', Nat.mod_eq_of_lt (show n < 2 ^ 8 by omega), hvalue]
    exact Nat.mod_eq_of_lt (by omega)
  · rw [hnone, Nat.div_eq_of_lt hfits]

theorem remaining_insert {lists : ListKind → Table PlayerItems} {indices : List Nat}
    (hlists : loot.lists = lists) (hnone : (lists kind).get? guidLow = none) :
    { loot with lists := Function.update lists kind ((lists kind).insert
      ⟨guidLow, indices.map fun index => ⟨index, false⟩⟩ (Rearrangement.keep PlayerItems)) }.remaining =
      loot.remaining + indices.length := by
  subst hlists
  have hrow : unlooted ⟨guidLow, indices.map fun index => ⟨index, false⟩⟩ = indices.length := by
    unfold unlooted
    rw [List.countP_map, List.countP_eq_length.mpr]
    exact fun _ _ => rfl
  have hsum : ((loot.lists kind).insert ⟨guidLow, indices.map fun index => ⟨index, false⟩⟩
      (Rearrangement.keep PlayerItems)).sum unlooted =
      (loot.lists kind).sum unlooted + indices.length := by
    rw [Table.sum_insert hnone, hrow]
  unfold Loot.remaining Loot.left
  cases kind <;> simp [Function.update_of_ne, Loot.plainLeft, hsum] <;> omega

include hlisted hexact in
theorem fillList_kept (hfresh : Fresh loot)
    (hnew : ∀ other, filled other kind → other.guidLow ≠ looter.guidLow)
    (hregular : Regular env group looter.guidLow loot kind) :
    Listed env looters (orFilled filled looter kind) (fillList env group looter.guidLow loot kind) ∧
      (fillList env group looter.guidLow loot kind).Exact ∧
      Fresh (fillList env group looter.guidLow loot kind) := by
  have hnone : (loot.lists kind).get? looter.guidLow = none := by
    refine Table.get?_eq_none_iff.mpr fun row hrow hkey => ?_
    obtain ⟨other, hfilled, hguid⟩ := hlisted.players kind row hrow
    exact hnew other hfilled (hguid.trans hkey)
  have hbare : loot.indicesOf kind looter.guidLow = [] := by
    unfold Loot.indicesOf Loot.entriesOf
    rw [hnone]
    rfl
  unfold fillList
  rw [hnone, Option.isSome_none, if_neg Bool.false_ne_true]
  dsimp only
  split
  next hempty =>
    have hempty : candidates env group loot looter.guidLow kind = [] := by simpa using hempty
    refine ⟨listed_orFilled hlisted hfresh hregular (fun _ _ => rfl) ?_ (fun _ _ _ => rfl)
      (fun _ row hrow => Or.inr hrow), hexact, hfresh⟩
    rw [hbare, hempty]
  · have hall : ((candidates env group loot looter.guidLow kind).countP fun index =>
        ((loot.itemsOf kind)[index]?).any (counted kind)) =
        (candidates env group loot looter.guidLow kind).length := by
      rw [List.countP_eq_length]
      intro index hindex
      obtain ⟨item, hitem, -⟩ := candidates_spec hlisted.currencies hindex
      rw [hitem, Option.any_some]
      exact (hregular.1 index hindex item hitem).1
    rw [hall]
    obtain ⟨hraised, hwrapped⟩ := exact_raise hexact hregular.2
    obtain ⟨hsame, hremaining, hlists, hcount, hwraps, hkeep⟩ := foldl_listed group kind
      (candidates env group loot looter.guidLow kind)
      (loot.raise (candidates env group loot looter.guidLow kind).length)
    generalize List.foldl _ _ _ = marked at hsame hremaining hlists hcount hwraps hkeep
    have hlists : marked.lists = loot.lists := hlists
    have hremaining : marked.remaining = loot.remaining := hremaining
    rw [hlists]
    refine ⟨listed_orFilled hlisted hfresh hregular ?_ ?_ ?_ ?_, ⟨?_, ?_⟩, hkeep hfresh⟩
    · intro other index
      have hstatic := hsame.statics other index
      cases other <;> exact hstatic
    · unfold Loot.indicesOf Loot.entriesOf
      dsimp only
      rw [Function.update_self, Table.get?_insert, key_playerItems, if_pos rfl]
      simp [Function.comp_def]
    · intro other guidLow hne
      unfold Loot.indicesOf Loot.entriesOf
      dsimp only
      by_cases hkind : other = kind
      · subst hkind
        rw [Function.update_self, Table.get?_insert, key_playerItems,
          if_neg fun hguid => hne ⟨rfl, hguid⟩]
      · rw [Function.update_of_ne hkind]
    · intro other row hrow
      dsimp only at hrow
      by_cases hkind : other = kind
      · subst hkind
        rw [Function.update_self] at hrow
        rcases Table.mem_insert.mp hrow with rfl | ⟨hold, -⟩
        · exact Or.inl ⟨rfl, rfl⟩
        · exact Or.inr hold
      · rw [Function.update_of_ne hkind] at hrow
        exact Or.inr hrow
    · -- Every new entry is counted.
      refine (congrArg UInt8.toNat hcount).trans (hraised.trans ?_)
      rw [← hremaining]
      exact (remaining_insert hlists hnone).symm
    · exact hwraps.trans hwrapped

/-! ## Filling -/

include hlisted in
theorem listKind_of_freeforall (hitem : loot.items[slot]? = some item)
    (hfree : item.freeforall = true) : item.listKind = some .ffa := by
  have hcurrency : item.currency = false := hlisted.currencies slot item.statics
    (staticAt_of_getElem? hitem) hfree
  unfold LootItem.listKind
  rw [hcurrency, hfree]
  rfl

/-- Storing what is free for all, or a quest item, leaves the items as they are. -/
theorem fresh_storeLootItem (hfresh : Fresh loot)
    (hfree : ∀ item, loot.items[slot]? = some item → item.freeforall = true) (canStore : Bool) :
    Fresh (loot.storeLootItem guidLow slot canStore) := by
  unfold Loot.storeLootItem
  split
  · exact hfresh
  next found hfound =>
  split
  · exact hfresh
  rcases lootItemInSlot_cases hfound with
    ⟨kind, hkind, hlist, hitem, -⟩ | ⟨hkind, hitem, -, hindex, -⟩
  · have honce : Fresh ((loot.markEntry kind guidLow found.index).lootOnce kind found.index
        found.item).lower := by
      unfold Loot.lootOnce
      split
      · exact hfresh
      next hnot =>
        have hmarked : Fresh (loot.markEntry kind guidLow found.index) := hfresh
        refine fresh_modifyItem hmarked ?_
        intro hne
        rw [itemsOf_of_ne_quest loot hne, (hlist hne).2] at hitem
        exact absurd (hfree found.item hitem) hnot
    rw [hkind]
    cases kind with
    | currency => exact hfresh
    | quest | ffa | conditional =>
      dsimp only
      split
      · exact honce
      · exact hfresh
  · rw [hkind]
    dsimp only
    rw [hindex] at hitem
    unfold Loot.lootOnce
    rw [if_pos (hfree found.item hitem)]
    split <;> exact hfresh

include hlisted hexact in
theorem autoStore_kept (hfresh : Fresh loot) (hfilled : filled looter .ffa) (slot : Nat) :
    Listed env looters filled (autoStore env looter loot slot) ∧
      (autoStore env looter loot slot).Exact ∧ Fresh (autoStore env looter loot slot) := by
  unfold autoStore
  split
  next hauto =>
    have hslot : ∀ item, loot.items[slot]? = some item →
        item.freeforall = true ∧ env.allowed looter.guidLow item.toStoreItem = true := by
      intro item hitem
      have hlt : slot < loot.items.length := (List.getElem?_eq_some_iff.mp hitem).1
      unfold Loot.itemInSlot at hauto
      rw [if_pos hlt, hitem, Option.any_some] at hauto
      simp only [Bool.and_eq_true] at hauto
      exact ⟨hauto.1.1.2, hauto.1.2⟩
    have hown : TakesHisOwn loot looter.guidLow slot := by
      intro found hfound hnone
      rcases lootItemInSlot_cases hfound with ⟨kind, hkind, -⟩ | ⟨-, hitem, -, hindex, hunlisted⟩
      · rw [hkind] at hnone
        cases hnone
      · rw [hindex] at hitem hunlisted
        obtain ⟨hfree, hallowed⟩ := hslot found.item hitem
        have hkind := listKind_of_freeforall hlisted hitem hfree
        exact absurd (hlisted.complete looter .ffa slot _ hfilled
          (staticAt_of_getElem? hitem) hkind hallowed) (hunlisted .ffa hkind)
    have hstored := storeLootItem_kept hlisted hexact hown (looter.fits slot)
    exact ⟨hlisted.of_same hstored.1, hstored.2,
      fresh_storeLootItem hfresh (fun item hitem => (hslot item hitem).1) _⟩
  · exact ⟨hlisted, hexact, hfresh⟩

theorem foldl_autoStore_kept (slots : List Nat) (hlisted : Listed env looters filled loot)
    (hexact : loot.Exact) (hfresh : Fresh loot) (hfilled : filled looter .ffa) :
    Listed env looters filled (slots.foldl (autoStore env looter) loot) ∧
      (slots.foldl (autoStore env looter) loot).Exact ∧
      Fresh (slots.foldl (autoStore env looter) loot) := by
  induction slots generalizing loot with
  | nil => exact ⟨hlisted, hexact, hfresh⟩
  | cons slot rest ih =>
    obtain ⟨hlisted, hexact, hfresh⟩ := autoStore_kept hlisted hexact hfresh hfilled slot
    exact ih hlisted hexact hfresh

include hlisted in
theorem Listed.congr {filled' : Looter → ListKind → Prop}
    (hiff : ∀ looter kind, filled looter kind ↔ filled' looter kind) :
    Listed env looters filled' loot := by
  have heq : filled = filled' := funext fun looter => funext fun kind => propext (hiff looter kind)
  rw [← heq]
  exact hlisted

def FillsRegularly (env : Environment) (group : Option LootGroup) (loot : Loot) (looter : Looter) :
    Prop :=
  Along (fillList env group looter.guidLow) (Regular env group looter.guidLow) loot listKinds

include hlisted hexact in
theorem fillNotNormalLootFor_kept (hfresh : Fresh loot)
    (hnew : ∀ other kind, filled other kind → other.guidLow ≠ looter.guidLow)
    (hregular : FillsRegularly env group loot looter) :
    Listed env looters (fun other kind => filled other kind ∨ other = looter)
        (fillNotNormalLootFor env group loot looter) ∧
      (fillNotNormalLootFor env group loot looter).Exact ∧
      Fresh (fillNotNormalLootFor env group loot looter) := by
  obtain ⟨hcurrency, hquest, hffa, hconditional, -⟩ := hregular
  obtain ⟨hlisted, hexact, hfresh⟩ :=
    fillList_kept hlisted hexact hfresh (fun other => hnew other .currency) hcurrency
  obtain ⟨hlisted, hexact, hfresh⟩ := fillList_kept hlisted hexact hfresh (by
    rintro other (hfilled | ⟨-, hkind⟩)
    · exact hnew other _ hfilled
    · cases hkind) hquest
  obtain ⟨hlisted, hexact, hfresh⟩ := fillList_kept hlisted hexact hfresh (by
    rintro other ((hfilled | ⟨-, hkind⟩) | ⟨-, hkind⟩)
    · exact hnew other _ hfilled
    · cases hkind
    · cases hkind) hffa
  obtain ⟨hlisted, hexact, hfresh⟩ := fillList_kept hlisted hexact hfresh (by
    rintro other (((hfilled | ⟨-, hkind⟩) | ⟨-, hkind⟩) | ⟨-, hkind⟩)
    · exact hnew other _ hfilled
    · cases hkind
    · cases hkind
    · cases hkind) hconditional
  have hlisted : Listed env looters (fun other kind => filled other kind ∨ other = looter)
      (listKinds.foldl (fillList env group looter.guidLow) loot) := by
    refine hlisted.congr fun other kind => ?_
    unfold orFilled
    cases kind <;> simp
  unfold fillNotNormalLootFor
  split
  · exact foldl_autoStore_kept _ hlisted hexact hfresh (Or.inr rfl)
  · exact ⟨hlisted, hexact, hfresh⟩

theorem foldl_fillNotNormalLootFor_kept (players : List Looter)
    (hnodup : (players.map Looter.guidLow).Nodup) (hlisted : Listed env looters filled loot)
    (hexact : loot.Exact) (hfresh : Fresh loot)
    (hnew : ∀ looter ∈ players, ∀ other kind, filled other kind → other.guidLow ≠ looter.guidLow)
    (hregular : Along (fillNotNormalLootFor env group) (FillsRegularly env group) loot players) :
    Listed env looters (fun looter kind => filled looter kind ∨ looter ∈ players)
        (players.foldl (fillNotNormalLootFor env group) loot) ∧
      (players.foldl (fillNotNormalLootFor env group) loot).Exact := by
  induction players generalizing loot filled with
  | nil => exact ⟨hlisted.congr (by simp), hexact⟩
  | cons looter rest ih =>
    obtain ⟨hfirst, hrest⟩ := List.nodup_cons.mp hnodup
    obtain ⟨hlisted, hexact, hfresh⟩ := fillNotNormalLootFor_kept hlisted hexact hfresh
      (hnew looter List.mem_cons_self) hregular.1
    have hothers : ∀ player ∈ rest, ∀ other kind, filled other kind ∨ other = looter →
        other.guidLow ≠ player.guidLow := by
      rintro player hplayer other kind (hfilled | rfl) heq
      · exact hnew player (List.mem_cons_of_mem _ hplayer) other kind hfilled heq
      · exact hfirst (List.mem_map.mpr ⟨player, hplayer, heq.symm⟩)
    obtain ⟨hlisted, hexact⟩ := ih hrest hlisted hexact hfresh hothers hregular.2
    refine ⟨hlisted.congr fun player kind => ?_, hexact⟩
    rw [List.mem_cons, or_assoc]

/-- What the template puts into a loot, as long as nothing is listed. -/
structure Unlisted (loot : Loot) : Prop where
  exact : loot.Exact
  fresh : Fresh loot
  lists : loot.lists = fun _ => Table.empty
  size : loot.items.length ≤ maxNrLootItems
  currencies : ∀ item ∈ loot.items, item.freeforall = true → item.currency = false

theorem left_of_lists (hlists : loot.lists = fun _ => Table.empty) (kind : ListKind) :
    loot.left kind = 0 := by
  unfold Loot.left
  rw [hlists]
  rfl

theorem remaining_of_lists (hlists : loot.lists = fun _ => Table.empty) :
    loot.remaining = loot.plainLeft := by
  unfold Loot.remaining
  rw [left_of_lists hlists, left_of_lists hlists, left_of_lists hlists, left_of_lists hlists]
  rfl

theorem unlisted_addItem (hunlisted : Unlisted loot) (store : StoreItem) :
    Unlisted (addItem env loot store) := by
  obtain ⟨⟨hvalue, hwraps⟩, hfresh, hlists, hsize, hcurrencies⟩ := hunlisted
  rw [remaining_of_lists hlists] at hvalue
  unfold addItem
  split
  · split
    · refine ⟨⟨?_, hwraps⟩, hfresh, hlists, hsize, hcurrencies⟩
      exact hvalue.trans (remaining_of_lists hlists).symm
    · exact ⟨⟨hvalue.trans (remaining_of_lists hlists).symm, hwraps⟩, hfresh, hlists, hsize,
        hcurrencies⟩
  split
  next hroom =>
    have hnew : ∀ item ∈ loot.items ++ [LootItem.ofStore env store],
        item.isLooted = false ∧ (item.freeforall = true → item.currency = false) := by
      intro item hitem
      rcases List.mem_append.mp hitem with hold | hadded
      · exact ⟨hfresh item hold, hcurrencies item hold⟩
      · rw [List.mem_singleton.mp hadded]
        refine ⟨rfl, fun hfree => ?_⟩
        unfold LootItem.ofStore at hfree
        simp only [Bool.and_eq_true, Bool.not_eq_true'] at hfree
        exact hfree.1
    have hlength : (loot.items ++ [LootItem.ofStore env store]).length ≤ maxNrLootItems := by
      rw [List.length_append, List.length_singleton]
      omega
    have hplain : ({ loot with items := loot.items ++ [LootItem.ofStore env store] } : Loot).plainLeft =
        loot.plainLeft + if (LootItem.ofStore env store).listKind = none then 1 else 0 := by
      unfold Loot.plainLeft
      have hflag : (LootItem.ofStore env store).isLooted = false := rfl
      rw [List.countP_append, List.countP_singleton, hflag]
      simp only [Bool.not_false, Bool.and_true, decide_eq_true_eq]
    have hremaining :
        ({ loot with items := loot.items ++ [LootItem.ofStore env store] } : Loot).remaining =
        ({ loot with items := loot.items ++ [LootItem.ofStore env store] } : Loot).plainLeft :=
      remaining_of_lists hlists
    split
    next hcounted =>
      simp only [Bool.and_eq_true, Bool.not_eq_true'] at hcounted
      have hkind : (LootItem.ofStore env store).listKind = none := by
        unfold LootItem.listKind LootItem.ofStore
        simp [hcounted.1.1, hcounted.1.2, hcounted.2]
      rw [if_pos hkind] at hplain
      have hle : loot.plainLeft ≤ loot.items.length := List.countP_le_length
      unfold maxNrLootItems at hsize
      have hexact : ({ loot with items := loot.items ++ [LootItem.ofStore env store] } : Loot).raise
          1 |>.Exact := by
        refine ⟨?_, ?_⟩
        · have hadd := toNat_add_one (n := loot.unlootedCount) (by omega)
          refine Eq.trans hadd ?_
          rw [hvalue, ← hplain]
          exact hremaining.symm
        · show loot.wraps + (loot.unlootedCount.toNat + 1) / 256 = 0
          rw [hwraps, Nat.div_eq_of_lt (by omega)]
      exact ⟨hexact, fun item hitem => (hnew item hitem).1, hlists, hlength,
        fun item hitem => (hnew item hitem).2⟩
    next hcounted =>
      have hkind : (LootItem.ofStore env store).listKind ≠ none := by
        intro hnone
        apply hcounted
        unfold LootItem.listKind LootItem.ofStore at hnone
        revert hnone
        cases store.currency <;> cases env.partyLoot store.itemId <;>
          cases store.hasConditions <;> simp
      rw [if_neg hkind, Nat.add_zero] at hplain
      refine ⟨⟨?_, hwraps⟩, fun item hitem => (hnew item hitem).1, hlists, hlength,
        fun item hitem => (hnew item hitem).2⟩
      exact hvalue.trans (hplain.symm.trans hremaining.symm)
  · exact ⟨⟨hvalue.trans (remaining_of_lists hlists).symm, hwraps⟩, hfresh, hlists, hsize,
      hcurrencies⟩

theorem unlisted_processed (env : Environment) (gold : UInt32) (store : List StoreItem) :
    Unlisted (processed env gold store) := by
  have hempty : Unlisted (Loot.empty gold) :=
    ⟨⟨rfl, rfl⟩, fun _ hitem => absurd hitem List.not_mem_nil, rfl, Nat.zero_le _,
      fun _ hitem => absurd hitem List.not_mem_nil⟩
  unfold processed
  generalize Loot.empty gold = loot at hempty
  induction store generalizing loot with
  | nil => exact hempty
  | cons item rest ih => exact ih _ (unlisted_addItem hempty item)

theorem Unlisted.listed (hunlisted : Unlisted loot)
    (howned : ∀ item ∈ loot.items, item.listKind = none →
      ∃ looter ∈ looters, env.allowed looter.guidLow item.toStoreItem = true) :
    Listed env looters (fun _ _ => False) loot := by
  have hbare : ∀ kind guidLow, loot.indicesOf kind guidLow = [] := by
    intro kind guidLow
    unfold Loot.indicesOf Loot.entriesOf
    rw [hunlisted.lists]
    rfl
  refine ⟨?_, ?_, ?_, ?_, ?_, ?_⟩
  · intro kind guidLow
    rw [hbare]
    exact List.nodup_nil
  · intro kind guidLow index hindex
    rw [hbare] at hindex
    exact absurd hindex List.not_mem_nil
  · exact fun _ _ _ _ hfalse => hfalse.elim
  · intro index static hstatic hkind
    obtain ⟨item, hitem, rfl⟩ := getElem?_of_staticAt hstatic
    exact howned item (List.mem_of_getElem? hitem) hkind
  · intro index static hstatic hfree
    obtain ⟨item, hitem, rfl⟩ := getElem?_of_staticAt hstatic
    exact hunlisted.currencies item (List.mem_of_getElem? hitem) hfree
  · intro kind row hrow
    rw [hunlisted.lists] at hrow
    exact absurd hrow List.not_mem_nil

end

/-! ## Runs -/

/-- A loot is filled in an orderly way: somebody may take each item that is on no list, and
everything that is listed for a player is allowed for him and raises the counter. -/
def OrderlyFill (env : Environment) (gold : UInt32) (store : List StoreItem) (personal : Bool)
    (owner : Looter) (group : Option LootGroup) : Prop :=
  (∀ item ∈ (processed env gold store).items, item.listKind = none →
    ∃ looter ∈ looters personal owner group,
      env.allowed looter.guidLow item.toStoreItem = true) ∧
  Along (fillNotNormalLootFor env group) (FillsRegularly env group) (processed env gold store)
    (looters personal owner group)

/-- Nobody takes an item of a list he is not on, and only items on no list that are still left
are won in a roll. -/
def OrderlyStep (loot : Loot) : LootEvent → Prop
  | .store guidLow lootSlot _ => TakesHisOwn loot guidLow lootSlot
  | .countTheRoll slot .stored =>
    ∃ item, loot.items[slot]? = some item ∧ item.listKind = none ∧ item.isLooted = false
  | _ => True

section

variable {env : Environment} {players : List Looter} {filled : Looter → ListKind → Prop}
  {loot : Loot}

theorem lootStep_kept (hlisted : Listed env players filled loot) (hexact : loot.Exact)
    {event : LootEvent} (horderly : OrderlyStep loot event) :
    Listed env players filled (lootStep loot event) ∧ (lootStep loot event).Exact := by
  have hflag : ∀ slot (f : LootItem → LootItem), (∀ item, (f item).statics = item.statics) →
      (∀ item, (f item).isLooted = item.isLooted) →
        Listed env players filled (loot.modifyRolled slot f) ∧ (loot.modifyRolled slot f).Exact := by
    intro slot f hstatics hlooted
    refine ⟨hlisted.of_same (sameLists_modifyItem hstatics _ _ _), ?_, ?_⟩
    · have hremaining : (loot.modifyRolled slot f).remaining = loot.remaining :=
        remaining_modifyItem hstatics fun item _ _ => Or.inl (hlooted item)
      rw [hremaining, ← hexact.1]
      unfold Loot.modifyRolled
      cases (loot.rollPlace slot).1 <;> rfl
    · rw [← hexact.2]
      unfold Loot.modifyRolled
      cases (loot.rollPlace slot).1 <;> rfl
  cases event with
  | store guidLow lootSlot canStore =>
    have hstored := storeLootItem_kept hlisted hexact horderly canStore
    exact ⟨hlisted.of_same hstored.1, hstored.2⟩
  | startRoll slot => exact hflag slot _ (fun _ => rfl) fun _ => rfl
  | countTheRoll slot result =>
    cases result with
    | stored =>
      obtain ⟨item, hitem, hplain, hleft⟩ := horderly
      have hlt : slot < loot.items.length := (List.getElem?_eq_some_iff.mp hitem).1
      have hplace : loot.rollPlace slot = (.ffa, slot) := if_neg (by omega)
      have hrolled : loot.modifyRolled slot (fun item => { item with isLooted := true }) =
          loot.modifyItem .ffa slot fun item => { item with isLooted := true } := by
        unfold Loot.modifyRolled
        rw [hplace]
      unfold lootStep Loot.countTheRoll
      dsimp only
      rw [hrolled]
      exact ⟨hlisted.of_same ((sameLists_looted loot .ffa slot).trans (sameLists_lower _)),
        exact_lower hexact (remaining_loot_plain hitem hplain hleft) rfl rfl⟩
    | notStored => exact hflag slot _ (fun _ => rfl) fun _ => rfl
    | winnerOffline => exact ⟨hlisted, hexact⟩
  | takeGold =>
    refine ⟨hlisted.of_same ⟨fun kind _ => by cases kind <;> rfl, fun _ _ => rfl,
      fun _ row hrow => ⟨row, hrow, rfl⟩⟩, hexact⟩

end

theorem nodup_looters (personal : Bool) (owner : Looter) (group : Option LootGroup) :
    ((looters personal owner group).map Looter.guidLow).Nodup := by
  unfold looters
  split
  · exact List.nodup_singleton _
  next group =>
    split
    · exact List.nodup_singleton _
    · exact group.nodup

/-- A loot that has been filled in an orderly way is finished, in every state of an orderly
run, exactly when nothing is left that somebody may take, and its counter never wraps. -/
theorem loot_finished_iff (env : Environment) (gold : UInt32) (store : List StoreItem)
    (personal : Bool) (owner : Looter) (group : Option LootGroup) (events : List LootEvent)
    (hfill : OrderlyFill env gold store personal owner group)
    (hsteps : Along lootStep OrderlyStep (fillLoot env gold store personal owner group) events) :
    ∀ reached ∈ visited lootStep (fillLoot env gold store personal owner group) events,
      (reached.isLooted = true ↔ NothingLeft env (looters personal owner group) reached) ∧
        reached.wraps = 0 := by
  have hprocessed := unlisted_processed env gold store
  obtain ⟨hlisted, hexact⟩ := foldl_fillNotNormalLootFor_kept (looters personal owner group)
    (nodup_looters personal owner group) (hprocessed.listed hfill.1) hprocessed.exact
    hprocessed.fresh (fun _ _ _ _ hfalse => hfalse.elim) hfill.2
  have hinvariant := invariant_of_along lootStep
    (fun loot => Listed env (looters personal owner group)
      (fun looter _ => looter ∈ looters personal owner group) loot ∧ loot.Exact)
    OrderlyStep (fun loot event hloot hevent => lootStep_kept hloot.1 hloot.2 hevent)
    (fillLoot env gold store personal owner group) events
    ⟨hlisted.congr fun _ _ => by simp, hexact⟩ hsteps
  intro reached hreached
  obtain ⟨hlisted, hexact⟩ := hinvariant reached hreached
  exact ⟨isLooted_iff_nothingLeft hlisted hexact, hexact.2⟩

/-! Two players near a corpse. -/

/-- Item 2 is free for all, and everybody may take everything. -/
def generous : Environment :=
  ⟨fun itemId => itemId = 2, fun _ => false, fun _ => false, fun _ _ => true⟩

def pair (lootMethod : LootMethod) : LootGroup :=
  ⟨lootMethod, 1, [⟨1, true, fun _ => true⟩, ⟨2, true, fun _ => true⟩], by decide⟩

/-- A loot with an item for one player and an item for everybody. -/
def mixedStore : List StoreItem := [⟨1, false, false, false⟩, ⟨2, false, false, false⟩]

theorem orderlyFill_mixedStore :
    OrderlyFill generous 0 mixedStore false ⟨1, true, fun _ => true⟩ (some (pair .groupLoot)) := by
  have hregular : ∀ loot guidLow, loot.unlootedCount.toNat < 100 →
      ((candidates generous (some (pair .groupLoot)) loot guidLow .ffa).length < 100) →
      Regular generous (some (pair .groupLoot)) guidLow loot .ffa :=
    fun _ _ hcount hlength => ⟨fun _ _ _ _ => ⟨rfl, rfl⟩, by omega⟩
  have hnone : ∀ loot guidLow kind,
      candidates generous (some (pair .groupLoot)) loot guidLow kind = [] →
      Regular generous (some (pair .groupLoot)) guidLow loot kind := by
    intro loot guidLow kind hempty
    refine ⟨fun index hindex => ?_, ?_⟩
    · rw [hempty] at hindex
      exact absurd hindex List.not_mem_nil
    · rw [hempty]
      exact UInt8.toNat_lt _
  refine ⟨fun item _ _ => ⟨⟨1, true, fun _ => true⟩, List.mem_cons_self, rfl⟩, ?_, ?_, trivial⟩
  · exact ⟨hnone _ _ _ (by decide +kernel), hnone _ _ _ (by decide +kernel),
      hregular _ _ (by decide +kernel) (by decide +kernel), hnone _ _ _ (by decide +kernel), trivial⟩
  · exact ⟨hnone _ _ _ (by decide +kernel), hnone _ _ _ (by decide +kernel),
      hregular _ _ (by decide +kernel) (by decide +kernel), hnone _ _ _ (by decide +kernel), trivial⟩

/-- The first player takes both items, the second one the item for everybody. -/
theorem loot_finished_iff_mixedStore :
    (∀ reached ∈ visited lootStep (fillLoot generous 0 mixedStore false ⟨1, true, fun _ => true⟩
        (some (pair .groupLoot))) [.store 1 0 true, .store 1 1 true, .store 2 1 true],
      (reached.isLooted = true ↔
        NothingLeft generous (looters false ⟨1, true, fun _ => true⟩ (some (pair .groupLoot)))
          reached) ∧ reached.wraps = 0) ∧
      (visited lootStep (fillLoot generous 0 mixedStore false ⟨1, true, fun _ => true⟩
        (some (pair .groupLoot))) [.store 1 0 true, .store 1 1 true, .store 2 1 true]).map
          Loot.isLooted = [false, false, false, true] := by
  have hown : ∀ loot guidLow lootSlot, (Loot.lootItemInSlot loot lootSlot guidLow).all
      (fun found => found.kind.isSome || found.item.listKind.isNone) = true →
      TakesHisOwn loot guidLow lootSlot := by
    intro loot guidLow lootSlot hall found hfound hnone
    rw [hfound, Option.all_some, hnone] at hall
    simpa using hall
  refine ⟨loot_finished_iff generous 0 mixedStore false _ _ _ orderlyFill_mixedStore
    ⟨hown _ _ _ ?_, hown _ _ _ ?_, hown _ _ _ ?_, trivial⟩, ?_⟩ <;> decide +kernel

def questStore : List StoreItem := [⟨1, true, false, false⟩]

/-- Outside of group loot a quest item is counted once and handed out to everybody who may
take it: the first player finishes the loot, and the second one makes the counter wrap. -/
theorem loot_not_finished :
    (¬ ∀ env gold store personal owner group events,
      ∀ reached ∈ visited lootStep (fillLoot env gold store personal owner group) events,
        (reached.isLooted = true ↔ NothingLeft env (looters personal owner group) reached)) ∧
      ¬ ∀ env gold store personal owner group events,
        ∀ reached ∈ visited lootStep (fillLoot env gold store personal owner group) events,
          reached.wraps = 0 := by
  refine ⟨fun hall => ?_, fun hall => ?_⟩
  · have hiff := hall generous 0 questStore false ⟨1, true, fun _ => true⟩ (some (pair .freeForAll))
      [.store 1 0 true] _ (List.mem_cons_of_mem _ (mem_visited_self lootStep _ _))
    obtain ⟨-, hnothing⟩ := hiff.mp (by decide +kernel)
    have hhanded : ((lootStep (fillLoot generous 0 questStore false ⟨1, true, fun _ => true⟩
        (some (pair .freeForAll))) (.store 1 0 true)).lootItemInSlot 0 2).isSome = true := by
      decide +kernel
    obtain ⟨found, hfound⟩ := Option.isSome_iff_exists.mp hhanded
    have hforbidden := hnothing ⟨2, true, fun _ => true⟩
      (List.mem_cons_of_mem _ List.mem_cons_self) 0 found hfound
    cases hforbidden
  · have hzero := hall generous 0 questStore false ⟨1, true, fun _ => true⟩ (some (pair .freeForAll))
      [.store 1 0 true, .store 2 0 true] _
      (List.mem_cons_of_mem _ (List.mem_cons_of_mem _ (mem_visited_self lootStep _ _)))
    exact absurd hzero (by decide +kernel)

end MopServer.Loots
