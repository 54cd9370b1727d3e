import MopServer.Loots.Finished

/-! # What players are given

`StoreLootItem` gives a player the item or the currency of a slot.  A player with an entry of
his own for the slot gets what the entry stands for, once; an item that is on no list is given
once to whoever asks first.
-/

namespace MopServer.Loots

open MopServer.Foundation

/-! ## Handing out -/

/-- Something `StoreLootItem` has given to a player. -/
structure Handout where
  guidLow : UInt32
  /-- The list in which the player has an entry for it. -/
  kind : Option ListKind
  index : Nat
  asCurrency : Bool
  deriving DecidableEq, Repr

/-- What `StoreLootItem` gives to a player. -/
def Loot.handOut (loot : Loot) (guidLow : UInt32) (lootSlot : Nat) (canStore : Bool) :
    Option Handout :=
  match loot.lootItemInSlot lootSlot guidLow with
  | none => none
  | some found =>
    if found.kind ≠ some .quest && found.item.isBlocked then none
    else if found.kind = some .currency then some ⟨guidLow, found.kind, found.index, true⟩
    else if canStore then some ⟨guidLow, found.kind, found.index, false⟩
    else none

/-- A loot and everything that has been handed out from it, the last first. -/
structure LootAudit where
  loot : Loot
  handed : List Handout

variable (audit : LootAudit)

/-- `StoreLootItem`, with a record. -/
def LootAudit.store (guidLow : UInt32) (lootSlot : Nat) (canStore : Bool) : LootAudit where
  loot := audit.loot.storeLootItem guidLow lootSlot canStore
  handed := (audit.loot.handOut guidLow lootSlot canStore).toList ++ audit.handed

variable (env : Environment)

/-- Currency tokens that are stored at once are handed out too. -/
def auditAutoStore (looter : Looter) (audit : LootAudit) (slot : Nat) : LootAudit :=
  if (audit.loot.itemInSlot slot).any fun item => !item.isLooted && item.freeforall &&
      env.allowed looter.guidLow item.toStoreItem && env.isCurrencyToken item.itemId then
    audit.store looter.guidLow slot (looter.fits slot)
  else audit

variable (group : Option LootGroup)

def LootAudit.fillLists (audit : LootAudit) (guidLow : UInt32) : LootAudit :=
  { audit with loot := listKinds.foldl (fillList env group guidLow) audit.loot }

/-- `FillNotNormalLootFor`, with a record. -/
def auditFillNotNormalLootFor (audit : LootAudit) (looter : Looter) : LootAudit :=
  let filled := audit.fillLists env group looter.guidLow
  if looter.present then
    (List.range (filled.loot.maxSlotInLootFor looter.guidLow)).foldl (auditAutoStore env looter)
      filled
  else filled

/-- `FillLoot`, with a record. -/
def auditFillLoot (gold : UInt32) (store : List StoreItem) (personal : Bool) (owner : Looter)
    (group : Option LootGroup) : LootAudit :=
  (looters personal owner group).foldl (auditFillNotNormalLootFor env group)
    ⟨processed env gold store, []⟩

def auditStep : LootEvent → LootAudit
  | .store guidLow lootSlot canStore => audit.store guidLow lootSlot canStore
  | .startRoll slot => { audit with loot := lootStep audit.loot (.startRoll slot) }
  | .countTheRoll slot result =>
    { audit with loot := lootStep audit.loot (.countTheRoll slot result) }
  | .takeGold => { audit with loot := lootStep audit.loot .takeGold }

/-! The record does not change what happens. -/

theorem loot_auditStep (event : LootEvent) :
    (auditStep audit event).loot = lootStep audit.loot event := by
  cases event <;> rfl

theorem loot_auditAutoStore (looter : Looter) (audit : LootAudit) (slot : Nat) :
    (auditAutoStore env looter audit slot).loot = autoStore env looter audit.loot slot := by
  unfold auditAutoStore autoStore
  split <;> rfl

theorem loot_auditFillNotNormalLootFor (audit : LootAudit) (looter : Looter) :
    (auditFillNotNormalLootFor env group audit looter).loot =
      fillNotNormalLootFor env group audit.loot looter := by
  unfold auditFillNotNormalLootFor fillNotNormalLootFor
  split
  · exact (List.foldl_hom LootAudit.loot fun audit slot =>
      (loot_auditAutoStore env looter audit slot).symm).symm
  · rfl

theorem loot_auditFillLoot (gold : UInt32) (store : List StoreItem) (personal : Bool)
    (owner : Looter) (group : Option LootGroup) :
    (auditFillLoot env gold store personal owner group).loot =
      fillLoot env gold store personal owner group :=
  (List.foldl_hom LootAudit.loot fun audit looter =>
    (loot_auditFillNotNormalLootFor env group audit looter).symm).symm

/-! ## What stays -/

section

variable {env : Environment} {group : Option LootGroup} {players : List Looter}
  {start loot after : Loot} {handed : List Handout} {kind : ListKind} {guidLow : UInt32}
  {index slot : Nat} {item : LootItem} {handout : Handout} {canStore : Bool}

/-- The items have stayed, and what was looted still is. -/
def StillLooted (loot after : Loot) : Prop :=
  ∀ (index : Nat) (item : LootItem), loot.items[index]? = some item →
    ∃ new : LootItem, after.items[index]? = some new ∧ new.statics = item.statics ∧
      (item.isLooted = true → new.isLooted = true)

/-- Lists and items have stayed, and what was looted still is. -/
structure Later (loot after : Loot) : Prop where
  same : SameLists loot after
  entries : ∀ kind guidLow, ∀ entry ∈ after.entriesOf kind guidLow,
    ∃ old ∈ loot.entriesOf kind guidLow, old.index = entry.index ∧
      (old.isLooted = true → entry.isLooted = true)
  items : StillLooted loot after

theorem Later.of_same (hsame : SameLists loot after) (hlists : after.lists = loot.lists)
    (hitems : after.items = loot.items) : Later loot after where
  same := hsame
  entries kind guidLow entry hentry := by
    unfold Loot.entriesOf at hentry ⊢
    rw [hlists] at hentry
    exact ⟨entry, hentry, rfl, id⟩
  items index item hitem := ⟨item, hitems ▸ hitem, rfl, id⟩

theorem Later.refl (loot : Loot) : Later loot loot := .of_same (SameLists.refl loot) rfl rfl

theorem Later.trans {mid : Loot} (hfirst : Later loot mid) (hsecond : Later mid after) :
    Later loot after where
  same := hfirst.same.trans hsecond.same
  entries kind guidLow entry hentry := by
    obtain ⟨middle, hmiddle, hindex, hlooted⟩ := hsecond.entries kind guidLow entry hentry
    obtain ⟨old, hold, hindex', hlooted'⟩ := hfirst.entries kind guidLow middle hmiddle
    exact ⟨old, hold, hindex'.trans hindex, fun h => hlooted (hlooted' h)⟩
  items index item hitem := by
    obtain ⟨middle, hmiddle, hstatics, hlooted⟩ := hfirst.items index item hitem
    obtain ⟨new, hnew, hstatics', hlooted'⟩ := hsecond.items index middle hmiddle
    exact ⟨new, hnew, hstatics'.trans hstatics, fun h => hlooted' (hlooted h)⟩

theorem later_lower (loot : Loot) : Later loot loot.lower := .of_same (sameLists_lower loot) rfl rfl

theorem later_modifyItem {f : LootItem → LootItem} (hf : ∀ item, (f item).statics = item.statics)
    (hlooted : ∀ item, item.isLooted = true → (f item).isLooted = true) (loot : Loot)
    (kind : ListKind) (index : Nat) : Later loot (loot.modifyItem kind index f) where
  same := sameLists_modifyItem hf loot kind index
  entries other guidLow entry hentry := by
    unfold Loot.entriesOf at hentry ⊢
    rw [lists_modifyItem] at hentry
    exact ⟨entry, hentry, rfl, id⟩
  items position item hitem := by
    have hmodify : ∃ new, (loot.items.modify index f)[position]? = some new ∧
        new.statics = item.statics ∧ (item.isLooted = true → new.isLooted = true) := by
      rw [List.getElem?_modify, hitem, Option.map_eq_map, Option.map_some]
      split
      · exact ⟨f item, rfl, hf item, hlooted item⟩
      · exact ⟨item, rfl, rfl, id⟩
    cases kind <;> first | exact ⟨item, hitem, rfl, id⟩ | exact hmodify

theorem later_looted (loot : Loot) (kind : ListKind) (index : Nat) :
    Later loot (loot.modifyItem kind index fun item => { item with isLooted := true }) :=
  later_modifyItem (f := fun item => { item with isLooted := true }) (fun _ => rfl)
    (fun _ _ => rfl) loot kind index

theorem later_lootOnce (loot : Loot) (kind : ListKind) (index : Nat) (item : LootItem) :
    Later loot (loot.lootOnce kind index item) := by
  unfold Loot.lootOnce
  split
  · exact Later.refl loot
  · exact later_looted loot kind index

theorem mem_entriesOf_markEntry {entry : QuestItem} {other : ListKind} {player : UInt32}
    (hentry : entry ∈ (loot.markEntry kind guidLow index).entriesOf other player) :
    ∃ old ∈ loot.entriesOf other player, old.index = entry.index ∧
      (old.isLooted = true → entry.isLooted = true) ∧
      (other = kind → player = guidLow → entry.index = index → entry.isLooted = true) := by
  unfold Loot.entriesOf Loot.markEntry at hentry
  dsimp only at hentry
  by_cases hkind : other = kind
  · subst hkind
    rw [Function.update_self, Table.get?_modify] at hentry
    split at hentry
    next hplayer =>
      subst hplayer
      unfold Loot.entriesOf
      cases hrow : (loot.lists other).get? player with
      | none =>
        rw [hrow] at hentry
        cases hentry
      | some row =>
        rw [hrow] at hentry
        obtain ⟨old, hold, rfl⟩ := List.mem_map.mp hentry
        refine ⟨old, hold, ?_⟩
        split
        · exact ⟨rfl, fun _ => rfl, fun _ _ _ => rfl⟩
        next hne => exact ⟨rfl, id, fun _ _ hindex => absurd hindex hne⟩
    next hplayer => exact ⟨entry, hentry, rfl, id, fun _ heq => absurd heq hplayer⟩
  · rw [Function.update_of_ne hkind] at hentry
    exact ⟨entry, hentry, rfl, id, fun heq => absurd heq hkind⟩

theorem later_markEntry (loot : Loot) (kind : ListKind) (guidLow : UInt32) (index : Nat) :
    Later loot (loot.markEntry kind guidLow index) where
  same := sameLists_markEntry loot kind guidLow index
  entries other player entry hentry := by
    obtain ⟨old, hold, hindex, hlooted, -⟩ := mem_entriesOf_markEntry hentry
    exact ⟨old, hold, hindex, hlooted⟩
  items _ item hitem := ⟨item, hitem, rfl, id⟩

theorem later_storeLootItem (loot : Loot) (guidLow : UInt32) (slot : Nat) (canStore : Bool) :
    Later loot (loot.storeLootItem guidLow slot canStore) := by
  unfold Loot.storeLootItem
  split
  · exact Later.refl loot
  next found _ =>
  split
  · exact Later.refl loot
  split
  · exact (later_markEntry loot _ guidLow found.index).trans (later_lower _)
  · split
    · exact ((later_markEntry loot _ guidLow found.index).trans
        (later_lootOnce _ _ found.index found.item)).trans (later_lower _)
    · exact Later.refl loot
  · split
    · exact (later_lootOnce loot .ffa found.index found.item).trans (later_lower _)
    · exact Later.refl loot

/-- No event takes a mark away. -/
theorem later_lootStep (loot : Loot) (event : LootEvent) : Later loot (lootStep loot event) := by
  cases event with
  | store guidLow lootSlot canStore => exact later_storeLootItem loot guidLow lootSlot canStore
  | startRoll slot =>
    exact later_modifyItem (f := fun item => { item with isBlocked := true }) (fun _ => rfl)
      (fun _ h => h) loot _ _
  | countTheRoll slot result =>
    cases result with
    | stored => exact (later_looted loot _ _).trans (later_lower _)
    | notStored =>
      exact later_modifyItem (f := fun item => { item with isBlocked := false })
        (fun _ => rfl) (fun _ h => h) loot _ _
    | winnerOffline => exact Later.refl loot
  | takeGold =>
    exact .of_same ⟨fun kind _ => by cases kind <;> rfl, fun _ _ => rfl,
      fun _ row hrow => ⟨row, hrow, rfl⟩⟩ rfl rfl

/-! ## Who has an entry -/

/-- Why an item is listed for a player: he passed `AllowedForPlayer`, or it is a quest item or
one with conditions that follows the loot rules of the group. -/
def Vouched (env : Environment) (group : Option LootGroup) (guidLow : UInt32) (kind : ListKind)
    (item : LootItem) : Prop :=
  env.allowed guidLow item.toStoreItem = true ∨
    (kind = .quest ∨ kind = .conditional) ∧ follows group guidLow item = true

/-- The items are those of the start, and whoever has an entry is one of the players the loot
is filled for and has it for a reason. -/
structure Entitled (env : Environment) (group : Option LootGroup) (players : List Looter)
    (start loot : Loot) : Prop where
  statics : ∀ kind index, loot.staticAt kind index = start.staticAt kind index
  entries : ∀ kind guidLow, ∀ index ∈ loot.indicesOf kind guidLow,
    (∃ looter ∈ players, looter.guidLow = guidLow) ∧
      ∃ item, start.staticAt kind index = some item ∧
        (kind ≠ .quest → item.listKind = some kind) ∧ Vouched env group guidLow kind item

theorem Entitled.of_same (hentitled : Entitled env group players start loot)
    (hsame : SameLists loot after) : Entitled env group players start after where
  statics kind index := (hsame.statics kind index).trans (hentitled.statics kind index)
  entries kind guidLow index hindex := by
    rw [hsame.indices] at hindex
    exact hentitled.entries kind guidLow index hindex

/-- Whoever is listed is listed for a reason. -/
theorem vouched_of_mem_candidates (hindex : index ∈ candidates env group loot guidLow kind)
    (hitem : (loot.itemsOf kind)[index]? = some item) : Vouched env group guidLow kind item := by
  have hlisted : ∀ {items : List LootItem} {p : LootItem → Bool}, items[index]? = some item →
      index ∈ indices items p → p item = true := by
    intro items p hitem hindex
    obtain ⟨other, hother, hp⟩ := mem_indices.mp hindex
    obtain rfl := Option.some.inj (hitem.symm.trans hother)
    exact hp
  unfold candidates at hindex
  cases kind with
  | currency =>
    have hp := hlisted hitem hindex
    simp only [Bool.and_eq_true] at hp
    exact Or.inl hp.2
  | quest =>
    have hp := hlisted hitem (List.mem_of_mem_take hindex)
    simp only [Bool.and_eq_true, Bool.or_eq_true] at hp
    exact hp.2.imp id fun hfollows => ⟨Or.inl rfl, hfollows⟩
  | ffa =>
    have hp := hlisted hitem hindex
    simp only [Bool.and_eq_true] at hp
    exact Or.inl hp.2
  | conditional =>
    have hp := hlisted hitem hindex
    simp only [Bool.and_eq_true, Bool.or_eq_true] at hp
    exact hp.1.2.imp id fun hfollows => ⟨Or.inr rfl, hfollows⟩

theorem fillList_spec (env : Environment) (group : Option LootGroup) (guidLow : UInt32)
    (loot : Loot) (kind : ListKind) :
    (∀ other position, (fillList env group guidLow loot kind).staticAt other position =
        loot.staticAt other position) ∧
      StillLooted loot (fillList env group guidLow loot kind) ∧
      ∀ other player,
        (fillList env group guidLow loot kind).entriesOf other player =
            loot.entriesOf other player ∨
          loot.entriesOf other player = [] ∧ other = kind ∧ player = guidLow ∧
            (fillList env group guidLow loot kind).entriesOf other player =
              (candidates env group loot guidLow kind).map fun position => ⟨position, false⟩ := by
  have hstay : StillLooted loot loot := (Later.refl loot).items
  unfold fillList
  split
  · exact ⟨fun _ _ => rfl, hstay, fun _ _ => Or.inl rfl⟩
  next hnone =>
  dsimp only
  split
  · exact ⟨fun _ _ => rfl, hstay, fun _ _ => Or.inl rfl⟩
  generalize hraise : loot.raise _ = raised
  have hraised : Later loot raised := by
    subst hraise
    exact .of_same ⟨fun kind _ => by cases kind <;> rfl, fun _ _ => rfl,
      fun _ row hrow => ⟨row, hrow, rfl⟩⟩ rfl rfl
  have hmarked : ∀ (marks : List Nat) (loot : Loot), Later loot
      (marks.foldl (fun loot index => loot.modifyItem kind index (listed group kind)) loot) := by
    intro marks
    induction marks with
    | nil => exact Later.refl
    | cons index rest ih =>
      intro loot
      have hfirst := later_modifyItem (fun item => (statics_listed group kind item).1)
        (fun item hlooted => (statics_listed group kind item).2.trans hlooted) loot kind index
      exact hfirst.trans (ih _)
  have hlater := hraised.trans (hmarked (candidates env group loot guidLow kind) raised)
  have hlists := (foldl_listed group kind (candidates env group loot guidLow kind) raised).2.2.1
  have hlists : _ = loot.lists := hlists.trans (by subst hraise; rfl)
  generalize List.foldl _ _ _ = marked at hlater hlists
  rw [hlists]
  refine ⟨fun other position => ?_, hlater.items, fun other player => ?_⟩
  · have hstatic := hlater.same.statics other position
    cases other <;> exact hstatic
  · unfold Loot.entriesOf
    dsimp only
    by_cases hkind : other = kind
    · subst hkind
      rw [Function.update_self, Table.get?_insert, key_playerItems]
      split
      next hplayer =>
        subst hplayer
        rw [Bool.not_eq_true, Option.isSome_eq_false_iff, Option.isNone_iff_eq_none] at hnone
        refine Or.inr ⟨?_, rfl, rfl, rfl⟩
        rw [hnone, Option.elim_none]
      · exact Or.inl rfl
    · rw [Function.update_of_ne hkind]
      exact Or.inl rfl

theorem entitled_fillList (hentitled : Entitled env group players start loot)
    (hcurrencies : ∀ index item, start.staticAt .ffa index = some item →
      item.freeforall = true → item.currency = false)
    {looter : Looter} (hlooter : looter ∈ players) (kind : ListKind) :
    Entitled env group players start (fillList env group looter.guidLow loot kind) := by
  obtain ⟨hstatics, -, hentries⟩ := fillList_spec env group looter.guidLow loot kind
  refine ⟨fun other position => (hstatics other position).trans (hentitled.statics other position),
    fun other player position hposition => ?_⟩
  unfold Loot.indicesOf at hposition
  rcases hentries other player with hsame | ⟨-, rfl, rfl, hnew⟩
  · rw [hsame] at hposition
    exact hentitled.entries other player position hposition
  · rw [hnew, List.map_map] at hposition
    obtain ⟨candidate, hcandidate, rfl⟩ := List.mem_map.mp hposition
    have hcurrenciesNow : ∀ index item, loot.staticAt .ffa index = some item →
        item.freeforall = true → item.currency = false := fun index item hstatic =>
      hcurrencies index item ((hentitled.statics .ffa index).symm.trans hstatic)
    obtain ⟨item, hitem, hkind⟩ := candidates_spec hcurrenciesNow hcandidate
    have hstatic := (hentitled.statics other candidate).symm.trans (staticAt_of_getElem? hitem)
    have hvouched := vouched_of_mem_candidates hcandidate hitem
    exact ⟨⟨looter, hlooter, rfl⟩, item.statics, hstatic, hkind, hvouched⟩

/-! ## What has been handed out -/

/-- The marks that go with something that has been handed out: the entry of the player is
looted, or the item itself if it is on no list. -/
def Marked (loot : Loot) (handout : Handout) : Prop :=
  match handout.kind with
  | some kind => handout.index ∈ loot.indicesOf kind handout.guidLow ∧
      ∀ entry ∈ loot.entriesOf kind handout.guidLow, entry.index = handout.index →
        entry.isLooted = true
  | none => ∃ item, loot.items[handout.index]? = some item ∧
      (item.listKind = none → item.isLooted = true)

/-- Two things that are handed out are not the same entry of a player, nor the same item that
is on no list. -/
def Apart (start : Loot) (first second : Handout) : Prop :=
  first.kind = second.kind → first.index = second.index →
    match first.kind with
    | some _ => first.guidLow ≠ second.guidLow
    | none => ∀ item, start.staticAt .ffa first.index = some item → item.listKind ≠ none

/-- A record of what has been handed out that agrees with the marks. -/
structure Recorded (start loot : Loot) (handed : List Handout) : Prop where
  marked : ∀ handout ∈ handed, Marked loot handout
  form : ∀ handout ∈ handed, handout.asCurrency = decide (handout.kind = some .currency)
  apart : handed.Pairwise (Apart start)

theorem Marked.of_later (hmarked : Marked loot handout) (hlater : Later loot after) :
    Marked after handout := by
  unfold Marked at hmarked ⊢
  split at hmarked
  next kind hkind =>
    refine ⟨?_, fun entry hentry hindex => ?_⟩
    · rw [hlater.same.indices]
      exact hmarked.1
    · obtain ⟨old, hold, hindex', hlooted⟩ := hlater.entries _ _ entry hentry
      exact hlooted (hmarked.2 old hold (hindex'.trans hindex))
  next hkind =>
    obtain ⟨item, hitem, hlooted⟩ := hmarked
    obtain ⟨new, hnew, hstatics, hstill⟩ := hlater.items _ item hitem
    refine ⟨new, hnew, fun hplain => hstill (hlooted ?_)⟩
    rw [← listKind_statics, ← hstatics, listKind_statics]
    exact hplain

theorem Recorded.of_later (hrecorded : Recorded start loot handed) (hlater : Later loot after) :
    Recorded start after handed :=
  ⟨fun handout hhandout => (hrecorded.marked handout hhandout).of_later hlater, hrecorded.form,
    hrecorded.apart⟩

theorem recorded_fillList (hrecorded : Recorded start loot handed)
    (group : Option LootGroup) (guidLow : UInt32) (kind : ListKind) :
    Recorded start (fillList env group guidLow loot kind) handed := by
  obtain ⟨-, hitems, hentries⟩ := fillList_spec env group guidLow loot kind
  refine ⟨fun handout hhandout => ?_, hrecorded.form, hrecorded.apart⟩
  have hmarked := hrecorded.marked handout hhandout
  unfold Marked at hmarked ⊢
  split at hmarked
  next other hother =>
    unfold Loot.indicesOf at hmarked ⊢
    rcases hentries other handout.guidLow with hsame | ⟨hbare, -⟩
    · rw [hsame]
      exact hmarked
    · -- A player with an entry already has a list.
      rw [hbare] at hmarked
      exact absurd hmarked.1 List.not_mem_nil
  next hother =>
    obtain ⟨item, hitem, hlooted⟩ := hmarked
    obtain ⟨new, hnew, hstatics, hstill⟩ := hitems _ item hitem
    refine ⟨new, hnew, fun hplain => hstill (hlooted ?_)⟩
    rw [← listKind_statics, ← hstatics, listKind_statics]
    exact hplain

/-- What is handed out is what the player finds in the slot; it is marked afterwards. -/
theorem handOut_spec (hhandout : loot.handOut guidLow slot canStore = some handout) :
    ∃ found, loot.lootItemInSlot slot guidLow = some found ∧
      handout = ⟨guidLow, found.kind, found.index, decide (found.kind = some .currency)⟩ ∧
      (∀ kind, found.kind = some kind →
        ∀ entry ∈ (loot.storeLootItem guidLow slot canStore).entriesOf kind guidLow,
          entry.index = found.index → entry.isLooted = true) ∧
      (found.kind = none → found.item.freeforall = false →
        ∀ item, (loot.storeLootItem guidLow slot canStore).items[found.index]? = some item →
          item.isLooted = true) := by
  have hmark : ∀ {kind : ListKind} {index : Nat} {after : Loot},
      Later (loot.markEntry kind guidLow index) after →
        ∀ entry ∈ after.entriesOf kind guidLow, entry.index = index → entry.isLooted = true := by
    intro kind index after hlater entry hentry hindex
    obtain ⟨old, hold, hindex', hlooted⟩ := hlater.entries kind guidLow entry hentry
    obtain ⟨-, -, -, -, hself⟩ := mem_entriesOf_markEntry hold
    exact hlooted (hself rfl rfl (hindex'.trans hindex))
  unfold Loot.handOut at hhandout
  unfold Loot.storeLootItem
  rcases hfound : loot.lootItemInSlot slot guidLow with _ | found
  · rw [hfound] at hhandout
    cases hhandout
  rw [hfound] at hhandout
  refine ⟨found, rfl, ?_⟩
  dsimp only at hhandout ⊢
  split at hhandout
  · cases hhandout
  next hblocked =>
  rw [if_neg hblocked]
  split at hhandout
  next hcurrency =>
    rw [hcurrency] at hhandout ⊢
    refine ⟨(Option.some.inj hhandout).symm, fun kind hkind => ?_, fun hnone => by cases hnone⟩
    obtain rfl := Option.some.inj hkind
    exact hmark (later_lower _)
  next hcurrency =>
  split at hhandout
  next hstore =>
    refine ⟨?_, fun kind hkind => ?_, fun hnone hfree item hitem => ?_⟩
    · rw [decide_eq_false hcurrency]
      exact (Option.some.inj hhandout).symm
    · rw [hkind] at hcurrency ⊢
      have hlater : Later (loot.markEntry kind guidLow found.index)
          ((loot.markEntry kind guidLow found.index).lootOnce kind found.index
            found.item).lower := (later_lootOnce _ _ _ _).trans (later_lower _)
      cases kind with
      | currency => exact absurd rfl hcurrency
      | quest | ffa | conditional =>
        dsimp only
        rw [if_pos hstore]
        exact hmark hlater
    · rw [hnone] at hitem
      rw [if_pos hstore] at hitem
      unfold Loot.lootOnce at hitem
      rw [if_neg (by rw [hfree]; exact Bool.false_ne_true)] at hitem
      have hmodified : (loot.items.modify found.index fun item =>
          { item with isLooted := true })[found.index]? = some item := hitem
      rw [List.getElem?_modify] at hmodified
      obtain ⟨old, -, rfl⟩ := Option.map_eq_some_iff.mp hmodified
      rw [if_pos rfl]
  · cases hhandout

theorem recorded_store (hrecorded : Recorded start loot handed)
    (hstatics : ∀ kind index, loot.staticAt kind index = start.staticAt kind index)
    (guidLow : UInt32) (slot : Nat) (canStore : Bool) :
    Recorded start (loot.storeLootItem guidLow slot canStore)
      ((loot.handOut guidLow slot canStore).toList ++ handed) := by
  have hlater := later_storeLootItem loot guidLow slot canStore
  have hkept := hrecorded.of_later hlater
  cases hhandout : loot.handOut guidLow slot canStore with
  | none => exact hkept
  | some handout =>
    obtain ⟨found, hfound, rfl, hentry, hplain⟩ := handOut_spec hhandout
    have hcases := lootItemInSlot_cases hfound
    have hmarked : Marked (loot.storeLootItem guidLow slot canStore)
        ⟨guidLow, found.kind, found.index, decide (found.kind = some .currency)⟩ := by
      rcases hcases with ⟨kind, hkind, -, -, entry, hmem, hindex, -⟩ | ⟨hkind, hitem, -, -, -⟩
      · rw [hkind]
        refine ⟨?_, hentry kind hkind⟩
        rw [hlater.same.indices]
        exact List.mem_map.mpr ⟨entry, hmem, hindex⟩
      · rw [hkind]
        obtain ⟨new, hnew, hsame, -⟩ := hlater.items _ _ hitem
        refine ⟨new, hnew, fun hlist => hplain hkind ?_ new hnew⟩
        rw [← listKind_statics, hsame, listKind_statics] at hlist
        unfold LootItem.listKind at hlist
        split at hlist
        · cases hlist
        split at hlist
        · cases hlist
        next hfree => simpa using hfree
    refine ⟨?_, ?_, ?_⟩
    · intro other hother
      rcases List.mem_cons.mp hother with rfl | hother
      · exact hmarked
      · exact hkept.marked other hother
    · intro other hother
      rcases List.mem_cons.mp hother with rfl | hother
      · rfl
      · exact hkept.form other hother
    · refine List.pairwise_cons.mpr ⟨fun earlier hearlier hkinds hindices => ?_, hkept.apart⟩
      have hbefore := hrecorded.marked earlier hearlier
      unfold Marked at hbefore
      rw [← hkinds, ← hindices] at hbefore
      rcases hcases with ⟨kind, hkind, -, -, entry, hmem, hindex, hleft⟩ |
        ⟨hkind, hitem, hleft, -, -⟩
      · -- An entry that is left has not been handed out before.
        rw [hkind] at hbefore ⊢
        rintro rfl
        have hlooted := hbefore.2 entry hmem hindex
        rw [hleft] at hlooted
        cases hlooted
      · rw [hkind] at hbefore ⊢
        intro item hstatic hlist
        obtain ⟨old, hold, hlooted⟩ := hbefore
        obtain rfl := Option.some.inj (hitem.symm.trans hold)
        have hfound : loot.staticAt .ffa found.index = some _ := staticAt_of_getElem? hitem
        have hsame := (hstatics .ffa found.index).symm.trans hfound
        obtain rfl := Option.some.inj (hsame.symm.trans hstatic)
        rw [hlooted hlist] at hleft
        cases hleft

/-! ## Runs -/

/-- The loot and the record of an audit are right. -/
structure Sound (env : Environment) (group : Option LootGroup) (players : List Looter)
    (start : Loot) (audit : LootAudit) : Prop where
  entitled : Entitled env group players start audit.loot
  recorded : Recorded start audit.loot audit.handed

variable {audit : LootAudit} (hsound : Sound env group players start audit)

include hsound in
theorem Sound.store (guidLow : UInt32) (slot : Nat) (canStore : Bool) :
    Sound env group players start (audit.store guidLow slot canStore) where
  entitled := hsound.entitled.of_same (later_storeLootItem audit.loot guidLow slot canStore).same
  recorded := recorded_store hsound.recorded hsound.entitled.statics guidLow slot canStore

include hsound in
theorem Sound.step (event : LootEvent) : Sound env group players start (auditStep audit event) := by
  have hflags : ∀ {after : Loot}, Later audit.loot after →
      Sound env group players start { audit with loot := after } := fun hlater =>
    ⟨hsound.entitled.of_same hlater.same, hsound.recorded.of_later hlater⟩
  cases event with
  | store guidLow lootSlot canStore => exact hsound.store guidLow lootSlot canStore
  | startRoll _ | countTheRoll _ _ | takeGold => exact hflags (later_lootStep audit.loot _)

include hsound in
theorem Sound.fill (hcurrencies : ∀ index item, start.staticAt .ffa index = some item →
      item.freeforall = true → item.currency = false) {looter : Looter} (hlooter : looter ∈ players)
    : Sound env group players start (auditFillNotNormalLootFor env group audit looter) := by
  have hlists : Sound env group players start (audit.fillLists env group looter.guidLow) := by
    unfold LootAudit.fillLists
    generalize listKinds = kinds
    obtain ⟨loot, handed⟩ := audit
    induction kinds generalizing loot with
    | nil => exact hsound
    | cons kind rest ih =>
      exact ih _ ⟨entitled_fillList hsound.entitled hcurrencies hlooter kind,
        recorded_fillList hsound.recorded group looter.guidLow kind⟩
  have hstored : ∀ (slots : List Nat) (audit : LootAudit),
      Sound env group players start audit →
        Sound env group players start (slots.foldl (auditAutoStore env looter) audit) := by
    intro slots
    induction slots with
    | nil => exact fun _ hsound => hsound
    | cons slot rest ih =>
      intro audit hsound
      apply ih
      unfold auditAutoStore
      split
      · exact hsound.store _ _ _
      · exact hsound
  unfold auditFillNotNormalLootFor
  split
  · exact hstored _ _ hlists
  · exact hlists

end

/-- A handout is right: whoever gets something by an entry of his own is one of the players the
loot was filled for, and passed `AllowedForPlayer` for it or was listed by the loot rules of
his group; outside of the list of quest items, and for items on no list, it is given as what
it is. -/
def Rightful (players : List Looter) (start : Loot) (handout : Handout) : Prop :=
  match handout.kind with
  | some kind =>
    (∃ looter ∈ players, looter.guidLow = handout.guidLow) ∧
      ∃ item, start.staticAt kind handout.index = some item ∧
        Vouched env group handout.guidLow kind item ∧
        (kind ≠ .quest → handout.asCurrency = item.currency)
  | none => ∃ item, start.staticAt .ffa handout.index = some item ∧
      (item.listKind = none → handout.asCurrency = item.currency)

theorem Sound.rightful {env : Environment} {group : Option LootGroup} {players : List Looter}
    {start : Loot} {audit : LootAudit} (hsound : Sound env group players start audit) :
    ∀ handout ∈ audit.handed, Rightful env group players start handout := by
  intro handout hhandout
  have hmarked := hsound.recorded.marked handout hhandout
  have hform := hsound.recorded.form handout hhandout
  have hcurrency : ∀ item : LootItem, item.listKind = some .currency ↔ item.currency = true := by
    intro item
    unfold LootItem.listKind
    cases item.currency <;> cases item.freeforall <;> cases item.hasConditions <;> decide
  unfold Marked at hmarked
  unfold Rightful
  split at hmarked
  next kind hkind =>
    obtain ⟨hplayer, item, hitem, hlist, hvouched⟩ := hsound.entitled.entries _ _ _ hmarked.1
    refine ⟨hplayer, item, hitem, hvouched, fun hquest => ?_⟩
    rw [hform, hkind, ← hlist hquest, Bool.eq_iff_iff, decide_eq_true_iff]
    exact hcurrency item
  next hnone =>
    obtain ⟨item, hitem, -⟩ := hmarked
    refine ⟨item.statics, ?_, fun hplain => ?_⟩
    · rw [← hsound.entitled.statics]
      exact staticAt_of_getElem? hitem
    · rw [hform, hnone, Bool.eq_iff_iff, decide_eq_true_iff, ← hcurrency]
      rw [hplain]

/-- Whatever has been handed out while a loot is filled and in any run after that is rightful,
and nobody has got the same entry twice, nor anybody an item on no list that has been handed
out before.  The record changes nothing: the loot is what filling and the run make of it. -/
theorem handed_rightful (env : Environment) (gold : UInt32) (store : List StoreItem)
    (personal : Bool) (owner : Looter) (group : Option LootGroup) (events : List LootEvent) :
    (∀ handout ∈ (events.foldl auditStep
        (auditFillLoot env gold store personal owner group)).handed,
      Rightful env group (looters personal owner group) (processed env gold store) handout) ∧
    (events.foldl auditStep (auditFillLoot env gold store personal owner group)).handed.Pairwise
      (Apart (processed env gold store)) ∧
    (events.foldl auditStep (auditFillLoot env gold store personal owner group)).loot =
      events.foldl lootStep (fillLoot env gold store personal owner group) := by
  have hprocessed := unlisted_processed env gold store
  have hcurrencies : ∀ index item, (processed env gold store).staticAt .ffa index = some item →
      item.freeforall = true → item.currency = false := by
    intro index static hstatic hfree
    obtain ⟨item, hitem, rfl⟩ := getElem?_of_staticAt hstatic
    exact hprocessed.currencies item (List.mem_of_getElem? hitem) hfree
  have hstart : Sound env group (looters personal owner group) (processed env gold store)
      ⟨processed env gold store, []⟩ := by
    refine ⟨⟨fun _ _ => rfl, fun kind guidLow index hindex => ?_⟩, ⟨?_, ?_, List.Pairwise.nil⟩⟩
    · unfold Loot.indicesOf Loot.entriesOf at hindex
      rw [hprocessed.lists] at hindex
      exact absurd hindex List.not_mem_nil
    · exact fun _ hhandout => absurd hhandout List.not_mem_nil
    · exact fun _ hhandout => absurd hhandout List.not_mem_nil
  have hfilled : ∀ (rest : List Looter) (audit : LootAudit),
      (∀ looter ∈ rest, looter ∈ looters personal owner group) →
      Sound env group (looters personal owner group) (processed env gold store) audit →
        Sound env group (looters personal owner group) (processed env gold store)
          (rest.foldl (auditFillNotNormalLootFor env group) audit) := by
    intro rest
    induction rest with
    | nil => exact fun _ _ hsound => hsound
    | cons looter rest ih =>
      intro audit hmem hsound
      exact ih _ (fun other hother => hmem other (List.mem_cons_of_mem _ hother))
        (hsound.fill hcurrencies (hmem looter List.mem_cons_self))
  have hrun : ∀ (audit : LootAudit),
      Sound env group (looters personal owner group) (processed env gold store) audit →
        Sound env group (looters personal owner group) (processed env gold store)
          (events.foldl auditStep audit) := by
    induction events with
    | nil => exact fun _ hsound => hsound
    | cons event rest ih => exact fun audit hsound => ih _ (hsound.step event)
  have hsound := hrun _ (hfilled _ _ (fun _ hmem => hmem) hstart)
  refine ⟨hsound.rightful, hsound.recorded.apart, ?_⟩
  rw [← loot_auditFillLoot]
  exact (List.foldl_hom LootAudit.loot fun audit event => (loot_auditStep audit event).symm).symm

/-! A group of two, and somebody who is not in it. -/

/-- Item 3 is for nobody, but follows the loot rules. -/
def picky : Environment :=
  ⟨fun _ => false, fun itemId => itemId = 3, fun _ => false, fun _ item => item.itemId ≠ 3⟩

/-- A currency, an item with conditions, and quest item 3. -/
def variedStore : List StoreItem :=
  [⟨1, false, true, false⟩, ⟨2, false, false, true⟩, ⟨3, true, false, false⟩]

/-- A stranger takes the currency, both members the item with conditions, and one of them the
quest item. -/
def variedRun : LootAudit :=
  [.store 3 0 true, .store 1 1 true, .store 2 1 true, .store 1 2 true].foldl auditStep
    (auditFillLoot picky 0 variedStore false ⟨1, true, fun _ => true⟩ (some (pair .freeForAll)))

theorem handed_variedRun : variedRun.handed =
    [⟨1, some .quest, 0, false⟩, ⟨2, some .conditional, 1, false⟩,
      ⟨1, some .conditional, 1, false⟩, ⟨3, none, 0, false⟩] := by
  decide +kernel

/-- A player is given a quest item he did not pass `AllowedForPlayer` for, a currency is given
as an item, and an item with conditions is given to two players. -/
theorem not_handed_as_listed :
    (¬ ∀ env gold store personal owner group events,
      ∀ handout ∈ (List.foldl auditStep (auditFillLoot env gold store personal owner group)
        events).handed, ∀ item,
        (processed env gold store).staticAt (handout.kind.getD .ffa) handout.index = some item →
          env.allowed handout.guidLow item.toStoreItem = true) ∧
      (¬ ∀ env gold store personal owner group events,
        ∀ handout ∈ (List.foldl auditStep (auditFillLoot env gold store personal owner group)
          events).handed, ∀ item,
          (processed env gold store).staticAt (handout.kind.getD .ffa) handout.index =
            some item → handout.asCurrency = item.currency) ∧
      ¬ ∀ env gold store personal owner group events,
        (List.foldl auditStep (auditFillLoot env gold store personal owner group)
          events).handed.Pairwise fun first second =>
            first.kind = some .conditional → second.kind = some .conditional →
              first.index ≠ second.index := by
  have hrun : ∀ handout, handout ∈ variedRun.handed ↔ handout ∈
      [⟨1, some .quest, 0, false⟩, ⟨2, some .conditional, 1, false⟩,
        ⟨1, some .conditional, 1, false⟩, ⟨3, none, 0, false⟩] := by
    intro handout
    rw [handed_variedRun]
  refine ⟨fun hall => ?_, fun hall => ?_, fun hall => ?_⟩
  · have hpassed := hall picky 0 variedStore false ⟨1, true, fun _ => true⟩
      (some (pair .freeForAll)) [.store 3 0 true, .store 1 1 true, .store 2 1 true, .store 1 2 true]
      _ ((hrun ⟨1, some .quest, 0, false⟩).mpr (by decide))
      (LootItem.ofStore picky ⟨3, true, false, false⟩) (by decide +kernel)
    exact absurd hpassed (by decide)
  · have hform := hall picky 0 variedStore false ⟨1, true, fun _ => true⟩
      (some (pair .freeForAll)) [.store 3 0 true, .store 1 1 true, .store 2 1 true, .store 1 2 true]
      _ ((hrun ⟨3, none, 0, false⟩).mpr (by decide))
      (LootItem.ofStore picky ⟨1, false, true, false⟩) (by decide +kernel)
    exact absurd hform (by decide)
  · have hapart : variedRun.handed.Pairwise _ :=
      hall picky 0 variedStore false ⟨1, true, fun _ => true⟩ (some (pair .freeForAll))
        [.store 3 0 true, .store 1 1 true, .store 2 1 true, .store 1 2 true]
    rw [handed_variedRun] at hapart
    exact absurd hapart (by decide)

end MopServer.Loots
