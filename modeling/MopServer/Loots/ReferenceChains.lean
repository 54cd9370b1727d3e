import MopServer.Foundation.References
import MopServer.Loots.GroupDrops
import MopServer.Loots.LootStore

/-! # Chains of references

Filling a loot and the two searches for quest items each follow references of their own: the
first into the reference store, as far as entries are rolled; the second from the first reference
of a template to that of the next; the third within the store it started in.
-/

namespace MopServer.Loots

open MopServer.Foundation

variable {Chance : Type} (floats : Floats Chance) (references store : LootStore Chance)

/-- The template of an id, without entries if there is none. -/
def LootStore.template (store : LootStore Chance) (id : UInt32) : LootTemplate Chance :=
  (store id).getD ⟨[], []⟩

variable (first second : UInt32)

/-- An entry of a template that filling a loot may follow, for some mode, rates and dice. -/
def ProcessRefers : Prop :=
  ∃ item ∈ (references.template first).entries, item.mincountOrRef < 0 ∧ item.currency = false ∧
    item.group = 0 ∧ floats.isZero item.chance = false ∧ item.maxcount ≠ 0 ∧
      item.referenceId = second ∧ (references second).isSome = true

/-- The reference at which the search for quest items returns. -/
def leadingReference : List (LootStoreItem Chance) → Option (LootStoreItem Chance)
  | [] => none
  | item :: rest =>
    if item.mincountOrRef < 0 then some item
    else if item.needsQuest then none
    else leadingReference rest

/-- The search for quest items goes on in the second template. -/
def LeadsTo : Prop :=
  ∃ item, leadingReference (references.template first).entries = some item ∧
    item.referenceId = second ∧ (references second).isSome = true

/-- The search for a player goes through the entries of the second template of the same store. -/
def SearchRefers : Prop :=
  ∃ item ∈ (store.template first).entries, item.mincountOrRef < 0 ∧ item.group = 0 ∧
    item.referenceId = second ∧ (store second).isSome = true

/-- A world with these templates: what has no chance is not rolled, and nothing times a rate is
nothing. -/
structure Fits (world : World Chance) : Prop where
  reference : ∀ id, world.reference id = references (UInt32.ofNat id)
  certain : ∀ chance, floats.isZero chance = true → world.certain chance = false
  rollChance : ∀ rolls (item : LootStoreItem Chance), floats.isZero item.chance = true →
    world.rollChance rolls item = false
  referencedAmount : world.referencedAmount 0 = 0

/-- Filling a loot and the searches for quest items return, for all templates. -/
structure AlwaysReturns (stores : LootStores Chance) : Prop where
  process : ∀ world, Fits floats (stores .reference) world →
    ∀ name id template, stores name id = some template → ∀ lootMode groupId drops,
      ∃ enough, ∀ fuel ≥ enough, (template.process world lootMode fuel groupId drops).isSome = true
  hasQuestDrop : ∀ name id template, stores name id = some template → ∀ groupId,
    ∃ enough, ∀ fuel ≥ enough,
      (template.hasQuestDrop (stores .reference) fuel groupId).isSome = true
  hasQuestDropForPlayer : ∀ name id template, stores name id = some template →
    ∀ hasQuestForItem groupId, ∃ enough, ∀ fuel ≥ enough,
      (template.hasQuestDropForPlayer (stores name) hasQuestForItem fuel groupId).isSome = true

section

variable {floats references store} {template : LootTemplate Chance}

theorem LootStore.template_of_some {store : LootStore Chance} {id : UInt32}
    (htemplate : store id = some template) : store.template id = template := by
  unfold LootStore.template
  rw [htemplate, Option.getD_some]

/-! ## The search for quest items -/

variable {entries : List (LootStoreItem Chance)} {haveQuestLootFor : UInt32 → Option Bool}
  {item : LootStoreItem Chance} {inGroups : Bool}

theorem scanQuestDrop_of_leading (hleading : leadingReference entries = some item) :
    scanQuestDrop haveQuestLootFor inGroups entries = haveQuestLootFor item.referenceId := by
  induction entries with
  | nil => cases hleading
  | cons first rest ih =>
    unfold leadingReference at hleading
    unfold scanQuestDrop
    split at hleading
    next hreference =>
      cases hleading
      exact if_pos hreference
    next hplain =>
      rw [if_neg hplain]
      split at hleading
      · cases hleading
      next hquest =>
        rw [if_neg hquest]
        exact ih hleading

theorem scanQuestDrop_of_none (hleading : leadingReference entries = none) :
    ∃ found, scanQuestDrop haveQuestLootFor inGroups entries = some found ∧
      (found = true ↔ inGroups = true ∨
        ∃ item ∈ entries, ¬ item.mincountOrRef < 0 ∧ item.needsQuest = true) := by
  induction entries with
  | nil => exact ⟨inGroups, rfl, by simp⟩
  | cons first rest ih =>
    unfold leadingReference at hleading
    unfold scanQuestDrop
    split at hleading
    · cases hleading
    next hplain =>
      rw [if_neg hplain]
      split at hleading
      next hquest =>
        rw [if_pos hquest]
        exact ⟨true, rfl, iff_of_true rfl (Or.inr ⟨first, List.mem_cons_self, hplain, hquest⟩)⟩
      next hquest =>
        rw [if_neg hquest]
        obtain ⟨found, hfound, hiff⟩ := ih hleading
        refine ⟨found, hfound, hiff.trans ?_⟩
        simp [hquest]

theorem hasQuestDrop_returns (hnext : ∀ item, leadingReference template.entries = some item →
      (references item.referenceId).isSome = true →
        ∃ enough, ∀ fuel ≥ enough,
          ((references.template item.referenceId).hasQuestDrop references fuel 0).isSome = true)
    (groupId : UInt8) :
    ∃ enough, ∀ fuel ≥ enough, (template.hasQuestDrop references fuel groupId).isSome = true := by
  refine enough_succ ?_
  unfold LootTemplate.hasQuestDrop
  by_cases hgroupId : groupId ≠ 0
  · simp only [if_pos hgroupId]
    exact ⟨0, fun _ _ => rfl⟩
  · simp only [if_neg hgroupId]
    cases hleading : leadingReference template.entries with
    | none =>
      refine ⟨0, fun fuel _ => ?_⟩
      obtain ⟨found, hfound, -⟩ := scanQuestDrop_of_none hleading
      rw [hfound]
      rfl
    | some item =>
      simp only [scanQuestDrop_of_leading hleading]
      cases hreferenced : references item.referenceId with
      | none => exact ⟨0, fun _ _ => rfl⟩
      | some referenced =>
        have hreturns := hnext item hleading (by rw [hreferenced]; rfl)
        rwa [LootStore.template_of_some hreferenced] at hreturns

theorem hasQuestDrop_returns_iff :
    (∀ id, Returns (fun fuel id =>
        ((references.template id).hasQuestDrop references fuel 0).isSome = true) id) ↔
      CycleFree (LeadsTo references) := by
  refine forall_returns_iff (fun _ => Bool.false_ne_true) (fun fuel id next hleads hnot => ?_)
    (fun id hnext => ?_)
  · obtain ⟨item, hleading, rfl, hsome⟩ := hleads
    obtain ⟨referenced, hreferenced⟩ := Option.isSome_iff_exists.mp hsome
    rw [LootStore.template_of_some hreferenced] at hnot
    unfold LootTemplate.hasQuestDrop
    rw [if_neg (not_not.mpr rfl), scanQuestDrop_of_leading hleading, hreferenced]
    exact hnot
  · exact hasQuestDrop_returns (fun item hleading hsome => hnext _ ⟨item, hleading, rfl, hsome⟩) 0

/-! ## The search for a player -/

variable {evaluate : UInt8 → LootTemplate Chance → Option Bool} {hasQuestForItem : UInt32 → Bool}

theorem isSome_scanForPlayer (hentries : ∀ item ∈ entries, item.mincountOrRef < 0 →
      ∀ referenced, store item.referenceId = some referenced →
        (evaluate item.group referenced).isSome = true) :
    (scanForPlayer store hasQuestForItem evaluate inGroups entries).isSome = true := by
  induction entries with
  | nil => rfl
  | cons item rest ih =>
    rw [List.forall_mem_cons] at hentries
    have hrest := ih hentries.2
    unfold scanForPlayer
    split
    next hreference =>
      cases hreferenced : store item.referenceId with
      | none => exact hrest
      | some referenced =>
        obtain ⟨found, hfound⟩ :=
          Option.isSome_iff_exists.mp (hentries.1 hreference referenced hreferenced)
        dsimp only
        rw [hfound, Option.bind_some]
        split
        · rfl
        · exact hrest
    · split
      · rfl
      · exact hrest

variable (hnever : ∀ groupId template, evaluate groupId template ≠ some true)

include hnever in
/-- A search that finds nothing reaches every reference. -/
theorem scanForPlayer_eq_none (hitem : item ∈ entries) (hreference : item.mincountOrRef < 0)
    {referenced : LootTemplate Chance} (hreferenced : store item.referenceId = some referenced)
    (hnone : evaluate item.group referenced = none) (inGroups : Bool) :
    scanForPlayer store (fun _ => false) evaluate inGroups entries = none := by
  induction entries with
  | nil => cases hitem
  | cons first rest ih =>
    unfold scanForPlayer
    rcases List.mem_cons.mp hitem with rfl | hrest
    · rw [if_pos hreference, hreferenced]
      dsimp only
      rw [hnone, Option.bind_none]
    · rw [ih hrest, if_neg Bool.false_ne_true]
      split
      · split
        · rfl
        next other _ =>
          cases hfound : evaluate first.group other with
          | none => rfl
          | some found =>
            cases found with
            | true => exact absurd hfound (hnever _ _)
            | false => rfl
      · rfl

include hnever in
theorem scanForPlayer_ne_true (entries : List (LootStoreItem Chance)) :
    scanForPlayer store (fun _ => false) evaluate false entries ≠ some true := by
  induction entries with
  | nil => nofun
  | cons item rest ih =>
    unfold scanForPlayer
    rw [if_neg Bool.false_ne_true]
    split
    · split
      · exact ih
      next referenced _ =>
        cases hfound : evaluate item.group referenced with
        | none => nofun
        | some found =>
          cases found with
          | true => exact absurd hfound (hnever _ _)
          | false => exact ih
    · exact ih

theorem hasQuestDropForPlayer_ne_true (fuel : Nat) (groupId : UInt8)
    (template : LootTemplate Chance) :
    template.hasQuestDropForPlayer store (fun _ => false) fuel groupId ≠ some true := by
  have hgroup : ∀ group : LootTemplate.LootGroup Chance,
      group.hasQuestDropForPlayer (fun _ => false) = false := by
    intro group
    unfold LootTemplate.LootGroup.hasQuestDropForPlayer
    simp
  induction fuel generalizing groupId template with
  | zero => nofun
  | succ fuel ih =>
    unfold LootTemplate.hasQuestDropForPlayer
    have hgroups : ∀ groups : List (LootTemplate.LootGroup Chance),
        groups.any (LootTemplate.LootGroup.hasQuestDropForPlayer fun _ => false) = false :=
      fun groups => List.any_eq_false.mpr fun group _ => by rw [hgroup]; exact Bool.false_ne_true
    split
    · cases template.groups[groupId.toNat - 1]? with
      | none => nofun
      | some group => rw [Option.any_some, hgroup]; nofun
    · rw [hgroups]
      exact scanForPlayer_ne_true ih template.entries

theorem enough_references (returns : Nat → UInt8 → LootTemplate Chance → Prop)
    (followed : LootStoreItem Chance → Prop)
    (hgroup : ∀ fuel groupId template, groupId ≠ 0 → returns (fuel + 1) groupId template)
    (hnext : ∀ item ∈ template.entries, followed item → item.group = 0 →
      (store item.referenceId).isSome = true →
        ∃ enough, ∀ fuel ≥ enough, returns fuel 0 (store.template item.referenceId)) :
    ∃ enough, ∀ fuel ≥ enough, ∀ item ∈ template.entries, followed item →
      ∀ referenced, store item.referenceId = some referenced →
        returns fuel item.group referenced := by
  apply enough_forall
  intro item hitem
  by_cases hzero : item.group = 0
  · by_cases hfollowed : followed item ∧ (store item.referenceId).isSome = true
    · obtain ⟨enough, hreturns⟩ := hnext item hitem hfollowed.1 hzero hfollowed.2
      refine ⟨enough, fun fuel hfuel _ referenced hreferenced => ?_⟩
      rw [LootStore.template_of_some hreferenced] at hreturns
      rw [hzero]
      exact hreturns fuel hfuel
    · refine ⟨0, fun fuel _ hitem referenced hreferenced => ?_⟩
      exact absurd ⟨hitem, by rw [hreferenced]; rfl⟩ hfollowed
  · -- a reference to a group goes no further
    exact enough_succ ⟨0, fun fuel _ _ referenced _ => hgroup fuel item.group referenced hzero⟩

theorem hasQuestDropForPlayer_returns
    (hnext : ∀ item ∈ template.entries, item.mincountOrRef < 0 → item.group = 0 →
      (store item.referenceId).isSome = true → ∃ enough, ∀ fuel ≥ enough,
        ((store.template item.referenceId).hasQuestDropForPlayer store hasQuestForItem fuel
          0).isSome = true) (groupId : UInt8) :
    ∃ enough, ∀ fuel ≥ enough,
      (template.hasQuestDropForPlayer store hasQuestForItem fuel groupId).isSome = true := by
  obtain ⟨enough, henough⟩ := enough_references
    (fun fuel groupId template =>
      (template.hasQuestDropForPlayer store hasQuestForItem fuel groupId).isSome = true)
    (fun item => item.mincountOrRef < 0) (fun fuel groupId template hgroup => by
      unfold LootTemplate.hasQuestDropForPlayer
      rw [if_pos hgroup]
      rfl) hnext
  refine enough_succ ⟨enough, fun fuel hfuel => ?_⟩
  unfold LootTemplate.hasQuestDropForPlayer
  split
  · rfl
  · exact isSome_scanForPlayer (henough fuel hfuel)

/-- A search that returns although it finds nothing is at no endless chain. -/
theorem ends_of_hasQuestDropForPlayer_returns {id : UInt32}
    (hreturns : Returns (fun fuel id =>
      ((store.template id).hasQuestDropForPlayer store (fun _ => false) fuel 0).isSome = true)
        id) : Ends (SearchRefers store) id := by
  obtain ⟨enough, hreturned⟩ := hreturns
  by_contra hendless
  have hstuck := stuck_of_not_ends
    (fun fuel id => (store.template id).hasQuestDropForPlayer store (fun _ => false) fuel 0 = none)
    (fun _ => rfl) (fun fuel id next hrefers hnone => ?_) enough hendless
  · have hsome : ((store.template id).hasQuestDropForPlayer store (fun _ => false) enough
        0).isSome = true := hreturned enough (le_refl enough)
    rw [hstuck] at hsome
    cases hsome
  · obtain ⟨item, hitem, hreference, hgroup, rfl, hsome⟩ := hrefers
    obtain ⟨referenced, hreferenced⟩ := Option.isSome_iff_exists.mp hsome
    rw [LootStore.template_of_some hreferenced] at hnone
    unfold LootTemplate.hasQuestDropForPlayer
    rw [if_neg (not_not.mpr rfl)]
    exact scanForPlayer_eq_none
      (fun groupId template => hasQuestDropForPlayer_ne_true fuel groupId template) hitem
      hreference hreferenced (hgroup ▸ hnone) _

theorem hasQuestDropForPlayer_returns_iff :
    (∀ hasQuestForItem id, Returns (fun fuel id =>
        ((store.template id).hasQuestDropForPlayer store hasQuestForItem fuel 0).isSome = true)
          id) ↔
      CycleFree (SearchRefers store) := by
  rw [cycleFree_iff_forall_ends]
  constructor
  · intro hreturns id
    exact ends_of_hasQuestDropForPlayer_returns (hreturns (fun _ => false) id)
  · intro hends hasQuestForItem id
    exact (hends id).returns fun id hnext => hasQuestDropForPlayer_returns
      (fun item hitem hreference hgroup hsome =>
        hnext _ ⟨item, hitem, hreference, hgroup, rfl, hsome⟩) 0

/-! ## Filling a loot -/

variable {world : World Chance} {lootMode : UInt16} {item : LootStoreItem Chance}
  {template : LootTemplate Chance}

/-- The search for duplicates of a plain entry always gets to the end. -/
theorem searchSkips_eq_false (loot : Loot) : searchSkips world loot item = false := by
  have hend : ∀ (inventoryType itemId : UInt32) (counter : UInt8) (items : List LootItem),
      searchEnd inventoryType itemId counter items = items.length := by
    intro inventoryType itemId counter items
    induction items generalizing counter with
    | nil => rfl
    | cons item rest ih =>
      unfold searchEnd
      simp only [ih, ite_self, List.length_cons]
  unfold searchSkips
  simp [hend]

theorem process_group_isSome (group : LootTemplate.LootGroup Chance) (drops : Drops) :
    (group.process world lootMode drops).isSome = true := by
  obtain ⟨count, dropped, hprocess, -⟩ :=
    LootTemplate.LootGroup.process_spec world group lootMode drops
  rw [hprocess]
  rfl

theorem process_referencedGroup_isSome (group? : Option (LootTemplate.LootGroup Chance))
    (drops : Drops) :
    ((match group? with
      | none => Script.done
      | some group => group.process world lootMode : DropCode Chance) drops).isSome = true := by
  cases group? with
  | none => rfl
  | some group => exact process_group_isSome group drops

variable (hfits : Fits floats references world)

include hfits in
theorem processEntry_isSome {processReference : UInt8 → LootTemplate Chance → DropCode Chance}
    (hreference : item.mincountOrRef < 0 → item.currency = false →
      floats.isZero item.chance = false → item.maxcount ≠ 0 →
        ∀ referenced, references item.referenceId = some referenced →
          ∀ drops, (processReference item.group referenced drops).isSome = true) (drops : Drops) :
    (processEntry world lootMode processReference item drops).isSome = true := by
  unfold processEntry Script.read
  dsimp only
  split
  · rfl
  split
  · rfl
  next hroll =>
  split
  · rfl
  split
  next hfollowed =>
    simp only [Bool.and_eq_true, decide_eq_true_eq, Bool.not_eq_true'] at hfollowed
    cases hreferenced : world.reference (-item.mincountOrRef).toNat with
    | none => rfl
    | some referenced =>
      have hchance : floats.isZero item.chance = false := by
        by_contra hzero
        rw [Bool.not_eq_false] at hzero
        refine hroll ?_
        unfold LootStoreItem.roll
        rw [hfits.certain _ hzero, hfits.rollChance _ _ hzero]
        rfl
      refine Script.isSome_seq (fun script hscript state => ?_) drops
      rcases List.mem_cons.mp hscript with rfl | hscript
      · rfl
      · obtain ⟨hamount, rfl⟩ := List.mem_replicate.mp hscript
        refine hreference hfollowed.1 hfollowed.2 hchance (fun hmax => hamount ?_) referenced
          ((hfits.reference _).symm.trans hreferenced) state
        rw [hmax, hfits.referencedAmount]
        rfl
  · exact Script.isSome_seq (by simp [Script.op]) drops

include hfits in
theorem process_returns
    (hnext : ∀ item ∈ template.entries, item.mincountOrRef < 0 → item.currency = false →
      item.group = 0 → floats.isZero item.chance = false → item.maxcount ≠ 0 →
        (references item.referenceId).isSome = true → ∃ enough, ∀ fuel ≥ enough, ∀ drops,
          ((references.template item.referenceId).process world lootMode fuel 0 drops).isSome =
            true) (groupId : UInt8) :
    ∃ enough, ∀ fuel ≥ enough, ∀ drops,
      (template.process world lootMode fuel groupId drops).isSome = true := by
  obtain ⟨enough, henough⟩ := enough_references
    (fun fuel groupId template =>
      ∀ drops, (template.process world lootMode fuel groupId drops).isSome = true)
    (fun item => item.mincountOrRef < 0 ∧ item.currency = false ∧
      floats.isZero item.chance = false ∧ item.maxcount ≠ 0)
    (fun fuel groupId template hgroup drops => by
      rw [LootTemplate.process, if_pos hgroup]
      exact process_referencedGroup_isSome _ drops)
    fun item hitem ⟨hreference, hcurrency, hchance, hmax⟩ hgroup =>
      hnext item hitem hreference hcurrency hgroup hchance hmax
  refine enough_succ ⟨enough, fun fuel hfuel drops => ?_⟩
  rw [LootTemplate.process]
  split
  · exact process_referencedGroup_isSome _ drops
  · refine Script.isSome_seq (fun script hscript state => ?_) drops
    rcases List.mem_append.mp hscript with hentry | hgroup
    · obtain ⟨item, hitem, rfl⟩ := List.mem_map.mp hentry
      exact processEntry_isSome hfits (fun hreference hcurrency hchance hmax =>
        henough fuel hfuel item hitem ⟨hreference, hcurrency, hchance, hmax⟩) state
    · obtain ⟨group, -, rfl⟩ := List.mem_map.mp hgroup
      exact process_group_isSome group state

def luckyWorld (floats : Floats Chance) (references : LootStore Chance) (chance : Chance) :
    World Chance where
  partyLoot := fun _ => false
  followLootRules := fun _ => false
  isCurrencyToken := fun _ => false
  allowed := fun _ _ => true
  inventoryType := fun _ => none
  reference := fun id => references (UInt32.ofNat id)
  referencedAmount := id
  certain := fun chance => !floats.isZero chance
  sub := fun roll _ => roll
  negative := fun _ => false
  randChance := fun _ => chance
  rollChance := fun _ item => !floats.isZero item.chance
  irand := fun _ max => ⟨0, Nat.succ_pos max⟩

theorem luckyWorld_fits (chance : Chance) :
    Fits floats references (luckyWorld floats references chance) where
  reference _ := rfl
  certain _ hzero := by
    show (!_) = false
    rw [hzero, Bool.not_true]
  rollChance _ _ hzero := by
    show (!_) = false
    rw [hzero, Bool.not_true]
  referencedAmount := rfl

theorem process_eq_none {chance : Chance} {fuel : Nat} {first second : UInt32}
    (hrefers : ProcessRefers floats references first second)
    (hnone : ∀ drops, (references.template second).process (luckyWorld floats references chance)
      0xFFFF fuel 0 drops = none) (drops : Drops) :
    (references.template first).process (luckyWorld floats references chance) 0xFFFF (fuel + 1) 0
      drops = none := by
  obtain ⟨item, hitem, hreference, hcurrency, hgroup, hchance, hmax, rfl, hsome⟩ := hrefers
  obtain ⟨referenced, hreferenced⟩ := Option.isSome_iff_exists.mp hsome
  rw [LootStore.template_of_some hreferenced] at hnone
  have hentry : ∀ state, processEntry (luckyWorld floats references chance) 0xFFFF
      (LootTemplate.process (luckyWorld floats references chance) 0xFFFF fuel) item state =
        none := by
    intro state
    have hmode : item.lootmode &&& ~~~0xFFFF = 0 := by
      have hall : ~~~(0xFFFF : UInt16) = 0 := by decide
      rw [hall, UInt16.and_zero]
    have hroll : item.roll (luckyWorld floats references chance) state.rolls = true := by
      show (!_ || !_) = true
      rw [hchance]
      rfl
    have hfound : (luckyWorld floats references chance).reference (-item.mincountOrRef).toNat =
        some referenced := hreferenced
    unfold processEntry Script.read
    dsimp only
    rw [if_neg (not_not.mpr hmode), hroll, Bool.not_true, if_neg Bool.false_ne_true,
      searchSkips_eq_false, if_neg Bool.false_ne_true, hcurrency, decide_eq_true hreference,
      Bool.not_false, Bool.and_true, if_pos rfl, hfound]
    refine Script.seq_eq_none (List.mem_cons_of_mem _ (List.mem_replicate.mpr ⟨?_, rfl⟩)) ?_ state
    · exact fun hzero => hmax (UInt32.toNat_inj.mp hzero)
    · intro drops
      rw [hgroup]
      exact hnone drops
  rw [LootTemplate.process, if_neg (not_not.mpr rfl)]
  exact Script.seq_eq_none (List.mem_append_left _ (List.mem_map_of_mem hitem)) hentry drops

include hfits in
theorem process_returns_of_cycleFree (hfree : CycleFree (ProcessRefers floats references))
    (id : UInt32) :
    Returns (fun fuel id => ∀ drops,
      ((references.template id).process world lootMode fuel 0 drops).isSome = true) id :=
  (cycleFree_iff_forall_ends.mp hfree id).returns fun _ hnext =>
    process_returns hfits (fun item hitem hreference hcurrency hgroup hchance hmax hsome =>
      hnext _ ⟨item, hitem, hreference, hcurrency, hgroup, hchance, hmax, rfl, hsome⟩) 0

/-- If filling a loot returns in all worlds, no entries lead in a circle. -/
theorem cycleFree_of_process_returns
    (hreturns : ∀ world, Fits floats references world → ∀ id template,
      references id = some template → ∀ drops, ∃ enough, ∀ fuel ≥ enough,
        (template.process world 0xFFFF fuel 0 drops).isSome = true) :
    CycleFree (ProcessRefers floats references) := by
  rw [cycleFree_iff_forall_ends]
  intro id
  by_contra hendless
  obtain ⟨next, hrefers⟩ : ∃ next, ProcessRefers floats references id next := by
    by_contra hnone
    exact hendless (Acc.intro id fun next hrefers => absurd ⟨next, hrefers⟩ hnone)
  obtain ⟨item, hitem, -⟩ := hrefers
  cases htemplate : references id with
  | none =>
    unfold LootStore.template at hitem
    rw [htemplate] at hitem
    cases hitem
  | some template =>
    -- any chance will do for the dice of the lucky world
    obtain ⟨enough, hsome⟩ :=
      hreturns _ (luckyWorld_fits item.chance) id template htemplate ⟨Loot.empty 0, 0⟩
    have hstuck := stuck_of_not_ends
      (fun fuel id => ∀ drops, (references.template id).process
        (luckyWorld floats references item.chance) 0xFFFF fuel 0 drops = none)
      (fun _ _ => rfl) (fun fuel first second hrefers hnone => process_eq_none hrefers hnone)
      enough hendless ⟨Loot.empty 0, 0⟩
    have hreturned := hsome enough (le_refl enough)
    rw [LootStore.template_of_some htemplate] at hstuck
    rw [hstuck] at hreturned
    cases hreturned

/-! ## All tables -/

theorem alwaysReturns_iff (stores : LootStores Chance) :
    AlwaysReturns floats stores ↔
      CycleFree (ProcessRefers floats (stores .reference)) ∧
        CycleFree (LeadsTo (stores .reference)) ∧
          ∀ name, CycleFree (SearchRefers (stores name)) := by
  constructor
  · intro hreturns
    refine ⟨cycleFree_of_process_returns fun world hfits id template htemplate drops =>
      hreturns.process world hfits .reference id template htemplate 0xFFFF 0 drops, ?_, ?_⟩
    · refine hasQuestDrop_returns_iff.mp fun id => ?_
      cases htemplate : stores .reference id with
      | none =>
        refine hasQuestDrop_returns (fun item hleading => ?_) 0
        rw [LootStore.template, htemplate] at hleading
        cases hleading
      | some template =>
        have hreturned := hreturns.hasQuestDrop .reference id template htemplate 0
        rwa [← LootStore.template_of_some htemplate] at hreturned
    · intro name
      refine hasQuestDropForPlayer_returns_iff.mp fun hasQuestForItem id => ?_
      cases htemplate : stores name id with
      | none =>
        refine hasQuestDropForPlayer_returns (fun item hitem => ?_) 0
        rw [LootStore.template, htemplate] at hitem
        cases hitem
      | some template =>
        have hreturned :=
          hreturns.hasQuestDropForPlayer name id template htemplate hasQuestForItem 0
        rwa [← LootStore.template_of_some htemplate] at hreturned
  · rintro ⟨hprocess, hquest, hplayer⟩
    refine ⟨fun world hfits name id template _ lootMode groupId drops => ?_,
      fun name id template _ groupId => ?_, fun name id template _ hasQuestForItem groupId => ?_⟩
    · obtain ⟨enough, hreturns⟩ := process_returns hfits
        (fun item _ _ _ _ _ _ _ => process_returns_of_cycleFree hfits hprocess item.referenceId)
        groupId
      exact ⟨enough, fun fuel hfuel => hreturns fuel hfuel drops⟩
    · exact hasQuestDrop_returns
        (fun item _ _ => hasQuestDrop_returns_iff.mpr hquest item.referenceId) groupId
    · exact hasQuestDropForPlayer_returns (fun item _ _ _ _ =>
        hasQuestDropForPlayer_returns_iff.mpr (hplayer name) hasQuestForItem item.referenceId)
        groupId

end

/-- For all loot tables: everything returns if and only if none of the references that are
followed lead in a circle. -/
theorem lootTables_alwaysReturns_iff (floats : Floats Chance) (items : ItemStores)
    (rows : LootStoreName → List (LootRow Chance)) :
    AlwaysReturns floats (fun name => loadLootTable floats items (rows name)) ↔
      CycleFree (ProcessRefers floats (loadLootTable floats items (rows .reference))) ∧
        CycleFree (LeadsTo (loadLootTable floats items (rows .reference))) ∧
          ∀ name, CycleFree (SearchRefers (loadLootTable floats items (rows name))) :=
  alwaysReturns_iff _

def wholePercent : Floats Nat where
  fabs := id
  negative := fun _ => false
  isZero := fun chance => chance = 0
  isLow := fun _ => false

def certainReference (entry : UInt32) (mincountOrRef : Int32) : LootRow Nat where
  entry := entry
  item := 1
  chanceOrQuestChance := 100
  lootmode := 1
  groupid := 0
  mincountOrRef := mincountOrRef
  maxcount := 1

/-- Two reference templates that refer to each other. -/
def circularRows : LootStoreName → List (LootRow Nat)
  | .reference => [certainReference 1 (-2), certainReference 2 (-1)]
  | _ => []

/-- They are loaded, and filling a loot with one of them does not return. -/
theorem not_alwaysReturns_circularRows :
    ¬ AlwaysReturns wholePercent (fun name =>
      loadLootTable wholePercent ⟨fun _ => true, fun _ => true⟩ (circularRows name)) := by
  intro hreturns
  refine (alwaysReturns_iff _).mp hreturns |>.1 1 ?_
  refine Relation.TransGen.tail (b := 2) (.single ⟨(certainReference 1 (-2)).storeItem wholePercent,
    List.mem_cons_self, by decide, by decide, by decide, by decide, by decide, by decide, rfl⟩)
    ⟨(certainReference 2 (-1)).storeItem wholePercent, List.mem_cons_self, by decide, by decide,
      by decide, by decide, by decide, by decide, rfl⟩

end MopServer.Loots
