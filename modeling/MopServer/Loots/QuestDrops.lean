import MopServer.Loots.ReferenceChains

/-! # Which templates drop quest items

A template may drop the items of its plain entries and groups, and those of the templates its
references run.  The searches for quest items look at less and at other things: one of them gives
the answer of the first reference, the other looks references up in the store it is asked for.
-/

namespace MopServer.Loots

open MopServer.Foundation

variable {Chance : Type}

/-- What filling a loot takes for a reference. -/
def LootStoreItem.IsReference (item : LootStoreItem Chance) : Prop :=
  item.mincountOrRef < 0 ∧ item.currency = false

/-- A template, or a group of it, may drop an entry that is wanted. -/
inductive MayDrop (lookup : LootStore Chance) (isReference wanted : LootStoreItem Chance → Prop) :
    UInt8 → LootTemplate Chance → Prop where
  | ofGroup {groupId : UInt8} {template : LootTemplate Chance}
      {group : LootTemplate.LootGroup Chance} {item : LootStoreItem Chance}
      (hgroupId : groupId ≠ 0) (hgroup : template.groups[groupId.toNat - 1]? = some group)
      (hitem : item ∈ group.items) (hwanted : wanted item) :
      MayDrop lookup isReference wanted groupId template
  | plain {template : LootTemplate Chance} {item : LootStoreItem Chance}
      (hitem : item ∈ template.entries) (hplain : ¬ isReference item) (hwanted : wanted item) :
      MayDrop lookup isReference wanted 0 template
  | grouped {template : LootTemplate Chance} {group : LootTemplate.LootGroup Chance}
      {item : LootStoreItem Chance} (hgroup : group ∈ template.groups)
      (hitem : item ∈ group.items) (hwanted : wanted item) :
      MayDrop lookup isReference wanted 0 template
  | reference {template referenced : LootTemplate Chance} {item : LootStoreItem Chance}
      (hitem : item ∈ template.entries) (hreference : isReference item)
      (hreferenced : lookup item.referenceId = some referenced)
      (hdrop : MayDrop lookup isReference wanted item.group referenced) :
      MayDrop lookup isReference wanted 0 template

/-- A search returns and says whether something is true. -/
def Answers (search : Nat → Option Bool) (truth : Prop) : Prop :=
  ∃ enough, ∀ fuel ≥ enough, ∃ found, search fuel = some found ∧ (found = true ↔ truth)

variable (references : LootStore Chance) (template : LootTemplate Chance)

def MayDropQuestItem : Prop :=
  MayDrop references LootStoreItem.IsReference (fun item => item.needsQuest = true) 0 template

/-- A template that may drop an item a player has a quest for. -/
def MayDropForPlayer (hasQuestForItem : UInt32 → Bool) (template : LootTemplate Chance) : Prop :=
  MayDrop references LootStoreItem.IsReference
    (fun item => item.currency = false ∧ hasQuestForItem item.itemId = true) 0 template

/-- What a search that looks references up in a store comes across. -/
def Encounters (store : LootStore Chance) (wanted : LootStoreItem Chance → Prop)
    (groupId : UInt8) (template : LootTemplate Chance) : Prop :=
  MayDrop store (fun item => item.mincountOrRef < 0) wanted groupId template

/-- The graph of the references. -/
def RefersTo (first second : UInt32) : Prop :=
  ∃ item ∈ (references.template first).entries,
    item.mincountOrRef < 0 ∧ item.referenceId = second

/-- The references of a template lead to no cycle. -/
def Acyclic : Prop :=
  ∀ item ∈ template.entries, item.mincountOrRef < 0 →
    MeetsNoCycle (RefersTo references) item.referenceId

/-- Both searches give the right answer for every template whose references are acyclic. -/
def QuestDropsExact (stores : LootStores Chance) : Prop :=
  ∀ name id template, stores name id = some template → Acyclic (stores .reference) template →
    Answers (fun fuel => template.hasQuestDrop (stores .reference) fuel 0)
        (MayDropQuestItem (stores .reference) template) ∧
      ∀ hasQuestForItem, Answers
        (fun fuel => template.hasQuestDropForPlayer (stores name) hasQuestForItem fuel 0)
        (MayDropForPlayer (stores .reference) hasQuestForItem template)

/-- What a template has to be like: if a reference comes before every quest entry, it alone
decides whether there are quest items; and the references lead to the same items, and to no
cycle, when they are looked up in the store of the template. -/
structure Searchable (references store : LootStore Chance) (id : UInt32)
    (template : LootTemplate Chance) : Prop where
  leading : ∀ item, leadingReference template.entries = some item →
    (MayDropQuestItem references template ↔
      ∃ referenced, references item.referenceId = some referenced ∧
        MayDropQuestItem references referenced)
  meetsNoCycle : MeetsNoCycle (SearchRefers store) id
  sameItems : ∀ itemId, Encounters store (fun item => item.itemId = itemId) 0 template ↔
    MayDrop references LootStoreItem.IsReference
      (fun item => item.currency = false ∧ item.itemId = itemId) 0 template

section

variable {references store : LootStore Chance} {template : LootTemplate Chance}
  {isReference wanted : LootStoreItem Chance → Prop} {hasQuestForItem : UInt32 → Bool}
  {lookup : LootStore Chance} {groupId : UInt8} {search : Nat → Option Bool} {truth : Prop}

theorem mayDrop_group_iff (hgroupId : groupId ≠ 0) :
    MayDrop lookup isReference wanted groupId template ↔
      ∃ group, template.groups[groupId.toNat - 1]? = some group ∧
        ∃ item ∈ group.items, wanted item := by
  constructor
  · intro hdrop
    cases hdrop with
    | ofGroup _ hgroup hitem hwanted => exact ⟨_, hgroup, _, hitem, hwanted⟩
    | plain _ _ _ | grouped _ _ _ | reference _ _ _ _ => exact absurd rfl hgroupId
  · rintro ⟨group, hgroup, item, hitem, hwanted⟩
    exact .ofGroup hgroupId hgroup hitem hwanted

theorem mayDrop_zero_iff :
    MayDrop lookup isReference wanted 0 template ↔
      (∃ group ∈ template.groups, ∃ item ∈ group.items, wanted item) ∨
        ∃ item ∈ template.entries, ¬ isReference item ∧ wanted item ∨
          isReference item ∧ ∃ referenced, lookup item.referenceId = some referenced ∧
            MayDrop lookup isReference wanted item.group referenced := by
  constructor
  · intro hdrop
    cases hdrop with
    | ofGroup hgroupId _ _ _ => exact absurd rfl hgroupId
    | plain hitem hplain hwanted => exact Or.inr ⟨_, hitem, Or.inl ⟨hplain, hwanted⟩⟩
    | grouped hgroup hitem hwanted => exact Or.inl ⟨_, hgroup, _, hitem, hwanted⟩
    | reference hitem hreference hreferenced hdrop =>
      exact Or.inr ⟨_, hitem, Or.inr ⟨hreference, _, hreferenced, hdrop⟩⟩
  · rintro (⟨group, hgroup, item, hitem, hwanted⟩ | ⟨item, hitem, ⟨hplain, hwanted⟩ |
      ⟨hreference, referenced, hreferenced, hdrop⟩⟩)
    · exact .grouped hgroup hitem hwanted
    · exact .plain hitem hplain hwanted
    · exact .reference hitem hreference hreferenced hdrop

theorem mayDrop_exists_iff {Kind : Type} {wantedOf : Kind → LootStoreItem Chance → Prop} :
    MayDrop lookup isReference (fun item => ∃ kind, wantedOf kind item) groupId template ↔
      ∃ kind, MayDrop lookup isReference (wantedOf kind) groupId template := by
  constructor
  · intro hdrop
    induction hdrop with
    | ofGroup hgroupId hgroup hitem hwanted =>
      exact hwanted.imp fun _ hkind => .ofGroup hgroupId hgroup hitem hkind
    | plain hitem hplain hwanted => exact hwanted.imp fun _ hkind => .plain hitem hplain hkind
    | grouped hgroup hitem hwanted => exact hwanted.imp fun _ hkind => .grouped hgroup hitem hkind
    | reference hitem hreference hreferenced _ ih =>
      exact ih.imp fun _ hkind => .reference hitem hreference hreferenced hkind
  · rintro ⟨kind, hdrop⟩
    induction hdrop with
    | ofGroup hgroupId hgroup hitem hwanted =>
      exact .ofGroup hgroupId hgroup hitem ⟨kind, hwanted⟩
    | plain hitem hplain hwanted => exact .plain hitem hplain ⟨kind, hwanted⟩
    | grouped hgroup hitem hwanted => exact .grouped hgroup hitem ⟨kind, hwanted⟩
    | reference hitem hreference hreferenced _ ih =>
      exact .reference hitem hreference hreferenced ih

theorem Answers.returns (hanswers : Answers search truth) :
    ∃ enough, ∀ fuel ≥ enough, (search fuel).isSome = true := by
  obtain ⟨enough, hfound⟩ := hanswers
  refine ⟨enough, fun fuel hfuel => ?_⟩
  obtain ⟨found, hsearch, -⟩ := hfound fuel hfuel
  rw [hsearch]
  rfl

theorem Answers.iff {other : Prop} (hanswers : Answers search truth) (hother : Answers search other)
    : truth ↔ other := by
  obtain ⟨enough, hfound⟩ := hanswers
  obtain ⟨enoughOther, hfoundOther⟩ := hother
  obtain ⟨found, hsearch, htruth⟩ := hfound (max enough enoughOther) (le_max_left _ _)
  obtain ⟨foundOther, hsearchOther, hotherTruth⟩ :=
    hfoundOther (max enough enoughOther) (le_max_right _ _)
  rw [hsearch, Option.some.injEq] at hsearchOther
  subst hsearchOther
  exact htruth.symm.trans hotherTruth

theorem Answers.congr {other : Prop} (hanswers : Answers search truth) (hiff : truth ↔ other) :
    Answers search other := by
  obtain ⟨enough, hfound⟩ := hanswers
  refine ⟨enough, fun fuel hfuel => ?_⟩
  obtain ⟨found, hsearch, htruth⟩ := hfound fuel hfuel
  exact ⟨found, hsearch, htruth.trans hiff⟩

/-! ## The search for quest items -/

variable {entries : List (LootStoreItem Chance)} {item : LootStoreItem Chance}
  (group : LootTemplate.LootGroup Chance)

theorem hasQuestDrop_group_iff :
    group.hasQuestDrop = true ↔ ∃ item ∈ group.items, item.needsQuest = true := by
  unfold LootTemplate.LootGroup.hasQuestDrop LootTemplate.LootGroup.items
  rw [← List.any_append, List.any_eq_true]

theorem leadingReference_eq_none (hleading : leadingReference entries = none) :
    (∃ item ∈ entries, ¬ item.mincountOrRef < 0 ∧ item.needsQuest = true) ∨
      ∀ item ∈ entries, ¬ item.mincountOrRef < 0 := by
  induction entries with
  | nil => exact Or.inr (by simp)
  | cons first rest ih =>
    unfold leadingReference at hleading
    split at hleading
    · cases hleading
    next hplain =>
      split at hleading
      next hquest => exact Or.inl ⟨first, List.mem_cons_self, hplain, hquest⟩
      · rcases ih hleading with ⟨item, hitem, hboth⟩ | hnone
        · exact Or.inl ⟨item, List.mem_cons_of_mem _ hitem, hboth⟩
        · exact Or.inr (List.forall_mem_cons.mpr ⟨hplain, hnone⟩)

theorem hasQuestDrop_succ (fuel : Nat) :
    template.hasQuestDrop references (fuel + 1) 0 =
      scanQuestDrop
        (fun id =>
          match references id with
          | none => some false
          | some referenced => referenced.hasQuestDrop references fuel 0)
        (template.groups.any LootTemplate.LootGroup.hasQuestDrop) template.entries :=
  if_neg (not_not.mpr rfl)

theorem hasQuestDrop_answers_of_none (hleading : leadingReference template.entries = none) :
    Answers (fun fuel => template.hasQuestDrop references fuel 0)
      (MayDropQuestItem references template) := by
  refine enough_succ ⟨0, fun fuel _ => ?_⟩
  dsimp only
  rw [hasQuestDrop_succ]
  obtain ⟨found, hfound, hiff⟩ := scanQuestDrop_of_none hleading
  refine ⟨found, hfound, hiff.trans ?_⟩
  unfold MayDropQuestItem
  rw [mayDrop_zero_iff, List.any_eq_true]
  simp only [hasQuestDrop_group_iff]
  refine or_congr_right ⟨?_, ?_⟩
  · rintro ⟨item, hitem, hplain, hquest⟩
    exact ⟨item, hitem, Or.inl ⟨fun hreference => hplain hreference.1, hquest⟩⟩
  · rintro ⟨item, hitem, hdrop⟩
    -- the loop ends at a quest entry, or all entries are plain
    rcases leadingReference_eq_none hleading with hfirst | hnone
    · exact hfirst
    · rcases hdrop with ⟨-, hquest⟩ | ⟨hreference, -⟩
      · exact ⟨item, hitem, hnone item hitem, hquest⟩
      · exact absurd hreference.1 (hnone item hitem)

theorem hasQuestDrop_answers_of_leading (hleading : leadingReference template.entries = some item)
    (hnext : ∀ referenced, references item.referenceId = some referenced →
      Answers (fun fuel => referenced.hasQuestDrop references fuel 0)
        (MayDropQuestItem references referenced)) :
    Answers (fun fuel => template.hasQuestDrop references fuel 0)
      (∃ referenced, references item.referenceId = some referenced ∧
        MayDropQuestItem references referenced) := by
  cases hreferenced : references item.referenceId with
  | none =>
    refine enough_succ ⟨0, fun fuel _ => ⟨false, ?_, by simp⟩⟩
    dsimp only
    rw [hasQuestDrop_succ, scanQuestDrop_of_leading hleading, hreferenced]
  | some referenced =>
    obtain ⟨enough, hfound⟩ := hnext referenced hreferenced
    refine enough_succ ⟨enough, fun fuel hfuel => ?_⟩
    dsimp only
    rw [hasQuestDrop_succ, scanQuestDrop_of_leading hleading, hreferenced]
    obtain ⟨found, hsearch, hiff⟩ := hfound fuel hfuel
    exact ⟨found, hsearch, hiff.trans (by simp)⟩

/-! ## The search for a player -/

theorem hasQuestDropForPlayer_group_iff :
    group.hasQuestDropForPlayer hasQuestForItem = true ↔
      ∃ item ∈ group.items, hasQuestForItem item.itemId = true := by
  unfold LootTemplate.LootGroup.hasQuestDropForPlayer LootTemplate.LootGroup.items
  rw [← List.any_append, List.any_eq_true]

theorem scanForPlayer_spec {evaluate : UInt8 → LootTemplate Chance → Option Bool}
    {truth : UInt8 → LootTemplate Chance → Prop} (inGroups : Bool)
    (hentries : ∀ item ∈ entries, item.mincountOrRef < 0 →
      ∀ referenced, store item.referenceId = some referenced →
        ∃ found, evaluate item.group referenced = some found ∧
          (found = true ↔ truth item.group referenced)) :
    ∃ found, scanForPlayer store hasQuestForItem evaluate inGroups entries = some found ∧
      (found = true ↔ inGroups = true ∨
        ∃ item ∈ entries, ¬ item.mincountOrRef < 0 ∧ hasQuestForItem item.itemId = true ∨
          item.mincountOrRef < 0 ∧ ∃ referenced, store item.referenceId = some referenced ∧
            truth item.group referenced) := by
  induction entries with
  | nil => exact ⟨inGroups, rfl, by simp⟩
  | cons item rest ih =>
    rw [List.forall_mem_cons] at hentries
    obtain ⟨hitem, hrest⟩ := hentries
    obtain ⟨foundRest, hsearch, hiff⟩ := ih hrest
    unfold scanForPlayer
    simp only [List.exists_mem_cons_iff]
    by_cases hreference : item.mincountOrRef < 0
    · rw [if_pos hreference]
      cases hreferenced : store item.referenceId with
      | none =>
        refine ⟨foundRest, hsearch, hiff.trans ?_⟩
        simp [hreference]
      | some referenced =>
        obtain ⟨found, hfound, htruth⟩ := hitem hreference referenced hreferenced
        dsimp only
        rw [hfound, Option.bind_some]
        cases found with
        | true =>
          refine ⟨true, rfl, iff_of_true rfl (Or.inr (Or.inl (Or.inr ?_)))⟩
          exact ⟨hreference, referenced, rfl, htruth.mp rfl⟩
        | false =>
          have hnot : ¬ truth item.group referenced :=
            fun htrue => Bool.false_ne_true (htruth.mpr htrue)
          refine ⟨foundRest, hsearch, hiff.trans ?_⟩
          simp [hreference, hnot]
    · rw [if_neg hreference]
      by_cases hquest : hasQuestForItem item.itemId = true
      · rw [if_pos hquest]
        exact ⟨true, rfl, iff_of_true rfl (Or.inr (Or.inl (Or.inl ⟨hreference, hquest⟩)))⟩
      · rw [if_neg hquest]
        refine ⟨foundRest, hsearch, hiff.trans ?_⟩
        simp [hreference, hquest]

theorem hasQuestDropForPlayer_answers_of_group (hgroupId : groupId ≠ 0) :
    Answers (fun fuel => template.hasQuestDropForPlayer store hasQuestForItem fuel groupId)
      (Encounters store (fun item => hasQuestForItem item.itemId = true) groupId template) := by
  refine enough_succ ⟨0, fun fuel _ => ⟨_, if_pos hgroupId, ?_⟩⟩
  unfold Encounters
  rw [mayDrop_group_iff hgroupId, Option.any_eq_true]
  exact exists_congr fun group => and_congr_right fun _ => hasQuestDropForPlayer_group_iff group

/-- A template whose references are searched right is searched right, in its own store. -/
theorem hasQuestDropForPlayer_answers
    (hnext : ∀ item ∈ template.entries, item.mincountOrRef < 0 → item.group = 0 →
      ∀ referenced, store item.referenceId = some referenced →
        Answers (fun fuel => referenced.hasQuestDropForPlayer store hasQuestForItem fuel 0)
          (Encounters store (fun item => hasQuestForItem item.itemId = true) 0 referenced)) :
    Answers (fun fuel => template.hasQuestDropForPlayer store hasQuestForItem fuel 0)
      (Encounters store (fun item => hasQuestForItem item.itemId = true) 0 template) := by
  have hentries : ∀ item ∈ template.entries, ∃ enough, ∀ fuel ≥ enough, item.mincountOrRef < 0 →
      ∀ referenced, store item.referenceId = some referenced → ∃ found,
        referenced.hasQuestDropForPlayer store hasQuestForItem fuel item.group = some found ∧
          (found = true ↔ Encounters store (fun item => hasQuestForItem item.itemId = true)
            item.group referenced) := by
    intro item hitem
    by_cases hreference : item.mincountOrRef < 0
    · cases hreferenced : store item.referenceId with
      | none => exact ⟨0, fun _ _ _ _ hsome => nomatch hsome⟩
      | some referenced =>
        have hanswers : Answers (fun fuel =>
            referenced.hasQuestDropForPlayer store hasQuestForItem fuel item.group)
            (Encounters store (fun item => hasQuestForItem item.itemId = true) item.group
              referenced) := by
          by_cases hgroup : item.group = 0
          · rw [hgroup]
            exact hnext item hitem hreference hgroup referenced hreferenced
          · exact hasQuestDropForPlayer_answers_of_group hgroup
        obtain ⟨enough, hfound⟩ := hanswers
        refine ⟨enough, fun fuel hfuel _ other hother => ?_⟩
        cases hother
        exact hfound fuel hfuel
    · exact ⟨0, fun _ _ hnegative => absurd hnegative hreference⟩
  obtain ⟨enough, henough⟩ := enough_forall hentries
  refine enough_succ ⟨enough, fun fuel hfuel => ?_⟩
  dsimp only
  unfold LootTemplate.hasQuestDropForPlayer
  rw [if_neg (not_not.mpr rfl)]
  obtain ⟨found, hfound, hiff⟩ := scanForPlayer_spec
    (template.groups.any (LootTemplate.LootGroup.hasQuestDropForPlayer hasQuestForItem))
    (henough fuel hfuel)
  refine ⟨found, hfound, hiff.trans ?_⟩
  unfold Encounters
  rw [mayDrop_zero_iff, List.any_eq_true]
  simp only [hasQuestDropForPlayer_group_iff]

theorem Acyclic.referenced {referenced : LootTemplate Chance}
    (hacyclic : Acyclic references template) (hitem : item ∈ template.entries)
    (hreference : item.mincountOrRef < 0)
    (hreferenced : references item.referenceId = some referenced) :
    Acyclic references referenced := by
  intro next hnext hnextReference
  refine (hacyclic item hitem hreference).next ⟨next, ?_, hnextReference, rfl⟩
  rwa [LootStore.template_of_some hreferenced]

theorem leadingReference_mem (hleading : leadingReference entries = some item) :
    item ∈ entries ∧ item.mincountOrRef < 0 := by
  induction entries with
  | nil => cases hleading
  | cons first rest ih =>
    unfold leadingReference at hleading
    split at hleading
    next hreference =>
      cases hleading
      exact ⟨List.mem_cons_self, hreference⟩
    · split at hleading
      · cases hleading
      · obtain ⟨hitem, hreference⟩ := ih hleading
        exact ⟨List.mem_cons_of_mem _ hitem, hreference⟩

theorem hasQuestDrop_answers_of_acyclic
    (hleading : ∀ id template, references id = some template → Acyclic references template →
      ∀ item, leadingReference template.entries = some item →
        (MayDropQuestItem references template ↔
          ∃ referenced, references item.referenceId = some referenced ∧
            MayDropQuestItem references referenced))
    {id : UInt32} (hends : Ends (RefersTo references) id)
    (htemplate : references id = some template)
    (hacyclic : Acyclic references template) :
    Answers (fun fuel => template.hasQuestDrop references fuel 0)
      (MayDropQuestItem references template) := by
  induction hends generalizing template with
  | intro id _ ih =>
    cases hfirst : leadingReference template.entries with
    | none => exact hasQuestDrop_answers_of_none hfirst
    | some item =>
      obtain ⟨hitem, hreference⟩ := leadingReference_mem hfirst
      have hrefers : RefersTo references id item.referenceId := by
        refine ⟨item, ?_, hreference, rfl⟩
        rwa [LootStore.template_of_some htemplate]
      refine (hasQuestDrop_answers_of_leading hfirst fun referenced hreferenced => ?_).congr
        (hleading id template htemplate hacyclic item hfirst).symm
      exact ih item.referenceId hrefers hreferenced
        (hacyclic.referenced hitem hreference hreferenced)

theorem hasQuestDropForPlayer_answers_of_ends {id : UInt32} (hends : Ends (SearchRefers store) id)
    (htemplate : store id = some template) :
    Answers (fun fuel => template.hasQuestDropForPlayer store hasQuestForItem fuel 0)
      (Encounters store (fun item => hasQuestForItem item.itemId = true) 0 template) := by
  induction hends generalizing template with
  | intro id _ ih =>
    refine hasQuestDropForPlayer_answers fun item hitem hreference hgroup referenced
      hreferenced => ih item.referenceId ⟨item, ?_, hreference, hgroup, rfl, ?_⟩ hreferenced
    · rwa [LootStore.template_of_some htemplate]
    · rw [hreferenced]
      rfl

/-- For all players the two sets of items are to be compared. -/
theorem encounters_iff_mayDropForPlayer
    (hsame : ∀ itemId, Encounters store (fun item => item.itemId = itemId) 0 template ↔
      MayDrop references LootStoreItem.IsReference
        (fun item => item.currency = false ∧ item.itemId = itemId) 0 template) :
    Encounters store (fun item => hasQuestForItem item.itemId = true) 0 template ↔
      MayDropForPlayer references hasQuestForItem template := by
  have hwanted : (fun item : LootStoreItem Chance => hasQuestForItem item.itemId = true) =
      fun item => ∃ kind : { itemId // hasQuestForItem itemId = true }, item.itemId = kind.1 := by
    funext item
    simp
  have hitem : (fun item : LootStoreItem Chance =>
        item.currency = false ∧ hasQuestForItem item.itemId = true) =
      fun item => ∃ kind : { itemId // hasQuestForItem itemId = true },
        item.currency = false ∧ item.itemId = kind.1 := by
    funext item
    simp
  unfold Encounters MayDropForPlayer
  rw [hwanted, hitem, mayDrop_exists_iff, mayDrop_exists_iff]
  exact exists_congr fun kind => hsame kind

/-! ## All tables -/

theorem questDropsExact_iff (stores : LootStores Chance) :
    QuestDropsExact stores ↔
      ∀ name id template, stores name id = some template → Acyclic (stores .reference) template →
        Searchable (stores .reference) (stores name) id template := by
  constructor
  · intro hexact name id template htemplate hacyclic
    obtain ⟨hquest, hplayer⟩ := hexact name id template htemplate hacyclic
    have hends : Ends (SearchRefers (stores name)) id := by
      refine ends_of_hasQuestDropForPlayer_returns ?_
      have hreturns := (hplayer fun _ => false).returns
      rwa [← LootStore.template_of_some htemplate] at hreturns
    refine ⟨fun item hleading => ?_, meetsNoCycle_iff_ends.mpr hends, fun itemId => ?_⟩
    · obtain ⟨hitem, hreference⟩ := leadingReference_mem hleading
      refine hquest.iff (hasQuestDrop_answers_of_leading hleading fun referenced hreferenced => ?_)
      exact (hexact .reference _ referenced hreferenced
        (hacyclic.referenced hitem hreference hreferenced)).1
    · -- a player with a quest for one item only
      have hiff := (hasQuestDropForPlayer_answers_of_ends hends htemplate).iff
        (hplayer fun other => other = itemId)
      unfold MayDropForPlayer at hiff
      simpa only [decide_eq_true_eq] using hiff
  · intro hsearchable name id template htemplate hacyclic
    have hright := hsearchable name id template htemplate hacyclic
    refine ⟨?_, fun hasQuestForItem => ?_⟩
    · cases hleading : leadingReference template.entries with
      | none => exact hasQuestDrop_answers_of_none hleading
      | some item =>
        obtain ⟨hitem, hreference⟩ := leadingReference_mem hleading
        refine (hasQuestDrop_answers_of_leading hleading fun referenced hreferenced => ?_).congr
          (hright.leading item hleading).symm
        exact hasQuestDrop_answers_of_acyclic
          (fun id template htemplate hacyclic =>
            (hsearchable .reference id template htemplate hacyclic).leading)
          (meetsNoCycle_iff_ends.mp (hacyclic item hitem hreference)) hreferenced
          (hacyclic.referenced hitem hreference hreferenced)
    · exact (hasQuestDropForPlayer_answers_of_ends (meetsNoCycle_iff_ends.mp hright.meetsNoCycle)
        htemplate).congr (encounters_iff_mayDropForPlayer hright.sameItems)

end

/-- For all loot tables: the searches are exact for the templates with acyclic references if and
only if each of these is searchable. -/
theorem lootTables_questDropsExact_iff (floats : Floats Chance) (items : ItemStores)
    (rows : LootStoreName → List (LootRow Chance)) :
    QuestDropsExact (fun name => loadLootTable floats items (rows name)) ↔
      ∀ name id template, loadLootTable floats items (rows name) id = some template →
        Acyclic (loadLootTable floats items (rows .reference)) template →
          Searchable (loadLootTable floats items (rows .reference))
            (loadLootTable floats items (rows name)) id template :=
  questDropsExact_iff _

/-- Chances in whole percent; negative ones are for quests. -/
def signedPercent : Floats Int where
  fabs := fun chance => chance.natAbs
  negative := fun chance => chance < 0
  isZero := fun chance => chance = 0
  isLow := fun _ => false

def ungroupedRow (entry : UInt32) (item : Int32) (chanceOrQuestChance : Int)
    (mincountOrRef : Int32) : LootRow Int where
  entry := entry
  item := item
  chanceOrQuestChance := chanceOrQuestChance
  lootmode := 1
  groupid := 0
  mincountOrRef := mincountOrRef
  maxcount := 1

/-- An object with a quest item behind a reference to a template that has none. -/
def hiddenQuestRows : LootStoreName → List (LootRow Int)
  | .gameobject => [ungroupedRow 1 7 100 (-10), ungroupedRow 1 5 (-100) 1]
  | .reference => [ungroupedRow 10 6 100 1]
  | _ => []

/-- They are loaded, and the search does not get to the quest item. -/
theorem not_questDropsExact_hiddenQuestRows :
    ¬ QuestDropsExact (fun name =>
      loadLootTable signedPercent ⟨fun _ => true, fun _ => true⟩ (hiddenQuestRows name)) := by
  intro hexact
  have hnone : ∀ second, ¬ RefersTo (loadLootTable signedPercent ⟨fun _ => true, fun _ => true⟩
      (hiddenQuestRows .reference)) 10 second := by
    rintro second ⟨item, hitem, hreference, -⟩
    cases List.mem_singleton.mp hitem
    exact absurd hreference (by decide)
  have hacyclic : Acyclic (loadLootTable signedPercent ⟨fun _ => true, fun _ => true⟩
      (hiddenQuestRows .reference)) ⟨[(ungroupedRow 1 7 100 (-10)).storeItem signedPercent,
        (ungroupedRow 1 5 (-100) 1).storeItem signedPercent], []⟩ := by
    intro item hitem hreference
    rcases List.mem_cons.mp hitem with rfl | hlast
    · exact meetsNoCycle_iff_ends.mpr (Acc.intro 10 fun second hrefers =>
        absurd hrefers (hnone second))
    · cases List.mem_singleton.mp hlast
      exact absurd hreference (by decide)
  obtain ⟨⟨enough, hfound⟩, -⟩ := hexact .gameobject 1 _ rfl hacyclic
  obtain ⟨found, hsearch, hiff⟩ := hfound (enough + 2) (by omega)
  have hfalse : some false = some found := hsearch
  cases hfalse
  refine Bool.false_ne_true (hiff.mpr ?_)
  exact .plain (List.mem_cons_of_mem _ List.mem_cons_self)
    (fun hreference => absurd hreference.1 (by decide)) (by decide)

end MopServer.Loots
