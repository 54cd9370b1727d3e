import MopServer.Conditions.Evaluation
import MopServer.Foundation.MaskWord

/-! # The types of objects a search looks at

Before a search through the grid asks the conditions of a list of every object, the list is
reduced to a mask of the types of objects that can meet it: the rows of a group narrow its mask
down, and the masks of the groups are put together.
-/

namespace MopServer.Conditions

open MopServer.Foundation

/-- `GRID_MAP_TYPE_MASK_CREATURE`, and the masks of the other types. -/
def gridMapTypeMaskCreature : UInt32 := 0x02
def gridMapTypeMaskPlayer : UInt32 := 0x10
def gridMapTypeMaskGameobject : UInt32 := 0x08
def gridMapTypeMaskCorpse : UInt32 := 0x01
def gridMapTypeMaskAreatrigger : UInt32 := 0x20
def gridMapTypeMaskAll : UInt32 := 0x3F

def objectEntryMask (value : UInt32) : UInt32 :=
  if value = 3 then gridMapTypeMaskCreature
  else if value = 4 then gridMapTypeMaskPlayer
  else if value = 5 then gridMapTypeMaskGameobject
  else if value = 7 then gridMapTypeMaskCorpse
  else if value = 8 then gridMapTypeMaskAreatrigger
  else 0

def typeMaskMask (value : UInt32) : UInt32 :=
  (if value &&& 0x08 ≠ 0 then gridMapTypeMaskCreature ||| gridMapTypeMaskPlayer else 0) |||
    (if value &&& 0x10 ≠ 0 then gridMapTypeMaskPlayer else 0) |||
    (if value &&& 0x20 ≠ 0 then gridMapTypeMaskGameobject else 0) |||
    (if value &&& 0x80 ≠ 0 then gridMapTypeMaskCorpse else 0) |||
    (if value &&& 0x100 ≠ 0 then gridMapTypeMaskAreatrigger else 0)

/-- The `switch` of `GetSearcherTypeMaskForCondition`; a type without a case is excluded by an
assertion. -/
def Condition.typeMask (condition : Condition) : Option UInt32 :=
  match condition.conditionType with
  | .none | .zoneid | .activeEvent | .instanceData | .mapid | .areaid | .nearCreature
  | .nearGameobject | .distanceTo | .worldState | .phasemask | .spawnmask =>
    some gridMapTypeMaskAll
  | .aura | .unitClass | .race | .level | .relationTo | .reactionTo | .alive | .hpVal | .hpPct =>
    some (gridMapTypeMaskCreature ||| gridMapTypeMaskPlayer)
  | .item | .itemEquipped | .reputationRank | .achievement | .team | .gender | .skill
  | .questrewarded | .questtaken | .questComplete | .questNone | .spell | .drunkenstate
  | .title => some gridMapTypeMaskPlayer
  -- the case of an entry has no `break`
  | .objectEntry =>
    some (objectEntryMask condition.conditionValue1 ||| typeMaskMask condition.conditionValue1)
  | .typeMask => some (typeMaskMask condition.conditionValue1)
  | .creatureType => some gridMapTypeMaskCreature
  | .unused21 => none

/-- `GetSearcherTypeMaskForCondition`. -/
def Condition.getSearcherTypeMaskForCondition (condition : Condition) : Option UInt32 :=
  if condition.negativeCondition then some gridMapTypeMaskAll else condition.typeMask

/-- Why there is no mask. -/
inductive MaskError where
  | noFuel
  | failedAssertion
  deriving DecidableEq, Repr

/-- An entry of `elseGroupSearcherTypeMasks`. -/
structure GroupMask where
  elseGroup : UInt32
  mask : UInt32

instance : Keyed GroupMask UInt32 := ⟨GroupMask.elseGroup⟩

abbrev GroupMasks := Table GroupMask

namespace GroupMasks

variable (groups : GroupMasks)

def mask? (groups : GroupMasks) (elseGroup : UInt32) : Option UInt32 :=
  (groups.get? elseGroup).map GroupMask.mask

/-- The mask of a group is narrowed down; one that is not filled yet is the widest. -/
def narrow (groups : GroupMasks) (elseGroup mask : UInt32) : GroupMasks :=
  groups.insert ⟨elseGroup, (groups.mask? elseGroup).getD gridMapTypeMaskAll &&& mask⟩
    (Rearrangement.keep GroupMask)

/-- All masks put together. -/
def union (groups : GroupMasks) : UInt32 :=
  groups.rows.foldl (fun mask group => mask ||| group.mask) 0

theorem mask?_narrow (elseGroup other mask : UInt32) :
    (groups.narrow elseGroup mask).mask? other =
      if other = elseGroup then
        some ((groups.mask? elseGroup).getD gridMapTypeMaskAll &&& mask)
      else groups.mask? other := by
  have hget : (groups.narrow elseGroup mask).get? other =
      if other = elseGroup then
        some ⟨elseGroup, (groups.mask? elseGroup).getD gridMapTypeMaskAll &&& mask⟩
      else groups.get? other := Table.get?_insert _ _ _ _
  unfold mask? at hget ⊢
  rw [hget]
  split <;> rfl

theorem isSet_union_iff {index : Nat} (hindex : index < 32) :
    isSet groups.union index = true ↔
      ∃ elseGroup mask, groups.mask? elseGroup = some mask ∧ isSet mask index = true := by
  have hfold : ∀ (rows : List GroupMask) (start : UInt32),
      isSet (rows.foldl (fun mask group => mask ||| group.mask) start) index =
        (isSet start index || rows.any fun group => isSet group.mask index) := by
    intro rows
    induction rows with
    | nil => simp
    | cons group rest ih =>
      intro start
      rw [List.foldl_cons, ih, isSet_lor _ _ hindex, List.any_cons, Bool.or_assoc]
  unfold union
  rw [hfold, isSet_zero hindex, Bool.false_or, List.any_eq_true]
  unfold mask?
  constructor
  · rintro ⟨group, hgroup, hset⟩
    have hget : groups.get? group.elseGroup = some group := Table.get?_key hgroup
    exact ⟨group.elseGroup, group.mask, by rw [hget, Option.map_some], hset⟩
  · rintro ⟨elseGroup, mask, hmask, hset⟩
    obtain ⟨group, hget, rfl⟩ := Option.map_eq_some_iff.mp hmask
    exact ⟨group, (Table.get?_eq_some_iff.mp hget).1, hset⟩

end GroupMasks

variable (store : ReferenceStore) (evaluate : List Condition → Except MaskError UInt32)

/-- The mask of one row; a reference without a template is excluded by an assertion. -/
def rowMask (condition : Condition) : Except MaskError UInt32 :=
  if condition.referenceId ≠ 0 then
    match store condition.referenceId with
    | some rows => evaluate rows
    | none => .error .failedAssertion
  else
    match condition.getSearcherTypeMaskForCondition with
    | some mask => .ok mask
    | none => .error .failedAssertion

/-- The body of the first loop of `GetSearcherTypeMaskForConditionList`. -/
def narrowByRow (groups : GroupMasks) (condition : Condition) : Except MaskError GroupMasks :=
  if !condition.isLoaded then .error .failedAssertion
  else if groups.mask? condition.elseGroup = some 0 then .ok groups
  else (rowMask store evaluate condition).map (groups.narrow condition.elseGroup)

/-- `GetSearcherTypeMaskForConditionList`.  Each level of templates takes one unit of fuel. -/
def getSearcherTypeMaskForConditionList : Nat → List Condition → Except MaskError UInt32
  | 0, _ => .error .noFuel
  | fuel + 1, conditions =>
    if conditions.isEmpty then .ok gridMapTypeMaskAll
    else
      (conditions.foldlM (narrowByRow store (getSearcherTypeMaskForConditionList fuel))
        Table.empty).map GroupMasks.union

section

variable {store} {evaluate : List Condition → Except MaskError UInt32} {value : Condition → UInt32}
  {rows : List Condition}

theorem isSet_gridMapTypeMaskAll {index : Nat} (hindex : index < 6) :
    isSet gridMapTypeMaskAll index = true := by
  revert index
  decide

/-- The masks say of every group and bit what the rows seen so far amount to. -/
def Summarized (value : Condition → UInt32) (seen : List Condition) (groups : GroupMasks) : Prop :=
  ∀ elseGroup index, index < 6 →
    (groups.mask? elseGroup).map (fun mask => isSet mask index) =
      summary (fun condition => isSet (value condition) index) seen elseGroup

theorem narrowByRow_spec {seen : List Condition} {condition : Condition}
    (hloaded : condition.isLoaded = true)
    (hvalue : rowMask store evaluate condition = .ok (value condition)) {groups : GroupMasks}
    (hgroups : Summarized value seen groups) :
    ∃ after, narrowByRow store evaluate groups condition = .ok after ∧
      Summarized value (seen ++ [condition]) after := by
  have hgroup : ∀ elseGroup, inGroup elseGroup condition = true ↔
      elseGroup = condition.elseGroup := by
    intro elseGroup
    simp [inGroup, hloaded, eq_comm]
  unfold narrowByRow
  rw [hloaded, Bool.not_true, if_neg Bool.false_ne_true]
  split
  next hzero =>
    refine ⟨groups, rfl, fun elseGroup index hindex => ?_⟩
    rw [summary_append_singleton]
    simp only [hgroup, ← hgroups elseGroup index hindex]
    split
    next heq =>
      rw [heq, hzero, Option.map_some, isSet_zero (by omega)]
      rfl
    · rfl
  · rw [hvalue]
    refine ⟨_, rfl, fun elseGroup index hindex => ?_⟩
    rw [summary_append_singleton, GroupMasks.mask?_narrow]
    simp only [hgroup, ← hgroups elseGroup index hindex]
    split
    next heq =>
      rw [heq, Option.map_some, isSet_land _ _ (by omega)]
      cases groups.mask? condition.elseGroup with
      | none => rw [Option.getD_none, isSet_gridMapTypeMaskAll hindex]; rfl
      | some mask => rfl
    · rfl

theorem narrowByRows_spec (rows seen : List Condition)
    (hloaded : ∀ condition ∈ rows, condition.isLoaded = true)
    (hvalue : ∀ condition ∈ rows, rowMask store evaluate condition = .ok (value condition))
    (groups : GroupMasks) (hgroups : Summarized value seen groups) :
    ∃ after, rows.foldlM (narrowByRow store evaluate) groups = .ok after ∧
      Summarized value (seen ++ rows) after := by
  induction rows generalizing seen groups with
  | nil => exact ⟨groups, rfl, by rwa [List.append_nil]⟩
  | cons condition rest ih =>
    obtain ⟨middle, hnarrow, hmiddle⟩ := narrowByRow_spec (hloaded condition List.mem_cons_self)
      (hvalue condition List.mem_cons_self) hgroups
    obtain ⟨after, hrest, hafter⟩ := ih (seen ++ [condition])
      (fun other hother => hloaded other (List.mem_cons_of_mem condition hother))
      (fun other hother => hvalue other (List.mem_cons_of_mem condition hother)) middle hmiddle
    refine ⟨after, ?_, ?_⟩
    · rw [List.foldlM_cons, hnarrow]
      exact hrest
    · rwa [List.append_assoc, List.singleton_append] at hafter

theorem getSearcherTypeMaskForConditionList_congr {first second : Nat} (hsame : ∀ condition ∈ rows,
      rowMask store (getSearcherTypeMaskForConditionList store first) condition =
        rowMask store (getSearcherTypeMaskForConditionList store second) condition) :
    getSearcherTypeMaskForConditionList store (first + 1) rows =
      getSearcherTypeMaskForConditionList store (second + 1) rows := by
  have hfold : ∀ groups : GroupMasks,
      rows.foldlM (narrowByRow store (getSearcherTypeMaskForConditionList store first)) groups =
        rows.foldlM (narrowByRow store (getSearcherTypeMaskForConditionList store second))
          groups := by
    induction rows with
    | nil => exact fun _ => rfl
    | cons condition rest ih =>
      intro groups
      have hrow : narrowByRow store (getSearcherTypeMaskForConditionList store first) groups
            condition =
          narrowByRow store (getSearcherTypeMaskForConditionList store second) groups
            condition := by
        unfold narrowByRow
        rw [hsame condition List.mem_cons_self]
      have hrest := ih fun other hother => hsame other (List.mem_cons_of_mem condition hother)
      simp only [List.foldlM_cons, hrow, hrest]
  rw [getSearcherTypeMaskForConditionList, getSearcherTypeMaskForConditionList, hfold]

/-- Rows with masks amount to a list with a mask: it has the bits some group has in all rows. -/
theorem list_mask {fuel : Nat} (hnonempty : rows ≠ [])
    (hloaded : ∀ condition ∈ rows, condition.isLoaded = true) (hvalue : ∀ condition ∈ rows,
      rowMask store (getSearcherTypeMaskForConditionList store fuel) condition =
        .ok (value condition)) :
    ∃ mask, getSearcherTypeMaskForConditionList store (fuel + 1) rows = .ok mask ∧
      ∀ index, index < 6 → (isSet mask index = true ↔ ∃ elseGroup,
        summary (fun condition => isSet (value condition) index) rows elseGroup = some true) := by
  obtain ⟨groups, hgroups, hsummarized⟩ := narrowByRows_spec rows [] hloaded hvalue Table.empty
    fun _ _ _ => rfl
  refine ⟨groups.union, ?_, fun index hindex => ?_⟩
  · rw [getSearcherTypeMaskForConditionList, if_neg (by simpa using hnonempty), hgroups]
    rfl
  · rw [GroupMasks.isSet_union_iff groups (by omega)]
    simp only [List.nil_append] at hsummarized
    refine exists_congr fun elseGroup => ?_
    rw [← hsummarized elseGroup index hindex, Option.map_eq_some_iff]

end

end MopServer.Conditions
