import MopServer.Conditions.SearcherMask

/-! # Loading the reference templates

The rows of `conditions` are taken one by one: a row that refers to a template is kept whatever
the template holds, and whether there is one.  Only a row of a template that refers to that same
template is skipped, so nothing keeps two templates from referring to each other.
-/

namespace MopServer.Conditions

open MopServer.Foundation

def ConditionTypes.values : List ConditionTypes :=
  [.none, .aura, .item, .itemEquipped, .zoneid, .reputationRank, .team, .skill, .questrewarded,
    .questtaken, .drunkenstate, .worldState, .activeEvent, .instanceData, .questNone, .unitClass,
    .race, .achievement, .title, .spawnmask, .gender, .unused21, .mapid, .areaid, .creatureType,
    .spell, .phasemask, .level, .questComplete, .nearCreature, .nearGameobject, .objectEntry,
    .typeMask, .relationTo, .reactionTo, .distanceTo, .alive, .hpVal, .hpPct]

instance (type : ConditionTypes) (value1 value2 value3 : UInt32) :
    Decidable (type.Accepts value1 value2 value3) := by
  cases type <;> dsimp only [ConditionTypes.Accepts] <;> infer_instance

/-- A row of `conditions`, with what the templates are made of. -/
structure ConditionRow where
  sourceTypeOrReferenceId : Int32
  elseGroup : UInt32
  conditionTypeOrReference : Int32
  conditionTarget : UInt8
  conditionValue1 : UInt32
  conditionValue2 : UInt32
  conditionValue3 : UInt32
  negativeCondition : Bool
  deriving DecidableEq

namespace ConditionRow

/-- The template a row belongs to, or refers to. -/
def templateId (value : Int32) : UInt32 := value.abs.toUInt32

/-- What `isConditionTypeValid` demands of a value that names a target.  A row of a template has
one target, so that there is no other one to name. -/
def NamesOtherTarget (type : ConditionTypes) (row : ConditionRow) : Prop :=
  type = .relationTo ∨ type = .reactionTo ∨ type = .distanceTo →
    row.conditionValue1 < 1 ∧ row.conditionValue1 ≠ row.conditionTarget.toUInt32

instance (type : ConditionTypes) (row : ConditionRow) : Decidable (row.NamesOtherTarget type) :=
  inferInstanceAs (Decidable (_ → _))

variable (known : ConditionRow → Bool) (row : ConditionRow)

/-- A plain row of a template that `isConditionTypeValid` accepts.  The rest of its checks, most
of them against other tables, is `known`. -/
def validCondition? : Option Condition :=
  match ConditionTypes.values[row.conditionTypeOrReference.toNatClampNeg]? with
  | none => none
  | some type =>
    if type = .none ∨ type = .unused21 ∨ row.conditionTarget ≠ 0 ∨
        ¬ row.NamesOtherTarget type ∨ known row = false then none
    else if haccepted : type.Accepts row.conditionValue1 row.conditionValue2
        row.conditionValue3 then
      some
        { elseGroup := row.elseGroup
          conditionType := type
          conditionValue1 := row.conditionValue1
          conditionValue2 := row.conditionValue2
          conditionValue3 := row.conditionValue3
          referenceId := 0
          conditionTarget := firstTarget
          negativeCondition := row.negativeCondition
          accepted := haccepted }
    else none

/-- A row that refers to a template.  Its target is never looked at. -/
def reference : Condition where
  elseGroup := row.elseGroup
  conditionType := .none
  conditionValue1 := row.conditionValue1
  conditionValue2 := row.conditionValue2
  conditionValue3 := row.conditionValue3
  referenceId := templateId row.conditionTypeOrReference
  conditionTarget := firstTarget
  negativeCondition := row.negativeCondition
  accepted := trivial

def condition? : Option Condition :=
  if row.conditionTypeOrReference < 0 then
    if row.conditionTypeOrReference = row.sourceTypeOrReferenceId then none
    else some row.reference
  else row.validCondition? known

end ConditionRow

variable (store : ReferenceStore)

/-- `ConditionReferenceStore[id].push_back(condition)`. -/
def ReferenceStore.push (id : UInt32) (condition : Condition) : ReferenceStore :=
  fun other => if other = id then some ((store id).getD [] ++ [condition]) else store other

variable (known : ConditionRow → Bool)

/-- The body of the loop of `LoadConditions`, with what goes into the reference store. -/
def loadCondition (store : ReferenceStore) (row : ConditionRow) : ReferenceStore :=
  match row.condition? known with
  | none => store
  | some condition =>
    if row.sourceTypeOrReferenceId < 0 then
      store.push (ConditionRow.templateId row.sourceTypeOrReferenceId) condition
    else store

variable (rows : List ConditionRow)

/-- `LoadConditions`. -/
def loadConditions : ReferenceStore :=
  rows.foldl (loadCondition known) fun _ => none

/-- A row of the first template that refers to the second one, and not to the one it belongs
to. -/
def RowRefers (first second : UInt32) : Prop :=
  ∃ row ∈ rows, row.sourceTypeOrReferenceId < 0 ∧ row.conditionTypeOrReference < 0 ∧
    row.conditionTypeOrReference ≠ row.sourceTypeOrReferenceId ∧
      ConditionRow.templateId row.sourceTypeOrReferenceId = first ∧
        ConditionRow.templateId row.conditionTypeOrReference = second

/-- With enough fuel a list has a mask, or an assertion fails. -/
def MaskReturns (rows : List Condition) : Prop :=
  ∃ enough, ∀ fuel ≥ enough, getSearcherTypeMaskForConditionList store fuel rows ≠ .error .noFuel

/-- Every call of the two functions comes to an end. -/
structure AlwaysReturns (store : ReferenceStore) : Prop where
  isObjectMeetToConditionList : ∀ (Object : Type) (_ : DecidableEq Object) (world : World Object)
    (sourceInfo : ConditionSourceInfo Object) (rows : List Condition),
      ∃ enough, ∀ fuel ≥ enough,
        (isObjectMeetToConditionList world store fuel sourceInfo rows).isSome = true
  getSearcherTypeMaskForConditionList : ∀ rows : List Condition, MaskReturns store rows

section

variable {known : ConditionRow → Bool} {store : ReferenceStore} {condition member : Condition}
  {id : UInt32} (rows : List ConditionRow)

theorem ReferenceStore.mem_push {other : UInt32} :
    (∃ rows, store.push id condition other = some rows ∧ member ∈ rows) ↔
      (∃ rows, store other = some rows ∧ member ∈ rows) ∨ other = id ∧ member = condition := by
  unfold ReferenceStore.push
  by_cases hid : other = id
  · subst hid
    rw [if_pos rfl]
    cases store other with
    | none => simp
    | some rows => simp
  · rw [if_neg hid]
    simp [hid]

theorem mem_foldl_loadCondition :
    (∃ template, rows.foldl (loadCondition known) store id = some template ∧ member ∈ template) ↔
      (∃ template, store id = some template ∧ member ∈ template) ∨
        ∃ row ∈ rows, row.sourceTypeOrReferenceId < 0 ∧
          ConditionRow.templateId row.sourceTypeOrReferenceId = id ∧
            row.condition? known = some member := by
  induction rows generalizing store with
  | nil => simp
  | cons row rest ih =>
    rw [List.foldl_cons, ih]
    have hrow : (∃ template, loadCondition known store row id = some template ∧
          member ∈ template) ↔
        (∃ template, store id = some template ∧ member ∈ template) ∨
          row.sourceTypeOrReferenceId < 0 ∧
            ConditionRow.templateId row.sourceTypeOrReferenceId = id ∧
              row.condition? known = some member := by
      unfold loadCondition
      cases row.condition? known with
      | none => simp
      | some condition =>
        split
        next hsource =>
          rw [ReferenceStore.mem_push]
          simp [hsource, eq_comm]
        next hsource => simp [hsource]
    rw [hrow, or_assoc]
    simp

theorem mem_loadConditions {rows : List ConditionRow} :
    (∃ template, loadConditions known rows id = some template ∧ member ∈ template) ↔
      ∃ row ∈ rows, row.sourceTypeOrReferenceId < 0 ∧
        ConditionRow.templateId row.sourceTypeOrReferenceId = id ∧
          row.condition? known = some member := by
  unfold loadConditions
  rw [mem_foldl_loadCondition]
  simp

theorem ConditionRow.condition?_spec {row : ConditionRow}
    (hcondition : row.condition? known = some condition) :
    row.conditionTypeOrReference < 0 ∧
        row.conditionTypeOrReference ≠ row.sourceTypeOrReferenceId ∧
          condition = row.reference ∨
      condition.referenceId = 0 := by
  unfold ConditionRow.condition? at hcondition
  split at hcondition
  next hreference =>
    split at hcondition
    · cases hcondition
    next hself => exact Or.inl ⟨hreference, hself, (Option.some.inj hcondition).symm⟩
  · unfold ConditionRow.validCondition? at hcondition
    right
    split at hcondition
    · cases hcondition
    · split at hcondition
      · cases hcondition
      · split at hcondition
        · cases hcondition
          rfl
        · cases hcondition

theorem ConditionRow.templateId_ne_zero {value : Int32} (hnegative : value < 0) :
    ConditionRow.templateId value ≠ 0 := by
  intro hzero
  have habs : value.toBitVec.abs.toNat = 0 := congrArg UInt32.toNat hzero
  rw [BitVec.toNat_abs] at habs
  split at habs
  · omega
  · have heq : value = 0 := Int32.toBitVec_inj.mp (BitVec.eq_of_toNat_eq habs)
    rw [heq] at hnegative
    exact absurd hnegative (by decide)

/-- The references among the templates are those of the rows. -/
theorem refers_loadConditions (first second : UInt32) :
    Refers (loadConditions known rows) first second ↔ RowRefers rows first second := by
  constructor
  · rintro ⟨template, htemplate, condition, hmember, hreference, rfl⟩
    obtain ⟨row, hrow, hsource, hid, hcondition⟩ :=
      mem_loadConditions.mp ⟨template, htemplate, hmember⟩
    rcases ConditionRow.condition?_spec hcondition with ⟨hnegative, hself, rfl⟩ | hplain
    · exact ⟨row, hrow, hsource, hnegative, hself, hid, rfl⟩
    · exact absurd hplain hreference
  · rintro ⟨row, hrow, hsource, hnegative, hself, hid, rfl⟩
    have hcondition : row.condition? known = some row.reference := by
      rw [ConditionRow.condition?, if_pos hnegative, if_neg hself]
    obtain ⟨template, htemplate, hmember⟩ :=
      mem_loadConditions.mpr ⟨row, hrow, hsource, hid, hcondition⟩
    exact ⟨template, htemplate, row.reference, hmember,
      ConditionRow.templateId_ne_zero hnegative, rfl⟩

theorem acyclic_loadConditions_iff :
    Acyclic (loadConditions known rows) ↔ CycleFree (RowRefers rows) := by
  have hsame : Refers (loadConditions known rows) = RowRefers rows :=
    funext fun first => funext fun second => propext (refers_loadConditions rows first second)
  unfold Acyclic CycleFree
  rw [hsame]

/-! ## Without a cycle every call returns -/

variable {evaluate : List Condition → Except MaskError UInt32}

theorem narrowByRow_ne_noFuel {groups : GroupMasks}
    (hrow : rowMask store evaluate condition ≠ .error .noFuel) :
    narrowByRow store evaluate groups condition ≠ .error .noFuel := by
  unfold narrowByRow
  split
  · nofun
  · split
    · nofun
    · cases hmask : rowMask store evaluate condition with
      | ok mask => nofun
      | error error =>
        intro heq
        rw [hmask] at hrow
        exact hrow (congrArg _ (Except.error.inj heq))

variable {rows : List Condition}

theorem narrowByRows_ne_noFuel
    (hrows : ∀ condition ∈ rows, rowMask store evaluate condition ≠ .error .noFuel)
    (groups : GroupMasks) : rows.foldlM (narrowByRow store evaluate) groups ≠ .error .noFuel := by
  induction rows generalizing groups with
  | nil => nofun
  | cons condition rest ih =>
    rw [List.foldlM_cons]
    have hfirst : narrowByRow store evaluate groups condition ≠ .error .noFuel :=
      narrowByRow_ne_noFuel (hrows condition List.mem_cons_self)
    cases hnarrow : narrowByRow store evaluate groups condition with
    | ok after => exact ih (fun other hother => hrows other (List.mem_cons_of_mem _ hother)) after
    | error error =>
      intro heq
      rw [hnarrow] at hfirst
      exact hfirst heq

theorem maskReturns_of_templates (htemplates : ∀ condition ∈ rows, condition.referenceId ≠ 0 →
      ∀ template, store condition.referenceId = some template → MaskReturns store template) :
    MaskReturns store rows := by
  -- a row without a reference needs no fuel, and one to a missing template neither
  have hrows : ∀ condition ∈ rows, ∃ enough, ∀ fuel ≥ enough,
      rowMask store (getSearcherTypeMaskForConditionList store fuel) condition ≠
        .error .noFuel := by
    intro condition hcondition
    unfold rowMask
    by_cases hreference : condition.referenceId = 0
    · refine ⟨0, fun fuel _ => ?_⟩
      rw [if_neg (not_not.mpr hreference)]
      intro heq
      split at heq
      · cases heq
      · cases heq
    · simp only [if_pos hreference]
      cases htemplate : store condition.referenceId with
      | none => exact ⟨0, fun _ _ heq => by cases heq⟩
      | some template => exact htemplates condition hcondition hreference template htemplate
  obtain ⟨enough, hrow⟩ := enough_forall hrows
  refine enough_succ ⟨enough, fun fuel hfuel => ?_⟩
  rw [getSearcherTypeMaskForConditionList]
  split
  · intro heq
    cases heq
  · have hfold : rows.foldlM
        (narrowByRow store (getSearcherTypeMaskForConditionList store fuel)) Table.empty ≠
          .error .noFuel := narrowByRows_ne_noFuel (hrow fuel hfuel) Table.empty
    cases hresult : rows.foldlM
        (narrowByRow store (getSearcherTypeMaskForConditionList store fuel)) Table.empty with
    | ok groups =>
      intro heq
      cases heq
    | error error =>
      intro heq
      rw [hresult] at hfold
      exact hfold (congrArg _ (Except.error.inj heq))

theorem template_maskReturns (hacyclic : Acyclic store) (id : UInt32) :
    ∀ template, store id = some template → MaskReturns store template := by
  induction id using (wellFounded_of_acyclic hacyclic).induction with
  | _ id ih =>
    intro template htemplate
    exact maskReturns_of_templates fun condition hcondition hreference other hother =>
      ih condition.referenceId ⟨template, htemplate, condition, hcondition, hreference, rfl⟩
        other hother

theorem alwaysReturns_of_acyclic (hacyclic : Acyclic store) : AlwaysReturns store where
  isObjectMeetToConditionList := by
    intro Object _ world sourceInfo rows
    have hsettled : Settled world store sourceInfo.conditionTargets rows :=
      list_settled fun condition _ _ template htemplate =>
        template_settled hacyclic condition.referenceId template htemplate
    obtain ⟨enough, value, -, hlist⟩ := hsettled
    refine ⟨enough, fun fuel hfuel => ?_⟩
    obtain ⟨after, hresult, -⟩ := hlist fuel hfuel sourceInfo rfl
    rw [hresult, Option.isSome_some]
  getSearcherTypeMaskForConditionList := fun rows =>
    maskReturns_of_templates fun condition _ _ template htemplate =>
      template_maskReturns hacyclic condition.referenceId template htemplate

/-! ## References that lead in a circle -/

/-- A template whose first row refers to another one. -/
def LeadsTo (store : ReferenceStore) (first second : UInt32) : Prop :=
  ∃ condition rest, store first = some (condition :: rest) ∧ condition.referenceId ≠ 0 ∧
    condition.referenceId = second ∧ (store second).isSome = true

/-- The template of an id, without rows if there is none. -/
def ReferenceStore.template (store : ReferenceStore) (id : UInt32) : List Condition :=
  (store id).getD []

theorem isLoaded_of_reference (hreference : condition.referenceId ≠ 0) :
    condition.isLoaded = true := by
  unfold Condition.isLoaded
  rw [decide_eq_true hreference, Bool.or_true]

theorem ReferenceStore.eq_some_template (hsome : (store id).isSome = true) :
    store id = some (store.template id) := by
  obtain ⟨rows, hrows⟩ := Option.isSome_iff_exists.mp hsome
  unfold ReferenceStore.template
  rw [hrows, Option.getD_some]

/-- An evaluation that begins with another one does not return before it. -/
theorem isObjectMeetToConditionList_eq_none {Object : Type} [DecidableEq Object]
    {world : World Object} {sourceInfo : ConditionSourceInfo Object} {fuel : Nat}
    {first second : UInt32} (hleads : LeadsTo store first second)
    (hnone : isObjectMeetToConditionList world store fuel sourceInfo (store.template second) =
      none) :
    isObjectMeetToConditionList world store (fuel + 1) sourceInfo (store.template first) =
      none := by
  obtain ⟨condition, rest, hfirst, hreference, rfl, hsome⟩ := hleads
  have hvisit : visitRow world store (isObjectMeetToConditionList world store fuel)
      (Table.empty, sourceInfo) condition = none := by
    unfold visitRow checkRow
    rw [isLoaded_of_reference hreference, Bool.not_true, if_neg Bool.false_ne_true, if_neg nofun,
      if_pos hreference, ReferenceStore.eq_some_template hsome]
    dsimp only
    rw [hnone]
    rfl
  unfold ReferenceStore.template
  rw [hfirst, Option.getD_some, isObjectMeetToConditionList, List.foldlM_cons, hvisit]
  rfl

theorem getSearcherTypeMaskForConditionList_eq_noFuel {fuel : Nat} {first second : UInt32}
    (hleads : LeadsTo store first second)
    (hnone : getSearcherTypeMaskForConditionList store fuel (store.template second) =
      .error .noFuel) :
    getSearcherTypeMaskForConditionList store (fuel + 1) (store.template first) =
      .error .noFuel := by
  obtain ⟨condition, rest, hfirst, hreference, rfl, hsome⟩ := hleads
  have hnarrow : narrowByRow store (getSearcherTypeMaskForConditionList store fuel) Table.empty
      condition = .error .noFuel := by
    unfold narrowByRow rowMask
    rw [isLoaded_of_reference hreference, Bool.not_true, if_neg Bool.false_ne_true, if_neg nofun,
      if_pos hreference, ReferenceStore.eq_some_template hsome]
    dsimp only
    rw [hnone]
    rfl
  unfold ReferenceStore.template
  rw [hfirst, Option.getD_some, getSearcherTypeMaskForConditionList, List.isEmpty_cons,
    if_neg Bool.false_ne_true, List.foldlM_cons, hnarrow]
  rfl

theorem not_returns_of_leadsTo (hcycle : Relation.TransGen (LeadsTo store) id id) (fuel : Nat) :
    (∀ (Object : Type) (_ : DecidableEq Object) (world : World Object)
      (sourceInfo : ConditionSourceInfo Object),
        isObjectMeetToConditionList world store fuel sourceInfo (store.template id) = none) ∧
      getSearcherTypeMaskForConditionList store fuel (store.template id) = .error .noFuel := by
  have hendless : ¬ Ends (LeadsTo store) id := fun hends => hends.not_cycle hcycle
  constructor
  · intro Object _ world sourceInfo
    exact stuck_of_not_ends
      (fun fuel id =>
        isObjectMeetToConditionList world store fuel sourceInfo (store.template id) = none)
      (fun _ => rfl) (fun _ _ _ hleads => isObjectMeetToConditionList_eq_none hleads) fuel hendless
  · exact stuck_of_not_ends
      (fun fuel id =>
        getSearcherTypeMaskForConditionList store fuel (store.template id) = .error .noFuel)
      (fun _ => rfl) (fun _ _ _ hleads => getSearcherTypeMaskForConditionList_eq_noFuel hleads)
      fuel hendless

/-- After loading, the templates refer to each other without a cycle and every call returns if
and only if the rows do not form a cycle. -/
theorem loadConditions_alwaysReturns_iff (known : ConditionRow → Bool) (rows : List ConditionRow) :
    AlwaysReturns (loadConditions known rows) ∧ Acyclic (loadConditions known rows) ↔
      CycleFree (RowRefers rows) := by
  have hacyclic_iff : Acyclic (loadConditions known rows) ↔ CycleFree (RowRefers rows) :=
    acyclic_loadConditions_iff rows
  rw [← hacyclic_iff]
  exact ⟨And.right, fun hacyclic => ⟨alwaysReturns_of_acyclic hacyclic, hacyclic⟩⟩

end

/-- A row of a template that refers to another one. -/
def crossRow (source target : Int32) : ConditionRow where
  sourceTypeOrReferenceId := source
  elseGroup := 0
  conditionTypeOrReference := target
  conditionTarget := 0
  conditionValue1 := 0
  conditionValue2 := 0
  conditionValue3 := 0
  negativeCondition := false

/-- Two templates that refer to each other are loaded, and no call about them returns. -/
theorem not_alwaysReturns_crossRows :
    ¬ (AlwaysReturns (loadConditions (fun _ => true) [crossRow (-1) (-2), crossRow (-2) (-1)]) ∧
      Acyclic (loadConditions (fun _ => true) [crossRow (-1) (-2), crossRow (-2) (-1)])) := by
  rintro ⟨hreturns, -⟩
  have hfirst : LeadsTo
      (loadConditions (fun _ => true) [crossRow (-1) (-2), crossRow (-2) (-1)]) 1 2 :=
    ⟨(crossRow (-1) (-2)).reference, [], rfl, by decide, by decide, rfl⟩
  have hsecond : LeadsTo
      (loadConditions (fun _ => true) [crossRow (-1) (-2), crossRow (-2) (-1)]) 2 1 :=
    ⟨(crossRow (-2) (-1)).reference, [], rfl, by decide, by decide, rfl⟩
  obtain ⟨enough, hmask⟩ := hreturns.getSearcherTypeMaskForConditionList
    ((loadConditions (fun _ => true) [crossRow (-1) (-2), crossRow (-2) (-1)]).template 1)
  exact hmask enough (le_refl enough)
    (not_returns_of_leadsTo (Relation.TransGen.tail (.single hfirst) hsecond) enough).2

end MopServer.Conditions
