import MopServer.Conditions.SearcherMask

/-! # What a search may leave out

The mask of a list is to contain the type of every object for which the list holds.  It speaks
about the object in the first slot, while a condition may ask something of an object in another
one.
-/

namespace MopServer.Conditions

open MopServer.Foundation

/-- The types of objects a grid holds. -/
inductive ObjectKind where
  | corpse
  | creature
  | dynamicObject
  | gameObject
  | player
  | areaTrigger
  deriving DecidableEq, Repr

namespace ObjectKind

/-- `TypeID`. -/
def typeId : ObjectKind → UInt8
  | .creature => 3
  | .player => 4
  | .gameObject => 5
  | .dynamicObject => 6
  | .corpse => 7
  | .areaTrigger => 8

/-- The type mask of an object, with that of the classes it is derived from. -/
def objectType : ObjectKind → UInt16
  | .creature => 0x0009
  | .player => 0x0019
  | .gameObject => 0x0021
  | .dynamicObject => 0x0041
  | .corpse => 0x0081
  | .areaTrigger => 0x0101

/-- The bit of a `GridMapTypeMask`. -/
def gridIndex : ObjectKind → Nat
  | .corpse => 0
  | .creature => 1
  | .dynamicObject => 2
  | .gameObject => 3
  | .player => 4
  | .areaTrigger => 5

theorem gridIndex_lt (kind : ObjectKind) : kind.gridIndex < 6 := by
  cases kind <;> decide

end ObjectKind

/-- A world whose objects are of the types of the grid, and answer accordingly. -/
structure TypedWorld (Object : Type) extends World Object where
  kind : Object → ObjectKind
  isUnit_eq : ∀ object, isUnit object = (kind object = .creature ∨ kind object = .player : Bool)
  isPlayer_eq : ∀ object, isPlayer object = (kind object = .player : Bool)
  isCreature_eq : ∀ object, isCreature object = (kind object = .creature : Bool)
  getTypeId_eq : ∀ object, getTypeId object = (kind object).typeId
  isType_eq : ∀ object mask, isType object mask = (mask &&& (kind object).objectType ≠ 0 : Bool)

/-- A plain condition as `isConditionTypeValid` accepts it; what it looks up in other tables
is left out. -/
structure Condition.IsValid (condition : Condition) : Prop where
  plain : condition.referenceId = 0
  typed : condition.conditionType ≠ .none ∧ condition.conditionType ≠ .unused21
  objectEntry : condition.conditionType = .objectEntry → condition.conditionValue1 = 3 ∨
    condition.conditionValue1 = 4 ∨ condition.conditionValue1 = 5 ∨ condition.conditionValue1 = 7
  typeMask : condition.conditionType = .typeMask →
    condition.conditionValue1 ≠ 0 ∧ condition.conditionValue1 &&& ~~~0xB8 = 0

variable (condition : Condition)

/-- The condition asks something of the first slot through a value. -/
def Condition.NamesFirst : Prop :=
  (condition.conditionType = .relationTo ∨ condition.conditionType = .reactionTo) ∧
    condition.conditionValue1 = 0

/-- There is a world in which the condition is met. -/
def Condition.Meetable : Prop :=
  ∃ (Object : Type) (_ : DecidableEq Object) (world : TypedWorld Object)
    (targets : Fin maxConditionTargets → Option Object), condition.isMet world.toWorld targets

/-- The mask of a condition says something of the object in the first slot: it is about that
object, or as wide as can be, or the condition is never met. -/
def Condition.MasksFirst : Prop :=
  condition.negativeCondition = true ∨ condition.conditionTarget = firstTarget ∨
    condition.typeMask = some gridMapTypeMaskAll ∨ condition.NamesFirst ∨ ¬ condition.Meetable

section

variable {Object : Type} {world : TypedWorld Object} {object : Object} {condition : Condition}
  {targets : Fin maxConditionTargets → Option Object} {value : UInt32}

theorem isSet_all (kind : ObjectKind) : isSet gridMapTypeMaskAll kind.gridIndex = true :=
  isSet_gridMapTypeMaskAll kind.gridIndex_lt

theorem isSet_of_isPlayer (hplayer : world.isPlayer object = true) :
    isSet gridMapTypeMaskPlayer (world.kind object).gridIndex = true := by
  rw [world.isPlayer_eq, decide_eq_true_iff] at hplayer
  rw [hplayer]
  decide

theorem isSet_of_isCreature (hcreature : world.isCreature object = true) :
    isSet gridMapTypeMaskCreature (world.kind object).gridIndex = true := by
  rw [world.isCreature_eq, decide_eq_true_iff] at hcreature
  rw [hcreature]
  decide

theorem isSet_of_isUnit (hunit : world.isUnit object = true) :
    isSet (gridMapTypeMaskCreature ||| gridMapTypeMaskPlayer) (world.kind object).gridIndex =
      true := by
  rw [world.isUnit_eq, decide_eq_true_iff] at hunit
  rcases hunit with hkind | hkind
  · rw [hkind]
    decide
  · rw [hkind]
    decide

theorem isSet_objectEntryMask (hvalue : value = 3 ∨ value = 4 ∨ value = 5 ∨ value = 7)
    (hentry : (world.getTypeId object).toUInt32 = value) :
    isSet (objectEntryMask value ||| typeMaskMask value) (world.kind object).gridIndex = true := by
  rw [world.getTypeId_eq] at hentry
  subst hentry
  cases hkind : world.kind object with
  | areaTrigger | dynamicObject => rw [hkind] at hvalue; exact absurd hvalue (by decide)
  | corpse | creature | gameObject | player => decide

/-- A mask within four types is a small number. -/
theorem toNat_lt_of_and_not (hvalue : value &&& ~~~0xB8 = 0) : value.toNat < 2 ^ 8 := by
  refine Nat.lt_pow_two_of_testBit _ fun index hindex => ?_
  by_cases hword : index < 32
  · have hoverlap := isSet_land value (~~~0xB8) hword
    have hset : ∀ index < 32, 8 ≤ index → isSet (~~~0xB8) index = true := by decide
    rw [hvalue, isSet_zero hword, hset index hword hindex, Bool.and_true] at hoverlap
    rw [← isSet_eq_testBit value hword, ← hoverlap]
  · exact Nat.testBit_lt_two_pow
      (value.toNat_lt.trans_le (Nat.pow_le_pow_right (by decide) (Nat.le_of_not_lt hword)))

theorem isSet_typeMaskMask (hvalue : value &&& ~~~0xB8 = 0)
    (htype : world.isType object value.toUInt16 = true) :
    isSet (typeMaskMask value) (world.kind object).gridIndex = true := by
  have hall : ∀ number < 256, ∀ kind ∈ [ObjectKind.corpse, .creature, .dynamicObject, .gameObject,
      .player, .areaTrigger], UInt32.ofNat number &&& ~~~0xB8 = 0 →
        (UInt32.ofNat number).toUInt16 &&& kind.objectType ≠ 0 →
          isSet (typeMaskMask (UInt32.ofNat number)) kind.gridIndex = true := by
    decide +kernel
  have hself : UInt32.ofNat value.toNat = value := UInt32.ofNat_toNat
  rw [world.isType_eq, decide_eq_true_iff] at htype
  rw [← hself] at hvalue htype ⊢
  refine hall value.toNat (toNat_lt_of_and_not (hself ▸ hvalue)) _ ?_ hvalue htype
  cases world.kind object <;> decide

/-! ## Single conditions -/

variable {mask : UInt32} (hvalid : condition.IsValid)

include hvalid in
theorem isSet_of_meetsType [DecidableEq Object]
    (hmeets : condition.meetsType world.toWorld targets object = true)
    (hmask : condition.typeMask = some mask) : isSet mask (world.kind object).gridIndex = true := by
  unfold Condition.typeMask at hmask
  unfold Condition.meetsType at hmeets
  cases htype : condition.conditionType
  all_goals rw [htype] at hmask hmeets
  case none | zoneid | activeEvent | instanceData | mapid | areaid | nearCreature
      | nearGameobject | distanceTo | worldState | phasemask | spawnmask =>
    cases hmask
    exact isSet_all _
  case aura | unitClass | race | level | alive | hpVal | hpPct =>
    cases hmask
    exact isSet_of_isUnit (Bool.and_eq_true_iff.mp hmeets).1
  case relationTo | reactionTo =>
    cases hmask
    obtain ⟨toObject, -, hboth⟩ := (Option.any_eq_true _ _).mp hmeets
    exact isSet_of_isUnit (Bool.and_eq_true_iff.mp (Bool.and_eq_true_iff.mp hboth).1).2
  case item | itemEquipped | achievement | team | gender | questrewarded | questtaken
      | questNone | spell | drunkenstate | title =>
    cases hmask
    exact isSet_of_isPlayer (Bool.and_eq_true_iff.mp hmeets).1
  case reputationRank | skill | questComplete =>
    cases hmask
    exact isSet_of_isPlayer (Bool.and_eq_true_iff.mp (Bool.and_eq_true_iff.mp hmeets).1).1
  case objectEntry =>
    cases hmask
    exact isSet_objectEntryMask (hvalid.objectEntry htype)
      (decide_eq_true_iff.mp (Bool.and_eq_true_iff.mp hmeets).1)
  case typeMask =>
    cases hmask
    exact isSet_typeMaskMask (hvalid.typeMask htype).2 hmeets
  case creatureType =>
    cases hmask
    exact isSet_of_isCreature (Bool.and_eq_true_iff.mp hmeets).1
  case unused21 => cases hmask

theorem isSet_of_namesFirst [DecidableEq Object] (hnames : condition.NamesFirst) {subject : Object}
    (hmeets : condition.meetsType world.toWorld targets subject = true)
    (hfirst : targets firstTarget = some object) (hmask : condition.typeMask = some mask) :
    isSet mask (world.kind object).gridIndex = true := by
  obtain ⟨htype, hvalue⟩ := hnames
  have hother : condition.otherTarget targets = some object := by
    unfold Condition.otherTarget
    simp only [hvalue]
    exact hfirst
  unfold Condition.typeMask at hmask
  unfold Condition.meetsType at hmeets
  rcases htype with htype | htype
  · rw [htype] at hmask hmeets
    rw [hother] at hmeets
    cases hmask
    exact isSet_of_isUnit (Bool.and_eq_true_iff.mp (Bool.and_eq_true_iff.mp hmeets).1).1
  · rw [htype] at hmask hmeets
    rw [hother] at hmeets
    cases hmask
    exact isSet_of_isUnit (Bool.and_eq_true_iff.mp (Bool.and_eq_true_iff.mp hmeets).1).1

theorem meets_cases [DecidableEq Object] {world : World Object}
    (hmet : condition.isMet world targets) :
    ∃ subject, targets condition.conditionTarget = some subject ∧
      (condition.meetsType world targets subject != condition.negativeCondition) = true := by
  unfold Condition.isMet Condition.meets at hmet
  dsimp only at hmet
  cases hsubject : targets condition.conditionTarget with
  | none =>
    rw [hsubject] at hmet
    cases hmet
  | some subject =>
    rw [hsubject] at hmet
    exact ⟨subject, rfl, (Bool.and_eq_true_iff.mp hmet).1⟩

include hvalid in
/-- If a condition masks the first slot, its mask has the type of the object there whenever
it is met. -/
theorem isSet_of_isMet [DecidableEq Object] (hmasks : condition.MasksFirst)
    (hmet : condition.isMet world.toWorld targets) (hfirst : targets firstTarget = some object)
    (hmask : condition.getSearcherTypeMaskForCondition = some mask) :
    isSet mask (world.kind object).gridIndex = true := by
  obtain ⟨subject, hsubject, hmeets⟩ := meets_cases hmet
  unfold Condition.getSearcherTypeMaskForCondition at hmask
  cases hnegative : condition.negativeCondition with
  | true =>
    rw [hnegative, if_pos rfl] at hmask
    cases hmask
    exact isSet_all _
  | false =>
    rw [hnegative, if_neg Bool.false_ne_true] at hmask
    rw [hnegative, Bool.bne_false] at hmeets
    rcases hmasks with hother | htarget | hall | hnames | hnever
    · rw [hnegative] at hother
      cases hother
    · rw [htarget, hfirst, Option.some.injEq] at hsubject
      subst hsubject
      exact isSet_of_meetsType hvalid hmeets hmask
    · rw [hall, Option.some.injEq] at hmask
      subst hmask
      exact isSet_all _
    · exact isSet_of_namesFirst hnames hmeets hfirst hmask
    · exact absurd ⟨Object, inferInstance, world, targets, hmet⟩ hnever

include hvalid in
theorem Condition.IsValid.isLoaded : condition.isLoaded = true := by
  unfold Condition.isLoaded
  rw [decide_eq_true hvalid.typed.1, Bool.true_or]

include hvalid in
theorem Condition.IsValid.exists_mask :
    ∃ mask, condition.getSearcherTypeMaskForCondition = some mask := by
  have htyped : ∃ mask, condition.typeMask = some mask := by
    have hunused := hvalid.typed.2
    unfold Condition.typeMask
    split
    all_goals first
      | exact ⟨_, rfl⟩
      | exact absurd ‹_› hunused
  unfold Condition.getSearcherTypeMaskForCondition
  split
  · exact ⟨_, rfl⟩
  · exact htyped

/-! ## Lists -/

variable (store : ReferenceStore)

/-- Valid conditions of some kind, and references to templates that exist. -/
def RowOf (allowed : Condition → Prop) (condition : Condition) : Prop :=
  allowed condition ∧ condition.IsValid ∨
    condition.referenceId ≠ 0 ∧ ∃ rows, store condition.referenceId = some rows

variable (rows : List Condition)

/-- With enough fuel a list has a mask. -/
def HasMask (mask : UInt32) : Prop :=
  ∃ enough, ∀ fuel ≥ enough, getSearcherTypeMaskForConditionList store fuel rows = .ok mask

/-- `IsObjectMeetToConditionList` is true. -/
def IsMetBy [DecidableEq Object] (world : World Object) (store : ReferenceStore)
    (sourceInfo : ConditionSourceInfo Object) (rows : List Condition) : Prop :=
  ∃ enough, ∀ fuel ≥ enough, ∃ after,
    isObjectMeetToConditionList world store fuel sourceInfo rows = some (true, after)

/-- A list has a mask, and for whatever sources it is met, the object in the first slot is of a
type in it. -/
def MaskIsSound : Prop :=
  ∃ mask, HasMask store rows mask ∧
    ∀ (Object : Type) (_ : DecidableEq Object) (world : TypedWorld Object)
      (sourceInfo : ConditionSourceInfo Object), IsMetBy world.toWorld store sourceInfo rows →
        ∀ object, sourceInfo.conditionTargets firstTarget = some object →
          isSet mask (world.kind object).gridIndex = true

/-- The mask of a list that holds has the type of the object in the first slot. -/
def MaskCovers (mask : UInt32) : Prop :=
  ∀ (Object : Type) (_ : DecidableEq Object) (world : TypedWorld Object)
    (targets : Fin maxConditionTargets → Option Object),
    Holds world.toWorld store targets rows →
      ∀ object, targets firstTarget = some object →
        isSet mask (world.kind object).gridIndex = true

/-- A list has a mask that covers it. -/
def Covered : Prop := ∃ mask, HasMask store rows mask ∧ MaskCovers store rows mask

variable {store : ReferenceStore} {allowed : Condition → Prop} {rows : List Condition}
  (hallowed : ∀ condition, allowed condition → condition.MasksFirst)

include hallowed in
theorem row_mask (hrow : RowOf store allowed condition)
    (htemplate : condition.referenceId ≠ 0 → ∀ rows, store condition.referenceId = some rows →
      Covered store rows) :
    condition.isLoaded = true ∧ ∃ mask enough,
      (∀ fuel ≥ enough,
        rowMask store (getSearcherTypeMaskForConditionList store fuel) condition = .ok mask) ∧
      ∀ (Object : Type) (_ : DecidableEq Object) (world : TypedWorld Object)
        (targets : Fin maxConditionTargets → Option Object),
        Satisfied world.toWorld store targets condition →
          ∀ object, targets firstTarget = some object →
            isSet mask (world.kind object).gridIndex = true := by
  rcases hrow with ⟨hkind, hvalid⟩ | ⟨hreference, rows, hrows⟩
  · obtain ⟨mask, hmask⟩ := hvalid.exists_mask
    refine ⟨hvalid.isLoaded, mask, 0, fun fuel _ => ?_, ?_⟩
    · unfold rowMask
      rw [if_neg (not_not.mpr hvalid.plain), hmask]
    · intro Object _ world targets hsatisfied object hfirst
      cases hsatisfied with
      | plain _ hmet => exact isSet_of_isMet hvalid (hallowed _ hkind) hmet hfirst hmask
      | missing hreference _ | template hreference _ _ => exact absurd hvalid.plain hreference
  · obtain ⟨mask, ⟨enough, hmask⟩, hcovers⟩ := htemplate hreference rows hrows
    have hloaded : condition.isLoaded = true := by
      unfold Condition.isLoaded
      rw [decide_eq_true hreference, Bool.or_true]
    refine ⟨hloaded, mask, enough, fun fuel hfuel => ?_, ?_⟩
    · unfold rowMask
      rw [if_pos hreference, hrows]
      exact hmask fuel hfuel
    · intro Object _ world targets hsatisfied object hfirst
      cases hsatisfied with
      | plain hplain _ => exact absurd hplain hreference
      | missing _ hmissing => rw [hrows] at hmissing; cases hmissing
      | template _ hother hholds =>
        rw [hrows, Option.some.injEq] at hother
        subst hother
        exact hcovers Object _ world targets hholds object hfirst

include hallowed in
theorem list_covers (hnonempty : rows ≠ [])
    (hrows : ∀ condition ∈ rows, RowOf store allowed condition)
    (htemplates : ∀ condition ∈ rows, condition.referenceId ≠ 0 →
      ∀ template, store condition.referenceId = some template →
        Covered store template) :
    Covered store rows := by
  have hmasks := fun condition (hcondition : condition ∈ rows) =>
    row_mask hallowed (hrows condition hcondition) (htemplates condition hcondition)
  choose! hloaded value enoughOf hvalue hcovers using hmasks
  obtain ⟨enough, hall⟩ := enough_forall fun condition hcondition =>
    ⟨enoughOf condition, hvalue condition hcondition⟩
  obtain ⟨mask, hmask, hbits⟩ := list_mask hnonempty hloaded (hall enough (le_refl enough))
  refine ⟨mask, enough_succ ⟨enough, fun fuel hfuel => ?_⟩, ?_⟩
  · -- more fuel changes no row, and so not the list
    rw [← hmask]
    refine getSearcherTypeMaskForConditionList_congr fun condition hcondition => ?_
    rw [hall fuel hfuel condition hcondition, hall enough (le_refl enough) condition hcondition]
  · intro Object _ world targets hholds object hfirst
    cases hholds with
    | group member hmember hmemberLoaded hall =>
      refine (hbits _ (world.kind object).gridIndex_lt).mpr ⟨member.elseGroup, ?_⟩
      exact summary_of_group hmember hmemberLoaded fun condition hmem hrow hgroup =>
        hcovers condition hmem Object _ world targets (hall condition hmem hrow hgroup) object
          hfirst

/-- An empty list has the widest mask. -/
theorem nil_covers : Covered store [] := by
  refine ⟨gridMapTypeMaskAll, enough_succ ⟨0, fun _ _ => rfl⟩, fun _ _ world _ _ object _ =>
    isSet_all (world.kind object)⟩

/-- The rows of a list and of all templates are of some kind or refer to templates that exist,
without a cycle. -/
structure ListOf (store : ReferenceStore) (allowed : Condition → Prop) (rows : List Condition) :
    Prop where
  acyclic : Acyclic store
  rows : ∀ condition ∈ rows, RowOf store allowed condition
  templates : ∀ id template, store id = some template →
    ∀ condition ∈ template, RowOf store allowed condition

include hallowed in
theorem covers_of_templates (hrows : ∀ condition ∈ rows, RowOf store allowed condition)
    (htemplates : ∀ condition ∈ rows, condition.referenceId ≠ 0 →
      ∀ template, store condition.referenceId = some template →
        Covered store template) :
    Covered store rows := by
  cases rows with
  | nil => exact nil_covers
  | cons condition rest =>
    exact list_covers hallowed (List.cons_ne_nil condition rest) hrows htemplates

variable (hlist : ListOf store allowed rows)

include hallowed hlist in
/-- By induction over the templates: all of them have masks that cover them. -/
theorem ListOf.template_covers (id : UInt32) :
    ∀ template, store id = some template →
      Covered store template := by
  induction id using (wellFounded_of_acyclic hlist.acyclic).induction with
  | _ id ih =>
    intro template htemplate
    exact covers_of_templates hallowed (hlist.templates id template htemplate)
      fun condition hcondition hreference other hother =>
        ih condition.referenceId ⟨template, htemplate, condition, hcondition, hreference, rfl⟩
          other hother

include hallowed hlist in
theorem ListOf.covers : Covered store rows :=
  covers_of_templates hallowed hlist.rows fun condition _ _ template htemplate =>
    hlist.template_covers hallowed condition.referenceId template htemplate

theorem isMetBy_iff_holds [DecidableEq Object] {world : World Object} (hacyclic : Acyclic store)
    (sourceInfo : ConditionSourceInfo Object) (rows : List Condition) :
    IsMetBy world store sourceInfo rows ↔
      Holds world store sourceInfo.conditionTargets rows := by
  have hsettled : Settled world store sourceInfo.conditionTargets rows :=
    list_settled fun condition _ _ template htemplate =>
      template_settled hacyclic condition.referenceId template htemplate
  obtain ⟨enough, value, hvalue, hlist⟩ := hsettled
  constructor
  · rintro ⟨other, hmet⟩
    obtain ⟨after, hresult, -⟩ := hlist (max enough other) (le_max_left _ _) sourceInfo rfl
    obtain ⟨afterMet, hmet⟩ := hmet (max enough other) (le_max_right _ _)
    rw [hresult, Option.some.injEq, Prod.mk.injEq] at hmet
    exact hvalue.mp hmet.1
  · intro hholds
    refine ⟨enough, fun fuel hfuel => ?_⟩
    obtain ⟨after, hresult, -⟩ := hlist fuel hfuel sourceInfo rfl
    exact ⟨after, hvalue.mpr hholds ▸ hresult⟩

include hallowed hlist in
theorem ListOf.maskIsSound : MaskIsSound store rows := by
  obtain ⟨mask, hmask, hcovers⟩ := hlist.covers hallowed
  refine ⟨mask, hmask, fun Object _ world sourceInfo hmet object hfirst => ?_⟩
  exact hcovers Object _ world sourceInfo.conditionTargets
    ((isMetBy_iff_holds hlist.acyclic sourceInfo rows).mp hmet) object hfirst

theorem rowOf_isValid (hrow : RowOf store allowed condition) :
    RowOf store (fun condition => allowed condition ∧ condition.IsValid) condition := by
  rcases hrow with ⟨hallowed, hvalid⟩ | hreference
  · exact Or.inl ⟨⟨hallowed, hvalid⟩, hvalid⟩
  · exact Or.inr hreference

/-! ## An object the mask leaves out -/

def TypedWorld.withDynamicObject [DecidableEq Object] (world : TypedWorld Object) :
    TypedWorld (Option Object) where
  toWorld :=
    { (default : World (Option Object)) with
      isUnit := fun object => object.any world.isUnit
      isPlayer := fun object => object.any world.isPlayer
      isCreature := fun object => object.any world.isCreature
      hasAuraEffect := fun object spell effect =>
        object.any fun object => world.hasAuraEffect object spell effect
      hasItemCount := fun object item count bank =>
        object.any fun object => world.hasItemCount object item count bank
      hasItemOrGemWithIdEquipped := fun object item count =>
        object.any fun object => world.hasItemOrGemWithIdEquipped object item count
      isFaction := world.isFaction
      getReputationRank := fun object faction =>
        (object.map fun object => world.getReputationRank object faction).getD 0
      hasAchieved := fun object achievement =>
        object.any fun object => world.hasAchieved object achievement
      getTeam := fun object => (object.map world.getTeam).getD 0
      getClassMask := fun object => (object.map world.getClassMask).getD 0
      getRaceMask := fun object => (object.map world.getRaceMask).getD 0
      getGender := fun object => (object.map world.getGender).getD 0
      hasSkill := fun object skill => object.any fun object => world.hasSkill object skill
      getBaseSkillValue := fun object skill =>
        (object.map fun object => world.getBaseSkillValue object skill).getD 0
      getQuestRewardStatus := fun object quest =>
        object.any fun object => world.getQuestRewardStatus object quest
      getQuestStatus := fun object quest =>
        (object.map fun object => world.getQuestStatus object quest).getD .none
      hasSpell := fun object spell => object.any fun object => world.hasSpell object spell
      getLevel := fun object => (object.map world.getLevel).getD 0
      getDrunkenstate := fun object => (object.map world.getDrunkenstate).getD 0
      getTypeId := fun object => ((object.map world.kind).getD .dynamicObject).typeId
      getEntry := fun object => (object.map world.getEntry).getD 0
      isType := fun object mask =>
        mask &&& ((object.map world.kind).getD .dynamicObject).objectType ≠ 0
      isInPartyWith := fun object other =>
        object.any fun object => other.any fun other => world.isInPartyWith object other
      isInRaidWith := fun object other =>
        object.any fun object => other.any fun other => world.isInRaidWith object other
      getOwnerGuid := fun object => (object.map world.getOwnerGuid).getD 0
      getGuid := fun object => (object.map world.getGuid).getD 0
      isOnVehicle := fun object other =>
        object.any fun object => other.any fun other => world.isOnVehicle object other
      getCreatorGuid := fun object => (object.map world.getCreatorGuid).getD 0
      getReactionTo := fun object other =>
        ((object.bind fun object => other.map fun other => world.getReactionTo object other)).getD 0
      isAlive := fun object => object.any world.isAlive
      getHealth := fun object => (object.map world.getHealth).getD 0
      getHealthPct := fun object => (object.map world.getHealthPct).getD 0
      hasTitle := fun object title => object.any fun object => world.hasTitle object title
      getCreatureType := fun object => (object.map world.getCreatureType).getD 0
      onConditionCheck := fun _ _ => true }
  kind object := (object.map world.kind).getD .dynamicObject
  isUnit_eq object := by
    cases object with
    | none => rfl
    | some object => exact world.isUnit_eq object
  isPlayer_eq object := by
    cases object with
    | none => rfl
    | some object => exact world.isPlayer_eq object
  isCreature_eq object := by
    cases object with
    | none => rfl
    | some object => exact world.isCreature_eq object
  getTypeId_eq _ := rfl
  isType_eq _ _ := rfl

def withDynamicFirst (targets : Fin maxConditionTargets → Option Object)
    (slot : Fin maxConditionTargets) : Option (Option Object) :=
  if slot = firstTarget then some none else (targets slot).map some

theorem otherTarget_withDynamicFirst (hvalue : condition.conditionValue1 ≠ 0) :
    condition.otherTarget (withDynamicFirst targets) =
      (condition.otherTarget targets).map some := by
  unfold Condition.otherTarget
  split
  · refine if_neg fun heq => hvalue ?_
    have hzero : condition.conditionValue1.toNat = 0 := congrArg Fin.val heq
    exact UInt32.toNat_inj.mp hzero
  · rfl

theorem relates_withDynamicObject [DecidableEq Object] (type : UInt32) (unit toUnit : Object) :
    Condition.relates world.withDynamicObject.toWorld type (some unit) (some toUnit) =
      Condition.relates world.toWorld type unit toUnit := by
  unfold Condition.relates
  split
  · exact decide_eq_decide.mpr Option.some_inj
  all_goals rfl

/-- A narrow condition that names other slots sees nothing of the new object. -/
theorem meetsType_withDynamicFirst [DecidableEq Object]
    (hnarrow : condition.typeMask ≠ some gridMapTypeMaskAll)
    (hnames : ¬ condition.NamesFirst) (object : Object) :
    condition.meetsType world.withDynamicObject.toWorld (withDynamicFirst targets) (some object) =
      condition.meetsType world.toWorld targets object := by
  unfold Condition.typeMask at hnarrow
  unfold Condition.meetsType
  cases htype : condition.conditionType
  all_goals simp only [htype] at hnarrow
  case none | zoneid | activeEvent | instanceData | mapid | areaid | nearCreature
      | nearGameobject | distanceTo | worldState | phasemask | spawnmask =>
    exact absurd rfl hnarrow
  case relationTo =>
    have hvalue : condition.conditionValue1 ≠ 0 := fun heq => hnames ⟨Or.inl htype, heq⟩
    dsimp only
    rw [otherTarget_withDynamicFirst hvalue, Option.any_map]
    simp only [relates_withDynamicObject]
    rfl
  case reactionTo =>
    have hvalue : condition.conditionValue1 ≠ 0 := fun heq => hnames ⟨Or.inr htype, heq⟩
    dsimp only
    rw [otherTarget_withDynamicFirst hvalue, Option.any_map]
    rfl
  case objectEntry =>
    rw [world.getTypeId_eq]
    rfl
  case typeMask => exact (world.isType_eq object _).symm
  all_goals rfl

theorem isSet_dynamicObject (hmask : condition.typeMask = some mask)
    (hnarrow : mask ≠ gridMapTypeMaskAll) :
    isSet mask ObjectKind.dynamicObject.gridIndex = false := by
  have hentry : ∀ value, isSet (objectEntryMask value) 2 = false := by
    intro value
    unfold objectEntryMask
    split_ifs <;> decide
  have htypes : ∀ value, isSet (typeMaskMask value) 2 = false := by
    intro value
    unfold typeMaskMask
    split_ifs <;> decide
  unfold Condition.typeMask at hmask
  cases htype : condition.conditionType
  all_goals
    simp only [htype, Option.some.injEq, reduceCtorEq] at hmask
    try subst hmask
  case none | zoneid | activeEvent | instanceData | mapid | areaid | nearCreature
      | nearGameobject | distanceTo | worldState | phasemask | spawnmask =>
    exact absurd rfl hnarrow
  case objectEntry =>
    show isSet _ 2 = false
    rw [isSet_lor _ _ (by decide), hentry, htypes]
    rfl
  case typeMask => exact htypes _
  all_goals decide

/-- What a narrow condition about another slot finds is not changed by a dynamic object in the
first one. -/
theorem isMet_withDynamicFirst [DecidableEq Object]
    (htarget : condition.conditionTarget ≠ firstTarget)
    (hnarrow : condition.typeMask ≠ some gridMapTypeMaskAll) (hnames : ¬ condition.NamesFirst)
    (hmet : condition.isMet world.toWorld targets) :
    condition.isMet world.withDynamicObject.toWorld (withDynamicFirst targets) := by
  obtain ⟨subject, hsubject, hmeets⟩ := meets_cases hmet
  have hslot : withDynamicFirst targets condition.conditionTarget = some (some subject) := by
    unfold withDynamicFirst
    rw [if_neg htarget, hsubject, Option.map_some]
  unfold Condition.isMet Condition.meets
  dsimp only
  rw [hslot]
  dsimp only
  rw [meetsType_withDynamicFirst hnarrow hnames, hmeets]
  rfl

theorem acyclic_empty : Acyclic fun _ => none := by
  intro id hcycle
  obtain ⟨other, ⟨rows, hrows, -⟩, -⟩ := Relation.TransGen.head'_iff.mp hcycle
  cases hrows

include hvalid in
theorem not_maskIsSound_singleton (hmasks : ¬ condition.MasksFirst) :
    ¬ MaskIsSound (fun _ => none) [condition] := by
  unfold Condition.MasksFirst at hmasks
  push Not at hmasks
  obtain ⟨hpositive, htarget, hnarrow, hnames, Object, _, world, targets, hmet⟩ := hmasks
  rintro ⟨mask, ⟨enough, hmask⟩, hsound⟩
  obtain ⟨value, hvalue⟩ := hvalid.exists_mask
  have htype : condition.typeMask = some value := by
    rwa [Condition.getSearcherTypeMaskForCondition, if_neg hpositive] at hvalue
  -- the mask of the list has the bits of that of the condition
  have hbit : isSet mask ObjectKind.dynamicObject.gridIndex = false := by
    have hlist : ∃ other, getSearcherTypeMaskForConditionList (fun _ => none) (enough + 1)
        [condition] = .ok other ∧ ∀ index, index < 6 → (isSet other index = true ↔
          ∃ elseGroup, summary (fun _ => isSet value index) [condition] elseGroup = some true) :=
      list_mask (List.cons_ne_nil condition []) (by simpa using hvalid.isLoaded)
        (by simp [rowMask, hvalid.plain, hvalue])
    obtain ⟨other, hother, hbits⟩ := hlist
    rw [hmask (enough + 1) (Nat.le_succ enough), Except.ok.injEq] at hother
    subst hother
    rw [Bool.eq_false_iff]
    intro hset
    obtain ⟨elseGroup, hsummary⟩ := (hbits _ (ObjectKind.gridIndex_lt _)).mp hset
    have hnot := isSet_dynamicObject htype fun heq => hnarrow (heq ▸ htype)
    simp [summary, inGroup, hvalid.isLoaded, hnot] at hsummary
  -- a dynamic object in the first slot does not keep the condition from being met
  have hholds : Holds world.withDynamicObject.toWorld (fun _ => none)
      (withDynamicFirst targets) [condition] := by
    refine Holds.group condition List.mem_cons_self hvalid.isLoaded fun other hother _ _ => ?_
    rw [List.mem_singleton.mp hother]
    exact Satisfied.plain hvalid.plain (isMet_withDynamicFirst htarget hnarrow hnames hmet)
  have hkind := hsound (Option Object) inferInstance world.withDynamicObject
    ⟨withDynamicFirst targets, none⟩ ((isMetBy_iff_holds acyclic_empty _ _).mpr hholds) none rfl
  rw [show (world.withDynamicObject.kind none) = .dynamicObject from rfl, hbit] at hkind
  cases hkind

theorem listOf_singleton (hallowed : allowed condition) (hvalid : condition.IsValid) :
    ListOf (fun _ => none) allowed [condition] where
  acyclic := acyclic_empty
  rows := by
    intro other hother
    rw [List.mem_singleton.mp hother]
    exact Or.inl ⟨hallowed, hvalid⟩
  templates := nofun

end

/-- The lists of some kind of conditions have sound masks if and only if every condition of the
kind masks the first slot. -/
theorem maskIsSound_iff_masksFirst (allowed : Condition → Prop) :
    (∀ store rows, rows ≠ [] → ListOf store allowed rows → MaskIsSound store rows) ↔
      ∀ condition : Condition, allowed condition → condition.IsValid → condition.MasksFirst := by
  constructor
  · intro hsound condition hallowed hvalid
    by_contra hmasks
    exact not_maskIsSound_singleton hvalid hmasks
      (hsound _ _ (List.cons_ne_nil condition []) (listOf_singleton hallowed hvalid))
  · intro hmasks store rows _ hlist
    have hvalid : ListOf store (fun condition => allowed condition ∧ condition.IsValid) rows :=
      { acyclic := hlist.acyclic
        rows := fun condition hcondition => rowOf_isValid (hlist.rows condition hcondition)
        templates := fun id template htemplate condition hcondition =>
          rowOf_isValid (hlist.templates id template htemplate condition hcondition) }
    exact hvalid.maskIsSound fun condition hboth => hmasks condition hboth.1 hboth.2

def teamOfSecond : Condition where
  elseGroup := 0
  conditionType := .team
  conditionValue1 := 469
  conditionValue2 := 0
  conditionValue3 := 0
  referenceId := 0
  conditionTarget := ⟨1, by decide⟩
  negativeCondition := false
  accepted := trivial

def teamWorld : TypedWorld Unit where
  toWorld :=
    { (default : World Unit) with
      isUnit := fun _ => true
      isPlayer := fun _ => true
      isCreature := fun _ => false
      getTypeId := fun _ => 4
      isType := fun _ mask => mask &&& 0x0019 ≠ 0
      getTeam := fun _ => 469
      onConditionCheck := fun _ _ => true }
  kind _ := .player
  isUnit_eq _ := rfl
  isPlayer_eq _ := rfl
  isCreature_eq _ := rfl
  getTypeId_eq _ := rfl
  isType_eq _ _ := rfl

theorem teamOfSecond_isValid : teamOfSecond.IsValid where
  plain := rfl
  typed := by decide
  objectEntry := by decide
  typeMask := by decide

theorem teamOfSecond_meetable : teamOfSecond.Meetable :=
  ⟨Unit, inferInstance, teamWorld, fun _ => some (), rfl⟩

/-- A condition about the second slot: the mask of it alone drops an object in the first one for
which it is met. -/
theorem teamOfSecond_not_maskIsSound :
    ListOf (fun _ => none) (fun _ => True) [teamOfSecond] ∧
      ¬ MaskIsSound (fun _ => none) [teamOfSecond] := by
  refine ⟨listOf_singleton trivial teamOfSecond_isValid,
    not_maskIsSound_singleton teamOfSecond_isValid ?_⟩
  rintro (hnegative | htarget | hall | hnames | hnever)
  · exact absurd hnegative (by decide)
  · exact absurd htarget (by decide)
  · exact absurd hall (by decide)
  · exact absurd hnames.1 (by decide)
  · exact hnever teamOfSecond_meetable

end MopServer.Conditions
