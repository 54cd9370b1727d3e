import MopServer.Conditions.Condition
import MopServer.Foundation.References
import MopServer.Foundation.Table

/-! # Evaluating a list of conditions

The rows of a list belong to groups, in any order.  The evaluation goes through the rows once
and skips those of a group that has already failed; a row may refer to another list, a
reference template, that is evaluated in its place.
-/

namespace MopServer.Conditions

open MopServer.Foundation

variable (elseGroup : UInt32)

/-- An entry of `elseGroupStore`. -/
structure GroupCheck where
  elseGroup : UInt32
  passed : Bool

instance : Keyed GroupCheck UInt32 := ⟨GroupCheck.elseGroup⟩

abbrev ElseGroupStore := Table GroupCheck

/-- `ConditionReferenceStore`. -/
abbrev ReferenceStore := UInt32 → Option (List Condition)

namespace ElseGroupStore

variable (groups : ElseGroupStore)

/-- `elseGroupStore[elseGroup] = passed`. -/
def assign (groups : ElseGroupStore) (elseGroup : UInt32) (passed : Bool) : ElseGroupStore :=
  groups.insert ⟨elseGroup, passed⟩ (Rearrangement.keep GroupCheck)

def passed? (groups : ElseGroupStore) (elseGroup : UInt32) : Option Bool :=
  (groups.get? elseGroup).map GroupCheck.passed

def touch (groups : ElseGroupStore) (elseGroup : UInt32) : ElseGroupStore :=
  if (groups.passed? elseGroup).isNone then groups.assign elseGroup true else groups

theorem passed?_assign (other : UInt32) (passed : Bool) :
    (groups.assign elseGroup passed).passed? other =
      if other = elseGroup then some passed else groups.passed? other := by
  unfold assign passed?
  rw [Table.get?_insert]
  show (if other = elseGroup then _ else _ : Option GroupCheck).map GroupCheck.passed = _
  split <;> rfl

theorem passed?_touch (other : UInt32) :
    (groups.touch elseGroup).passed? other =
      if other = elseGroup then some ((groups.passed? elseGroup).getD true)
      else groups.passed? other := by
  unfold touch
  cases hpassed : groups.passed? elseGroup with
  | none =>
    rw [Option.isNone_none, if_pos rfl, passed?_assign]
    rfl
  | some passed =>
    rw [Option.isNone_some, if_neg Bool.false_ne_true]
    split
    next heq => rw [heq, hpassed, Option.getD_some]
    · rfl

/-- The last loop of the evaluation. -/
def anyPassed (groups : ElseGroupStore) : Bool := groups.rows.any GroupCheck.passed

theorem anyPassed_iff :
    groups.anyPassed = true ↔ ∃ elseGroup, groups.passed? elseGroup = some true := by
  unfold anyPassed passed?
  rw [List.any_eq_true]
  constructor
  · rintro ⟨check, hmem, hpassed⟩
    refine ⟨check.elseGroup, ?_⟩
    have hget : groups.get? check.elseGroup = some check := Table.get?_key hmem
    rw [hget, Option.map_some, hpassed]
  · rintro ⟨elseGroup, hpassed⟩
    obtain ⟨check, hget, heq⟩ := Option.map_eq_some_iff.mp hpassed
    exact ⟨check, (Table.get?_eq_some_iff.mp hget).1, heq⟩

end ElseGroupStore

variable {Object : Type} [DecidableEq Object] (world : World Object) (store : ReferenceStore)

variable
  (evaluate : ConditionSourceInfo Object → List Condition → Option (Bool × ConditionSourceInfo Object))

/-- One row: a reference without a template changes nothing. -/
def checkRow (sourceInfo : ConditionSourceInfo Object) (condition : Condition) :
    Option (Bool × ConditionSourceInfo Object) :=
  if condition.referenceId ≠ 0 then
    match store condition.referenceId with
    | some rows => evaluate sourceInfo rows
    | none => some (true, sourceInfo)
  else some (condition.meets world sourceInfo)

/-- The body of the first loop of `IsObjectMeetToConditionList`. -/
def visitRow (state : ElseGroupStore × ConditionSourceInfo Object) (condition : Condition) :
    Option (ElseGroupStore × ConditionSourceInfo Object) :=
  if !condition.isLoaded then some state
  else if state.1.passed? condition.elseGroup = some false then some state
  else
    (checkRow world store evaluate state.2 condition).map fun checked =>
      (if checked.1 then state.1.touch condition.elseGroup
        else (state.1.touch condition.elseGroup).assign condition.elseGroup false, checked.2)

/-- `IsObjectMeetToConditionList`.  Each level of templates takes one unit of fuel; without fuel
there is no result. -/
def isObjectMeetToConditionList :
    Nat → ConditionSourceInfo Object → List Condition → Option (Bool × ConditionSourceInfo Object)
  | 0, _, _ => none
  | fuel + 1, sourceInfo, conditions =>
    (conditions.foldlM (visitRow world store (isObjectMeetToConditionList fuel))
      (Table.empty, sourceInfo)).map fun state => (state.1.anyPassed, state.2)

/-- `IsObjectMeetToConditions`. -/
def isObjectMeetToConditions (fuel : Nat) (sourceInfo : ConditionSourceInfo Object)
    (conditions : List Condition) : Option (Bool × ConditionSourceInfo Object) :=
  if conditions.isEmpty then some (true, sourceInfo)
  else isObjectMeetToConditionList world store fuel sourceInfo conditions

/-! ## What an evaluation is for -/

variable (targets : Fin maxConditionTargets → Option Object)

/-- `Condition::Meets`, regardless of what has failed before. -/
def Condition.isMet (condition : Condition) : Prop :=
  (condition.meets world ⟨targets, none⟩).1 = true

mutual

/-- Some group of the list has all its members satisfied. -/
inductive Holds : List Condition → Prop where
  | group {conditions : List Condition} (member : Condition) (hmember : member ∈ conditions)
      (hloaded : member.isLoaded = true)
      (hall : ∀ condition ∈ conditions, condition.isLoaded = true →
        condition.elseGroup = member.elseGroup → Satisfied condition) : Holds conditions

/-- A plain condition that is met, or a reference that has no template or one that holds. -/
inductive Satisfied : Condition → Prop where
  | plain {condition : Condition} (hplain : condition.referenceId = 0)
      (hmet : condition.isMet world targets) : Satisfied condition
  | missing {condition : Condition} (hreference : condition.referenceId ≠ 0)
      (hmissing : store condition.referenceId = none) : Satisfied condition
  | template {condition : Condition} {rows : List Condition}
      (hreference : condition.referenceId ≠ 0) (hrows : store condition.referenceId = some rows)
      (hholds : Holds rows) : Satisfied condition

end

/-- A template with a row that refers to another one. -/
def Refers (first second : UInt32) : Prop :=
  ∃ rows, store first = some rows ∧ ∃ condition ∈ rows,
    condition.referenceId ≠ 0 ∧ condition.referenceId = second

/-- No template refers to itself, directly or through others. -/
def Acyclic : Prop := ∀ id, ¬ Relation.TransGen (Refers store) id id

section

variable {world store targets}

variable
  {evaluate : ConditionSourceInfo Object → List Condition → Option (Bool × ConditionSourceInfo Object)}
  {value : Condition → Bool} {rows : List Condition} (condition : Condition)

theorem Condition.fst_meets {sourceInfo : ConditionSourceInfo Object}
    (htargets : sourceInfo.conditionTargets = targets) :
    (condition.meets world sourceInfo).1 = (condition.meets world ⟨targets, none⟩).1 := by
  subst htargets
  unfold Condition.meets
  cases sourceInfo.conditionTargets condition.conditionTarget <;> rfl

/-- An evaluation leaves the targets alone. -/
theorem Condition.targets_meets (sourceInfo : ConditionSourceInfo Object) :
    (condition.meets world sourceInfo).2.conditionTargets = sourceInfo.conditionTargets := by
  unfold Condition.meets
  cases sourceInfo.conditionTargets condition.conditionTarget <;> rfl

def inGroup (elseGroup : UInt32) (condition : Condition) : Bool :=
  condition.isLoaded && condition.elseGroup = elseGroup

def summary (value : Condition → Bool) (rows : List Condition) (elseGroup : UInt32) :
    Option Bool :=
  if rows.any (inGroup elseGroup) then some ((rows.filter (inGroup elseGroup)).all value) else none

theorem summary_append_singleton (value : Condition → Bool) (rows : List Condition) :
    summary value (rows ++ [condition]) elseGroup =
      if inGroup elseGroup condition = true then
        some ((summary value rows elseGroup).getD true && value condition)
      else summary value rows elseGroup := by
  unfold summary
  cases hgroup : inGroup elseGroup condition with
  | false => simp [hgroup]
  | true =>
    cases hany : rows.any (inGroup elseGroup) with
    | true => simp [hgroup, hany]
    | false =>
      have hnone : rows.filter (inGroup elseGroup) = [] := by
        simpa [List.filter_eq_nil_iff] using hany
      simp [hgroup, hany, hnone]

/-- A row that yields the same value in every call. -/
def RowValue (world : World Object) (store : ReferenceStore)
    (targets : Fin maxConditionTargets → Option Object)
    (evaluate : ConditionSourceInfo Object → List Condition →
      Option (Bool × ConditionSourceInfo Object)) (condition : Condition) (value : Bool) : Prop :=
  ∀ sourceInfo : ConditionSourceInfo Object, sourceInfo.conditionTargets = targets →
    ∃ after, checkRow world store evaluate sourceInfo condition = some (value, after) ∧
      after.conditionTargets = targets

theorem visitRow_spec {seen : List Condition} {condition : Condition}
    (hvalue : RowValue world store targets evaluate condition (value condition))
    {state : ElseGroupStore × ConditionSourceInfo Object}
    (hstate : ∀ elseGroup, state.1.passed? elseGroup = summary value seen elseGroup)
    (htargets : state.2.conditionTargets = targets) :
    ∃ after, visitRow world store evaluate state condition = some after ∧
      (∀ elseGroup, after.1.passed? elseGroup =
        summary value (seen ++ [condition]) elseGroup) ∧
      after.2.conditionTargets = targets := by
  unfold visitRow
  simp only [summary_append_singleton]
  cases hloaded : condition.isLoaded with
  | false =>
    refine ⟨state, rfl, fun elseGroup => ?_, htargets⟩
    rw [if_neg (by simp [inGroup, hloaded]), hstate]
  | true =>
    have hgroup : ∀ elseGroup, inGroup elseGroup condition = true ↔
        elseGroup = condition.elseGroup := by
      intro elseGroup
      simp [inGroup, hloaded, eq_comm]
    simp only [hgroup]
    rw [Bool.not_true, if_neg Bool.false_ne_true]
    by_cases hfailed : state.1.passed? condition.elseGroup = some false
    · rw [if_pos hfailed]
      refine ⟨state, rfl, fun elseGroup => ?_, htargets⟩
      split
      next heq =>
        rw [heq, ← hstate, hfailed]
        rfl
      · exact hstate elseGroup
    · rw [if_neg hfailed]
      obtain ⟨after, hcheck, hafter⟩ := hvalue state.2 htargets
      rw [hcheck, Option.map_some]
      refine ⟨_, rfl, fun elseGroup => ?_, hafter⟩
      -- a group that is still open has passed so far
      have hopen : (state.1.passed? condition.elseGroup).getD true = true := by
        cases hpassed : state.1.passed? condition.elseGroup with
        | none => rfl
        | some passed =>
          cases passed with
          | true => rfl
          | false => exact absurd hpassed hfailed
      cases hrow : value condition with
      | true =>
        rw [if_pos rfl, ElseGroupStore.passed?_touch, hopen, ← hstate]
        split
        next heq =>
          rw [heq, hopen]
          rfl
        · rfl
      | false =>
        rw [if_neg Bool.false_ne_true, ElseGroupStore.passed?_assign,
          ElseGroupStore.passed?_touch, ← hstate, Bool.and_false]
        split <;> rfl

/-- The first loop, from a store that is right about the rows seen so far. -/
theorem visitRows_spec (rows seen : List Condition)
    (hvalue : ∀ condition ∈ rows, RowValue world store targets evaluate condition (value condition))
    (state : ElseGroupStore × ConditionSourceInfo Object)
    (hstate : ∀ elseGroup, state.1.passed? elseGroup = summary value seen elseGroup)
    (htargets : state.2.conditionTargets = targets) :
    ∃ after, rows.foldlM (visitRow world store evaluate) state = some after ∧
      (∀ elseGroup, after.1.passed? elseGroup = summary value (seen ++ rows) elseGroup) ∧
      after.2.conditionTargets = targets := by
  induction rows generalizing seen state with
  | nil =>
    refine ⟨state, rfl, fun elseGroup => ?_, htargets⟩
    rw [List.append_nil, hstate]
  | cons condition rest ih =>
    obtain ⟨middle, hvisit, hmiddle, htargets'⟩ :=
      visitRow_spec (hvalue condition List.mem_cons_self) hstate htargets
    obtain ⟨after, hrest, hafter, hlast⟩ := ih (seen ++ [condition])
      (fun other hother => hvalue other (List.mem_cons_of_mem condition hother)) middle hmiddle
      htargets'
    refine ⟨after, ?_, fun elseGroup => ?_, hlast⟩
    · rw [List.foldlM_cons, hvisit]
      exact hrest
    · rw [hafter, List.append_assoc, List.singleton_append]

/-- A list that yields the same value in every call. -/
def ListValue (world : World Object) (store : ReferenceStore)
    (targets : Fin maxConditionTargets → Option Object) (fuel : Nat) (rows : List Condition)
    (value : Bool) : Prop :=
  ∀ sourceInfo : ConditionSourceInfo Object, sourceInfo.conditionTargets = targets →
    ∃ after, isObjectMeetToConditionList world store fuel sourceInfo rows = some (value, after) ∧
      after.conditionTargets = targets

theorem listValue_of_rows {fuel : Nat} {result : Bool}
    (hvalue : ∀ condition ∈ rows, RowValue world store targets
      (isObjectMeetToConditionList world store fuel) condition (value condition))
    (hresult : result = true ↔ ∃ elseGroup, summary value rows elseGroup = some true) :
    ListValue world store targets (fuel + 1) rows result := by
  intro sourceInfo htargets
  obtain ⟨after, hrows, hafter, hlast⟩ :=
    visitRows_spec rows [] hvalue (Table.empty, sourceInfo) (fun _ => rfl) htargets
  refine ⟨after.2, ?_, hlast⟩
  have hpassed : after.1.anyPassed = result := by
    rw [Bool.eq_iff_iff, ElseGroupStore.anyPassed_iff, hresult]
    simp only [hafter, List.nil_append]
  rw [isObjectMeetToConditionList, hrows, Option.map_some, hpassed]

/-- A group all of whose rows say yes says yes. -/
theorem summary_of_group {member : Condition} (hmember : member ∈ rows)
    (hloaded : member.isLoaded = true)
    (hall : ∀ condition ∈ rows, condition.isLoaded = true →
      condition.elseGroup = member.elseGroup → value condition = true) :
    summary value rows member.elseGroup = some true := by
  have hany : rows.any (inGroup member.elseGroup) = true :=
    List.any_eq_true.mpr ⟨member, hmember, by simp [inGroup, hloaded]⟩
  unfold summary
  rw [if_pos hany, Option.some.injEq, List.all_eq_true]
  intro condition hcondition
  obtain ⟨hmem, hgroup⟩ := List.mem_filter.mp hcondition
  simp only [inGroup, Bool.and_eq_true, decide_eq_true_eq] at hgroup
  exact hall condition hmem hgroup.1 hgroup.2

/-- Rows that say whether they are satisfied amount to a list that says whether it holds. -/
theorem holds_iff_summary (hvalue : ∀ condition ∈ rows,
      (value condition = true ↔ Satisfied world store targets condition)) :
    Holds world store targets rows ↔
      ∃ elseGroup, summary value rows elseGroup = some true := by
  constructor
  · rintro ⟨member, hmember, hloaded, hall⟩
    exact ⟨_, summary_of_group hmember hloaded fun condition hmem hrow hgroup =>
      (hvalue condition hmem).mpr (hall condition hmem hrow hgroup)⟩
  · rintro ⟨elseGroup, hsummary⟩
    unfold summary at hsummary
    split at hsummary
    next hany =>
      obtain ⟨member, hmember, hgroup⟩ := List.any_eq_true.mp hany
      rw [Option.some.injEq, List.all_eq_true] at hsummary
      simp only [inGroup, Bool.and_eq_true, decide_eq_true_eq] at hgroup
      refine .group member hmember hgroup.1 fun condition hmem hloaded hsame => ?_
      refine (hvalue condition hmem).mp (hsummary condition ?_)
      rw [List.mem_filter]
      exact ⟨hmem, by simp [inGroup, hloaded, hsame, hgroup.2]⟩
    · cases hsummary

/-- With enough fuel a list yields one value, which says whether it holds. -/
def Settled (world : World Object) (store : ReferenceStore)
    (targets : Fin maxConditionTargets → Option Object) (rows : List Condition) : Prop :=
  ∃ enough value, (value = true ↔ Holds world store targets rows) ∧
    ∀ fuel ≥ enough, ListValue world store targets fuel rows value

theorem row_settled {condition : Condition}
    (htemplate : condition.referenceId ≠ 0 → ∀ rows, store condition.referenceId = some rows →
      Settled world store targets rows) :
    ∃ enough value, (value = true ↔ Satisfied world store targets condition) ∧
      ∀ fuel ≥ enough, RowValue world store targets
        (isObjectMeetToConditionList world store fuel) condition value := by
  unfold RowValue checkRow
  by_cases hreference : condition.referenceId = 0
  · refine ⟨0, (condition.meets world ⟨targets, none⟩).1, ?_, fun fuel _ sourceInfo hsame => ?_⟩
    · constructor
      · exact fun hmet => .plain hreference hmet
      · intro hsatisfied
        cases hsatisfied with
        | plain _ hmet => exact hmet
        | missing hother _ | template hother _ _ => exact absurd hreference hother
    · rw [if_neg (not_not.mpr hreference), ← condition.fst_meets hsame]
      exact ⟨_, rfl, (condition.targets_meets sourceInfo).trans hsame⟩
  · simp only [if_pos hreference]
    cases hrows : store condition.referenceId with
    | none =>
      refine ⟨0, true, iff_of_true rfl (.missing hreference hrows), fun _ _ sourceInfo hsame => ?_⟩
      exact ⟨sourceInfo, rfl, hsame⟩
    | some rows =>
      obtain ⟨enough, value, hvalue, hlist⟩ := htemplate hreference rows hrows
      refine ⟨enough, value, hvalue.trans ⟨.template hreference hrows, ?_⟩, hlist⟩
      intro hsatisfied
      cases hsatisfied with
      | plain hplain _ => exact absurd hplain hreference
      | missing _ hmissing => rw [hrows] at hmissing; cases hmissing
      | template _ hother hholds =>
        rw [hrows, Option.some.injEq] at hother
        exact hother ▸ hholds

theorem list_settled (htemplates : ∀ condition ∈ rows, condition.referenceId ≠ 0 →
      ∀ template, store condition.referenceId = some template →
        Settled world store targets template) : Settled world store targets rows := by
  have hrows := fun condition (hcondition : condition ∈ rows) =>
    row_settled (htemplates condition hcondition)
  choose! enoughOf value hvalue hrow using hrows
  classical
  have hlist : ∃ enough, ∀ fuel ≥ enough, ListValue world store targets fuel rows
      (decide (∃ elseGroup, summary value rows elseGroup = some true)) := by
    obtain ⟨enough, hall⟩ := enough_forall fun condition hcondition =>
      ⟨enoughOf condition, hrow condition hcondition⟩
    exact enough_succ ⟨enough, fun fuel hfuel =>
      listValue_of_rows (hall fuel hfuel) decide_eq_true_iff⟩
  obtain ⟨enough, hlist⟩ := hlist
  refine ⟨enough, _, ?_, hlist⟩
  rw [decide_eq_true_iff]
  exact (holds_iff_summary hvalue).symm

theorem wellFounded_of_acyclic (hacyclic : Acyclic store) : WellFounded (flip (Refers store)) :=
  CycleFree.wellFounded hacyclic

/-- By induction over the templates: a template is settled once those it refers to are. -/
theorem template_settled (hacyclic : Acyclic store) (id : UInt32) :
    ∀ rows, store id = some rows → Settled world store targets rows := by
  induction id using (wellFounded_of_acyclic hacyclic).induction with
  | _ id ih =>
    intro rows hrows
    exact list_settled fun condition hcondition hreference template htemplate =>
      ih condition.referenceId ⟨rows, hrows, condition, hcondition, hreference, rfl⟩ template
        htemplate

theorem holds_of_perm {other : List Condition} (hperm : rows.Perm other)
    (hholds : Holds world store targets rows) : Holds world store targets other := by
  cases hholds with
  | group member hmember hloaded hall =>
    exact .group member (hperm.mem_iff.mp hmember) hloaded fun condition hcondition =>
      hall condition (hperm.mem_iff.mpr hcondition)

/-- With enough fuel the evaluation of a list, in any order of its rows, says whether all members
of some group are satisfied. -/
theorem conditionList_holds_iff (hacyclic : Acyclic store) (conditions : List Condition)
    (hnonempty : conditions ≠ []) (sourceInfo : ConditionSourceInfo Object) :
    ∃ result, (result = true ↔ Holds world store sourceInfo.conditionTargets conditions) ∧
      ∀ other : List Condition, conditions.Perm other →
        ∃ enough, ∀ fuel ≥ enough, ∃ after,
          isObjectMeetToConditionList world store fuel sourceInfo other = some (result, after) ∧
            isObjectMeetToConditions world store fuel sourceInfo other = some (result, after) := by
  classical
  refine ⟨decide (Holds world store sourceInfo.conditionTargets conditions), decide_eq_true_iff,
    fun other hperm => ?_⟩
  have hsettled : Settled world store sourceInfo.conditionTargets other :=
    list_settled fun condition _ _ template htemplate =>
      template_settled hacyclic condition.referenceId template htemplate
  obtain ⟨enough, value, hvalue, hlist⟩ := hsettled
  refine ⟨enough, fun fuel hfuel => ?_⟩
  obtain ⟨after, hresult, -⟩ := hlist fuel hfuel sourceInfo rfl
  have hsame : value = decide (Holds world store sourceInfo.conditionTargets conditions) := by
    rw [Bool.eq_iff_iff, hvalue, decide_eq_true_iff]
    exact ⟨holds_of_perm hperm.symm, holds_of_perm hperm⟩
  have hother : other.isEmpty = false := by
    rw [List.isEmpty_eq_false_iff]
    rintro rfl
    exact hnonempty hperm.eq_nil
  refine ⟨after, ?_, ?_⟩
  · rw [hresult, hsame]
  · rw [isObjectMeetToConditions, hother, if_neg Bool.false_ne_true, hresult, hsame]

end

def aliveRow (elseGroup : UInt32) (negative : Bool) : Condition :=
  { elseGroup, conditionType := .alive, conditionValue1 := 0, conditionValue2 := 0
    conditionValue3 := 0, referenceId := 0, conditionTarget := ⟨0, by decide⟩
    negativeCondition := negative, accepted := trivial }

/-- A row that refers to a template. -/
def referenceRow (elseGroup referenceId : UInt32) : Condition :=
  { elseGroup, conditionType := .none, conditionValue1 := 0, conditionValue2 := 0
    conditionValue3 := 0, referenceId, conditionTarget := ⟨0, by decide⟩
    negativeCondition := false, accepted := trivial }

def singleTemplate : ReferenceStore := fun id => if id = 5 then some [aliveRow 0 true] else none

theorem acyclic_singleTemplate : Acyclic singleTemplate := by
  have hnone : ∀ first second, ¬ Refers singleTemplate first second := by
    rintro first second ⟨rows, hrows, condition, hcondition, hreference, -⟩
    unfold singleTemplate at hrows
    split at hrows
    · rw [Option.some.injEq] at hrows
      rw [← hrows, List.mem_singleton] at hcondition
      exact hreference (by rw [hcondition]; rfl)
    · cases hrows
  intro id hcycle
  obtain ⟨next, hfirst, -⟩ := Relation.TransGen.head'_iff.mp hcycle
  exact hnone id next hfirst

/-- Two groups, one of which refers to a template. -/
theorem conditionList_holds_twoGroups :
    ∃ result, (result = true ↔ Holds (default : World Unit) singleTemplate (fun _ => some ())
        [aliveRow 1 false, referenceRow 2 5, aliveRow 2 false]) ∧
      ∀ other : List Condition,
        [aliveRow 1 false, referenceRow 2 5, aliveRow 2 false].Perm other →
          ∃ enough, ∀ fuel ≥ enough, ∃ after,
            isObjectMeetToConditionList (default : World Unit) singleTemplate fuel
                ⟨fun _ => some (), none⟩ other = some (result, after) ∧
              isObjectMeetToConditions (default : World Unit) singleTemplate fuel
                ⟨fun _ => some (), none⟩ other = some (result, after) :=
  conditionList_holds_iff acyclic_singleTemplate _ (List.cons_ne_nil _ _)
    ⟨fun _ => some (), none⟩

end MopServer.Conditions
