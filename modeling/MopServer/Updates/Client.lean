import Mathlib.Data.List.FinRange
import MopServer.Updates.UpdateBlocks

/-! # The client

The client reads the number of masks, the masks, and a word for every set bit in ascending order.
Each block of an object is read to its end, and overwrites exactly the fields that were sent.
-/

namespace MopServer.Updates

open MopServer.Foundation MopServer.Packets MopServer.Packets.ByteBuffer

/-! ## Reading -/

def readWord : List UInt8 → Option (UInt32 × List UInt8)
  | first :: second :: third :: fourth :: rest =>
    some (UInt32.ofNat (fromLittleEndian [first, second, third, fourth]), rest)
  | _ => none

def readWords : Nat → List UInt8 → Option (List UInt32 × List UInt8)
  | 0, bytes => some ([], bytes)
  | count + 1, bytes =>
    (readWord bytes).bind fun first =>
      (readWords count first.2).map fun rest => (first.1 :: rest.1, rest.2)

def readFields : List Nat → (Nat → UInt32) → List UInt8 → Option ((Nat → UInt32) × List UInt8)
  | [], fields, bytes => some (fields, bytes)
  | index :: rest, fields, bytes =>
    (readWord bytes).bind fun word =>
      readFields rest (Function.update fields index word.1) word.2

def decodeValues (fields : Nat → UInt32) : List UInt8 → Option ((Nat → UInt32) × List UInt8)
  | [] => none
  | count :: bytes =>
    (readWords count.toNat bytes).bind fun masks =>
      readFields (indicesFrom 0 masks.1) fields masks.2

def readTabs : List Nat → (Nat → Nat → UInt32) → List UInt8 →
    Option ((Nat → Nat → UInt32) × List UInt8)
  | [], tabs, bytes => some (tabs, bytes)
  | tab :: rest, tabs, bytes =>
    (decodeValues (tabs tab) bytes).bind fun fields =>
      readTabs rest (Function.update tabs tab fields.1) fields.2

/-- Read the masks of the tabs, and the fields of each tab they mark. -/
def decodeDynamicValues (tabs : Nat → Nat → UInt32) :
    List UInt8 → Option ((Nat → Nat → UInt32) × List UInt8)
  | [] => none
  | count :: bytes =>
    (readWords count.toNat bytes).bind fun masks => readTabs (indicesFrom 0 masks.1) tabs masks.2

/-! ## Reading what has been written -/

variable (value fields : Nat → UInt32)

theorem readWord_wordBytes (value : UInt32) (rest : List UInt8) :
    readWord (wordBytes value ++ rest) = some (value, rest) := by
  have hvalue : fromLittleEndian (wordBytes value) = value.toNat :=
    fromLittleEndian_littleEndian 4 value.toNat value.toNat_lt
  have hword : readWord (wordBytes value ++ rest) =
      some (UInt32.ofNat (fromLittleEndian (wordBytes value)), rest) := rfl
  rw [hword, hvalue, UInt32.ofNat_toNat]

theorem readWords_flatMap (words : List UInt32) (rest : List UInt8) :
    readWords words.length (words.flatMap wordBytes ++ rest) = some (words, rest) := by
  induction words with
  | nil => rfl
  | cons word words ih =>
    rw [List.flatMap_cons, List.append_assoc, List.length_cons]
    unfold readWords
    rw [readWord_wordBytes, Option.bind_some, ih, Option.map_some]

theorem readWords_one (word : UInt32) (rest : List UInt8) :
    readWords 1 (wordBytes word ++ rest) = some ([word], rest) := by
  unfold readWords readWords
  rw [readWord_wordBytes, Option.bind_some, Option.map_some]

theorem readFields_flatMap (indices : List Nat) (rest : List UInt8) :
    readFields indices fields (indices.flatMap (fun index => wordBytes (value index)) ++ rest) =
      some (fun index => if index ∈ indices then value index else fields index, rest) := by
  induction indices generalizing fields with
  | nil =>
    unfold readFields
    simp
  | cons first indices ih =>
    rw [List.flatMap_cons, List.append_assoc]
    unfold readFields
    rw [readWord_wordBytes, Option.bind_some, ih]
    congr 2
    funext index
    by_cases hfirst : index = first
    · subst hfirst
      simp
    · simp [hfirst]

theorem decodeValues_block {masks : List UInt32} (hmasks : masks.length < 256)
    (value : Nat → UInt32) (fields : Nat → UInt32) (rest : List UInt8) :
    decodeValues fields (UInt8.ofNat masks.length :: (masks.flatMap wordBytes ++
        ((indicesFrom 0 masks).flatMap (fun index => wordBytes (value index)) ++ rest))) =
      some (fun index => if index ∈ indicesFrom 0 masks then value index else fields index,
        rest) := by
  unfold decodeValues
  dsimp only
  rw [UInt8.toNat_ofNat_of_lt' hmasks, readWords_flatMap, Option.bind_some, readFields_flatMap]

/-- A block with one mask is read to its end. -/
theorem decodeValues_mask (mask : UInt32) (rest : List UInt8) :
    decodeValues fields (1 :: (wordBytes mask ++
        ((indices mask).flatMap (fun index => wordBytes (value index)) ++ rest))) =
      some (fun index => if index ∈ indices mask then value index else fields index, rest) := by
  have hshort : [mask].length < 256 := Nat.lt_of_sub_eq_succ rfl
  have hblock := decodeValues_block hshort value fields rest
  rw [indicesFrom_singleton, List.flatMap_singleton] at hblock
  exact hblock

theorem readTabs_flatMap (list : List Nat) (mask : Nat → UInt32) (value tabs : Nat → Nat → UInt32)
    (rest : List UInt8) :
    readTabs list tabs (list.flatMap (fun tab => 1 :: (wordBytes (mask tab) ++
        (indices (mask tab)).flatMap fun index => wordBytes (value tab index))) ++ rest) =
      some (fun tab index => if tab ∈ list ∧ index ∈ indices (mask tab) then value tab index
        else tabs tab index, rest) := by
  induction list generalizing tabs with
  | nil =>
    unfold readTabs
    simp
  | cons first list ih =>
    rw [List.flatMap_cons, List.append_assoc, List.cons_append, List.append_assoc]
    unfold readTabs
    rw [decodeValues_mask, Option.bind_some, ih]
    congr 2
    funext tab index
    by_cases hfirst : tab = first
    · subst hfirst
      by_cases hindex : index ∈ indices (mask tab)
      · simp [hindex]
      · simp [hindex]
    · simp [hfirst]

namespace Object

variable {valuesCount dynamicTabCount : Nat} (object : Object valuesCount dynamicTabCount)

/-! ## The values block -/

def fieldValue (index : Nat) : UInt32 :=
  if hindex : index < valuesCount then object.uint32Values ⟨index, hindex⟩ else 0

/-- The loop of `BuildValuesUpdate` marks the fields it sends. -/
theorem foldl_sent (sent : Fin valuesCount → Bool) (fields : List (Fin valuesCount))
    (mask : UpdateMask) (buffer : List UInt8) :
    fields.foldl
        (fun (result : UpdateMask × List UInt8) index =>
          if sent index then
            (result.1.setBit index, result.2 ++ wordBytes (object.uint32Values index))
          else result) (mask, buffer) =
      ({ mask with bits := fun index =>
          mask.bits index || decide (index ∈ (fields.filter sent).map Fin.val) },
        buffer ++ ((fields.filter sent).map Fin.val).flatMap fun index =>
          wordBytes (object.fieldValue index)) := by
  induction fields generalizing mask buffer with
  | nil => simp
  | cons field fields ih =>
    rw [List.foldl_cons]
    by_cases hsent : sent field = true
    · rw [if_pos hsent, ih, List.filter_cons_of_pos hsent, List.map_cons, List.flatMap_cons,
        ← List.append_assoc]
      congr 1
      · unfold UpdateMask.setBit
        congr 1
        funext index
        by_cases hsame : index = field.val
        · subst hsame
          simp
        · simp [hsame]
      · congr 3
        unfold fieldValue
        rw [dif_pos field.isLt]
    · rw [if_neg hsent, ih, List.filter_cons_of_neg hsent]

/-- The client reads a block of fewer than 8160 fields to its end, and then has the fields that have
been sent. -/
theorem decodeValues_buildValuesUpdate (hcount : valuesCount < 8160)
    (flags : Fin valuesCount → UInt32) (visibleFlag : UInt32) (updateType : ObjectUpdateType)
    (fields : Nat → UInt32) (rest : List UInt8) :
    ∃ after, decodeValues fields
        (object.buildValuesUpdate flags visibleFlag updateType ++ rest) = some (after, rest) ∧
      ∀ index : Fin valuesCount, after index =
        if object.isSent flags visibleFlag updateType index then object.uint32Values index
        else fields index := by
  set sent := (List.finRange valuesCount).filter (object.isSent flags visibleFlag updateType)
    with hsent
  -- the marked fields, as the client reads them from the masks
  have hmember : ∀ index : Fin valuesCount, index.val ∈ sent.map Fin.val ↔
      object.isSent flags visibleFlag updateType index = true := by
    intro index
    rw [List.mem_map_of_injective Fin.val_injective, hsent, List.mem_filter]
    exact and_iff_right (List.mem_finRange index)
  have hbelow : (List.range valuesCount).filter
      (fun index => decide (index ∈ sent.map Fin.val)) = sent.map Fin.val := by
    rw [← List.map_coe_finRange_eq_range, List.filter_map, hsent]
    congr 1
    exact List.filter_congr fun index _ => Bool.eq_iff_iff.mpr
      (decide_eq_true_iff.trans (hmember index))
  have hindices : (List.range (32 * ((valuesCount + 31) / 32))).filter
      (fun index => decide (index ∈ sent.map Fin.val)) = sent.map Fin.val := by
    obtain ⟨spare, hspare⟩ := Nat.exists_eq_add_of_le
      (show valuesCount ≤ 32 * ((valuesCount + 31) / 32) by omega)
    have habove : ((List.range spare).map (valuesCount + ·)).filter
        (fun index => decide (index ∈ sent.map Fin.val)) = [] := by
      refine List.filter_eq_nil_iff.mpr fun index hindex hmarked => ?_
      obtain ⟨offset, -, rfl⟩ := List.mem_map.mp hindex
      obtain ⟨field, -, hfield⟩ := List.mem_map.mp (of_decide_eq_true hmarked)
      omega
    rw [hspare, List.range_add, List.filter_append, hbelow, habove, List.append_nil]
  have hmasks : indicesFrom 0 ((List.range ((valuesCount + 31) / 32)).map fun block =>
      maskOf 32 fun index => decide (32 * block + index ∈ sent.map Fin.val)) =
        sent.map Fin.val := (indicesFrom_masks _ _).trans hindices
  have hbuilt : object.buildValuesUpdate flags visibleFlag updateType =
      UInt8.ofNat ((valuesCount + 31) / 32) ::
        (((List.range ((valuesCount + 31) / 32)).map fun block =>
          maskOf 32 fun index => decide (32 * block + index ∈ sent.map Fin.val)).flatMap wordBytes ++
        (sent.map Fin.val).flatMap fun index => wordBytes (object.fieldValue index)) := by
    unfold buildValuesUpdate
    rw [foldl_sent, List.nil_append]
    rfl
  have hblocks : ((List.range ((valuesCount + 31) / 32)).map fun block =>
      maskOf 32 fun index => decide (32 * block + index ∈ sent.map Fin.val)).length =
        (valuesCount + 31) / 32 := by
    rw [List.length_map, List.length_range]
  have hshort : ((List.range ((valuesCount + 31) / 32)).map fun block =>
      maskOf 32 fun index => decide (32 * block + index ∈ sent.map Fin.val)).length < 256 := by
    rw [hblocks]
    omega
  have hread := decodeValues_block hshort object.fieldValue fields rest
  rw [hblocks, hmasks] at hread
  rw [hbuilt, List.cons_append, List.append_assoc]
  refine ⟨_, hread, fun index => ?_⟩
  rw [if_congr (hmember index) rfl rfl]
  unfold fieldValue
  rw [dif_pos index.isLt]

/-! ## The dynamic block -/

theorem mem_indices_fieldMask (tab : Fin dynamicTabCount) (index : Fin 32) :
    index.val ∈ indices (object.fieldMask tab) ↔
      (object.dynamicFields tab).changed index = true := by
  unfold fieldMask
  rw [dif_pos tab.isLt, indices_maskOf le_rfl, List.mem_filter, dif_pos index.isLt]
  exact and_iff_right (List.mem_range.mpr index.isLt)

theorem fieldMask_pos {tab : Fin dynamicTabCount} {index : Fin 32}
    (hchanged : (object.dynamicFields tab).changed index = true) : object.fieldMask tab > 0 := by
  have hindex := (object.mem_indices_fieldMask tab index).mpr hchanged
  by_contra hzero
  have hmask : object.fieldMask tab = 0 := UInt32.le_zero_iff.mp (UInt32.not_lt.mp hzero)
  unfold indices at hindex
  rw [hmask, List.mem_filter, isSet_zero index.isLt] at hindex
  exact Bool.false_ne_true hindex.2

/-- The client reads the block of at most 32 tabs to its end, and then has the changed fields. -/
theorem decodeDynamicValues_block (htabs : dynamicTabCount ≤ 32) (tabs : Nat → Nat → UInt32)
    (rest : List UInt8) :
    ∃ after, decodeDynamicValues tabs (object.buildDynamicValuesUpdate ++ rest) =
        some (after, rest) ∧
      ∀ (tab : Fin dynamicTabCount) (index : Fin 32), after tab index =
        if (object.dynamicFields tab).changed index then (object.dynamicFields tab).values index
        else tabs tab index := by
  have hempty : decodeDynamicValues tabs ([0] ++ rest) = some (tabs, rest) := rfl
  unfold buildDynamicValuesUpdate
  split
  next hzero =>
    subst hzero
    exact ⟨tabs, hempty, fun tab => tab.elim0⟩
  · dsimp only
    split
    next hsome =>
      have htabList : (List.range dynamicTabCount).filter (isSet object.dynamicTabMask) =
          indices object.dynamicTabMask := by
        unfold dynamicTabMask
        rw [indices_maskOf htabs]
        refine List.filter_congr fun tab htab => ?_
        have hlt := List.mem_range.mp htab
        rw [isSet_maskOf htabs _ (by omega), decide_eq_true hlt, Bool.true_and]
      rw [htabList]
      refine ⟨fun tab index =>
        if tab ∈ indices object.dynamicTabMask ∧ index ∈ indices (object.fieldMask tab) then
          object.dynamicValue tab index else tabs tab index, ?_, fun tab index => ?_⟩
      · rw [List.cons_append, List.cons_append, List.append_assoc]
        unfold decodeDynamicValues
        dsimp only
        rw [show (1 : UInt8).toNat = 1 from rfl, readWords_one, Option.bind_some,
          indicesFrom_singleton]
        exact readTabs_flatMap _ _ _ tabs rest
      · have hmarked : (tab.val ∈ indices object.dynamicTabMask ∧
            index.val ∈ indices (object.fieldMask tab)) ↔
              (object.dynamicFields tab).changed index = true := by
          rw [object.mem_indices_fieldMask]
          refine and_iff_right_of_imp fun hchanged => ?_
          unfold dynamicTabMask
          rw [indices_maskOf htabs, List.mem_filter]
          exact ⟨List.mem_range.mpr tab.isLt, decide_eq_true (object.fieldMask_pos hchanged)⟩
        refine (if_congr hmarked rfl rfl).trans ?_
        unfold dynamicValue
        rw [dif_pos tab.isLt, dif_pos index.isLt]
    next hnone =>
      refine ⟨tabs, hempty, fun tab index => (if_neg fun hchanged => ?_).symm⟩
      have hmask : object.dynamicTabMask = 0 := UInt32.le_zero_iff.mp (UInt32.not_lt.mp hnone)
      have hfieldMask := (maskOf_eq_zero_iff htabs _).mp hmask tab tab.isLt
      exact of_decide_eq_false hfieldMask (object.fieldMask_pos hchanged)

end Object

end MopServer.Updates
