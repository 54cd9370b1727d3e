import MopServer.Updates.Object
import MopServer.Utilities.Tokenizer

/-! # Fields as a string

A range of fields is saved as numbers with a space behind each.  Loading writes nothing unless the
string has a token for every field.
-/

namespace MopServer.Updates

open MopServer.Utilities

namespace Object

variable {valuesCount : UInt16} {dynamicTabCount : Nat}
  (object : Object valuesCount.toNat dynamicTabCount)

/-- `GetUInt32Value`; a field past the last one is undefined. -/
def getUInt32Value (index : UInt16) : Option UInt32 :=
  if hindex : index.toNat < valuesCount.toNat then
    some (object.uint32Values ⟨index.toNat, hindex⟩)
  else none

/-- `_ConcatFields`. -/
def concatFields (startIndex size : UInt16) : Option (List Char) :=
  ((List.range size.toNat).mapM fun index =>
    (object.getUInt32Value (UInt16.ofNat index + startIndex)).map fun value =>
      Nat.toDigits 10 value.toNat ++ [' ']).map List.flatten

/-- The loop over the tokens; there is no check of the fields it writes to. -/
def loadTokens (object : Object valuesCount.toNat dynamicTabCount) (offset : UInt32) :
    List (List Char) → Option (Object valuesCount.toNat dynamicTabCount)
  | [] => some object
  | token :: rest =>
    if hoffset : offset.toNat < valuesCount.toNat then
      (object.write ⟨offset.toNat, hoffset⟩ (UInt32.ofInt (atol token))).loadTokens (offset + 1) rest
    else none

/-- `_LoadIntoDataField`. -/
def loadIntoDataField (data : Option (List Char)) (startOffset count : UInt32) :
    Option (Object valuesCount.toNat dynamicTabCount) :=
  match data with
  | none => some object
  | some data => do
    let tokens ← tokenizer (cString data) ' '
    if tokens.length ≠ count.toNat then some object else object.loadTokens startOffset tokens

end Object

/-! ## Saved fields -/

variable (values : List UInt32)

def saved (values : List UInt32) : List Char :=
  values.flatMap fun value => Nat.toDigits 10 value.toNat ++ [' ']

theorem notMem_toDigits {char : Char} (hchar : ¬ char.isDigit) (number : Nat) :
    char ∉ Nat.toDigits 10 number :=
  fun hmem => hchar (Nat.isDigit_of_mem_toDigits (by decide) (by decide) hmem)

theorem nul_notMem_saved : nul ∉ saved values := by
  intro hmem
  obtain ⟨value, -, hvalue⟩ := List.mem_flatMap.mp hmem
  rcases List.mem_append.mp hvalue with hdigit | hspace
  · exact notMem_toDigits (by decide) _ hdigit
  · exact absurd hspace (by decide)

/-- The space behind the last number leaves an empty piece. -/
theorem splitOn_saved :
    (saved values).splitOn ' ' = values.map (fun value => Nat.toDigits 10 value.toNat) ++ [[]] := by
  induction values with
  | nil => rfl
  | cons value rest ih =>
    rw [saved, List.flatMap_cons, List.append_assoc, List.singleton_append,
      List.splitOn_append_cons_self_of_not_mem (notMem_toDigits (by decide) _)]
    exact congrArg _ ih

theorem tokenizer_saved :
    tokenizer (saved values) ' ' =
      some (values.map fun value => Nat.toDigits 10 value.toNat) := by
  rw [tokenizer_eq _ (by decide), cString_eq_self (nul_notMem_saved values), splitOn_saved]
  simp [dropEmptyLast]

namespace Object

variable {valuesCount : UInt16} {dynamicTabCount : Nat}
  (object : Object valuesCount.toNat dynamicTabCount)

def withFields (start : Nat) (values : List UInt32) : Object valuesCount.toNat dynamicTabCount :=
  { object with
    uint32Values := fun index =>
      if start ≤ index ∧ index < start + values.length then values.getD (index - start) 0
      else object.uint32Values index
    changedFields := fun index =>
      decide (start ≤ index ∧ index < start + values.length) || object.changedFields index }

theorem withFields_nil (start : Nat) : object.withFields start [] = object := by
  have hempty (index : Nat) : ¬ (start ≤ index ∧ index < start + 0) := by omega
  simp only [withFields, List.length_nil, hempty, if_false, decide_false, Bool.false_or]

theorem withFields_cons (start : Fin valuesCount.toNat) (value : UInt32) (rest : List UInt32) :
    (object.write start value).withFields (start + 1) rest =
      object.withFields start (value :: rest) := by
  simp only [withFields, write, Object.mk.injEq, List.length_cons, and_true]
  constructor
  · funext index
    by_cases hstart : index = start
    · subst hstart
      simp
    · have hne : index.val ≠ start.val := fun heq => hstart (Fin.ext heq)
      by_cases hin : start + 1 ≤ index.val ∧ index < start + 1 + rest.length
      · have hin' : start.val ≤ index ∧ index < start.val + (rest.length + 1) := by omega
        have hposition : index.val - start = index - (start + 1) + 1 := by omega
        rw [if_pos hin, if_pos hin', hposition, List.getD_cons_succ]
      · have hin' : ¬ (start.val ≤ index ∧ index < start.val + (rest.length + 1)) := by omega
        rw [if_neg hin, if_neg hin', Function.update_of_ne hstart]
  · funext index
    by_cases hstart : index = start
    · subst hstart
      simp
    · have hne : index.val ≠ start.val := fun heq => hstart (Fin.ext heq)
      rw [Function.update_of_ne hstart]
      congr 2
      apply propext
      omega

theorem loadTokens_digits {offset : UInt32}
    (hrange : offset.toNat + values.length ≤ valuesCount.toNat) :
    object.loadTokens offset (values.map fun value => Nat.toDigits 10 value.toNat) =
      some (object.withFields offset.toNat values) := by
  induction values generalizing object offset with
  | nil =>
    rw [withFields_nil]
    rfl
  | cons value rest ih =>
    rw [List.length_cons] at hrange
    have hoffset : offset.toNat < valuesCount.toNat := by omega
    have hnext : (offset + 1).toNat = offset.toNat + 1 := by
      have hcount := valuesCount.toNat_lt
      rw [UInt32.toNat_add, UInt32.toNat_one]
      omega
    have hvalue : UInt32.ofInt (atol (Nat.toDigits 10 value.toNat)) = value := by
      have hlt := value.toNat_lt
      have hmod : (value.toNat : Int) % 2 ^ 32 = value.toNat := by omega
      rw [atol_toDigits (by omega), UInt32.ofInt, hmod, Int.toNat_natCast, UInt32.ofNat_toNat]
    rw [List.map_cons, loadTokens, dif_pos hoffset, hvalue, ih _ (by omega), hnext]
    exact congrArg some (object.withFields_cons ⟨offset.toNat, hoffset⟩ value rest)

/-! ## Round trips -/

variable {startIndex : UInt16} (source : Object valuesCount.toNat dynamicTabCount)

def fieldValues (startIndex size : UInt16) : List UInt32 :=
  (List.range size.toNat).map fun index =>
    if hindex : startIndex.toNat + index < valuesCount.toNat then
      object.uint32Values ⟨startIndex.toNat + index, hindex⟩
    else 0

theorem mapM_eq_some_map {Index Value : Type} {read : Index → Option Value}
    {value : Index → Value} {indices : List Index}
    (hread : ∀ index ∈ indices, read index = some (value index)) :
    indices.mapM read = some (indices.map value) := by
  induction indices with
  | nil => rfl
  | cons index rest ih =>
    rw [List.mapM_cons, hread index List.mem_cons_self,
      ih fun other hother => hread other (List.mem_cons_of_mem _ hother)]
    rfl

theorem concatFields_eq {size : UInt16} (hrange : startIndex.toNat + size.toNat ≤ valuesCount.toNat)
    : object.concatFields startIndex size = some (saved (object.fieldValues startIndex size)) := by
  have hcount := valuesCount.toNat_lt
  have hread : ∀ index ∈ List.range size.toNat,
      ((object.getUInt32Value (UInt16.ofNat index + startIndex)).map fun value =>
        Nat.toDigits 10 value.toNat ++ [' ']) =
      some (Nat.toDigits 10 (if hindex : startIndex.toNat + index < valuesCount.toNat then
        object.uint32Values ⟨startIndex.toNat + index, hindex⟩ else 0).toNat ++ [' ']) := by
    intro index hmem
    have hlt := List.mem_range.mp hmem
    have hin : startIndex.toNat + index < valuesCount.toNat := by omega
    have hindex : (UInt16.ofNat index + startIndex).toNat = startIndex.toNat + index := by
      rw [UInt16.toNat_add, UInt16.toNat_ofNat']
      omega
    simp only [getUInt32Value, hindex, hin, dif_pos, Option.map_some]
  rw [concatFields, mapM_eq_some_map hread, Option.map_some, saved, fieldValues, List.flatMap,
    List.map_map]
  rfl

/-- The object with a range of the fields of another one. -/
def withRange (startIndex size : UInt16) : Object valuesCount.toNat dynamicTabCount :=
  { object with
    uint32Values := fun index =>
      if startIndex.toNat ≤ index ∧ index < startIndex.toNat + size.toNat then
        source.uint32Values index
      else object.uint32Values index
    changedFields := fun index =>
      decide (startIndex.toNat ≤ index ∧ index < startIndex.toNat + size.toNat) ||
        object.changedFields index }

theorem withFields_fieldValues (startIndex size : UInt16) :
    object.withFields startIndex.toNat (source.fieldValues startIndex size) =
      object.withRange source startIndex size := by
  have hlength : (source.fieldValues startIndex size).length = size.toNat := by
    rw [fieldValues, List.length_map, List.length_range]
  simp only [withFields, withRange, hlength, Object.mk.injEq, and_true]
  funext index
  split
  next hin =>
    have hlt : index.val - startIndex.toNat < size.toNat := by omega
    have hposition : startIndex.toNat + (index.val - startIndex.toNat) = index.val := by omega
    rw [fieldValues, List.getD_eq_getElem _ _ (by simpa using hlt), List.getElem_map,
      List.getElem_range]
    simp only [hposition, index.isLt, dif_pos]
  · rfl

/-- Every range of fields comes back, and all else stays. -/
theorem loadIntoDataField_concatFields (target : Object valuesCount.toNat dynamicTabCount)
    {size : UInt16} (hrange : startIndex.toNat + size.toNat ≤ valuesCount.toNat) :
    ∃ text, source.concatFields startIndex size = some text ∧
      target.loadIntoDataField (some text) startIndex.toUInt32 size.toUInt32 =
        some (target.withRange source startIndex size) := by
  have hlength : (source.fieldValues startIndex size).length = size.toNat := by
    rw [fieldValues, List.length_map, List.length_range]
  use saved (source.fieldValues startIndex size), source.concatFields_eq hrange
  rw [← withFields_fieldValues target source, loadIntoDataField,
    cString_eq_self (nul_notMem_saved _), tokenizer_saved]
  have hcount : ((source.fieldValues startIndex size).map
      fun value => Nat.toDigits 10 value.toNat).length = size.toUInt32.toNat := by
    rw [List.length_map, hlength, UInt16.toNat_toUInt32]
  have hload : target.loadTokens startIndex.toUInt32 ((source.fieldValues startIndex size).map
      fun value => Nat.toDigits 10 value.toNat) =
        some (target.withFields startIndex.toNat (source.fieldValues startIndex size)) := by
    rw [← UInt16.toNat_toUInt32, ← hlength] at hrange
    exact target.loadTokens_digits _ hrange
  simp [hcount, hload]

/-- A string with another number of pieces changes nothing. -/
theorem loadIntoDataField_of_length_ne (data : List Char) (startOffset count : UInt32)
    (hcount : (dropEmptyLast ((cString data).splitOn ' ')).length ≠ count.toNat) :
    object.loadIntoDataField (some data) startOffset count = some object := by
  have hsame : cString (cString data) = cString data := cString_eq_self (nul_notMem_cString data)
  rw [loadIntoDataField, tokenizer_eq _ (by decide), hsame]
  simp [hcount]

end Object

/-- A saved range of fields comes back.  The tokens of a string are the pieces of the characters up
to its first zero, without an empty last one, and with another number of them nothing changes. -/
theorem fieldStrings {valuesCount : UInt16} {dynamicTabCount : Nat} :
    (∀ (source target : Object valuesCount.toNat dynamicTabCount) (startIndex size : UInt16),
      startIndex.toNat + size.toNat ≤ valuesCount.toNat →
      ∃ text, source.concatFields startIndex size = some text ∧
        target.loadIntoDataField (some text) startIndex.toUInt32 size.toUInt32 =
          some { target with
            uint32Values := fun index =>
              if startIndex.toNat ≤ index ∧ index < startIndex.toNat + size.toNat then
                source.uint32Values index
              else target.uint32Values index
            changedFields := fun index =>
              decide (startIndex.toNat ≤ index ∧ index < startIndex.toNat + size.toNat) ||
                target.changedFields index }) ∧
    (∀ (src : List Char) (sep : Char), sep ≠ nul →
      tokenizer src sep = some (dropEmptyLast ((cString src).splitOn sep))) ∧
    (∀ (target : Object valuesCount.toNat dynamicTabCount) (data : List Char)
      (startOffset count : UInt32),
      (dropEmptyLast ((cString data).splitOn ' ')).length ≠ count.toNat →
      target.loadIntoDataField (some data) startOffset count = some target) :=
  ⟨fun source target _ _ hrange => Object.loadIntoDataField_concatFields source target hrange,
    fun src _ hsep => tokenizer_eq src hsep,
    fun target data startOffset count hcount =>
      target.loadIntoDataField_of_length_ne data startOffset count hcount⟩

/-- What is behind a zero has no tokens. -/
theorem tokenizer_of_nul :
    tokenizer ['a', nul, ' ', 'b'] ' ' = some [['a']] ∧
      dropEmptyLast (['a', nul, ' ', 'b'].splitOn ' ') = [['a', nul], ['b']] := by
  decide

end MopServer.Updates
