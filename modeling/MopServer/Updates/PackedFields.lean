import MopServer.Foundation.WordParts
import MopServer.Updates.Object

/-! # Packed fields

Some fields hold four bytes or two halfwords.  Setters shift a part into its place, and readers take
it from memory, the lowest byte first.
-/

namespace MopServer.Updates

open MopServer.Foundation MopServer.Packets

namespace Object

variable {valuesCount dynamicTabCount : Nat} (object : Object valuesCount dynamicTabCount)
  (index : UInt16)

/-- The bytes of a field in memory, if the index passes its assertion. -/
def fieldBytes : Option (List UInt8) :=
  if hindex : index.toNat < valuesCount then
    some (ByteBuffer.littleEndian 4 (object.uint32Values ⟨index.toNat, hindex⟩).toNat)
  else none

variable (offset : UInt8)

/-- `GetByteValue`; it asserts the offset. -/
def getByteValue : Option UInt8 :=
  (object.fieldBytes index).bind fun bytes =>
    if offset < 4 then bytes[offset.toNat]? else none

/-- `GetUInt16Value`; it asserts the offset. -/
def getUInt16Value : Option UInt16 :=
  (object.fieldBytes index).bind fun bytes =>
    if offset < 2 then
      some (UInt16.ofNat (ByteBuffer.fromLittleEndian ((bytes.drop (2 * offset.toNat)).take 2)))
    else none

/-- `HasByteFlag`. -/
def hasByteFlag (flag : UInt8) : Option Bool :=
  (object.getByteValue index offset).map fun byte => byte &&& flag ≠ 0

end Object

/-- A call of a setter of a part. -/
inductive PartWrite
  | setByteValue (offset value : UInt8)
  | setByteFlag (offset newFlag : UInt8)
  | removeByteFlag (offset oldFlag : UInt8)
  | setUInt16Value (offset : UInt8) (value : UInt16) (forced : Bool)

variable {write : PartWrite}

namespace PartWrite

variable {valuesCount dynamicTabCount : Nat}

def run (write : PartWrite) (object : Object valuesCount dynamicTabCount) (index : UInt16) :
    Option (Object valuesCount dynamicTabCount) :=
  match write with
  | .setByteValue offset value => object.setByteValue index offset value
  | .setByteFlag offset newFlag => object.setByteFlag index offset newFlag
  | .removeByteFlag offset oldFlag => object.removeByteFlag index offset oldFlag
  | .setUInt16Value offset value forced => object.setUInt16Value index offset value forced

/-- How many bits the parts have. -/
def width : PartWrite → Nat
  | .setUInt16Value _ _ _ => 16
  | _ => 8

def offset : PartWrite → UInt8
  | .setByteValue offset _ => offset
  | .setByteFlag offset _ => offset
  | .removeByteFlag offset _ => offset
  | .setUInt16Value offset _ _ => offset

def forced : PartWrite → Bool
  | .setUInt16Value _ _ forced => forced
  | _ => false

def newPart (write : PartWrite) (old : Nat) : Nat :=
  match write with
  | .setByteValue _ value => value.toNat
  | .setByteFlag _ newFlag => old ||| newFlag.toNat
  | .removeByteFlag _ oldFlag => old &&& (~~~oldFlag).toNat
  | .setUInt16Value _ value _ => value.toNat

def read (write : PartWrite) (object : Object valuesCount dynamicTabCount) (index : UInt16) :
    Option Nat :=
  match write with
  | .setUInt16Value offset _ _ => (object.getUInt16Value index offset).map UInt16.toNat
  | write => (object.getByteValue index write.offset).map UInt8.toNat

/-- The first bit of the part. -/
def start (write : PartWrite) : Nat := write.width * write.offset.toNat

/-- The setter's own check lets the offset through; it lets through one past the field. -/
def Checked (write : PartWrite) : Prop :=
  match write with
  | .setUInt16Value offset _ _ => offset ≤ 2
  | write => write.offset ≤ 4

instance : DecidablePred Checked := fun write =>
  match write with
  | .setUInt16Value offset _ _ => inferInstanceAs (Decidable (offset ≤ 2))
  | .setByteValue offset _ => inferInstanceAs (Decidable (offset ≤ 4))
  | .setByteFlag offset _ => inferInstanceAs (Decidable (offset ≤ 4))
  | .removeByteFlag offset _ => inferInstanceAs (Decidable (offset ≤ 4))

/-- The offset is one of a part of the field. -/
def InField (write : PartWrite) : Prop := write.start + write.width ≤ 32

instance : DecidablePred InField := fun write =>
  inferInstanceAs (Decidable (write.start + write.width ≤ 32))

theorem inField_of_byte (hwidth : write.width = 8) : write.InField ↔ write.offset.toNat < 4 := by
  unfold InField start
  rw [hwidth]
  omega

theorem inField_of_half (hwidth : write.width = 16) : write.InField ↔ write.offset.toNat < 2 := by
  unfold InField start
  rw [hwidth]
  omega

/-- Flags that are set were all set before or none of them was, and there are some, unless the field
is marked already. -/
def SetsAllOrNone (write : PartWrite) (object : Object valuesCount dynamicTabCount)
    (index : UInt16) (marked : Bool) : Prop :=
  match write with
  | .setByteFlag offset newFlag => ∀ old, object.getByteValue index offset = some old →
      (old &&& newFlag = 0 ∨ old &&& newFlag = newFlag) ∧ (newFlag = 0 → marked = true)
  | _ => True

end PartWrite

variable {valuesCount dynamicTabCount : Nat}

/-- The write gives the part its new value, touches no other bit, and marks the field if it changes
or if that is forced; the readers agree. -/
structure WritesPart (write : PartWrite) (object after : Object valuesCount dynamicTabCount)
    (index : UInt16) (field : Fin valuesCount) : Prop where
  part : ∃ old, write.read object index = some old ∧
    write.read after index = some (write.newPart old)
  bits : ∀ bit < 32, ¬(write.start ≤ bit ∧ bit < write.start + write.width) →
    (after.uint32Values field).toNat.testBit bit = (object.uint32Values field).toNat.testBit bit
  marked : after.changedFields field = true ↔ object.changedFields field = true ∨
    after.uint32Values field ≠ object.uint32Values field ∨ write.forced = true
  others : ∀ other, other ≠ field → after.uint32Values other = object.uint32Values other ∧
    after.changedFields other = object.changedFields other
  flags : write.width = 8 → ∀ part, write.read after index = some part → ∀ flag : UInt8,
    after.hasByteFlag index write.offset flag = some (decide (part &&& flag.toNat ≠ 0))

/-! ## Readers -/

variable {offset : UInt8}

theorem getElem?_littleEndian (count value : Nat) {index : Nat} (hindex : index < count) :
    (ByteBuffer.littleEndian count value)[index]? = some (UInt8.ofNat (value / 256 ^ index)) := by
  induction count generalizing value index with
  | zero => omega
  | succ count ih =>
    cases index with
    | zero => simp [ByteBuffer.littleEndian]
    | succ index =>
      have hdiv : value / 256 / 256 ^ index = value / 256 ^ (index + 1) := by
        rw [Nat.div_div_eq_div_mul, Nat.pow_succ, Nat.mul_comm]
      unfold ByteBuffer.littleEndian
      rw [List.getElem?_cons_succ, ih _ (by omega), hdiv]

variable (value : UInt32)

theorem getElem?_littleEndian_word {offset : Nat} (hoffset : offset < 4) :
    (ByteBuffer.littleEndian 4 value.toNat)[offset]? =
      some (UInt8.ofBitVec (value.toBitVec.extractLsb' (8 * offset) 8)) := by
  rw [getElem?_littleEndian _ _ hoffset]
  congr 1
  apply UInt8.toNat_inj.mp
  have hbits : (UInt8.ofBitVec (value.toBitVec.extractLsb' (8 * offset) 8)).toNat =
      value.toNat >>> (8 * offset) % 2 ^ 8 := BitVec.extractLsb'_toNat _ _ _
  rw [hbits, UInt8.toNat_ofNat', Nat.shiftRight_eq_div_pow, Nat.pow_mul]

/-- Two bytes in memory are a halfword of the word. -/
theorem fromLittleEndian_word {offset : Nat} (hoffset : offset < 2) :
    UInt16.ofNat (ByteBuffer.fromLittleEndian
        (((ByteBuffer.littleEndian 4 value.toNat).drop (2 * offset)).take 2)) =
      UInt16.ofBitVec (value.toBitVec.extractLsb' (16 * offset) 16) := by
  apply UInt16.toNat_inj.mp
  have hbits : (UInt16.ofBitVec (value.toBitVec.extractLsb' (16 * offset) 16)).toNat =
      value.toNat >>> (16 * offset) % 2 ^ 16 := BitVec.extractLsb'_toNat _ _ _
  rw [hbits, UInt16.toNat_ofNat', Nat.shiftRight_eq_div_pow]
  have hcases : offset = 0 ∨ offset = 1 := by omega
  rcases hcases with rfl | rfl
  · simp only [ByteBuffer.littleEndian, ByteBuffer.fromLittleEndian, Nat.mul_zero, List.drop_zero,
      List.take_succ_cons, List.take_zero, UInt8.toNat_ofNat', Nat.pow_zero, Nat.div_one]
    omega
  · simp only [ByteBuffer.littleEndian, ByteBuffer.fromLittleEndian, Nat.mul_one,
      List.drop_succ_cons, List.drop_zero, List.take_succ_cons, List.take_zero, UInt8.toNat_ofNat']
    omega

section Setting

variable {index : UInt16} (hindex : index.toNat < valuesCount)
  {object : Object valuesCount dynamicTabCount}

theorem getByteValue_eq (object : Object valuesCount dynamicTabCount) (hoffset : offset.toNat < 4) :
    object.getByteValue index offset = some (UInt8.ofBitVec
      ((object.uint32Values ⟨index.toNat, hindex⟩).toBitVec.extractLsb' (8 * offset.toNat) 8)) := by
  have hlt : offset < 4 := UInt8.lt_iff_toNat_lt.mpr hoffset
  unfold Object.getByteValue Object.fieldBytes
  rw [dif_pos hindex, Option.bind_some, if_pos hlt]
  exact getElem?_littleEndian_word _ hoffset

theorem getUInt16Value_eq (object : Object valuesCount dynamicTabCount)
    (hoffset : offset.toNat < 2) :
    object.getUInt16Value index offset = some (UInt16.ofBitVec
      ((object.uint32Values ⟨index.toNat, hindex⟩).toBitVec.extractLsb' (16 * offset.toNat) 16)) := by
  have hlt : offset < 2 := UInt8.lt_iff_toNat_lt.mpr hoffset
  unfold Object.getUInt16Value Object.fieldBytes
  rw [dif_pos hindex, Option.bind_some, if_pos hlt]
  exact congrArg some (fromLittleEndian_word _ hoffset)

/-- Past the field the readers fail their assertion. -/
theorem getByteValue_eq_none (object : Object valuesCount dynamicTabCount)
    (hoffset : 4 ≤ offset.toNat) : object.getByteValue index offset = none := by
  have hnot : ¬offset < 4 := fun hlt => Nat.not_lt.mpr hoffset (UInt8.lt_iff_toNat_lt.mp hlt)
  unfold Object.getByteValue
  cases object.fieldBytes index with
  | none => rfl
  | some bytes => exact if_neg hnot

theorem getUInt16Value_eq_none (object : Object valuesCount dynamicTabCount)
    (hoffset : 2 ≤ offset.toNat) : object.getUInt16Value index offset = none := by
  have hnot : ¬offset < 2 := fun hlt => Nat.not_lt.mpr hoffset (UInt8.lt_iff_toNat_lt.mp hlt)
  unfold Object.getUInt16Value
  cases object.fieldBytes index with
  | none => rfl
  | some bytes => exact if_neg hnot

theorem read_eq (hin : write.InField) (object : Object valuesCount dynamicTabCount) :
    write.read object index =
      some ((object.uint32Values ⟨index.toNat, hindex⟩).toBitVec.extractLsb' write.start
        write.width).toNat := by
  cases write with
  | setUInt16Value offset value forced =>
    have hoffset := (PartWrite.inField_of_half rfl).mp hin
    exact congrArg (Option.map UInt16.toNat) (getUInt16Value_eq hindex object hoffset)
  | setByteValue offset _ | setByteFlag offset _ | removeByteFlag offset _ =>
    have hoffset := (PartWrite.inField_of_byte rfl).mp hin
    exact congrArg (Option.map UInt8.toNat) (getByteValue_eq hindex object hoffset)

theorem read_eq_none (hout : ¬write.InField) (object : Object valuesCount dynamicTabCount) :
    write.read object index = none := by
  cases write with
  | setUInt16Value offset value forced =>
    have hoffset := Nat.not_lt.mp (mt (PartWrite.inField_of_half rfl).mpr hout)
    exact congrArg (Option.map UInt16.toNat) (getUInt16Value_eq_none object hoffset)
  | setByteValue offset _ | setByteFlag offset _ | removeByteFlag offset _ =>
    have hoffset := Nat.not_lt.mp (mt (PartWrite.inField_of_byte rfl).mpr hout)
    exact congrArg (Option.map UInt8.toNat) (getByteValue_eq_none object hoffset)

theorem hasByteFlag_of_read (hwidth : write.width = 8) {part : Nat}
    (hpart : write.read object index = some part) (flag : UInt8) :
    object.hasByteFlag index write.offset flag = some (decide (part &&& flag.toNat ≠ 0)) := by
  have hbyte : (object.getByteValue index write.offset).map UInt8.toNat = some part := by
    cases write with
    | setUInt16Value offset value forced => cases hwidth
    | setByteValue _ _ | setByteFlag _ _ | removeByteFlag _ _ => exact hpart
  obtain ⟨byte, hget, rfl⟩ := Option.map_eq_some_iff.mp hbyte
  have hzero : byte &&& flag = 0 ↔ byte.toNat &&& flag.toNat = 0 := by
    rw [← UInt8.toNat_inj, UInt8.toNat_and]
    exact Iff.rfl
  unfold Object.hasByteFlag
  rw [hget, Option.map_some]
  simp only [ne_eq, hzero]

/-! ## Setters -/

theorem addToObjectUpdateIfNeeded_fields (object : Object valuesCount dynamicTabCount) :
    object.addToObjectUpdateIfNeeded.uint32Values = object.uint32Values ∧
      object.addToObjectUpdateIfNeeded.changedFields = object.changedFields := by
  unfold Object.addToObjectUpdateIfNeeded
  split <;> exact ⟨rfl, rfl⟩

theorem setField_spec (object : Object valuesCount dynamicTabCount) (replaced : UInt32 → Bool)
    (value : UInt32 → UInt32) :
    ∃ after, object.setField index replaced value = some after ∧
      let field : Fin valuesCount := ⟨index.toNat, hindex⟩
      let old := object.uint32Values field
      after.uint32Values field = (if replaced old then value old else old) ∧
        after.changedFields field = (object.changedFields field || replaced old) ∧
        ∀ other, other ≠ field → after.uint32Values other = object.uint32Values other ∧
          after.changedFields other = object.changedFields other := by
  unfold Object.setField
  rw [dif_pos hindex]
  refine ⟨_, rfl, ?_⟩
  intro field old
  cases hreplaced : replaced old with
  | false => simp [old]
  | true =>
    simp only [if_true, Bool.or_true]
    obtain ⟨hvalues, hchanged⟩ := addToObjectUpdateIfNeeded_fields (object.write field (value old))
    refine ⟨?_, ?_, fun other hother => ⟨?_, ?_⟩⟩
    · exact (congrFun hvalues field).trans (Function.update_self ..)
    · exact (congrFun hchanged field).trans (Function.update_self ..)
    · exact (congrFun hvalues other).trans (Function.update_of_ne hother ..)
    · exact (congrFun hchanged other).trans (Function.update_of_ne hother ..)

/-- A setter that puts a part into the field writes it as it should exactly if it leaves the field
alone when the part has its value, and else marks it. -/
theorem writesPart_iff_of_setField (hin : write.InField) (replaced : UInt32 → Bool)
    (value : UInt32 → UInt32) (new : BitVec write.width) (replaces : Prop)
    (hrun : write.run object index = object.setField index replaced value)
    (hnew : ∀ old, write.read object index = some old → write.newPart old = new.toNat)
    (hvalue : (value (object.uint32Values ⟨index.toNat, hindex⟩)).toBitVec =
      putPart (object.uint32Values ⟨index.toNat, hindex⟩).toBitVec write.start new)
    (hreplaces : replaced (object.uint32Values ⟨index.toNat, hindex⟩) = true ↔ replaces) :
    let field : Fin valuesCount := ⟨index.toNat, hindex⟩
    let part := (object.uint32Values field).toBitVec.extractLsb' write.start write.width
    (∃ after, write.run object index = some after ∧ WritesPart write object after index field) ↔
      (¬replaces → part = new) ∧
        (object.changedFields field = true ∨ replaces ↔
          object.changedFields field = true ∨ part ≠ new ∨ write.forced = true) := by
  intro field part
  rw [← hreplaces, Bool.not_eq_true]
  set old := object.uint32Values field with hold
  obtain ⟨after, hafter, hword, hmark, hothers⟩ := setField_spec hindex object replaced value
  have hread := read_eq hindex hin object
  have hreadAfter := read_eq hindex hin after
  have hexpected := hnew _ hread
  -- What the field holds afterwards, as a word with a part put in.
  have hput : (after.uint32Values field).toBitVec =
      if replaced old then putPart old.toBitVec write.start new else old.toBitVec := by
    rw [hword]
    split
    · exact hvalue
    · rfl
  have hpart : (after.uint32Values field).toBitVec.extractLsb' write.start write.width = new ↔
      (replaced old = false → part = new) := by
    rw [hput]
    cases replaced old with
    | false =>
      rw [if_neg Bool.false_ne_true]
      exact ⟨fun heq _ => heq, fun himp => himp rfl⟩
    | true =>
      rw [if_pos rfl, extractLsb'_putPart _ _ hin]
      exact ⟨fun _ hfalse => absurd hfalse (by decide), fun _ => rfl⟩
  have hsame : (replaced old = false → part = new) →
      (after.uint32Values field ≠ old ↔ part ≠ new) := by
    intro hleft
    refine not_congr ⟨fun heq => ?_, fun heq => ?_⟩
    · have hnow := hpart.mpr hleft
      rwa [heq] at hnow
    · apply UInt32.toBitVec_inj.mp
      rw [hput]
      split
      · exact (putPart_eq_self_iff _ _ hin).mpr heq
      · rfl
  have hmarked : after.changedFields field = true ↔
      object.changedFields field = true ∨ replaced old = true := by
    rw [hmark, Bool.or_eq_true]
  constructor
  · rintro ⟨written, hwritten, hwrites⟩
    rw [hrun, hafter] at hwritten
    cases hwritten
    obtain ⟨before, hbefore, hnow⟩ := hwrites.part
    rw [hreadAfter, hnew _ hbefore] at hnow
    have hleft := hpart.mp (BitVec.toNat_inj.mp (Option.some.inj hnow))
    refine ⟨hleft, ?_⟩
    rw [← hmarked, hwrites.marked, hsame hleft]
  · rintro ⟨hleft, hmarks⟩
    refine ⟨after, hrun.trans hafter, ?_⟩
    exact
      { part := ⟨_, hread, by rw [hreadAfter, hexpected, hpart.mpr hleft]⟩
        bits := fun bit hbit hout => by
          show (after.uint32Values field).toBitVec.getLsbD bit = old.toBitVec.getLsbD bit
          rw [hput]
          split
          · rw [getLsbD_putPart _ _ _ hbit, if_neg hout]
          · rfl
        marked := by rw [hmarked, hmarks, hsame hleft]
        others := hothers
        flags := fun hwidth part hpart flag => hasByteFlag_of_read hwidth hpart flag }

end Setting

variable {size : UInt8} (hlt : size.toNat * offset.toNat < 32)

include hlt in
/-- The shifts of the setters, inside the field. -/
theorem toNat_shift :
    ((offset * size).toUInt32.toBitVec % 32).toNat = size.toNat * offset.toNat := by
  have hmul : (offset * size).toUInt32.toNat = size.toNat * offset.toNat := by
    rw [UInt8.toNat_toUInt32, UInt8.toNat_mul, Nat.mul_comm offset.toNat]
    omega
  rw [BitVec.toNat_umod, UInt32.toNat_toBitVec, hmul]
  exact Nat.mod_eq_of_lt hlt

include hlt in
theorem toBitVec_shiftLeft_part (word : UInt32) :
    (word <<< (offset * size).toUInt32).toBitVec =
      word.toBitVec <<< (size.toNat * offset.toNat) := by
  rw [UInt32.toBitVec_shiftLeft, BitVec.shiftLeft_eq']
  congr 1
  exact toNat_shift hlt

include hlt in
theorem toBitVec_partOf (word : UInt32) (w : Nat) :
    (Object.partOf word size offset).toBitVec.setWidth w =
      word.toBitVec.extractLsb' (size.toNat * offset.toNat) w := by
  unfold Object.partOf
  rw [UInt32.toBitVec_shiftRight, BitVec.ushiftRight_eq',
    ← BitVec.setWidth_ushiftRight_eq_extractLsb]
  congr 2
  exact toNat_shift hlt

/-! ## Writes of parts -/

theorem eq_or_self_iff {w : Nat} (part flag : BitVec w) :
    part = part ||| flag ↔ part &&& flag = flag := by
  constructor
  · intro heq
    apply BitVec.eq_of_getLsbD_eq
    intro bit _
    rw [heq, BitVec.getLsbD_and, BitVec.getLsbD_or]
    cases part.getLsbD bit <;> cases flag.getLsbD bit <;> rfl
  · intro heq
    apply BitVec.eq_of_getLsbD_eq
    intro bit _
    rw [← heq, BitVec.getLsbD_or, BitVec.getLsbD_and]
    cases part.getLsbD bit <;> cases flag.getLsbD bit <;> rfl

theorem eq_and_not_self_iff {w : Nat} (part flag : BitVec w) :
    part = part &&& ~~~flag ↔ part &&& flag = 0#w := by
  constructor
  · intro heq
    apply BitVec.eq_of_getLsbD_eq
    intro bit hbit
    rw [heq, BitVec.getLsbD_and, BitVec.getLsbD_and, BitVec.getLsbD_not, BitVec.getLsbD_zero]
    cases part.getLsbD bit <;> cases flag.getLsbD bit <;> simp
  · intro hzero
    apply BitVec.eq_of_getLsbD_eq
    intro bit hbit
    have hnone := congrArg (fun bits : BitVec w => bits.getLsbD bit) hzero
    simp only [BitVec.getLsbD_and, BitVec.getLsbD_zero] at hnone
    rw [BitVec.getLsbD_and, BitVec.getLsbD_not, decide_eq_true hbit]
    cases hpart : part.getLsbD bit with
    | false => rfl
    | true =>
      rw [hpart, Bool.true_and] at hnone
      rw [hnone]
      rfl

theorem toBitVec_byteOf (hoffset : offset.toNat < 4) (word : UInt32) :
    (Object.partOf word 8 offset).toUInt8.toBitVec =
      word.toBitVec.extractLsb' (8 * offset.toNat) 8 := by
  have hlt : (8 : UInt8).toNat * offset.toNat < 32 := by
    change 8 * offset.toNat < 32
    omega
  exact toBitVec_partOf hlt word 8

theorem toBitVec_byte_shiftLeft (hoffset : offset.toNat < 4) (word : UInt32) :
    (word <<< (offset * 8).toUInt32).toBitVec = word.toBitVec <<< (8 * offset.toNat) := by
  have hlt : (8 : UInt8).toNat * offset.toNat < 32 := by
    change 8 * offset.toNat < 32
    omega
  exact toBitVec_shiftLeft_part hlt word

theorem toBitVec_halfOf (hoffset : offset.toNat < 2) (word : UInt32) :
    (Object.partOf word 16 offset).toUInt16.toBitVec =
      word.toBitVec.extractLsb' (16 * offset.toNat) 16 := by
  have hlt : (16 : UInt8).toNat * offset.toNat < 32 := by
    change 16 * offset.toNat < 32
    omega
  exact toBitVec_partOf hlt word 16

theorem toBitVec_half_shiftLeft (hoffset : offset.toNat < 2) (word : UInt32) :
    (word <<< (offset * 16).toUInt32).toBitVec = word.toBitVec <<< (16 * offset.toNat) := by
  have hlt : (16 : UInt8).toNat * offset.toNat < 32 := by
    change 16 * offset.toNat < 32
    omega
  exact toBitVec_shiftLeft_part hlt word

section Writes

variable {index : UInt16} (hindex : index.toNat < valuesCount)
  (object : Object valuesCount dynamicTabCount)

theorem writesPart_setByteValue (hoffset : offset.toNat < 4) (value : UInt8) :
    ∃ after, (PartWrite.setByteValue offset value).run object index = some after ∧
      WritesPart (.setByteValue offset value) object after index ⟨index.toNat, hindex⟩ := by
  have hle : offset ≤ 4 := UInt8.le_iff_toNat_le.mpr (Nat.le_of_lt hoffset)
  have hin : (PartWrite.setByteValue offset value).InField :=
    (PartWrite.inField_of_byte rfl).mpr hoffset
  refine (writesPart_iff_of_setField hindex hin
    (fun old => offset ≤ 4 && (Object.partOf old 8 offset).toUInt8 ≠ value)
    (fun old => (old &&& ~~~(0xFF <<< (offset * 8).toUInt32)) |||
      (value.toUInt32 <<< (offset * 8).toUInt32)) value.toBitVec
    ((object.uint32Values ⟨index.toNat, hindex⟩).toBitVec.extractLsb' (8 * offset.toNat) 8 ≠
      value.toBitVec) rfl (fun _ _ => rfl) ?_ ?_).mpr ?_
  · rw [UInt32.toBitVec_or, UInt32.toBitVec_and, UInt32.toBitVec_not,
      toBitVec_byte_shiftLeft hoffset, toBitVec_byte_shiftLeft hoffset]
    rfl
  · rw [decide_eq_true hle, Bool.true_and, decide_eq_true_eq, ← toBitVec_byteOf hoffset,
      ne_eq, ne_eq, UInt8.toBitVec_inj]
  · refine ⟨not_not.mp, or_congr_right ⟨Or.inl, fun hforced => ?_⟩⟩
    exact hforced.resolve_right Bool.false_ne_true

theorem writesPart_setUInt16Value (hoffset : offset.toNat < 2) (value : UInt16) (forced : Bool) :
    ∃ after, (PartWrite.setUInt16Value offset value forced).run object index = some after ∧
      WritesPart (.setUInt16Value offset value forced) object after index
        ⟨index.toNat, hindex⟩ := by
  have hle : offset ≤ 2 := UInt8.le_iff_toNat_le.mpr (Nat.le_of_lt hoffset)
  have hin : (PartWrite.setUInt16Value offset value forced).InField :=
    (PartWrite.inField_of_half rfl).mpr hoffset
  refine (writesPart_iff_of_setField hindex hin
    (fun old => offset ≤ 2 && (forced || (Object.partOf old 16 offset).toUInt16 ≠ value))
    (fun old => (old &&& ~~~(0xFFFF <<< (offset * 16).toUInt32)) |||
      (value.toUInt32 <<< (offset * 16).toUInt32)) value.toBitVec
    (forced = true ∨ (object.uint32Values ⟨index.toNat, hindex⟩).toBitVec.extractLsb'
      (16 * offset.toNat) 16 ≠ value.toBitVec) rfl (fun _ _ => rfl) ?_ ?_).mpr ?_
  · rw [UInt32.toBitVec_or, UInt32.toBitVec_and, UInt32.toBitVec_not,
      toBitVec_half_shiftLeft hoffset, toBitVec_half_shiftLeft hoffset]
    rfl
  · rw [decide_eq_true hle, Bool.true_and, Bool.or_eq_true, decide_eq_true_eq,
      ← toBitVec_halfOf hoffset, ne_eq, ne_eq, UInt16.toBitVec_inj]
  · exact ⟨fun hkept => not_not.mp fun hne => hkept (.inr hne), or_congr_right or_comm⟩

theorem writesPart_removeByteFlag (hoffset : offset.toNat < 4) (oldFlag : UInt8) :
    ∃ after, (PartWrite.removeByteFlag offset oldFlag).run object index = some after ∧
      WritesPart (.removeByteFlag offset oldFlag) object after index ⟨index.toNat, hindex⟩ := by
  have hle : offset ≤ 4 := UInt8.le_iff_toNat_le.mpr (Nat.le_of_lt hoffset)
  have hfits : 8 * offset.toNat + 8 ≤ 32 := by omega
  have hin : (PartWrite.removeByteFlag offset oldFlag).InField := hfits
  set word := object.uint32Values ⟨index.toNat, hindex⟩ with hword
  have hread := read_eq hindex hin object
  refine (writesPart_iff_of_setField hindex hin
    (fun old => offset ≤ 4 && (Object.partOf old 8 offset).toUInt8 &&& oldFlag ≠ 0)
    (fun old => old &&& ~~~(oldFlag.toUInt32 <<< (offset * 8).toUInt32))
    (word.toBitVec.extractLsb' (8 * offset.toNat) 8 &&& ~~~oldFlag.toBitVec)
    (word.toBitVec.extractLsb' (8 * offset.toNat) 8 &&& oldFlag.toBitVec ≠ 0#8)
    rfl ?_ ?_ ?_).mpr ?_
  · intro old hold
    rw [hread] at hold
    cases hold
    exact (BitVec.toNat_and ..).symm
  · rw [UInt32.toBitVec_and, UInt32.toBitVec_not, toBitVec_byte_shiftLeft hoffset]
    exact withFlags_setWidth_shiftLeft word.toBitVec oldFlag.toBitVec hfits false
  · rw [decide_eq_true hle, Bool.true_and, decide_eq_true_eq, ← toBitVec_byteOf hoffset, ne_eq,
      ne_eq, ← UInt8.toBitVec_inj]
    exact Iff.rfl
  · refine ⟨fun hzero => (eq_and_not_self_iff _ _).mpr (not_not.mp hzero), or_congr_right ?_⟩
    rw [ne_eq, ← eq_and_not_self_iff]
    exact ⟨Or.inl, fun hforced => hforced.resolve_right Bool.false_ne_true⟩

theorem writesPart_setByteFlag_iff (hoffset : offset.toNat < 4) (newFlag : UInt8) :
    (∃ after, (PartWrite.setByteFlag offset newFlag).run object index = some after ∧
      WritesPart (.setByteFlag offset newFlag) object after index ⟨index.toNat, hindex⟩) ↔
      (PartWrite.setByteFlag offset newFlag).SetsAllOrNone object index
        (object.changedFields ⟨index.toNat, hindex⟩) := by
  have hle : offset ≤ 4 := UInt8.le_iff_toNat_le.mpr (Nat.le_of_lt hoffset)
  have hfits : 8 * offset.toNat + 8 ≤ 32 := by omega
  have hin : (PartWrite.setByteFlag offset newFlag).InField := hfits
  set word := object.uint32Values ⟨index.toNat, hindex⟩ with hword
  set part := word.toBitVec.extractLsb' (8 * offset.toNat) 8 with hpart
  have hread := read_eq hindex hin object
  have hbyte := getByteValue_eq hindex object hoffset
  have hnew : ∀ old, (PartWrite.setByteFlag offset newFlag).read object index = some old →
      (PartWrite.setByteFlag offset newFlag).newPart old = (part ||| newFlag.toBitVec).toNat := by
    intro old hold
    rw [hread] at hold
    cases hold
    exact (BitVec.toNat_or ..).symm
  have hvalue : (word ||| (newFlag.toUInt32 <<< (offset * 8).toUInt32)).toBitVec =
      putPart word.toBitVec (8 * offset.toNat) (part ||| newFlag.toBitVec) := by
    rw [UInt32.toBitVec_or, toBitVec_byte_shiftLeft hoffset]
    exact withFlags_setWidth_shiftLeft word.toBitVec newFlag.toBitVec hfits true
  have hreplaces : (offset ≤ 4 && (Object.partOf word 8 offset).toUInt8 &&& newFlag = 0) = true ↔
      part &&& newFlag.toBitVec = 0#8 := by
    rw [decide_eq_true hle, Bool.true_and, decide_eq_true_eq, hpart, ← toBitVec_byteOf hoffset,
      ← UInt8.toBitVec_inj]
    exact Iff.rfl
  have hiff := writesPart_iff_of_setField hindex hin
    (fun old => offset ≤ 4 && (Object.partOf old 8 offset).toUInt8 &&& newFlag = 0)
    (fun old => old ||| (newFlag.toUInt32 <<< (offset * 8).toUInt32))
    (part ||| newFlag.toBitVec) _ rfl hnew hvalue hreplaces
  have hall : UInt8.ofBitVec part &&& newFlag = newFlag ↔ part &&& newFlag.toBitVec =
      newFlag.toBitVec := by
    rw [← UInt8.toBitVec_inj]
    exact Iff.rfl
  have hnone : UInt8.ofBitVec part &&& newFlag = 0 ↔ part &&& newFlag.toBitVec = 0#8 := by
    rw [← UInt8.toBitVec_inj]
    exact Iff.rfl
  have hzero : newFlag = 0 ↔ newFlag.toBitVec = 0#8 := by
    rw [← UInt8.toBitVec_inj]
    exact Iff.rfl
  unfold PartWrite.SetsAllOrNone
  simp only [hbyte, Option.some.injEq, forall_eq']
  rw [hall, hnone, hzero]
  have hboth : part &&& newFlag.toBitVec = 0#8 →
      (part &&& newFlag.toBitVec = newFlag.toBitVec ↔ newFlag.toBitVec = 0#8) := by
    intro heq
    rw [heq]
    exact eq_comm
  have hempty : newFlag.toBitVec = 0#8 → part &&& newFlag.toBitVec = 0#8 := by
    intro heq
    rw [heq, BitVec.and_zero]
  refine hiff.trans ?_
  change (¬part &&& newFlag.toBitVec = 0#8 → part = part ||| newFlag.toBitVec) ∧
    (object.changedFields ⟨index.toNat, hindex⟩ = true ∨ part &&& newFlag.toBitVec = 0#8 ↔
      object.changedFields ⟨index.toNat, hindex⟩ = true ∨ ¬part = part ||| newFlag.toBitVec ∨
        false = true) ↔ _
  rw [eq_or_self_iff]
  by_cases hset : part &&& newFlag.toBitVec = 0#8
  · rw [hboth hset]
    by_cases hflag : newFlag.toBitVec = 0#8 <;> simp [hset, hflag]
  · have hflag : newFlag.toBitVec ≠ 0#8 := fun heq => hset (hempty heq)
    by_cases hfull : part &&& newFlag.toBitVec = newFlag.toBitVec <;> simp [hset, hflag, hfull]

end Writes

theorem not_writesPart_of_not_inField (hout : ¬write.InField)
    (object after : Object valuesCount dynamicTabCount) (index : UInt16) (field : Fin valuesCount) :
    ¬WritesPart write object after index field := by
  intro hwrites
  obtain ⟨old, hread, _⟩ := hwrites.part
  rw [read_eq_none hout object] at hread
  cases hread

theorem writesPart_iff (write : PartWrite) (object : Object valuesCount dynamicTabCount)
    (index : UInt16) (hindex : index.toNat < valuesCount) :
    (∃ after, write.run object index = some after ∧
      WritesPart write object after index ⟨index.toNat, hindex⟩) ↔
      write.InField ∧ write.SetsAllOrNone object index
        (object.changedFields ⟨index.toNat, hindex⟩) := by
  by_cases hin : write.InField
  case neg =>
    refine ⟨fun ⟨after, _, hwrites⟩ => ?_, fun hboth => absurd hboth.1 hin⟩
    exact absurd hwrites (not_writesPart_of_not_inField hin object after index _)
  rw [and_iff_right hin]
  cases write with
  | setByteValue offset value =>
    have hoffset := (PartWrite.inField_of_byte rfl).mp hin
    exact iff_of_true (writesPart_setByteValue hindex object hoffset value) trivial
  | setByteFlag offset newFlag =>
    have hoffset := (PartWrite.inField_of_byte rfl).mp hin
    exact writesPart_setByteFlag_iff hindex object hoffset newFlag
  | removeByteFlag offset oldFlag =>
    have hoffset := (PartWrite.inField_of_byte rfl).mp hin
    exact iff_of_true (writesPart_removeByteFlag hindex object hoffset oldFlag) trivial
  | setUInt16Value offset value forced =>
    have hoffset := (PartWrite.inField_of_half rfl).mp hin
    exact iff_of_true (writesPart_setUInt16Value hindex object hoffset value forced) trivial

/-- A setter whose check lets the offset through writes its part as it should exactly if the part is
one of the field, and the flags to be set were all set before or none of them was. -/
theorem writesPart_iff_setsAllOrNone (write : PartWrite)
    (object : Object valuesCount dynamicTabCount) (index : UInt16)
    (hindex : index.toNat < valuesCount) :
    (write.Checked → ∃ after, write.run object index = some after ∧
      WritesPart write object after index ⟨index.toNat, hindex⟩) ↔
      (write.Checked → write.InField ∧ write.SetsAllOrNone object index
        (object.changedFields ⟨index.toNat, hindex⟩)) :=
  imp_congr_right fun _ => writesPart_iff write object index hindex

def blank (value : UInt32) : Object 1 0 where
  uint32Values := fun _ => value
  changedFields := fun _ => false
  dynamicFields := Fin.elim0
  fieldNotifyFlags := 0
  inWorld := false
  objectUpdated := false

theorem writesPart_secondByte :
    ∃ after, (PartWrite.setByteFlag 1 0x03).run (blank 0) 0 = some after ∧
      WritesPart (.setByteFlag 1 0x03) (blank 0) after 0 0 := by
  refine (writesPart_iff_setsAllOrNone (.setByteFlag 1 0x03) (blank 0) 0 (by decide)).mpr ?_
    (by decide)
  refine fun _ => ⟨by decide, fun old hold => ?_⟩
  cases hold
  exact ⟨.inl rfl, fun hzero => absurd hzero (by decide)⟩

/-- One of two flags is set, and both are asked for; the other stays clear. -/
theorem not_writesPart_halfSet :
    ¬((PartWrite.setByteFlag 0 0x03).Checked →
      ∃ after, (PartWrite.setByteFlag 0 0x03).run (blank 1) 0 = some after ∧
        WritesPart (.setByteFlag 0 0x03) (blank 1) after 0 0) := by
  intro hwrites
  obtain ⟨_, hsets⟩ := (writesPart_iff (.setByteFlag 0 0x03) (blank 1) 0 (by decide)).mp
    (hwrites (by decide))
  obtain ⟨hnone | hall, _⟩ := hsets 1 rfl
  · exact absurd hnone (by decide)
  · exact absurd hall (by decide)

end MopServer.Updates
