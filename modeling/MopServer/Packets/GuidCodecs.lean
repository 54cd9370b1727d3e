import Mathlib.Data.List.OfFn
import Mathlib.Logic.Equiv.Defs
import Mathlib.Tactic.Ring
import MopServer.Packets.Desync
import MopServer.Packets.ReadSafety

/-! # Guids in packets

A guid is written as a mark of the bytes that are not zero, followed by these bytes: packed into one
block, or as eight bits in one order and the bytes in another one.
-/

namespace MopServer.Packets

open Foundation ByteBuffer

/-- The bytes of a guid, the lowest one first. -/
@[ext]
structure ObjectGuid where
  byte : Fin 8 → UInt8

namespace ObjectGuid

def ofUInt64 (guid : UInt64) : ObjectGuid :=
  { byte := fun index => (littleEndian 8 guid.toNat).getD index 0 }

variable (guid : ObjectGuid)

def toUInt64 : UInt64 := UInt64.ofNat (fromLittleEndian (List.ofFn guid.byte))

def set (index : Fin 8) (value : UInt8) : ObjectGuid :=
  { byte := Function.update guid.byte index value }

theorem set_byte (index : Fin 8) (value : UInt8) :
    (guid.set index value).byte = Function.update guid.byte index value := rfl

theorem toUInt64_ofUInt64 (guid : UInt64) : (ofUInt64 guid).toUInt64 = guid := by
  have hbytes : List.ofFn (ofUInt64 guid).byte = littleEndian 8 guid.toNat := by
    apply List.ext_getElem
    · rw [List.length_ofFn, length_littleEndian]
    · intro index _ hindex
      rw [List.getElem_ofFn]
      exact List.getD_eq_getElem _ _ hindex
  rw [toUInt64, hbytes, fromLittleEndian_littleEndian _ _ guid.toNat_lt, UInt64.ofNat_toNat]

end ObjectGuid

namespace ByteBuffer

/-! ## Bits and bytes in order -/

variable (buffer : ByteBuffer) (guid : ObjectGuid) (order : Fin 8 → Fin 8)

/-- One cycle of `WriteBitInOrder`. -/
def writeBitAt (index : Fin 8) : Except Fault ByteBuffer := buffer.writeBit (guid.byte index ≠ 0)

def writeBitInOrder : Except Fault ByteBuffer :=
  (List.ofFn order).foldlM (fun buffer index => buffer.writeBitAt guid index) buffer

/-- One cycle of `WriteBytesSeq`. -/
def writeByteAt (index : Fin 8) : Except Fault ByteBuffer := buffer.writeByteSeq (guid.byte index)

def writeBytesSeq : Except Fault ByteBuffer :=
  (List.ofFn order).foldlM (fun buffer index => buffer.writeByteAt guid index) buffer

variable (read : ObjectGuid × ByteBuffer)

/-- One cycle of `ReadBitInOrder`. -/
def readBitAt (index : Fin 8) : Except Fault (ObjectGuid × ByteBuffer) :=
  (read.2.readBit).map fun (bit, buffer) => (read.1.set index (if bit then 1 else 0), buffer)

def readBitInOrder : Except Fault (ObjectGuid × ByteBuffer) :=
  (List.ofFn order).foldlM readBitAt (guid, buffer)

/-- One cycle of `ReadBytesSeq`. -/
def readByteAt (index : Fin 8) : Except Fault (ObjectGuid × ByteBuffer) :=
  (read.2.readByteSeq (read.1.byte index)).map fun (byte, buffer) =>
    (read.1.set index byte, buffer)

def readBytesSeq : Except Fault (ObjectGuid × ByteBuffer) :=
  (List.ofFn order).foldlM readByteAt (guid, buffer)

variable (bitOrder byteOrder : Fin 8 → Fin 8)

def writeGuid : Except Fault ByteBuffer := do
  let buffer ← buffer.writeBitInOrder guid bitOrder
  buffer.resetBits.writeBytesSeq guid byteOrder

def readGuid : Except Fault (ObjectGuid × ByteBuffer) := do
  let (guid, buffer) ← buffer.readBitInOrder guid bitOrder
  buffer.resetBits.readBytesSeq guid byteOrder

/-! ## One block -/

/-- The loop of `appendPackGUID` over the bytes of the guid that are left. -/
def packBytes (guid : Nat) (i : Nat) (packGUID : UInt8 × List UInt8) : UInt8 × List UInt8 :=
  if _hguid : guid = 0 then packGUID
  else
    packBytes (guid >>> 8) (i + 1)
      (if guid &&& 0xFF ≠ 0 then
        (packGUID.1 ||| UInt8.ofNat (1 <<< i), packGUID.2 ++ [UInt8.ofNat (guid &&& 0xFF)])
      else packGUID)
  termination_by guid
  decreasing_by
    rw [Nat.shiftRight_eq_div_pow]
    exact Nat.div_lt_self (Nat.pos_of_ne_zero _hguid) (by decide)

/-- The mark and the bytes that are not zero. -/
def packGUID (guid : UInt64) : List UInt8 :=
  let packed := packBytes guid.toNat 0 (0, [])
  packed.1 :: packed.2

def appendPackGUID (guid : UInt64) : Except Fault ByteBuffer := buffer.append (packGUID guid)

end ByteBuffer

/-! ## Fields of a guid -/

variable (guid : ObjectGuid) (indices : List (Fin 8))

/-- The presence bits of some bytes. -/
def bitFields : List Field :=
  indices.map fun index => .bit (guid.byte index ≠ 0)

def byteFields : List Field :=
  indices.map fun index => .guidByte (guid.byte index)

theorem writeFields_map (field : Fin 8 → Field) (indices : List (Fin 8)) (buffer : ByteBuffer) :
    writeFields (indices.map field) buffer =
      indices.foldlM (fun buffer index => writeField (field index) buffer) buffer := by
  induction indices generalizing buffer with
  | nil => rfl
  | cons index rest ih =>
    rw [List.map_cons, writeFields, List.foldlM_cons]
    cases writeField (field index) buffer with
    | error fault => rfl
    | ok written => exact ih written

variable (buffer : ByteBuffer)

theorem writeBitInOrder_eq (guid : ObjectGuid) (order : Fin 8 → Fin 8) :
    buffer.writeBitInOrder guid order = writeFields (bitFields guid (List.ofFn order)) buffer := by
  rw [bitFields, writeFields_map]
  rfl

theorem writeBytesSeq_eq (guid : ObjectGuid) (order : Fin 8 → Fin 8) :
    buffer.writeBytesSeq guid order = writeFields (byteFields guid (List.ofFn order)) buffer := by
  rw [byteFields, writeFields_map]
  rfl

/-- A flush before the bytes of a guid leaves the same bytes. -/
theorem map_writeFields_resetBits :
    (writeFields (byteFields guid indices) buffer.resetBits).map ByteBuffer.storage =
      (writeFields (byteFields guid indices) buffer).map ByteBuffer.storage := by
  induction indices generalizing buffer with
  | nil => rfl
  | cons index rest ih =>
    simp only [byteFields, List.map_cons, writeFields, writeField, writeByteSeq]
    by_cases hzero : guid.byte index = 0
    · simp only [hzero, ne_eq, not_true_eq_false, if_false]
      exact ih buffer
    · simp only [hzero, ne_eq, not_false_eq_true, if_true]
      rfl

/-! ## Reading the fields of a guid -/

variable {indices : List (Fin 8)} {buffer rest : ByteBuffer}

/-- The guid with other values at some bytes. -/
def ObjectGuid.setAll (guid : ObjectGuid) (indices : List (Fin 8)) (value : Fin 8 → UInt8) :
    ObjectGuid :=
  { byte := fun index => if index ∈ indices then value index else guid.byte index }

theorem ObjectGuid.setAll_cons (guid : ObjectGuid) (index : Fin 8) (rest : List (Fin 8))
    (value : Fin 8 → UInt8) :
    (guid.set index (value index)).setAll rest value = guid.setAll (index :: rest) value := by
  simp only [setAll, set, ObjectGuid.mk.injEq, List.mem_cons]
  funext other
  by_cases hother : other = index
  · subst hother
    simp
  · simp [hother]

theorem ObjectGuid.setAll_byte_of_mem (guid : ObjectGuid) {index : Fin 8} (hmem : index ∈ indices)
    (value : Fin 8 → UInt8) : (guid.setAll indices value).byte index = value index := if_pos hmem

theorem ObjectGuid.setAll_byte_self (guid other : ObjectGuid) (hall : ∀ index, index ∈ indices) :
    other.setAll indices guid.byte = guid := by
  ext index
  rw [other.setAll_byte_of_mem (hall index) guid.byte]

theorem readFields_cons_ok {shape : Shape} {shapes : List Shape} {value : Value}
    {values : List Value}
    (hread : readFields (shape :: shapes) buffer = .ok (value :: values, rest)) :
    ∃ middle, readField shape buffer = .ok (value, middle) ∧
      readFields shapes middle = .ok (values, rest) := by
  rw [readFields] at hread
  cases hfield : readField shape buffer with
  | error fault =>
    rw [hfield] at hread
    cases hread
  | ok result =>
    obtain ⟨first, middle⟩ := result
    rw [hfield] at hread
    dsimp only at hread
    cases hfields : readFields shapes middle with
    | error fault =>
      rw [hfields] at hread
      cases hread
    | ok result =>
      obtain ⟨others, last⟩ := result
      rw [hfields] at hread
      cases hread
      exact ⟨middle, rfl, hfields⟩

theorem foldlM_readBitAt (present : Fin 8 → Bool) (indices : List (Fin 8)) (guid : ObjectGuid)
    (hread : readFields (indices.map fun _ => .bit) buffer =
      .ok (indices.map fun index => .bit (present index), rest)) :
    indices.foldlM readBitAt (guid, buffer) =
      .ok (guid.setAll indices fun index => if present index then 1 else 0, rest) := by
  induction indices generalizing guid buffer with
  | nil =>
    cases hread
    simp [ObjectGuid.setAll, pure, Except.pure]
  | cons index others ih =>
    obtain ⟨middle, hbit, hothers⟩ := readFields_cons_ok hread
    have hstep : readBitAt (guid, buffer) index =
        .ok (guid.set index (if present index then 1 else 0), middle) := by
      rw [readField] at hbit
      rw [readBitAt]
      cases hresult : buffer.readBit with
      | error fault =>
        rw [hresult] at hbit
        cases hbit
      | ok result =>
        obtain ⟨bit, after⟩ := result
        rw [hresult] at hbit
        cases hbit
        rfl
    rw [List.foldlM_cons, hstep]
    exact (ih _ hothers).trans (by rw [← ObjectGuid.setAll_cons])

theorem foldlM_readByteAt (value : Fin 8 → UInt8) (hnodup : indices.Nodup) (guid : ObjectGuid)
    (hguid : ∀ index ∈ indices, guid.byte index = if value index ≠ 0 then 1 else 0)
    (hread : readFields (indices.map fun index => .guidByte (value index ≠ 0)) buffer =
      .ok (indices.map fun index => .byte (value index), rest)) :
    indices.foldlM readByteAt (guid, buffer) = .ok (guid.setAll indices value, rest) := by
  induction indices generalizing guid buffer with
  | nil =>
    cases hread
    simp [ObjectGuid.setAll, pure, Except.pure]
  | cons index others ih =>
    obtain ⟨middle, hbyte, hothers⟩ := readFields_cons_ok hread
    obtain ⟨hindex, hnodup⟩ := List.nodup_cons.mp hnodup
    have hstep : readByteAt (guid, buffer) index = .ok (guid.set index (value index), middle) := by
      rw [readField] at hbyte
      rw [readByteAt, hguid index List.mem_cons_self]
      simp only [decide_eq_true_eq] at hbyte
      cases hresult : buffer.readByteSeq (if value index ≠ 0 then 1 else 0) with
      | error fault =>
        rw [hresult] at hbyte
        cases hbyte
      | ok result =>
        obtain ⟨byte, after⟩ := result
        rw [hresult] at hbyte
        cases hbyte
        rfl
    have hrest : ∀ other ∈ others,
        (guid.set index (value index)).byte other = if value other ≠ 0 then 1 else 0 := by
      intro other hother
      have hne : other ≠ index := fun heq => hindex (heq ▸ hother)
      rw [ObjectGuid.set_byte, Function.update_of_ne hne]
      exact hguid other (List.mem_cons_of_mem _ hother)
    rw [List.foldlM_cons, hstep]
    exact (ih hnodup _ hrest hothers).trans (by rw [← ObjectGuid.setAll_cons])

/-! ## Bits in one order and bytes in another -/

/-- The room of a bit for each of some bytes. -/
def bitLayouts (indices : List (Fin 8)) : List Layout := indices.map fun _ => .bits 1

def byteLayouts (guid : ObjectGuid) (indices : List (Fin 8)) : List Layout :=
  indices.map fun index => .bytes (if guid.byte index ≠ 0 then 1 else 0)

theorem layouts_eq (first second : List (Fin 8)) :
    ((bitFields guid first ++ byteFields guid second).map Field.shape).map Shape.layout =
      bitLayouts first ++ byteLayouts guid second := by
  rw [List.map_append, List.map_append, bitFields, byteFields, bitLayouts, byteLayouts]
  simp only [List.map_map]
  congr 1
  apply List.map_congr_left
  intro index _
  simp [Field.shape, Shape.layout]

theorem foldl_bitLayouts (indices : List (Fin 8)) (position : Nat) :
    (bitLayouts indices).foldl Progress.advance ⟨position, false⟩ =
      ⟨position + indices.length, false⟩ := by
  induction indices generalizing position with
  | nil => rfl
  | cons index rest ih =>
    rw [bitLayouts, List.map_cons, List.foldl_cons, List.length_cons]
    have hnext := ih (position + 1)
    rw [Nat.add_right_comm, Nat.add_assoc] at hnext
    exact hnext

theorem bitLayouts_inStep (indices : List (Fin 8)) (position : Nat) :
    Along Progress.advance Progress.InStep ⟨position, false⟩ (bitLayouts indices) := by
  induction indices generalizing position with
  | nil => trivial
  | cons index rest ih => exact ⟨fun _ => rfl, ih (position + 1)⟩

theorem byteLayouts_inStep (guid : ObjectGuid) (indices : List (Fin 8)) (progress : Progress) :
    Along Progress.advance Progress.InStep progress (byteLayouts guid indices) := by
  induction indices generalizing progress with
  | nil => trivial
  | cons index rest ih => exact ⟨trivial, ih _⟩

theorem bitLayouts_hasRoom (indices : List (Fin 8)) {position : Nat}
    (hroom : byteCount (position + indices.length) ≤ maxSize) :
    Along Progress.advance Progress.HasRoom ⟨position, false⟩ (bitLayouts indices) := by
  induction indices generalizing position with
  | nil => trivial
  | cons index rest ih =>
    rw [List.length_cons] at hroom
    have hsum : position + 1 + rest.length = position + (rest.length + 1) := by omega
    have hmono : byteCount (position + 1) ≤ byteCount (position + (rest.length + 1)) := by
      unfold byteCount
      omega
    constructor
    · exact .inr (Nat.le_trans hmono hroom)
    · exact ih (hsum ▸ hroom)

theorem byteLayouts_hasRoom (guid : ObjectGuid) (indices : List (Fin 8)) {progress : Progress}
    (hroom : byteCount progress.position + indices.length ≤ maxSize) :
    Along Progress.advance Progress.HasRoom progress (byteLayouts guid indices) := by
  induction indices generalizing progress with
  | nil => trivial
  | cons index rest ih =>
    rw [List.length_cons] at hroom
    constructor
    · intro _
      omega
    · apply ih
      by_cases hzero : guid.byte index = 0
      · simp only [hzero, ne_eq, not_true_eq_false, if_false, Progress.advance, if_true]
        omega
      · have hnext : byteCount (align progress.position + 8 * 1) =
            byteCount progress.position + 1 := by
          unfold align byteCount
          omega
        simp only [hzero, ne_eq, not_false_eq_true, if_true, Progress.advance, one_ne_zero,
          if_false, hnext]
        omega

section Orders

variable {buffer : ByteBuffer} {position : Nat}

theorem writeGuid_storage (hwritten : Written buffer position) (guid : ObjectGuid)
    (bitOrder byteOrder : Fin 8 → Fin 8) (hroom : buffer.size + 9 ≤ maxSize) :
    ∃ written final, buffer.writeGuid guid bitOrder byteOrder = .ok written ∧
      writeFields (bitFields guid (List.ofFn bitOrder) ++ byteFields guid (List.ofFn byteOrder))
        buffer = .ok final ∧
      written.storage = final.storage := by
  have hstart : Written buffer (Progress.position ⟨position, false⟩) := hwritten
  have hsize : buffer.size = byteCount position := hwritten.length
  have hbits : byteCount (position + 8) = byteCount position + 1 := by
    unfold byteCount
    omega
  have hall : Along Progress.advance Progress.HasRoom ⟨position, false⟩
      (((bitFields guid (List.ofFn bitOrder) ++
        byteFields guid (List.ofFn byteOrder)).map Field.shape).map Shape.layout) := by
    rw [layouts_eq, along_append, foldl_bitLayouts, List.length_ofFn]
    constructor
    · apply bitLayouts_hasRoom
      rw [List.length_ofFn]
      omega
    · apply byteLayouts_hasRoom
      rw [List.length_ofFn, hbits]
      omega
  obtain ⟨final, hfinal, -, -⟩ := (writeFields_spec _ hstart).1 hall
  obtain ⟨middle, hmiddle, hbytes⟩ := writeFields_append hfinal
  have hflush := map_writeFields_resetBits guid (List.ofFn byteOrder) middle
  rw [hbytes] at hflush
  cases hresult : writeFields (byteFields guid (List.ofFn byteOrder)) middle.resetBits with
  | error fault =>
    rw [hresult] at hflush
    cases hflush
  | ok written =>
    rw [hresult] at hflush
    refine ⟨written, final, ?_, hfinal, Except.ok.inj hflush⟩
    rw [writeGuid, writeBitInOrder_eq, hmiddle]
    exact (writeBytesSeq_eq _ _ _).trans hresult

theorem foldlM_readByteAt_resetBits (hindices : indices ≠ []) (guid : ObjectGuid)
    (buffer : ByteBuffer) :
    indices.foldlM readByteAt (guid, buffer.resetBits) =
      indices.foldlM readByteAt (guid, buffer) := by
  cases indices with
  | nil => exact absurd rfl hindices
  | cons index rest => rfl

theorem readGuid_of_readFields (guid other : ObjectGuid) (bitOrder byteOrder : Equiv.Perm (Fin 8))
    {start : ByteBuffer} (hread : readFields ((bitFields guid (List.ofFn bitOrder) ++
        byteFields guid (List.ofFn byteOrder)).map Field.shape) start =
      .ok ((bitFields guid (List.ofFn bitOrder) ++
        byteFields guid (List.ofFn byteOrder)).map Field.value, rest)) :
    start.readGuid other bitOrder byteOrder = .ok (guid, rest) := by
  rw [List.map_append, List.map_append] at hread
  obtain ⟨front, middle, back, hfront, hback, hvalues, hlength⟩ := readFields_append hread
  have hsame : front.length = ((bitFields guid (List.ofFn bitOrder)).map Field.value).length := by
    rw [hlength, List.length_map, List.length_map]
  obtain ⟨hbits, hbytes⟩ := List.append_inj hvalues.symm hsame
  subst hbits hbytes
  have hmem (order : Equiv.Perm (Fin 8)) (index : Fin 8) : index ∈ List.ofFn order := by
    rw [List.mem_ofFn]
    exact order.surjective index
  have hfirst := foldlM_readBitAt (fun index => guid.byte index ≠ 0) (List.ofFn bitOrder) other
    hfront
  have hpresent : ∀ index ∈ List.ofFn byteOrder,
      (other.setAll (List.ofFn bitOrder) fun index =>
        if decide (guid.byte index ≠ 0) then 1 else 0).byte index =
          if guid.byte index ≠ 0 then 1 else 0 := by
    intro index _
    rw [other.setAll_byte_of_mem (hmem bitOrder index)]
    simp only [decide_eq_true_eq]
  have hnodup : (List.ofFn byteOrder).Nodup := List.nodup_ofFn.mpr byteOrder.injective
  have hsecond := foldlM_readByteAt guid.byte hnodup _ hpresent hback
  have hne : List.ofFn byteOrder ≠ [] := List.ne_nil_of_mem (hmem byteOrder 0)
  rw [guid.setAll_byte_self _ (hmem byteOrder)] at hsecond
  rw [readGuid, readBitInOrder, hfirst]
  exact (foldlM_readByteAt_resetBits hne _ _).trans hsecond

theorem readGuid_writeGuid (hwritten : Written buffer position) (guid : ObjectGuid)
    (bitOrder byteOrder : Equiv.Perm (Fin 8)) (hroom : buffer.size + 9 ≤ maxSize) :
    ∃ written, buffer.writeGuid guid bitOrder byteOrder = .ok written ∧ ∀ other, ∃ rest,
      (reader written.storage position).readGuid other bitOrder byteOrder = .ok (guid, rest) ∧
      rest.rpos = written.size := by
  obtain ⟨written, final, hok, hfinal, hstorage⟩ :=
    writeGuid_storage hwritten guid bitOrder byteOrder hroom
  have hstart : Written buffer (Progress.position ⟨position, false⟩) := hwritten
  have hstep : Along Progress.advance Progress.InStep ⟨position, false⟩
      (((bitFields guid (List.ofFn bitOrder) ++
        byteFields guid (List.ofFn byteOrder)).map Field.shape).map Shape.layout) := by
    rw [layouts_eq, along_append]
    exact ⟨bitLayouts_inStep _ _, byteLayouts_inStep _ _ _⟩
  have hread := readFields_of_writeFields _ hstart hfinal hstep
  have hlast := written_of_writeFields hstart hfinal
  use written, hok
  intro other
  rw [hstorage]
  refine ⟨_, readGuid_of_readFields guid other bitOrder byteOrder hread, ?_⟩
  rw [ByteBuffer.size, hstorage, hlast.length]
  exact Progress.byteCount_readPosition _

end Orders

/-! ## One block -/

variable {guid : Nat} {rest : List UInt8}

/-- The bytes of a number that are not zero, among some of its lowest ones. -/
def presentBytes : Nat → Nat → List UInt8
  | 0, _ => []
  | count + 1, guid =>
    (if guid % 256 ≠ 0 then [UInt8.ofNat (guid % 256)] else []) ++ presentBytes count (guid / 256)

variable (count : Nat) {i : Nat}

theorem presentBytes_zero : presentBytes count 0 = [] := by
  induction count with
  | zero => rfl
  | succ count ih =>
    rw [presentBytes, Nat.zero_div, ih]
    rfl

/-- A byte from a place on is the first one there, or one behind it. -/
theorem present_succ (guid i k : Nat) :
    decide (i ≤ k ∧ guid / 256 ^ (k - i) % 256 ≠ 0) =
      (decide (i = k ∧ guid % 256 ≠ 0) ||
        decide (i + 1 ≤ k ∧ guid / 256 / 256 ^ (k - (i + 1)) % 256 ≠ 0)) := by
  rcases Nat.lt_trichotomy i k with hlt | rfl | hgt
  · have hsucc : k - i = k - (i + 1) + 1 := by omega
    have hdiv : guid / 256 ^ (k - i) = guid / 256 / 256 ^ (k - (i + 1)) := by
      rw [hsucc, Nat.div_div_eq_div_mul, Nat.pow_succ, Nat.mul_comm]
    have hle : i ≤ k := Nat.le_of_lt hlt
    have hne : i ≠ k := Nat.ne_of_lt hlt
    simp [hdiv, hle, hne, Nat.succ_le_of_lt hlt]
  · simp
  · have hnot : ¬ i ≤ k := Nat.not_le.mpr hgt
    have hne : i ≠ k := Nat.ne_of_gt hgt
    have hnext : ¬ i + 1 ≤ k := by omega
    simp [hnot, hne, hnext]

theorem testBit_or_bit (mark : UInt8) (hi : i < 8) (k : Nat) :
    (mark ||| UInt8.ofNat (1 <<< i)).toNat.testBit k =
      (mark.toNat.testBit k || decide (i = k)) := by
  have hlt : 2 ^ i < 256 := Nat.pow_lt_pow_right (by decide) hi
  rw [UInt8.toNat_or, Nat.testBit_or, UInt8.toNat_ofNat', Nat.one_shiftLeft, Nat.mod_eq_of_lt hlt,
    Nat.testBit_two_pow]

/-- The mark has a bit for every byte that is not zero, and these bytes follow. -/
theorem packBytes_spec (hguid : guid < 256 ^ count) (hcount : i + count ≤ 8) (mark : UInt8)
    (packed : List UInt8) :
    (packBytes guid i (mark, packed)).2 = packed ++ presentBytes count guid ∧
      ∀ k < 8, (packBytes guid i (mark, packed)).1.toNat.testBit k =
        (mark.toNat.testBit k || decide (i ≤ k ∧ guid / 256 ^ (k - i) % 256 ≠ 0)) := by
  induction count generalizing guid i mark packed with
  | zero =>
    obtain rfl : guid = 0 := by simpa using hguid
    rw [packBytes, dif_pos rfl]
    simp [presentBytes]
  | succ count ih =>
    by_cases hzero : guid = 0
    · subst hzero
      rw [packBytes, dif_pos rfl, presentBytes_zero]
      simp
    · have hshift : guid >>> 8 = guid / 256 := Nat.shiftRight_eq_div_pow guid 8
      have hlow : guid &&& 0xFF = guid % 256 := Nat.and_two_pow_sub_one_eq_mod guid 8
      have hrest : guid / 256 < 256 ^ count := by
        rw [Nat.pow_succ] at hguid
        omega
      rw [packBytes, dif_neg hzero, hshift, hlow, presentBytes]
      by_cases hbyte : guid % 256 = 0
      · obtain ⟨hpacked, hmark⟩ := ih (i := i + 1) hrest (by omega) mark packed
        simp only [hbyte, ne_eq, not_true_eq_false, if_false, List.nil_append]
        use hpacked
        intro k hk
        have hpresent := present_succ guid i k
        simp only [hbyte, ne_eq, not_true_eq_false, and_false, decide_false,
          Bool.false_or] at hpresent
        rw [hmark k hk, ← hpresent]
      · obtain ⟨hpacked, hmark⟩ := ih (i := i + 1) hrest (by omega)
          (mark ||| UInt8.ofNat (1 <<< i)) (packed ++ [UInt8.ofNat (guid % 256)])
        simp only [hbyte, ne_eq, not_false_eq_true, if_true, ← List.append_assoc]
        use hpacked
        intro k hk
        have hpresent := present_succ guid i k
        simp only [hbyte, ne_eq, not_false_eq_true, and_true] at hpresent
        rw [hmark k hk, testBit_or_bit mark (by omega) k, hpresent, Bool.or_assoc]

variable (storage : Storage) {position : Nat}

theorem sound_reader (hposition : position ≤ 8 * storage.1.length) :
    Reading.Sound storage (reader storage.1 position) := by
  constructor
  · rfl
  · change byteCount position ≤ storage.1.length
    unfold byteCount
    omega
  · by_cases hmod : position % 8 = 0
    · exact .inl (cursor_eq_eight_iff.mpr hmod)
    · right
      change 0 < byteCount position
      unfold byteCount
      omega

theorem read_one_reader {byte : UInt8} (hbyte : storage.1.drop (byteCount position) = byte :: rest)
    :
    Reading.read .one (reader storage.1 position) =
      (.ok byte.toNat, reader storage.1 (8 * (byteCount position + 1))) := by
  have hlength := congrArg List.length hbyte
  rw [List.length_drop, List.length_cons] at hlength
  have hposition : position ≤ 8 * storage.1.length := by
    unfold byteCount at hlength
    omega
  have hend : align position + 8 * 1 = 8 * (byteCount position + 1) := by
    rw [align]
    omega
  have hreturns := Reading.read_returns (sound_reader storage hposition) .one
  have hread := readBytes_reader (show byteCount position + 1 ≤ storage.1.length by omega)
  rw [hbyte, hend] at hread
  rw [readInt, IntWidth.bytes, hread] at hreturns
  exact hreturns

theorem and_bit_ne_zero_iff (mark i : Nat) : mark &&& (1 <<< i) ≠ 0 ↔ mark.testBit i := by
  rw [Nat.one_shiftLeft, Nat.and_two_pow]
  cases mark.testBit i with
  | false => simp
  | true => simp

theorem readGuidByte_reader {mark acc n : Nat} (hmark : mark.testBit i = decide (guid % 256 ≠ 0))
    (hacc : acc < 256 ^ i) (hbytes : storage.1.drop n =
      (if guid % 256 ≠ 0 then [UInt8.ofNat (guid % 256)] else []) ++ rest) :
    Reading.readGuidByte mark acc i (reader storage.1 (8 * n)) =
      (.ok (acc + guid % 256 * 256 ^ i),
        reader storage.1 (8 * (n + if guid % 256 ≠ 0 then 1 else 0))) := by
  by_cases hzero : guid % 256 = 0
  · have hnot : ¬ mark &&& (1 <<< i) ≠ 0 := by
      rw [and_bit_ne_zero_iff, hmark]
      simp [hzero]
    rw [Reading.readGuidByte, if_neg hnot]
    simp [hzero, pure]
  · have hmarked : mark &&& (1 <<< i) ≠ 0 := by
      rw [and_bit_ne_zero_iff, hmark]
      simp [hzero]
    have hcount : byteCount (8 * n) = n := by
      unfold byteCount
      omega
    simp only [hzero, ne_eq, not_false_eq_true, if_true, List.singleton_append] at hbytes ⊢
    have hlength := congrArg List.length hbytes
    rw [List.length_drop, List.length_cons] at hlength
    have hsound := sound_reader storage (show 8 * n ≤ 8 * storage.1.length by omega)
    have hroom : (reader storage.1 (8 * n)).rpos + 1 ≤ (reader storage.1 (8 * n)).size := by
      change byteCount (8 * n) + 1 ≤ storage.1.length
      omega
    have hread := read_one_reader storage (hcount.symm ▸ hbytes)
    have hvalue : acc ||| (UInt8.ofNat (guid % 256)).toNat <<< (i * 8) =
        acc + guid % 256 * 256 ^ i := by
      have hpow : 256 ^ i = 2 ^ (i * 8) := by
        rw [Nat.mul_comm, Nat.pow_mul]
      rw [hpow] at hacc ⊢
      rw [UInt8.toNat_ofNat', Nat.mod_mod, Nat.or_comm, ← Nat.shiftLeft_add_eq_or_of_lt hacc,
        Nat.shiftLeft_eq, Nat.add_comm]
    rw [Reading.readGuidByte, if_pos hmarked,
      Attempt.bind_of_ok (Reading.checkRoom_of_room hsound (by decide) hroom),
      Attempt.bind_of_ok hread, hvalue, hcount]
    rfl

theorem foldlM_readGuidByte {mark : Nat} (count : Nat) {acc n : Nat}
    (hmark : ∀ k < i + count, i ≤ k → mark.testBit k = decide (guid / 256 ^ (k - i) % 256 ≠ 0))
    (hacc : acc < 256 ^ i) (hguid : guid < 256 ^ count)
    (hbytes : storage.1.drop n = presentBytes count guid ++ rest) :
    (List.range' i count).foldlM (Reading.readGuidByte mark) acc (reader storage.1 (8 * n)) =
      (.ok (acc + guid * 256 ^ i),
        reader storage.1 (8 * (n + (presentBytes count guid).length))) := by
  induction count generalizing i guid acc n with
  | zero =>
    obtain rfl : guid = 0 := by simpa using hguid
    simp [presentBytes, pure]
  | succ count ih =>
    rw [presentBytes, List.append_assoc] at hbytes
    have hfirst := hmark i (by omega) (Nat.le_refl i)
    rw [Nat.sub_self, Nat.pow_zero, Nat.div_one] at hfirst
    have hstep := readGuidByte_reader storage hfirst hacc hbytes
    have hdrop : storage.1.drop (n + if guid % 256 ≠ 0 then 1 else 0) =
        presentBytes count (guid / 256) ++ rest := by
      rw [← List.drop_drop, hbytes]
      split
      · rfl
      · rfl
    have hnext : acc + guid % 256 * 256 ^ i < 256 ^ (i + 1) := by
      have hbyte : guid % 256 ≤ 255 := Nat.le_of_lt_succ (Nat.mod_lt _ (by decide))
      have hmul : guid % 256 * 256 ^ i ≤ 255 * 256 ^ i := Nat.mul_le_mul_right _ hbyte
      rw [Nat.pow_succ]
      omega
    have hrest : ∀ k < i + 1 + count, i + 1 ≤ k →
        mark.testBit k = decide (guid / 256 / 256 ^ (k - (i + 1)) % 256 ≠ 0) := by
      intro k hk hle
      have hpresent := present_succ guid i k
      have hne : i ≠ k := by omega
      have hik : i ≤ k := by omega
      simp only [hne, hik, hle, true_and, false_and, decide_false, Bool.false_or] at hpresent
      rw [hmark k (by omega) hik, hpresent]
    have hsmall : guid / 256 < 256 ^ count := by
      rw [Nat.pow_succ] at hguid
      omega
    have hsum : acc + guid % 256 * 256 ^ i + guid / 256 * 256 ^ (i + 1) =
        acc + guid * 256 ^ i := by
      have hdivision := Nat.div_add_mod guid 256
      calc
        acc + guid % 256 * 256 ^ i + guid / 256 * 256 ^ (i + 1) =
            acc + (256 * (guid / 256) + guid % 256) * 256 ^ i := by ring
        _ = acc + guid * 256 ^ i := by rw [hdivision]
    have hlength : (presentBytes (count + 1) guid).length =
        (if guid % 256 ≠ 0 then 1 else 0) + (presentBytes count (guid / 256)).length := by
      rw [presentBytes, List.length_append]
      split
      · rfl
      · rfl
    rw [List.range'_succ, List.foldlM_cons, Attempt.bind_of_ok hstep,
      ih hrest hnext hsmall hdrop, hsum, hlength, Nat.add_assoc]

theorem length_presentBytes_le (guid : Nat) : (presentBytes count guid).length ≤ count := by
  induction count generalizing guid with
  | zero => exact Nat.le_refl 0
  | succ count ih =>
    have hrest := ih (guid / 256)
    rw [presentBytes, List.length_append]
    split
    · rw [List.length_singleton]
      omega
    · rw [List.length_nil]
      omega

theorem readPackGUID_appendPackGUID (hwritten : Written buffer position) (guid : UInt64)
    (hroom : buffer.size < maxSize) :
    ∃ appended, buffer.appendPackGUID guid = .ok appended ∧
      Reading.readPackGUID (reader appended.storage position) =
        (.ok guid.toNat, reader appended.storage (8 * appended.size)) := by
  have hsize : buffer.storage.length = byteCount position := hwritten.length
  obtain ⟨hpacked, hmark⟩ := packBytes_spec 8 guid.toNat_lt (Nat.le_refl 8) 0 []
  rw [List.nil_append] at hpacked
  have hpack : packGUID guid =
      (packBytes guid.toNat 0 (0, [])).1 :: presentBytes 8 guid.toNat := by
    rw [packGUID, hpacked]
  have hlength := length_presentBytes_le 8 guid.toNat
  have hne : (packGUID guid).length ≠ 0 := by
    rw [hpack]
    exact Nat.succ_ne_zero _
  have happend := append_of_written hwritten hne
  rw [if_pos hroom] at happend
  refine ⟨_, happend, ?_⟩
  generalize (packBytes guid.toNat 0 (0, [])).1 = mark at hpack hmark
  have hlt : (buffer.storage ++ packGUID guid).length < 2 ^ 63 := by
    have hmax : maxSize < 2 ^ 62 := by decide
    rw [ByteBuffer.size] at hroom
    rw [List.length_append, hpack, List.length_cons]
    omega
  let storage : Storage := ⟨buffer.storage ++ packGUID guid, hlt⟩
  have hdrop : storage.1.drop (byteCount position) = mark :: (presentBytes 8 guid.toNat ++ []) := by
    rw [← hsize, List.drop_left, hpack, List.append_nil]
  have hstorage : storage.1.length = byteCount position + 1 + (presentBytes 8 guid.toNat).length := by
    rw [List.length_append, hpack, List.length_cons, hsize]
    omega
  have hposition := le_align position
  have hend : align position = 8 * byteCount position := rfl
  have hsound := sound_reader storage (show position ≤ 8 * storage.1.length by omega)
  have hcheck := Reading.checkRoom_of_room hsound (show 1 < 2 ^ 32 by decide)
    (show byteCount position + 1 ≤ storage.1.length by omega)
  have hreset : Reading.resetBits (reader storage.1 position) =
      (.ok (), reader storage.1 (align position)) := by
    rw [← resetBits_reader]
    rfl
  have hfirst : storage.1.drop (byteCount (align position)) =
      mark :: (presentBytes 8 guid.toNat ++ []) := by
    rw [byteCount_align]
    exact hdrop
  have hread := read_one_reader storage hfirst
  rw [byteCount_align] at hread
  have hrest : storage.1.drop (byteCount position + 1) = presentBytes 8 guid.toNat ++ [] := by
    rw [← List.drop_drop, hdrop]
    rfl
  have hmarked : ∀ k < 0 + 8, 0 ≤ k →
      mark.toNat.testBit k = decide (guid.toNat / 256 ^ (k - 0) % 256 ≠ 0) := by
    intro k hk _
    rw [hmark k (by omega)]
    simp
  have hbytes := foldlM_readGuidByte storage 8 hmarked (show 0 < 256 ^ 0 by decide) guid.toNat_lt
    hrest
  have hvalue : 0 + guid.toNat * 256 ^ 0 = guid.toNat := by omega
  rw [hvalue, ← hstorage] at hbytes
  rw [Reading.readPackGUID, Attempt.bind_of_ok hcheck, Attempt.bind_of_ok hreset,
    Attempt.bind_of_ok hread, List.range_eq_range']
  exact hbytes

/-- Both codecs return every guid, after any packet that leaves room for it. -/
theorem guidCodecs (guid : UInt64) {buffer : ByteBuffer} {position : Nat}
    (hwritten : Written buffer position) :
    (buffer.size < maxSize → ∃ appended, buffer.appendPackGUID guid = .ok appended ∧
      Reading.readPackGUID (reader appended.storage position) =
        (.ok guid.toNat, reader appended.storage (8 * appended.size))) ∧
    (buffer.size + 9 ≤ maxSize → ∀ bitOrder byteOrder : Equiv.Perm (Fin 8),
      ∃ written, buffer.writeGuid (.ofUInt64 guid) bitOrder byteOrder = .ok written ∧
        ∀ other, ∃ read rest,
          (reader written.storage position).readGuid other bitOrder byteOrder = .ok (read, rest) ∧
          read.toUInt64 = guid ∧ rest.rpos = written.size) := by
  use readPackGUID_appendPackGUID hwritten guid
  intro hroom bitOrder byteOrder
  obtain ⟨written, hok, hread⟩ :=
    readGuid_writeGuid hwritten (.ofUInt64 guid) bitOrder byteOrder hroom
  use written, hok
  intro other
  obtain ⟨rest, hguid, hrest⟩ := hread other
  exact ⟨_, rest, hguid, ObjectGuid.toUInt64_ofUInt64 guid, hrest⟩

/-- A guid with a zero byte in the middle, in an empty buffer. -/
theorem guidCodecs_empty :
    Written {} 0 ∧ ∃ appended : ByteBuffer, appendPackGUID {} 0x0102000000000304 = .ok appended ∧
      Reading.readPackGUID (reader appended.storage 0) =
        (.ok (0x0102000000000304 : UInt64).toNat, reader appended.storage (8 * appended.size)) :=
  ⟨written_empty, (guidCodecs 0x0102000000000304 written_empty).1 (by decide)⟩

end MopServer.Packets
