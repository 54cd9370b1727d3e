import MopServer.Foundation.Run
import MopServer.Packets.Cursor

/-! # Round trips of packet fields

A packet is written as a sequence of bits, bit fields, masked guid bytes, raw
strings and integers, and read back by the matching calls.  The reader flushes its
open byte for every byte-level field, the writer only where it has a byte to
write.  A layout round-trips for all field values exactly if no bit field follows
before the writer has caught up.
-/

namespace MopServer.Packets

open MopServer.Foundation ByteBuffer

/-- A string whose length fits the 32-bit length of `ReadString`. -/
structure RawString where
  bytes : List UInt8
  length_lt : bytes.length < 2 ^ 32

/-- One field of a packet with its value. -/
inductive Field where
  | bit (value : Bool)
  | bits (count : Fin 33) (value : Fin (2 ^ count.val))
  | guidByte (value : UInt8)
  | string (value : RawString)
  | int (width : IntWidth) (value : Fin (256 ^ width.bytes))

/-- What the reader knows of a field before it reads it: bit counts and integer
types from the packet's structure, presence bits and string lengths from fields
read before. -/
inductive Shape where
  | bit
  | bits (count : Fin 33)
  | guidByte (present : Bool)
  | string (length : UInt32)
  | int (width : IntWidth)
  deriving DecidableEq

/-- The value a read call returns. -/
inductive Value where
  | bit (value : Bool)
  | number (value : Nat)
  | byte (value : UInt8)
  | text (value : List UInt8)
  deriving DecidableEq

def Field.shape : Field → Shape
  | .bit _ => .bit
  | .bits count _ => .bits count
  | .guidByte value => .guidByte (value ≠ 0)
  | .string value => .string (UInt32.ofNat value.bytes.length)
  | .int width _ => .int width

def Field.value : Field → Value
  | .bit value => .bit value
  | .bits _ value => .number value
  | .guidByte value => .byte value
  | .string value => .text value.bytes
  | .int _ value => .number value

def writeField (field : Field) (buffer : ByteBuffer) : Except Fault ByteBuffer :=
  match field with
  | .bit value => buffer.writeBit value
  | .bits count value => buffer.writeBits value count
  | .guidByte value => buffer.writeByteSeq value
  | .string value => buffer.writeString value.bytes
  | .int width value => buffer.writeInt width.bytes value

def readField (shape : Shape) (buffer : ByteBuffer) : Except Fault (Value × ByteBuffer) :=
  match shape with
  | .bit => (buffer.readBit).map fun read => (.bit read.1, read.2)
  | .bits count => (buffer.readBits count).map fun read => (.number read.1, read.2)
  | .guidByte present =>
    (buffer.readByteSeq (if present then 1 else 0)).map fun read => (.byte read.1, read.2)
  | .string length => (buffer.readString length).map fun read => (.text read.1, read.2)
  | .int width => (buffer.readInt width.bytes).map fun read => (.number read.1, read.2)

def writeFields : List Field → ByteBuffer → Except Fault ByteBuffer
  | [], buffer => .ok buffer
  | field :: rest, buffer =>
    match writeField field buffer with
    | .error fault => .error fault
    | .ok buffer => writeFields rest buffer

def readFields : List Shape → ByteBuffer → Except Fault (List Value × ByteBuffer)
  | [], buffer => .ok ([], buffer)
  | shape :: rest, buffer =>
    match readField shape buffer with
    | .error fault => .error fault
    | .ok (value, buffer) =>
      match readFields rest buffer with
      | .error fault => .error fault
      | .ok (values, buffer) => .ok (value :: values, buffer)

/-- A fresh buffer with the content of a packet. -/
def ofBytes (bytes : List UInt8) : ByteBuffer := { storage := bytes, wpos := bytes.length }

/-- Writing the fields into an empty buffer and reading the result by the matching
calls returns the same values and consumes all bytes. -/
def RoundTrips (fields : List Field) : Prop :=
  ∃ written, writeFields fields {} = .ok written ∧
    ∃ rest, readFields (fields.map Field.shape) (ofBytes written.storage) =
        .ok (fields.map Field.value, rest) ∧
      rest.rpos = written.size

/-! ## Layouts -/

/-- How much room a field takes: bits at the cursor, or whole bytes after a
flush. -/
inductive Layout where
  | bits (count : Nat)
  | bytes (count : Nat)
  deriving DecidableEq

def Shape.layout : Shape → Layout
  | .bit => .bits 1
  | .bits count => .bits count
  | .guidByte present => .bytes (if present then 1 else 0)
  | .string length => .bytes length.toNat
  | .int width => .bytes width.bytes

/-- The number of bits written so far, and whether the reader has flushed a byte
that the writer still has open. -/
structure Progress where
  position : Nat := 0
  ahead : Bool := false

variable (progress : Progress)

def Progress.readPosition : Nat :=
  if progress.ahead then align progress.position else progress.position

/-- The effect of writing one field.  A field of no bytes leaves the writer where
it is, inside an open byte if there is one. -/
def Progress.advance : Layout → Progress
  | .bits count =>
    { position := progress.position + count, ahead := progress.ahead && count = 0 }
  | .bytes count =>
    if count = 0 then
      { progress with ahead := progress.ahead || progress.position % 8 ≠ 0 }
    else { position := align progress.position + 8 * count, ahead := false }

/-- Bits may only be written while the reader is not ahead. -/
def Progress.InStep : Layout → Prop
  | .bits count => count ≠ 0 → progress.ahead = false
  | .bytes _ => True

/-- No append happens on a buffer at its limit. -/
def Progress.HasRoom (progress : Progress) : Layout → Prop
  | .bits count => ByteBuffer.HasRoom progress.position count
  | .bytes count => count ≠ 0 → byteCount progress.position < maxSize

variable (shapes : List Shape)

/-- No bit field follows a zero guid byte or an empty string that was written
inside an open byte, unless a byte is written in between. -/
def Aligned : Prop :=
  Along Progress.advance Progress.InStep {} (shapes.map Shape.layout)

/-- The packet stays below the size limit of the buffer. -/
def Fits : Prop :=
  Along Progress.advance Progress.HasRoom {} (shapes.map Shape.layout)

/-! ## What a field leaves in the buffer -/

variable {position : Nat} {buffer : ByteBuffer}

/-- The bits or bytes that a field writes. -/
inductive Payload where
  | bits (count value : Nat)
  | bytes (src : List UInt8)

def Field.payload : Field → Payload
  | .bit value => .bits 1 value.toNat
  | .bits count value => .bits count value
  | .guidByte value => .bytes (if value ≠ 0 then [value ^^^ 1] else [])
  | .string value => .bytes value.bytes
  | .int width value => .bytes (littleEndian width.bytes value)

def Payload.layout : Payload → Layout
  | .bits count _ => .bits count
  | .bytes src => .bytes src.length

theorem length_littleEndian (count value : Nat) : (littleEndian count value).length = count := by
  induction count generalizing value with
  | zero => rfl
  | succ count ih => simp [littleEndian, ih]

theorem fromLittleEndian_littleEndian (count value : Nat) (hvalue : value < 256 ^ count) :
    fromLittleEndian (littleEndian count value) = value := by
  induction count generalizing value with
  | zero => simp [littleEndian, fromLittleEndian]; omega
  | succ count ih =>
    have hrest : value / 256 < 256 ^ count := by
      rw [Nat.pow_succ] at hvalue
      omega
    simp only [littleEndian, fromLittleEndian, ih _ hrest, UInt8.toNat_ofNat']
    omega

theorem Field.shape_layout (field : Field) : field.shape.layout = field.payload.layout := by
  cases field with
  | bit value => rfl
  | bits count value => rfl
  | guidByte value =>
    by_cases hvalue : value = 0 <;>
      simp [Field.shape, Shape.layout, Field.payload, Payload.layout, hvalue]
  | string value =>
    have hlength : (UInt32.ofNat value.bytes.length).toNat = value.bytes.length := by
      rw [UInt32.toNat_ofNat', Nat.mod_eq_of_lt value.length_lt]
    simp [Field.shape, Shape.layout, Field.payload, Payload.layout, hlength]
  | int width value =>
    simp [Field.shape, Shape.layout, Field.payload, Payload.layout, length_littleEndian]

def Carries (bytes : List UInt8) (position : Nat) : Payload → Prop
  | .bits count value => position + count ≤ 8 * bytes.length ∧
      ∀ i < count, bitAt bytes (position + i) = value.testBit (count - 1 - i)
  | .bytes src => byteCount position + src.length ≤ bytes.length ∧
      (bytes.drop (byteCount position)).take src.length = src

/-- What has been written stays while the buffer grows. -/
theorem Carries.extend {ahead : Bool} {payload : Payload} {earlier later : List UInt8}
    (hcarries : Carries earlier position payload)
    (hextends : Extends (Progress.advance ⟨position, ahead⟩ payload.layout).position earlier later)
    : Carries later position payload := by
  have hlength := hextends.length_le
  cases payload with
  | bits count value =>
    obtain ⟨hroom, hbits⟩ := hcarries
    refine ⟨by omega, fun i hi => ?_⟩
    rw [hextends.bits (position + i) (Nat.add_lt_add_left hi position), hbits i hi]
  | bytes src =>
    obtain ⟨hroom, hslice⟩ := hcarries
    refine ⟨by omega, ?_⟩
    by_cases hsrc : src.length = 0
    · rw [hsrc, List.take_zero]
      exact (List.length_eq_zero_iff.mp hsrc).symm
    · simp only [Payload.layout, Progress.advance, hsrc, if_false] at hextends
      rw [hextends.slice_eq (by unfold align; omega) hroom, hslice]

/-- The bits of a payload and where they go: bits at the cursor, bytes after a
flush. -/
def Payload.bitAt : Payload → Nat → Bool
  | .bits count value, i => decide (i < count) && value.testBit (count - 1 - i)
  | .bytes src, i => Foundation.bitAt src i

def Payload.start (position : Nat) : Payload → Nat
  | .bits _ _ => position
  | .bytes _ => align position

/-- Writing one payload after a number of bits: either there is no room, or the
buffer is extended by the payload. -/
def WriteSpec (before : ByteBuffer) (position : Nat) (payload : Payload)
    (result : Except Fault ByteBuffer) : Prop :=
  ∀ ahead, (Progress.HasRoom ⟨position, ahead⟩ payload.layout →
      ∃ after, result = .ok after ∧
        Written after (Progress.advance ⟨position, ahead⟩ payload.layout).position ∧
        Extends position before.storage after.storage ∧
        Carries after.storage position payload ∧
        ∀ i, bitAt after.storage i = (bitAt before.storage i ||
          (decide (payload.start position ≤ i) &&
            payload.bitAt (i - payload.start position)))) ∧
    (¬ Progress.HasRoom ⟨position, ahead⟩ payload.layout → result = .error .assertion)

theorem writeSpec_of_emits {count value : Nat} {result : Except Fault ByteBuffer}
    (hwritten : Written buffer position) (hresult : (ByteBuffer.HasRoom position count →
        ∃ after, result = .ok after ∧ Emits buffer after position count value) ∧
      (¬ ByteBuffer.HasRoom position count → result = .error .assertion)) :
    WriteSpec buffer position (.bits count value) result := by
  intro ahead
  refine ⟨fun hroom => ?_, hresult.2⟩
  obtain ⟨after, hok, hemits⟩ := hresult.1 hroom
  refine ⟨after, hok, hemits.written, hemits.extends, ⟨?_, fun i hi => ?_⟩, fun i => ?_⟩
  · rw [hemits.written.length]
    exact le_align _
  · have hindex : position + count - 1 - (position + i) = count - 1 - i := by omega
    rw [hemits.bits, if_pos (by omega), hindex]
  · rw [hemits.bits, Payload.start, Payload.bitAt]
    split
    next hrange =>
      have hindex : position + count - 1 - i = count - 1 - (i - position) := by omega
      have hinner : i - position < count := by omega
      simp [hwritten.zero i hrange.1, hindex, hinner, hrange.1]
    next hrange =>
      have hnone : (decide (position ≤ i) && decide (i - position < count)) = false := by
        simp only [Bool.and_eq_false_iff, decide_eq_false_iff_not]
        omega
      rw [← Bool.and_assoc, hnone, Bool.false_and, Bool.or_false]

theorem writeSpec_append (hwritten : Written buffer position) (src : List UInt8) :
    WriteSpec buffer position (.bytes src)
      (if src.length ≠ 0 then buffer.append src else .ok buffer) := by
  intro ahead
  simp only [Payload.layout, Progress.HasRoom, Progress.advance, Carries]
  by_cases hsrc : src.length = 0
  · have hnil : src = [] := List.length_eq_zero_iff.mp hsrc
    simp only [hsrc, ne_eq, not_true_eq_false, if_false, if_true, Nat.add_zero, List.take_zero]
    refine ⟨fun _ => ⟨buffer, rfl, hwritten, Extends.refl _ _, ⟨hwritten.length.ge, hnil.symm⟩,
      fun i => ?_⟩, fun hno => absurd (fun hfalse => hfalse.elim) hno⟩
    simp [hnil, Payload.bitAt, bitAt]
  · simp only [hsrc, ne_eq, not_false_eq_true, if_true, if_false, forall_const]
    rw [append_of_written hwritten hsrc, size, hwritten.length]
    constructor
    · intro hroom
      rw [if_pos hroom]
      refine ⟨_, rfl, written_append hwritten src, extends_append hwritten src, ⟨?_, ?_⟩,
        fun i => ?_⟩
      · simp [hwritten.length]
      · rw [← hwritten.length, List.drop_left, List.take_length]
      · have hend : align position = 8 * buffer.storage.length := by
          rw [hwritten.length, align]
        rw [bitAt_append, Payload.start, Payload.bitAt, hend]
        split
        next hlt => simp [Nat.not_le_of_lt hlt]
        next hle =>
          rw [bitAt_of_length_le (Nat.le_of_not_lt hle)]
          simp [Nat.le_of_not_lt hle]
    · intro hno
      rw [if_neg hno]

theorem writeField_spec (hwritten : Written buffer position) (field : Field) :
    WriteSpec buffer position field.payload (writeField field buffer) := by
  cases field with
  | bit value => exact writeSpec_of_emits hwritten (writeBit_spec hwritten value)
  | bits count value => exact writeSpec_of_emits hwritten (writeBits_spec hwritten value count)
  | guidByte value =>
    have hspec := writeSpec_append hwritten (if value ≠ 0 then [value ^^^ 1] else [])
    by_cases hvalue : value = 0
    · simpa [writeField, writeByteSeq, Field.payload, hvalue] using hspec
    · simpa [writeField, writeByteSeq, Field.payload, hvalue] using hspec
  | string value => exact writeSpec_append hwritten value.bytes
  | int width value =>
    have hspec := writeSpec_append hwritten (littleEndian width.bytes value)
    have hbytes : width.bytes ≠ 0 := by cases width <;> decide
    rwa [length_littleEndian, if_pos hbytes] at hspec

/-! ## Reading a field back -/

variable {bytes : List UInt8}

/-- Where the reader stands after a field; every byte-level field flushes. -/
def readAdvance (position : Nat) : Layout → Nat
  | .bits count => position + count
  | .bytes count => align position + 8 * count

theorem align_align (position : Nat) : align (align position) = align position := by
  rw [align, byteCount_align, align]

theorem readBits_of_carries {count value : Nat} (hvalue : value < 2 ^ count)
    (hcarries : Carries bytes position (.bits count value)) :
    (reader bytes position).readBits count = .ok (value, reader bytes (position + count)) := by
  obtain ⟨hroom, hbits⟩ := hcarries
  obtain ⟨result, hresult, htest⟩ :=
    (readBitsLoop_reader 0 count (show position ≤ 8 * bytes.length by omega)).1 hroom
  have heq : result = value := by
    apply Nat.eq_of_testBit_eq
    intro i
    rw [htest, Nat.zero_testBit, Bool.false_or]
    by_cases hi : i < count
    · have hindex : position + count - 1 - i = position + (count - 1 - i) := by omega
      have hback : count - 1 - (count - 1 - i) = i := by omega
      rw [hindex, hbits _ (by omega), hback]
      simp [hi]
    · have hlarge : value.testBit i = false := Nat.testBit_lt_two_pow
        (lt_of_lt_of_le hvalue (Nat.pow_le_pow_right (by decide) (Nat.le_of_not_lt hi)))
      simp [hi, hlarge]
  rw [readBits, hresult, heq]

theorem readBytes_of_carries {start : Nat} {src : List UInt8}
    (hstart : byteCount start = byteCount position)
    (hcarries : Carries bytes position (.bytes src)) :
    (reader bytes start).readBytes src.length =
      .ok (src, reader bytes (align start + 8 * src.length)) := by
  obtain ⟨hroom, hslice⟩ := hcarries
  rw [readBytes_reader (by omega), hstart, hslice]

/-- A reader at the place of a field, or anywhere in the same byte for a field of
whole bytes, returns the field's value. -/
theorem readField_of_carries {start : Nat} (field : Field)
    (hcarries : Carries bytes position field.payload)
    (hstart : byteCount start = byteCount position)
    (hbits : ∀ count, field.shape.layout = .bits count → count ≠ 0 → start = position) :
    readField field.shape (reader bytes start) =
      .ok (field.value, reader bytes (readAdvance start field.shape.layout)) := by
  cases field with
  | bit value =>
    obtain rfl := hbits 1 rfl one_ne_zero
    obtain ⟨hroom, hbit⟩ := hcarries
    have hvalue : bitAt bytes start = value := by
      rw [← Nat.add_zero start, hbit 0 one_pos]
      cases value <;> rfl
    simp only [Field.shape, readField, readBit_reader (show start < 8 * bytes.length by omega),
      hvalue]
    rfl
  | bits count value =>
    by_cases hcount : count.val = 0
    · have hzero : value.val = 0 := by
        have hone : 2 ^ count.val = 1 := by rw [hcount, Nat.pow_zero]
        omega
      simp only [Field.shape, readField, hcount, readBits_zero, Field.value, hzero,
        Shape.layout, readAdvance, Nat.add_zero]
      rfl
    · obtain rfl := hbits count rfl hcount
      simp only [Field.shape, readField, readBits_of_carries value.isLt hcarries]
      rfl
  | guidByte value =>
    by_cases hvalue : value = 0
    · subst hvalue
      have hshape : (Field.guidByte 0).shape = .guidByte false := rfl
      simp only [hshape, readField, readByteSeq, resetBits_reader]
      rfl
    · have hshape : (Field.guidByte value).shape = .guidByte true := by
        simp [Field.shape, hvalue]
      simp only [Field.payload, ne_eq, hvalue, not_false_eq_true, if_true] at hcarries
      have hread : (reader bytes (align start)).readBytes [value ^^^ 1].length = _ :=
        readBytes_of_carries ((byteCount_align start).trans hstart) hcarries
      have hback : (1 : UInt8) ^^^ (value ^^^ 1) = value := by
        rw [UInt8.xor_comm value, ← UInt8.xor_assoc, UInt8.xor_self, UInt8.zero_xor]
      simp only [List.length_singleton, align_align] at hread
      simp [hshape, readField, readByteSeq, resetBits_reader, readInt, hread, fromLittleEndian,
        hback, Except.map, Field.value, Shape.layout, readAdvance]
  | string value =>
    have hlength : (UInt32.ofNat value.bytes.length).toNat = value.bytes.length := by
      rw [UInt32.toNat_ofNat', Nat.mod_eq_of_lt value.length_lt]
    have hread := readBytes_of_carries hstart hcarries
    simp only [Field.shape, readField, readString, hlength, hread, Shape.layout, readAdvance]
    rfl
  | int width value =>
    have hread := readBytes_of_carries hstart hcarries
    rw [length_littleEndian] at hread
    simp only [Field.shape, readField, readInt, hread, Shape.layout, readAdvance,
      fromLittleEndian_littleEndian _ _ value.isLt]
    rfl

/-! ## Reader and writer in step -/

variable {progress : Progress} (fields : List Field)

theorem Progress.byteCount_readPosition (progress : Progress) :
    byteCount progress.readPosition = byteCount progress.position := by
  unfold Progress.readPosition
  split
  · exact byteCount_align _
  · rfl

theorem Progress.align_readPosition (progress : Progress) :
    align progress.readPosition = align progress.position := by
  rw [align, progress.byteCount_readPosition, align]

theorem Progress.position_le_advance (progress : Progress) (layout : Layout) :
    progress.position ≤ (progress.advance layout).position := by
  have hle := le_align progress.position
  cases layout with
  | bits count => exact Nat.le_add_right _ _
  | bytes count =>
    simp only [Progress.advance]
    split
    · exact le_rfl
    · simp only
      omega

theorem Progress.readAdvance_readPosition {layout : Layout} (hstep : progress.InStep layout) :
    readAdvance progress.readPosition layout = (progress.advance layout).readPosition := by
  cases layout with
  | bits count =>
    simp only [readAdvance, Progress.advance, Progress.readPosition]
    by_cases hcount : count = 0
    · simp [hcount]
    · simp [hcount, hstep hcount]
  | bytes count =>
    simp only [readAdvance, Progress.advance, progress.align_readPosition]
    by_cases hcount : count = 0
    · simp only [hcount, if_true, Nat.mul_zero, Nat.add_zero, Progress.readPosition]
      by_cases hmod : progress.position % 8 = 0
      · simp [hmod, align_eq_self_iff.mpr hmod]
      · simp [hmod]
    · simp [hcount, Progress.readPosition]

variable (hwritten : Written buffer progress.position)

include hwritten in
theorem writeField_of_hasRoom {field : Field} (hroom : progress.HasRoom field.shape.layout) :
    ∃ after, writeField field buffer = .ok after ∧
      Written after (progress.advance field.shape.layout).position ∧
      Extends progress.position buffer.storage after.storage ∧
      Carries after.storage progress.position field.payload ∧
      ∀ i, bitAt after.storage i = (bitAt buffer.storage i ||
        (decide (field.payload.start progress.position ≤ i) &&
          field.payload.bitAt (i - field.payload.start progress.position))) := by
  rw [field.shape_layout] at hroom ⊢
  exact (writeField_spec hwritten field progress.ahead).1 hroom

include hwritten in
theorem writeField_of_not_hasRoom {field : Field} (hroom : ¬ progress.HasRoom field.shape.layout) :
    writeField field buffer = .error .assertion := by
  rw [field.shape_layout] at hroom
  exact (writeField_spec hwritten field progress.ahead).2 hroom

include hwritten in
/-- Writing succeeds exactly as long as there is room, and only ever extends the
buffer. -/
theorem writeFields_spec :
    (Along Progress.advance Progress.HasRoom progress
        ((fields.map Field.shape).map Shape.layout) →
      ∃ final, writeFields fields buffer = .ok final ∧
        Extends progress.position buffer.storage final.storage ∧
        Written final (((fields.map Field.shape).map Shape.layout).foldl Progress.advance
          progress).position) ∧
    (¬ Along Progress.advance Progress.HasRoom progress
        ((fields.map Field.shape).map Shape.layout) →
      writeFields fields buffer = .error .assertion) := by
  induction fields generalizing buffer progress with
  | nil =>
    exact ⟨fun _ => ⟨buffer, rfl, Extends.refl _ _, hwritten⟩, fun hno => absurd trivial hno⟩
  | cons field rest ih =>
    simp only [List.map_cons, Along, writeFields, List.foldl_cons]
    by_cases hroom : progress.HasRoom field.shape.layout
    · obtain ⟨after, hok, hafter, hextends, -⟩ := writeField_of_hasRoom hwritten hroom
      obtain ⟨hrest, herror⟩ := ih hafter
      rw [hok]
      refine ⟨fun hall => ?_, fun hno => herror fun hall => hno ⟨hroom, hall⟩⟩
      obtain ⟨final, hfinal, hlater, hlast⟩ := hrest hall.2
      exact ⟨final, hfinal, hextends.trans (progress.position_le_advance _) hlater, hlast⟩
    · rw [writeField_of_not_hasRoom hwritten hroom]
      exact ⟨fun hall => absurd hall.1 hroom, fun _ => rfl⟩

include hwritten in
theorem readFields_of_writeFields {final : ByteBuffer}
    (hfinal : writeFields fields buffer = .ok final)
    (hstep : Along Progress.advance Progress.InStep progress
      ((fields.map Field.shape).map Shape.layout)) :
    readFields (fields.map Field.shape) (reader final.storage progress.readPosition) =
      .ok (fields.map Field.value, reader final.storage
        (((fields.map Field.shape).map Shape.layout).foldl Progress.advance
          progress).readPosition) := by
  induction fields generalizing buffer progress with
  | nil => rfl
  | cons field rest ih =>
    have hroom : progress.HasRoom field.shape.layout := by
      by_contra hno
      simp [writeFields, writeField_of_not_hasRoom hwritten hno] at hfinal
    obtain ⟨after, hok, hafter, -, hcarries, -⟩ := writeField_of_hasRoom hwritten hroom
    simp only [writeFields, hok] at hfinal
    -- What the field left in the buffer is still there at the end.
    have hlater : Extends (progress.advance field.shape.layout).position after.storage
        final.storage := by
      by_cases hall : Along Progress.advance Progress.HasRoom
          (progress.advance field.shape.layout) ((rest.map Field.shape).map Shape.layout)
      · obtain ⟨other, hother, hextends, -⟩ := (writeFields_spec rest hafter).1 hall
        rw [hfinal] at hother
        exact Except.ok.inj hother ▸ hextends
      · rw [(writeFields_spec rest hafter).2 hall] at hfinal
        exact absurd hfinal (by simp)
    rw [field.shape_layout] at hlater
    have hread := readField_of_carries field (hcarries.extend hlater)
      progress.byteCount_readPosition (by
        intro count hlayout hcount
        have hin := hstep.1
        rw [hlayout] at hin
        rw [Progress.readPosition, hin hcount]
        rfl)
    rw [Progress.readAdvance_readPosition hstep.1] at hread
    simp only [List.map_cons, readFields, hread, ih hafter hfinal hstep.2, List.foldl_cons]

theorem roundTrips_of_aligned {fields : List Field} (hfits : Fits (fields.map Field.shape))
    (haligned : Aligned (fields.map Field.shape)) : RoundTrips fields := by
  have hstart : Written {} (Progress.position {}) := written_empty
  obtain ⟨final, hfinal, -, hlast⟩ := (writeFields_spec fields hstart).1 hfits
  have hread := readFields_of_writeFields fields hstart hfinal haligned
  refine ⟨final, hfinal, _, hread, ?_⟩
  change byteCount (Progress.readPosition _) = final.storage.length
  rw [Progress.byteCount_readPosition, hlast.length]

end MopServer.Packets
