import MopServer.Foundation.Bits
import MopServer.Packets.ByteBuffer

/-! # The buffer as a bit string

A buffer written from empty is determined by how many bits have been written so
far, and a reader by how many bits it has passed.  The write operations extend
the bit string by the bits of their argument; the read operations return the bits
at the cursor.
-/

namespace MopServer.Packets

open MopServer.Foundation

namespace ByteBuffer

variable {position : Nat}

/-- The bit cursor after a number of bits. -/
def cursor (position : Nat) : Nat := if position % 8 = 0 then 8 else position % 8

theorem cursor_le (position : Nat) : cursor position ≤ 8 := by
  unfold cursor
  split <;> omega

theorem cursor_eq_eight_iff : cursor position = 8 ↔ position % 8 = 0 := by
  unfold cursor
  split <;> omega

/-! ## Writing -/

variable {buffer opened earlier before : ByteBuffer} {count value : Nat}

/-- A buffer into which a number of bits has been written since it was empty. -/
structure Written (buffer : ByteBuffer) (position : Nat) : Prop where
  wpos : buffer.wpos = buffer.storage.length
  length : buffer.storage.length = byteCount position
  bitpos : buffer.bitpos = cursor position
  zero : ∀ i, position ≤ i → bitAt buffer.storage i = false

theorem written_empty : Written {} 0 :=
  ⟨rfl, rfl, rfl, fun _ _ => bitAt_of_length_le (Nat.zero_le _)⟩

/-- A buffer with an open byte after a number of bits, and otherwise the bits of an
earlier buffer. -/
structure Opened (earlier opened : ByteBuffer) (position : Nat) : Prop where
  wpos : opened.wpos = opened.storage.length
  length : opened.storage.length = position / 8 + 1
  bitpos : opened.bitpos = position % 8
  bits : ∀ i, bitAt opened.storage i = bitAt earlier.storage i

variable (hwritten : Written buffer position)

include hwritten in
theorem append_of_written {src : List UInt8} (hsrc : src.length ≠ 0) :
    buffer.append src =
      if buffer.size < maxSize then
        .ok { buffer.resetBits with
          storage := buffer.storage ++ src, wpos := buffer.wpos + src.length }
      else .error .assertion := by
  have hwpos := hwritten.wpos
  have hgrow : buffer.storage.length + src.length - buffer.storage.length = src.length := by
    omega
  unfold append
  simp only [resetBits, size, hsrc, if_false, hwpos, hgrow]
  by_cases hsize : buffer.storage.length < maxSize
  · simp only [hsize, not_true_eq_false, if_false, if_true]
    rw [List.take_left, List.drop_eq_nil_of_le (by simp), List.append_nil]
  · simp only [hsize, not_false_eq_true, if_true, if_false]

include hwritten in
theorem written_append (src : List UInt8) :
    Written { buffer.resetBits with
      storage := buffer.storage ++ src, wpos := buffer.wpos + src.length }
      (align position + 8 * src.length) := by
  have hlength := hwritten.length
  refine ⟨?_, ?_, ?_, ?_⟩
  · simp [hwritten.wpos]
  · simp only [List.length_append, hlength, align, byteCount]
    omega
  · simp only [resetBits]
    rw [eq_comm, cursor_eq_eight_iff]
    unfold align
    omega
  · intro i hi
    refine bitAt_of_length_le ?_
    simp only [List.length_append, hlength]
    unfold align at hi
    omega

include hwritten in
theorem extends_append (src : List UInt8) :
    Extends position buffer.storage (buffer.storage ++ src) := by
  have hlength := hwritten.length
  have hle := le_align position
  refine ⟨by simp, fun i hi => ?_⟩
  rw [bitAt_append, if_pos]
  unfold align at hle
  omega

include hwritten in
/-- Opening a byte succeeds unless a new byte is needed and the buffer is full. -/
theorem openForWrite_of_written :
    (position % 8 ≠ 0 ∨ byteCount position < maxSize →
      ∃ opened, buffer.openForWrite = .ok opened ∧ Opened buffer opened.1 position) ∧
    (¬ (position % 8 ≠ 0 ∨ byteCount position < maxSize) →
      buffer.openForWrite = .error .assertion) := by
  have hlength := hwritten.length
  have hbitpos := hwritten.bitpos
  unfold openForWrite
  by_cases hmod : position % 8 = 0
  · have height : buffer.bitpos = 8 := hbitpos.trans (cursor_eq_eight_iff.mpr hmod)
    rw [dif_pos height, append_of_written hwritten (by decide), size, hlength]
    by_cases hsize : byteCount position < maxSize
    · refine ⟨fun _ => ?_, fun hfull => absurd (.inr hsize) hfull⟩
      rw [if_pos hsize]
      refine ⟨_, rfl, ?_, ?_, hmod.symm, fun i => ?_⟩
      · simp [hwritten.wpos]
      · simp only [List.length_append, List.length_singleton, hlength, byteCount]
        omega
      · rw [bitAt_append]
        split
        · rfl
        next hend =>
          rw [bitAt_of_length_le (Nat.le_of_not_lt hend)]
          unfold bitAt
          simp
    · refine ⟨fun hroom => ?_, fun _ => ?_⟩
      · exact absurd (hroom.resolve_left (not_not.mpr hmod)) hsize
      · rw [if_neg hsize]
  · have hopen : buffer.bitpos ≠ 8 := fun heq => hmod (cursor_eq_eight_iff.mp (hbitpos ▸ heq))
    rw [dif_neg hopen]
    refine ⟨fun _ => ⟨_, rfl, hwritten.wpos, ?_, ?_, fun _ => rfl⟩,
      fun hfull => absurd (.inl hmod) hfull⟩
    · rw [hlength, byteCount]
      omega
    · rw [hbitpos, cursor, if_neg hmod]

def fill (opened : ByteBuffer) (count value : Nat) (hcount : opened.bitpos + count ≤ 8) :
    ByteBuffer :=
  orLast { opened with bitpos := opened.bitpos + count, bitpos_le := hcount }
    (value <<< (8 - (opened.bitpos + count)))

theorem bitAt_fill (hopened : Opened earlier opened position) (hcount : opened.bitpos + count ≤ 8)
    (hvalue : value < 2 ^ count) (hzero : ∀ i, position ≤ i → bitAt earlier.storage i = false)
    (i : Nat) :
    bitAt (fill opened count value hcount).storage i =
      if position ≤ i ∧ i < position + count then value.testBit (position + count - 1 - i)
      else bitAt earlier.storage i := by
  have hbitpos := hopened.bitpos
  have hlength := hopened.length
  have hindex : opened.wpos - 1 = position / 8 := by
    rw [hopened.wpos, hlength, Nat.add_sub_cancel]
  have hset : bitAt (opened.storage.modify (position / 8) fun byte =>
      byte ||| UInt8.ofNat (value <<< (8 - (position % 8 + count)))) i =
      (bitAt opened.storage i || fieldBit position count value i) :=
    bitAt_modify_or (by omega) (hbitpos ▸ hcount) hvalue i
  unfold fill orLast
  simp only [hindex, hbitpos]
  rw [hset, hopened.bits, fieldBit]
  split
  next hrange => simp [hzero i hrange.1, hrange]
  next hrange => simp [hrange]

theorem written_fill (hopened : Opened earlier opened position) (hcount : opened.bitpos + count ≤ 8)
    (hpos : 0 < count) (hvalue : value < 2 ^ count)
    (hzero : ∀ i, position ≤ i → bitAt earlier.storage i = false) :
    Written (fill opened count value hcount) (position + count) := by
  have hbitpos := hopened.bitpos
  have hlength := hopened.length
  have hstorage : (fill opened count value hcount).storage.length = opened.storage.length :=
    List.length_modify ..
  refine ⟨?_, ?_, ?_, ?_⟩
  · rw [hstorage]
    exact hopened.wpos
  · rw [hstorage, hlength, byteCount]
    omega
  · change opened.bitpos + count = cursor (position + count)
    unfold cursor
    split <;> omega
  · intro i hi
    rw [bitAt_fill hopened hcount hvalue hzero, if_neg (by omega)]
    exact hzero i (by omega)

/-- A number of further bits needs no new byte, or the last new byte is appended
while the buffer is still below its limit. -/
def HasRoom (position count : Nat) : Prop :=
  byteCount (position + count) = byteCount position ∨ byteCount (position + count) ≤ maxSize

instance (position count : Nat) : Decidable (HasRoom position count) :=
  inferInstanceAs (Decidable (_ ∨ _))

/-- The bits of a value have been written at a position, most significant first. -/
structure Emits (before after : ByteBuffer) (position count value : Nat) : Prop where
  written : Written after (position + count)
  length_le : before.storage.length ≤ after.storage.length
  bits : ∀ i, bitAt after.storage i =
    if position ≤ i ∧ i < position + count then value.testBit (position + count - 1 - i)
    else bitAt before.storage i

theorem Emits.extends {after : ByteBuffer} (hemits : Emits before after position count value) :
    Extends position before.storage after.storage :=
  ⟨hemits.length_le, fun i hi => by rw [hemits.bits, if_neg (by omega)]⟩

include hwritten in
/-- One cycle of writing. -/
theorem emits_fill (hopened : Opened buffer opened position) (hcount : opened.bitpos + count ≤ 8)
    (hpos : 0 < count) (hvalue : value < 2 ^ count) :
    Emits buffer (fill opened count value hcount) position count value := by
  refine ⟨written_fill hopened hcount hpos hvalue hwritten.zero, ?_,
    bitAt_fill hopened hcount hvalue hwritten.zero⟩
  have hstorage : (fill opened count value hcount).storage.length = opened.storage.length :=
    List.length_modify ..
  rw [hstorage, hopened.length, hwritten.length, byteCount]
  omega

/-- Two writes in a row emit the concatenated bits. -/
theorem Emits.append {middle after : ByteBuffer} {first second : Nat}
    (hfirst : Emits before middle position first ((value >>> second) % 2 ^ first))
    (hsecond : Emits middle after (position + first) second value) :
    Emits before after position (first + second) value := by
  refine ⟨?_, hfirst.length_le.trans hsecond.length_le, fun i => ?_⟩
  · rw [← Nat.add_assoc]
    exact hsecond.written
  · rw [hsecond.bits, hfirst.bits]
    by_cases hlate : position + first ≤ i ∧ i < position + first + second
    · have hshift : position + first + second - 1 - i = position + (first + second) - 1 - i := by
        omega
      rw [if_pos hlate, if_pos (by omega), hshift]
    · rw [if_neg hlate]
      by_cases hearly : position ≤ i ∧ i < position + first
      · have hshift : second + (position + first - 1 - i) =
            position + (first + second) - 1 - i := by omega
        have hsmall : position + first - 1 - i < first := by omega
        rw [if_pos hearly, if_pos (by omega), Nat.testBit_mod_two_pow, Nat.testBit_shiftRight,
          hshift]
        simp [hsmall]
      · rw [if_neg hearly, if_neg (by omega)]

include hwritten in
theorem writeBit_spec (bit : Bool) :
    (HasRoom position 1 →
      ∃ after, buffer.writeBit bit = .ok after ∧ Emits buffer after position 1 bit.toNat) ∧
    (¬ HasRoom position 1 → buffer.writeBit bit = .error .assertion) := by
  have hroom : HasRoom position 1 ↔ (position % 8 ≠ 0 ∨ byteCount position < maxSize) := by
    unfold HasRoom byteCount
    omega
  obtain ⟨hopen, hfull⟩ := openForWrite_of_written hwritten
  constructor
  · intro hok
    obtain ⟨⟨opened, hlt⟩, hresult, hopened⟩ := hopen (hroom.mp hok)
    have hemits := emits_fill hwritten hopened hlt one_pos (show bit.toNat < 2 ^ 1 from bit.toNat_lt)
    refine ⟨_, ?_, hemits⟩
    unfold writeBit
    rw [hresult]
    cases bit with
    | true => rfl
    | false =>
      have hsame : opened.storage.modify (opened.wpos - 1) (fun byte => byte) =
        opened.storage := List.modify_id _ _
      simp [fill, orLast, hsame]
  · intro hno
    unfold writeBit
    rw [hfull (mt hroom.mpr hno)]

include hwritten in
/-- `WriteBits` emits the low bits of its value, most significant first. -/
theorem writeBits_spec (value bits : Nat) :
    (HasRoom position bits →
      ∃ after, buffer.writeBits value bits = .ok after ∧
        Emits buffer after position bits value) ∧
    (¬ HasRoom position bits → buffer.writeBits value bits = .error .assertion) := by
  induction bits using Nat.strong_induction_on generalizing buffer position with
  | _ bits ih =>
    unfold writeBits
    by_cases hbits : bits = 0
    · subst hbits
      refine ⟨fun _ => ⟨buffer, by simp, hwritten, le_rfl, fun i => ?_⟩, fun hno => ?_⟩
      · rw [if_neg (by omega)]
      · exact absurd (.inl rfl) hno
    · rw [dif_neg hbits]
      obtain ⟨hopen, hfull⟩ := openForWrite_of_written hwritten
      by_cases hcan : position % 8 ≠ 0 ∨ byteCount position < maxSize
      · obtain ⟨⟨opened, hlt⟩, hresult, hopened⟩ := hopen hcan
        have hbitpos : opened.bitpos = position % 8 := hopened.bitpos
        rw [hresult]
        simp only
        -- This cycle writes the high bits, the recursive call the rest.
        have hcount : opened.bitpos + min (8 - opened.bitpos) bits ≤ 8 := by omega
        have hpos : 0 < min (8 - opened.bitpos) bits := by omega
        have hsum : min (8 - opened.bitpos) bits + (bits - min (8 - opened.bitpos) bits) =
          bits := by omega
        have hroom : HasRoom (position + min (8 - opened.bitpos) bits)
            (bits - min (8 - opened.bitpos) bits) ↔ HasRoom position bits := by
          unfold HasRoom byteCount
          unfold byteCount at hcan
          omega
        have hmask : (value >>> (bits - min (8 - opened.bitpos) bits)) &&&
            ((1 <<< min (8 - opened.bitpos) bits) - 1) =
            (value >>> (bits - min (8 - opened.bitpos) bits)) %
              2 ^ min (8 - opened.bitpos) bits := by
          rw [Nat.one_shiftLeft, Nat.and_two_pow_sub_one_eq_mod]
        have hfirst := emits_fill hwritten hopened hcount hpos
          (Nat.mod_lt (value >>> (bits - min (8 - opened.bitpos) bits))
            (Nat.two_pow_pos (min (8 - opened.bitpos) bits)))
        obtain ⟨hrest, herror⟩ := ih (bits - min (8 - opened.bitpos) bits) (by omega) hfirst.written
        rw [hmask]
        refine ⟨fun hok => ?_, fun hno => herror (mt hroom.mp hno)⟩
        obtain ⟨after, hafter, hsecond⟩ := hrest (hroom.mpr hok)
        refine ⟨after, hafter, ?_⟩
        have happend := hfirst.append hsecond
        rwa [hsum] at happend
      · rw [hfull hcan]
        refine ⟨fun hok => ?_, fun _ => rfl⟩
        unfold HasRoom byteCount at hok
        unfold byteCount at hcan
        omega

/-! ## Reading -/

variable (bytes : List UInt8)

/-- A reader of a byte string that has passed a number of bits. -/
def reader (bytes : List UInt8) (position : Nat) : ByteBuffer where
  storage := bytes
  rpos := byteCount position
  wpos := bytes.length
  bitpos := cursor position
  bitpos_le := cursor_le position

theorem resetBits_reader (position : Nat) :
    (reader bytes position).resetBits = reader bytes (align position) := by
  have hcursor : cursor (align position) = 8 := cursor_eq_eight_iff.mpr (Nat.mul_mod_right 8 _)
  simp [reader, resetBits, byteCount_align, hcursor]

theorem mod_lt_byte (position : Nat) : position % 8 < 8 := Nat.mod_lt position opened_lt_byte

theorem mod_le_byte (position : Nat) : position % 8 ≤ 8 := Nat.le_of_lt (mod_lt_byte position)

def readerAt (bytes : List UInt8) (position : Nat) : ByteBuffer where
  storage := bytes
  rpos := position / 8 + 1
  wpos := bytes.length
  bitpos := position % 8
  bitpos_le := mod_le_byte position

theorem readerAt_bitpos_lt (position : Nat) :
    (readerAt bytes position).bitpos < 8 := mod_lt_byte position

/-- Advancing within the open byte. -/
theorem readerAt_advance (hpos : 0 < count)
    (hcount : (readerAt bytes position).bitpos + count ≤ 8) :
    ({ readerAt bytes position with
        bitpos := (readerAt bytes position).bitpos + count, bitpos_le := hcount } : ByteBuffer) =
      reader bytes (position + count) := by
  have hmod : position % 8 + count ≤ 8 := hcount
  have hcursor : cursor (position + count) = position % 8 + count := by
    unfold cursor
    split <;> omega
  have hbytes : byteCount (position + count) = position / 8 + 1 := by
    unfold byteCount
    omega
  simp only [readerAt, reader, hcursor, hbytes]

theorem openForRead_reader {bytes : List UInt8} (hposition : position < 8 * bytes.length) :
    (reader bytes position).openForRead =
      .ok ⟨readerAt bytes position, readerAt_bitpos_lt bytes position⟩ := by
  unfold openForRead
  by_cases hmod : position % 8 = 0
  · have hcount : byteCount position = position / 8 := by
      unfold byteCount
      omega
    have hroom : ¬ position / 8 + 1 > bytes.length := by omega
    have hclosed : (reader bytes position).bitpos = 8 := cursor_eq_eight_iff.mpr hmod
    rw [dif_pos hclosed]
    simp only [readSkip, resetBits, reader, size, hroom, if_false, readerAt, hmod, hcount]
  · have hcount : byteCount position = position / 8 + 1 := by
      unfold byteCount
      omega
    have hcursor : cursor position = position % 8 := if_neg hmod
    have hopen : (reader bytes position).bitpos ≠ 8 := fun heq => hmod (cursor_eq_eight_iff.mp heq)
    rw [dif_neg hopen]
    simp only [reader, readerAt, hcount, hcursor]

theorem openForRead_reader_end :
    (reader bytes (8 * bytes.length)).openForRead =
      .error (.position false bytes.length 1 bytes.length) := by
  have hclosed : (reader bytes (8 * bytes.length)).bitpos = 8 :=
    cursor_eq_eight_iff.mpr (Nat.mul_mod_right 8 _)
  have hcount : byteCount (8 * bytes.length) = bytes.length := by
    unfold byteCount
    omega
  unfold openForRead
  rw [dif_pos hclosed]
  simp [readSkip, resetBits, reader, size, hcount]

/-- The byte under the cursor, as bits. -/
theorem lastRead_testBit {bytes : List UInt8} {bit : Nat} (hpos : 0 < count)
    (hcount : position % 8 + count ≤ 8) (hbit : bit < 8) :
    (reader bytes (position + count)).lastRead.testBit bit =
      bitAt bytes (8 * (position / 8) + (7 - bit)) := by
  have hdiv : (8 * (position / 8) + (7 - bit)) / 8 = position / 8 := by omega
  have hmod : 7 - (8 * (position / 8) + (7 - bit)) % 8 = bit := by omega
  have hindex : byteCount (position + count) - 1 = position / 8 := by
    unfold byteCount
    omega
  rw [lastRead, reader, hindex, bitAt, hdiv, hmod]

theorem readBit_reader {bytes : List UInt8} (hposition : position < 8 * bytes.length) :
    (reader bytes position).readBit = .ok (bitAt bytes position, reader bytes (position + 1)) := by
  have hbit : ∀ byte : Nat,
      decide ((byte >>> (8 - ((readerAt bytes position).bitpos + 1))) &&& 1 ≠ 0) =
        byte.testBit (7 - position % 8) := by
    intro byte
    have hshift : 8 - ((readerAt bytes position).bitpos + 1) = 7 - position % 8 := by
      simp only [readerAt]
      omega
    rw [hshift, Nat.and_one_is_mod, Nat.testBit_eq_decide_div_mod_eq, Nat.shiftRight_eq_div_pow]
    simp
  have hsame : 8 * (position / 8) + (7 - (7 - position % 8)) = position := by omega
  unfold readBit
  rw [openForRead_reader hposition]
  simp only [readerAt_advance bytes one_pos]
  have hlast : (reader bytes (position + 1)).lastRead.testBit (7 - position % 8) =
      bitAt bytes position := by
    rw [lastRead_testBit one_pos (by omega) (by omega), hsame]
  rw [hbit, hlast]

theorem readBit_reader_end :
    (reader bytes (8 * bytes.length)).readBit =
      .error (.position false bytes.length 1 bytes.length) := by
  unfold readBit
  rw [openForRead_reader_end]

/-- `ReadBits` returns the bits at the cursor, most significant first, above the
bits accumulated before; past the end it fails. -/
theorem readBitsLoop_reader {bytes : List UInt8} (value bits : Nat)
    (hposition : position ≤ 8 * bytes.length) :
    (position + bits ≤ 8 * bytes.length →
      ∃ result, (reader bytes position).readBitsLoop value bits =
          .ok (result, reader bytes (position + bits)) ∧
        ∀ i, result.testBit i = (value.testBit i ||
          (decide (i < bits) && bitAt bytes (position + bits - 1 - i)))) ∧
    (8 * bytes.length < position + bits →
      (reader bytes position).readBitsLoop value bits =
        .error (.position false bytes.length 1 bytes.length)) := by
  induction bits using Nat.strong_induction_on generalizing value position with
  | _ bits ih =>
    unfold readBitsLoop
    by_cases hbits : bits = 0
    · subst hbits
      exact ⟨fun _ => ⟨value, by simp⟩, fun hend => absurd hend (by omega)⟩
    · rw [dif_neg hbits]
      rcases Nat.lt_or_eq_of_le hposition with hlt | rfl
      · rw [openForRead_reader hlt]
        obtain ⟨count, hcount⟩ : ∃ count, count = min (8 - position % 8) bits := ⟨_, rfl⟩
        have hbitpos : (readerAt bytes position).bitpos = position % 8 := rfl
        have hpos : 0 < count := by omega
        have hread : min (8 - (readerAt bytes position).bitpos) bits = count := hcount.symm
        simp only [hread, readerAt_advance bytes hpos]
        obtain ⟨hok, herror⟩ := ih (bits - count) (by omega) (value |||
          ((((reader bytes (position + count)).lastRead >>>
            (8 - ((readerAt bytes position).bitpos + count))) &&&
            ((1 <<< count) - 1)) <<< (bits - count)))
          (show position + count ≤ 8 * bytes.length by omega)
        have hsum : position + count + (bits - count) = position + bits := by omega
        rw [hsum] at hok herror
        refine ⟨fun hroom => ?_, herror⟩
        obtain ⟨result, hresult, htest⟩ := hok hroom
        refine ⟨result, hresult, fun i => ?_⟩
        rw [htest, hbitpos, Nat.testBit_or, Nat.testBit_shiftLeft, Nat.one_shiftLeft,
          Nat.testBit_and, Nat.testBit_shiftRight, Nat.testBit_two_pow_sub_one, Bool.or_assoc]
        congr 1
        by_cases hhigh : bits - count ≤ i ∧ i < bits
        · have hinner : i - (bits - count) < count := by omega
          rw [lastRead_testBit hpos (by omega) (by omega)]
          have hsame : 8 * (position / 8) +
              (7 - (8 - (position % 8 + count) + (i - (bits - count)))) =
              position + bits - 1 - i := by omega
          rw [hsame]
          simp [hhigh, hinner, Nat.not_lt_of_le hhigh.1]
        · by_cases hlow : i < bits - count
          · have hnot : ¬ bits - count ≤ i := by omega
            have hin : i < bits := by omega
            simp [hlow, hnot, hin]
          · have hinner : ¬ i - (bits - count) < count := by omega
            have hout : ¬ i < bits := by omega
            simp [hlow, hinner, hout]
      · rw [openForRead_reader_end]
        exact ⟨fun hroom => absurd hroom (by omega), fun _ => rfl⟩

theorem readBits_zero (buffer : ByteBuffer) : buffer.readBits 0 = .ok (0, buffer) := by
  rw [readBits, readBitsLoop, dif_pos rfl]

theorem readBytes_reader {bytes : List UInt8} (hroom : byteCount position + count ≤ bytes.length) :
    (reader bytes position).readBytes count =
      .ok ((bytes.drop (byteCount position)).take count,
        reader bytes (align position + 8 * count)) := by
  have hcount : byteCount (align position + 8 * count) = byteCount position + count := by
    unfold align byteCount
    omega
  have hcursor : cursor (align position + 8 * count) = 8 := by
    rw [cursor_eq_eight_iff]
    unfold align
    omega
  have hno : ¬ byteCount position + count > bytes.length := by omega
  simp only [readBytes, resetBits, reader, size, hno, if_false, hcount, hcursor]

end ByteBuffer

end MopServer.Packets
