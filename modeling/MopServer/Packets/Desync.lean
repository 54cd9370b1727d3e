import MopServer.Packets.Codec

/-! # Layouts that do not round-trip

If a bit field follows while the reader is ahead, its first bit is read from
another byte than it was written to.  Filling the packet with zeros except for that
bit shows the difference, so alignment is not only sufficient but necessary for a
layout to round-trip for all values.
-/

namespace MopServer.Packets

open MopServer.Foundation ByteBuffer

variable {buffer final : ByteBuffer} {progress : Progress} {position : Nat} (shape : Shape)
  (shapes : List Shape)

def zeroField : Shape → Field
  | .bit => .bit false
  | .bits count => .bits count ⟨0, Nat.two_pow_pos _⟩
  | .guidByte present => .guidByte (if present then 1 else 0)
  | .string length => .string
      ⟨List.replicate length.toNat 0, by rw [List.length_replicate]; exact length.toNat_lt⟩
  | .int width => .int width ⟨0, Nat.pow_pos (by decide)⟩

/-- A field of a shape whose payload, if it consists of bits, has its first bit set
and no other. -/
def markedField : Shape → Field
  | .bit => .bit true
  | .bits count => .bits count ⟨2 ^ (count.val - 1) % 2 ^ count.val,
      Nat.mod_lt _ (Nat.two_pow_pos _)⟩
  | shape => zeroField shape

theorem zeroField_shape : (zeroField shape).shape = shape := by
  cases shape with
  | bit => rfl
  | bits count => rfl
  | guidByte present => cases present <;> rfl
  | string length => simp [zeroField, Field.shape]
  | int width => rfl

theorem map_zeroField_shape : (shapes.map zeroField).map Field.shape = shapes := by
  rw [List.map_map]
  exact List.map_id'' zeroField_shape shapes

theorem littleEndian_zero (count : Nat) : littleEndian count 0 = List.replicate count 0 := by
  induction count with
  | zero => rfl
  | succ count ih => rw [littleEndian, Nat.zero_div, ih, List.replicate_succ]; rfl

theorem bitAt_replicate_zero (count i : Nat) : bitAt (List.replicate count 0) i = false := by
  unfold bitAt
  rw [List.getD_eq_getElem?_getD, List.getElem?_replicate]
  split <;> simp

theorem zeroField_bitAt (i : Nat) : (zeroField shape).payload.bitAt i = false := by
  cases shape with
  | bit | bits _ => simp [zeroField, Field.payload, Payload.bitAt]
  | guidByte present =>
    cases present with
    | false => exact bitAt_replicate_zero 0 i
    | true => exact bitAt_replicate_zero 1 i
  | string length => exact bitAt_replicate_zero length.toNat i
  | int width =>
    simp only [zeroField, Field.payload, Payload.bitAt, littleEndian_zero]
    exact bitAt_replicate_zero width.bytes i

theorem markedField_shape : (markedField shape).shape = shape := by
  cases shape with
  | bit => rfl
  | bits count => rfl
  | guidByte present => exact zeroField_shape (.guidByte present)
  | string length => exact zeroField_shape (.string length)
  | int width => rfl

theorem markedField_bitAt {shape : Shape} {i : Nat} (hi : i ≠ 0) :
    (markedField shape).payload.bitAt i = false := by
  cases shape with
  | bit =>
    have hlarge : ¬ i < 1 := by omega
    simp [markedField, Field.payload, Payload.bitAt, hlarge]
  | bits count =>
    simp only [markedField, Field.payload, Payload.bitAt, Bool.and_eq_false_iff,
      decide_eq_false_iff_not]
    by_cases hlt : i < count.val
    · right
      have hpow : 2 ^ (count.val - 1) % 2 ^ count.val = 2 ^ (count.val - 1) :=
        Nat.mod_eq_of_lt (Nat.pow_lt_pow_right (by decide) (by omega))
      rw [hpow, Nat.testBit_two_pow_of_ne (by omega)]
    · exact .inl hlt
  | guidByte present => exact zeroField_bitAt (.guidByte present) i
  | string length => exact zeroField_bitAt (.string length) i
  | int width => exact zeroField_bitAt (.int width) i

/-- At most the bit at one position is set. -/
def OnlyBit (position : Nat) (bytes : List UInt8) : Prop :=
  ∀ i, i ≠ position → bitAt bytes i = false

theorem onlyBit_writeFields (hwritten : Written buffer progress.position)
    (honly : OnlyBit position buffer.storage)
    (hfinal : writeFields (shapes.map zeroField) buffer = .ok final) :
    OnlyBit position final.storage := by
  induction shapes generalizing buffer progress with
  | nil =>
    obtain rfl := Except.ok.inj hfinal
    exact honly
  | cons shape rest ih =>
    by_cases hroom : progress.HasRoom (zeroField shape).shape.layout
    · obtain ⟨after, hok, hafter, -, -, hbits⟩ := writeField_of_hasRoom hwritten hroom
      simp only [List.map_cons, writeFields, hok] at hfinal
      refine ih hafter (fun i hi => ?_) hfinal
      rw [hbits, honly i hi, zeroField_bitAt, Bool.and_false, Bool.or_false]
    · simp [writeFields, writeField_of_not_hasRoom hwritten hroom] at hfinal

/-! ## Reading past the mark -/

variable {values : List Value} {bytes : List UInt8} {after : ByteBuffer}

theorem readFields_append {first second : List Shape} {last : ByteBuffer}
    (hread : readFields (first ++ second) buffer = .ok (values, last)) :
    ∃ front middle back, readFields first buffer = .ok (front, middle) ∧
      readFields second middle = .ok (back, last) ∧ values = front ++ back ∧
      front.length = first.length := by
  induction first generalizing buffer values with
  | nil => exact ⟨[], buffer, values, rfl, hread, rfl, rfl⟩
  | cons shape rest ih =>
    simp only [List.cons_append, readFields] at hread ⊢
    cases hfield : readField shape buffer with
    | error fault => simp [hfield] at hread
    | ok result =>
      obtain ⟨value, middle⟩ := result
      simp only [hfield] at hread
      cases htail : readFields (rest ++ second) middle with
      | error fault => simp [htail] at hread
      | ok result =>
        obtain ⟨others, final⟩ := result
        simp only [htail, Except.ok.injEq, Prod.mk.injEq] at hread
        obtain ⟨rfl, rfl⟩ := hread
        obtain ⟨front, stop, back, hfront, hback, rfl, hlength⟩ := ih htail
        exact ⟨value :: front, stop, back, by simp [hfront], hback, rfl, congrArg (· + 1) hlength⟩

theorem readField_position {shape : Shape} {value : Value} (hposition : position ≤ 8 * bytes.length)
    (hread : readField shape (reader bytes position) = .ok (value, after)) :
    after = reader bytes (readAdvance position shape.layout) ∧
      readAdvance position shape.layout ≤ 8 * bytes.length := by
  have hbytes : ∀ start count src stop, byteCount start ≤ bytes.length →
      (reader bytes start).readBytes count = .ok (src, stop) →
      stop = reader bytes (align start + 8 * count) ∧
        align start + 8 * count ≤ 8 * bytes.length := by
    intro start count src stop hstart hok
    by_cases hroom : byteCount start + count ≤ bytes.length
    · rw [readBytes_reader hroom] at hok
      obtain ⟨-, rfl⟩ := Prod.mk.inj (Except.ok.inj hok)
      refine ⟨rfl, ?_⟩
      unfold align
      omega
    · have hover : byteCount start + count > bytes.length := by omega
      simp [readBytes, resetBits, reader, size, hover] at hok
  have hcount : byteCount position ≤ bytes.length := by
    unfold byteCount
    omega
  cases shape with
  | bit =>
    rcases Nat.lt_or_eq_of_le hposition with hlt | rfl
    · simp only [readField, readBit_reader hlt, Except.map, Except.ok.injEq, Prod.mk.injEq] at hread
      exact ⟨hread.2.symm, hlt⟩
    · simp [readField, readBit_reader_end, Except.map] at hread
  | bits count =>
    obtain ⟨hok, herror⟩ := readBitsLoop_reader 0 count.val hposition
    rcases Nat.lt_or_ge (8 * bytes.length) (position + count.val) with hlt | hge
    · simp [readField, readBits, herror hlt, Except.map] at hread
    · obtain ⟨result, hresult, -⟩ := hok hge
      simp only [readField, readBits, hresult, Except.map, Except.ok.injEq, Prod.mk.injEq] at hread
      exact ⟨hread.2.symm, hge⟩
  | guidByte present =>
    simp only [readField, readByteSeq, resetBits_reader] at hread
    cases present with
    | false =>
      simp only [Bool.false_eq_true, if_false, ne_eq, not_true_eq_false, Except.map,
        Except.ok.injEq, Prod.mk.injEq] at hread
      refine ⟨hread.2.symm, ?_⟩
      simp only [Shape.layout, readAdvance, Bool.false_eq_true, if_false]
      unfold align
      omega
    | true =>
      have hpresent : (1 : UInt8) ≠ 0 := by decide
      simp only [if_true, if_pos hpresent, readInt] at hread
      cases hok : (reader bytes (align position)).readBytes 1 with
      | error fault => simp [hok, Except.map] at hread
      | ok result =>
        obtain ⟨src, stop⟩ := result
        simp only [hok, Except.map, Except.ok.injEq, Prod.mk.injEq] at hread
        obtain ⟨-, rfl⟩ := hread
        have hmove := hbytes _ _ _ _ (by rwa [byteCount_align]) hok
        rwa [align_align] at hmove
  | string _ | int _ =>
    simp only [readField, readString, readInt] at hread
    revert hread
    cases hok : (reader bytes position).readBytes _ with
    | error fault => simp [Except.map]
    | ok result =>
      obtain ⟨src, stop⟩ := result
      rintro ⟨-, rfl⟩
      exact hbytes _ _ _ _ hcount hok

theorem readFields_position (hposition : position ≤ 8 * bytes.length)
    (hread : readFields shapes (reader bytes position) = .ok (values, after)) :
    after = reader bytes ((shapes.map Shape.layout).foldl readAdvance position) ∧
      (shapes.map Shape.layout).foldl readAdvance position ≤ 8 * bytes.length := by
  induction shapes generalizing position values with
  | nil =>
    simp only [readFields, Except.ok.injEq, Prod.mk.injEq] at hread
    exact ⟨hread.2.symm, hposition⟩
  | cons shape rest ih =>
    simp only [readFields] at hread
    cases hfield : readField shape (reader bytes position) with
    | error fault => simp [hfield] at hread
    | ok result =>
      obtain ⟨value, middle⟩ := result
      obtain ⟨rfl, hmiddle⟩ := readField_position hposition hfield
      simp only [hfield] at hread
      cases htail : readFields rest (reader bytes (readAdvance position shape.layout)) with
      | error fault => simp [htail] at hread
      | ok result =>
        obtain ⟨others, final⟩ := result
        simp only [htail, Except.ok.injEq, Prod.mk.injEq] at hread
        obtain ⟨-, rfl⟩ := hread
        exact ih hmiddle htail

/-- The value read for a marked bit field is wrong if the bit under the cursor is
not the mark. -/
theorem readField_ne_marked {count : Nat} {shape : Shape} {value : Value}
    (hposition : position ≤ 8 * bytes.length) (hlayout : shape.layout = .bits count)
    (hcount : count ≠ 0) (hbit : bitAt bytes position = false)
    (hread : readField shape (reader bytes position) = .ok (value, after)) :
    value ≠ (markedField shape).value := by
  cases shape with
  | bit =>
    rcases Nat.lt_or_eq_of_le hposition with hlt | rfl
    · simp only [readField, readBit_reader hlt, Except.map, Except.ok.injEq, Prod.mk.injEq,
        hbit] at hread
      rw [← hread.1]
      simp [markedField, Field.value]
    · simp [readField, readBit_reader_end, Except.map] at hread
  | bits width =>
    obtain rfl : width.val = count := Layout.bits.inj hlayout
    obtain ⟨hok, herror⟩ := readBitsLoop_reader 0 width.val hposition
    rcases Nat.lt_or_ge (8 * bytes.length) (position + width.val) with hlt | hge
    · simp [readField, readBits, herror hlt, Except.map] at hread
    · obtain ⟨result, hresult, htest⟩ := hok hge
      simp only [readField, readBits, hresult, Except.map, Except.ok.injEq, Prod.mk.injEq] at hread
      -- The first bit read is the one under the cursor, the first bit written is set.
      have hindex : position + width.val - 1 - (width.val - 1) = position := by omega
      have hfirst : result.testBit (width.val - 1) = false := by
        rw [htest, hindex, hbit]
        simp
      have hpow : 2 ^ (width.val - 1) % 2 ^ width.val = 2 ^ (width.val - 1) :=
        Nat.mod_eq_of_lt (Nat.pow_lt_pow_right (by decide) (by omega))
      rw [← hread.1]
      intro heq
      have hvalue : result = 2 ^ (width.val - 1) := (Value.number.inj heq).trans hpow
      rw [hvalue, Nat.testBit_two_pow_self] at hfirst
      exact absurd hfirst (by decide)
  | guidByte _ | string _ | int _ => exact absurd hlayout (by simp [Shape.layout])

/-! ## Necessity -/

variable (layouts : List Layout)

/-- A reader that is ahead stands behind a byte boundary inside which the writer
still is. -/
theorem position_mod_of_ahead (hstart : progress.ahead = true → progress.position % 8 ≠ 0) :
    (layouts.foldl Progress.advance progress).ahead = true →
      (layouts.foldl Progress.advance progress).position % 8 ≠ 0 := by
  induction layouts generalizing progress with
  | nil => exact hstart
  | cons layout rest ih =>
    apply ih
    cases layout with
    | bits count =>
      simp only [Progress.advance, Bool.and_eq_true, decide_eq_true_eq]
      rintro ⟨hahead, rfl⟩
      exact hstart hahead
    | bytes count =>
      simp only [Progress.advance]
      split
      · simp only [ne_eq, decide_not, Bool.or_eq_true, Bool.not_eq_true', decide_eq_false_iff_not]
        exact fun hahead => hahead.elim hstart id
      · exact fun hahead => absurd hahead (by simp)

theorem foldl_readAdvance (hstep : Along Progress.advance Progress.InStep progress layouts) :
    layouts.foldl readAdvance progress.readPosition =
      (layouts.foldl Progress.advance progress).readPosition := by
  induction layouts generalizing progress with
  | nil => rfl
  | cons layout rest ih =>
    rw [List.foldl_cons, Progress.readAdvance_readPosition hstep.1]
    exact ih hstep.2

theorem writeFields_append {first second : List Field}
    (hfinal : writeFields (first ++ second) buffer = .ok final) :
    ∃ middle, writeFields first buffer = .ok middle ∧
      writeFields second middle = .ok final := by
  induction first generalizing buffer with
  | nil => exact ⟨buffer, rfl, hfinal⟩
  | cons field rest ih =>
    simp only [List.cons_append, writeFields] at hfinal ⊢
    cases hfield : writeField field buffer with
    | error fault => simp [hfield] at hfinal
    | ok next =>
      simp only [hfield] at hfinal
      exact ih hfinal

theorem written_of_writeFields {fields : List Field} (hwritten : Written buffer progress.position)
    (hfinal : writeFields fields buffer = .ok final) :
    Written final (((fields.map Field.shape).map Shape.layout).foldl Progress.advance
      progress).position := by
  by_cases hall : Along Progress.advance Progress.HasRoom progress
      ((fields.map Field.shape).map Shape.layout)
  · obtain ⟨other, hother, -, hlast⟩ := (writeFields_spec fields hwritten).1 hall
    rw [hfinal] at hother
    exact Except.ok.inj hother ▸ hlast
  · rw [(writeFields_spec fields hwritten).2 hall] at hfinal
    exact absurd hfinal (by simp)

theorem onlyBit_marked {before after : List Shape} {marked : Shape} {count : Nat}
    (hlayout : marked.layout = .bits count)
    (hfinal : writeFields (before.map zeroField ++ markedField marked :: after.map zeroField)
      {} = .ok final) :
    OnlyBit ((before.map Shape.layout).foldl Progress.advance {}).position final.storage := by
  have hstart : Written {} (Progress.position {}) := written_empty
  obtain ⟨middle, hbefore, hrest⟩ := writeFields_append hfinal
  have hmiddle := written_of_writeFields hstart hbefore
  rw [map_zeroField_shape] at hmiddle
  have hempty : OnlyBit ((before.map Shape.layout).foldl Progress.advance {}).position
      middle.storage :=
    onlyBit_writeFields before hstart (fun i _ => bitAt_of_length_le (Nat.zero_le i)) hbefore
  by_cases hroom : ((before.map Shape.layout).foldl Progress.advance {}).HasRoom
      (markedField marked).shape.layout
  · obtain ⟨next, hok, hnext, -, -, hbits⟩ := writeField_of_hasRoom hmiddle hroom
    simp only [writeFields, hok] at hrest
    refine onlyBit_writeFields after hnext (fun i hi => ?_) hrest
    have hplace : (markedField marked).payload.start
        ((before.map Shape.layout).foldl Progress.advance {}).position =
        ((before.map Shape.layout).foldl Progress.advance {}).position := by
      cases marked with
      | bit => rfl
      | bits width => rfl
      | guidByte _ | string _ | int _ => exact absurd hlayout (by simp [Shape.layout])
    rw [hbits, hempty i hi, hplace, Bool.false_or, Bool.and_eq_false_iff, decide_eq_false_iff_not]
    by_cases hle : ((before.map Shape.layout).foldl Progress.advance {}).position ≤ i
    · exact .inr (markedField_bitAt (by omega))
    · exact .inl hle
  · simp [writeFields, writeField_of_not_hasRoom hmiddle hroom] at hrest

/-- A bit field written while the reader is ahead is read from the wrong byte. -/
theorem exists_not_roundTrips {shapes : List Shape} (hnot : ¬ Aligned shapes) :
    ∃ fields, fields.map Field.shape = shapes ∧ ¬ RoundTrips fields := by
  obtain ⟨layouts, layout, others, hsplit, hbefore, hviolation⟩ :=
    exists_first_violation Progress.advance hnot
  obtain ⟨before, rest, rfl, rfl, hrest⟩ := List.map_eq_append_iff.mp hsplit
  obtain ⟨marked, after, rfl, rfl, rfl⟩ := List.map_eq_cons_iff.mp hrest
  refine ⟨before.map zeroField ++ markedField marked :: after.map zeroField, ?_, ?_⟩
  · rw [List.map_append, List.map_cons, map_zeroField_shape, map_zeroField_shape, markedField_shape]
  · rintro ⟨final, hfinal, last, hread, -⟩
    cases hlayout : marked.layout with
    | bytes count => exact hviolation (hlayout ▸ trivial)
    | bits count =>
      rw [hlayout] at hviolation
      obtain ⟨hcount, hahead⟩ := Classical.not_imp.mp hviolation
      have hahead : ((before.map Shape.layout).foldl Progress.advance {}).ahead = true := by
        simpa using hahead
      rw [List.map_append, List.map_cons, map_zeroField_shape, map_zeroField_shape,
        markedField_shape, List.map_append, List.map_cons] at hread
      obtain ⟨front, middle, back, hfront, hback, hvalues, hlength⟩ := readFields_append hread
      have hpositions := readFields_position before (Nat.zero_le _) hfront
      have hreader := foldl_readAdvance (before.map Shape.layout) hbefore
      change (before.map Shape.layout).foldl readAdvance 0 = _ at hreader
      rw [hreader] at hpositions
      obtain ⟨rfl, hend⟩ := hpositions
      -- The reader stands at the next byte boundary, past the mark.
      have hmod := position_mod_of_ahead (before.map Shape.layout)
        (show Progress.ahead {} = true → Progress.position {} % 8 ≠ 0 from
          fun hfalse => absurd hfalse (by decide)) hahead
      have hpast : ((before.map Shape.layout).foldl Progress.advance {}).readPosition ≠
          ((before.map Shape.layout).foldl Progress.advance {}).position := by
        rw [Progress.readPosition, if_pos hahead]
        exact fun heq => hmod (align_eq_self_iff.mp heq)
      have hbit := onlyBit_marked hlayout hfinal _ hpast
      simp only [readFields] at hback
      cases hfield : readField marked (reader final.storage
          ((before.map Shape.layout).foldl Progress.advance {}).readPosition) with
      | error fault => simp [hfield] at hback
      | ok result =>
        obtain ⟨value, next⟩ := result
        simp only [hfield] at hback
        cases htail : readFields after next with
        | error fault => simp [htail] at hback
        | ok result =>
          simp only [htail, Except.ok.injEq, Prod.mk.injEq] at hback
          obtain ⟨rfl, -⟩ := hback
          have hsame := List.append_inj hvalues (by simp [hlength])
          exact readField_ne_marked hend hlayout hcount hbit hfield (List.cons.inj hsame.2).1.symm

/-- A packet layout round-trips for all values of its fields exactly if the packet
stays below the size limit and no bit field follows a zero guid byte or an empty
string inside an open byte before the next written byte. -/
theorem layout_roundTrips_iff (shapes : List Shape) :
    (∀ fields, fields.map Field.shape = shapes → RoundTrips fields) ↔
      Fits shapes ∧ Aligned shapes := by
  constructor
  · intro hall
    refine ⟨?_, ?_⟩
    · by_contra hfull
      obtain ⟨final, hfinal, -⟩ := hall (shapes.map zeroField) (map_zeroField_shape shapes)
      have hstart : Written {} (Progress.position {}) := written_empty
      have hfault := (writeFields_spec (shapes.map zeroField) hstart).2
        (by rwa [map_zeroField_shape])
      rw [hfault] at hfinal
      exact absurd hfinal (by simp)
    · by_contra hnot
      obtain ⟨fields, hshapes, hfails⟩ := exists_not_roundTrips hnot
      exact hfails (hall fields hshapes)
  · rintro ⟨hfits, haligned⟩ fields rfl
    exact roundTrips_of_aligned hfits haligned

/-- A presence bit, the zero guid byte it announces and another bit: the reader
looks for the last bit in a second byte that was never written. -/
theorem zero_guid_byte_desynchronises :
    ¬ RoundTrips [.bit false, .guidByte 0, .bit true] := by
  rintro ⟨written, hwritten, last, hread, -⟩
  have hstorage : written.storage = [0x40] := by
    obtain rfl := Except.ok.inj hwritten
    rfl
  rw [hstorage] at hread
  have hfault : readFields [.bit, .guidByte false, .bit] (ofBytes [0x40]) =
      .error (.position false 1 1 1) := rfl
  exact absurd (hread.symm.trans hfault) (by simp)

end MopServer.Packets
