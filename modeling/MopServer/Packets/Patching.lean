import MopServer.Packets.Codec

/-! # Patching a reserved bit field

A caller that does not know a value yet saves the write position, reserves the field
by zero bits, writes on, and patches the value in with `PutBits` at the saved
position.  The storage is the one that writing the value in place gives.
-/

namespace MopServer.Packets

open MopServer.Foundation ByteBuffer

/-- The write position that `wpos()` and `bitpos()` return. -/
structure SavedPosition where
  pos : Nat
  bitpos : Nat
  bitpos_le : bitpos ≤ 8

namespace ByteBuffer

def saved (buffer : ByteBuffer) : SavedPosition :=
  ⟨buffer.wpos, buffer.bitpos, buffer.bitpos_le⟩

end ByteBuffer

/-- The position moved into the next byte when the current one is full. -/
def SavedPosition.opened (position : SavedPosition) :
    { opened : SavedPosition // opened.bitpos < 8 } :=
  if hopen : position.bitpos = 8 then ⟨⟨position.pos + 1, 0, opened_le_byte⟩, opened_lt_byte⟩
  else ⟨position, lt_of_le_of_ne position.bitpos_le hopen⟩

/-- `PutBits` on the storage: the patched storage and the advanced position.  There is no
result where the source would write outside of the storage. -/
def putBits (storage : List UInt8) (value bits : Nat) (position : SavedPosition) :
    Option (List UInt8 × SavedPosition) :=
  if hbits : bits = 0 then some (storage, position)
  else
    let ⟨opened, hopened⟩ := position.opened
    let written := min (8 - opened.bitpos) bits
    let rest := bits - written
    let advanced : SavedPosition := ⟨opened.pos, opened.bitpos + written, by omega⟩
    if 0 < advanced.pos ∧ advanced.pos - 1 < storage.length then
      putBits (storage.modify (advanced.pos - 1) fun byte => byte ||| UInt8.ofNat
        (((value >>> rest) &&& ((1 <<< written) - 1)) <<< (8 - advanced.bitpos))) value rest
        advanced
    else none
termination_by bits
decreasing_by omega

/-- A call that appends to a buffer. -/
inductive Write where
  | bit (set : Bool)
  | bits (value : UInt64) (count : Fin 65)
  | byteSeq (byte : UInt8)
  | string (str : List UInt8)
  | append (src : List UInt8)
  | resetBits

def Write.run (write : Write) (buffer : ByteBuffer) : Except Fault ByteBuffer :=
  match write with
  | .bit set => buffer.writeBit set
  | .bits value count => buffer.writeBits value.toNat count
  | .byteSeq byte => buffer.writeByteSeq byte
  | .string str => buffer.writeString str
  | .append src => buffer.append src
  | .resetBits => .ok buffer.resetBits

def writeAll (writes : List Write) (buffer : ByteBuffer) : Except Fault ByteBuffer :=
  writes.foldlM (fun buffer write => write.run buffer) buffer

/-- Zero bits at the write position, further writes, and the value patched in at the end:
the storage, and the caller's position. -/
def deferred (buffer : ByteBuffer) (value bits : Nat) (further : List Write) :
    Except Fault (Option (List UInt8 × SavedPosition)) := do
  let reserved ← buffer.writeBits 0 bits
  let final ← writeAll further reserved
  return putBits final.storage value bits buffer.saved

/-- The value in place, then the further writes: the storage, and the position just after
the field. -/
def direct (buffer : ByteBuffer) (value bits : Nat) (further : List Write) :
    Except Fault (Option (List UInt8 × SavedPosition)) := do
  let written ← buffer.writeBits value bits
  let final ← writeAll further written
  return some (final.storage, written.saved)

/-! ## Patching as bits -/

variable {buffer : ByteBuffer} {position : Nat} {storage : List UInt8}

def savedAt (position : Nat) : SavedPosition :=
  ⟨byteCount position, cursor position, cursor_le position⟩

theorem saved_of_written (hwritten : Written buffer position) :
    buffer.saved = savedAt position := by
  simp only [saved, savedAt, hwritten.wpos, hwritten.length, hwritten.bitpos]

def openedAt (position : Nat) : { opened : SavedPosition // opened.bitpos < 8 } :=
  ⟨⟨position / 8 + 1, position % 8, mod_le_byte position⟩, mod_lt_byte position⟩

theorem savedAt_opened (position : Nat) : (savedAt position).opened = openedAt position := by
  unfold SavedPosition.opened
  by_cases hmod : position % 8 = 0
  · have hclosed : (savedAt position).bitpos = 8 := cursor_eq_eight_iff.mpr hmod
    have hpos : byteCount position = position / 8 := by
      unfold byteCount
      omega
    rw [dif_pos hclosed]
    simp only [savedAt, openedAt, hpos, hmod]
  · have hcursor : cursor position = position % 8 := if_neg hmod
    have hopen : (savedAt position).bitpos ≠ 8 := fun heq => hmod (cursor_eq_eight_iff.mp heq)
    have hpos : byteCount position = position / 8 + 1 := by
      unfold byteCount
      omega
    rw [dif_neg hopen]
    simp only [savedAt, openedAt, hpos, hcursor]

theorem openedAt_advance {count : Nat} (hpos : 0 < count) (hcount : position % 8 + count ≤ 8) :
    (⟨position / 8 + 1, position % 8 + count, hcount⟩ : SavedPosition) =
      savedAt (position + count) := by
  have hcursor : cursor (position + count) = position % 8 + count := by
    unfold cursor
    split <;> omega
  have hbytes : byteCount (position + count) = position / 8 + 1 := by
    unfold byteCount
    omega
  simp only [savedAt, hcursor, hbytes]

/-- `PutBits` inside the storage sets the bits of the field, and ends behind it. -/
theorem putBits_spec (value bits : Nat) (hroom : byteCount (position + bits) ≤ storage.length) :
    ∃ patched, putBits storage value bits (savedAt position) =
        some (patched, savedAt (position + bits)) ∧
      patched.length = storage.length ∧
      ∀ i, bitAt patched i = (bitAt storage i || fieldBit position bits value i) := by
  induction bits using Nat.strong_induction_on generalizing storage position with
  | _ bits ih =>
    unfold putBits
    by_cases hbits : bits = 0
    · subst hbits
      refine ⟨storage, by simp, rfl, fun i => ?_⟩
      rw [fieldBit_of_outside value (by omega), Bool.or_false]
    · rw [dif_neg hbits, savedAt_opened]
      simp only [openedAt]
      obtain ⟨count, hcount⟩ : ∃ count, count = min (8 - position % 8) bits := ⟨_, rfl⟩
      have hpos : 0 < count := by omega
      have hfits : position % 8 + count ≤ 8 := by omega
      have hsum : count + (bits - count) = bits := by omega
      have hend : position + count + (bits - count) = position + bits := by omega
      have hinside : position / 8 < storage.length := by
        unfold byteCount at hroom
        omega
      have hmask : (value >>> (bits - count)) &&& ((1 <<< count) - 1) =
          (value >>> (bits - count)) % 2 ^ count := by
        rw [Nat.one_shiftLeft, Nat.and_two_pow_sub_one_eq_mod]
      simp only [← hcount, hmask, Nat.add_sub_cancel]
      rw [if_pos ⟨Nat.succ_pos _, hinside⟩, openedAt_advance hpos hfits]
      have hset := bitAt_modify_or hinside hfits
        (Nat.mod_lt (value >>> (bits - count)) (Nat.two_pow_pos count))
      obtain ⟨patched, hpatched, hlength, hrest⟩ := ih (bits - count) (by omega)
        (show byteCount (position + count + (bits - count)) ≤ (storage.modify (position / 8)
            fun byte => byte ||| UInt8.ofNat (((value >>> (bits - count)) % 2 ^ count) <<<
              (8 - (position % 8 + count)))).length by
          rw [hend, List.length_modify]
          exact hroom)
      rw [hend] at hpatched
      refine ⟨patched, hpatched, hlength.trans (List.length_modify ..), fun i => ?_⟩
      rw [hrest, hset, Bool.or_assoc, ← fieldBit_append, hsum]

/-! ## Writers that differ in a field -/

/-- Two buffers after the same number of bits, the second with the bits of a mask set on top
of those of the first. -/
structure Overlaid (mask : Nat → Bool) (position : Nat) (first second : ByteBuffer) : Prop where
  firstWritten : Written first position
  secondWritten : Written second position
  bits : ∀ i, bitAt second.storage i = (bitAt first.storage i || mask i)

/-- Both calls fail alike, or both succeed and leave the buffers as they were to each other. -/
def KeepsOverlaid (mask : Nat → Bool) (position : Nat) (first second : Except Fault ByteBuffer) :
    Prop :=
  (∃ fault, first = .error fault ∧ second = .error fault) ∨
    ∃ firstAfter secondAfter further, first = .ok firstAfter ∧ second = .ok secondAfter ∧
      position ≤ further ∧ Overlaid mask further firstAfter secondAfter

section

variable {mask : Nat → Bool} {position : Nat} {first second : ByteBuffer}

theorem keepsOverlaid_of_writeSpec (hboth : Overlaid mask position first second)
    {payload : Payload} {firstResult secondResult : Except Fault ByteBuffer}
    (hfirst : WriteSpec first position payload firstResult)
    (hsecond : WriteSpec second position payload secondResult) :
    KeepsOverlaid mask position firstResult secondResult := by
  by_cases hroom : Progress.HasRoom ⟨position, false⟩ payload.layout
  · obtain ⟨firstAfter, hfirstOk, hfirstWritten, -, -, hfirstBits⟩ := (hfirst false).1 hroom
    obtain ⟨secondAfter, hsecondOk, hsecondWritten, -, -, hsecondBits⟩ := (hsecond false).1 hroom
    right
    refine ⟨firstAfter, secondAfter, _, hfirstOk, hsecondOk,
      Progress.position_le_advance ⟨position, false⟩ payload.layout,
      hfirstWritten, hsecondWritten, fun i => ?_⟩
    rw [hsecondBits, hfirstBits, hboth.bits, Bool.or_right_comm]
  · exact .inl ⟨.assertion, (hfirst false).2 hroom, (hsecond false).2 hroom⟩

theorem written_resetBits (hwritten : Written first position) :
    Written first.resetBits (align position) where
  wpos := hwritten.wpos
  length := hwritten.length.trans (byteCount_align position).symm
  bitpos := (cursor_eq_eight_iff.mpr (Nat.mul_mod_right 8 _)).symm
  zero i hi := hwritten.zero i ((le_align position).trans hi)

theorem append_nil_of_written (hwritten : Written first position) :
    first.append [] = .error (.source (byteCount position) (byteCount position) 0) := by
  have hlength := hwritten.length
  have hwpos := hwritten.wpos.trans hlength
  simp only [ByteBuffer.append, resetBits, size, List.length_nil, if_true, hlength, hwpos]

theorem writeSpec_byteSeq (hwritten : Written first position) (byte : UInt8) :
    WriteSpec first position (.bytes (if byte ≠ 0 then [byte ^^^ 1] else []))
      (first.writeByteSeq byte) :=
  writeField_spec hwritten (.guidByte byte)

/-- Every call that appends does the same to both buffers. -/
theorem Write.run_overlaid (hboth : Overlaid mask position first second) (write : Write) :
    KeepsOverlaid mask position (write.run first) (write.run second) := by
  cases write with
  | bit set =>
    exact keepsOverlaid_of_writeSpec hboth
      (writeSpec_of_emits hboth.firstWritten (writeBit_spec hboth.firstWritten set))
      (writeSpec_of_emits hboth.secondWritten (writeBit_spec hboth.secondWritten set))
  | bits value count =>
    exact keepsOverlaid_of_writeSpec hboth
      (writeSpec_of_emits hboth.firstWritten
        (writeBits_spec hboth.firstWritten value.toNat count))
      (writeSpec_of_emits hboth.secondWritten
        (writeBits_spec hboth.secondWritten value.toNat count))
  | byteSeq byte =>
    exact keepsOverlaid_of_writeSpec hboth (writeSpec_byteSeq hboth.firstWritten byte)
      (writeSpec_byteSeq hboth.secondWritten byte)
  | string str =>
    exact keepsOverlaid_of_writeSpec hboth (writeSpec_append hboth.firstWritten str)
      (writeSpec_append hboth.secondWritten str)
  | append src =>
    by_cases hsrc : src.length = 0
    · obtain rfl := List.length_eq_zero_iff.mp hsrc
      exact .inl ⟨_, append_nil_of_written hboth.firstWritten,
        append_nil_of_written hboth.secondWritten⟩
    · have hfirst := writeSpec_append hboth.firstWritten src
      have hsecond := writeSpec_append hboth.secondWritten src
      rw [if_pos hsrc] at hfirst hsecond
      exact keepsOverlaid_of_writeSpec hboth hfirst hsecond
  | resetBits =>
    exact .inr ⟨_, _, align position, rfl, rfl, le_align position,
      written_resetBits hboth.firstWritten, written_resetBits hboth.secondWritten, hboth.bits⟩

theorem writeAll_cons (write : Write) (rest : List Write) (buffer : ByteBuffer) :
    writeAll (write :: rest) buffer = write.run buffer >>= writeAll rest :=
  List.foldlM_cons

/-- So does every sequence of calls. -/
theorem writeAll_overlaid (writes : List Write) (hboth : Overlaid mask position first second) :
    KeepsOverlaid mask position (writeAll writes first) (writeAll writes second) := by
  induction writes generalizing position first second with
  | nil => exact .inr ⟨first, second, position, rfl, rfl, le_rfl, hboth⟩
  | cons write rest ih =>
    rw [writeAll_cons, writeAll_cons]
    rcases write.run_overlaid hboth with ⟨fault, hfirst, hsecond⟩ |
      ⟨firstAfter, secondAfter, further, hfirst, hsecond, hfurther, hafter⟩
    · rw [hfirst, hsecond]
      exact .inl ⟨fault, rfl, rfl⟩
    · rw [hfirst, hsecond]
      rcases ih hafter with herror | ⟨firstLast, secondLast, last, hfirst, hsecond, hlast, hend⟩
      · exact .inl herror
      · exact .inr ⟨firstLast, secondLast, last, hfirst, hsecond, hfurther.trans hlast, hend⟩

end

theorem overlaid_refl (hwritten : Written buffer position) :
    Overlaid (fun _ => false) position buffer buffer :=
  ⟨hwritten, hwritten, fun _ => (Bool.or_false _).symm⟩

theorem written_writeAll {writes : List Write} (hbuffer : writeAll writes {} = .ok buffer) :
    ∃ position, Written buffer position := by
  rcases writeAll_overlaid writes (overlaid_refl written_empty) with ⟨fault, herror, -⟩ |
    ⟨after, _, further, hok, -, -, hboth⟩
  · rw [hbuffer] at herror
    cases herror
  · obtain rfl := Except.ok.inj (hbuffer.symm.trans hok)
    exact ⟨further, hboth.firstWritten⟩

/-! ## The patched field -/

variable {mask : Nat → Bool} {first second : ByteBuffer}

theorem writeBits_overlaid (hboth : Overlaid mask position first second) (value bits : Nat) :
    (first.writeBits 0 bits = .error .assertion ∧
        second.writeBits value bits = .error .assertion) ∨
      ∃ reserved written, first.writeBits 0 bits = .ok reserved ∧
        second.writeBits value bits = .ok written ∧
        Overlaid (fun i => mask i || fieldBit position bits value i) (position + bits)
          reserved written := by
  obtain ⟨hzero, hzeroFull⟩ := writeBits_spec hboth.firstWritten 0 bits
  obtain ⟨hvalue, hvalueFull⟩ := writeBits_spec hboth.secondWritten value bits
  by_cases hroom : ByteBuffer.HasRoom position bits
  · obtain ⟨reserved, hreserved, hreservedEmits⟩ := hzero hroom
    obtain ⟨written, hwritten, hwrittenEmits⟩ := hvalue hroom
    right
    refine ⟨reserved, written, hreserved, hwritten, hreservedEmits.written,
      hwrittenEmits.written, fun i => ?_⟩
    rw [hreservedEmits.bits, hwrittenEmits.bits]
    by_cases hrange : position ≤ i ∧ i < position + bits
    · have hclear : mask i = false := by
        have hbits := hboth.bits i
        rw [hboth.firstWritten.zero i hrange.1, hboth.secondWritten.zero i hrange.1,
          Bool.false_or] at hbits
        exact hbits.symm
      simp [hrange, fieldBit, hclear]
    · rw [if_neg hrange, if_neg hrange, fieldBit_of_outside value hrange, Bool.or_false, hboth.bits]
  · exact .inl ⟨hzeroFull hroom, hvalueFull hroom⟩

theorem byteCount_le_of_overlaid {last : Nat} (hboth : Overlaid mask last first second)
    (hposition : position ≤ last) : byteCount position ≤ first.storage.length := by
  rw [hboth.firstWritten.length]
  unfold byteCount
  omega

theorem eq_of_overlaid {patched : List UInt8} (hboth : Overlaid mask position first second)
    (hlength : patched.length = first.storage.length)
    (hbits : ∀ i, bitAt patched i = (bitAt first.storage i || mask i)) :
    patched = second.storage := by
  apply eq_of_bitAt
  · rw [hlength, hboth.firstWritten.length, hboth.secondWritten.length]
  · intro i
    rw [hbits, hboth.bits]

/-! ## Several fields on one position -/

/-- A field that is reserved first and patched in later. -/
structure PatchField where
  value : Nat
  bits : Nat

variable (value : PatchField → Nat)

/-- The fields in a row, with zeros or with their values. -/
def writeEach (fields : List PatchField) (buffer : ByteBuffer) : Except Fault ByteBuffer :=
  fields.foldlM (fun buffer field => buffer.writeBits (value field) field.bits) buffer

variable (fields : List PatchField)

/-- The fields patched in one after the other, each call moving the caller's position on. -/
def putEach (storage : List UInt8) (position : SavedPosition) :
    Option (List UInt8 × SavedPosition) :=
  fields.foldlM (fun (storage, position) field =>
    putBits storage field.value field.bits position) (storage, position)

def fieldsEnd (position : Nat) (fields : List PatchField) : Nat :=
  fields.foldl (fun position field => position + field.bits) position

def fieldsBit : Nat → List PatchField → Nat → Bool
  | _, [], _ => false
  | position, field :: rest, i => fieldBit position field.bits field.value i ||
      fieldsBit (position + field.bits) rest i

theorem le_fieldsEnd (position : Nat) (fields : List PatchField) :
    position ≤ fieldsEnd position fields := by
  induction fields generalizing position with
  | nil => exact le_rfl
  | cons field rest ih => exact (Nat.le_add_right position field.bits).trans (ih _)

theorem putEach_spec (hroom : byteCount (fieldsEnd position fields) ≤ storage.length) :
    ∃ patched, putEach fields storage (savedAt position) =
        some (patched, savedAt (fieldsEnd position fields)) ∧
      patched.length = storage.length ∧
      ∀ i, bitAt patched i = (bitAt storage i || fieldsBit position fields i) := by
  induction fields generalizing storage position with
  | nil => exact ⟨storage, rfl, rfl, fun i => (Bool.or_false _).symm⟩
  | cons field rest ih =>
    have hhere : byteCount (position + field.bits) ≤ storage.length := by
      have hle := le_fieldsEnd (position + field.bits) rest
      have hend : fieldsEnd position (field :: rest) =
        fieldsEnd (position + field.bits) rest := rfl
      rw [hend] at hroom
      unfold byteCount at hroom ⊢
      omega
    obtain ⟨middle, hmiddle, hlength, hbits⟩ := putBits_spec field.value field.bits hhere
    obtain ⟨patched, hpatched, hlast, hrest⟩ :=
      ih (show byteCount (fieldsEnd (position + field.bits) rest) ≤ middle.length from
        hlength ▸ hroom)
    refine ⟨patched, ?_, hlast.trans hlength, fun i => ?_⟩
    · simp only [putEach, List.foldlM_cons, hmiddle]
      exact hpatched
    · rw [hrest, hbits, fieldsBit, Bool.or_assoc]

theorem writeEach_cons (field : PatchField) (rest : List PatchField) (buffer : ByteBuffer) :
    writeEach value (field :: rest) buffer =
      buffer.writeBits (value field) field.bits >>= writeEach value rest :=
  List.foldlM_cons

/-- Reserving the fields in one buffer and writing them in place in the other puts their bits
on top. -/
theorem writeEach_overlaid (hboth : Overlaid mask position first second) :
    (writeEach (fun _ => 0) fields first = .error .assertion ∧
        writeEach PatchField.value fields second = .error .assertion) ∨
      ∃ reserved written, writeEach (fun _ => 0) fields first = .ok reserved ∧
        writeEach PatchField.value fields second = .ok written ∧
        Overlaid (fun i => mask i || fieldsBit position fields i) (fieldsEnd position fields)
          reserved written := by
  induction fields generalizing mask position first second with
  | nil =>
    refine .inr ⟨first, second, rfl, rfl, hboth.firstWritten, hboth.secondWritten, fun i => ?_⟩
    rw [fieldsBit, Bool.or_false, hboth.bits]
  | cons field rest ih =>
    rw [writeEach_cons, writeEach_cons]
    rcases writeBits_overlaid hboth field.value field.bits with ⟨hfirst, hsecond⟩ |
      ⟨reserved, written, hfirst, hsecond, hafter⟩
    · rw [hfirst, hsecond]
      exact .inl ⟨rfl, rfl⟩
    · rw [hfirst, hsecond]
      have hrest := ih hafter
      simp only [Bool.or_assoc] at hrest
      exact hrest

/-- Several fields reserved in a row and patched in by calls that share one position. -/
def deferredEach (buffer : ByteBuffer) (fields : List PatchField) (further : List Write) :
    Except Fault (Option (List UInt8 × SavedPosition)) := do
  let reserved ← writeEach (fun _ => 0) fields buffer
  let final ← writeAll further reserved
  return putEach fields final.storage buffer.saved

def directEach (buffer : ByteBuffer) (fields : List PatchField) (further : List Write) :
    Except Fault (Option (List UInt8 × SavedPosition)) := do
  let written ← writeEach PatchField.value fields buffer
  let final ← writeAll further written
  return some (final.storage, written.saved)

theorem deferredEach_of_written (hwritten : Written buffer position) (fields : List PatchField)
    (further : List Write) :
    deferredEach buffer fields further = directEach buffer fields further := by
  unfold deferredEach directEach
  rcases writeEach_overlaid fields (overlaid_refl hwritten) with ⟨hreserved, hdirect⟩ |
    ⟨reserved, written, hreserved, hdirect, hfields⟩
  · rw [hreserved, hdirect]
    rfl
  · rw [hreserved, hdirect]
    rcases writeAll_overlaid further hfields with ⟨fault, hfirst, hsecond⟩ |
      ⟨final, expected, last, hfirst, hsecond, hlast, hboth⟩
    · simp only [bind, Except.bind, hfirst, hsecond]
    · obtain ⟨patched, hpatched, hlength, hbits⟩ :=
        putEach_spec fields (byteCount_le_of_overlaid hboth hlast)
      have hsame : patched = expected.storage :=
        eq_of_overlaid hboth hlength fun i => by rw [hbits, Bool.false_or]
      simp only [bind, Except.bind, hfirst, hsecond, saved_of_written hwritten, hpatched, hsame,
        saved_of_written hfields.secondWritten]

theorem deferred_eq_direct (hwritten : Written buffer position) (value bits : Nat)
    (further : List Write) :
    deferred buffer value bits further = direct buffer value bits further := by
  have hsame := deferredEach_of_written hwritten [⟨value, bits⟩] further
  simp only [deferredEach, directEach, writeEach, putEach, List.foldlM_cons, List.foldlM_nil,
    bind_pure] at hsame
  exact hsame

def SavedPosition.bitsBefore (position : SavedPosition) : Nat :=
  8 * position.pos + position.bitpos - 8

theorem bitsBefore_savedAt (position : Nat) : (savedAt position).bitsBefore = position := by
  unfold SavedPosition.bitsBefore savedAt cursor byteCount
  split <;> simp only <;> omega

variable {before : List Write}

/-- Whatever has been written before and is written behind the field, patching the value in
at the saved position gives what writing it in place gives, the caller's position then stands
just behind the field, and the patch changes no bit outside of the field. -/
theorem putBits_patches {buffer : ByteBuffer} (hbuffer : writeAll before {} = .ok buffer)
    (bits : Fin 33) (value : Fin (2 ^ bits.val)) (further : List Write) :
    deferred buffer value bits further = direct buffer value bits further ∧
      ∀ reserved final patched position, buffer.writeBits 0 bits = .ok reserved →
        writeAll further reserved = .ok final →
        putBits final.storage value bits buffer.saved = some (patched, position) →
        ∀ i, i < buffer.saved.bitsBefore ∨ buffer.saved.bitsBefore + bits ≤ i →
          bitAt patched i = bitAt final.storage i := by
  obtain ⟨start, hwritten⟩ := written_writeAll hbuffer
  refine ⟨deferred_eq_direct hwritten value bits further, ?_⟩
  intro reserved final patched position hreserved hfinal hpatched i hi
  rw [saved_of_written hwritten, bitsBefore_savedAt] at hi
  rw [saved_of_written hwritten] at hpatched
  rcases writeBits_overlaid (overlaid_refl hwritten) value bits with ⟨herror, -⟩ |
    ⟨other, written, hother, -, hfield⟩
  · rw [hreserved] at herror
    cases herror
  · obtain rfl := Except.ok.inj (hreserved.symm.trans hother)
    rcases writeAll_overlaid further hfield with ⟨fault, herror, -⟩ |
      ⟨last, expected, behind, hlast, -, hbehind, hboth⟩
    · rw [hfinal] at herror
      cases herror
    · obtain rfl := Except.ok.inj (hfinal.symm.trans hlast)
      obtain ⟨result, hresult, -, hbits⟩ :=
        putBits_spec value bits (byteCount_le_of_overlaid hboth hbehind)
      obtain ⟨rfl, -⟩ := Prod.mk.inj (Option.some.inj (hpatched.symm.trans hresult))
      rw [hbits, fieldBit_of_outside value.val (by omega), Bool.or_false]

/-- A buffer that holds one set bit. -/
def flagged : ByteBuffer := { storage := [0x80], wpos := 1, bitpos := 1 }

/-- A count of 18 bits that is patched in behind a flag. -/
theorem putBits_patches_count :
    deferred flagged 3 18 [.bit true, .append [7]] =
      direct flagged 3 18 [.bit true, .append [7]] :=
  (putBits_patches (show writeAll [.bit true] {} = .ok flagged from rfl) 18 ⟨3, by decide⟩ _).1

/-- Fields reserved in a row and patched in on one position are as if written in place. -/
theorem deferredEach_eq_directEach {buffer : ByteBuffer}
    (hbuffer : writeAll before {} = .ok buffer) (fields : List PatchField)
    (further : List Write) :
    deferredEach buffer fields further = directEach buffer fields further := by
  obtain ⟨start, hwritten⟩ := written_writeAll hbuffer
  exact deferredEach_of_written hwritten fields further

theorem deferredEach_eq_directEach_counts :
    deferredEach flagged [⟨3, 18⟩, ⟨1, 9⟩] [.bit true, .append [7]] =
      directEach flagged [⟨3, 18⟩, ⟨1, 9⟩] [.bit true, .append [7]] :=
  deferredEach_eq_directEach (show writeAll [.bit true] {} = .ok flagged from rfl) _ _

end MopServer.Packets
