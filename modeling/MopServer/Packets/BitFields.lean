import MopServer.Packets.Codec

/-! # Bit fields at any alignment

A list of bit fields written into an empty buffer takes as many bytes as its bits
need, and reading the bytes back by the same widths returns the low bits of every
value.  A field of one bit may be written and read by either pair of calls.
-/

namespace MopServer.Packets

open MopServer.Foundation ByteBuffer

/-- A call that writes a bit field. -/
inductive BitWrite where
  | bit (set : Bool)
  | bits (value : UInt32) (count : Fin 33)

/-- A call that reads a bit field. -/
inductive BitRead where
  | bit
  | bits (count : Fin 33)

namespace BitWrite

def width : BitWrite → Nat
  | .bit _ => 1
  | .bits _ count => count

/-- The value given to the call. -/
def value : BitWrite → Nat
  | .bit set => set.toNat
  | .bits value _ => value.toNat

def run (write : BitWrite) (buffer : ByteBuffer) : Except Fault ByteBuffer :=
  match write with
  | .bit set => buffer.writeBit set
  | .bits value count => buffer.writeBits value.toNat count

end BitWrite

namespace BitRead

def width : BitRead → Nat
  | .bit => 1
  | .bits count => count

def run (read : BitRead) (buffer : ByteBuffer) : Except Fault (Nat × ByteBuffer) :=
  match read with
  | .bit => (buffer.readBit).map fun (set, buffer) => (set.toNat, buffer)
  | .bits count => buffer.readBits count

end BitRead

variable (writes : List BitWrite)

def writeBitFields (buffer : ByteBuffer) : Except Fault ByteBuffer :=
  writes.foldlM (fun buffer write => write.run buffer) buffer

def readBitFields : List BitRead → ByteBuffer → Except Fault (List Nat × ByteBuffer)
  | [], buffer => .ok ([], buffer)
  | read :: rest, buffer => do
      let (value, buffer) ← read.run buffer
      let (values, buffer) ← readBitFields rest buffer
      return (value :: values, buffer)

def totalBits : Nat := (writes.map BitWrite.width).sum

/-- Writing succeeds, takes the bytes that the bits need, and every read returns the
low bits of the value written. -/
def ReadsBack (reads : List BitRead) : Prop :=
  ∃ written, writeBitFields writes {} = .ok written ∧
    written.size = (totalBits writes + 7) / 8 ∧
    ∃ rest, readBitFields reads (ofBytes written.storage) =
      .ok (writes.map fun write => write.value % 2 ^ write.width, rest)

/-! ## Room -/

theorem hasRoom_add (position first second : Nat) :
    ByteBuffer.HasRoom position (first + second) ↔
      ByteBuffer.HasRoom position first ∧ ByteBuffer.HasRoom (position + first) second := by
  unfold ByteBuffer.HasRoom byteCount
  omega

theorem hasRoom_zero_left (count : Nat) :
    ByteBuffer.HasRoom 0 count ↔ byteCount count ≤ maxSize := by
  unfold ByteBuffer.HasRoom byteCount
  omega

/-! ## Single fields -/

variable {buffer : ByteBuffer} {position : Nat}

theorem BitWrite.run_spec (hwritten : Written buffer position) (write : BitWrite) :
    (ByteBuffer.HasRoom position write.width → ∃ after, write.run buffer = .ok after ∧
      Emits buffer after position write.width write.value) ∧
    (¬ ByteBuffer.HasRoom position write.width → write.run buffer = .error .assertion) := by
  cases write with
  | bit set => exact writeBit_spec hwritten set
  | bits value count => exact writeBits_spec hwritten value.toNat count

theorem carries_of_emits {before after : ByteBuffer} {count value : Nat}
    (hemits : Emits before after position count value) :
    Carries after.storage position (.bits count (value % 2 ^ count)) := by
  refine ⟨?_, fun i hi => ?_⟩
  · rw [hemits.written.length]
    exact le_align _
  · have hindex : position + count - 1 - (position + i) = count - 1 - i := by omega
    have hlow : count - 1 - i < count := by omega
    rw [hemits.bits, if_pos (by omega), hindex, Nat.testBit_mod_two_pow]
    simp [hlow]

/-- A reader at the place of a field returns it. -/
theorem BitRead.run_of_carries {bytes : List UInt8} {value : Nat} (read : BitRead)
    (hvalue : value < 2 ^ read.width) (hcarries : Carries bytes position (.bits read.width value)) :
    read.run (reader bytes position) = .ok (value, reader bytes (position + read.width)) := by
  cases read with
  | bit =>
    obtain ⟨hroom, hbits⟩ := hcarries
    have hbit : bitAt bytes position = value.testBit 0 := hbits 0 one_pos
    have hposition : position < 8 * bytes.length := hroom
    have hsmall : value < 2 := hvalue
    have htoNat : (value.testBit 0).toNat = value := by
      rw [Nat.toNat_testBit, Nat.pow_zero, Nat.div_one, Nat.mod_eq_of_lt hsmall]
    rw [BitRead.run, readBit_reader hposition, hbit]
    exact congrArg (fun number => Except.ok (number, reader bytes (position + 1))) htoNat
  | bits count => exact readBits_of_carries hvalue hcarries

/-! ## Lists of fields -/

variable {writes : List BitWrite}

theorem writeBitFields_cons (write : BitWrite) (rest : List BitWrite) (buffer : ByteBuffer) :
    writeBitFields (write :: rest) buffer = write.run buffer >>= writeBitFields rest :=
  List.foldlM_cons

/-- While there is room the fields go behind what is there, and a reader that stands at their
start in the bytes written, or in any bytes that extend them, reads them all. -/
theorem writeBitFields_spec (writes : List BitWrite) (hwritten : Written buffer position) :
    (ByteBuffer.HasRoom position (totalBits writes) → ∃ final,
      writeBitFields writes buffer = .ok final ∧
      Written final (position + totalBits writes) ∧
      Extends position buffer.storage final.storage ∧
      ∀ reads : List BitRead, reads.map BitRead.width = writes.map BitWrite.width →
        readBitFields reads (reader final.storage position) =
          .ok (writes.map fun write => write.value % 2 ^ write.width,
            reader final.storage (position + totalBits writes))) ∧
    (¬ ByteBuffer.HasRoom position (totalBits writes) →
      writeBitFields writes buffer = .error .assertion) := by
  induction writes generalizing buffer position with
  | nil =>
    refine ⟨fun _ => ⟨buffer, rfl, hwritten, Extends.refl _ _, fun reads hreads => ?_⟩,
      fun hno => absurd (.inl rfl) hno⟩
    obtain rfl : reads = [] := List.map_eq_nil_iff.mp hreads
    rfl
  | cons write rest ih =>
    have htotal : totalBits (write :: rest) = write.width + totalBits rest := List.sum_cons
    obtain ⟨hrun, hfull⟩ := write.run_spec hwritten
    rw [htotal, writeBitFields_cons, hasRoom_add]
    by_cases hroom : ByteBuffer.HasRoom position write.width
    · obtain ⟨after, hok, hemits⟩ := hrun hroom
      obtain ⟨hrest, herror⟩ := ih hemits.written
      rw [hok]
      refine ⟨fun hall => ?_, fun hno => herror fun hlater => hno ⟨hroom, hlater⟩⟩
      obtain ⟨final, hfinal, hlast, hextends, hreads⟩ := hrest hall.2
      have hlater : Extends (Progress.advance ⟨position, false⟩ (.bits write.width)).position
          after.storage final.storage := hextends
      have hcarries := Carries.extend (carries_of_emits hemits) hlater
      rw [Nat.add_assoc] at hlast hreads
      refine ⟨final, hfinal, hlast, hemits.extends.trans (Nat.le_add_right _ _) hextends, ?_⟩
      intro reads hwidths
      obtain ⟨read, others, rfl, hwidth, hothers⟩ := List.map_eq_cons_iff.mp hwidths
      rw [← hwidth] at hcarries hreads
      have hread := read.run_of_carries (Nat.mod_lt _ (Nat.two_pow_pos _)) hcarries
      have hrest := hreads others hothers
      simp only [readBitFields, hread, bind, Except.bind, hrest, List.map_cons, ← hwidth]
      rfl
    · rw [hfull hroom]
      exact ⟨fun hall => absurd hall.1 hroom, fun _ => rfl⟩

theorem readsBack_of_room {reads : List BitRead}
    (hwidths : reads.map BitRead.width = writes.map BitWrite.width)
    (hroom : byteCount (totalBits writes) ≤ maxSize) : ReadsBack writes reads := by
  obtain ⟨final, hfinal, hlast, -, hreads⟩ :=
    (writeBitFields_spec writes written_empty).1 ((hasRoom_zero_left _).mpr hroom)
  refine ⟨final, hfinal, ?_, _, hreads reads hwidths⟩
  rw [size, hlast.length, Nat.zero_add, byteCount]

theorem writeBitFields_of_not_room (hroom : ¬ byteCount (totalBits writes) ≤ maxSize) :
    writeBitFields writes {} = .error .assertion :=
  (writeBitFields_spec writes written_empty).2 (mt (hasRoom_zero_left _).mp hroom)

/-- Bit fields of any widths at any alignment read back, in a buffer of exactly as many bytes
as their bits need, up to the bound that `append` asserts; beyond it the write stops. -/
theorem bitFields_readBack (writes : List BitWrite) (reads : List BitRead)
    (hwidths : reads.map BitRead.width = writes.map BitWrite.width) :
    (byteCount (totalBits writes) ≤ maxSize → ReadsBack writes reads) ∧
      (maxSize < byteCount (totalBits writes) →
        writeBitFields writes {} = .error .assertion) :=
  ⟨readsBack_of_room hwidths, fun hfull => writeBitFields_of_not_room (Nat.not_le_of_lt hfull)⟩

/-- A flag, a field across a byte boundary, and a field of 32 bits after it. -/
theorem bitFields_readBack_mixed :
    ReadsBack [.bit true, .bits 0x1234 13, .bits 0xdeadbeef 32]
      [.bits 1, .bits 13, .bits 32] :=
  (bitFields_readBack _ [.bits 1, .bits 13, .bits 32] rfl).1 (by decide)

theorem totalBits_replicate (count : Nat) (write : BitWrite) :
    totalBits (List.replicate count write) = count * write.width := by
  rw [totalBits, List.map_replicate, List.sum_replicate_nat]

/-- Two and a half million fields of 32 bits and one more exceed the bound. -/
theorem not_readsBack_overlong :
    ¬ ∀ writes reads, reads.map BitRead.width = writes.map BitWrite.width →
      ReadsBack writes reads := by
  intro hall
  obtain ⟨count, hcount⟩ : ∃ count, count = 2500001 := ⟨_, rfl⟩
  have hwidths : (List.replicate count (BitRead.bits 32)).map BitRead.width =
      (List.replicate count (BitWrite.bits 0 32)).map BitWrite.width := by
    rw [List.map_replicate, List.map_replicate]
    rfl
  have hfull : ¬ byteCount (totalBits (List.replicate count (BitWrite.bits 0 32))) ≤ maxSize := by
    rw [totalBits_replicate, hcount]
    decide
  obtain ⟨written, hwritten, -⟩ := hall _ _ hwidths
  rw [writeBitFields_of_not_room hfull] at hwritten
  cases hwritten

end MopServer.Packets
