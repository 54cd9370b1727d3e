import Mathlib.Data.Nat.Bitwise
import Mathlib.Data.UInt

/-! # The packet buffer

Bytes are appended at a write position and read at a read position.  Both sides
share one bit cursor inside the current byte: eight means that no byte is open.
Every byte-level operation closes the open byte, except where the source returns
before it gets there.
-/

namespace MopServer.Packets

theorem closed_le_byte : 8 ≤ 8 := Nat.le_refl 8

theorem opened_le_byte : 0 ≤ 8 := Nat.zero_le 8

theorem opened_lt_byte : 0 < 8 := Nat.zero_lt_succ 7

/-- A packet buffer; the bit cursor never leaves the current byte. -/
structure ByteBuffer where
  storage : List UInt8 := []
  rpos : Nat := 0
  wpos : Nat := 0
  bitpos : Nat := 8
  bitpos_le : bitpos ≤ 8 := by first | exact closed_le_byte | decide

/-- The integer types of `operator<<` and `operator>>`. -/
inductive IntWidth where
  | one
  | two
  | four
  | eight
  deriving DecidableEq, Repr

def IntWidth.bytes : IntWidth → Nat
  | .one => 1
  | .two => 2
  | .four => 4
  | .eight => 8

theorem IntWidth.bytes_lt (width : IntWidth) : width.bytes < 2 ^ 32 := by
  cases width <;> decide

/-- The exceptions and the assertion of the buffer. -/
inductive Fault where
  | position (add : Bool) (pos valueSize size : Nat)
  | source (pos size valueSize : Nat)
  | assertion
  deriving DecidableEq, Repr

/-- The bound of the assertion in `append`. -/
def maxSize : Nat := 10000000

namespace ByteBuffer

variable (buffer : ByteBuffer)

def resetBits : ByteBuffer :=
  { buffer with bitpos := 8, bitpos_le := closed_le_byte }

def size : Nat := buffer.storage.length

theorem bitpos_lt_of_ne (hopen : ¬buffer.bitpos = 8) : buffer.bitpos < 8 :=
  lt_of_le_of_ne buffer.bitpos_le hopen

/-! ## Writing -/

/-- `append(src, cnt)`. -/
def append (src : List UInt8) : Except Fault ByteBuffer :=
  let buffer := buffer.resetBits
  if src.length = 0 then .error (.source buffer.wpos buffer.size 0)
  else if ¬ buffer.size < maxSize then .error .assertion
  else
    let grown := buffer.storage ++
      List.replicate (buffer.wpos + src.length - buffer.storage.length) 0
    .ok { buffer with
      storage := grown.take buffer.wpos ++ src ++ grown.drop (buffer.wpos + src.length)
      wpos := buffer.wpos + src.length }

def openForWrite : Except Fault { opened : ByteBuffer // opened.bitpos < 8 } :=
  if hopen : buffer.bitpos = 8 then
    match buffer.append [0] with
    | .error fault => .error fault
    | .ok appended =>
      .ok ⟨{ appended with bitpos := 0, bitpos_le := opened_le_byte }, opened_lt_byte⟩
  else .ok ⟨buffer, buffer.bitpos_lt_of_ne hopen⟩

/-- `_storage[_wpos - 1] |= mask`. -/
def orLast (mask : Nat) : ByteBuffer :=
  { buffer with storage := buffer.storage.modify (buffer.wpos - 1) fun byte =>
      byte ||| UInt8.ofNat mask }

/-- `WriteBit`. -/
def writeBit (bit : Bool) : Except Fault ByteBuffer :=
  match buffer.openForWrite with
  | .error fault => .error fault
  | .ok ⟨opened, hopened⟩ =>
    let advanced : ByteBuffer := { opened with bitpos := opened.bitpos + 1, bitpos_le := hopened }
    .ok (if bit then advanced.orLast (1 <<< (8 - advanced.bitpos)) else advanced)

/-- `WriteBits`: one cycle of the loop fills as much of the open byte as the
remaining bits allow. -/
def writeBits (buffer : ByteBuffer) (value bits : Nat) : Except Fault ByteBuffer :=
  if hbits : bits = 0 then .ok buffer
  else
    match buffer.openForWrite with
    | .error fault => .error fault
    | .ok ⟨opened, hopened⟩ =>
      let written := min (8 - opened.bitpos) bits
      let rest := bits - written
      let advanced : ByteBuffer :=
        { opened with bitpos := opened.bitpos + written, bitpos_le := by omega }
      writeBits (advanced.orLast
        (((value >>> rest) &&& ((1 <<< written) - 1)) <<< (8 - advanced.bitpos))) value rest
termination_by bits
decreasing_by omega

/-- `WriteByteSeq`: a zero byte writes nothing and leaves the open byte open. -/
def writeByteSeq (byte : UInt8) : Except Fault ByteBuffer :=
  if byte ≠ 0 then buffer.append [byte ^^^ 1] else .ok buffer

/-- `WriteString`: an empty string writes nothing and leaves the open byte open. -/
def writeString (str : List UInt8) : Except Fault ByteBuffer :=
  if str.length ≠ 0 then buffer.append str else .ok buffer

def littleEndian : Nat → Nat → List UInt8
  | 0, _ => []
  | count + 1, value => UInt8.ofNat value :: littleEndian count (value / 256)

/-- `operator<<` on an integer of a number of bytes. -/
def writeInt (bytes value : Nat) : Except Fault ByteBuffer :=
  buffer.append (littleEndian bytes value)

/-! ## Reading -/

/-- `read_skip`. -/
def readSkip (skip : Nat) : Except Fault ByteBuffer :=
  let buffer := buffer.resetBits
  if buffer.rpos + skip > buffer.size then
    .error (.position false buffer.rpos skip buffer.size)
  else .ok { buffer with rpos := buffer.rpos + skip }

def openForRead : Except Fault { opened : ByteBuffer // opened.bitpos < 8 } :=
  if hopen : buffer.bitpos = 8 then
    match buffer.readSkip 1 with
    | .error fault => .error fault
    | .ok skipped =>
      .ok ⟨{ skipped with bitpos := 0, bitpos_le := opened_le_byte }, opened_lt_byte⟩
  else .ok ⟨buffer, buffer.bitpos_lt_of_ne hopen⟩

/-- `_storage[_rpos - 1]`. -/
def lastRead : Nat := (buffer.storage.getD (buffer.rpos - 1) 0).toNat

/-- `ReadBit`. -/
def readBit : Except Fault (Bool × ByteBuffer) :=
  match buffer.openForRead with
  | .error fault => .error fault
  | .ok ⟨opened, hopened⟩ =>
    let advanced : ByteBuffer := { opened with bitpos := opened.bitpos + 1, bitpos_le := hopened }
    .ok ((advanced.lastRead >>> (8 - advanced.bitpos)) &&& 1 ≠ 0, advanced)

/-- The loop of `ReadBits` with the value read so far. -/
def readBitsLoop (buffer : ByteBuffer) (value bits : Nat) : Except Fault (Nat × ByteBuffer) :=
  if hbits : bits = 0 then .ok (value, buffer)
  else
    match buffer.openForRead with
    | .error fault => .error fault
    | .ok ⟨opened, hopened⟩ =>
      let read := min (8 - opened.bitpos) bits
      let rest := bits - read
      let advanced : ByteBuffer :=
        { opened with bitpos := opened.bitpos + read, bitpos_le := by omega }
      readBitsLoop advanced (value |||
        (((advanced.lastRead >>> (8 - advanced.bitpos)) &&& ((1 <<< read) - 1)) <<< rest)) rest
termination_by bits
decreasing_by omega

/-- `ReadBits`. -/
def readBits (bits : Nat) : Except Fault (Nat × ByteBuffer) :=
  buffer.readBitsLoop 0 bits

/-- The bytes of `read(dest, len)`. -/
def readBytes (len : Nat) : Except Fault (List UInt8 × ByteBuffer) :=
  let buffer := buffer.resetBits
  if buffer.rpos + len > buffer.size then
    .error (.position false buffer.rpos len buffer.size)
  else .ok ((buffer.storage.drop buffer.rpos).take len, { buffer with rpos := buffer.rpos + len })

def fromLittleEndian : List UInt8 → Nat
  | [] => 0
  | byte :: rest => byte.toNat + 256 * fromLittleEndian rest

/-- `operator>>` on an integer of a number of bytes. -/
def readInt (bytes : Nat) : Except Fault (Nat × ByteBuffer) :=
  match buffer.readBytes bytes with
  | .error fault => .error fault
  | .ok (read, buffer) => .ok (fromLittleEndian read, buffer)

/-- `ReadByteSeq` on a byte that holds the presence bit read before. -/
def readByteSeq (byte : UInt8) : Except Fault (UInt8 × ByteBuffer) :=
  let buffer := buffer.resetBits
  if byte ≠ 0 then
    match buffer.readInt 1 with
    | .error fault => .error fault
    | .ok (read, buffer) => .ok (byte ^^^ UInt8.ofNat read, buffer)
  else .ok (byte, buffer)

/-- `ReadString`. -/
def readString (length : UInt32) : Except Fault (List UInt8 × ByteBuffer) :=
  buffer.readBytes length.toNat

end ByteBuffer

end MopServer.Packets
