import MopServer.Foundation.Attempt
import MopServer.Packets.ByteBuffer

/-! # Reading a hostile packet

The read operations with the buffer they leave behind, also where they throw.  `_storage` is
indexed without a check of its own in a few places; an index outside the storage is an end of its
own here.  Positions are of `size_t`, which has 64 bits.
-/

namespace MopServer.Packets

open Foundation

/-- Why a read operation ends without a value: an exception, an index outside the storage, or a
loop that has not ended after as many cycles as there are bytes. -/
inductive Stop where
  | thrown (fault : Fault)
  | outside
  | endless
  deriving DecidableEq, Repr

/-- The bytes of a packet; no `std::vector` has more of them. -/
def Storage : Type := { bytes : List UInt8 // bytes.length < 2 ^ 63 }

def ByteBuffer.fresh (storage : Storage) (wpos : Nat) : ByteBuffer :=
  { storage := storage.1, wpos }

abbrev Reading (Value : Type) := Attempt ByteBuffer Stop Value

namespace Reading

open Attempt

/-- An addition of `size_t`. -/
def sizeAdd (position length : Nat) : Nat := (position + length) % 2 ^ 64

/-- `_storage[pos]` and the bytes behind it. -/
def storageAt (pos length : Nat) : Reading (List UInt8) := do
  let buffer ← ask
  if pos + length ≤ buffer.size then pure ((buffer.storage.drop pos).take length)
  else stop .outside

/-- `_storage[_rpos - 1]`; the index before the first one wraps around, beyond all storage. -/
def lastRead : Reading Nat := do
  let buffer ← ask
  if buffer.rpos = 0 then stop .outside
  else
    let bytes ← storageAt (buffer.rpos - 1) 1
    pure (ByteBuffer.fromLittleEndian bytes)

def resetBits : Reading Unit := update ByteBuffer.resetBits

/-- The bytes that follow must be there. -/
def checkRoom (length : Nat) : Reading Unit := do
  let buffer ← ask
  if sizeAdd buffer.rpos length > buffer.size then
    stop (.thrown (.position false buffer.rpos length buffer.size))
  else pure ()

/-- `_rpos += length`. -/
def advance (length : Nat) : Reading Unit :=
  update fun buffer => { buffer with rpos := sizeAdd buffer.rpos length }

/-- `read_skip`. -/
def readSkip (skip : Nat) : Reading Unit := do
  resetBits
  checkRoom skip
  advance skip

/-- The bit cursor moves inside the current byte. -/
def moveCursor (bitpos : Nat) (hbitpos : bitpos ≤ 8) : Reading Unit :=
  update fun buffer => { buffer with bitpos, bitpos_le := hbitpos }

def openForRead : Reading (Fin 8) := do
  let buffer ← ask
  if hopen : buffer.bitpos = 8 then do
    readSkip 1
    moveCursor 0 opened_le_byte
    pure ⟨0, opened_lt_byte⟩
  else pure ⟨buffer.bitpos, buffer.bitpos_lt_of_ne hopen⟩

/-- `ReadBit`. -/
def readBit : Reading Bool := do
  let cursor ← openForRead
  moveCursor (cursor.1 + 1) cursor.2
  let byte ← lastRead
  pure ((byte >>> (8 - (cursor.1 + 1))) &&& 1 ≠ 0)

/-- The loop of `ReadBits` with the value read so far. -/
def readBitsLoop (value bits : Nat) : Reading Nat :=
  if hbits : bits = 0 then pure value
  else do
    let cursor ← openForRead
    let read := min (8 - cursor.1) bits
    moveCursor (cursor.1 + read) (by omega)
    let byte ← lastRead
    readBitsLoop (value |||
      (((byte >>> (8 - (cursor.1 + read))) &&& ((1 <<< read) - 1)) <<< (bits - read))) (bits - read)
termination_by bits
decreasing_by omega

/-- `ReadBits`. -/
def readBits (bits : Nat) : Reading Nat := readBitsLoop 0 bits

/-! ## Bytes -/

/-- `read<T>`. -/
def read (width : IntWidth) : Reading Nat := do
  resetBits
  checkRoom width.bytes
  let buffer ← ask
  let bytes ← storageAt buffer.rpos width.bytes
  advance width.bytes
  pure (ByteBuffer.fromLittleEndian bytes)

/-- `ReadByteSeq` on a byte that holds the presence bit read before. -/
def readByteSeq (byte : UInt8) : Reading UInt8 := do
  resetBits
  if byte ≠ 0 then
    let value ← read .one
    pure (byte ^^^ UInt8.ofNat value)
  else pure byte

/-- `ReadString`. -/
def readString (length : UInt32) : Reading (List UInt8) := do
  resetBits
  checkRoom length.toNat
  if length = 0 then pure []
  else
    let buffer ← ask
    let str ← storageAt buffer.rpos length.toNat
    advance length.toNat
    pure str

def readGuidByte (guidmark guid i : Nat) : Reading Nat := do
  if guidmark &&& (1 <<< i) ≠ 0 then
    checkRoom 1
    let bit ← read .one
    pure (guid ||| bit <<< (i * 8))
  else pure guid

/-- `readPackGUID`: the first check comes before the open byte is closed. -/
def readPackGUID : Reading Nat := do
  checkRoom 1
  resetBits
  let guidmark ← read .one
  (List.range 8).foldlM (readGuidByte guidmark) 0

/-! ## Strings and containers -/

/-- The loop of `operator>>` for a string with what it has read so far. -/
def readChars : Nat → List UInt8 → Reading (List UInt8)
  | 0, _ => stop .endless
  | fuel + 1, value => do
      let buffer ← ask
      if buffer.rpos < buffer.size then
        let c ← read .one
        if c = 0 then pure value else readChars fuel (value ++ [UInt8.ofNat c])
      else pure value

/-- `operator>>` for a string. -/
def readChain : Reading (List UInt8) := do
  let buffer ← ask
  readChars (buffer.size - buffer.rpos + 1) []

/-- What can be read with `operator>>`. -/
inductive Streamed where
  | fixed (width : IntWidth)
  | string
  | vector (element : Streamed)
  | list (element : Streamed)
  | map (key value : Streamed)

abbrev Streamed.Value : Streamed → Type
  | fixed _ => Nat
  | string => List UInt8
  | vector element | list element => List element.Value
  | map key value => List (key.Value × value.Value)

instance : (kind : Streamed) → DecidableEq kind.Value
  | .fixed _ => inferInstanceAs (DecidableEq Nat)
  | .string => inferInstanceAs (DecidableEq (List UInt8))
  | .vector element | .list element =>
    have := instDecidableEqValue element
    inferInstanceAs (DecidableEq (List element.Value))
  | .map key value =>
    have := instDecidableEqValue key
    have := instDecidableEqValue value
    inferInstanceAs (DecidableEq (List (key.Value × value.Value)))

/-- `operator>>` for a vector or a list: a count and then the elements. -/
def readElements {Value : Type} (element : Reading Value) : Reading (List Value) := do
  let vsize ← read .four
  iterate (fun values => do pure (values ++ [← element])) vsize []

/-- `operator>>` for a map; the entry of a key that is there already is dropped. -/
def readEntries {Key Value : Type} [DecidableEq Key] (key : Reading Key) (value : Reading Value) :
    Reading (List (Key × Value)) := do
  let msize ← read .four
  iterate (fun entries => do
    let k ← key
    let v ← value
    pure (if entries.any fun entry => entry.1 = k then entries else entries ++ [(k, v)])) msize []

/-- `operator>>`. -/
def readValue : (kind : Streamed) → Reading kind.Value
  | .fixed width => read width
  | .string => readChain
  | .vector element => readElements (readValue element)
  | .list element => readElements (readValue element)
  | .map key value => readEntries (readValue key) (readValue value)

/-- Strings at the end of a packet are empty, and as many are read as the count says. -/
example : (readValue (.vector .string) (.fresh ⟨[2, 0, 0, 0], by decide⟩ 0)).1 = .ok [[], []] := by
  decide

end Reading

end MopServer.Packets
