import Mathlib.Data.Int.Basic
import MopServer.Foundation.PackedBuffer
import MopServer.Packets.ByteBuffer

/-! # The loader of DBC files

The data of a file is its records, one after another, and a block of strings.  The entries of a
store are made of it in two passes, and their fields lie packed as the format says.  A failed
assertion and an access outside of a block of memory are `none`.
-/

namespace MopServer.DataStores

open MopServer.Foundation MopServer.Packets.ByteBuffer

/-- `DBCFormer`, without the marks of SQL formats. -/
inductive DBCFormer where
  | na
  | naByte
  | string
  | float
  | int
  | byte
  | sort
  | ind
  | logic
  deriving DecidableEq

namespace DBCFormer

def value : DBCFormer → Char
  | na => 'x'
  | naByte => 'X'
  | string => 's'
  | float => 'f'
  | int => 'i'
  | byte => 'b'
  | sort => 'd'
  | ind => 'n'
  | logic => 'l'

/-- The case of a switch that a character leads to. -/
def ofChar (character : Char) : Option DBCFormer :=
  [na, naByte, string, float, int, byte, sort, ind, logic].find? (·.value = character)

end DBCFormer

/-- The platforms that the server is built for. -/
inductive Platform where
  | x86
  | x64

/-- `sizeof(char*)`. -/
def Platform.pointerSize : Platform → UInt32
  | x86 => 4
  | x64 => 8

structure DBCFileLoader where
  recordSize : UInt32
  recordCount : UInt32
  fieldCount : UInt32
  stringSize : UInt32
  fieldsOffset : Nat → UInt32
  data : List UInt8

variable (bytes : List UInt8)

def wordAt (position : Nat) : Option UInt32 :=
  (readAt bytes position 4).map fun word => UInt32.ofNat (fromLittleEndian word)

def byteAt (position : Nat) : Option UInt8 :=
  (readAt bytes position 1).bind List.head?

/-- What `Load` fills `fieldsOffset` with.  Without fields no offset is read. -/
def fieldsOffset (fmt : List Char) : Nat → UInt32
  | 0 => 0
  | i + 1 => fieldsOffset fmt i + if fmt[i]? = some 'b' ∨ fmt[i]? = some 'X' then 1 else 4

/-- `Load` of a file that can be opened. -/
def load (file : List UInt8) (fmt : List Char) : Option DBCFileLoader := do
  let header ← wordAt file 0
  if header ≠ 0x43424457 then none
  else
    let recordCount ← wordAt file 4
    let fieldCount ← wordAt file 8
    let recordSize ← wordAt file 12
    let stringSize ← wordAt file 16
    let size := recordSize * recordCount + stringSize
    -- `fread` of nothing returns 0 and not 1
    if size = 0 then none
    else
      let data ← readAt file 20 size.toNat
      pure ⟨recordSize, recordCount, fieldCount, stringSize, fieldsOffset fmt, data⟩

/-- `GetFormatRecordSize` at one character: the size of the record and the position of the index. -/
def addFormatSize (pointerSize : UInt32) (size : UInt32 × Int) (field : Char × Nat) :
    Option (UInt32 × Int) :=
  let i : Int := (field.2 : Int).bmod (2 ^ 32)
  match DBCFormer.ofChar field.1 with
  | some .float => some (size.1 + 4, size.2)
  | some .int => some (size.1 + 4, size.2)
  | some .string => some (size.1 + pointerSize, size.2)
  | some .sort => some (size.1, i)
  | some .ind => some (size.1 + 4, i)
  | some .byte => some (size.1 + 1, size.2)
  | some .na => some size
  | some .naByte => some size
  | some .logic => none
  | none => none

/-- `GetFormatRecordSize`, with `sizeof(char*)` as an argument. -/
def getFormatRecordSize (pointerSize : UInt32) (format : List Char) : Option (UInt32 × Int) :=
  format.zipIdx.foldlM (addFormatSize pointerSize) (0, -1)

/-- What is in the memory that a data table and an index table are made in. -/
structure Fresh where
  bytes : Nat → UInt8
  entries : Nat → Option UInt32

/-- What `AutoProduceData` gives out; pointers to entries are offsets in the data table. -/
structure Produced where
  records : UInt32
  indexTable : List (Option UInt32)
  dataTable : List UInt8
  sqlDataTable : UInt32

/-- `LookupEntry` of the store. -/
def Produced.lookupEntry (produced : Produced) (id : UInt32) : Option UInt32 :=
  if id ≥ produced.records then none else produced.indexTable[id.toNat]?.join

/-- What `AutoProduceStrings` gives out, and the data table. -/
structure PooledStrings where
  stringPool : List UInt8
  dataTable : List UInt8

namespace DBCFileLoader

variable (loader : DBCFileLoader) (pointerSize : UInt32) (id : Nat)

def getOffset : UInt32 :=
  if id < loader.fieldCount.toNat then loader.fieldsOffset id else 0

variable (field : Nat)

/-- Where the field of a record lies in the data. -/
def recordAt : Nat :=
  id * loader.recordSize.toNat + (loader.getOffset field).toNat

/-- `Record::getUInt`. -/
def getUInt : Option UInt32 :=
  if field < loader.fieldCount.toNat then wordAt loader.data (loader.recordAt id field) else none

/-- `Record::getFloat`: a float is the word of its bits. -/
def getFloat : Option UInt32 :=
  if field < loader.fieldCount.toNat then wordAt loader.data (loader.recordAt id field) else none

/-- `Record::getUInt8`. -/
def getUInt8 : Option UInt8 :=
  if field < loader.fieldCount.toNat then byteAt loader.data (loader.recordAt id field) else none

/-- `Record::getString`: where the string begins in the block of strings. -/
def getString : Option UInt32 := do
  let stringOffset ← loader.getUInt id field
  if stringOffset < loader.stringSize then some stringOffset else none

/-- The size of the index table and the new table.  Without an index it is not cleared. -/
def newIndexTable (fresh : Fresh) (i : Int) (sqlRecordCount sqlHighestIndex : UInt32) :
    Option (UInt32 × List (Option UInt32)) :=
  if 0 ≤ i then do
    let maxi ← (List.range loader.recordCount.toNat).foldlM (fun maxi y => do
      let ind ← loader.getUInt y i.toNat
      pure (if ind > maxi then ind else maxi)) 0
    let records := (if sqlHighestIndex > maxi then sqlHighestIndex else maxi) + 1
    pure (records, List.replicate records.toNat none)
  else
    let records := loader.recordCount + sqlRecordCount
    pure (records, (List.range records.toNat).map fresh.entries)

/-- The inner loop of `AutoProduceData` at one field. -/
def produceField (y : Nat) (table : List UInt8 × UInt32) (field : Char × Nat) :
    Option (List UInt8 × UInt32) :=
  match DBCFormer.ofChar field.1 with
  | some .float => do
      let value ← loader.getFloat y field.2
      let dataTable ← writeAt table.1 table.2.toNat (littleEndian 4 value.toNat)
      pure (dataTable, table.2 + 4)
  | some .ind | some .int => do
      let value ← loader.getUInt y field.2
      let dataTable ← writeAt table.1 table.2.toNat (littleEndian 4 value.toNat)
      pure (dataTable, table.2 + 4)
  | some .byte => do
      let value ← loader.getUInt8 y field.2
      let dataTable ← writeAt table.1 table.2.toNat [value]
      pure (dataTable, table.2 + 1)
  | some .string => do
      let dataTable ← writeAt table.1 table.2.toNat (littleEndian pointerSize.toNat 0)
      pure (dataTable, table.2 + pointerSize)
  | some .na | some .naByte | some .sort => some table
  | some .logic | none => none

/-- The index of a record in the index table. -/
def rowKey (i : Int) (y : Nat) : Option Nat :=
  if 0 ≤ i then (loader.getUInt y i.toNat).map UInt32.toNat else some y

/-- The outer loop of `AutoProduceData` at one record. -/
def produceRow (format : List Char) (i : Int)
    (table : List UInt8 × UInt32 × List (Option UInt32)) (y : Nat) :
    Option (List UInt8 × UInt32 × List (Option UInt32)) := do
  let key ← loader.rowKey i y
  if key < table.2.2.length then
    let indexTable := table.2.2.set key (some table.2.1)
    let (dataTable, offset) ←
      format.zipIdx.foldlM (loader.produceField pointerSize y) (table.1, table.2.1)
    pure (dataTable, offset, indexTable)
  else none

/-- `AutoProduceData`, which returns no table if the format has another number of fields. -/
def autoProduceData (fresh : Fresh) (format : List Char) (sqlRecordCount sqlHighestIndex : UInt32) :
    Option (Option Produced) :=
  if format.length ≠ loader.fieldCount.toNat then some none
  else do
    let (recordsize, i) ← getFormatRecordSize pointerSize format
    let (records, indexTable) ← loader.newIndexTable fresh i sqlRecordCount sqlHighestIndex
    let size := (loader.recordCount + sqlRecordCount) * recordsize
    let (dataTable, offset, indexTable) ← (List.range loader.recordCount.toNat).foldlM
      (loader.produceRow pointerSize format i)
      ((List.range size.toNat).map fresh.bytes, 0, indexTable)
    pure (some ⟨records, indexTable, dataTable, offset⟩)

variable (memory : Nat → UInt8)

/-- The inner loop of `AutoProduceStrings` at one field.  A pointer is an address, and `memory` is
what lies behind those of earlier pools. -/
def fillString (stringPool y : Nat) (table : List UInt8 × UInt32) (field : Char × Nat) :
    Option (List UInt8 × UInt32) :=
  match DBCFormer.ofChar field.1 with
  | some .float => some (table.1, table.2 + 4)
  | some .ind | some .int => some (table.1, table.2 + 4)
  | some .byte => some (table.1, table.2 + 1)
  | some .string => do
      let slot ← readAt table.1 table.2.toNat pointerSize.toNat
      if fromLittleEndian slot = 0 ∨ memory (fromLittleEndian slot) = 0 then
        let st ← loader.getString y field.2
        let dataTable ← writeAt table.1 table.2.toNat
          (littleEndian pointerSize.toNat (stringPool + st.toNat))
        pure (dataTable, table.2 + pointerSize)
      else pure (table.1, table.2 + pointerSize)
  | some .na | some .naByte | some .sort => some table
  | some .logic | none => none

/-- `AutoProduceStrings` with the address of the new pool. -/
def autoProduceStrings (stringPool : Nat) (format : List Char) (dataTable : List UInt8) :
    Option (Option PooledStrings) :=
  if format.length ≠ loader.fieldCount.toNat then some none
  else do
    let pool ← readAt loader.data (loader.recordSize * loader.recordCount).toNat
      loader.stringSize.toNat
    let (dataTable, _) ← (List.range loader.recordCount.toNat).foldlM (fun table y =>
      format.zipIdx.foldlM (loader.fillString pointerSize memory stringPool y) table) (dataTable, 0)
    pure (some ⟨pool, dataTable⟩)

end DBCFileLoader

end MopServer.DataStores
