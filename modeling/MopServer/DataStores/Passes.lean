import MopServer.DataStores.DBCFileLoader
import MopServer.Packets.Codec

/-! # Passes over the records

The offsets in a file, the size of an entry and both passes over the records have to agree on the
widths of the fields.  An entry is the concatenation of its fields, and both passes write entries
one after another.
-/

namespace MopServer.DataStores

open MopServer.Foundation MopServer.Packets.ByteBuffer

open MopServer.Packets (length_littleEndian fromLittleEndian_littleEndian)

namespace DBCFormer

/-- How many bytes a field takes in a file. -/
def fileWidth : DBCFormer → Nat
  | byte | naByte => 1
  | _ => 4

/-- How many bytes a field takes in an entry. -/
def size (pointerSize : UInt32) : DBCFormer → Nat
  | float | int | ind => 4
  | byte => 1
  | string => pointerSize.toNat
  | _ => 0

variable (former : DBCFormer)

def isIndex : Bool := former = ind ∨ former = sort

@[simp]
theorem ofChar_value : ofChar former.value = some former := by
  cases former <;> rfl

theorem fileWidth_of_isIndex {former : DBCFormer} : former.isIndex → former.fileWidth = 4 := by
  cases former <;> decide

end DBCFormer

/-- A table and the format that it is read with. -/
structure Store where
  loader : DBCFileLoader
  formers : List DBCFormer
  pointerSize : UInt32

namespace Store

variable (store : Store)

def format : List Char := store.formers.map DBCFormer.value

def fields : List (DBCFormer × Nat) := store.formers.zipIdx

def rows : Nat := store.loader.recordCount.toNat

/-- Where a field begins in a record of the file. -/
def fileOffset (x : Nat) : Nat := offset DBCFormer.fileWidth store.formers x

/-- Where a field begins in an entry. -/
def structOffset (x : Nat) : Nat := offset (DBCFormer.size store.pointerSize) store.formers x

def entrySize : Nat := (store.formers.map (DBCFormer.size store.pointerSize)).sum

/-- The word at a field of a record of the file. -/
def word (y x : Nat) : Option UInt32 :=
  wordAt store.loader.data (y * store.loader.recordSize.toNat + store.fileOffset x)

def byte (y x : Nat) : Option UInt8 :=
  byteAt store.loader.data (y * store.loader.recordSize.toNat + store.fileOffset x)

/-- The format has no unsupported field and at most one index, the records have the widths of the
format and fill the data together with the block of strings, strings begin in this block, and ids
are different and leave room for one more. -/
structure WellFormed : Prop where
  supported : .logic ∉ store.formers
  oneIndex : ∀ first ∈ store.fields, ∀ second ∈ store.fields,
    first.1.isIndex → second.1.isIndex → first = second
  fieldCount : store.formers.length = store.loader.fieldCount.toNat
  recordSize : (store.formers.map DBCFormer.fileWidth).sum = store.loader.recordSize.toNat
  complete : store.loader.recordSize.toNat * store.rows + store.loader.stringSize.toNat =
    store.loader.data.length
  strings : ∀ y < store.rows, ∀ field ∈ store.fields, field.1 = .string →
    ∀ start ∈ store.word y field.2, start < store.loader.stringSize
  ids : ∀ y < store.rows, ∀ field ∈ store.fields, field.1.isIndex →
    ∀ id ∈ store.word y field.2, id.toNat < 2 ^ 32 - 1
  distinct : ∀ y < store.rows, ∀ z < store.rows, ∀ field ∈ store.fields, field.1.isIndex →
    store.word y field.2 = store.word z field.2 → y = z

/-- A well-formed table that has been read from a file. -/
structure Sound : Prop extends store.WellFormed where
  offsets : store.loader.fieldsOffset = fieldsOffset store.format
  small : store.loader.data.length < 2 ^ 32

/-- A block of memory for the strings that a pointer can point into. -/
structure Pool where
  address : Nat
  inside : address + store.loader.stringSize.toNat ≤ 256 ^ store.pointerSize.toNat

/-- What is where a string begins in an entry after the first pass. -/
def nullSlot (_ : UInt32) : Nat := 0

variable {store} in
/-- What is there after the second pass. -/
def Pool.slot (pool : store.Pool) (start : UInt32) : Nat := pool.address + start.toNat

variable (slot : UInt32 → Nat)

/-- The bytes of a field of an entry. -/
def part (y : Nat) (field : DBCFormer × Nat) : List UInt8 :=
  match field.1 with
  | .float | .int | .ind => littleEndian 4 ((store.word y field.2).getD 0).toNat
  | .byte => [(store.byte y field.2).getD 0]
  | .string => littleEndian store.pointerSize.toNat (slot ((store.word y field.2).getD 0))
  | _ => []

def entry (y : Nat) : List UInt8 := store.fields.flatMap (store.part slot y)

def entries (count : Nat) : List UInt8 :=
  (List.range count).flatMap (store.entry slot)

/-! ## Offsets -/

section Fields

variable {store} {field : DBCFormer × Nat} (hfield : field ∈ store.fields)

include hfield in
theorem former_of_mem : store.formers[field.2]? = some field.1 :=
  List.mem_zipIdx_iff_getElem?.mp hfield

include hfield in
theorem lt_length_of_mem : field.2 < store.formers.length :=
  (List.getElem?_eq_some_iff.mp (former_of_mem hfield)).1

include hfield in
theorem Sound.ne_logic (hstore : store.Sound) : field.1 ≠ .logic :=
  ne_of_mem_of_not_mem (List.mem_of_getElem? (former_of_mem hfield)) hstore.supported

theorem zipIdx_format :
    store.format.zipIdx = store.fields.map fun field => (field.1.value, field.2) :=
  List.zipIdx_map

variable (size : DBCFormer → Nat)

theorem map_fields : store.fields.map (fun field => size field.1) = store.formers.map size :=
  List.map_map.symm.trans (congrArg (List.map size) (List.zipIdx_map_fst 0 store.formers))

theorem offset_fields (x : Nat) :
    offset (fun field => size field.1) store.fields x = offset size store.formers x := by
  unfold offset
  rw [List.map_take, map_fields, List.map_take]

variable (slot : UInt32 → Nat)

@[simp]
theorem length_part (y : Nat) (field : DBCFormer × Nat) :
    (store.part slot y field).length = field.1.size store.pointerSize := by
  obtain ⟨former, x⟩ := field
  cases former <;> simp [part, DBCFormer.size, length_littleEndian]

@[simp]
theorem length_entry (y : Nat) : (store.entry slot y).length = store.entrySize := by
  rw [entry, List.length_flatMap, entrySize, ← map_fields]
  exact congrArg List.sum (List.map_congr_left fun field _ => length_part slot y field)

@[simp]
theorem length_entries (count : Nat) :
    (store.entries slot count).length = count * store.entrySize := by
  rw [entries, List.length_flatMap, List.map_congr_left fun y _ => length_entry slot y,
    List.map_const', List.sum_replicate_nat, List.length_range]

theorem toNat_fieldsOffset (hstore : store.WellFormed) {x : Nat} (hx : x ≤ store.formers.length) :
    (fieldsOffset store.format x).toNat = store.fileOffset x := by
  induction x with
  | zero => rfl
  | succ x ih =>
    have hformer := List.getElem?_eq_getElem (Nat.lt_of_succ_le hx)
    have hwidth : (if store.format[x]? = some 'b' ∨ store.format[x]? = some 'X' then 1
        else 4 : UInt32).toNat = store.formers[x].fileWidth := by
      rw [format, List.getElem?_map, hformer, Option.map_some]
      cases store.formers[x] <;> rfl
    have hbound := offset_le DBCFormer.fileWidth store.formers (x + 1)
    have hsmall := store.loader.recordSize.toNat_lt
    rw [offset_succ hformer, hstore.recordSize] at hbound
    rw [fieldsOffset, UInt32.toNat_add, ih (by omega), hwidth, fileOffset, fileOffset,
      offset_succ hformer]
    exact Nat.mod_eq_of_lt (by omega)

end Fields

/-! ## Reading fields of the file -/

section Passes

variable {store} {y : Nat} {field : DBCFormer × Nat} (hstore : store.Sound) (hy : y < store.rows)
  (hfield : field ∈ store.fields)

include hstore hfield in
theorem recordAt_eq : store.loader.recordAt y field.2 =
    y * store.loader.recordSize.toNat + store.fileOffset field.2 := by
  have hx := lt_length_of_mem hfield
  unfold DBCFileLoader.recordAt DBCFileLoader.getOffset
  rw [← hstore.fieldCount, if_pos hx, hstore.offsets, toNat_fieldsOffset hstore.toWellFormed hx.le]

include hstore hy hfield in
theorem recordAt_add_le : y * store.loader.recordSize.toNat + store.fileOffset field.2 +
    field.1.fileWidth ≤ store.loader.data.length := by
  have hwithin := offset_add_le DBCFormer.fileWidth (former_of_mem hfield)
  have hrecord := Nat.mul_le_mul_right store.loader.recordSize.toNat (Nat.succ_le_of_lt hy)
  have hcomplete := hstore.complete
  rw [hstore.recordSize] at hwithin
  rw [Nat.succ_mul] at hrecord
  rw [Nat.mul_comm store.loader.recordSize.toNat] at hcomplete
  unfold fileOffset
  omega

include hstore hy hfield in
theorem getUInt_eq (hwidth : field.1.fileWidth = 4) :
    ∃ value, store.word y field.2 = some value ∧
      store.loader.getUInt y field.2 = some value := by
  have hwithin := recordAt_add_le hstore hy hfield
  rw [hwidth] at hwithin
  rw [DBCFileLoader.getUInt, if_pos (hstore.fieldCount ▸ lt_length_of_mem hfield),
    recordAt_eq hstore hfield]
  unfold word wordAt readAt
  rw [if_pos hwithin]
  exact ⟨_, rfl, rfl⟩

include hstore hy hfield in
theorem getUInt8_eq (hwidth : field.1.fileWidth = 1) :
    ∃ value, store.byte y field.2 = some value ∧
      store.loader.getUInt8 y field.2 = some value := by
  have hwithin := recordAt_add_le hstore hy hfield
  rw [hwidth] at hwithin
  rw [DBCFileLoader.getUInt8, if_pos (hstore.fieldCount ▸ lt_length_of_mem hfield),
    recordAt_eq hstore hfield]
  unfold byte byteAt readAt
  rw [if_pos hwithin, Option.bind_some, List.take_one, List.head?_drop,
    List.getElem?_eq_getElem (Nat.lt_of_succ_le hwithin)]
  exact ⟨_, rfl, rfl⟩

@[simp]
theorem getFloat_eq (id field : Nat) :
    store.loader.getFloat id field = store.loader.getUInt id field := rfl

/-! ## Writing fields -/

variable {total : Nat} (htotal : total < 2 ^ 32)

def StandsAt (cursor : UInt32) (position : Nat) : Prop := cursor.toNat = position

def nextField (pointerSize : UInt32) (cursor : UInt32) (field : DBCFormer × Nat) : UInt32 :=
  cursor + UInt32.ofNat (field.1.size pointerSize)

theorem StandsAt.nextField {cursor pointerSize : UInt32} {position : Nat}
    (hcursor : StandsAt cursor position)
    (hsmall : position + field.1.size pointerSize < 2 ^ 32) :
    StandsAt (nextField pointerSize cursor field) (position + field.1.size pointerSize) := by
  have hsize : field.1.size pointerSize % 2 ^ 32 = field.1.size pointerSize :=
    Nat.mod_eq_of_lt (by omega)
  unfold StandsAt at hcursor ⊢
  rw [Store.nextField, UInt32.toNat_add, UInt32.toNat_ofNat', hsize, hcursor]
  exact Nat.mod_eq_of_lt hsmall

include hstore hy hfield htotal in
/-- The first pass writes a field, and nothing for a string. -/
theorem produceField_overwrites :
    Overwrites StandsAt (fun _ _ => True)
      (fun table field =>
        store.loader.produceField store.pointerSize y table (field.1.value, field.2))
      (store.part nullSlot y) (nextField store.pointerSize) total field := by
  intro done rest cursor hlength hcursor hroom _
  have hwrite := writeAt_append done hroom
  have hword := getUInt_eq hstore hy hfield
  have hbyte := getUInt8_eq hstore hy hfield
  have hlogic := hstore.ne_logic hfield
  rw [List.length_append] at hlength
  rw [length_part] at hroom
  refine ⟨?_, length_part .. ▸ hcursor.nextField (by omega)⟩
  rw [← hcursor] at hwrite
  obtain ⟨former, x⟩ := field
  unfold DBCFileLoader.produceField nextField
  dsimp only
  rw [DBCFormer.ofChar_value]
  cases former with
  | logic => exact absurd rfl hlogic
  | na | naByte | sort => simp [part, DBCFormer.size]
  | string =>
    simp only [part, nullSlot] at hwrite ⊢
    simp [hwrite, DBCFormer.size]
  | float | int | ind =>
    obtain ⟨value, hvalue, hget⟩ := hword rfl
    simp only [part, hvalue, Option.getD_some] at hwrite ⊢
    simp [hget, hwrite, DBCFormer.size]
  | byte =>
    obtain ⟨value, hvalue, hget⟩ := hbyte rfl
    simp only [part, hvalue, Option.getD_some] at hwrite ⊢
    simp [hget, hwrite, DBCFormer.size]

variable (pool : store.Pool) (memory : Nat → UInt8)

include hstore hy hfield htotal in
/-- The second pass finds the strings empty and points them into the pool. -/
theorem fillString_overwrites :
    Overwrites StandsAt (fun field rest => ∃ tail, rest = store.part nullSlot y field ++ tail)
      (fun table field => store.loader.fillString store.pointerSize memory pool.address y table
        (field.1.value, field.2))
      (store.part pool.slot y) (nextField store.pointerSize) total field := by
  rintro done rest cursor hlength hcursor hroom ⟨tail, hrest⟩
  have hword := getUInt_eq hstore hy hfield
  have hstring := hstore.strings y hy field hfield
  have hlogic := hstore.ne_logic hfield
  have hdrop : rest.drop (field.1.size store.pointerSize) = tail := by
    rw [hrest, ← length_part nullSlot y field, List.drop_left]
  rw [List.length_append] at hlength
  rw [length_part] at hroom ⊢
  refine ⟨?_, hcursor.nextField (by omega)⟩
  rw [hdrop, hrest]
  obtain ⟨former, x⟩ := field
  unfold DBCFileLoader.fillString nextField
  dsimp only
  rw [DBCFormer.ofChar_value]
  cases former with
  | logic => exact absurd rfl hlogic
  | na | naByte | sort => simp [part, DBCFormer.size]
  | float | int | ind => simp [part, DBCFormer.size]
  | byte => simp [part, DBCFormer.size]
  | string =>
    obtain ⟨start, hstart, hget⟩ := hword rfl
    have hread := readAt_middle done (littleEndian store.pointerSize.toNat 0) tail
      (Nat.zero_add (littleEndian store.pointerSize.toNat 0).length).le
    have hplace : (littleEndian store.pointerSize.toNat (pool.slot start)).length ≤
        (littleEndian store.pointerSize.toNat 0 ++ tail).length := by
      simp [length_littleEndian]
    have hwrite := writeAt_append done hplace
    have hnull : fromLittleEndian (littleEndian store.pointerSize.toNat 0) = 0 :=
      fromLittleEndian_littleEndian _ 0 (Nat.pow_pos (by decide))
    have hinside : store.loader.getString y x = some start := by
      simp [DBCFileLoader.getString, hget, hstring rfl start hstart]
    rw [readAt_self, Nat.add_zero, ← hcursor, length_littleEndian] at hread
    rw [← hcursor, length_littleEndian, List.drop_left' (length_littleEndian _ _)] at hwrite
    simp only [part, hstart, Option.getD_some, nullSlot]
    simp only [Pool.slot] at hwrite ⊢
    simp [hread, hnull, hinside, hwrite, DBCFormer.size]

/-! ## Writing entries -/

/-- The offset behind an entry. -/
def nextEntry (store : Store) (cursor : UInt32) : UInt32 :=
  store.fields.foldl (nextField store.pointerSize) cursor

include hstore hy htotal in
theorem produceFields_overwrites :
    Overwrites StandsAt (fun _ _ => True)
      (fun table y =>
        store.format.zipIdx.foldlM (store.loader.produceField store.pointerSize y) table)
      (store.entry nullSlot) (fun cursor _ => store.nextEntry cursor) total y := by
  intro done rest cursor hlength hcursor hroom _
  dsimp only
  rw [zipIdx_format, List.foldlM_map]
  exact foldlM_overwrite (fun _ hfield => produceField_overwrites hstore hy hfield htotal) hlength
    hcursor hroom fun _ _ _ _ => trivial

include hstore hy htotal in
theorem fillStrings_overwrites :
    Overwrites StandsAt (fun y rest => ∃ tail, rest = store.entry nullSlot y ++ tail)
      (fun table y => store.format.zipIdx.foldlM
        (store.loader.fillString store.pointerSize memory pool.address y) table)
      (store.entry pool.slot) (fun cursor _ => store.nextEntry cursor) total y := by
  rintro done rest cursor hlength hcursor hroom ⟨tail, hrest⟩
  dsimp only
  rw [zipIdx_format, List.foldlM_map]
  refine foldlM_overwrite
    (fun _ hfield => fillString_overwrites hstore hy hfield htotal pool memory) hlength hcursor
    hroom ?_
  intro before field after hfields
  refine ⟨after.flatMap (store.part nullSlot y) ++ tail, ?_⟩
  have hbefore : (before.flatMap (store.part pool.slot y)).length =
      (before.flatMap (store.part nullSlot y)).length := by
    simp only [List.length_flatMap, length_part]
  rw [hrest, entry, hfields, hbefore]
  simp

/-- The offset and the index table after a record. -/
def nextRow (store : Store) (key : Nat → Nat) (cursor : UInt32 × List (Option UInt32)) (y : Nat) :
    UInt32 × List (Option UInt32) :=
  (store.nextEntry cursor.1, cursor.2.set (key y) (some cursor.1))

/-- The offset and the index table after all records. -/
def afterRows (store : Store) (key : Nat → Nat) (index : List (Option UInt32)) (count : Nat) :
    UInt32 × List (Option UInt32) :=
  (List.range count).foldl (store.nextRow key) (0, index)

variable {i : Int} {key : Nat → Nat} {slots : Nat} (hkey : store.loader.rowKey i y = some (key y))
  (hslot : key y < slots)

include hstore hy htotal hkey hslot in
theorem produceRow_overwrites :
    Overwrites (fun cursor position => StandsAt cursor.1 position ∧ cursor.2.length = slots)
      (fun _ _ => True) (store.loader.produceRow store.pointerSize store.format i)
      (store.entry nullSlot) (store.nextRow key) total y := by
  rintro done rest ⟨cursor, table⟩ hlength ⟨hcursor, htable⟩ hroom -
  obtain ⟨hfields, hnext⟩ :=
    produceFields_overwrites hstore hy htotal done rest cursor hlength hcursor hroom trivial
  unfold DBCFileLoader.produceRow
  simp only [hkey, Option.bind_eq_bind, Option.bind_some, htable, hslot, if_true, hfields]
  exact ⟨rfl, hnext, (List.length_set ..).trans htable⟩

variable {index : List (Option UInt32)} {rest tail : List UInt8} (hsmall : rest.length < 2 ^ 32)

include hstore hsmall in
/-- The first pass over the records so far. -/
theorem produceRows_eq {count : Nat} (hcount : count ≤ store.rows)
    (hkeys : ∀ y < count, store.loader.rowKey i y = some (key y) ∧ key y < index.length)
    (hroom : count * store.entrySize ≤ rest.length) :
    (List.range count).foldlM (store.loader.produceRow store.pointerSize store.format i)
        (rest, 0, index) =
      some (store.entries nullSlot count ++ rest.drop (count * store.entrySize),
        store.afterRows key index count) ∧
      (store.afterRows key index count).1.toNat = count * store.entrySize := by
  rw [← length_entries nullSlot] at hroom ⊢
  obtain ⟨hrun, hcursor, -⟩ := foldlM_overwrite_start (fun y hy =>
    have hlt := List.mem_range.mp hy
    produceRow_overwrites hstore (hlt.trans_le hcount) hsmall (hkeys y hlt).1 (hkeys y hlt).2)
    (0, index) rfl ⟨rfl, rfl⟩ hroom fun _ _ _ _ => trivial
  exact ⟨hrun, hcursor⟩

include hstore hsmall in
/-- The second pass over all records. -/
theorem fillRows_eq (pool : store.Pool) (memory : Nat → UInt8)
    (hrest : rest = store.entries nullSlot store.rows ++ tail) :
    ∃ cursor, (List.range store.rows).foldlM (fun table y => store.format.zipIdx.foldlM
        (store.loader.fillString store.pointerSize memory pool.address y) table) (rest, 0) =
      some (store.entries pool.slot store.rows ++ tail, cursor) := by
  have hroom : (store.entries pool.slot store.rows).length ≤ rest.length := by
    rw [hrest, List.length_append, length_entries, length_entries]
    exact Nat.le_add_right _ _
  have hrun := foldlM_overwrite_start (fun y hy =>
    fillStrings_overwrites hstore (List.mem_range.mp hy) hsmall pool memory) 0 rfl rfl hroom
    fun before y after hrows => ⟨after.flatMap (store.entry nullSlot) ++ tail, by
      have hbefore : (before.flatMap (store.entry pool.slot)).length =
          (before.flatMap (store.entry nullSlot)).length := by
        simp only [List.length_flatMap, length_entry]
      rw [hrest, entries, hrows, hbefore]
      simp⟩
  have hdrop : rest.drop ((List.range store.rows).flatMap (store.entry pool.slot)).length =
      tail := by
    rw [← entries, length_entries, ← length_entries nullSlot, hrest, List.drop_left]
  rw [hdrop] at hrun
  exact ⟨_, hrun.1⟩

end Passes

end Store

end MopServer.DataStores
