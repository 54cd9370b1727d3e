import MopServer.DataStores.Passes

/-! # The layout of stores

After both passes an entry is found through the index table by its id, or by the number of its
record, and holds the values of the record.
-/

namespace MopServer.DataStores

open MopServer.Foundation MopServer.Packets.ByteBuffer

open MopServer.Packets (fromLittleEndian_littleEndian)

/-- The string that begins in a block. -/
def cString (block : List UInt8) (start : Nat) : List UInt8 := (block.drop start).takeWhile (· ≠ 0)

namespace Store

variable (store : Store)

/-- The block of strings behind the records. -/
def stringBlock : List UInt8 :=
  store.loader.data.drop (store.loader.recordSize.toNat * store.rows)

def indexField : Option (DBCFormer × Nat) := store.fields.find? (·.1.isIndex)

/-- What a record is looked up by. -/
def key (y : Nat) : UInt32 :=
  match store.indexField with
  | none => UInt32.ofNat y
  | some field => (store.word y field.2).getD 0

/-- The entry at an offset of the data table holds the value that the record has in a field. -/
def Holds (pool : Nat) (pooled : PooledStrings) (y : Nat) (entry : UInt32)
    (field : DBCFormer × Nat) : Prop :=
  let position := entry.toNat + store.structOffset field.2
  match field.1 with
  | .float | .int | .ind => ∃ value, store.word y field.2 = some value ∧
      wordAt pooled.dataTable position = some value
  | .byte => ∃ value, store.byte y field.2 = some value ∧
      byteAt pooled.dataTable position = some value
  | .string => ∃ start slot, store.word y field.2 = some start ∧
      readAt pooled.dataTable position store.pointerSize.toNat = some slot ∧
      fromLittleEndian slot = pool + start.toNat ∧ start.toNat < pooled.stringPool.length ∧
      cString pooled.stringPool start.toNat = cString store.stringBlock start.toNat
  | _ => True

variable (sqlRecordCount sqlHighestIndex : UInt32)

/-- Wherever the tables and the pool are made, both passes stay inside of them and leave every entry
where it is looked up, with the values of its record. -/
def LaidOut : Prop :=
  ∀ (fresh : Fresh) (pool : store.Pool) (memory : Nat → UInt8),
    ∃ recordsize i produced pooled,
      getFormatRecordSize store.pointerSize store.format = some (recordsize, i) ∧
      store.loader.autoProduceData store.pointerSize fresh store.format sqlRecordCount
        sqlHighestIndex = some (some produced) ∧
      store.loader.autoProduceStrings store.pointerSize memory pool.address store.format
        produced.dataTable = some (some pooled) ∧
      produced.sqlDataTable.toNat = store.rows * recordsize.toNat ∧
      ∀ y < store.rows, ∃ entry, produced.lookupEntry (store.key y) = some entry ∧
        ∀ field ∈ store.fields, store.Holds pool.address pooled y entry field

/-- Records without an index are counted in 32 bits.  Behind the highest id of an index one more is
needed, and an index beyond `int32` is not seen. -/
def IndexFits : Prop :=
  match store.indexField with
  | none => store.rows + sqlRecordCount.toNat < 2 ^ 32
  | some field =>
    if field.2 < 2 ^ 31 then store.rows = 0 ∨ sqlHighestIndex.toNat < 2 ^ 32 - 1
    else store.rows + sqlRecordCount.toNat < 2 ^ 32 ∧
      ∀ y < store.rows, store.word y field.2 = some (UInt32.ofNat y)

variable {store} {field : DBCFormer × Nat}

theorem of_indexField (hindex : store.indexField = some field) :
    field ∈ store.fields ∧ field.1.isIndex := by
  have hfound := List.find?_some hindex
  exact ⟨List.mem_of_find?_eq_some hindex, hfound⟩

/-! ## The size of an entry and the index -/

theorem addFormatSize_eq {former : DBCFormer} (hlogic : former ≠ .logic) (pointerSize : UInt32)
    (size : UInt32 × Int) (x : Nat) :
    addFormatSize pointerSize size (former.value, x) =
      some (size.1 + UInt32.ofNat (former.size pointerSize),
        if former.isIndex then (x : Int).bmod (2 ^ 32) else size.2) := by
  unfold addFormatSize
  rw [DBCFormer.ofChar_value]
  cases former with
  | logic => exact absurd rfl hlogic
  | na | naByte | string | float | int | byte | sort | ind =>
    simp [DBCFormer.size, DBCFormer.isIndex]

/-- The size adds up, and the position is that of an index if there is one. -/
theorem foldlM_addFormatSize {fields : List (DBCFormer × Nat)}
    (hlogic : ∀ field ∈ fields, field.1 ≠ .logic) (pointerSize : UInt32) (size : UInt32 × Int) :
    ∃ i, fields.foldlM (fun size field => addFormatSize pointerSize size (field.1.value, field.2))
        size =
      some (size.1 + UInt32.ofNat (fields.map fun field => field.1.size pointerSize).sum, i) ∧
      ((i = size.2 ∧ ∀ field ∈ fields, ¬field.1.isIndex) ∨
        ∃ field ∈ fields, field.1.isIndex ∧ i = (field.2 : Int).bmod (2 ^ 32)) := by
  induction fields generalizing size with
  | nil => exact ⟨size.2, by simp, .inl ⟨rfl, nofun⟩⟩
  | cons field fields ih =>
    obtain ⟨i, hrun, hi⟩ := ih (fun other hother => hlogic other (List.mem_cons_of_mem _ hother))
      (size.1 + UInt32.ofNat (field.1.size pointerSize),
        if field.1.isIndex then (field.2 : Int).bmod (2 ^ 32) else size.2)
    refine ⟨i, ?_, ?_⟩
    · rw [List.foldlM_cons, addFormatSize_eq (hlogic field List.mem_cons_self), Option.bind_eq_bind,
        Option.bind_some, hrun, List.map_cons, List.sum_cons, UInt32.ofNat_add, UInt32.add_assoc]
    · rcases hi with ⟨rfl, hnone⟩ | ⟨other, hother, hi⟩
      · by_cases hindex : field.1.isIndex
        · exact .inr ⟨field, List.mem_cons_self, hindex, if_pos hindex⟩
        · exact .inl ⟨if_neg hindex, List.forall_mem_cons.mpr ⟨hindex, hnone⟩⟩
      · exact .inr ⟨other, List.mem_cons_of_mem _ hother, hi⟩

/-- Where the code sees the index. -/
def seenIndex (store : Store) : Int :=
  match store.indexField with
  | none => -1
  | some field => (field.2 : Int).bmod (2 ^ 32)

section Loaded

variable (hstore : store.Sound)

include hstore in
theorem getFormatRecordSize_eq : getFormatRecordSize store.pointerSize store.format =
    some (UInt32.ofNat store.entrySize, store.seenIndex) := by
  obtain ⟨i, hrun, hi⟩ := foldlM_addFormatSize (fun field hfield => hstore.ne_logic hfield)
    store.pointerSize (0, -1)
  have hseen : i = store.seenIndex := by
    unfold seenIndex
    rcases hi with ⟨hi, hnone⟩ | ⟨field, hfield, hindex, hi⟩
    · have hnone : store.indexField = none := List.find?_eq_none.mpr hnone
      rw [hi, hnone]
    · rw [hi]
      cases hfound : store.indexField with
      | none => exact absurd hindex (List.find?_eq_none.mp hfound field hfield)
      | some found =>
        obtain ⟨hmem, hfound⟩ := of_indexField hfound
        rw [hstore.oneIndex field hfield found hmem hindex hfound]
  rw [getFormatRecordSize, zipIdx_format, List.foldlM_map, hrun, map_fields, hseen, UInt32.zero_add]
  rfl

variable (hindex : store.indexField = some field)

include hindex in
theorem seenIndex_of_lt (hlt : field.2 < 2 ^ 31) : store.seenIndex = field.2 := by
  unfold seenIndex
  rw [hindex]
  exact Int.bmod_eq_of_le (by omega) (by omega)

include hstore hindex in
/-- An index beyond `int32` looks as if there were none. -/
theorem seenIndex_neg (hge : ¬field.2 < 2 ^ 31) : store.seenIndex < 0 := by
  have hlt := lt_length_of_mem (of_indexField hindex).1
  have hcount := store.loader.fieldCount.toNat_lt
  rw [hstore.fieldCount] at hlt
  unfold seenIndex
  rw [hindex]
  dsimp only
  rw [Int.bmod_def]
  omega

include hstore hindex in
/-- The key of a record is its id. -/
theorem word_eq_key {y : Nat} (hy : y < store.rows) :
    store.word y field.2 = some (store.key y) ∧
      store.loader.getUInt y field.2 = some (store.key y) := by
  obtain ⟨hfield, hkind⟩ := of_indexField hindex
  obtain ⟨value, hvalue, hget⟩ := getUInt_eq hstore hy hfield (DBCFormer.fileWidth_of_isIndex hkind)
  have hkey : store.key y = value := by
    rw [key, hindex]
    dsimp only
    rw [hvalue, Option.getD_some]
  rw [hkey]
  exact ⟨hvalue, hget⟩

/-! ## The index table -/

section IndexTable

variable {key : Nat → Nat} {index : List (Option UInt32)} {n : Nat}

theorem afterRows_succ : store.afterRows key index (n + 1) =
    store.nextRow key (store.afterRows key index n) n := by
  rw [afterRows, List.range_succ, List.foldl_concat, afterRows]

theorem length_afterRows : (store.afterRows key index n).2.length = index.length := by
  induction n with
  | zero => rfl
  | succ n ih => rw [afterRows_succ, nextRow, List.length_set, ih]

variable (store) in
/-- Records with different keys are found where they begin. -/
theorem getElem?_afterRows (hkeys : ∀ y < n, key y < index.length)
    (hdistinct : ∀ y < n, ∀ z < n, key y = key z → y = z) {y : Nat} (hy : y < n) :
    (store.afterRows key index n).2[key y]? = some (some (store.afterRows key index y).1) := by
  induction n with
  | zero => exact absurd hy (Nat.not_lt_zero y)
  | succ n ih =>
    rw [afterRows_succ, nextRow, List.getElem?_set, length_afterRows]
    rcases Nat.lt_succ_iff_lt_or_eq.mp hy with hlt | rfl
    · have hne : key n ≠ key y := fun hsame =>
        hlt.ne' (hdistinct n n.lt_succ_self y hy hsame)
      rw [if_neg hne]
      exact ih (fun z hz => hkeys z (hz.trans n.lt_succ_self))
        (fun z hz w hw => hdistinct z (hz.trans n.lt_succ_self) w (hw.trans n.lt_succ_self)) hlt
    · rw [if_pos rfl, if_pos (hkeys y hy)]

/-- What is not the key of a record stays. -/
theorem getElem?_afterRows_of_ne {k : Nat} (hne : ∀ y < n, key y ≠ k) :
    (store.afterRows key index n).2[k]? = index[k]? := by
  induction n with
  | zero => rfl
  | succ n ih =>
    rw [afterRows_succ, nextRow, List.getElem?_set_ne (hne n n.lt_succ_self)]
    exact ih fun y hy => hne y (hy.trans n.lt_succ_self)

end IndexTable

theorem foldlM_maxi {loader : DBCFileLoader} {ids : Nat → UInt32} {x n : Nat}
    (hget : ∀ y < n, loader.getUInt y x = some (ids y)) :
    ∃ maxi, (List.range n).foldlM (fun maxi y => do
        let ind ← loader.getUInt y x
        pure (if ind > maxi then ind else maxi)) 0 = some maxi ∧
      (∀ y < n, ids y ≤ maxi) ∧ (maxi = 0 ∨ ∃ y < n, ids y = maxi) := by
  induction n with
  | zero => exact ⟨0, rfl, nofun, .inl rfl⟩
  | succ n ih =>
    obtain ⟨maxi, hrun, hle, hmaxi⟩ := ih fun y hy => hget y (hy.trans n.lt_succ_self)
    refine ⟨if ids n > maxi then ids n else maxi, ?_, ?_, ?_⟩
    · rw [List.range_succ, List.foldlM_append, hrun]
      simp [hget n n.lt_succ_self]
    · intro y hy
      rcases Nat.lt_succ_iff_lt_or_eq.mp hy with hlt | rfl
      · have hbelow := hle y hlt
        split
        next hgt => exact UInt32.le_trans hbelow (UInt32.le_of_lt hgt)
        next hgt => exact hbelow
      · split
        next hgt => exact UInt32.le_refl _
        next hgt => exact UInt32.not_lt.mp hgt
    · split
      next hgt => exact .inr ⟨n, n.lt_succ_self, rfl⟩
      next hgt => exact hmaxi.imp_right fun ⟨y, hy, hid⟩ => ⟨y, hy.trans n.lt_succ_self, hid⟩

variable {sqlRecordCount sqlHighestIndex : UInt32}

include hstore in
/-- An index table has room for all ids if there is one more number than the highest one. -/
theorem newIndexTable_of_seen (hindex : store.indexField = some field) (hlt : field.2 < 2 ^ 31)
    (fresh : Fresh) :
    ∃ records, store.loader.newIndexTable fresh store.seenIndex sqlRecordCount sqlHighestIndex =
        some (records, List.replicate records.toNat none) ∧
      if sqlHighestIndex.toNat < 2 ^ 32 - 1 then
        ∀ y < store.rows, (store.key y).toNat < records.toNat
      else records = 0 := by
  obtain ⟨hfield, hkind⟩ := of_indexField hindex
  have hseen := seenIndex_of_lt hindex hlt
  obtain ⟨maxi, hrun, hle, hmaxi⟩ :=
    foldlM_maxi fun y (hy : y < store.rows) => (word_eq_key hstore hindex hy).2
  have hsmall : maxi.toNat < 2 ^ 32 - 1 := by
    rcases hmaxi with rfl | ⟨y, hy, rfl⟩
    · decide
    · exact hstore.ids y hy field hfield hkind _ (word_eq_key hstore hindex hy).1
  refine ⟨(if sqlHighestIndex > maxi then sqlHighestIndex else maxi) + 1, ?_, ?_⟩
  · unfold DBCFileLoader.newIndexTable
    rw [if_pos (by omega), hseen, Int.toNat_natCast, ← rows, hrun]
    rfl
  · have hhighest := sqlHighestIndex.toNat_lt
    split
    next hsql =>
      intro y hy
      have hbelow := UInt32.le_iff_toNat_le.mp (hle y hy)
      rw [UInt32.toNat_add, UInt32.toNat_one]
      split
      next hgt =>
        have hgt := UInt32.lt_iff_toNat_lt.mp hgt
        omega
      next hgt => omega
    next hsql =>
      have hgt : sqlHighestIndex > maxi := UInt32.lt_iff_toNat_lt.mpr (by omega)
      rw [if_pos hgt, ← UInt32.toNat_inj, UInt32.toNat_add, UInt32.toNat_one, UInt32.toNat_zero]
      omega

theorem newIndexTable_of_unseen (hunseen : store.seenIndex < 0) (fresh : Fresh) :
    store.loader.newIndexTable fresh store.seenIndex sqlRecordCount sqlHighestIndex =
      some (store.loader.recordCount + sqlRecordCount,
        (List.range (store.loader.recordCount + sqlRecordCount).toNat).map fresh.entries) :=
  if_neg (Int.not_le.mpr hunseen)

theorem rowKey_of_unseen {y : Nat} (hunseen : store.seenIndex < 0) :
    store.loader.rowKey store.seenIndex y = some y := if_neg (Int.not_le.mpr hunseen)

/-! ## Reading entries -/

section Reading

variable {y : Nat} (hy : y < store.rows) (hfield : field ∈ store.fields)

include hy hfield in
/-- A field of an entry is read back where it has been written. -/
theorem readAt_entries (slot : UInt32 → Nat) (after : List UInt8) :
    readAt (store.entries slot store.rows ++ after)
      (y * store.entrySize + store.structOffset field.2) (field.1.size store.pointerSize) =
        some (store.part slot y field) := by
  have hformer := former_of_mem hfield
  have hitem : store.fields[field.2]? = some field := by
    rw [fields, List.getElem?_zipIdx, hformer, Option.map_some, Nat.zero_add]
  have hrow : (List.range store.rows)[y]? = some y := by
    rw [List.getElem?_range hy]
  have hstart : offset (fun _ => store.entrySize) (List.range store.rows) y =
      y * store.entrySize := by
    simp [offset, Nat.min_eq_left hy.le]
  have houter := readAt_flatMap (fun y _ => length_entry slot y) hrow [] after
    (offset_add_le (DBCFormer.size store.pointerSize) hformer)
  have hinner := readAt_flatMap (fun field _ => length_part slot y field) hitem [] []
    (Nat.zero_add (field.1.size store.pointerSize)).le
  have hpart := readAt_self (store.part slot y field)
  rw [hstart] at houter
  rw [offset_fields] at hinner
  rw [length_part] at hpart
  simp only [List.nil_append, List.append_nil, List.length_nil, Nat.zero_add, Nat.add_zero]
    at houter hinner
  rw [entries, structOffset, houter, entry, hinner, hpart]

theorem wordAt_of_readAt {bytes : List UInt8} {position : Nat} {value : UInt32}
    (hread : readAt bytes position 4 = some (littleEndian 4 value.toNat)) :
    wordAt bytes position = some value := by
  rw [wordAt, hread, Option.map_some, fromLittleEndian_littleEndian _ _ value.toNat_lt,
    UInt32.ofNat_toNat]

include hstore in
theorem length_stringBlock : store.stringBlock.length = store.loader.stringSize.toNat := by
  rw [stringBlock, List.length_drop, ← hstore.complete]
  omega

include hstore hy hfield in
/-- The entry of a record after both passes. -/
theorem holds_of_entries (pool : store.Pool) {after : List UInt8} {first : UInt32}
    (hfirst : first.toNat = y * store.entrySize) :
    store.Holds pool.address
      ⟨store.stringBlock, store.entries pool.slot store.rows ++ after⟩ y first field := by
  have hread := readAt_entries hy hfield pool.slot after
  have hword := getUInt_eq hstore hy hfield
  have hbyte := getUInt8_eq hstore hy hfield
  have hstring := hstore.strings y hy field hfield
  obtain ⟨former, x⟩ := field
  unfold Holds
  rw [hfirst]
  cases former with
  | na | naByte | sort | logic => trivial
  | float | int | ind =>
    obtain ⟨value, hvalue, -⟩ := hword rfl
    simp only [part, hvalue, Option.getD_some] at hread
    exact ⟨value, hvalue, wordAt_of_readAt hread⟩
  | byte =>
    obtain ⟨value, hvalue, -⟩ := hbyte rfl
    simp only [part, hvalue, Option.getD_some, DBCFormer.size] at hread
    refine ⟨value, hvalue, ?_⟩
    rw [byteAt, hread, Option.bind_some, List.head?_cons]
  | string =>
    obtain ⟨start, hstart, -⟩ := hword rfl
    have hinside := UInt32.lt_iff_toNat_lt.mp (hstring rfl start hstart)
    have hfits := pool.inside
    simp only [part, hstart, Option.getD_some, Pool.slot] at hread
    exact ⟨start, _, hstart, hread, fromLittleEndian_littleEndian _ _ (by omega),
      hinside.trans_eq (length_stringBlock hstore).symm, rfl⟩

end Reading

/-! ## Both passes -/

variable (hsize : (store.rows + sqlRecordCount.toNat) * store.entrySize < 2 ^ 32)

include hsize in
/-- The entries fit into the data table, also if the numbers of records do not add up. -/
theorem rows_mul_le : store.rows * store.entrySize ≤
    ((store.loader.recordCount + sqlRecordCount) * UInt32.ofNat store.entrySize).toNat := by
  rcases Nat.eq_zero_or_pos store.rows with hnone | hsome
  · rw [hnone, Nat.zero_mul]
    exact Nat.zero_le _
  · rcases Nat.eq_zero_or_pos store.entrySize with hempty | hpos
    · rw [hempty]
      exact Nat.zero_le _
    · have hcount := (Nat.le_mul_of_pos_right (store.rows + sqlRecordCount.toNat)
        hpos).trans_lt hsize
      have hentry := (Nat.le_mul_of_pos_left store.entrySize
        (hsome.trans_le (Nat.le_add_right _ sqlRecordCount.toNat))).trans_lt hsize
      rw [UInt32.toNat_mul, UInt32.toNat_add, UInt32.toNat_ofNat', ← rows, Nat.mod_eq_of_lt hcount,
        Nat.mod_eq_of_lt hentry, Nat.mod_eq_of_lt hsize]
      exact Nat.mul_le_mul_right _ (Nat.le_add_right _ _)

include hstore in
theorem format_length : ¬store.format.length ≠ store.loader.fieldCount.toNat := by
  rw [format, List.length_map, hstore.fieldCount]
  exact not_not_intro rfl

include hstore hsize in
theorem autoProduceData_eq {fresh : Fresh} {records : UInt32} {index : List (Option UInt32)}
    {key : Nat → Nat}
    (hnew : store.loader.newIndexTable fresh store.seenIndex sqlRecordCount sqlHighestIndex =
      some (records, index))
    (hkeys : ∀ y < store.rows,
      store.loader.rowKey store.seenIndex y = some (key y) ∧ key y < index.length) :
    ∃ tail, store.loader.autoProduceData store.pointerSize fresh store.format sqlRecordCount
        sqlHighestIndex =
      some (some ⟨records, (store.afterRows key index store.rows).2,
        store.entries nullSlot store.rows ++ tail, (store.afterRows key index store.rows).1⟩) ∧
      (store.entries nullSlot store.rows ++ tail).length < 2 ^ 32 ∧
      ∀ y ≤ store.rows, (store.afterRows key index y).1.toNat = y * store.entrySize := by
  let size := (store.loader.recordCount + sqlRecordCount) * UInt32.ofNat store.entrySize
  have hlength : ((List.range size.toNat).map fresh.bytes).length = size.toNat := by
    rw [List.length_map, List.length_range]
  have hsmall := hlength.trans_lt size.toNat_lt
  have hroom := (rows_mul_le hsize).trans_eq hlength.symm
  obtain ⟨hrun, -⟩ := produceRows_eq hstore hsmall le_rfl hkeys hroom
  refine ⟨((List.range size.toNat).map fresh.bytes).drop (store.rows * store.entrySize), ?_, ?_,
    fun y hy => ?_⟩
  · rw [DBCFileLoader.autoProduceData, if_neg (format_length hstore), getFormatRecordSize_eq hstore]
    dsimp only [Option.bind_eq_bind, Option.bind_some]
    rw [hnew]
    dsimp only [Option.bind_some]
    rw [← rows, hrun]
    rfl
  · rwa [List.length_append, length_entries, List.length_drop, Nat.add_sub_cancel' hroom]
  · exact (produceRows_eq hstore hsmall hy (fun z hz => hkeys z (hz.trans_le hy))
      ((Nat.mul_le_mul_right _ hy).trans hroom)).2

include hstore in
theorem autoProduceStrings_eq (pool : store.Pool) (memory : Nat → UInt8) {tail : List UInt8}
    (htable : (store.entries nullSlot store.rows ++ tail).length < 2 ^ 32) :
    store.loader.autoProduceStrings store.pointerSize memory pool.address store.format
        (store.entries nullSlot store.rows ++ tail) =
      some (some ⟨store.stringBlock, store.entries pool.slot store.rows ++ tail⟩) := by
  obtain ⟨cursor, hrun⟩ := fillRows_eq hstore htable pool memory rfl
  have hcomplete := hstore.complete
  have hsmall := hstore.small
  have hstart : (store.loader.recordSize * store.loader.recordCount).toNat =
      store.loader.recordSize.toNat * store.rows := by
    rw [UInt32.toNat_mul, ← rows]
    exact Nat.mod_eq_of_lt (by omega)
  have hpool : readAt store.loader.data (store.loader.recordSize * store.loader.recordCount).toNat
      store.loader.stringSize.toNat = some store.stringBlock := by
    rw [readAt, hstart, if_pos hcomplete.le, ← length_stringBlock hstore, stringBlock,
      List.take_length]
  rw [DBCFileLoader.autoProduceStrings, if_neg (format_length hstore), hpool]
  rw [← rows, hrun]
  rfl

include hstore hsize in
/-- The entries are laid out if the index table is large enough for the keys of the records. -/
theorem laidOut_of_keys
    (hnew : ∀ fresh, ∃ records index,
      store.loader.newIndexTable fresh store.seenIndex sqlRecordCount sqlHighestIndex =
          some (records, index) ∧ index.length = records.toNat ∧
        ∀ y < store.rows, (store.key y).toNat < records.toNat)
    (hrow : ∀ y < store.rows,
      store.loader.rowKey store.seenIndex y = some (store.key y).toNat)
    (hdistinct : ∀ y < store.rows, ∀ z < store.rows, store.key y = store.key z → y = z) :
    store.LaidOut sqlRecordCount sqlHighestIndex := by
  intro fresh pool memory
  obtain ⟨records, index, hnew, hindex, hlt⟩ := hnew fresh
  have hkeys : ∀ y < store.rows, store.loader.rowKey store.seenIndex y =
      some (store.key y).toNat ∧ (store.key y).toNat < index.length :=
    fun y hy => ⟨hrow y hy, (hlt y hy).trans_eq hindex.symm⟩
  obtain ⟨tail, hproduced, htable, hfirst⟩ := autoProduceData_eq hstore hsize hnew hkeys
  refine ⟨_, _, _, _, getFormatRecordSize_eq hstore, hproduced,
    autoProduceStrings_eq hstore pool memory htable, ?_, fun y hy => ?_⟩
  · rw [hfirst _ le_rfl]
    rcases Nat.eq_zero_or_pos store.rows with hnone | hsome
    · rw [hnone, Nat.zero_mul, Nat.zero_mul]
    · have hentry := (Nat.le_mul_of_pos_left store.entrySize
        (hsome.trans_le (Nat.le_add_right _ sqlRecordCount.toNat))).trans_lt hsize
      rw [UInt32.toNat_ofNat', Nat.mod_eq_of_lt hentry]
  · have hbelow : ¬store.key y ≥ records :=
      UInt32.not_le.mpr (UInt32.lt_iff_toNat_lt.mpr (hlt y hy))
    have hslot := getElem?_afterRows store (fun y hy => (hkeys y hy).2)
      (fun y hy z hz hsame => hdistinct y hy z hz (UInt32.toNat_inj.mp hsame)) hy
    refine ⟨_, ?_, fun field hfield =>
      holds_of_entries hstore hy hfield pool (hfirst y hy.le)⟩
    rw [Produced.lookupEntry, if_neg hbelow, hslot]
    rfl

theorem toNat_ofNat_row {y : Nat} (hy : y < store.rows) : (UInt32.ofNat y).toNat = y :=
  UInt32.toNat_ofNat_of_lt' (hy.trans store.loader.recordCount.toNat_lt)

include hstore hsize in
/-- Without an index that is seen, records are found by their numbers. -/
theorem laidOut_of_rows (hunseen : store.seenIndex < 0)
    (hfits : store.rows + sqlRecordCount.toNat < 2 ^ 32)
    (hkeys : ∀ y < store.rows, store.key y = UInt32.ofNat y) :
    store.LaidOut sqlRecordCount sqlHighestIndex := by
  refine laidOut_of_keys hstore hsize
    (fun fresh => ⟨_, _, newIndexTable_of_unseen hunseen fresh, ?_, ?_⟩) ?_ ?_
  · rw [List.length_map, List.length_range]
  · intro y hy
    rw [hkeys y hy, toNat_ofNat_row hy, UInt32.toNat_add, ← rows, Nat.mod_eq_of_lt hfits]
    omega
  · intro y hy
    rw [rowKey_of_unseen hunseen, hkeys y hy, toNat_ofNat_row hy]
  · intro y hy z hz hsame
    rw [hkeys y hy, hkeys z hz] at hsame
    rw [← toNat_ofNat_row hy, hsame, toNat_ofNat_row hz]

include hstore hsize in
theorem laidOut_of_index (hindex : store.indexField = some field) (hlt : field.2 < 2 ^ 31)
    (hfits : store.rows = 0 ∨ sqlHighestIndex.toNat < 2 ^ 32 - 1) :
    store.LaidOut sqlRecordCount sqlHighestIndex := by
  have hword {y : Nat} (hy : y < store.rows) := word_eq_key hstore hindex hy
  have hseen := seenIndex_of_lt hindex hlt
  refine laidOut_of_keys hstore hsize (fun fresh => ?_) ?_ ?_
  · obtain ⟨records, hnew, hrecords⟩ := newIndexTable_of_seen hstore hindex hlt fresh
    refine ⟨records, _, hnew, List.length_replicate, fun y hy => ?_⟩
    rcases hfits with hnone | hhighest
    · exact absurd (hnone ▸ hy) (Nat.not_lt_zero y)
    · rw [if_pos hhighest] at hrecords
      exact hrecords y hy
  · intro y hy
    rw [DBCFileLoader.rowKey, if_pos (by omega), hseen, Int.toNat_natCast, (hword hy).2,
      Option.map_some]
  · intro y hy z hz hsame
    obtain ⟨hfield, hkind⟩ := of_indexField hindex
    refine hstore.distinct y hy z hz field hfield hkind ?_
    rw [(hword hy).1, (hword hz).1, hsame]

/-- What is laid out has been produced with an index table for all keys. -/
theorem LaidOut.lookup (hlaid : store.LaidOut sqlRecordCount sqlHighestIndex)
    (hformat : getFormatRecordSize store.pointerSize store.format =
      some (UInt32.ofNat store.entrySize, store.seenIndex)) (fresh : Fresh) (pool : store.Pool) :
    ∃ produced index,
      store.loader.autoProduceData store.pointerSize fresh store.format sqlRecordCount
        sqlHighestIndex = some (some produced) ∧
      store.loader.newIndexTable fresh store.seenIndex sqlRecordCount sqlHighestIndex =
        some (produced.records, index) ∧
      ∀ y < store.rows, (store.key y).toNat < produced.records.toNat ∧
        produced.indexTable[(store.key y).toNat]?.join.isSome := by
  obtain ⟨_, _, produced, _, -, hproduced, -, -, hlookup⟩ := hlaid fresh pool fun _ => 0
  have hrun := hproduced
  unfold DBCFileLoader.autoProduceData at hrun
  split at hrun
  · cases hrun
  · rw [hformat] at hrun
    dsimp only [Option.bind_eq_bind, Option.bind_some] at hrun
    obtain ⟨new, hnew, hrun⟩ := Option.bind_eq_some_iff.mp hrun
    obtain ⟨table, -, htable⟩ := Option.bind_eq_some_iff.mp hrun
    obtain rfl := Option.some.inj (Option.some.inj htable)
    refine ⟨_, new.2, hproduced, hnew, fun y hy => ?_⟩
    obtain ⟨first, hfirst, -⟩ := hlookup y hy
    unfold Produced.lookupEntry at hfirst
    split at hfirst
    · cases hfirst
    next hbelow =>
      exact ⟨UInt32.lt_iff_toNat_lt.mp (UInt32.not_le.mp hbelow),
        Option.isSome_iff_exists.mpr ⟨first, hfirst⟩⟩

include hstore in
/-- A file with an index beyond `int32` has one record. -/
theorem rows_le_one (hfield : field ∈ store.fields) (hge : ¬field.2 < 2 ^ 31) :
    store.rows ≤ 1 := by
  have hlength := List.length_le_sum_of_one_le (store.formers.map DBCFormer.fileWidth) (by
    simp only [List.mem_map, forall_exists_index, and_imp, forall_apply_eq_imp_iff₂]
    rintro (_ | _) - <;> decide)
  have hcomplete := hstore.complete
  have hsmall := hstore.small
  rw [List.length_map, hstore.recordSize] at hlength
  by_contra hmore
  have hproduct := Nat.mul_le_mul ((lt_length_of_mem hfield).trans_le hlength)
    (Nat.lt_of_not_le hmore)
  omega

include hstore hsize in
/-- An entry of an index that is not seen is found only at the number of its record. -/
theorem key_eq_of_unseen (hunseen : store.seenIndex < 0) {fresh : Fresh} {produced : Produced}
    (hfresh : ∀ id, fresh.entries id = none)
    (hproduced : store.loader.autoProduceData store.pointerSize fresh store.format sqlRecordCount
      sqlHighestIndex = some (some produced))
    (hfits : store.rows + sqlRecordCount.toNat < 2 ^ 32) {key : Nat}
    (hsome : produced.indexTable[key]?.join.isSome) : key < store.rows := by
  have hkeys : ∀ y < store.rows, store.loader.rowKey store.seenIndex y = some y ∧
      y < ((List.range (store.loader.recordCount + sqlRecordCount).toNat).map
        fresh.entries).length := by
    intro y hy
    rw [List.length_map, List.length_range, UInt32.toNat_add, ← rows, Nat.mod_eq_of_lt hfits]
    exact ⟨rowKey_of_unseen hunseen, by omega⟩
  obtain ⟨tail, htable, -⟩ :=
    autoProduceData_eq hstore hsize (newIndexTable_of_unseen hunseen fresh) hkeys
  obtain rfl := Option.some.inj (Option.some.inj (hproduced.symm.trans htable))
  by_contra hmore
  have hne : ∀ y < store.rows, y ≠ key := fun y hy hsame => hmore (hsame ▸ hy)
  rw [getElem?_afterRows_of_ne hne, List.getElem?_map] at hsome
  cases hslot : (List.range (store.loader.recordCount + sqlRecordCount).toNat)[key]? with
  | none => rw [hslot] at hsome; cases hsome
  | some id => rw [hslot, Option.map_some, hfresh] at hsome; cases hsome

include hstore hsize in
theorem indexFits_of_laidOut (hpool : Nonempty store.Pool)
    (hlaid : store.LaidOut sqlRecordCount sqlHighestIndex) :
    store.IndexFits sqlRecordCount sqlHighestIndex := by
  obtain ⟨pool⟩ := hpool
  let fresh : Fresh := ⟨fun _ => 0, fun _ => none⟩
  obtain ⟨produced, index, hproduced, hnew, hlookup⟩ :=
    hlaid.lookup (getFormatRecordSize_eq hstore) fresh pool
  have hlast := sqlRecordCount.toNat_lt
  -- the number of entries of a table without an index that is seen
  have hsum (hunseen : store.seenIndex < 0) :
      produced.records.toNat = (store.rows + sqlRecordCount.toNat) % 2 ^ 32 := by
    rw [newIndexTable_of_unseen hunseen, Option.some.injEq, Prod.mk.injEq] at hnew
    rw [← hnew.1, UInt32.toNat_add, rows]
  unfold IndexFits
  cases hindex : store.indexField with
  | none =>
    have hrecords := hsum (by rw [seenIndex, hindex]; decide)
    by_contra hmore
    have hy : store.rows - 1 < store.rows := by omega
    have hlt := (hlookup _ hy).1
    rw [key, hindex] at hlt
    rw [toNat_ofNat_row hy] at hlt
    omega
  | some field =>
    dsimp only
    split
    next hlt =>
      by_contra hmore
      rw [not_or] at hmore
      obtain ⟨records, htable, hrecords⟩ := newIndexTable_of_seen hstore hindex hlt fresh
      have hbelow := (hlookup 0 (Nat.pos_of_ne_zero hmore.1)).1
      rw [if_neg hmore.2] at hrecords
      rw [htable, hrecords, Option.some.injEq, Prod.mk.injEq] at hnew
      rw [← hnew.1] at hbelow
      exact absurd hbelow (Nat.not_lt_zero _)
    next hge =>
      have hunseen := seenIndex_neg hstore hindex hge
      have hcount := rows_le_one hstore (of_indexField hindex).1 hge
      have hfits : store.rows + sqlRecordCount.toNat < 2 ^ 32 := by
        by_contra hmore
        have hbelow := (hlookup 0 (by omega)).1
        omega
      refine ⟨hfits, fun y hy => ?_⟩
      have hkey := key_eq_of_unseen hstore hsize hunseen (fun _ => rfl) hproduced hfits
        (hlookup y hy).2
      rw [(word_eq_key hstore hindex hy).1]
      refine congrArg some (UInt32.toNat_inj.mp ?_)
      rw [toNat_ofNat_row hy]
      omega

end Loaded

/-- A pool at the start of the memory. -/
theorem nonempty_pool (platform : Platform)
    (hplatform : store.pointerSize = platform.pointerSize) : Nonempty store.Pool := by
  have hlt := store.loader.stringSize.toNat_lt
  refine ⟨0, (Nat.zero_add _).trans_le (hlt.le.trans ?_)⟩
  rw [hplatform]
  cases platform <;> decide

/-- A well-formed table is sound as it has been loaded. -/
theorem sound_of_load {file : List UInt8} (hload : load file store.format = some store.loader)
    (hwell : store.WellFormed) : store.Sound := by
  unfold load at hload
  simp only [Option.bind_eq_bind, Option.bind_eq_some_iff] at hload
  obtain ⟨header, -, hload⟩ := hload
  split at hload
  · cases hload
  · simp only [Option.bind_eq_some_iff] at hload
    obtain ⟨recordCount, -, fieldCount, -, recordSize, -, stringSize, -, hload⟩ := hload
    split at hload
    · cases hload
    · obtain ⟨data, hdata, hload⟩ := Option.bind_eq_some_iff.mp hload
      have hloader := Option.some.inj hload
      refine ⟨hwell, ?_, ?_⟩
      · rw [← hloader]
      · rw [← hloader]
        unfold readAt at hdata
        split at hdata
        · rw [← Option.some.inj hdata, List.length_take]
          exact (Nat.min_le_left _ _).trans_lt (UInt32.toNat_lt _)
        · cases hdata

/-- For every file and every format with at most one index, all entries are laid out as the format
says and found by their keys if and only if the index table is large enough for them. -/
theorem laidOut_iff (store : Store) {file : List UInt8}
    (hload : load file store.format = some store.loader) (hwell : store.WellFormed)
    (platform : Platform) (hplatform : store.pointerSize = platform.pointerSize)
    (sqlRecordCount sqlHighestIndex : UInt32)
    (hsize : (store.rows + sqlRecordCount.toNat) * store.entrySize < 2 ^ 32) :
    store.LaidOut sqlRecordCount sqlHighestIndex ↔
      store.IndexFits sqlRecordCount sqlHighestIndex := by
  have hstore := sound_of_load hload hwell
  constructor
  · exact indexFits_of_laidOut hstore hsize (nonempty_pool platform hplatform)
  · intro hfits
    unfold IndexFits at hfits
    cases hindex : store.indexField with
    | none =>
      rw [hindex] at hfits
      refine laidOut_of_rows hstore hsize (by rw [seenIndex, hindex]; decide) hfits fun y _ => ?_
      rw [key, hindex]
    | some field =>
      rw [hindex] at hfits
      dsimp only at hfits
      split at hfits
      next hlt => exact laidOut_of_index hstore hsize hindex hlt hfits
      next hge =>
        refine laidOut_of_rows hstore hsize (seenIndex_neg hstore hindex hge) hfits.1 fun y hy => ?_
        exact Option.some.inj ((word_eq_key hstore hindex hy).1.symm.trans (hfits.2 y hy))

/-! ## One orc -/

def orcFile : List UInt8 :=
  [0x57, 0x44, 0x42, 0x43, 1, 0, 0, 0, 3, 0, 0, 0, 9, 0, 0, 0, 5, 0, 0, 0,
    5, 0, 0, 0, 1, 0, 0, 0, 7, 0, 79, 114, 99, 0]

def orcStore : Store :=
  ⟨⟨9, 1, 3, 5, fieldsOffset ['n', 's', 'b'], orcFile.drop 20⟩, [.ind, .string, .byte],
    Platform.x64.pointerSize⟩

theorem load_orcFile : load orcFile orcStore.format = some orcStore.loader := rfl

theorem orcStore_wellFormed : orcStore.WellFormed where
  supported := by decide
  oneIndex := by decide
  fieldCount := rfl
  recordSize := rfl
  complete := rfl
  strings := by
    intro y hy field hfield hstring start hstart
    obtain rfl := Nat.lt_one_iff.mp hy
    have hsecond : ∀ field ∈ orcStore.fields, field.1 = .string → field = (.string, 1) := by
      decide
    rw [hsecond field hfield hstring] at hstart
    obtain rfl : (1 : UInt32) = start := Option.some.inj hstart
    decide
  ids := by
    intro y hy field hfield hkind id hid
    obtain rfl := Nat.lt_one_iff.mp hy
    have hfirst : ∀ field ∈ orcStore.fields, field.1.isIndex → field = (.ind, 0) := by
      decide
    rw [hfirst field hfield hkind] at hid
    obtain rfl : (5 : UInt32) = id := Option.some.inj hid
    decide
  distinct := by
    intro y hy z hz _ _ _ _
    rw [Nat.lt_one_iff.mp hy, Nat.lt_one_iff.mp hz]

/-- Four more records come from SQL. -/
theorem laidOut_orc : orcStore.LaidOut 4 30 :=
  (laidOut_iff orcStore load_orcFile orcStore_wellFormed .x64 rfl 4 30 (by decide)).mpr
    (.inr (by decide))

/-- A record of SQL with the highest id leaves an index table without entries. -/
theorem not_laidOut :
    load orcFile orcStore.format = some orcStore.loader ∧ orcStore.WellFormed ∧
      (orcStore.rows + 1) * orcStore.entrySize < 2 ^ 32 ∧
      ¬orcStore.LaidOut 1 0xffffffff := by
  refine ⟨load_orcFile, orcStore_wellFormed, by decide, fun hlaid => ?_⟩
  have hfits := indexFits_of_laidOut (sound_of_load load_orcFile orcStore_wellFormed) (by decide)
    (nonempty_pool .x64 rfl) hlaid
  rcases hfits with hnone | hlast
  · exact absurd hnone (by decide)
  · exact absurd hlast (by decide)

end Store

end MopServer.DataStores
