import MopServer.Foundation.Run
import MopServer.Packets.Reading

/-! # Hostile packets are read safely

The read position stays inside the storage and has passed the byte that is open, whatever the
packet holds and wherever an exception ends a read.
-/

namespace MopServer.Packets

open Foundation

namespace Reading

open Attempt

/-- The buffer still holds the packet, the read position is inside it, and an open byte has been
passed. -/
structure Sound (storage : Storage) (buffer : ByteBuffer) : Prop where
  storage_eq : buffer.storage = storage.1
  rpos_le : buffer.rpos ≤ buffer.size
  passed : buffer.bitpos = 8 ∨ 0 < buffer.rpos

variable (storage : Storage)

/-- A sound buffer whose read position has come to a place. -/
def Past (start : Nat) (buffer : ByteBuffer) : Prop :=
  Sound storage buffer ∧ start ≤ buffer.rpos

/-- There is room behind the read position. -/
def Room (start length : Nat) (buffer : ByteBuffer) : Prop :=
  Past storage start buffer ∧ buffer.rpos + length ≤ buffer.size

/-- The stop is a position exception, and the buffer is sound. -/
def Thrown (reason : Stop) (buffer : ByteBuffer) : Prop :=
  Sound storage buffer ∧ ∃ pos valueSize,
    reason = .thrown (.position false pos valueSize storage.1.length)

/-- The operation keeps a buffer sound, whether it throws or not, and stops for no other reason. -/
abbrev Keeps {Value : Type} (reading : Reading Value) : Prop :=
  Meets (Sound storage) reading (fun _ => Sound storage) (Thrown storage)

variable {storage : Storage} {buffer : ByteBuffer} {start length : Nat} {Value : Type}

namespace Sound

theorem size_eq (hsound : Sound storage buffer) : buffer.size = storage.1.length := by
  rw [ByteBuffer.size, hsound.storage_eq]

theorem resetBits (hsound : Sound storage buffer) : Sound storage buffer.resetBits :=
  ⟨hsound.storage_eq, hsound.rpos_le, .inl rfl⟩

/-- A position plus a length of 32 bits fits into `size_t`. -/
theorem sizeAdd_eq (hsound : Sound storage buffer) (hlength : length < 2 ^ 32) :
    sizeAdd buffer.rpos length = buffer.rpos + length := by
  have hrpos := hsound.size_eq ▸ hsound.rpos_le
  have hstorage := storage.2
  exact Nat.mod_eq_of_lt (by omega)

end Sound

theorem sound_fresh (storage : Storage) (wpos : Nat) : Sound storage (.fresh storage wpos) :=
  ⟨rfl, Nat.zero_le _, .inl rfl⟩

/-- An operation that brings the read position forward keeps a buffer sound. -/
theorem keeps_of_past {reading : Reading Value} (reached : Nat)
    (hreading : Meets (Past storage 0) reading (fun _ => Past storage reached) (Thrown storage)) :
    Keeps storage reading :=
  hreading.mono (fun buffer hsound => ⟨hsound, Nat.zero_le buffer.rpos⟩) fun _ _ hpast => hpast.1

theorem resetBits_meets :
    Meets (Past storage start) resetBits (fun _ => Past storage start) (Thrown storage) :=
  meets_update fun _ hpast => ⟨hpast.1.resetBits, hpast.2⟩

theorem resetBits_keeps : Keeps storage resetBits :=
  meets_update fun _ hsound => hsound.resetBits

theorem checkRoom_meets (hlength : length < 2 ^ 32) :
    Meets (Past storage start) (checkRoom length) (fun _ => Room storage start length)
      (Thrown storage) := by
  refine meets_ask_bind fun asked => ?_
  split
  next hfull =>
    refine meets_stop fun buffer ⟨hasked, hpast⟩ => ⟨hpast.1, asked.rpos, length, ?_⟩
    rw [hasked, hpast.1.size_eq]
  next hroom =>
    refine meets_pure fun buffer ⟨hasked, hpast⟩ => ⟨hpast, ?_⟩
    rw [hasked, hpast.1.sizeAdd_eq hlength] at hroom
    exact Nat.le_of_not_lt hroom

theorem advance_meets (hlength : length < 2 ^ 32) :
    Meets (Room storage start length) (advance length) (fun _ => Past storage (start + length))
      (Thrown storage) := by
  refine meets_update fun buffer ⟨⟨hsound, hstart⟩, hroom⟩ => ?_
  simp only [hsound.sizeAdd_eq hlength]
  refine ⟨⟨hsound.storage_eq, hroom, ?_⟩, Nat.add_le_add_right hstart length⟩
  exact hsound.passed.imp_right fun hpassed => Nat.add_pos_left hpassed length

/-- Bytes that lie in the storage may be read. -/
theorem storageAt_meets {before : ByteBuffer → Prop} {pos : Nat}
    (hinside : ∀ buffer, before buffer → pos + length ≤ buffer.size) :
    Meets before (storageAt pos length) (fun _ => before) (Thrown storage) := by
  refine meets_ask_bind fun asked => ?_
  split
  next => exact meets_pure fun _ hbefore => hbefore.2
  next houtside =>
    refine meets_stop fun buffer ⟨hasked, hbefore⟩ => absurd ?_ houtside
    exact hasked ▸ hinside buffer hbefore

theorem storageAt_rpos_meets {next : List UInt8 → Reading Value} {after : Value → ByteBuffer → Prop}
    (hnext : ∀ bytes, Meets (Room storage start length) (next bytes) after (Thrown storage)) :
    Meets (Room storage start length) (do next (← storageAt (← ask).rpos length)) after
      (Thrown storage) := by
  refine meets_ask_bind fun asked => ?_
  refine Meets.bind (storageAt_meets ?_) fun bytes => (hnext bytes).mono ?_ fun _ _ hafter => hafter
  · exact fun buffer ⟨hasked, hroom⟩ => hasked ▸ hroom.2
  · exact fun _ hroom => hroom.2

theorem readSkip_meets (hlength : length < 2 ^ 32) :
    Meets (Past storage start) (readSkip length) (fun _ => Past storage (start + length))
      (Thrown storage) :=
  resetBits_meets.bind fun _ => (checkRoom_meets hlength).bind fun _ => advance_meets hlength

variable (width : IntWidth)

theorem read_meets :
    Meets (Past storage start) (read width) (fun _ => Past storage (start + width.bytes))
      (Thrown storage) := by
  refine resetBits_meets.bind fun _ => (checkRoom_meets width.bytes_lt).bind fun _ => ?_
  refine storageAt_rpos_meets fun bytes => ?_
  exact (advance_meets width.bytes_lt).bind fun _ => meets_pure fun _ hpast => hpast

theorem read_keeps : Keeps storage (read width) :=
  keeps_of_past _ (read_meets width)

/-! ## Bits -/

theorem moveCursor_meets (bitpos : Nat) (hbitpos : bitpos ≤ 8) :
    Meets (Past storage 1) (moveCursor bitpos hbitpos) (fun _ => Past storage 1)
      (Thrown storage) :=
  meets_update fun _ ⟨hsound, hpast⟩ => ⟨⟨hsound.storage_eq, hsound.rpos_le, .inr hpast⟩, hpast⟩

theorem openForRead_meets :
    Meets (Sound storage) openForRead (fun _ => Past storage 1) (Thrown storage) := by
  refine meets_ask_bind fun asked => ?_
  split
  next hopen =>
    have hskip : Meets (Past storage 0) (readSkip 1) (fun _ => Past storage 1) (Thrown storage) :=
      readSkip_meets (by decide)
    refine Meets.bind (hskip.mono (fun buffer hbuffer => ⟨hbuffer.2, Nat.zero_le buffer.rpos⟩)
      fun _ _ hpast => hpast) fun _ => ?_
    exact (moveCursor_meets _ _).bind fun _ => meets_pure fun _ hpast => hpast
  next hopen =>
    refine meets_pure fun buffer ⟨hasked, hsound⟩ => ⟨hsound, ?_⟩
    exact hsound.passed.resolve_left (hasked ▸ hopen)

/-- The byte before the read position lies in the storage once the position has passed one. -/
theorem lastRead_meets :
    Meets (Past storage 1) lastRead (fun _ => Past storage 1) (Thrown storage) := by
  refine meets_ask_bind fun asked => ?_
  split
  next hzero =>
    refine meets_stop fun buffer ⟨hasked, hpast⟩ => absurd (hasked ▸ hzero) ?_
    exact Nat.ne_of_gt hpast.2
  next hpos =>
    refine Meets.bind (storageAt_meets ?_) fun bytes => meets_pure fun _ hpast => hpast.2
    rintro buffer ⟨rfl, hsound, _⟩
    have hrpos := hsound.rpos_le
    omega

theorem readBit_keeps : Keeps storage readBit := by
  refine openForRead_meets.bind fun cursor => (moveCursor_meets _ _).bind fun _ => ?_
  exact lastRead_meets.bind fun _ => meets_pure fun _ hpast => hpast.1

theorem readBitsLoop_keeps (value bits : Nat) : Keeps storage (readBitsLoop value bits) := by
  induction value, bits using readBitsLoop.induct with
  | case1 value =>
    unfold readBitsLoop
    exact meets_pure fun _ hsound => hsound
  | case2 value bits hbits ih =>
    unfold readBitsLoop
    rw [dif_neg hbits]
    refine openForRead_meets.bind fun cursor => (moveCursor_meets _ _).bind fun _ => ?_
    refine lastRead_meets.bind fun byte => ?_
    exact (ih cursor byte).mono (fun _ hpast => hpast.1) fun _ _ hsound => hsound

/-! ## Byte sequences, strings and packed guids -/

theorem readByteSeq_keeps (byte : UInt8) : Keeps storage (readByteSeq byte) := by
  refine resetBits_keeps.bind fun _ => ?_
  split
  next => exact (read_keeps .one).bind fun _ => meets_pure fun _ hsound => hsound
  next => exact meets_pure fun _ hsound => hsound

theorem readString_keeps (length : UInt32) : Keeps storage (readString length) := by
  refine keeps_of_past 0 ?_
  refine resetBits_meets.bind fun _ => (checkRoom_meets length.toNat_lt).bind fun _ => ?_
  split
  next => exact meets_pure fun _ hroom => hroom.1
  next =>
    refine storageAt_rpos_meets fun str => (advance_meets length.toNat_lt).bind fun _ => ?_
    exact meets_pure fun _ hpast => ⟨hpast.1, Nat.zero_le _⟩

theorem checkRoom_keeps (hlength : length < 2 ^ 32) : Keeps storage (checkRoom length) :=
  keeps_of_past 0
    ((checkRoom_meets hlength).mono (fun _ hpast => hpast) fun _ _ hroom => hroom.1)

theorem readGuidByte_keeps (guidmark guid i : Nat) :
    Keeps storage (readGuidByte guidmark guid i) := by
  unfold readGuidByte
  split
  next =>
    refine (checkRoom_keeps (by decide)).bind fun _ => (read_keeps .one).bind fun _ => ?_
    exact meets_pure fun _ hsound => hsound
  next => exact meets_pure fun _ hsound => hsound

theorem readPackGUID_keeps : Keeps storage readPackGUID := by
  refine (checkRoom_keeps (by decide)).bind fun _ => ?_
  refine resetBits_keeps.bind fun _ => ?_
  refine (read_keeps .one).bind fun guidmark => ?_
  exact Meets.foldlM (readGuidByte_keeps guidmark) _ _

/-! ## Containers -/

/-- Every cycle brings the read position forward, so that the loop ends in time. -/
theorem readChars_meets (fuel : Nat) (value : List UInt8) (hfuel : storage.1.length < start + fuel) :
    Meets (Past storage start) (readChars fuel value) (fun _ => Sound storage)
      (Thrown storage) := by
  induction fuel generalizing start value with
  | zero =>
    refine meets_stop fun buffer ⟨hsound, hstart⟩ => absurd hsound.rpos_le ?_
    have hsize := hsound.size_eq
    omega
  | succ fuel ih =>
    refine meets_ask_bind fun asked => ?_
    split
    next hroom =>
      have hread : Meets (Past storage start) (read .one) (fun _ => Past storage (start + 1))
          (Thrown storage) := read_meets .one
      refine (hread.mono (fun _ hpast => hpast.2) fun _ _ hpast => hpast).bind fun c => ?_
      split
      next => exact meets_pure fun _ hpast => hpast.1
      next => exact ih _ (by omega)
    next => exact meets_pure fun _ hpast => hpast.2.1

theorem readChain_keeps : Keeps storage readChain := by
  intro buffer hsound
  refine readChars_meets _ [] ?_ buffer ⟨hsound, le_rfl⟩
  rw [← hsound.size_eq]
  omega

theorem readElements_keeps {element : Reading Value} (helement : Keeps storage element) :
    Keeps storage (readElements element) := by
  refine (read_keeps .four).bind fun vsize => Meets.iterate (fun values => ?_) vsize []
  exact helement.bind fun _ => meets_pure fun _ hsound => hsound

theorem readEntries_keeps {Key : Type} [DecidableEq Key] {key : Reading Key}
    {value : Reading Value} (hkey : Keeps storage key) (hvalue : Keeps storage value) :
    Keeps storage (readEntries key value) := by
  refine (read_keeps .four).bind fun msize => Meets.iterate (fun entries => ?_) msize []
  refine hkey.bind fun k => hvalue.bind fun v => ?_
  exact meets_pure fun _ hsound => hsound

/-- One case for each kind of value; the elements of a container are values themselves. -/
theorem readValue_keeps (kind : Streamed) : Keeps storage (readValue kind) := by
  induction kind with
  | fixed width => exact read_keeps width
  | string => exact readChain_keeps
  | vector _ ih | list _ ih => exact readElements_keeps ih
  | map key value ihKey ihValue => exact readEntries_keeps ihKey ihValue

/-! ## Reads without their throws

From a sound buffer a read of an integer returns what the operation of the packet buffer returns.
-/

/-- The end of a read is the result of an operation of the packet buffer. -/
def Returns (result : Except Fault (Value × ByteBuffer)) (ending : Except Stop Value × ByteBuffer) :
    Prop :=
  match result with
  | .ok (value, after) => ending = (.ok value, after)
  | .error fault => ending.1 = .error (.thrown fault)

variable (hsound : Sound storage buffer)

include hsound in
theorem checkRoom_of_room (hlength : length < 2 ^ 32) (hroom : buffer.rpos + length ≤ buffer.size) :
    checkRoom length buffer = (.ok (), buffer) := by
  change (if sizeAdd buffer.rpos length > buffer.size then stop _ else pure ()) buffer = _
  rw [hsound.sizeAdd_eq hlength, if_neg (Nat.not_lt.mpr hroom)]
  rfl

include hsound in
theorem checkRoom_of_full (hlength : length < 2 ^ 32) (hfull : buffer.rpos + length > buffer.size) :
    checkRoom length buffer =
      (.error (.thrown (.position false buffer.rpos length buffer.size)), buffer) := by
  change (if sizeAdd buffer.rpos length > buffer.size then stop _ else pure ()) buffer = _
  rw [hsound.sizeAdd_eq hlength, if_pos hfull]
  rfl

theorem storageAt_of_inside {pos : Nat} (hinside : pos + length ≤ buffer.size) :
    storageAt pos length buffer = (.ok ((buffer.storage.drop pos).take length), buffer) := by
  change (if pos + length ≤ buffer.size then pure _ else stop _) buffer = _
  rw [if_pos hinside]
  rfl

include hsound in
theorem read_returns (width : IntWidth) :
    Returns (buffer.readInt width.bytes) (read width buffer) := by
  change Returns _ ((checkRoom width.bytes >>= fun _ => _) buffer.resetBits)
  unfold ByteBuffer.readInt ByteBuffer.readBytes
  by_cases hfull : buffer.resetBits.rpos + width.bytes > buffer.resetBits.size
  · have hcheck := checkRoom_of_full hsound.resetBits width.bytes_lt hfull
    rw [if_pos hfull]
    exact bind_of_error (congrArg Prod.fst hcheck)
  · have hroom := Nat.not_lt.mp hfull
    rw [bind_of_ok (checkRoom_of_room hsound.resetBits width.bytes_lt hroom), if_neg hfull]
    change Returns _ ((storageAt _ _ >>= fun _ => _) buffer.resetBits)
    rw [bind_of_ok (storageAt_of_inside hroom)]
    simp only [Returns, Bind.bind, Pure.pure, advance, update,
      hsound.resetBits.sizeAdd_eq width.bytes_lt]

/-! ## Runs -/

/-- A call of a read operation. -/
inductive Operation where
  | bit
  | bits (count : Nat)
  | byteSeq (byte : UInt8)
  | value (kind : Streamed)
  | skip (length : UInt32)
  | string (length : UInt32)
  | packGuid

def Operation.perform : Operation → Reading Unit
  | bit => do let _ ← readBit
  | bits count => do let _ ← readBits count
  | byteSeq byte => do let _ ← readByteSeq byte
  | value kind => do let _ ← readValue kind
  | skip length => readSkip length.toNat
  | string length => do let _ ← readString length
  | packGuid => do let _ ← readPackGUID

def step (buffer : ByteBuffer) (operation : Operation) : ByteBuffer := (operation.perform buffer).2

/-- The operation ends, indexes the storage inside only, and throws a position exception or leaves
the read position inside. -/
def ReadsSafely (buffer : ByteBuffer) (operation : Operation) : Prop :=
  (operation.perform buffer).1 ≠ .error .endless ∧
    (operation.perform buffer).1 ≠ .error .outside ∧
      ((∃ pos valueSize size,
          (operation.perform buffer).1 = .error (.thrown (.position false pos valueSize size))) ∨
        (operation.perform buffer).1 = .ok () ∧
          (operation.perform buffer).2.rpos ≤ (operation.perform buffer).2.size)

variable (operation : Operation)

theorem perform_keeps : Keeps storage operation.perform := by
  have hdrop {Value : Type} {reading : Reading Value} (hreading : Keeps storage reading) :
      Keeps storage (do let _ ← reading) :=
    hreading.bind fun _ => meets_pure fun _ hsound => hsound
  cases operation with
  | bit => exact hdrop readBit_keeps
  | bits count => exact hdrop (readBitsLoop_keeps 0 count)
  | byteSeq byte => exact hdrop (readByteSeq_keeps byte)
  | value kind => exact hdrop (readValue_keeps kind)
  | skip length => exact keeps_of_past _ (readSkip_meets length.toNat_lt)
  | string length => exact hdrop (readString_keeps length)
  | packGuid => exact hdrop readPackGUID_keeps

include hsound in
theorem sound_step : Sound storage (step buffer operation) := by
  have hend := perform_keeps operation buffer hsound
  unfold step
  rcases hperform : operation.perform buffer with ⟨reason | _, after⟩
  all_goals rw [hperform] at hend
  · exact hend.1
  · exact hend

include hsound in
theorem readsSafely_of_sound : ReadsSafely buffer operation := by
  have hend := perform_keeps operation buffer hsound
  unfold ReadsSafely
  rcases hperform : operation.perform buffer with ⟨reason | _, after⟩
  all_goals rw [hperform] at hend
  · obtain ⟨_, pos, valueSize, rfl⟩ := hend
    exact ⟨nofun, nofun, .inl ⟨pos, valueSize, _, rfl⟩⟩
  · exact ⟨nofun, nofun, .inr ⟨rfl, hend.rpos_le⟩⟩

/-- Whatever a packet holds and whatever is read from it, also after an exception, every read is
safe. -/
theorem readsSafely_along (storage : Storage) (wpos : Nat) (operations : List Operation) :
    Along step ReadsSafely (.fresh storage wpos) operations :=
  along_of_invariant step (Sound storage) (fun _ _ hsound _ => sound_step hsound _)
    (fun _ _ hsound _ => readsSafely_of_sound hsound _) _ operations (sound_fresh storage wpos)
    (along_of_forall step (fun _ _ => trivial) _ operations)

end Reading

end MopServer.Packets
