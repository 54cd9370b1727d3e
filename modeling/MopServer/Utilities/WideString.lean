import Mathlib.Data.List.GetD
import Mathlib.Logic.Function.Basic
import Mathlib.Tactic.Tauto
import MopServer.Utilities.Utf8

/-! # Wide strings

A text in UTF-8 is converted into a wide string and back.  The space is counted in code points, and
filled with units of UTF-16.
-/

namespace MopServer.Utilities

open Utf8

/-! ## Strings -/

/-- A converted string, with the units it has room for and the units that are written. -/
structure WideString where
  succeeded : Bool
  wstr : List UInt32
  room : ℕ
  written : ℕ

variable (wstr : List UInt32)

/-- The units are written from the start on.  What does not fit falls past the end. -/
def overwrite (units : List UInt32) : List UInt32 :=
  units.take wstr.length ++ wstr.drop units.length

def resize (len : ℕ) : List UInt32 :=
  wstr.take len ++ List.replicate (len - wstr.length) 0

variable (utf8str : List UInt8)

/-- `Utf8toWStr` into a `std::wstring`. -/
def utf8toWStr (wstr : List UInt32) : WideString :=
  match distance utf8str, utf8to16 utf8str with
  | .ok len, .ok units =>
    if len ≠ 0 then
      { succeeded := true
        wstr := overwrite (resize wstr len) (units.map UInt16.toUInt32)
        room := len
        written := units.length }
    else { succeeded := true, wstr, room := wstr.length, written := 0 }
  | _, _ => { succeeded := false, wstr := [], room := 0, written := 0 }

/-- `WStrToUtf8` of a `std::wstring`; it cuts the space it has reserved to what is written. -/
def wStrToUtf8 : Bool × List UInt8 :=
  match utf16to8 wstr with
  | .ok octets => (true, octets)
  | .error _ => (false, [])

/-! ## Buffers -/

/-- The memory from a buffer on after a conversion. -/
structure WideBuffer where
  succeeded : Bool
  wstr : ℕ → UInt32
  wsize : ℕ
  room : ℕ
  written : ℕ

variable (wstr : ℕ → UInt32)

def store (units : List UInt32) : ℕ → UInt32 :=
  fun position => units.getD position (wstr position)

/-- The answer to a text that is malformed or too long. -/
def refuse (wsize : ℕ) : WideBuffer :=
  { succeeded := false
    wstr := if 0 < wsize then Function.update wstr 0 0 else wstr
    wsize := 0
    room := wsize
    written := 0 }

/-- `Utf8toWStr` into a buffer for `wsize` units and an end. -/
def utf8toWStrBuffer (wsize : ℕ) : WideBuffer :=
  match distance utf8str, utf8to16 utf8str with
  | .ok len, .ok units =>
    if len > wsize then refuse wstr wsize
    else
      { succeeded := true
        wstr := Function.update (store wstr (units.map UInt16.toUInt32)) len 0
        wsize := len
        room := wsize
        written := units.length }
  | _, _ => refuse wstr wsize

/-- `WStrToUtf8` of a buffer. -/
def wStrToUtf8Buffer (size : ℕ) : Bool × List UInt8 :=
  wStrToUtf8 ((List.range size).map wstr)

/-! ## Round trips -/

variable (text : List Char) (wstr : ℕ → UInt32)

def StringFaithful (utf8str : List UInt8) (wstr : List UInt32) : Prop :=
  let result := utf8toWStr utf8str wstr
  result.written ≤ result.room ∧ result.succeeded ∧ wStrToUtf8 result.wstr = (true, utf8str)

/-- A text that is not refused has to come back. -/
def BufferFaithful (utf8str : List UInt8) (wstr : ℕ → UInt32) (wsize : ℕ) : Prop :=
  let result := utf8toWStrBuffer utf8str wstr wsize
  result.written ≤ result.room ∧
    (result.succeeded → wStrToUtf8Buffer result.wstr result.wsize = (true, utf8str))

/-- The space that `WStrToUtf8` reserves is enough for every wide string, also for what is written
before an exception. -/
theorem length_wStrToUtf8_le (wstr : List UInt32) :
    (utf16to8 wstr).written.length ≤ wstr.length * 4 ∧
      (wStrToUtf8 wstr).2.length ≤ wstr.length * 4 := by
  have hwritten := length_written_utf16to8_le wstr
  refine ⟨hwritten, ?_⟩
  unfold wStrToUtf8
  split
  next octets hread =>
    rw [hread] at hwritten
    exact hwritten
  · exact Nat.zero_le _

theorem wStrToUtf8_eq_iff (wstr : List UInt32) (octets : List UInt8) :
    wStrToUtf8 wstr = (true, octets) ↔ utf16to8 wstr = .ok octets := by
  unfold wStrToUtf8
  split
  next hread => simp [hread]
  next hread => simp [hread]

theorem wStrToUtf8_eq_nil_iff (wstr : List UInt32) : wStrToUtf8 wstr = (true, []) ↔ wstr = [] := by
  rw [wStrToUtf8_eq_iff]
  constructor
  · exact eq_nil_of_utf16to8
  · intro hnil
    rw [hnil, utf16to8]

/-- The units of a text up to its number of characters are read back if it has no more units. -/
theorem utf16to8_take_iff :
    utf16to8 (((utf16 text).map UInt16.toUInt32).take text.length) = .ok (encode text) ↔
      ∀ char ∈ text, Basic char := by
  rw [← length_utf16_le_iff]
  constructor
  · intro hread
    by_contra hlong
    exact utf16to8_take_ne text (Nat.not_le.mp hlong) hread
  · intro hlength
    rw [List.take_of_length_le (by simpa using hlength), utf16to8_utf16]

theorem length_le_length_utf16 : text.length ≤ (utf16 text).length := by
  rw [length_utf16]
  exact Nat.le_add_right _ _

theorem utf8toWStr_encode {text : List Char} (hne : text ≠ []) (wstr : List UInt32) :
    utf8toWStr (encode text) wstr =
      { succeeded := true
        wstr := ((utf16 text).map UInt16.toUInt32).take text.length
        room := text.length
        written := (utf16 text).length } := by
  have hlength := length_le_length_utf16 text
  have hpos : text.length ≠ 0 := fun hzero => hne (List.length_eq_zero_iff.mp hzero)
  have hresize : (resize wstr text.length).length = text.length := by
    rw [resize, List.length_append, List.length_take, List.length_replicate]
    omega
  simp only [utf8toWStr, distance_encode, utf8to16_encode, if_pos hpos, overwrite, hresize]
  rw [List.drop_eq_nil_of_le (by simpa [hresize] using hlength), List.append_nil]

theorem stringFaithful_encode_iff (wstr : List UInt32) :
    StringFaithful (encode text) wstr ↔
      (∀ char ∈ text, Basic char) ∧ (text = [] → wstr = []) := by
  by_cases hne : text = []
  · subst hne
    have hkept : utf8toWStr (encode []) wstr =
        { succeeded := true, wstr, room := wstr.length, written := 0 } := by
      simp [utf8toWStr, distance_encode, utf8to16_encode]
    have hback := wStrToUtf8_eq_nil_iff wstr
    rw [StringFaithful, hkept]
    simpa [encode] using hback
  · rw [StringFaithful, utf8toWStr_encode hne]
    simp only [length_utf16_le_iff, wStrToUtf8_eq_iff, utf16to8_take_iff]
    tauto

theorem map_range_store (units : List UInt32) {len : ℕ} (hlen : len ≤ units.length) (value : UInt32)
    : (List.range len).map (Function.update (store wstr units) len value) = units.take len := by
  apply List.ext_getElem
  · simp [hlen]
  · intro position hposition hunit
    have hlt : position < len := by simpa using hposition
    have hin : position < units.length := by omega
    rw [List.getElem_map, List.getElem_range, Function.update_of_ne (Nat.ne_of_lt hlt), store,
      List.getElem_take, List.getD_eq_getElem _ _ hin]

theorem bufferFaithful_encode_iff (wsize : ℕ) :
    BufferFaithful (encode text) wstr wsize ↔
      (text.length ≤ wsize → ∀ char ∈ text, Basic char) := by
  by_cases hfits : text.length ≤ wsize
  · have hlength := length_le_length_utf16 text
    have hresult : utf8toWStrBuffer (encode text) wstr wsize =
        { succeeded := true
          wstr := Function.update (store wstr ((utf16 text).map UInt16.toUInt32)) text.length 0
          wsize := text.length
          room := wsize
          written := (utf16 text).length } := by
      simp [utf8toWStrBuffer, distance_encode, utf8to16_encode, Nat.not_lt.mpr hfits]
    rw [BufferFaithful, hresult]
    simp only [wStrToUtf8Buffer, map_range_store wstr ((utf16 text).map UInt16.toUInt32)
      (by simpa using hlength), wStrToUtf8_eq_iff, utf16to8_take_iff]
    constructor
    · intro hfaithful _
      exact hfaithful.2 trivial
    · intro hbasic
      have hle := (length_utf16_le_iff text).mpr (hbasic hfits)
      exact ⟨by omega, fun _ => hbasic hfits⟩
  · have hresult : utf8toWStrBuffer (encode text) wstr wsize = refuse wstr wsize := by
      simp [utf8toWStrBuffer, distance_encode, utf8to16_encode, Nat.lt_of_not_le hfits]
    rw [BufferFaithful, hresult]
    simp [refuse, hfits]

/-- A conversion stays in its space and comes back exactly for texts without surrogate pairs.  An
empty text leaves the old string, and a buffer refuses a text that has too many characters. -/
theorem utf8toWStr_faithful_iff (text : List Char) :
    (∀ wstr, StringFaithful (encode text) wstr ↔
      (∀ char ∈ text, Basic char) ∧ (text = [] → wstr = [])) ∧
    (∀ wstr wsize, BufferFaithful (encode text) wstr wsize ↔
      (text.length ≤ wsize → ∀ char ∈ text, Basic char)) :=
  ⟨stringFaithful_encode_iff text, bufferFaithful_encode_iff text⟩

/-- An emoji takes two units in the space for one. -/
theorem not_faithful_of_emoji :
    ¬ StringFaithful (encode [Char.ofNat 0x1f600]) [] ∧
      ¬ BufferFaithful (encode [Char.ofNat 0x1f600]) (fun _ => 0) 1 := by
  have hnot : ¬ ∀ char ∈ [Char.ofNat 0x1f600], Basic char := by
    intro hall
    exact absurd (hall _ List.mem_cons_self) (by decide)
  constructor
  · intro hfaithful
    exact hnot ((stringFaithful_encode_iff _ _).mp hfaithful).1
  · intro hfaithful
    exact hnot ((bufferFaithful_encode_iff _ _ _).mp hfaithful (Nat.le_refl 1))

end MopServer.Utilities
