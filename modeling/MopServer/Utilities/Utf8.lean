import Mathlib.Algebra.Order.Group.Nat
import Mathlib.Logic.Basic
import Mathlib.Tactic.Use

/-! # UTF-8 and UTF-16

The conversions of the text library.  UTF-8 is decoded with the checks of `validate_next`, and a code
point outside of the basic plane becomes a pair of surrogates in UTF-16.  Both directions are
compared with the encoding of characters.
-/

namespace MopServer.Utilities.Utf8

variable {octets rest : List UInt8} {lead : UInt8} {cp : UInt32}

/-- The exceptions of the library. -/
inductive Error where
  | notEnoughRoom
  | invalidUtf8
  | invalidCodePoint
  | invalidUtf16
  deriving DecidableEq

def leadSurrogateMin : UInt32 := 0xd800
def leadSurrogateMax : UInt32 := 0xdbff
def trailSurrogateMin : UInt32 := 0xdc00
def trailSurrogateMax : UInt32 := 0xdfff
def leadOffset : UInt32 := leadSurrogateMin - (0x10000 : UInt32) >>> (10 : UInt32)
def surrogateOffset : UInt32 := 0x10000 - leadSurrogateMin <<< (10 : UInt32) - trailSurrogateMin
def codePointMax : UInt32 := 0x0010ffff

def mask16 (unit : UInt32) : UInt32 := unit &&& 0xffff

def isTrail (octet : UInt8) : Bool := octet >>> 6 = 0x2

def isLeadSurrogate (cp : UInt32) : Bool := leadSurrogateMin ≤ cp ∧ cp ≤ leadSurrogateMax

def isTrailSurrogate (cp : UInt32) : Bool := trailSurrogateMin ≤ cp ∧ cp ≤ trailSurrogateMax

def isSurrogate (cp : UInt32) : Bool := leadSurrogateMin ≤ cp ∧ cp ≤ trailSurrogateMax

def isCodePointValid (cp : UInt32) : Bool := cp ≤ codePointMax ∧ !isSurrogate cp

def sequenceLength (lead : UInt8) : ℕ :=
  if lead < 0x80 then 1
  else if lead >>> 5 = 0x6 then 2
  else if lead >>> 4 = 0xe then 3
  else if lead >>> 3 = 0x1e then 4
  else 0

def isOverlongSequence (cp : UInt32) (length : ℕ) : Bool :=
  if cp < 0x80 then length ≠ 1
  else if cp < 0x800 then length ≠ 2
  else if cp < 0x10000 then length ≠ 3
  else false

/-- `increase_safely`: the next octet has to be there, and has to be a trail. -/
def increaseSafely : List UInt8 → Except Error (UInt32 × List UInt8)
  | [] => .error .notEnoughRoom
  | octet :: rest => if isTrail octet then .ok (octet.toUInt32, rest) else .error .invalidUtf8

def getSequence2 (lead : UInt32) (rest : List UInt8) : Except Error (UInt32 × List UInt8) := do
  let (octet, rest) ← increaseSafely rest
  return ((lead <<< (6 : UInt32) &&& 0x7ff) + (octet &&& 0x3f), rest)

def getSequence3 (lead : UInt32) (rest : List UInt8) : Except Error (UInt32 × List UInt8) := do
  let (second, rest) ← increaseSafely rest
  let (third, rest) ← increaseSafely rest
  return ((lead <<< (12 : UInt32) &&& 0xffff) + (second <<< (6 : UInt32) &&& 0xfff) +
    (third &&& 0x3f), rest)

def getSequence4 (lead : UInt32) (rest : List UInt8) : Except Error (UInt32 × List UInt8) := do
  let (second, rest) ← increaseSafely rest
  let (third, rest) ← increaseSafely rest
  let (fourth, rest) ← increaseSafely rest
  return ((lead <<< (18 : UInt32) &&& 0x1fffff) + (second <<< (12 : UInt32) &&& 0x3ffff) +
    (third <<< (6 : UInt32) &&& 0xfff) +
    (fourth &&& 0x3f), rest)

def getSequence (lead : UInt8) (rest : List UInt8) : Except Error (UInt32 × List UInt8) :=
  match sequenceLength lead with
  | 1 => .ok (lead.toUInt32, rest)
  | 2 => getSequence2 lead.toUInt32 rest
  | 3 => getSequence3 lead.toUInt32 rest
  | 4 => getSequence4 lead.toUInt32 rest
  | _ => .error .invalidUtf8

/-- `next`, with `validate_next`. -/
def next (lead : UInt8) (rest : List UInt8) : Except Error (UInt32 × List UInt8) := do
  let (cp, rest) ← getSequence lead rest
  if !isCodePointValid cp then .error .invalidCodePoint
  else if isOverlongSequence cp (sequenceLength lead) then .error .invalidUtf8
  else .ok (cp, rest)

theorem exists_of_bind_ok {Value Next : Type} {attempt : Except Error Value}
    {continuation : Value → Except Error Next} {result : Next}
    (hok : (attempt >>= continuation) = .ok result) :
    ∃ value, attempt = .ok value ∧ continuation value = .ok result := by
  cases attempt with
  | error error => cases hok
  | ok value => exact ⟨value, rfl, hok⟩

theorem length_of_increaseSafely {octet : UInt32}
    (hincrease : increaseSafely octets = .ok (octet, rest)) : rest.length < octets.length := by
  cases octets with
  | nil => cases hincrease
  | cons head tail =>
    simp only [increaseSafely] at hincrease
    split at hincrease
    · cases hincrease
      simp
    · cases hincrease

theorem length_of_getSequence (hsequence : getSequence lead octets = .ok (cp, rest)) :
    rest.length ≤ octets.length := by
  unfold getSequence at hsequence
  split at hsequence
  · cases hsequence
    exact Nat.le_refl _
  · obtain ⟨⟨_, _⟩, hsecond, hend⟩ := exists_of_bind_ok hsequence
    have hone := length_of_increaseSafely hsecond
    cases hend
    omega
  · obtain ⟨⟨_, _⟩, hsecond, hrest⟩ := exists_of_bind_ok hsequence
    obtain ⟨⟨_, _⟩, hthird, hend⟩ := exists_of_bind_ok hrest
    have hone := length_of_increaseSafely hsecond
    have htwo := length_of_increaseSafely hthird
    cases hend
    omega
  · obtain ⟨⟨_, _⟩, hsecond, hrest⟩ := exists_of_bind_ok hsequence
    obtain ⟨⟨_, _⟩, hthird, hrest⟩ := exists_of_bind_ok hrest
    obtain ⟨⟨_, _⟩, hfourth, hend⟩ := exists_of_bind_ok hrest
    have hone := length_of_increaseSafely hsecond
    have htwo := length_of_increaseSafely hthird
    have hthree := length_of_increaseSafely hfourth
    cases hend
    omega
  · cases hsequence

theorem length_of_next (hnext : next lead octets = .ok (cp, rest)) :
    rest.length ≤ octets.length := by
  obtain ⟨⟨other, remaining⟩, hsequence, hchecks⟩ := exists_of_bind_ok hnext
  have hlength := length_of_getSequence hsequence
  dsimp only at hchecks
  split at hchecks
  · cases hchecks
  · split at hchecks
    · cases hchecks
    · cases hchecks
      exact hlength

/-- The code points that the loops over `next` meet. -/
def decode : List UInt8 → Except Error (List UInt32)
  | [] => .ok []
  | lead :: rest =>
    match _hnext : next lead rest with
    | .error error => .error error
    | .ok (cp, rest) => (decode rest).map (cp :: ·)
  termination_by octets => octets.length
  decreasing_by exact Nat.lt_succ_of_le (length_of_next _hnext)

def distance (octets : List UInt8) : Except Error ℕ := (decode octets).map List.length

/-- The units of one code point. -/
def utf16Units (cp : UInt32) : List UInt16 :=
  if cp > 0xffff then
    [((cp >>> (10 : UInt32)) + leadOffset).toUInt16, ((cp &&& 0x3ff) + trailSurrogateMin).toUInt16]
  else [cp.toUInt16]

def utf8to16 (octets : List UInt8) : Except Error (List UInt16) :=
  (decode octets).map (List.flatMap utf16Units)

def append (cp : UInt32) : Except Error (List UInt8) :=
  if !isCodePointValid cp then .error .invalidCodePoint
  else if cp < 0x80 then .ok [cp.toUInt8]
  else if cp < 0x800 then
    .ok [((cp >>> (6 : UInt32)) ||| 0xc0).toUInt8, ((cp &&& 0x3f) ||| 0x80).toUInt8]
  else if cp < 0x10000 then
    .ok [((cp >>> (12 : UInt32)) ||| 0xe0).toUInt8, ((cp >>> (6 : UInt32) &&& 0x3f) ||| 0x80).toUInt8,
      ((cp &&& 0x3f) ||| 0x80).toUInt8]
  else
    .ok [((cp >>> (18 : UInt32)) ||| 0xf0).toUInt8, ((cp >>> (12 : UInt32) &&& 0x3f) ||| 0x80).toUInt8,
      ((cp >>> (6 : UInt32) &&& 0x3f) ||| 0x80).toUInt8, ((cp &&& 0x3f) ||| 0x80).toUInt8]

/-- What is written, or an exception with what was written before it. -/
abbrev Writing := Except (Error × List UInt8) (List UInt8)

/-- A code point is written, and then the others. -/
def Writing.after (others : Writing) : Except Error (List UInt8) → Writing
  | .error error => .error (error, [])
  | .ok octets =>
    match others with
    | .error thrown => .error (thrown.1, octets ++ thrown.2)
    | .ok others => .ok (octets ++ others)

def Writing.written : Writing → List UInt8
  | .error thrown => thrown.2
  | .ok octets => octets

/-- The units of a wide string are read modulo their width in UTF-16. -/
def utf16to8 : List UInt32 → Writing
  | [] => .ok []
  | unit :: rest =>
    if isLeadSurrogate (mask16 unit) then
      match rest with
      | [] => .error (.invalidUtf16, [])
      | trail :: rest =>
        if isTrailSurrogate (mask16 trail) then
          (utf16to8 rest).after
            (append ((mask16 unit <<< (10 : UInt32)) + mask16 trail + surrogateOffset))
        else .error (.invalidUtf16, [])
    else if isTrailSurrogate (mask16 unit) then .error (.invalidUtf16, [])
    else (utf16to8 rest).after (append (mask16 unit))

/-! ## Octets and code points as numbers -/

variable (value : UInt32)

theorem toNat_and_mask {mask : UInt32} (width : ℕ) (hmask : mask.toNat = 2 ^ width - 1) :
    (value &&& mask).toNat = value.toNat % 2 ^ width := by
  rw [UInt32.toNat_and, hmask, Nat.and_two_pow_sub_one_eq_mod]

theorem toNat_shiftLeft_and_mask {shift mask : UInt32} (bits width : ℕ)
    (hshift : shift.toNat % 32 = bits) (hwidth : width ≤ 32) (hmask : mask.toNat = 2 ^ width - 1) :
    (value <<< shift &&& mask).toNat = value.toNat * 2 ^ bits % 2 ^ width := by
  rw [toNat_and_mask _ width hmask, UInt32.toNat_shiftLeft, hshift, Nat.shiftLeft_eq,
    Nat.mod_mod_of_dvd _ (Nat.pow_dvd_pow 2 hwidth)]

theorem toNat_or_mark {value mark : UInt32} (width above : ℕ) (hvalue : value.toNat < 2 ^ width)
    (hmark : mark.toNat = 2 ^ width * above) :
    (value ||| mark).toNat = value.toNat + mark.toNat := by
  rw [UInt32.toNat_or, hmark, Nat.or_comm, ← Nat.two_pow_add_eq_or_of_lt hvalue, Nat.add_comm]

theorem toUInt8_or_mark {value mark : UInt32} {number : ℕ} (width above : ℕ)
    (hvalue : value.toNat = number) (hnumber : number < 2 ^ width)
    (hmark : mark.toNat = 2 ^ width * above) :
    (value ||| mark).toUInt8 = UInt8.ofNat (number + mark.toNat) := by
  rw [← UInt8.toNat_inj, UInt32.toNat_toUInt8, toNat_or_mark width above (by omega) hmark, hvalue,
    UInt8.toNat_ofNat']

theorem toNat_shiftRight_eq {shift : UInt32} (bits : ℕ) (hshift : shift.toNat % 32 = bits) :
    (value >>> shift).toNat = value.toNat / 2 ^ bits := by
  rw [UInt32.toNat_shiftRight, hshift, Nat.shiftRight_eq_div_pow]

theorem isTrail_iff (octet : UInt8) : isTrail octet ↔ octet.toNat / 64 = 2 := by
  rw [isTrail, decide_eq_true_iff, ← UInt8.toNat_inj, UInt8.toNat_shiftRight,
    Nat.shiftRight_eq_div_pow]
  rfl

theorem sequenceLength_eq (lead : UInt8) :
    sequenceLength lead = if lead.toNat < 128 then 1 else if lead.toNat / 32 = 6 then 2
      else if lead.toNat / 16 = 14 then 3 else if lead.toNat / 8 = 30 then 4 else 0 := by
  simp only [sequenceLength, ← UInt8.toNat_inj, UInt8.toNat_shiftRight, UInt8.lt_iff_toNat_lt,
    Nat.shiftRight_eq_div_pow]
  rfl

theorem isOverlongSequence_iff (cp : UInt32) (length : ℕ) :
    isOverlongSequence cp length ↔ (cp.toNat < 0x80 ∧ length ≠ 1) ∨
      (0x80 ≤ cp.toNat ∧ cp.toNat < 0x800 ∧ length ≠ 2) ∨
      (0x800 ≤ cp.toNat ∧ cp.toNat < 0x10000 ∧ length ≠ 3) := by
  have hone : cp < 0x80 ↔ cp.toNat < 0x80 := UInt32.lt_iff_toNat_lt
  have htwo : cp < 0x800 ↔ cp.toNat < 0x800 := UInt32.lt_iff_toNat_lt
  have hthree : cp < 0x10000 ↔ cp.toNat < 0x10000 := UInt32.lt_iff_toNat_lt
  simp only [isOverlongSequence, hone, htwo, hthree]
  split
  · simp
    omega
  · split
    · simp
      omega
    · split
      · simp
        omega
      · simp
        omega

theorem isCodePointValid_iff (cp : UInt32) : isCodePointValid cp ↔ cp.toNat.isValidChar := by
  have hmax : cp ≤ codePointMax ↔ cp.toNat ≤ 0x10ffff := UInt32.le_iff_toNat_le
  have hmin : leadSurrogateMin ≤ cp ↔ 0xd800 ≤ cp.toNat := UInt32.le_iff_toNat_le
  have htrail : cp ≤ trailSurrogateMax ↔ cp.toNat ≤ 0xdfff := UInt32.le_iff_toNat_le
  simp only [isCodePointValid, isSurrogate, hmax, hmin, htrail, decide_eq_true_iff,
    Bool.not_eq_true', decide_eq_false_iff_not, Nat.isValidChar]
  omega

/-! ## One character -/

/-- A sequence for a character is met if it is not longer than it has to be. -/
theorem next_of_getSequence {char : Char}
    (hsequence : getSequence lead octets = .ok (char.val, rest))
    (hlength : ¬ isOverlongSequence char.val (sequenceLength lead)) :
    next lead octets = .ok (char.val, rest) := by
  have hvalid : isCodePointValid char.val := (isCodePointValid_iff _).mpr char.valid
  rw [next, hsequence]
  simp [hvalid, hlength, bind, Except.bind]

theorem increaseSafely_of_trail {octet : UInt8} (htrail : octet.toNat / 64 = 2)
    (rest : List UInt8) : increaseSafely (octet :: rest) = .ok (octet.toUInt32, rest) := by
  rw [increaseSafely, if_pos ((isTrail_iff octet).mpr htrail)]

section Sequences

variable {lead second third fourth : UInt8} {cp : UInt32} (rest : List UInt8)

theorem getSequence_one (hlead : lead.toNat = cp.toNat) (hcp : cp.toNat < 0x80) :
    sequenceLength lead = 1 ∧ getSequence lead rest = .ok (cp, rest) := by
  have hlength : sequenceLength lead = 1 := by
    rw [sequenceLength_eq, if_pos (by omega)]
  have hvalue : lead.toUInt32 = cp := by
    rw [← UInt32.toNat_inj, UInt8.toNat_toUInt32, hlead]
  rw [getSequence, hlength, hvalue]
  exact ⟨rfl, rfl⟩

theorem getSequence_two (hlead : lead.toNat = cp.toNat / 64 + 0xc0)
    (hsecond : second.toNat = cp.toNat % 64 + 0x80) (hcp : cp.toNat < 0x800) :
    sequenceLength lead = 2 ∧ getSequence lead (second :: rest) = .ok (cp, rest) := by
  have hlength : sequenceLength lead = 2 := by
    rw [sequenceLength_eq, if_neg (by omega), if_pos (by omega)]
  have hvalue : (lead.toUInt32 <<< (6 : UInt32) &&& 0x7ff) + (second.toUInt32 &&& 0x3f) = cp := by
    rw [← UInt32.toNat_inj, UInt32.toNat_add,
      toNat_shiftLeft_and_mask _ 6 11 rfl (by decide) rfl, toNat_and_mask _ 6 rfl,
      UInt8.toNat_toUInt32, UInt8.toNat_toUInt32, hlead, hsecond]
    omega
  rw [getSequence, hlength, getSequence2, increaseSafely_of_trail (by omega)]
  exact ⟨rfl, congrArg (fun value => Except.ok (value, rest)) hvalue⟩

theorem getSequence_three (hlead : lead.toNat = cp.toNat / 4096 + 0xe0)
    (hsecond : second.toNat = cp.toNat / 64 % 64 + 0x80)
    (hthird : third.toNat = cp.toNat % 64 + 0x80) (hcp : cp.toNat < 0x10000) :
    sequenceLength lead = 3 ∧ getSequence lead (second :: third :: rest) = .ok (cp, rest) := by
  have hlength : sequenceLength lead = 3 := by
    rw [sequenceLength_eq, if_neg (by omega), if_neg (by omega), if_pos (by omega)]
  have hvalue : (lead.toUInt32 <<< (12 : UInt32) &&& 0xffff) +
      (second.toUInt32 <<< (6 : UInt32) &&& 0xfff) + (third.toUInt32 &&& 0x3f) = cp := by
    rw [← UInt32.toNat_inj, UInt32.toNat_add, UInt32.toNat_add,
      toNat_shiftLeft_and_mask _ 12 16 rfl (by decide) rfl,
      toNat_shiftLeft_and_mask _ 6 12 rfl (by decide) rfl, toNat_and_mask _ 6 rfl,
      UInt8.toNat_toUInt32, UInt8.toNat_toUInt32, UInt8.toNat_toUInt32, hlead, hsecond, hthird]
    omega
  have hfirst := increaseSafely_of_trail (show second.toNat / 64 = 2 by omega) (third :: rest)
  have hlast := increaseSafely_of_trail (show third.toNat / 64 = 2 by omega) rest
  use hlength
  simp only [getSequence, hlength, getSequence3, hfirst, hlast, hvalue, bind, Except.bind, pure,
    Except.pure]

theorem getSequence_four (hlead : lead.toNat = cp.toNat / 262144 + 0xf0)
    (hsecond : second.toNat = cp.toNat / 4096 % 64 + 0x80)
    (hthird : third.toNat = cp.toNat / 64 % 64 + 0x80)
    (hfourth : fourth.toNat = cp.toNat % 64 + 0x80) (hcp : cp.toNat < 0x110000) :
    sequenceLength lead = 4 ∧
      getSequence lead (second :: third :: fourth :: rest) = .ok (cp, rest) := by
  have hlength : sequenceLength lead = 4 := by
    rw [sequenceLength_eq, if_neg (by omega), if_neg (by omega), if_neg (by omega),
      if_pos (by omega)]
  have hvalue : (lead.toUInt32 <<< (18 : UInt32) &&& 0x1fffff) +
      (second.toUInt32 <<< (12 : UInt32) &&& 0x3ffff) +
      (third.toUInt32 <<< (6 : UInt32) &&& 0xfff) + (fourth.toUInt32 &&& 0x3f) = cp := by
    rw [← UInt32.toNat_inj, UInt32.toNat_add, UInt32.toNat_add, UInt32.toNat_add,
      toNat_shiftLeft_and_mask _ 18 21 rfl (by decide) rfl,
      toNat_shiftLeft_and_mask _ 12 18 rfl (by decide) rfl,
      toNat_shiftLeft_and_mask _ 6 12 rfl (by decide) rfl, toNat_and_mask _ 6 rfl,
      UInt8.toNat_toUInt32, UInt8.toNat_toUInt32, UInt8.toNat_toUInt32, UInt8.toNat_toUInt32,
      hlead, hsecond, hthird, hfourth]
    omega
  have hfirst := increaseSafely_of_trail (show second.toNat / 64 = 2 by omega)
    (third :: fourth :: rest)
  have hmiddle := increaseSafely_of_trail (show third.toNat / 64 = 2 by omega) (fourth :: rest)
  have hlast := increaseSafely_of_trail (show fourth.toNat / 64 = 2 by omega) rest
  use hlength
  simp only [getSequence, hlength, getSequence4, hfirst, hmiddle, hlast, hvalue, bind, Except.bind,
    pure, Except.pure]

end Sequences

variable (char : Char)

/-- The first octet of a character leads to it. -/
def Leads (octets : List UInt8) : Prop :=
  ∃ lead tail, octets = lead :: tail ∧ ∀ rest, next lead (tail ++ rest) = .ok (char.val, rest)

theorem leads_of_getSequence {char : Char} {tail : List UInt8} {length : ℕ}
    (hsequence : ∀ rest, sequenceLength lead = length ∧
      getSequence lead (tail ++ rest) = .ok (char.val, rest))
    (hlength : ¬ isOverlongSequence char.val length) : Leads char (lead :: tail) := by
  use lead, tail, rfl
  intro rest
  obtain ⟨hlead, hrest⟩ := hsequence rest
  rw [← hlead] at hlength
  exact next_of_getSequence hrest hlength

theorem leads_utf8EncodeChar : Leads char (String.utf8EncodeChar char) := by
  have hvalid := char.valid
  have hoctet {number : ℕ} (hnumber : number < 256) : (UInt8.ofNat number).toNat = number :=
    UInt8.toNat_ofNat_of_lt' hnumber
  have hlast := hoctet (show char.val.toNat % 64 + 0x80 < 256 by omega)
  have hmiddle := hoctet (show char.val.toNat / 64 % 64 + 0x80 < 256 by omega)
  simp only [String.utf8EncodeChar]
  split
  next hone =>
    have hlead := hoctet (show char.val.toNat < 256 by omega)
    apply leads_of_getSequence fun rest => getSequence_one rest hlead (by omega)
    rw [isOverlongSequence_iff]
    omega
  next hone =>
    split
    next htwo =>
      have hlead : (UInt8.ofNat (char.val.toNat / 64 % 32 + 0xc0)).toNat =
          char.val.toNat / 64 + 0xc0 := by
        rw [hoctet (by omega)]
        omega
      apply leads_of_getSequence fun rest => getSequence_two rest hlead hlast (by omega)
      rw [isOverlongSequence_iff]
      omega
    next htwo =>
      split
      next hthree =>
        have hlead : (UInt8.ofNat (char.val.toNat / 4096 % 16 + 0xe0)).toNat =
            char.val.toNat / 4096 + 0xe0 := by
          rw [hoctet (by omega)]
          omega
        apply leads_of_getSequence fun rest => getSequence_three rest hlead hmiddle hlast (by omega)
        rw [isOverlongSequence_iff]
        omega
      next hthree =>
        have hlead : (UInt8.ofNat (char.val.toNat / 262144 % 8 + 0xf0)).toNat =
            char.val.toNat / 262144 + 0xf0 := by
          rw [hoctet (by omega)]
          omega
        have hsecond := hoctet (show char.val.toNat / 4096 % 64 + 0x80 < 256 by omega)
        apply leads_of_getSequence fun rest =>
          getSequence_four rest hlead hsecond hmiddle hlast (by omega)
        rw [isOverlongSequence_iff]
        omega

theorem append_val : append char.val = .ok (String.utf8EncodeChar char) := by
  have hvalid := char.valid
  have hone : char.val < 0x80 ↔ char.val.toNat ≤ 0x7f :=
    UInt32.lt_iff_toNat_lt.trans Nat.lt_succ_iff
  have htwo : char.val < 0x800 ↔ char.val.toNat ≤ 0x7ff :=
    UInt32.lt_iff_toNat_lt.trans Nat.lt_succ_iff
  have hthree : char.val < 0x10000 ↔ char.val.toNat ≤ 0xffff :=
    UInt32.lt_iff_toNat_lt.trans Nat.lt_succ_iff
  have hlast : ((char.val &&& 0x3f) ||| 0x80).toUInt8 =
      UInt8.ofNat (char.val.toNat % 64 + 0x80) :=
    toUInt8_or_mark 6 2 (toNat_and_mask _ 6 rfl) (by omega) rfl
  have hmiddle {shift : UInt32} {bits : ℕ} (hshift : shift.toNat % 32 = bits) :
      ((char.val >>> shift &&& 0x3f) ||| 0x80).toUInt8 =
        UInt8.ofNat (char.val.toNat / 2 ^ bits % 64 + 0x80) := by
    apply toUInt8_or_mark 6 2 _ (Nat.mod_lt _ (by decide)) rfl
    rw [toNat_and_mask _ 6 rfl, toNat_shiftRight_eq _ bits hshift]
  have hfirst {shift mark : UInt32} (bits width above : ℕ) (hshift : shift.toNat % 32 = bits)
      (hsmall : char.val.toNat / 2 ^ bits < 2 ^ width) (hmark : mark.toNat = 2 ^ width * above) :
      ((char.val >>> shift) ||| mark).toUInt8 =
        UInt8.ofNat (char.val.toNat / 2 ^ bits % 2 ^ width + mark.toNat) := by
    apply toUInt8_or_mark width above _ (Nat.mod_lt _ (Nat.two_pow_pos width)) hmark
    rw [toNat_shiftRight_eq _ bits hshift, Nat.mod_eq_of_lt hsmall]
  rw [append, if_neg (by simp [(isCodePointValid_iff _).mpr hvalid])]
  simp only [String.utf8EncodeChar, hone, htwo, hthree]
  split
  · rfl
  · split
    next htwo =>
      rw [hfirst 6 5 6 rfl (by omega) rfl, hlast]
      rfl
    next htwo =>
      split
      next hthree =>
        rw [hfirst 12 4 14 rfl (by omega) rfl, hmiddle rfl, hlast]
        rfl
      next hthree =>
        rw [hfirst 18 3 30 rfl (by omega) rfl, hmiddle rfl,
          hmiddle rfl, hlast]
        rfl

/-! ## Texts -/

variable (text : List Char)

def encode : List UInt8 := text.flatMap String.utf8EncodeChar

def utf16 : List UInt16 := text.flatMap fun char => utf16Units char.val

@[simp] theorem encode_cons :
    encode (char :: text) = String.utf8EncodeChar char ++ encode text := List.flatMap_cons

@[simp] theorem utf16_cons :
    utf16 (char :: text) = utf16Units char.val ++ utf16 text := List.flatMap_cons

theorem decode_encode : decode (encode text) = .ok (text.map Char.val) := by
  induction text with
  | nil => rw [encode, List.flatMap_nil, decode, List.map_nil]
  | cons char rest ih =>
    obtain ⟨lead, tail, hchar, hnext⟩ := leads_utf8EncodeChar char
    rw [encode_cons, hchar, List.cons_append, decode]
    split
    next error herror =>
      rw [hnext] at herror
      cases herror
    next cp remaining hok =>
      rw [hnext] at hok
      cases hok
      rw [ih]
      rfl

theorem distance_encode : distance (encode text) = .ok text.length := by
  rw [distance, decode_encode]
  simp [Except.map]

theorem utf8to16_encode : utf8to16 (encode text) = .ok (utf16 text) := by
  rw [utf8to16, decode_encode]
  simp [Except.map, utf16, List.flatMap_map]

/-! ## Units of UTF-16 -/

/-- Below the surrogate pairs. -/
def Basic : Prop := char.val ≤ 0xffff

instance (char : Char) : Decidable (Basic char) := inferInstanceAs (Decidable (_ ≤ _))

theorem utf16Units_of_basic {char : Char} (hbasic : Basic char) :
    utf16Units char.val = [char.val.toUInt16] := if_neg (UInt32.not_lt.mpr hbasic)

theorem utf16Units_of_not_basic {char : Char} (hbasic : ¬ Basic char) :
    utf16Units char.val = [((char.val >>> (10 : UInt32)) + leadOffset).toUInt16,
      ((char.val &&& 0x3ff) + trailSurrogateMin).toUInt16] := if_pos (UInt32.not_le.mp hbasic)

theorem isLeadSurrogate_iff (cp : UInt32) :
    isLeadSurrogate cp ↔ 0xd800 ≤ cp.toNat ∧ cp.toNat ≤ 0xdbff := by
  rw [isLeadSurrogate, decide_eq_true_iff, UInt32.le_iff_toNat_le, UInt32.le_iff_toNat_le]
  rfl

theorem isTrailSurrogate_iff (cp : UInt32) :
    isTrailSurrogate cp ↔ 0xdc00 ≤ cp.toNat ∧ cp.toNat ≤ 0xdfff := by
  rw [isTrailSurrogate, decide_eq_true_iff, UInt32.le_iff_toNat_le, UInt32.le_iff_toNat_le]
  rfl

theorem mask16_toUInt32 (unit : UInt16) : mask16 unit.toUInt32 = unit.toUInt32 := by
  rw [← UInt32.toNat_inj, mask16, toNat_and_mask _ 16 rfl, UInt16.toNat_toUInt32,
    Nat.mod_eq_of_lt unit.toNat_lt]

theorem toNat_lead {char : Char} (hbasic : ¬ Basic char) :
    ((char.val >>> (10 : UInt32)) + leadOffset).toUInt16.toNat =
      char.val.toNat / 1024 + 0xd7c0 := by
  have hvalid := char.valid
  have hlarge : 0xffff < char.val.toNat := UInt32.lt_iff_toNat_lt.mp (UInt32.not_le.mp hbasic)
  have hoffset : leadOffset.toNat = 0xd7c0 := rfl
  rw [UInt32.toNat_toUInt16, UInt32.toNat_add, toNat_shiftRight_eq _ 10 rfl, hoffset]
  omega

theorem toNat_trail :
    ((char.val &&& 0x3ff) + trailSurrogateMin).toUInt16.toNat = char.val.toNat % 1024 + 0xdc00 := by
  have hmin : trailSurrogateMin.toNat = 0xdc00 := rfl
  rw [UInt32.toNat_toUInt16, UInt32.toNat_add, toNat_and_mask _ 10 rfl, hmin]
  omega

theorem utf16to8_pair {char : Char} (hbasic : ¬ Basic char) :
    ∃ lead trail : UInt32, (utf16Units char.val).map UInt16.toUInt32 = [lead, trail] ∧
      utf16to8 [lead] = .error (.invalidUtf16, []) ∧
      ∀ rest, utf16to8 (lead :: trail :: rest) =
        (utf16to8 rest).after (.ok (String.utf8EncodeChar char)) := by
  have hvalid := char.valid
  have hlarge : 0xffff < char.val.toNat := UInt32.lt_iff_toNat_lt.mp (UInt32.not_le.mp hbasic)
  have hlead := toNat_lead hbasic
  have htrail := toNat_trail char
  rw [utf16Units_of_not_basic hbasic]
  generalize ((char.val >>> (10 : UInt32)) + leadOffset).toUInt16 = lead at hlead ⊢
  generalize ((char.val &&& 0x3ff) + trailSurrogateMin).toUInt16 = trail at htrail ⊢
  have hisLead : isLeadSurrogate lead.toUInt32 := by
    rw [isLeadSurrogate_iff, UInt16.toNat_toUInt32]
    omega
  have hisTrail : isTrailSurrogate trail.toUInt32 := by
    rw [isTrailSurrogate_iff, UInt16.toNat_toUInt32]
    omega
  have hpair : (lead.toUInt32 <<< (10 : UInt32)) + trail.toUInt32 + surrogateOffset = char.val := by
    have hoffset : surrogateOffset.toNat = 0xfca02400 := rfl
    have hshift : (10 : UInt32).toNat % 32 = 10 := rfl
    rw [← UInt32.toNat_inj, UInt32.toNat_add, UInt32.toNat_add, UInt32.toNat_shiftLeft,
      Nat.shiftLeft_eq, hshift, UInt16.toNat_toUInt32, UInt16.toNat_toUInt32, hlead, htrail,
      hoffset]
    omega
  use lead.toUInt32, trail.toUInt32, rfl
  constructor
  · simp [utf16to8, mask16_toUInt32, hisLead]
  · intro rest
    rw [utf16to8.eq_def]
    simp only [mask16_toUInt32, hisLead, hisTrail, if_true, hpair, append_val]

/-- The units of a character are read back as its octets. -/
theorem utf16to8_utf16Units_append (rest : List UInt32) :
    utf16to8 ((utf16Units char.val).map UInt16.toUInt32 ++ rest) =
      (utf16to8 rest).after (.ok (String.utf8EncodeChar char)) := by
  by_cases hbasic : Basic char
  · have hvalid := char.valid
    have hsmall : char.val.toNat ≤ 0xffff := UInt32.le_iff_toNat_le.mp hbasic
    have hunit : mask16 char.val.toUInt16.toUInt32 = char.val := by
      rw [mask16_toUInt32, ← UInt32.toNat_inj, UInt16.toNat_toUInt32, UInt32.toNat_toUInt16,
        Nat.mod_eq_of_lt (by omega)]
    have hisLead : ¬ isLeadSurrogate char.val := by
      rw [isLeadSurrogate_iff]
      omega
    have hisTrail : ¬ isTrailSurrogate char.val := by
      rw [isTrailSurrogate_iff]
      omega
    rw [utf16Units_of_basic hbasic, List.map_singleton, List.singleton_append, utf16to8.eq_def]
    simp only [hunit, if_neg hisLead, if_neg hisTrail, append_val]
  · obtain ⟨lead, trail, hunits, -, hpair⟩ := utf16to8_pair hbasic
    rw [hunits]
    exact hpair rest

/-! ## Texts in UTF-16 -/

theorem utf16to8_utf16 : utf16to8 ((utf16 text).map UInt16.toUInt32) = .ok (encode text) := by
  induction text with
  | nil => rfl
  | cons char rest ih =>
    rw [utf16_cons, List.map_append, utf16to8_utf16Units_append, ih, encode_cons]
    rfl

/-- A character that is cut is not read back. -/
theorem utf16to8_take_utf16Units_ne (octets : List UInt8) {count : ℕ}
    (hcount : count < (utf16Units char.val).length) :
    utf16to8 (((utf16Units char.val).map UInt16.toUInt32).take count) ≠
      .ok (String.utf8EncodeChar char ++ octets) := by
  have hnone : utf16to8 [] ≠ .ok (String.utf8EncodeChar char ++ octets) := by
    intro hnil
    have happend := (Except.ok.inj hnil).symm
    exact String.utf8EncodeChar_ne_nil (List.append_eq_nil_iff.mp happend).1
  by_cases hbasic : Basic char
  · rw [utf16Units_of_basic hbasic] at hcount
    obtain rfl : count = 0 := Nat.lt_one_iff.mp hcount
    exact hnone
  · obtain ⟨lead, trail, hunits, hlead, -⟩ := utf16to8_pair hbasic
    rw [hunits]
    have hlength : (utf16Units char.val).length = 2 := by
      rw [utf16Units_of_not_basic hbasic]
      rfl
    rw [hlength] at hcount
    rcases count with _ | _ | count
    · exact hnone
    · rw [List.take_succ_cons, List.take_zero, hlead]
      simp
    · omega

/-- A part of the units is not read back as the whole text. -/
theorem utf16to8_take_ne {count : ℕ} (hcount : count < (utf16 text).length) :
    utf16to8 (((utf16 text).map UInt16.toUInt32).take count) ≠ .ok (encode text) := by
  induction text generalizing count with
  | nil => cases hcount
  | cons char rest ih =>
    rw [utf16_cons, List.length_append] at hcount
    rw [utf16_cons, encode_cons, List.map_append]
    by_cases hcut : count < (utf16Units char.val).length
    · rw [List.take_append_of_le_length (by simpa using Nat.le_of_lt hcut)]
      exact utf16to8_take_utf16Units_ne char (encode rest) hcut
    · obtain ⟨fewer, rfl⟩ := Nat.exists_eq_add_of_le (Nat.not_lt.mp hcut)
      have hlength : (utf16Units char.val).length =
          ((utf16Units char.val).map UInt16.toUInt32).length := (List.length_map _).symm
      rw [hlength, List.take_length_add_append, utf16to8_utf16Units_append]
      intro hsame
      cases hrest : utf16to8 (((utf16 rest).map UInt16.toUInt32).take fewer) with
      | error error =>
        rw [hrest] at hsame
        cases hsame
      | ok octets =>
        rw [hrest] at hsame
        rw [List.append_cancel_left (Except.ok.inj hsame)] at hrest
        exact ih (by omega) hrest

/-- A text has more units than characters if one of them needs a pair. -/
theorem length_utf16 :
    (utf16 text).length = text.length + text.countP fun char => ¬ Basic char := by
  induction text with
  | nil => rfl
  | cons char rest ih =>
    rw [utf16_cons, List.length_append, ih, List.length_cons, List.countP_cons]
    by_cases hbasic : Basic char
    · rw [utf16Units_of_basic hbasic, List.length_singleton]
      simp [hbasic]
      omega
    · rw [utf16Units_of_not_basic hbasic, List.length_cons, List.length_singleton]
      simp [hbasic]
      omega

theorem length_utf16_le_iff : (utf16 text).length ≤ text.length ↔ ∀ char ∈ text, Basic char := by
  rw [length_utf16]
  constructor
  · intro hle char hchar
    have hzero : text.countP (fun char => ¬ Basic char) = 0 := by omega
    simpa using List.countP_eq_zero.mp hzero char hchar
  · intro hbasic
    have hzero : text.countP (fun char => ¬ Basic char) = 0 :=
      List.countP_eq_zero.mpr fun char hchar => by simpa using hbasic char hchar
    omega

/-! ## How much is written -/

theorem length_of_append (happend : append cp = .ok octets) :
    0 < octets.length ∧ octets.length ≤ 4 := by
  unfold append at happend
  split at happend
  · cases happend
  · split at happend
    · cases happend
      simp
    · split at happend
      · cases happend
        simp
      · split at happend
        · cases happend
          simp
        · cases happend
          simp

/-- Each code point adds at most four octets, also to what was written before an exception. -/
theorem length_written_after_le (others : Writing) (cp : UInt32) :
    (others.after (append cp)).written.length ≤ 4 + others.written.length := by
  cases hfirst : append cp with
  | error error => exact Nat.zero_le _
  | ok first =>
    have hlength := (length_of_append hfirst).2
    cases others with
    | error _ | ok _ => exact (List.length_append).trans_le (Nat.add_le_add_right hlength _)

theorem length_written_utf16to8_le (units : List UInt32) :
    (utf16to8 units).written.length ≤ units.length * 4 := by
  fun_induction utf16to8 units with
  | case1 => exact Nat.zero_le _
  | case2 unit hlead => exact Nat.zero_le _
  | case3 unit hlead trail rest htrail ih =>
    refine (length_written_after_le _ _).trans ?_
    rw [List.length_cons, List.length_cons]
    omega
  | case4 unit hlead trail rest htrail => exact Nat.zero_le _
  | case5 unit rest hlead htrail => exact Nat.zero_le _
  | case6 unit rest hlead htrail ih =>
    refine (length_written_after_le _ _).trans ?_
    rw [List.length_cons]
    omega

theorem eq_nil_of_utf16to8 {units : List UInt32} (hread : utf16to8 units = .ok []) :
    units = [] := by
  have hafter {others : Writing} {cp : UInt32} : others.after (append cp) ≠ .ok [] := by
    intro hwritten
    cases hfirst : append cp with
    | error error =>
      rw [hfirst] at hwritten
      cases hwritten
    | ok first =>
      have hlength := (length_of_append hfirst).1
      rw [hfirst] at hwritten
      cases others with
      | error thrown => cases hwritten
      | ok others =>
        rw [(List.append_eq_nil_iff.mp (Except.ok.inj hwritten)).1] at hlength
        cases hlength
  fun_induction utf16to8 units with
  | case1 => rfl
  | case2 unit hlead => cases hread
  | case3 unit hlead trail rest htrail ih => exact absurd hread hafter
  | case4 unit hlead trail rest htrail => cases hread
  | case5 unit rest hlead htrail => cases hread
  | case6 unit rest hlead htrail ih => exact absurd hread hafter

end MopServer.Utilities.Utf8
