import Mathlib.Data.Nat.Notation
import Mathlib.Logic.Basic
import Mathlib.Tactic.Use

/-! # Spans of time as text

A span is printed as days, hours, minutes and seconds, without the parts that are zero.  The reader
collects the digits of a part, and adds the part to the sum at its unit.  It counts in 32 bits.
-/

namespace MopServer.Utilities

def minute : UInt32 := 60
def hour : UInt32 := minute * 60
def day : UInt32 := hour * 24

variable (number : UInt64)

def digits : List Char := Nat.toDigits 10 number.toNat

def secsToTimeString (timeInSecs : UInt64) (shortText hoursOnly : Bool) : List Char :=
  let secs := timeInSecs % minute.toUInt64
  let minutes := timeInSecs % hour.toUInt64 / minute.toUInt64
  let hours := timeInSecs % day.toUInt64 / hour.toUInt64
  let days := timeInSecs / day.toUInt64
  (if days ≠ 0 then digits days ++ (if shortText then ['d'] else " Day(s) ".toList) else []) ++
  (if hours ≠ 0 ∨ hoursOnly then
    digits hours ++ (if shortText then ['h'] else " Hour(s) ".toList) else []) ++
  (if hoursOnly then [] else
    (if minutes ≠ 0 then
      digits minutes ++ (if shortText then ['m'] else " Minute(s) ".toList) else []) ++
    (if secs ≠ 0 ∨ (days = 0 ∧ hours = 0 ∧ minutes = 0) then
      digits secs ++ (if shortText then ['s'] else " Second(s).".toList) else []))

/-- The variables of `TimeStringToSecs`. -/
structure TimeReader where
  secs : UInt32
  buffer : UInt32
  multiplier : UInt32

/-- The units of the `switch`; every other character is a bad format. -/
def timeUnit? : Char → Option UInt32
  | 'd' => some day
  | 'h' => some hour
  | 'm' => some minute
  | 's' => some 1
  | _ => none

def TimeReader.read (reader : TimeReader) (char : Char) : Option TimeReader :=
  if char.isDigit then
    some { reader with buffer := reader.buffer * 10 + UInt32.ofNat (char.toNat - '0'.toNat) }
  else
    (timeUnit? char).map fun multiplier =>
      { secs := reader.secs + reader.buffer * multiplier, buffer := 0, multiplier }

def timeStringToSecs (timestring : List Char) : UInt32 :=
  match timestring.foldlM TimeReader.read { secs := 0, buffer := 0, multiplier := 0 } with
  | some reader => reader.secs
  | none => 0

/-! ## Reading a printed span -/

variable (timeInSecs : UInt64)

theorem foldlM_read_digits {text : List Char} (htext : ∀ char ∈ text, char.isDigit)
    (secs multiplier : UInt32) (number : ℕ) :
    text.foldlM TimeReader.read { secs, buffer := UInt32.ofNat number, multiplier } =
      some { secs, buffer := UInt32.ofNat (Nat.ofDigitChars 10 text number), multiplier } := by
  induction text generalizing number with
  | nil => rfl
  | cons char rest ih =>
    have hdigit : char.isDigit := htext char List.mem_cons_self
    have hrest := ih (fun other hother => htext other (List.mem_cons_of_mem _ hother))
      (10 * number + (char.toNat - '0'.toNat))
    rw [List.foldlM_cons, TimeReader.read, if_pos hdigit, Nat.ofDigitChars_cons, ← hrest]
    simp only [Option.bind_eq_bind, Option.bind_some]
    congr 2
    rw [UInt32.ofNat_add, UInt32.ofNat_mul, UInt32.mul_comm]
    rfl

/-- A text adds an amount to the sum, from every state between two parts. -/
def Adds (text : List Char) (amount : UInt32) : Prop :=
  ∀ secs multiplier : UInt32, ∃ next : UInt32,
    text.foldlM TimeReader.read { secs, buffer := 0, multiplier } =
      some { secs := secs + amount, buffer := 0, multiplier := next }

theorem Adds.nil : Adds [] 0 := by
  intro secs multiplier
  use multiplier
  simp

theorem Adds.append {first second : List Char} {one two : UInt32} (hfirst : Adds first one)
    (hsecond : Adds second two) : Adds (first ++ second) (one + two) := by
  intro secs multiplier
  obtain ⟨middle, hmiddle⟩ := hfirst secs multiplier
  obtain ⟨last, hlast⟩ := hsecond (secs + one) middle
  use last
  rw [List.foldlM_append, hmiddle]
  simp only [Option.bind_eq_bind, Option.bind_some, hlast, UInt32.add_assoc]

theorem Adds.part {letter : Char} {unit : UInt32} (hletter : ¬ letter.isDigit)
    (hunit : timeUnit? letter = some unit) :
    Adds (digits number ++ [letter]) (number.toUInt32 * unit) := by
  intro secs multiplier
  use unit
  have hisDigit : ∀ char ∈ digits number, char.isDigit := fun _ hchar =>
    Nat.isDigit_of_mem_toDigits (b := 10) (by decide) (by decide) hchar
  have hnumber : UInt32.ofNat (Nat.ofDigitChars 10 (digits number) 0) = number.toUInt32 := by
    rw [digits, Nat.ofDigitChars_ten_toDigits]
    apply UInt32.toNat_inj.mp
    simp
  have hdigits : (digits number).foldlM TimeReader.read { secs, buffer := 0, multiplier } =
      some { secs, buffer := number.toUInt32, multiplier } := by
    rw [← hnumber]
    exact foldlM_read_digits hisDigit secs multiplier 0
  have hread : TimeReader.read { secs, buffer := number.toUInt32, multiplier } letter =
      some { secs := secs + number.toUInt32 * unit, buffer := 0, multiplier := unit } := by
    rw [TimeReader.read, if_neg hletter, hunit, Option.map_some]
  rw [List.foldlM_append, hdigits]
  simpa using hread

theorem Adds.part_if {letter : Char} {unit : UInt32} (hletter : ¬ letter.isDigit)
    (hunit : timeUnit? letter = some unit) {printed : Prop} [Decidable printed]
    (hprinted : number ≠ 0 → printed) :
    Adds (if printed then digits number ++ [letter] else []) (number.toUInt32 * unit) := by
  split
  · exact Adds.part number hletter hunit
  next habsent =>
    have hzero : number = 0 := not_not.mp fun hnumber => habsent (hprinted hnumber)
    rw [hzero]
    simpa using Adds.nil

theorem sum_of_parts :
    (timeInSecs / day.toUInt64).toUInt32 * day +
      (timeInSecs % day.toUInt64 / hour.toUInt64).toUInt32 * hour +
      ((timeInSecs % hour.toUInt64 / minute.toUInt64).toUInt32 * minute +
        (timeInSecs % minute.toUInt64).toUInt32 * 1) = timeInSecs.toUInt32 := by
  have hday : day.toNat = 86400 := rfl
  have hhour : hour.toNat = 3600 := rfl
  have hminute : minute.toNat = 60 := rfl
  apply UInt32.toNat_inj.mp
  simp only [UInt32.toNat_add, UInt32.toNat_mul, UInt64.toNat_toUInt32, UInt64.toNat_div,
    UInt64.toNat_mod, UInt32.toNat_toUInt64, UInt32.toNat_one, hday, hhour, hminute]
  omega

theorem adds_secsToTimeString :
    Adds (secsToTimeString timeInSecs true false) timeInSecs.toUInt32 := by
  rw [← sum_of_parts]
  simp only [secsToTimeString, if_true, Bool.false_eq_true, or_false, if_false]
  apply Adds.append
  · apply Adds.append
    · exact Adds.part_if _ (by decide) rfl id
    · exact Adds.part_if _ (by decide) rfl id
  · apply Adds.append
    · exact Adds.part_if _ (by decide) rfl id
    · exact Adds.part_if _ (by decide) rfl Or.inl

/-- The reader has the printed span back modulo `2 ^ 32`. -/
theorem timeStringToSecs_eq_toUInt32 :
    timeStringToSecs (secsToTimeString timeInSecs true false) = timeInSecs.toUInt32 := by
  obtain ⟨multiplier, hread⟩ := adds_secsToTimeString timeInSecs 0 0
  rw [timeStringToSecs, hread]
  simp

/-- Every span that fits into 32 bits is read back as it was printed. -/
theorem timeStringToSecs_secsToTimeString (timeInSecs : UInt32) :
    timeStringToSecs (secsToTimeString timeInSecs.toUInt64 true false) = timeInSecs := by
  rw [timeStringToSecs_eq_toUInt32]
  simp

end MopServer.Utilities
