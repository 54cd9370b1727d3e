import MopServer.Foundation.WordParts
import Mathlib.Data.Nat.Bitwise
import Mathlib.Data.List.Basic

/-! # Byte strings as bit strings

Bits of a byte string are numbered from its first byte on, most significant bit
first.  Positions past the end read as zero, so two byte strings of one length
are equal when their bits are.
-/

namespace MopServer.Foundation

variable {first second : List UInt8} {count : Nat} (position : Nat) (bytes : List UInt8)

def bitAt (position : Nat) : Bool :=
  (bytes.getD (position / 8) 0).toNat.testBit (7 - position % 8)

/-- The number of bytes that hold a number of bits. -/
def byteCount (bits : Nat) : Nat := (bits + 7) / 8

/-- The next byte boundary. -/
def align (position : Nat) : Nat := 8 * byteCount position

theorem le_align : position ≤ align position := by
  unfold align byteCount
  omega

theorem byteCount_align : byteCount (align position) = byteCount position := by
  unfold align byteCount
  omega

theorem align_eq_self_iff {position : Nat} : align position = position ↔ position % 8 = 0 := by
  unfold align byteCount
  omega

theorem bitAt_of_length_le {bytes : List UInt8} {position : Nat}
    (hlength : 8 * bytes.length ≤ position) : bitAt bytes position = false := by
  unfold bitAt
  rw [List.getD_eq_default _ _ (by omega)]
  exact Nat.zero_testBit _

theorem bitAt_append (first second : List UInt8) :
    bitAt (first ++ second) position =
      if position < 8 * first.length then bitAt first position
      else bitAt second (position - 8 * first.length) := by
  unfold bitAt
  split
  next hlt => rw [List.getD_append _ _ _ _ (by omega)]
  next hle =>
    have hdiv : position / 8 - first.length = (position - 8 * first.length) / 8 := by omega
    have hmod : position % 8 = (position - 8 * first.length) % 8 := by omega
    rw [List.getD_append_right _ _ _ _ (by omega), hdiv, hmod]

/-- Bits of a byte string in which one byte is rewritten. -/
theorem bitAt_modify (index : Nat) (f : UInt8 → UInt8) (hindex : index < bytes.length) :
    bitAt (bytes.modify index f) position =
      if position / 8 = index then
        (f (bytes.getD index 0)).toNat.testBit (7 - position % 8)
      else bitAt bytes position := by
  unfold bitAt
  rw [List.getD_eq_getElem?_getD, List.getElem?_modify]
  split
  next heq =>
    rw [heq] at hindex ⊢
    simp [List.getD_eq_getElem?_getD, List.getElem?_eq_getElem hindex]
  next hne =>
    rw [if_neg (fun heq => hne heq.symm), List.getD_eq_getElem?_getD]
    simp

theorem getElem_eq_of_bitAt {i j : Nat} (hi : i < first.length) (hj : j < second.length)
    (hbits : ∀ k < 8, bitAt first (8 * i + k) = bitAt second (8 * j + k)) :
    first[i] = second[j] := by
  apply UInt8.toNat_inj.mp
  apply Nat.eq_of_testBit_eq
  intro bit
  by_cases hbit : bit < 8
  · have hk := hbits (7 - bit) (by omega)
    have hdivi : (8 * i + (7 - bit)) / 8 = i := by omega
    have hdivj : (8 * j + (7 - bit)) / 8 = j := by omega
    have hmodi : 7 - (8 * i + (7 - bit)) % 8 = bit := by omega
    have hmodj : 7 - (8 * j + (7 - bit)) % 8 = bit := by omega
    unfold bitAt at hk
    rwa [hdivi, hdivj, hmodi, hmodj, List.getD_eq_getElem _ _ hi, List.getD_eq_getElem _ _ hj] at hk
  · have hlarge : ∀ byte : UInt8, byte.toNat.testBit bit = false := fun byte =>
      Nat.testBit_lt_two_pow (lt_of_lt_of_le byte.toNat_lt
        (Nat.pow_le_pow_right (by decide) (Nat.le_of_not_lt hbit)))
    rw [hlarge, hlarge]

/-- The bit that a field of some width, most significant bit first, has at a position. -/
def fieldBit (position count value i : Nat) : Bool :=
  decide (position ≤ i ∧ i < position + count) && value.testBit (position + count - 1 - i)

theorem fieldBit_of_outside {position i : Nat} (value : Nat)
    (hi : ¬ (position ≤ i ∧ i < position + count)) : fieldBit position count value i = false := by
  simp [fieldBit, hi]

theorem fieldBit_append (first second value i : Nat) :
    fieldBit position (first + second) value i =
      (fieldBit position first ((value >>> second) % 2 ^ first) i ||
        fieldBit (position + first) second value i) := by
  unfold fieldBit
  by_cases hearly : position ≤ i ∧ i < position + first
  · have hlate : ¬ (position + first ≤ i ∧ i < position + first + second) := by omega
    have hboth : position ≤ i ∧ i < position + (first + second) := by omega
    have hshift : second + (position + first - 1 - i) = position + (first + second) - 1 - i := by
      omega
    have hsmall : position + first - 1 - i < first := by omega
    simp [hearly, hlate, hboth, hshift, hsmall, Nat.testBit_mod_two_pow, Nat.testBit_shiftRight]
  · have hrange : (position ≤ i ∧ i < position + (first + second)) ↔
        (position + first ≤ i ∧ i < position + first + second) := by omega
    have hshift : position + (first + second) - 1 - i = position + first + second - 1 - i := by
      omega
    simp only [hearly, decide_false, Bool.false_and, Bool.false_or, hrange, hshift]

theorem bitAt_modify_or {bytes : List UInt8} {position value : Nat}
    (hbyte : position / 8 < bytes.length) (hcount : position % 8 + count ≤ 8)
    (hvalue : value < 2 ^ count) (i : Nat) :
    bitAt (bytes.modify (position / 8) fun byte =>
        byte ||| UInt8.ofNat (value <<< (8 - (position % 8 + count)))) i =
      (bitAt bytes i || fieldBit position count value i) := by
  have hmask : value <<< (8 - (position % 8 + count)) < 2 ^ 8 := by
    rw [Nat.shiftLeft_eq]
    calc value * 2 ^ (8 - (position % 8 + count))
        < 2 ^ count * 2 ^ (8 - (position % 8 + count)) :=
          Nat.mul_lt_mul_of_pos_right hvalue (Nat.two_pow_pos _)
      _ = 2 ^ (count + (8 - (position % 8 + count))) := (Nat.pow_add ..).symm
      _ ≤ 2 ^ 8 := Nat.pow_le_pow_right (by decide) (by omega)
  rw [bitAt_modify _ _ _ _ hbyte]
  split
  next hsame =>
    have hold : (bytes.getD (position / 8) 0).toNat.testBit (7 - i % 8) = bitAt bytes i := by
      rw [bitAt, hsame]
    rw [UInt8.toNat_or, UInt8.toNat_ofNat', Nat.mod_eq_of_lt hmask, Nat.testBit_or, hold,
      Nat.testBit_shiftLeft, fieldBit]
    congr 1
    by_cases hrange : position ≤ i ∧ i < position + count
    · have hshift : 7 - i % 8 - (8 - (position % 8 + count)) = position + count - 1 - i := by
        omega
      have hlow : 8 - (position % 8 + count) ≤ 7 - i % 8 := by omega
      simp [hrange, hshift, hlow]
    · rw [decide_eq_false hrange, Bool.false_and]
      rcases Nat.lt_or_ge i position with hbefore | hafter
      · have hlarge : value.testBit (7 - i % 8 - (8 - (position % 8 + count))) = false :=
          Nat.testBit_lt_two_pow (lt_of_lt_of_le hvalue
            (Nat.pow_le_pow_right (by decide) (by omega)))
        rw [hlarge, Bool.and_false]
      · have hbelow : ¬ (8 - (position % 8 + count) ≤ 7 - i % 8) := by omega
        simp [hbelow]
  next hother => rw [fieldBit_of_outside value (by omega), Bool.or_false]

theorem eq_of_bitAt (hlength : first.length = second.length)
    (hbits : ∀ i, bitAt first i = bitAt second i) : first = second :=
  List.ext_getElem hlength fun _ hi hj => getElem_eq_of_bitAt hi hj fun _ _ => hbits _

/-- The bits before a position are the same in both byte strings, and nothing has
been cut off. -/
structure Extends (position : Nat) (earlier later : List UInt8) : Prop where
  length_le : earlier.length ≤ later.length
  bits : ∀ i < position, bitAt later i = bitAt earlier i

theorem Extends.refl : Extends position bytes bytes :=
  ⟨le_rfl, fun _ _ => rfl⟩

theorem Extends.trans {position further : Nat} {third : List UInt8} (hposition : position ≤ further)
    (hfirst : Extends position first second) (hsecond : Extends further second third) :
    Extends position first third :=
  ⟨hfirst.length_le.trans hsecond.length_le, fun i hi =>
    (hsecond.bits i (lt_of_lt_of_le hi hposition)).trans (hfirst.bits i hi)⟩

/-- Whole bytes before the position are kept. -/
theorem Extends.slice_eq {position : Nat} {earlier later : List UInt8}
    (hextends : Extends position earlier later) {start : Nat}
    (hend : 8 * (start + count) ≤ position) (hlength : start + count ≤ earlier.length) :
    (later.drop start).take count = (earlier.drop start).take count := by
  have hlater := hextends.length_le
  apply List.ext_getElem
  · simp only [List.length_take, List.length_drop]
    omega
  · intro i hi hi'
    simp only [List.length_take, List.length_drop] at hi hi'
    rw [List.getElem_take, List.getElem_take, List.getElem_drop, List.getElem_drop]
    exact getElem_eq_of_bitAt _ _ fun k hk => hextends.bits _ (by omega)

/-! ## Single bytes -/

/-- Bits that are set elsewhere are not seen through a mask. -/
theorem or_and_of_disjoint {x y z : UInt8} (hdisjoint : y &&& z = 0) : (x ||| y) &&& z = x &&& z :=
  UInt8.toBitVec_inj.mp
    (withFlags_and_of_disjoint (congrArg UInt8.toBitVec hdisjoint) x.toBitVec true)

/-- Bits that are cleared elsewhere are not seen through a mask. -/
theorem and_not_and_of_disjoint {x y z : UInt8} (hdisjoint : y &&& z = 0) :
    (x &&& ~~~y) &&& z = x &&& z :=
  UInt8.toBitVec_inj.mp
    (withFlags_and_of_disjoint (congrArg UInt8.toBitVec hdisjoint) x.toBitVec false)

theorem toNat_add_one {n : UInt8} (hn : n.toNat < 255) : (n + 1).toNat = n.toNat + 1 := by
  have hone : (1 : UInt8).toNat = 1 := rfl
  rw [UInt8.toNat_add, hone, Nat.mod_eq_of_lt (by omega)]

theorem toNat_sub_one {n : UInt8} (hn : 0 < n.toNat) : (n - 1).toNat = n.toNat - 1 := by
  have hle : (1 : UInt8) ≤ n := UInt8.le_iff_toNat_le.mpr hn
  rw [UInt8.toNat_sub_of_le n 1 hle]
  rfl

end MopServer.Foundation
