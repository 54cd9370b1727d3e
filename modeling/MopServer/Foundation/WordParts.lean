import Mathlib.Data.BitVec

/-! # Parts of words

A part of a word is some of its bits in a row.  Putting a part into a word changes nothing else, and
setting or clearing flags of a part is putting a part.
-/

namespace MopServer.Foundation

variable {n w start : Nat} (word : BitVec n)

def putPart (word : BitVec n) (start : Nat) (part : BitVec w) : BitVec n :=
  (word &&& ~~~((BitVec.allOnes w).setWidth n <<< start)) ||| (part.setWidth n <<< start)

variable (part : BitVec w)

theorem getLsbD_setWidth_shiftLeft (start : Nat) {bit : Nat} (hbit : bit < n) :
    (part.setWidth n <<< start).getLsbD bit =
      (decide (start ≤ bit) && part.getLsbD (bit - start)) := by
  rw [BitVec.getLsbD_shiftLeft, BitVec.getLsbD_setWidth, decide_eq_true hbit, Bool.true_and]
  by_cases hstart : start ≤ bit
  · have hlt : bit - start < n := by omega
    simp [hstart, hlt]
  · simp [hstart]

theorem getLsbD_putPart (start : Nat) (part : BitVec w) {bit : Nat} (hbit : bit < n) :
    (putPart word start part).getLsbD bit =
      if start ≤ bit ∧ bit < start + w then part.getLsbD (bit - start) else word.getLsbD bit := by
  unfold putPart
  rw [BitVec.getLsbD_or, BitVec.getLsbD_and, BitVec.getLsbD_not, getLsbD_setWidth_shiftLeft _ _
    hbit, getLsbD_setWidth_shiftLeft _ _ hbit, BitVec.getLsbD_allOnes, decide_eq_true hbit]
  by_cases hstart : start ≤ bit
  · by_cases hend : bit < start + w
    · have hlt : bit - start < w := by omega
      simp [hstart, hend, hlt]
    · have hle : w ≤ bit - start := by omega
      simp [hstart, hend, hle]
  · simp [hstart]

theorem eq_putPart {word other : BitVec n} {part : BitVec w}
    (hpart : other.extractLsb' start w = part)
    (hrest : ∀ bit < n, ¬(start ≤ bit ∧ bit < start + w) → other.getLsbD bit = word.getLsbD bit) :
    other = putPart word start part := by
  apply BitVec.eq_of_getLsbD_eq
  intro bit hbit
  rw [getLsbD_putPart _ _ _ hbit]
  split
  next hin =>
    have hlt : bit - start < w := by omega
    rw [← hpart, BitVec.getLsbD_extractLsb', decide_eq_true hlt, Bool.true_and]
    congr 1
    omega
  next hout => exact hrest bit hbit hout

@[simp] theorem extractLsb'_putPart (hfits : start + w ≤ n) :
    (putPart word start part).extractLsb' start w = part := by
  apply BitVec.eq_of_getLsbD_eq
  intro bit hbit
  have hlt : start + bit < n := by omega
  have hin : start ≤ start + bit ∧ start + bit < start + w := by omega
  rw [BitVec.getLsbD_extractLsb', decide_eq_true hbit, Bool.true_and, getLsbD_putPart _ _ _ hlt,
    if_pos hin, Nat.add_sub_cancel_left]

theorem putPart_eq_self_iff (hfits : start + w ≤ n) :
    putPart word start part = word ↔ word.extractLsb' start w = part := by
  constructor
  · intro heq
    have hpart := extractLsb'_putPart word part hfits
    rwa [heq] at hpart
  · exact fun hpart => (eq_putPart hpart fun _ _ _ => rfl).symm

/-! ## Flags -/

def withFlags (word mask : BitVec n) (on : Bool) : BitVec n :=
  if on then word ||| mask else word &&& ~~~mask

theorem getLsbD_withFlags (mask : BitVec n) (on : Bool) {bit : Nat} (hbit : bit < n) :
    (withFlags word mask on).getLsbD bit =
      if on then word.getLsbD bit || mask.getLsbD bit
      else word.getLsbD bit && !mask.getLsbD bit := by
  unfold withFlags
  cases on <;> simp only [if_true, Bool.false_eq_true, if_false, BitVec.getLsbD_or,
    BitVec.getLsbD_and, BitVec.getLsbD_not, decide_eq_true hbit, Bool.true_and]

/-- The flags of a part are put into the word with the part. -/
theorem withFlags_setWidth_shiftLeft (flag : BitVec w) (hfits : start + w ≤ n) (on : Bool) :
    withFlags word (flag.setWidth n <<< start) on =
      putPart word start (withFlags (word.extractLsb' start w) flag on) := by
  apply eq_putPart
  · apply BitVec.eq_of_getLsbD_eq
    intro bit hbit
    have hlt : start + bit < n := by omega
    rw [BitVec.getLsbD_extractLsb', getLsbD_withFlags _ _ _ hlt, getLsbD_setWidth_shiftLeft _ _ hlt,
      getLsbD_withFlags _ _ _ hbit, BitVec.getLsbD_extractLsb', Nat.add_sub_cancel_left]
    simp [hbit]
  · intro bit hbit hout
    rw [getLsbD_withFlags _ _ _ hbit, getLsbD_setWidth_shiftLeft _ _ hbit]
    by_cases hstart : start ≤ bit
    · have hle : w ≤ bit - start := by omega
      simp [BitVec.getLsbD_of_ge _ _ hle]
    · simp [hstart]

theorem withFlags_and_self (mask : BitVec n) (on : Bool) :
    withFlags word mask on &&& mask = if on then mask else 0#n := by
  apply BitVec.eq_of_getLsbD_eq
  intro bit hbit
  rw [BitVec.getLsbD_and, getLsbD_withFlags _ _ _ hbit]
  cases on with
  | true =>
    simp only [if_true]
    cases word.getLsbD bit <;> cases mask.getLsbD bit <;> rfl
  | false =>
    simp only [Bool.false_eq_true, if_false, BitVec.getLsbD_zero]
    cases word.getLsbD bit <;> cases mask.getLsbD bit <;> rfl

theorem withFlags_and_of_disjoint {mask other : BitVec n} (hdisjoint : mask &&& other = 0#n)
    (word : BitVec n) (on : Bool) : withFlags word mask on &&& other = word &&& other := by
  apply BitVec.eq_of_getLsbD_eq
  intro bit hbit
  have hnone := congrArg (fun bits : BitVec n => bits.getLsbD bit) hdisjoint
  simp only [BitVec.getLsbD_and, BitVec.getLsbD_zero] at hnone
  rw [BitVec.getLsbD_and, BitVec.getLsbD_and, getLsbD_withFlags _ _ _ hbit]
  cases hother : other.getLsbD bit with
  | false => rw [Bool.and_false, Bool.and_false]
  | true =>
    rw [hother, Bool.and_true] at hnone
    rw [hnone]
    cases on <;> simp

end MopServer.Foundation
