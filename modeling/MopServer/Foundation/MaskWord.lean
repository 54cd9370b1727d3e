import Mathlib.Data.Nat.Bitwise
import Mathlib.Data.UInt
import Mathlib.Data.List.Basic

/-! # Words as masks

A mask of 32 bits holds a set of indices below 32, and a list of masks a set of indices below 32
times its length.
-/

namespace MopServer.Foundation

variable {index count : Nat} (mask : UInt32) (marked : Nat → Bool)

/-- `mask & (1 << index)`. -/
def isSet (mask : UInt32) (index : Nat) : Bool := mask &&& (1 <<< UInt32.ofNat index) ≠ 0

/-- The mask of the marked indices below a count, bit after bit. -/
def maskOf (count : Nat) (marked : Nat → Bool) : UInt32 :=
  (List.range count).foldl
    (fun mask index => if marked index then mask ||| (1 <<< UInt32.ofNat index) else mask) 0

def indices (mask : UInt32) : List Nat := (List.range 32).filter (isSet mask)

def indicesFrom : Nat → List UInt32 → List Nat
  | _, [] => []
  | start, mask :: rest => (indices mask).map (start + ·) ++ indicesFrom (start + 32) rest

theorem toNat_one_shiftLeft (hindex : index < 32) :
    ((1 : UInt32) <<< UInt32.ofNat index).toNat = 2 ^ index := by
  have hpow : 2 ^ index < 2 ^ 32 := Nat.pow_lt_pow_right (by decide) hindex
  have hmod : (UInt32.ofNat index).toNat % 32 = index := by
    rw [UInt32.toNat_ofNat']
    omega
  rw [UInt32.toNat_shiftLeft, hmod, Nat.shiftLeft_eq]
  exact (congrArg (· % 2 ^ 32) (Nat.one_mul _)).trans (Nat.mod_eq_of_lt hpow)

theorem isSet_eq_testBit (hindex : index < 32) : isSet mask index = mask.toNat.testBit index := by
  have hzero : mask &&& (1 <<< UInt32.ofNat index) = 0 ↔ mask.toNat.testBit index = false := by
    rw [← UInt32.toNat_inj, UInt32.toNat_and, toNat_one_shiftLeft hindex, Nat.and_two_pow]
    cases mask.toNat.testBit index <;> simp
  cases htest : mask.toNat.testBit index with
  | false => exact decide_eq_false (not_not.mpr (hzero.mpr htest))
  | true =>
    refine decide_eq_true fun hmask => ?_
    rw [hzero.mp hmask] at htest
    cases htest

theorem isSet_zero (hindex : index < 32) : isSet 0 index = false := by
  rw [isSet_eq_testBit 0 hindex]
  exact Nat.zero_testBit index

theorem isSet_land (first second : UInt32) (hindex : index < 32) :
    isSet (first &&& second) index = (isSet first index && isSet second index) := by
  rw [isSet_eq_testBit _ hindex, isSet_eq_testBit _ hindex, isSet_eq_testBit _ hindex,
    UInt32.toNat_and, Nat.testBit_and]

/-- A bit alone is seen through a mask as it is, or not at all. -/
theorem land_one_shiftLeft (hindex : index < 32) :
    mask &&& (1 <<< UInt32.ofNat index) =
      if isSet mask index then 1 <<< UInt32.ofNat index else 0 := by
  rw [isSet_eq_testBit mask hindex, ← UInt32.toNat_inj, UInt32.toNat_and,
    toNat_one_shiftLeft hindex, Nat.and_two_pow]
  cases mask.toNat.testBit index with
  | false => simp
  | true => simp [toNat_one_shiftLeft hindex]

/-- Two words with a part in common, and nothing beyond it, have this part as intersection. -/
theorem land_eq_of_land_not {first second part : UInt32} (hfirst : first &&& part = part)
    (hsecond : second &&& part = part) (hbeyond : first &&& (second &&& ~~~part) = 0) :
    first &&& second = part := by
  apply UInt32.toBitVec_inj.mp
  ext i hi
  have hfirst := congrArg (fun word : UInt32 => word.toBitVec[i]) hfirst
  have hsecond := congrArg (fun word : UInt32 => word.toBitVec[i]) hsecond
  have hbeyond := congrArg (fun word : UInt32 => word.toBitVec[i]) hbeyond
  simp only [UInt32.toBitVec_and, UInt32.toBitVec_not, BitVec.getElem_and, BitVec.getElem_not,
    UInt32.toBitVec_zero, BitVec.getElem_zero] at hfirst hsecond hbeyond ⊢
  grind

theorem isSet_lor (first second : UInt32) (hindex : index < 32) :
    isSet (first ||| second) index = (isSet first index || isSet second index) := by
  rw [isSet_eq_testBit _ hindex, isSet_eq_testBit _ hindex, isSet_eq_testBit _ hindex,
    UInt32.toNat_or, Nat.testBit_or]

/-- Setting one bit. -/
theorem isSet_or {other : Nat} (hindex : index < 32) (hother : other < 32) :
    isSet (mask ||| (1 <<< UInt32.ofNat other)) index =
      (isSet mask index || decide (other = index)) := by
  rw [isSet_eq_testBit _ hindex, isSet_eq_testBit _ hindex, UInt32.toNat_or,
    toNat_one_shiftLeft hother, Nat.testBit_or, Nat.testBit_two_pow]

theorem isSet_maskOf (hcount : count ≤ 32) (marked : Nat → Bool) (hindex : index < 32) :
    isSet (maskOf count marked) index = (decide (index < count) && marked index) := by
  unfold maskOf
  induction count with
  | zero => simp [isSet_zero hindex]
  | succ count ih =>
    rw [List.range_succ, List.foldl_append, List.foldl_cons, List.foldl_nil]
    have hlast : (index < count + 1) = (index < count ∨ count = index) := by
      rw [eq_comm (a := count)]
      exact propext Nat.lt_succ_iff_lt_or_eq
    split
    next hmarked =>
      rw [isSet_or _ hindex (by omega), ih (by omega)]
      by_cases hsame : count = index
      · subst hsame
        simp [hmarked]
      · simp [hlast, hsame]
    next hunmarked =>
      rw [ih (by omega)]
      by_cases hsame : count = index
      · subst hsame
        simp [hunmarked]
      · simp [hlast, hsame]

theorem maskOf_eq_zero_iff (hcount : count ≤ 32) (marked : Nat → Bool) :
    maskOf count marked = 0 ↔ ∀ index < count, marked index = false := by
  constructor
  · intro hzero index hindex
    have hset := isSet_maskOf hcount marked (lt_of_lt_of_le hindex hcount)
    rw [hzero, isSet_zero (lt_of_lt_of_le hindex hcount), decide_eq_true hindex,
      Bool.true_and] at hset
    exact hset.symm
  · intro hunmarked
    refine List.foldlRecOn (motive := fun mask => mask = 0) _ _ rfl
      fun mask hmask index hindex => ?_
    rw [hunmarked index (List.mem_range.mp hindex), if_neg Bool.false_ne_true, hmask]

theorem indices_maskOf (hcount : count ≤ 32) (marked : Nat → Bool) :
    indices (maskOf count marked) = (List.range count).filter marked := by
  obtain ⟨rest, hrest⟩ := Nat.exists_eq_add_of_le hcount
  have hlow : (List.range count).filter (isSet (maskOf count marked)) =
      (List.range count).filter marked := by
    refine List.filter_congr fun index hindex => ?_
    have hlt := List.mem_range.mp hindex
    rw [isSet_maskOf hcount marked (by omega), decide_eq_true hlt, Bool.true_and]
  have hhigh : ((List.range rest).map (count + ·)).filter (isSet (maskOf count marked)) = [] := by
    refine List.filter_eq_nil_iff.mpr fun index hindex => ?_
    obtain ⟨offset, hoffset, rfl⟩ := List.mem_map.mp hindex
    have hlt := List.mem_range.mp hoffset
    rw [isSet_maskOf hcount marked (by omega), decide_eq_false (by omega), Bool.false_and]
    exact Bool.false_ne_true
  unfold indices
  rw [hrest, List.range_add, List.filter_append, hlow, hhigh, List.append_nil]

theorem indicesFrom_masks_from (start blocks : Nat) :
    indicesFrom start ((List.range blocks).map fun block =>
        maskOf 32 fun index => marked (start + 32 * block + index)) =
      ((List.range (32 * blocks)).map (start + ·)).filter marked := by
  induction blocks generalizing start with
  | zero => rfl
  | succ blocks ih =>
    have hrest : ((List.range blocks).map fun block =>
        maskOf 32 fun index => marked (start + 32 * (block + 1) + index)) =
        (List.range blocks).map fun block =>
          maskOf 32 fun index => marked (start + 32 + 32 * block + index) := by
      refine List.map_congr_left fun block _ => ?_
      congr 1
      funext index
      congr 1
      omega
    have hsplit : List.range (32 * (blocks + 1)) =
        List.range 32 ++ (List.range (32 * blocks)).map (32 + ·) := by
      rw [← List.range_add]
      congr 1
      omega
    rw [List.range_succ_eq_map, List.map_cons, List.map_map]
    unfold indicesFrom
    rw [indices_maskOf le_rfl, hsplit, List.map_append, List.filter_append]
    congr 1
    · rw [List.filter_map]
      rfl
    · show indicesFrom (start + 32) ((List.range blocks).map fun block =>
        maskOf 32 fun index => marked (start + 32 * (block + 1) + index)) = _
      rw [hrest, ih, List.map_map]
      congr 2
      funext index
      exact Nat.add_assoc start 32 index

theorem indicesFrom_masks (blocks : Nat) :
    indicesFrom 0 ((List.range blocks).map fun block =>
        maskOf 32 fun index => marked (32 * block + index)) =
      (List.range (32 * blocks)).filter marked := by
  have hmasks := indicesFrom_masks_from marked 0 blocks
  simp only [Nat.zero_add, List.map_id'] at hmasks
  exact hmasks

theorem indicesFrom_singleton : indicesFrom 0 [mask] = indices mask := by
  unfold indicesFrom indicesFrom
  simp only [Nat.zero_add, List.map_id', List.append_nil]

end MopServer.Foundation
