import Mathlib.Data.Int.Basic
import Mathlib.Data.UInt
import Mathlib.Tactic.Linarith

/-! # The purse of a player

Amounts are unsigned on the wire and in the purse, while `ModifyMoney` takes a
signed difference.  Callers that charge a player cast the unsigned amount to a
signed type and negate it.
-/

namespace MopServer

variable {amount : Nat} {money : UInt64} {d : Int}

/-- `MAX_MONEY_AMOUNT`. -/
def maxMoneyAmount : Nat := 9999999999

/-- `-intN(amount)`.  Negating the smallest value of the type overflows, which the
language leaves undefined. -/
def negSigned (bits amount : Nat) : Option Int :=
  let value := Int.bmod amount (2 ^ bits)
  if value = -2 ^ (bits - 1) then none else some (-value)

/-- `Player::HasEnoughMoney` on an unsigned amount. -/
def hasEnoughMoney (money amount : UInt64) : Bool := amount ≤ money

/-- `Player::ModifyMoney`: a debit stops at zero, a credit at the gold limit.  The
limit is an unsigned literal, so `MAX_MONEY_AMOUNT - d` wraps for a larger `d`. -/
def modifyMoney (money : UInt64) (d : Int) : UInt64 :=
  if d < 0 then
    if (-d).toNat < money.toNat then UInt64.ofNat (money.toNat + d).toNat else 0
  else if (money.toNat : Int) < (maxMoneyAmount - d) % 2 ^ 64 then
    UInt64.ofNat (money.toNat + d).toNat
  else UInt64.ofNat maxMoneyAmount

theorem negSigned_of_lt {bits : Nat} (hbits : 0 < bits) (hamount : amount < 2 ^ (bits - 1)) :
    negSigned bits amount = some (-(amount : Int)) := by
  obtain ⟨half, rfl⟩ : ∃ half, bits = half + 1 := ⟨bits - 1, by omega⟩
  have hhalf : (amount : Int) < 2 ^ half := by exact_mod_cast hamount
  have hvalue : Int.bmod amount (2 ^ (half + 1)) = amount := by
    apply Int.bmod_eq_of_le_mul_two <;> push_cast <;> rw [pow_succ] <;> omega
  have hne : (amount : Int) ≠ -2 ^ half := by omega
  unfold negSigned
  simp only [hvalue, Nat.add_sub_cancel, if_neg hne]

/-- The 32-bit negation is undefined on the amounts congruent to the sign bit. -/
theorem negSigned_32_eq_none_iff : negSigned 32 amount = none ↔ amount % 2 ^ 32 = 2 ^ 31 := by
  unfold negSigned
  simp only [ite_eq_left_iff, reduceCtorEq, imp_false, not_not]
  rw [Int.bmod_def]
  split <;> omega

/-- The only 64-bit amount whose negation is undefined. -/
theorem exists_negSigned_64 {amount : UInt64} (hamount : amount.toNat ≠ 2 ^ 63) :
    ∃ d, negSigned 64 amount.toNat = some d := by
  have hlt := amount.toNat_lt
  have hvalue : Int.bmod amount.toNat (2 ^ 64) ≠ -2 ^ (64 - 1) := by
    rw [Int.bmod_def]
    split <;> omega
  unfold negSigned
  simp only [if_neg hvalue]
  exact ⟨_, rfl⟩

/-- A debit the purse covers takes exactly the amount. -/
theorem toNat_modifyMoney_neg (hpos : 0 < amount) (hamount : amount ≤ money.toNat) :
    (modifyMoney money (-(amount : Int))).toNat = money.toNat - amount := by
  have hlt := money.toNat_lt
  have hneg : (-(amount : Int)) < 0 := by omega
  have hsum : ((money.toNat : Int) + -(amount : Int)).toNat = money.toNat - amount := by omega
  unfold modifyMoney
  rw [if_pos hneg, neg_neg, Int.toNat_natCast, hsum]
  split
  · rw [UInt64.toNat_ofNat', Nat.mod_eq_of_lt (by omega)]
  next hcovered =>
    have hempty : money.toNat - amount = 0 := by omega
    rw [hempty, UInt64.toNat_zero]

/-- A credit below the gold limit gives exactly the amount. -/
theorem toNat_modifyMoney_credit (hlimit : money.toNat + amount ≤ maxMoneyAmount) :
    (modifyMoney money amount).toNat = money.toNat + amount := by
  unfold maxMoneyAmount at hlimit
  have hroom : ((maxMoneyAmount : Int) - amount) % 2 ^ 64 = maxMoneyAmount - amount := by
    unfold maxMoneyAmount
    omega
  have hsum : ((money.toNat : Int) + amount).toNat = money.toNat + amount := by omega
  unfold modifyMoney
  rw [if_neg (by omega), hroom, hsum]
  split
  · rw [UInt64.toNat_ofNat', Nat.mod_eq_of_lt (by omega)]
  next hfull =>
    have hexact : money.toNat + amount = maxMoneyAmount := by
      unfold maxMoneyAmount at hfull ⊢
      omega
    rw [hexact]
    rfl

variable (hlimit : money.toNat ≤ maxMoneyAmount) (hamount : amount ≤ money.toNat)

include hlimit hamount in
/-- A debit a purse within the gold limit covers, possibly of nothing. -/
theorem toNat_modifyMoney_debit :
    (modifyMoney money (-(amount : Int))).toNat + amount = money.toNat := by
  rcases Nat.eq_zero_or_pos amount with rfl | hpos
  · have hcredit : (modifyMoney money ((0 : Nat) : Int)).toNat = money.toNat + 0 :=
      toNat_modifyMoney_credit hlimit
    simpa using hcredit
  · rw [toNat_modifyMoney_neg hpos hamount]
    omega

/-- A purse within the gold limit stays there unless the credit alone exceeds it. -/
theorem toNat_modifyMoney_le (hmoney : money.toNat ≤ maxMoneyAmount) (hd : d ≤ maxMoneyAmount) :
    (modifyMoney money d).toNat ≤ maxMoneyAmount := by
  unfold maxMoneyAmount at *
  unfold modifyMoney maxMoneyAmount
  split
  · split
    · rw [UInt64.toNat_ofNat']
      omega
    · simp
  · split
    · rw [UInt64.toNat_ofNat']
      omega
    · simp

theorem eq_neg_bmod_of_negSigned {bits : Nat} (hd : negSigned bits amount = some d) :
    d = -Int.bmod amount (2 ^ bits) := by
  unfold negSigned at hd
  simp only at hd
  split at hd
  · cases hd
  · exact (Option.some.inj hd).symm

/-- `-int32` of an amount lies in the range of its type. -/
theorem negSigned_32_le (hd : negSigned 32 amount = some d) : d ≤ 2 ^ 31 := by
  have hvalue := eq_neg_bmod_of_negSigned hd
  have hlow := Int.le_bmod (x := amount) (show 0 < 2 ^ 32 by decide)
  omega

/-- What a credit adds is cut off at the limit; it is never negative. -/
theorem toNat_modifyMoney_nonneg (hd : 0 ≤ d) (hsmall : d ≤ 2 ^ 31)
    (hlimit : money.toNat ≤ maxMoneyAmount) :
    ((modifyMoney money d).toNat : Int) = min (money.toNat + d) maxMoneyAmount := by
  unfold maxMoneyAmount at hlimit
  unfold modifyMoney maxMoneyAmount
  rw [if_neg (by omega)]
  split
  · rw [UInt64.toNat_ofNat']
    omega
  · rw [UInt64.toNat_ofNat']
    omega

include hlimit hamount in
/-- Charging an amount the purse covers through `-int32` takes exactly that amount if
and only if the amount is below the sign bit. -/
theorem modifyMoney_negSigned_32_exact_iff :
    (∃ d, negSigned 32 amount = some d ∧
        (modifyMoney money d).toNat + amount = money.toNat) ↔ amount < 2 ^ 31 := by
  constructor
  · rintro ⟨d, hd, hexact⟩
    by_contra hlarge
    have hvalue := eq_neg_bmod_of_negSigned hd
    have hupper := Int.bmod_lt (x := amount) (show 0 < 2 ^ 32 by decide)
    by_cases hneg : d < 0
    · -- A debit of the truncated amount, which is smaller.
      have hle : (-d).toNat ≤ money.toNat := by omega
      have hdebit := toNat_modifyMoney_debit hlimit hle
      have hcast : -(((-d).toNat : Nat) : Int) = d := by omega
      rw [hcast] at hdebit
      omega
    · -- A credit, possibly cut off at the limit.
      have hcredit := toNat_modifyMoney_nonneg (Int.not_lt.mp hneg) (negSigned_32_le hd) hlimit
      omega
  · intro hsmall
    exact ⟨_, negSigned_of_lt (by decide) hsmall, toNat_modifyMoney_debit hlimit hamount⟩

/-- A purse below the limit is left alone by such a charge only if there is nothing to pay. -/
theorem modifyMoney_negSigned_32_same_iff (hlimit : money.toNat < maxMoneyAmount)
    (hamount : amount ≤ money.toNat) (hbits : amount < 2 ^ 32) :
    (∃ d, negSigned 32 amount = some d ∧ (modifyMoney money d).toNat = money.toNat) ↔
      amount = 0 := by
  constructor
  · rintro ⟨d, hd, hsame⟩
    by_contra hpos
    have hvalue := eq_neg_bmod_of_negSigned hd
    have hnonzero : d ≠ 0 := by
      rw [hvalue, Int.bmod_def]
      split <;> omega
    by_cases hneg : d < 0
    · have hle : (-d).toNat ≤ amount := by
        rw [hvalue, Int.bmod_def]
        split <;> omega
      have hdebit := toNat_modifyMoney_debit (Nat.le_of_lt hlimit) (hle.trans hamount)
      have hcast : -(((-d).toNat : Nat) : Int) = d := by omega
      rw [hcast] at hdebit
      omega
    · have hcredit := toNat_modifyMoney_nonneg (Int.not_lt.mp hneg) (negSigned_32_le hd)
        (Nat.le_of_lt hlimit)
      omega
  · rintro rfl
    have hneg : negSigned 32 0 = some (-((0 : Nat) : Int)) :=
      negSigned_of_lt (by decide) (by decide)
    have hdebit := toNat_modifyMoney_debit (Nat.le_of_lt hlimit) (Nat.zero_le money.toNat)
    rw [Nat.add_zero] at hdebit
    exact ⟨_, hneg, hdebit⟩

include hlimit hamount in
/-- A full purse is left alone by a credit as well. -/
theorem modifyMoney_negSigned_32_eq_iff (hbits : amount < 2 ^ 32) :
    (∃ d, negSigned 32 amount = some d ∧ modifyMoney money d = money) ↔
      amount = 0 ∨ money.toNat = maxMoneyAmount ∧ 2 ^ 31 < amount := by
  simp only [← UInt64.toNat_inj]
  rcases Nat.lt_or_eq_of_le hlimit with hroom | hfull
  · rw [modifyMoney_negSigned_32_same_iff hroom hamount hbits]
    omega
  · constructor
    · rintro ⟨d, hd, hsame⟩
      by_cases hsmall : amount < 2 ^ 31
      · have hdebit := toNat_modifyMoney_debit hlimit hamount
        rw [negSigned_of_lt (by decide) hsmall, Option.some.injEq] at hd
        rw [hd] at hdebit
        omega
      · have hdefined : amount % 2 ^ 32 ≠ 2 ^ 31 := by
          rw [Ne, ← negSigned_32_eq_none_iff, hd]
          exact Option.some_ne_none d
        omega
    · rintro (rfl | ⟨-, hlarge⟩)
      · have hneg : negSigned 32 0 = some (-((0 : Nat) : Int)) :=
          negSigned_of_lt (by decide) (by decide)
        have hdebit := toNat_modifyMoney_debit hlimit (Nat.zero_le money.toNat)
        rw [Nat.add_zero] at hdebit
        exact ⟨_, hneg, hdebit⟩
      · have hdefined : negSigned 32 amount ≠ none := by
          rw [Ne, negSigned_32_eq_none_iff]
          omega
        obtain ⟨d, hd⟩ := Option.ne_none_iff_exists'.mp hdefined
        have hvalue := eq_neg_bmod_of_negSigned hd
        rw [Int.bmod_def] at hvalue
        have hnonneg : 0 ≤ d := by
          split at hvalue <;> omega
        have hcredit := toNat_modifyMoney_nonneg hnonneg (negSigned_32_le hd) hlimit
        exact ⟨d, hd, by omega⟩

example : modifyMoney 3000000000 ((negSigned 32 3000000000).getD 0) = 4294967296 := by decide

/-! ## Any change -/

/-- `ModifyMoney` of any signed amount; that of the smallest one cannot be negated. -/
def modifyMoney64 (money : UInt64) (d : Int64) : Option UInt64 :=
  if d = Int64.minValue then none else some (modifyMoney money d.toInt)

/-- A sum cut off at zero and at the gold limit. -/
def clampMoney (amount : Int) : Int := max 0 (min amount maxMoneyAmount)

/-- A debit stops at zero. -/
theorem toNat_modifyMoney_of_neg (hd : d < 0) (hlimit : money.toNat ≤ maxMoneyAmount) :
    ((modifyMoney money d).toNat : Int) = clampMoney (money.toNat + d) := by
  unfold maxMoneyAmount at hlimit
  unfold modifyMoney clampMoney maxMoneyAmount
  rw [if_pos hd]
  split
  next hcovered =>
    rw [UInt64.toNat_ofNat']
    omega
  next hempty =>
    rw [UInt64.toNat_zero]
    omega

/-- A credit up to the gold limit stops there. -/
theorem toNat_modifyMoney_of_le (hd : 0 ≤ d) (hsmall : d ≤ maxMoneyAmount)
    (hlimit : money.toNat ≤ maxMoneyAmount) :
    ((modifyMoney money d).toNat : Int) = clampMoney (money.toNat + d) := by
  unfold maxMoneyAmount at hlimit hsmall
  unfold modifyMoney clampMoney maxMoneyAmount
  rw [if_neg (Int.not_lt.mpr hd)]
  split
  · rw [UInt64.toNat_ofNat']
    omega
  · rw [UInt64.toNat_ofNat']
    omega

/-- A larger credit wraps the room that is left and is given in full. -/
theorem toNat_modifyMoney_of_lt (hlarge : maxMoneyAmount < d) (hd : d < 2 ^ 63)
    (hlimit : money.toNat ≤ maxMoneyAmount) :
    ((modifyMoney money d).toNat : Int) = money.toNat + d := by
  unfold maxMoneyAmount at hlimit hlarge
  have hroom : (money.toNat : Int) < (maxMoneyAmount - d) % 2 ^ 64 := by
    unfold maxMoneyAmount
    omega
  unfold modifyMoney
  rw [if_neg (by omega), if_pos hroom, UInt64.toNat_ofNat']
  omega

/-- A change is cut off at zero and at the gold limit if and only if it can be negated and is
no credit above the limit. -/
theorem modifyMoney64_clamps_iff {money : UInt64} (hlimit : money.toNat ≤ maxMoneyAmount)
    (d : Int64) :
    (∃ after, modifyMoney64 money d = some after ∧
        (after.toNat : Int) = clampMoney (money.toNat + d.toInt)) ↔
      d ≠ Int64.minValue ∧ d.toInt ≤ maxMoneyAmount := by
  have hupper := d.toInt_lt
  unfold modifyMoney64
  constructor
  · rintro ⟨after, hafter, hclamped⟩
    split at hafter
    · cases hafter
    next hne =>
      cases hafter
      refine ⟨hne, Int.not_lt.mp fun hlarge => ?_⟩
      have hfull := toNat_modifyMoney_of_lt hlarge hupper hlimit
      unfold clampMoney at hclamped
      omega
  · rintro ⟨hne, hsmall⟩
    rw [if_neg hne]
    refine ⟨_, rfl, ?_⟩
    by_cases hd : d.toInt < 0
    · exact toNat_modifyMoney_of_neg hd hlimit
    · exact toNat_modifyMoney_of_le (Int.not_lt.mp hd) hsmall hlimit

/-- An empty purse that is given one copper more than the gold limit holds all of it. -/
theorem not_modifyMoney64_clamps :
    ¬ ∀ money : UInt64, money.toNat ≤ maxMoneyAmount → ∀ d : Int64,
      ∃ after, modifyMoney64 money d = some after ∧
        (after.toNat : Int) = clampMoney (money.toNat + d.toInt) := by
  intro hall
  obtain ⟨after, hafter, hclamped⟩ := hall 0 (by decide) (Int64.ofInt 10000000000)
  have hgiven : modifyMoney64 0 (Int64.ofInt 10000000000) = some 10000000000 := by decide
  rw [hgiven, Option.some.injEq] at hafter
  subst hafter
  exact absurd hclamped (by decide)

/-- A purse of three coppers that pays five. -/
theorem modifyMoney64_clamps_empty :
    (∃ after, modifyMoney64 3 (Int64.ofInt (-5)) = some after ∧
        (after.toNat : Int) = clampMoney ((3 : UInt64).toNat + (Int64.ofInt (-5)).toInt)) ↔
      Int64.ofInt (-5) ≠ Int64.minValue ∧ (Int64.ofInt (-5)).toInt ≤ maxMoneyAmount :=
  modifyMoney64_clamps_iff (by decide) _

end MopServer
