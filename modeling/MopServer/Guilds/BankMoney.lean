import MopServer.Entities.Money
import MopServer.Guilds.Leadership

/-! # The money of a guild

Members pay gold into the guild bank and take gold out of it.  What a member may take in a day
is up to his rank; his allowance is renewed when he first asks for it after a day.
-/

namespace MopServer.Guilds

open MopServer.Foundation

def guildWithdrawMoneyUnlimited : UInt32 := 0xFFFFFFFF
def grRightWithdrawRepair : UInt32 := 0x40000
def grRightWithdrawGold : UInt32 := 0x80000

/-- A player and his purse. -/
structure Holder where
  player : Player
  money : UInt64

instance : Keyed Holder UInt32 := ⟨fun holder => guidLoPart holder.player.guid⟩

/-- A guild with its bank money, and the players who are its members. -/
structure Treasury where
  guild : Guild
  bankMoney : UInt64
  holders : Table Holder

/-! ## Allowances -/

/-- `GetBankMoneyPerDay`. -/
def RankInfo.getBankMoneyPerDay (info : RankInfo) : UInt32 :=
  if info.id = grGuildMaster.toNat then guildWithdrawMoneyUnlimited else info.bankMoneyPerDay

variable (guild : Guild)

/-- `_GetRankBankMoneyPerDay`. -/
def getRankBankMoneyPerDay (rankId : Nat) : UInt32 :=
  match guild.ranks.getRankInfo rankId with
  | some info => info.getBankMoneyPerDay
  | none => 0

namespace Member

variable (remaining : RemainingValue) (member : Member)

/-- The allowance for money is stored behind those for the tabs. -/
def moneyRemaining : RemainingValue := member.bankRemaining[guildBankMaxTabs]

def withMoneyRemaining (remaining : RemainingValue) : Member :=
  { member with bankRemaining := member.bankRemaining.set guildBankMaxTabs remaining }

@[simp] theorem moneyRemaining_withMoneyRemaining :
    (member.withMoneyRemaining remaining).moneyRemaining = remaining := by
  simp [moneyRemaining, withMoneyRemaining]

@[simp] theorem rankId_withMoneyRemaining :
    (member.withMoneyRemaining remaining).rankId = member.rankId := rfl

/-- More than 24 hours have passed since the allowance was renewed; times are in minutes. -/
def moneyDue (curTime : UInt32) : Bool :=
  member.moneyRemaining.resetTime + 1440 < curTime

def renews (curTime : UInt32) : Bool :=
  member.rankId ≠ grGuildMaster.toNat && member.moneyDue curTime

variable (guild : Guild)

/-- What `GetBankRemainingValue` does to a member who asks for money. -/
def renewMoney (curTime : UInt32) (member : Member) : Member :=
  if member.renews curTime then
    member.withMoneyRemaining ⟨getRankBankMoneyPerDay guild member.rankId, curTime⟩
  else member

/-- `GetBankRemainingValue` for money. -/
def getBankRemainingMoney (curTime : UInt32) (member : Member) : UInt32 :=
  if member.rankId = grGuildMaster.toNat then guildWithdrawMoneyUnlimited
  else (member.renewMoney guild curTime).moneyRemaining.value

/-- `DecreaseBankRemainingValue` for money. -/
def decreaseMoney (amount : UInt32) (member : Member) : Member :=
  member.withMoneyRemaining
    { member.moneyRemaining with value := member.moneyRemaining.value - amount }

theorem key_renewMoney (curTime : UInt32) (member : Member) :
    Keyed.key (member.renewMoney guild curTime) = Keyed.key member := by
  unfold renewMoney
  split <;> rfl

theorem key_decreaseMoney (amount : UInt32) (member : Member) :
    Keyed.key (member.decreaseMoney amount) = Keyed.key member := rfl

end Member

/-! ## Deposits and withdrawals -/

namespace Treasury

variable (treasury : Treasury) (low : UInt32)

/-- `_GetMemberRemainingMoney`, without the renewal. -/
def remainingMoney (curTime : UInt32) : UInt32 :=
  (treasury.guild.members.get? low).elim 0 (Member.getBankRemainingMoney treasury.guild curTime)

/-- The renewal of `_GetMemberRemainingMoney`. -/
def renew (curTime : UInt32) : Treasury :=
  { treasury with
    guild := { treasury.guild with
      members := treasury.guild.members.modify low
        (Member.renewMoney treasury.guild curTime) (Member.key_renewMoney _ _) } }

/-- `ModifyMoney` of a member. -/
def modifyHolder (d : Int) : Treasury :=
  { treasury with
    holders := treasury.holders.modify low
      fun holder => { holder with money := modifyMoney holder.money d } }

variable (amount : UInt64)

/-- `HandleMemberDepositMoney`; negating some amounts has no defined result. -/
def handleMemberDepositMoney : Option Treasury :=
  (negSigned 64 amount.toNat).map fun d =>
    ({ treasury with bankMoney := treasury.bankMoney + amount }).modifyHolder low d

/-- The amount of a withdrawal is clamped to `MAX_MONEY_AMOUNT`. -/
def clamped : UInt64 :=
  if amount.toNat ≤ maxMoneyAmount then amount else UInt64.ofNat maxMoneyAmount

variable (repair : Bool)

def payOut (remaining : UInt32) : Treasury :=
  let members :=
    if remaining < guildWithdrawMoneyUnlimited then
      treasury.guild.members.modify low (Member.decreaseMoney amount.toUInt32)
        (Member.key_decreaseMoney _)
    else treasury.guild.members
  let paid : Treasury :=
    { treasury with
      guild := { treasury.guild with members := members }
      bankMoney := treasury.bankMoney - amount }
  if repair then paid else paid.modifyHolder low amount.toNat

def admits : Bool :=
  amount ≤ treasury.bankMoney && (treasury.holders.get? low).any fun holder =>
    hasRankRight treasury.guild holder.player
      (if repair then grRightWithdrawRepair else grRightWithdrawGold)

/-- `HandleMemberWithdrawMoney`; the answer says whether the withdrawal is granted. -/
def handleMemberWithdrawMoney (curTime : UInt32) : Treasury × Bool :=
  if !treasury.admits low (clamped amount) repair then (treasury, false)
  else if treasury.remainingMoney low curTime = 0 then (treasury.renew low curTime, false)
  else if (treasury.remainingMoney low curTime).toUInt64 < clamped amount then
    (treasury.renew low curTime, false)
  else
    ((treasury.renew low curTime).payOut low (clamped amount) repair
      (treasury.remainingMoney low curTime), true)

def total : Nat :=
  treasury.bankMoney.toNat + treasury.holders.sum fun holder => holder.money.toNat

end Treasury

/-! ## Runs -/

/-- What members do with the bank money; a deposit is made only if the purse covers it. -/
inductive BankEvent where
  | deposit (low : UInt32) (amount : UInt64)
  | withdraw (low : UInt32) (amount : UInt64) (repair : Bool) (curTime : UInt32)

/-- A treasury, and what each member has taken since his allowance was renewed; no allowance
is known before the first renewal. -/
structure Ledger where
  treasury : Treasury
  spent : UInt32 → Nat
  allowance : UInt32 → Option UInt32

namespace Ledger

variable (ledger : Ledger) (low : UInt32)

def covers (amount : UInt64) : Bool :=
  (ledger.treasury.holders.get? low).any fun holder => hasEnoughMoney holder.money amount

def renews (ledger : Ledger) (low : UInt32) (amount : UInt64) (repair : Bool)
    (curTime : UInt32) : Bool :=
  ledger.treasury.admits low (Treasury.clamped amount) repair &&
    (ledger.treasury.guild.members.get? low).any fun member => member.renews curTime

def limit : UInt32 :=
  (ledger.treasury.guild.members.get? low).elim 0
    fun member => getRankBankMoneyPerDay ledger.treasury.guild member.rankId

def withdraw (amount : UInt64) (repair : Bool) (curTime : UInt32) : Ledger :=
  let result := ledger.treasury.handleMemberWithdrawMoney low amount repair curTime
  let before := if ledger.renews low amount repair curTime then 0 else ledger.spent low
  let taken := if result.2 then (Treasury.clamped amount).toNat else 0
  { treasury := result.1
    spent := Function.update ledger.spent low (before + taken)
    allowance :=
      if ledger.renews low amount repair curTime then
        Function.update ledger.allowance low (some (ledger.limit low))
      else ledger.allowance }

end Ledger

/-- The bank after an event; `none` stands for undefined behaviour. -/
def ledgerStep : Option Ledger → BankEvent → Option Ledger
  | none, _ => none
  | some ledger, .deposit low amount =>
    if ledger.covers low amount then
      (ledger.treasury.handleMemberDepositMoney low amount).map
        fun after => { ledger with treasury := after }
    else some ledger
  | some ledger, .withdraw low amount repair curTime =>
    some (ledger.withdraw low amount repair curTime)

/-- A member other than the guild master who has an allowance has not taken more than his
rank may take in a day, unless that is unlimited. -/
def Ledger.WithinAllowance (ledger : Ledger) : Prop :=
  ∀ low member, ledger.treasury.guild.members.get? low = some member →
    ∀ limit, ledger.allowance low = some limit → member.rankId ≠ grGuildMaster.toNat →
      limit = getRankBankMoneyPerDay ledger.treasury.guild member.rankId ∧
        (limit ≠ guildWithdrawMoneyUnlimited → ledger.spent low ≤ limit.toNat)

/-- The guild master, or a member whose rank may take any amount. -/
def Treasury.Unlimited (treasury : Treasury) (low : UInt32) : Prop :=
  ∃ member, treasury.guild.members.get? low = some member ∧
    (member.rankId = grGuildMaster.toNat ∨
      getRankBankMoneyPerDay treasury.guild member.rankId = guildWithdrawMoneyUnlimited)

/-- What the bank promises for an event: money is only moved, the bank money does not wrap,
nobody exceeds his allowance, and whoever may take any amount gets what the bank has. -/
def Honest : Option Ledger → BankEvent → Prop
  | none, _ => False
  | some ledger, .deposit low amount =>
    ledger.covers low amount = true →
      ∃ after, ledger.treasury.handleMemberDepositMoney low amount = some after ∧
        after.total = ledger.treasury.total ∧
        after.bankMoney.toNat = ledger.treasury.bankMoney.toNat + amount.toNat
  | some ledger, .withdraw low amount repair curTime =>
    let after := (ledger.treasury.handleMemberWithdrawMoney low amount repair curTime).1
    let granted := (ledger.treasury.handleMemberWithdrawMoney low amount repair curTime).2
    let taken := if granted then (Treasury.clamped amount).toNat else 0
    (after.total + (if repair then taken else 0) = ledger.treasury.total ∧
      after.bankMoney.toNat + taken = ledger.treasury.bankMoney.toNat) ∧
    (ledger.treasury.Unlimited low → amount ≤ ledger.treasury.bankMoney →
      amount.toNat ≤ maxMoneyAmount → (ledger.treasury.holders.get? low).isSome = true →
        granted = true) ∧
    (ledger.withdraw low amount repair curTime).WithinAllowance

/-- The member may still take the amount: the guild master what 32 bits can say, another member
his daily limit once a renewal is due, and what is stored until then, unless that is nothing. -/
def Member.Affords (amount : UInt64) (curTime : UInt32) (member : Member) : Prop :=
  if member.rankId = grGuildMaster.toNat then amount.toNat < 2 ^ 32
  else if member.moneyDue curTime then
    getRankBankMoneyPerDay guild member.rankId ≠ 0 ∧
      amount.toNat ≤ (getRankBankMoneyPerDay guild member.rankId).toNat
  else member.moneyRemaining.value ≠ 0 ∧ amount.toNat ≤ member.moneyRemaining.value.toNat

def Treasury.Affords (treasury : Treasury) (low : UInt32) (amount : UInt64) (curTime : UInt32) :
    Prop :=
  ∃ member, treasury.guild.members.get? low = some member ∧
    member.Affords treasury.guild amount curTime

/-- When the bank keeps its promises: a deposit does not take the bank money beyond 64 bits, a
withdrawal into a purse stays within the gold limit, and what somebody may take without a limit
is within the 32 bits of his allowance. -/
def Bounded : Option Ledger → BankEvent → Prop
  | none, _ => False
  | some ledger, .deposit low amount =>
    ledger.covers low amount = true →
      ledger.treasury.bankMoney.toNat + amount.toNat < 2 ^ 64
  | some ledger, .withdraw low amount repair curTime =>
    (repair = false → Treasury.clamped amount ≤ ledger.treasury.bankMoney →
      ledger.treasury.Affords low (Treasury.clamped amount) curTime →
        ∀ holder, ledger.treasury.holders.get? low = some holder →
          holder.money.toNat + (Treasury.clamped amount).toNat ≤ maxMoneyAmount) ∧
    (ledger.treasury.Unlimited low → amount ≤ ledger.treasury.bankMoney →
      amount.toNat ≤ maxMoneyAmount → (ledger.treasury.holders.get? low).isSome = true →
        ledger.treasury.Affords low amount curTime)

/-- What a member has taken and what he has left add up to his allowance. -/
def Member.Audited (spent : Nat) (allowance : Option UInt32) (member : Member) : Prop :=
  ∀ limit, allowance = some limit → member.rankId ≠ grGuildMaster.toNat →
    limit = getRankBankMoneyPerDay guild member.rankId ∧
      (limit ≠ guildWithdrawMoneyUnlimited →
        spent + member.moneyRemaining.value.toNat = limit.toNat)

/-- Purses are within the gold limit, and every member has been audited. -/
structure Ledger.Sound (ledger : Ledger) : Prop where
  purses : ∀ holder ∈ ledger.treasury.holders, holder.money.toNat ≤ maxMoneyAmount
  audited : ∀ low member, ledger.treasury.guild.members.get? low = some member →
    member.Audited ledger.treasury.guild (ledger.spent low) (ledger.allowance low)

theorem Ledger.Sound.withinAllowance {ledger : Ledger} (hsound : ledger.Sound) :
    ledger.WithinAllowance := by
  intro low member hmember limit hlimit hrank
  obtain ⟨hdaily, hsum⟩ := hsound.audited low member hmember limit hlimit hrank
  refine ⟨hdaily, fun hlimited => ?_⟩
  have := hsum hlimited
  omega

section

variable {ledger : Ledger} {treasury : Treasury} {low curTime : UInt32} {amount : UInt64}
  {repair : Bool} {holder : Holder}

theorem toNat_clamped (amount : UInt64) :
    (Treasury.clamped amount).toNat = min amount.toNat maxMoneyAmount := by
  unfold Treasury.clamped
  split
  next hle => rw [Nat.min_eq_left hle]
  next hgt =>
    rw [Nat.min_eq_right (by omega)]
    rfl

theorem clamped_of_le (hle : amount.toNat ≤ maxMoneyAmount) : Treasury.clamped amount = amount :=
  if_pos hle

/-- The rights to withdraw gold share no bit with the empty right, so that nobody is refused
for want of them. -/
theorem hasRankRight_withdraw (guild : Guild) (player : Player) (repair : Bool) :
    hasRankRight guild player (if repair then grRightWithdrawRepair else grRightWithdrawGold) =
      true := by
  unfold hasRankRight
  generalize getRankRights guild player.rank = rights
  rw [decide_eq_true_iff]
  intro hempty
  have hmask : rights &&& (if repair then grRightWithdrawRepair else grRightWithdrawGold) &&&
      grRightEmpty = grRightEmpty &&& grRightEmpty := congrArg (· &&& grRightEmpty) hempty
  rw [UInt32.and_assoc] at hmask
  have hnone : (if repair then grRightWithdrawRepair else grRightWithdrawGold) &&& grRightEmpty =
      0 := by
    cases repair <;> decide
  rw [hnone, UInt32.and_zero] at hmask
  exact absurd hmask (by decide)

theorem admits_iff : treasury.admits low amount repair = true ↔
    amount ≤ treasury.bankMoney ∧ (treasury.holders.get? low).isSome = true := by
  unfold Treasury.admits
  rw [Bool.and_eq_true, decide_eq_true_iff]
  refine and_congr_right fun _ => ?_
  cases treasury.holders.get? low with
  | none => simp
  | some holder => simp [hasRankRight_withdraw]

theorem holders_renew : (treasury.renew low curTime).holders = treasury.holders := rfl

/-- The checks of a withdrawal ask whether the member may still take the amount. -/
theorem affords_iff : treasury.Affords low amount curTime ↔
    treasury.remainingMoney low curTime ≠ 0 ∧
      amount ≤ (treasury.remainingMoney low curTime).toUInt64 := by
  unfold Treasury.Affords Treasury.remainingMoney
  rw [UInt64.le_iff_toNat_le, UInt32.toNat_toUInt64]
  cases hmember : treasury.guild.members.get? low with
  | none => simp
  | some member =>
    simp only [Option.some.injEq, exists_eq_left', Option.elim_some]
    unfold Member.Affords Member.getBankRemainingMoney Member.renewMoney Member.renews
    by_cases hmaster : member.rankId = grGuildMaster.toNat
    · rw [if_pos hmaster, if_pos hmaster]
      have hlast : guildWithdrawMoneyUnlimited.toNat = 2 ^ 32 - 1 := rfl
      rw [hlast]
      constructor
      · exact fun hlt => ⟨by decide, by omega⟩
      · rintro ⟨-, hle⟩
        omega
    · rw [if_neg hmaster, if_neg hmaster]
      cases hdue : member.moneyDue curTime with
      | true => simp [hmaster]
      | false => simp

/-- A withdrawal is refused, the allowance being renewed or not, or paid out. -/
theorem handleMemberWithdrawMoney_cases (treasury : Treasury) (low : UInt32) (amount : UInt64)
    (repair : Bool) (curTime : UInt32) :
    (treasury.admits low (Treasury.clamped amount) repair = false ∧
      treasury.handleMemberWithdrawMoney low amount repair curTime = (treasury, false)) ∨
    (treasury.admits low (Treasury.clamped amount) repair = true ∧
      ¬ treasury.Affords low (Treasury.clamped amount) curTime ∧
      treasury.handleMemberWithdrawMoney low amount repair curTime =
        (treasury.renew low curTime, false)) ∨
    (treasury.admits low (Treasury.clamped amount) repair = true ∧
      treasury.Affords low (Treasury.clamped amount) curTime ∧
      treasury.handleMemberWithdrawMoney low amount repair curTime =
        ((treasury.renew low curTime).payOut low (Treasury.clamped amount) repair
          (treasury.remainingMoney low curTime), true)) := by
  rw [affords_iff]
  unfold Treasury.handleMemberWithdrawMoney
  cases hadmits : treasury.admits low (Treasury.clamped amount) repair with
  | false => exact Or.inl ⟨rfl, rfl⟩
  | true =>
    rw [Bool.not_true, if_neg Bool.false_ne_true]
    split
    next hzero => exact Or.inr (Or.inl ⟨rfl, fun hafford => hafford.1 hzero, rfl⟩)
    next hleft =>
    split
    next hless =>
      exact Or.inr (Or.inl ⟨rfl, fun hafford => absurd hless (UInt64.not_lt.mpr hafford.2), rfl⟩)
    next henough => exact Or.inr (Or.inr ⟨rfl, ⟨hleft, UInt64.not_lt.mp henough⟩, rfl⟩)

/-! ## What a withdrawal does to a member -/

variable (remaining : UInt32)

theorem get?_renew (treasury : Treasury) (low key curTime : UInt32) :
    (treasury.renew low curTime).guild.members.get? key =
      if key = low then
        (treasury.guild.members.get? low).map (Member.renewMoney treasury.guild curTime)
      else treasury.guild.members.get? key :=
  Table.get?_modify _ _ _ _ (Member.key_renewMoney _ _)

theorem get?_payOut (treasury : Treasury) (low key : UInt32) (amount : UInt64) (repair : Bool) :
    (treasury.payOut low amount repair remaining).guild.members.get? key =
      if key = low ∧ remaining < guildWithdrawMoneyUnlimited then
        (treasury.guild.members.get? low).map (Member.decreaseMoney amount.toUInt32)
      else treasury.guild.members.get? key := by
  have hguild : (treasury.payOut low amount repair remaining).guild.members =
      if remaining < guildWithdrawMoneyUnlimited then
        treasury.guild.members.modify low (Member.decreaseMoney amount.toUInt32)
          (Member.key_decreaseMoney _)
      else treasury.guild.members := by
    cases repair <;> rfl
  rw [hguild]
  by_cases hlimited : remaining < guildWithdrawMoneyUnlimited
  · rw [if_pos hlimited, Table.get?_modify]
    simp only [hlimited, and_true]
  · rw [if_neg hlimited, if_neg fun hboth => hlimited hboth.2]

theorem ranks_payOut (treasury : Treasury) (low : UInt32) (amount : UInt64) (repair : Bool) :
    (treasury.payOut low amount repair remaining).guild.ranks = treasury.guild.ranks := by
  cases repair <;> rfl

/-- The daily limits depend on the ranks only. -/
theorem getRankBankMoneyPerDay_congr {guild other : Guild} (hranks : other.ranks = guild.ranks)
    (rankId : Nat) : getRankBankMoneyPerDay other rankId = getRankBankMoneyPerDay guild rankId := by
  unfold getRankBankMoneyPerDay
  rw [hranks]

namespace Member

variable {guild : Guild} {spent : Nat} {allowance : Option UInt32} {member : Member}

@[simp] theorem rankId_decreaseMoney (amount : UInt32) (member : Member) :
    (member.decreaseMoney amount).rankId = member.rankId := rfl

@[simp] theorem rankId_renewMoney (guild : Guild) (curTime : UInt32) (member : Member) :
    (member.renewMoney guild curTime).rankId = member.rankId := by
  unfold renewMoney
  split <;> rfl

variable (haudited : member.Audited guild spent allowance)

include haudited in
theorem Audited.congr {other : Guild} (hranks : other.ranks = guild.ranks) :
    member.Audited other spent allowance := by
  intro limit hlimit hrank
  rw [getRankBankMoneyPerDay_congr hranks]
  exact haudited limit hlimit hrank

include haudited in
/-- A renewal opens a new account over the whole daily limit. -/
theorem Audited.renewMoney (curTime : UInt32) :
    (member.renewMoney guild curTime).Audited guild
      (if member.renews curTime then 0 else spent)
      (if member.renews curTime then some (getRankBankMoneyPerDay guild member.rankId)
        else allowance) := by
  intro limit hlimit hrank
  rw [rankId_renewMoney] at hrank ⊢
  unfold Member.renewMoney
  cases hrenews : member.renews curTime with
  | true =>
    rw [hrenews, if_pos rfl, Option.some.injEq] at hlimit
    refine ⟨hlimit.symm, fun _ => ?_⟩
    simp [← hlimit]
  | false =>
    rw [hrenews, if_neg Bool.false_ne_true] at hlimit
    exact haudited limit hlimit hrank

include haudited in
/-- A payment is booked against what is left, if that is limited. -/
theorem Audited.pay {amount : UInt64} (hamount : member.rankId ≠ grGuildMaster.toNat →
      amount.toNat ≤ member.moneyRemaining.value.toNat) :
    (if member.moneyRemaining.value < guildWithdrawMoneyUnlimited then
      member.decreaseMoney amount.toUInt32 else member).Audited guild
        (spent + amount.toNat) allowance := by
  have hrankId : (if member.moneyRemaining.value < guildWithdrawMoneyUnlimited then
      member.decreaseMoney amount.toUInt32 else member).rankId = member.rankId := by
    split <;> rfl
  intro limit hlimit hrank
  rw [hrankId] at hrank ⊢
  obtain ⟨hdaily, hsum⟩ := haudited limit hlimit hrank
  refine ⟨hdaily, fun hlimited => ?_⟩
  have hbalance := hsum hlimited
  have hvalue := member.moneyRemaining.value.toNat_lt
  have hlast : limit.toNat < guildWithdrawMoneyUnlimited.toNat := by
    refine lt_of_le_of_ne (Nat.le_of_lt_succ limit.toNat_lt) fun heq => ?_
    exact hlimited (UInt32.toNat_inj.mp heq)
  have hless : member.moneyRemaining.value < guildWithdrawMoneyUnlimited :=
    UInt32.lt_iff_toNat_lt.mpr (by omega)
  have hexact : (member.moneyRemaining.value - amount.toUInt32).toNat =
      member.moneyRemaining.value.toNat - amount.toNat := by
    have hnarrow : amount.toUInt32.toNat = amount.toNat :=
      (UInt64.toNat_toUInt32 _).trans (Nat.mod_eq_of_lt (by omega))
    rw [UInt32.toNat_sub_of_le _ _ (UInt32.le_iff_toNat_le.mpr (by omega)), hnarrow]
  rw [if_pos hless]
  unfold decreaseMoney
  rw [moneyRemaining_withMoneyRemaining]
  show spent + amount.toNat + (member.moneyRemaining.value - amount.toUInt32).toNat = limit.toNat
  omega

end Member

/-! ## What is promised, and when -/

variable {member : Member} (state : Option Ledger)

theorem remainingMoney_of_ne (curTime : UInt32)
    (hmember : treasury.guild.members.get? low = some member)
    (hrank : member.rankId ≠ grGuildMaster.toNat) :
    treasury.remainingMoney low curTime =
      (member.renewMoney treasury.guild curTime).moneyRemaining.value := by
  unfold Treasury.remainingMoney Member.getBankRemainingMoney
  rw [hmember, Option.elim_some, if_neg hrank]

theorem renews_of_admits
    (hadmits : ledger.treasury.admits low (Treasury.clamped amount) repair = true)
    (hmember : ledger.treasury.guild.members.get? low = some member) :
    ledger.renews low amount repair curTime = member.renews curTime := by
  unfold Ledger.renews
  rw [hadmits, hmember, Bool.true_and, Option.any_some]

theorem treasury_withdraw : (ledger.withdraw low amount repair curTime).treasury =
    (ledger.treasury.handleMemberWithdrawMoney low amount repair curTime).1 := rfl

/-- Only the member who asks for money is touched. -/
theorem withdraw_of_ne (ledger : Ledger) (amount : UInt64) (repair : Bool) (curTime : UInt32)
    {key : UInt32} (hne : key ≠ low) :
    (ledger.withdraw low amount repair curTime).treasury.guild.members.get? key =
        ledger.treasury.guild.members.get? key ∧
      (ledger.withdraw low amount repair curTime).spent key = ledger.spent key ∧
      (ledger.withdraw low amount repair curTime).allowance key = ledger.allowance key := by
  unfold Ledger.withdraw
  refine ⟨?_, Function.update_of_ne hne _ _, ?_⟩
  · rcases handleMemberWithdrawMoney_cases ledger.treasury low amount repair curTime with
      ⟨-, heq⟩ | ⟨-, -, heq⟩ | ⟨-, -, heq⟩
    · rw [heq]
    · rw [heq, get?_renew, if_neg hne]
    · rw [heq, get?_payOut, if_neg fun hboth => hne hboth.1, get?_renew, if_neg hne]
  · dsimp only
    split
    · exact Function.update_of_ne hne _ _
    · rfl

theorem allowance_withdraw_self (hmember : ledger.treasury.guild.members.get? low = some member) :
    (ledger.withdraw low amount repair curTime).allowance low =
      if ledger.renews low amount repair curTime then
        some (getRankBankMoneyPerDay ledger.treasury.guild member.rankId)
      else ledger.allowance low := by
  unfold Ledger.withdraw
  dsimp only
  split
  · rw [Function.update_self, Ledger.limit, hmember, Option.elim_some]
  · rfl

theorem spent_withdraw_self :
    (ledger.withdraw low amount repair curTime).spent low =
      (if ledger.renews low amount repair curTime then 0 else ledger.spent low) +
        if (ledger.treasury.handleMemberWithdrawMoney low amount repair curTime).2 then
          (Treasury.clamped amount).toNat else 0 :=
  Function.update_self _ _ _

theorem ranks_withdraw :
    (ledger.withdraw low amount repair curTime).treasury.guild.ranks =
      ledger.treasury.guild.ranks := by
  show (ledger.treasury.handleMemberWithdrawMoney low amount repair curTime).1.guild.ranks = _
  rcases handleMemberWithdrawMoney_cases ledger.treasury low amount repair curTime with
    ⟨-, heq⟩ | ⟨-, -, heq⟩ | ⟨-, -, heq⟩
  · rw [heq]
  · rw [heq]
    rfl
  · rw [heq, ranks_payOut]
    rfl

/-- The record of a withdrawal is right whatever its outcome. -/
theorem Ledger.Sound.audited_withdraw (hsound : ledger.Sound) (key : UInt32) (after : Member)
    (hafter : (ledger.withdraw low amount repair curTime).treasury.guild.members.get? key =
      some after) :
    after.Audited ledger.treasury.guild
      ((ledger.withdraw low amount repair curTime).spent key)
      ((ledger.withdraw low amount repair curTime).allowance key) := by
  by_cases hkey : key = low
  swap
  · obtain ⟨hmembers, hspent, hallowance⟩ := withdraw_of_ne ledger amount repair curTime hkey
    rw [hmembers] at hafter
    rw [hspent, hallowance]
    exact hsound.audited key after hafter
  subst hkey
  cases hmember : ledger.treasury.guild.members.get? key with
  | none =>
    rw [treasury_withdraw] at hafter
    rcases handleMemberWithdrawMoney_cases ledger.treasury key amount repair curTime with
      ⟨-, heq⟩ | ⟨-, -, heq⟩ | ⟨-, ⟨member, hget, -⟩, -⟩
    · rw [heq, hmember] at hafter
      cases hafter
    · rw [heq, get?_renew, if_pos rfl, hmember] at hafter
      cases hafter
    · rw [hmember] at hget
      cases hget
  | some member =>
    have hbefore := hsound.audited key member hmember
    rw [allowance_withdraw_self hmember, spent_withdraw_self]
    rw [treasury_withdraw] at hafter
    rcases handleMemberWithdrawMoney_cases ledger.treasury key amount repair curTime with
      ⟨hadmits, heq⟩ | ⟨hadmits, -, heq⟩ | ⟨hadmits, hafford, heq⟩
    · have hrenews : ledger.renews key amount repair curTime = false := by
        unfold Ledger.renews
        rw [hadmits, Bool.false_and]
      rw [heq, hmember, Option.some.injEq] at hafter
      rw [hrenews, heq, ← hafter]
      simpa using hbefore
    · rw [heq, get?_renew, if_pos rfl, hmember, Option.map_some, Option.some.injEq] at hafter
      rw [renews_of_admits hadmits hmember, heq, ← hafter, if_neg Bool.false_ne_true, Nat.add_zero]
      exact hbefore.renewMoney curTime
    · rw [heq, get?_payOut, get?_renew, if_pos rfl, hmember, Option.map_some] at hafter
      rw [renews_of_admits hadmits hmember, heq, if_pos rfl]
      have hrenewed := hbefore.renewMoney curTime
      by_cases hmaster : member.rankId = grGuildMaster.toNat
      · have hrank : after.rankId = grGuildMaster.toNat := by
          split at hafter <;> cases hafter <;> simp [hmaster]
        exact fun limit _ hother => absurd hrank hother
      · have hleft := remainingMoney_of_ne curTime hmember hmaster
        have hcovered := (affords_iff.mp hafford).2
        rw [hleft] at hcovered hafter
        rw [UInt64.le_iff_toNat_le, UInt32.toNat_toUInt64] at hcovered
        have hpaid := hrenewed.pay fun _ => hcovered
        have hsame : after =
            if (member.renewMoney ledger.treasury.guild curTime).moneyRemaining.value <
              guildWithdrawMoneyUnlimited then
            (member.renewMoney ledger.treasury.guild curTime).decreaseMoney
              (Treasury.clamped amount).toUInt32
            else member.renewMoney ledger.treasury.guild curTime := by
          split at hafter
          next hless =>
            rw [if_pos hless.2]
            exact (Option.some.inj hafter).symm
          next hmany =>
            rw [if_neg fun hless => hmany ⟨rfl, hless⟩]
            exact (Option.some.inj hafter).symm
        rw [hsame]
        exact hpaid

theorem bankMoney_payOut (treasury : Treasury) (low : UInt32) (amount : UInt64) (repair : Bool) :
    (treasury.payOut low amount repair remaining).bankMoney = treasury.bankMoney - amount := by
  cases repair <;> rfl

theorem holders_payOut (treasury : Treasury) (low : UInt32) (amount : UInt64) (repair : Bool) :
    (treasury.payOut low amount repair remaining).holders =
      if repair then treasury.holders
      else (treasury.modifyHolder low amount.toNat).holders := by
  cases repair <;> rfl

/-- What a purse holds more or less, all purses together do. -/
theorem sum_modifyHolder (treasury : Treasury)
    (hholder : treasury.holders.get? low = some holder) (d : Int) :
    (treasury.modifyHolder low d).holders.sum (fun holder => holder.money.toNat) +
        holder.money.toNat =
      treasury.holders.sum (fun holder => holder.money.toNat) +
        (modifyMoney holder.money d).toNat := by
  obtain ⟨hmem, hkey⟩ := Table.get?_eq_some_iff.mp hholder
  rw [← hkey]
  exact Table.sum_modify hmem (fun holder => { holder with money := modifyMoney holder.money d })
    (fun _ => rfl) _

theorem mem_modifyHolder {d : Int} (hholder : holder ∈ (treasury.modifyHolder low d).holders) :
    ∃ old ∈ treasury.holders, holder.money = old.money ∨
      holder.money = modifyMoney old.money d := by
  obtain ⟨old, hold, heq⟩ := (Table.mem_modify (f := fun holder : Holder =>
    { holder with money := modifyMoney holder.money d }) fun _ => rfl).mp hholder
  refine ⟨old, hold, ?_⟩
  split at heq
  · exact Or.inr (congrArg Holder.money heq.symm)
  · exact Or.inl (congrArg Holder.money heq.symm)

/-- Purses stay within the gold limit unless a credit alone exceeds it. -/
theorem purses_modifyHolder {d : Int} (hd : d ≤ maxMoneyAmount)
    (hpurses : ∀ holder ∈ treasury.holders, holder.money.toNat ≤ maxMoneyAmount) :
    ∀ holder ∈ (treasury.modifyHolder low d).holders,
      holder.money.toNat ≤ maxMoneyAmount := by
  intro holder hholder
  obtain ⟨old, hold, heq | heq⟩ := mem_modifyHolder hholder
  · rw [heq]
    exact hpurses old hold
  · rw [heq]
    exact toNat_modifyMoney_le (hpurses old hold) hd

theorem clamped_le (amount : UInt64) : (Treasury.clamped amount).toNat ≤ maxMoneyAmount := by
  rw [toNat_clamped]
  exact Nat.min_le_right _ _

theorem Ledger.Sound.withdraw (hsound : ledger.Sound) (low : UInt32) (amount : UInt64)
    (repair : Bool) (curTime : UInt32) :
    (ledger.withdraw low amount repair curTime).Sound where
  purses := by
    rw [treasury_withdraw]
    rcases handleMemberWithdrawMoney_cases ledger.treasury low amount repair curTime with
      ⟨-, heq⟩ | ⟨-, -, heq⟩ | ⟨-, -, heq⟩
    · rw [heq]
      exact hsound.purses
    · rw [heq]
      exact hsound.purses
    · rw [heq, holders_payOut]
      split
      · exact hsound.purses
      · exact purses_modifyHolder (by exact_mod_cast clamped_le amount) hsound.purses
  audited := fun key member hmember =>
    (hsound.audited_withdraw key member hmember).congr ranks_withdraw

/-- A withdrawal moves money correctly unless the purse has no room for what it is given. -/
theorem withdraw_exact_iff (hsound : ledger.Sound) (low : UInt32) (amount : UInt64)
    (repair : Bool) (curTime : UInt32) :
    ((ledger.treasury.handleMemberWithdrawMoney low amount repair curTime).1.total +
          (if repair then
            if (ledger.treasury.handleMemberWithdrawMoney low amount repair curTime).2 then
              (Treasury.clamped amount).toNat else 0
          else 0) = ledger.treasury.total ∧
        (ledger.treasury.handleMemberWithdrawMoney low amount repair curTime).1.bankMoney.toNat +
          (if (ledger.treasury.handleMemberWithdrawMoney low amount repair curTime).2 then
              (Treasury.clamped amount).toNat else 0) = ledger.treasury.bankMoney.toNat) ↔
      (repair = false → Treasury.clamped amount ≤ ledger.treasury.bankMoney →
        ledger.treasury.Affords low (Treasury.clamped amount) curTime →
          ∀ holder, ledger.treasury.holders.get? low = some holder →
            holder.money.toNat + (Treasury.clamped amount).toNat ≤ maxMoneyAmount) := by
  rcases handleMemberWithdrawMoney_cases ledger.treasury low amount repair curTime with
    ⟨hadmits, heq⟩ | ⟨-, hafford, heq⟩ | ⟨hadmits, hafford, heq⟩
  · rw [heq]
    refine iff_of_true (by simp) fun _ hbank _ holder hholder => ?_
    rw [admits_iff.mpr ⟨hbank, by rw [hholder]; rfl⟩] at hadmits
    cases hadmits
  · rw [heq]
    exact iff_of_true (by simp [Treasury.total, Treasury.renew])
      fun _ _ hother => absurd hother hafford
  · obtain ⟨hbank, hsome⟩ := admits_iff.mp hadmits
    obtain ⟨holder, hholder⟩ := Option.isSome_iff_exists.mp hsome
    have hleft : (ledger.treasury.bankMoney - Treasury.clamped amount).toNat +
        (Treasury.clamped amount).toNat = ledger.treasury.bankMoney.toNat := by
      rw [UInt64.toNat_sub_of_le _ _ hbank]
      exact Nat.sub_add_cancel (UInt64.le_iff_toNat_le.mp hbank)
    rw [heq]
    rw [if_pos rfl, bankMoney_payOut, Treasury.total, bankMoney_payOut, holders_payOut,
      holders_renew]
    have hbankSame : (ledger.treasury.renew low curTime).bankMoney =
      ledger.treasury.bankMoney := rfl
    rw [hbankSame]
    cases repair with
    | true =>
      refine iff_of_true ⟨?_, hleft⟩ fun hrepair => by cases hrepair
      simp only [if_true, Treasury.total]
      omega
    | false =>
      have hmoney := hsound.purses holder (Table.get?_eq_some_iff.mp hholder).1
      have hcredit := toNat_modifyMoney_le (d := ((Treasury.clamped amount).toNat : Int)) hmoney
        (by exact_mod_cast clamped_le amount)
      have hsum := sum_modifyHolder (ledger.treasury.renew low curTime) hholder
        ((Treasury.clamped amount).toNat : Int)
      rw [holders_renew] at hsum
      simp only [Bool.false_eq_true, if_false, Treasury.total, forall_const, hleft, and_true]
      constructor
      · intro hkept _ _ other hother
        rw [hholder, Option.some.injEq] at hother
        rw [← hother]
        omega
      · intro hroom
        have hexact := toNat_modifyMoney_credit (hroom hbank hafford holder hholder)
        omega

/-- Whoever may take any amount gets it, if the amount is within what is left to him. -/
theorem granted_iff (ledger : Ledger) (low : UInt32) (amount : UInt64) (repair : Bool)
    (curTime : UInt32) :
    (ledger.treasury.Unlimited low → amount ≤ ledger.treasury.bankMoney →
        amount.toNat ≤ maxMoneyAmount → (ledger.treasury.holders.get? low).isSome = true →
          (ledger.treasury.handleMemberWithdrawMoney low amount repair curTime).2 = true) ↔
      (ledger.treasury.Unlimited low → amount ≤ ledger.treasury.bankMoney →
        amount.toNat ≤ maxMoneyAmount → (ledger.treasury.holders.get? low).isSome = true →
          ledger.treasury.Affords low amount curTime) := by
  refine imp_congr_right fun _ => imp_congr_right fun hbank => imp_congr_right fun hlimit =>
    imp_congr_right fun hholder => ?_
  have hsame := clamped_of_le hlimit
  rcases handleMemberWithdrawMoney_cases ledger.treasury low amount repair curTime with
    ⟨hadmits, -⟩ | ⟨-, hafford, heq⟩ | ⟨-, hafford, heq⟩
  · rw [hsame, admits_iff.mpr ⟨hbank, hholder⟩] at hadmits
    cases hadmits
  · rw [hsame] at hafford
    rw [heq]
    exact iff_of_false Bool.false_ne_true hafford
  · rw [hsame] at hafford
    rw [heq]
    exact iff_of_true rfl hafford

theorem deposit_spec (hsound : ledger.Sound) (hcovers : ledger.covers low amount = true) :
    ∃ after, ledger.treasury.handleMemberDepositMoney low amount = some after ∧
      (∀ holder ∈ after.holders, holder.money.toNat ≤ maxMoneyAmount) ∧
      after.guild = ledger.treasury.guild ∧
      ((after.total = ledger.treasury.total ∧
          after.bankMoney.toNat = ledger.treasury.bankMoney.toNat + amount.toNat) ↔
        ledger.treasury.bankMoney.toNat + amount.toNat < 2 ^ 64) := by
  unfold Ledger.covers at hcovers
  rw [Option.any_eq_true] at hcovers
  obtain ⟨holder, hholder, henough⟩ := hcovers
  have hmoney := hsound.purses holder (Table.get?_eq_some_iff.mp hholder).1
  have hamount : amount.toNat ≤ holder.money.toNat :=
    UInt64.le_iff_toNat_le.mp (of_decide_eq_true henough)
  have hneg : negSigned 64 amount.toNat = some (-(amount.toNat : Int)) := by
    refine negSigned_of_lt (by decide) ?_
    unfold maxMoneyAmount at hmoney
    omega
  unfold Treasury.handleMemberDepositMoney
  rw [hneg, Option.map_some]
  refine ⟨_, rfl, ?_, rfl, ?_⟩
  · exact purses_modifyHolder (by unfold maxMoneyAmount; omega) hsound.purses
  · have hdebit := toNat_modifyMoney_debit hmoney hamount
    have hsum := sum_modifyHolder
      { ledger.treasury with bankMoney := ledger.treasury.bankMoney + amount } hholder
      (-(amount.toNat : Int))
    have hbank : (ledger.treasury.bankMoney + amount).toNat =
        (ledger.treasury.bankMoney.toNat + amount.toNat) % 2 ^ 64 := UInt64.toNat_add _ _
    simp only [Treasury.total, Treasury.modifyHolder] at hsum ⊢
    rw [hbank]
    constructor
    · rintro ⟨-, hexact⟩
      rw [← hexact]
      exact Nat.mod_lt _ (by decide)
    · intro hroom
      rw [Nat.mod_eq_of_lt hroom]
      exact ⟨by omega, rfl⟩

/-- Sound books are kept; no covered deposit is undefined. -/
def Kept (state : Option Ledger) : Prop := ∃ ledger, state = some ledger ∧ ledger.Sound

variable (event : BankEvent)

theorem kept_ledgerStep (hkept : Kept state) : Kept (ledgerStep state event) := by
  obtain ⟨ledger, rfl, hsound⟩ := hkept
  cases event with
  | deposit low amount =>
    by_cases hcovers : ledger.covers low amount = true
    · obtain ⟨after, heq, hpurses, hguild, -⟩ := deposit_spec hsound hcovers
      refine ⟨{ ledger with treasury := after }, ?_, hpurses, fun key member hmember => ?_⟩
      · rw [ledgerStep, if_pos hcovers, heq, Option.map_some]
      · rw [hguild] at hmember
        exact (hsound.audited key member hmember).congr (congrArg Guild.ranks hguild)
    · exact ⟨ledger, by rw [ledgerStep, if_neg hcovers], hsound⟩
  | withdraw low amount repair curTime =>
    exact ⟨_, rfl, hsound.withdraw low amount repair curTime⟩

theorem honest_iff_bounded (hkept : Kept state) : Honest state event ↔ Bounded state event := by
  obtain ⟨ledger, rfl, hsound⟩ := hkept
  cases event with
  | deposit low amount =>
    refine imp_congr_right fun hcovers => ?_
    obtain ⟨after, heq, -, -, hiff⟩ := deposit_spec hsound hcovers
    rw [heq]
    simpa only [Option.some.injEq, exists_eq_left'] using hiff
  | withdraw low amount repair curTime =>
    have hwithin := (hsound.withdraw low amount repair curTime).withinAllowance
    have hexact := withdraw_exact_iff hsound low amount repair curTime
    have hgranted := granted_iff ledger low amount repair curTime
    exact and_congr hexact ((and_iff_left hwithin).trans hgranted)

/-- The bank keeps its promises along exactly the runs in which the bank money and the purses have
room, and nobody with an unlimited allowance asks for more than what 32 bits, or what is stored of
an earlier allowance, can say. -/
theorem bankMoney_honest_iff (ledger : Ledger) (events : List BankEvent)
    (hpurses : ∀ holder ∈ ledger.treasury.holders, holder.money.toNat ≤ maxMoneyAmount)
    (hopen : ledger.allowance = fun _ => none) :
    Along ledgerStep Honest (some ledger) events ↔
      Along ledgerStep Bounded (some ledger) events := by
  refine along_iff_of_invariant ledgerStep Kept (fun state event hkept _ =>
    kept_ledgerStep state event hkept) honest_iff_bounded (some ledger) events
      ⟨ledger, rfl, hpurses, ?_⟩
  intro low member _ limit hlimit
  rw [hopen] at hlimit
  cases hlimit

end

/-! ## A guild master and a rich bank -/

def soloPlayer : Player :=
  { guid := 1, name := "Thrall", level := 90, characterClass := 1, zoneId := 1519, accountId := 1
    inWorld := true, guildId := 1, rank := 0 }

def soloLedger (bankMoney money : UInt64) : Ledger where
  treasury :=
    { guild := (soloGuild 1 "Thrall").guild, bankMoney
      holders := ⟨[⟨soloPlayer, money⟩], List.nodup_singleton _⟩ }
  spent := fun _ => 0
  allowance := fun _ => none

theorem purses_soloLedger {bankMoney money : UInt64} (hmoney : money.toNat ≤ maxMoneyAmount) :
    ∀ holder ∈ (soloLedger bankMoney money).treasury.holders,
      holder.money.toNat ≤ maxMoneyAmount := by
  intro holder hholder
  rw [List.mem_singleton.mp hholder]
  exact hmoney

/-- A guild master is refused half a million gold his bank holds: the amount does not fit into the
32 bits of his allowance. -/
theorem not_bankMoney_honest :
    ¬ ∀ (ledger : Ledger) (events : List BankEvent),
      (∀ holder ∈ ledger.treasury.holders, holder.money.toNat ≤ maxMoneyAmount) →
        ledger.allowance = (fun _ => none) → Along ledgerStep Honest (some ledger) events := by
  intro hall
  have hrun := hall (soloLedger 5000000000 0) [.withdraw 1 5000000000 false 0]
    (purses_soloLedger (by decide)) rfl
  have hhonest : Honest (some (soloLedger 5000000000 0)) (.withdraw 1 5000000000 false 0) := hrun.1
  have hmaster : (soloLedger 5000000000 0).treasury.Unlimited 1 :=
    ⟨newMember 1 grGuildMaster ⟨"Thrall", 90, 1, 1519, 1⟩, by decide, Or.inl rfl⟩
  have hgranted : ((soloLedger 5000000000 0).treasury.handleMemberWithdrawMoney 1 5000000000 false
      0).2 = true := hhonest.2.1 hmaster (by decide) (by decide) (by decide)
  exact absurd hgranted (by decide)

/-- The guild master takes money from the bank and brings a part of it back. -/
theorem bankMoney_honest_solo :
    Along ledgerStep Honest (some (soloLedger 5000 100))
      [.withdraw 1 2000 false 0, .deposit 1 500] := by
  rw [bankMoney_honest_iff _ _ (purses_soloLedger (by decide)) rfl]
  have hmaster : Member.Affords (soloGuild 1 "Thrall").guild 2000 0
      (newMember 1 grGuildMaster ⟨"Thrall", 90, 1, 1519, 1⟩) := by
    have hrank : (newMember 1 grGuildMaster ⟨"Thrall", 90, 1, 1519, 1⟩).rankId =
      grGuildMaster.toNat := rfl
    unfold Member.Affords
    rw [if_pos hrank]
    decide
  refine ⟨⟨fun _ _ _ holder hholder => ?_, fun _ _ _ _ => ⟨_, by decide, hmaster⟩⟩,
    fun _ => by decide, trivial⟩
  have hmoney : holder = ⟨soloPlayer, 100⟩ := (Option.some.inj hholder).symm
  rw [hmoney]
  decide

end MopServer.Guilds
