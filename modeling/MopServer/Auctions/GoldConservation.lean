import MopServer.Auctions.AuctionHouse
import MopServer.Foundation.Run

/-! # Conservation of gold

All gold is in a purse, in a mail, or held by a house as a bid or a deposit.  A house
keeps cuts and forfeited deposits and nothing else, provided that deposits are below
the sign bit of a 32-bit number and that no sale is worth less than its cut.
-/

namespace MopServer.Auctions

open MopServer.Foundation

variable {Inventory : Type}

def gold (letters : List Letter) : Nat := (letters.map fun letter => letter.money.toNat).sum

def AuctionEntry.escrowed (auction : AuctionEntry) : Nat :=
  if auction.bidder = 0 then 0 else auction.bid.toNat

namespace World

variable (world : World Inventory)

def purses : Nat :=
  world.characters.sum fun character => character.money.toNat

/-- The gold the houses hold: current bids and deposits. -/
def held : Nat :=
  world.auctions.sum fun auction => auction.escrowed + auction.deposit.toNat

def total : Nat :=
  world.purses + gold world.letters + world.held

def purse (low : UInt32) : Nat :=
  ((world.characters.get? low).map fun character => character.money.toNat).getD 0

end World

variable (env : Environment Inventory)

/-- What a house keeps when an auction runs out. -/
def keptAtExpiry (auction : AuctionEntry) : Nat :=
  if auction.bidder = 0 then auction.deposit.toNat else (getAuctionCut env auction).toNat

/-- The sum of an amount over the auctions of a house with the given ids. -/
def expirySum (house : House) (world : World Inventory) (ids : List Nat)
    (amount : AuctionEntry → Nat) : Nat :=
  (ids.map fun auctionId => ((world.getAuction house auctionId).map amount).getD 0).sum

/-- The cuts and deposits a house keeps at an event: the cut of a sale, the cut and the
deposit of a cancelled auction, the deposit of an auction without bids. -/
def kept (world : World Inventory) : Event → Nat
  | .update house time =>
    expirySum house world (selectExpired world time) (keptAtExpiry env)
  | .request low circumstances request =>
    match world.player low with
    | none => 0
    | some character =>
      match request with
      | .sellItem _ => 0
      | .placeBid auctionId price =>
        match checkPlaceBid env world circumstances character auctionId price with
        | none => 0
        | some auction =>
          if isBid auction price then 0
          else (getAuctionCut env (auction.withBid low auction.buyout)).toNat
      | .removeItem auctionId =>
        match checkRemoveItem env world circumstances character auctionId with
        | none => 0
        | some (auction, _) =>
          (if auction.bidder = 0 then 0 else (getAuctionCut env auction).toNat) +
            auction.deposit.toNat

/-- What a bidder has paid into each auction and not got back. -/
structure Audit (Inventory : Type) where
  world : World Inventory
  escrow : Nat → Nat

/-- A bid pays into the auction what leaves the bidder's purse, less what the house mails. -/
def record (audit : Audit Inventory) (event : Event) (after : World Inventory) : Nat → Nat :=
  match event with
  | .request low _ (.placeBid auctionId _) =>
    Function.update audit.escrow auctionId
      (audit.escrow auctionId + (audit.world.purse low - after.purse low) -
        (gold after.letters - gold audit.world.letters))
  | _ => audit.escrow

/-- One event, with `none` once the behaviour is undefined. -/
def auditStep : Option (Audit Inventory) → Event → Option (Audit Inventory)
  | none, _ => none
  | some audit, event =>
    (perform env audit.world event).map fun after => ⟨after, record audit event after⟩

/-- A live auction holds exactly its bid, which is below its buyout. -/
structure AuctionSound (escrow : Nat → Nat) (auction : AuctionEntry) : Prop where
  escrow : escrow auction.id = auction.escrowed
  unbid : auction.bidder = 0 → auction.bid = 0
  below : auction.buyout ≠ 0 → auction.bid < auction.buyout

/-- An event conserves gold and leaves all live auctions sound. -/
def Conserves : Option (Audit Inventory) → Event → Prop
  | none, _ => False
  | some audit, event =>
    ∃ after, perform env audit.world event = some after ∧
      after.total + kept env audit.world event = audit.world.total ∧
      ∀ auction ∈ after.auctions, AuctionSound (record audit event after) auction

/-- The house does not cut more than a sale brings in. -/
def CutCovered (auction : AuctionEntry) : Prop :=
  (getAuctionCut env auction).toNat ≤ auction.bid.toNat + auction.deposit.toNat

instance (env : Environment Inventory) (auction : AuctionEntry) :
    Decidable (CutCovered env auction) :=
  inferInstanceAs (Decidable (_ ≤ _))

/-- The deposit of an auction that is opened is below the sign bit, and is taken only if the
auction is opened; the cut of a sale is covered. -/
def Covered : Option (Audit Inventory) → Event → Prop
  | none, _ => False
  | some audit, .update house time =>
    ∀ auctionId ∈ selectExpired audit.world time, ∀ auction,
      audit.world.getAuction house auctionId = some auction → auction.bidder ≠ 0 →
        CutCovered env auction
  | some audit, .request low circumstances (.sellItem request) =>
    ∀ character, audit.world.player low = some character →
      ∀ offer, checkSellItem env audit.world circumstances character request = some offer →
        hasEnoughMoney character.money (offerDeposit env offer).toUInt64 = true →
          (offerDeposit env offer).toNat < 2 ^ 31 ∧
            ((offeredItem env offer).isSome = true ∨ offerDeposit env offer = 0)
  | some audit, .request low circumstances (.placeBid auctionId price) =>
    ∀ character, audit.world.player low = some character →
      ∀ auction,
        checkPlaceBid env audit.world circumstances character auctionId price = some auction →
          isBid auction price = false →
            CutCovered env (auction.withBid low auction.buyout)
  | some _, .request _ _ (.removeItem _) => True

instance decidableCovered (env : Environment Inventory) :
    ∀ state event, Decidable (Covered env state event)
  | none, _ => isFalse id
  | some audit, .update house time =>
    decidable_of_iff
      ((selectExpired audit.world time).all (fun auctionId =>
        (audit.world.getAuction house auctionId).all fun auction =>
          decide (auction.bidder ≠ 0 → CutCovered env auction)) = true)
      (by
        simp only [Covered, List.all_eq_true, Option.all_eq_true, decide_eq_true_eq])
  | some audit, .request low circumstances (.sellItem request) =>
    decidable_of_iff
      ((audit.world.player low).all (fun character =>
        (checkSellItem env audit.world circumstances character request).all fun offer =>
          decide (hasEnoughMoney character.money (offerDeposit env offer).toUInt64 = true →
            (offerDeposit env offer).toNat < 2 ^ 31 ∧
              ((offeredItem env offer).isSome = true ∨ offerDeposit env offer = 0))) = true)
      (by simp only [Covered, Option.all_eq_true, decide_eq_true_eq])
  | some audit, .request low circumstances (.placeBid auctionId price) =>
    decidable_of_iff
      ((audit.world.player low).all (fun character =>
        (checkPlaceBid env audit.world circumstances character auctionId price).all
          fun auction => decide (isBid auction price = false →
            CutCovered env (auction.withBid low auction.buyout))) = true)
      (by simp only [Covered, Option.all_eq_true, decide_eq_true_eq])
  | some _, .request _ _ (.removeItem _) => isTrue trivial

/-- A live auction of a world: its parties exist, its id has been issued, and it holds an
amount somebody could pay. -/
structure AuctionFits (world : World Inventory) (escrow : Nat → Nat)
    (auction : AuctionEntry) : Prop where
  owner : world.receiverExists auction.owner = true
  bidder : auction.bidder ≠ 0 → world.receiverExists auction.bidder = true
  bid : auction.bid.toNat ≤ maxMoneyAmount
  deposit : auction.deposit.toNat < 2 ^ 32
  issued : auction.id < world.auctionId
  sound : AuctionSound escrow auction

/-- Purses are below the gold limit, and live auctions are as they should be. -/
structure Audit.Sound (audit : Audit Inventory) : Prop where
  counters : ∀ character ∈ audit.world.characters, character.low ≠ 0
  purses : ∀ character ∈ audit.world.characters, character.money.toNat < maxMoneyAmount
  unused : ∀ auctionId, audit.world.auctionId ≤ auctionId → audit.escrow auctionId = 0
  auctions : ∀ auction ∈ audit.world.auctions, AuctionFits audit.world audit.escrow auction

/-! ## Purses and mails -/

variable {after middle : World Inventory} {auction : AuctionEntry} {low : UInt32}
  {mailed charged : Nat} {other : Character Inventory}

section Accounts

variable {world : World Inventory} {character : Character Inventory}

theorem gold_cons (letter : Letter) (letters : List Letter) :
    gold (letter :: letters) = gold letters + letter.money.toNat := by
  simp [gold, Nat.add_comm]

/-- A world in which only mails have been added, with some gold in them. -/
def Posted (world after : World Inventory) (amount : Nat) : Prop :=
  ∃ letters, after = { world with letters := letters } ∧
    gold letters = gold world.letters + amount

theorem Posted.refl (world : World Inventory) : Posted world world 0 :=
  ⟨world.letters, rfl, rfl⟩

theorem posted_post (world : World Inventory) (letter : Letter) :
    Posted world (world.post letter) letter.money.toNat :=
  ⟨letter :: world.letters, rfl, gold_cons letter world.letters⟩

theorem Posted.trans {first second : Nat} (hfirst : Posted world middle first)
    (hsecond : Posted middle after second) : Posted world after (first + second) := by
  obtain ⟨letters, rfl, hgold⟩ := hfirst
  obtain ⟨letters', rfl, hgold'⟩ := hsecond
  exact ⟨letters', rfl, by rw [hgold', hgold, Nat.add_assoc]⟩

theorem sendBidBack_posted (auction : AuctionEntry) (answer : MailAuctionAnswer)
    (hexists : world.receiverExists auction.bidder = true) :
    Posted world (sendBidBack world auction answer) auction.bid.toNat := by
  unfold sendBidBack
  rw [if_pos hexists]
  exact posted_post world _

theorem sendAuctionSalePendingMail_posted (world : World Inventory) (auction : AuctionEntry) :
    Posted world (sendAuctionSalePendingMail world auction) 0 := by
  unfold sendAuctionSalePendingMail
  split
  · exact posted_post world _
  · exact Posted.refl world

theorem sendAuctionExpiredMail_posted (auction : AuctionEntry) :
    Posted world (sendAuctionExpiredMail world auction) 0 := by
  unfold sendAuctionExpiredMail
  split
  · exact Posted.refl world
  · split
    · exact posted_post world _
    · exact Posted.refl world

variable (env : Environment Inventory)

theorem sendAuctionWonMail_posted (auction : AuctionEntry) :
    Posted world (sendAuctionWonMail env world auction) 0 := by
  unfold sendAuctionWonMail
  split
  · exact Posted.refl world
  · simp only
    split
    · exact posted_post world _
    · exact Posted.refl world

/-- The profit of a sale, wrapped around if the cut exceeds what the sale brings in. -/
def profit (env : Environment Inventory) (auction : AuctionEntry) : Nat :=
  (auction.bid + auction.deposit - getAuctionCut env auction).toNat

theorem sendAuctionSuccessfulMail_posted (auction : AuctionEntry)
    (hexists : world.receiverExists auction.owner = true) :
    Posted world (sendAuctionSuccessfulMail env world auction) (profit env auction) := by
  unfold sendAuctionSuccessfulMail
  rw [if_pos hexists]
  exact posted_post world _

/-- The gold a sale creates: none, or a whole wrap-around if its cut is not covered. -/
def surplus (env : Environment Inventory) (auction : AuctionEntry) : Nat :=
  if CutCovered env auction then 0 else 2 ^ 64

theorem surplus_eq_zero_iff (auction : AuctionEntry) :
    surplus env auction = 0 ↔ CutCovered env auction := by
  unfold surplus
  split
  next hcovered => exact ⟨fun _ => hcovered, fun _ => rfl⟩
  next hcovered => exact ⟨fun hzero => absurd hzero (by decide), fun h => absurd h hcovered⟩

/-- What a sale brings in goes to the owner and the house. -/
theorem profit_add_cut (hbid : auction.bid.toNat ≤ maxMoneyAmount)
    (hdeposit : auction.deposit.toNat < 2 ^ 32) :
    profit env auction + (getAuctionCut env auction).toNat =
      auction.bid.toNat + auction.deposit.toNat + surplus env auction := by
  have hcut := (getAuctionCut env auction).toNat_lt
  unfold maxMoneyAmount at hbid
  unfold profit surplus
  rw [UInt64.toNat_sub, UInt64.toNat_add]
  split
  next hcovered =>
    unfold CutCovered at hcovered
    omega
  next hcovered =>
    unfold CutCovered at hcovered
    omega

theorem mem_setMoney {money : UInt64} {after : Character Inventory} :
    after ∈ (world.setMoney low money).characters ↔
      ∃ old ∈ world.characters,
        (if old.low = low then { old with money := money } else old) = after :=
  Table.mem_modify (f := fun character : Character Inventory => { character with money := money })
    fun _ => rfl

theorem get?_setMoney (world : World Inventory) (low other : UInt32) (money : UInt64) :
    (world.setMoney low money).characters.get? other =
      if other = low then (world.characters.get? low).map fun character =>
        { character with money := money }
      else world.characters.get? other :=
  Table.get?_modify world.characters low other
    (fun character : Character Inventory => { character with money := money }) fun _ => rfl

theorem receiverExists_setMoney (world : World Inventory) (low other : UInt32)
    (money : UInt64) :
    (world.setMoney low money).receiverExists other = world.receiverExists other := by
  unfold World.receiverExists
  rw [get?_setMoney]
  split
  next heq =>
    subst heq
    cases world.characters.get? other <;> rfl
  · rfl

variable (hcharacter : character ∈ world.characters)

include hcharacter in
theorem purses_setMoney (money : UInt64) :
    (world.setMoney character.low money).purses + character.money.toNat =
      world.purses + money.toNat :=
  Table.sum_modify hcharacter
    (fun character : Character Inventory => { character with money := money }) (fun _ => rfl) _

include hcharacter in
theorem purse_eq : world.purse character.low = character.money.toNat := by
  have hget : world.characters.get? character.low = some character := Table.get?_key hcharacter
  unfold World.purse
  rw [hget]
  rfl

include hcharacter in
theorem purse_setMoney (money : UInt64) :
    (world.setMoney character.low money).purse character.low = money.toNat := by
  have hget : world.characters.get? character.low = some character := Table.get?_key hcharacter
  unfold World.purse
  rw [get?_setMoney, if_pos rfl, hget]
  rfl

/-- A world in which one character has paid an amount and some gold has been mailed. -/
structure Paid (world after : World Inventory) (character : Character Inventory)
    (charged mailed : Nat) : Prop where
  money : ∃ money : UInt64, money.toNat + charged = character.money.toNat ∧
    after.characters = (world.setMoney character.low money).characters
  auctions : after.auctions = world.auctions
  auctionItems : after.auctionItems = world.auctionItems
  auctionId : after.auctionId = world.auctionId
  letters : gold after.letters = gold world.letters + mailed

variable (hpaid : Paid world after character charged mailed)
  (hcharacter : character ∈ world.characters)

include hcharacter in
include hpaid in
theorem Paid.purses : after.purses + charged = world.purses := by
  obtain ⟨money, hmoney, hcharacters⟩ := hpaid.money
  have hsum := purses_setMoney hcharacter money
  have hsame : after.purses = (world.setMoney character.low money).purses := by
    unfold World.purses
    rw [hcharacters]
  omega

include hcharacter in
include hpaid in
theorem Paid.purse : after.purse character.low + charged = world.purse character.low := by
  obtain ⟨money, hmoney, hcharacters⟩ := hpaid.money
  have hsame : after.purse character.low =
      (world.setMoney character.low money).purse character.low := by
    unfold World.purse
    rw [hcharacters]
  rw [hsame, purse_setMoney hcharacter, purse_eq hcharacter, hmoney]

include hpaid in
theorem Paid.receiverExists (other : UInt32) :
    after.receiverExists other = world.receiverExists other := by
  obtain ⟨money, -, hcharacters⟩ := hpaid.money
  have hsame : after.receiverExists other =
      (world.setMoney character.low money).receiverExists other := by
    unfold World.receiverExists
    rw [hcharacters]
  rw [hsame, receiverExists_setMoney]

include hcharacter in
include hpaid in
/-- Payments keep counters and the gold limit. -/
theorem Paid.characters (hother : other ∈ after.characters) :
    ∃ old ∈ world.characters, old.low = other.low ∧ other.money.toNat ≤ old.money.toNat := by
  obtain ⟨money, hmoney, hcharacters⟩ := hpaid.money
  rw [hcharacters] at hother
  obtain ⟨old, hold, hupdate⟩ := mem_setMoney.mp hother
  split at hupdate
  next hlow =>
    subst hupdate
    have hsame : old = character := Table.eq_of_key_eq hold hcharacter hlow
    subst hsame
    exact ⟨old, hold, rfl, by simp only; omega⟩
  · subst hupdate
    exact ⟨old, hold, rfl, Nat.le_refl _⟩

include hpaid in
theorem Paid.post {later : World Inventory} {amount : Nat} (hposted : Posted after later amount) :
    Paid world later character charged (mailed + amount) := by
  obtain ⟨letters, rfl, hgold⟩ := hposted
  refine ⟨hpaid.money, hpaid.auctions, hpaid.auctionItems, hpaid.auctionId, ?_⟩
  simp only [hgold, hpaid.letters]
  omega

/-- A world in which gold has gone from purses into mails and nothing else has changed. -/
structure Moved (world after : World Inventory) (charged mailed : Nat) : Prop where
  characters : ∀ other ∈ after.characters, ∃ old ∈ world.characters,
    old.low = other.low ∧ other.money.toNat ≤ old.money.toNat
  receiverExists : ∀ low, after.receiverExists low = world.receiverExists low
  purses : after.purses + charged = world.purses
  letters : gold after.letters = gold world.letters + mailed
  auctions : after.auctions = world.auctions
  auctionId : after.auctionId = world.auctionId

include hcharacter in
include hpaid in
theorem Paid.moved : Moved world after charged mailed where
  characters _ hother := hpaid.characters hcharacter hother
  receiverExists := hpaid.receiverExists
  purses := hpaid.purses hcharacter
  letters := hpaid.letters
  auctions := hpaid.auctions
  auctionId := hpaid.auctionId

theorem Posted.moved (hposted : Posted world after mailed) : Moved world after 0 mailed := by
  obtain ⟨letters, rfl, hgold⟩ := hposted
  exact ⟨fun other hother => ⟨other, hother, rfl, Nat.le_refl _⟩, fun _ => rfl, rfl, hgold, rfl,
    rfl⟩

theorem charge_paid (hlimit : character.money.toNat ≤ maxMoneyAmount) (amount : UInt64)
    (hamount : amount.toNat ≤ character.money.toNat) {posted : World Inventory}
    (hposted : Posted world posted mailed) :
    ∃ after, charge posted character amount = some after ∧
      Paid world after character amount.toNat mailed := by
  have hsmall : amount.toNat < 2 ^ 63 := by
    unfold maxMoneyAmount at hlimit
    omega
  have hneg : negSigned 64 amount.toNat = some (-(amount.toNat : Int)) :=
    negSigned_of_lt (by decide) hsmall
  obtain ⟨letters, rfl, hgold⟩ := hposted
  unfold charge
  simp only [hneg, Option.bind_eq_bind, Option.bind_some]
  refine ⟨_, rfl, ⟨_, ?_, rfl⟩, rfl, rfl, rfl, hgold⟩
  exact toNat_modifyMoney_debit hlimit hamount

/-- The new leader pays the price into the auction, less what the house already holds for
it and, if somebody else led, mails back. -/
theorem payBid_paid {price : UInt64} (hlimit : character.money.toNat ≤ maxMoneyAmount)
    (hprice : price.toNat ≤ character.money.toNat) (hbid : auction.bid.toNat ≤ price.toNat)
    (hlow : character.low ≠ 0)
    (hexists : auction.bidder ≠ 0 → world.receiverExists auction.bidder = true) :
    ∃ after charged mailed, payBid world character auction price = some after ∧
      Paid world after character charged mailed ∧
      charged + auction.escrowed = price.toNat + mailed := by
  unfold payBid
  split
  next hown =>
    have hsub : (price - auction.bid).toNat = price.toNat - auction.bid.toNat :=
      UInt64.toNat_sub_of_le _ _ (UInt64.le_iff_toNat_le.mpr hbid)
    obtain ⟨after, hcharge, hpaid⟩ := charge_paid hlimit (price - auction.bid)
      (by omega) (Posted.refl world)
    refine ⟨after, _, _, hcharge, hpaid, ?_⟩
    have hnonzero : auction.bidder ≠ 0 := hown ▸ hlow
    rw [AuctionEntry.escrowed, if_neg hnonzero]
    omega
  · by_cases hbidder : auction.bidder = 0
    · simp only [hbidder, ne_eq, not_true, if_false]
      obtain ⟨after, hcharge, hpaid⟩ := charge_paid hlimit price hprice (Posted.refl world)
      refine ⟨after, _, _, hcharge, hpaid, ?_⟩
      rw [AuctionEntry.escrowed, if_pos hbidder]
    · simp only [ne_eq, hbidder, not_false_eq_true, if_true]
      obtain ⟨after, hcharge, hpaid⟩ := charge_paid hlimit price hprice
        (sendBidBack_posted auction .outbidded (hexists hbidder))
      refine ⟨after, _, _, hcharge, hpaid, ?_⟩
      rw [AuctionEntry.escrowed, if_neg hbidder]

end Accounts

/-! ## Keeping a world sound -/

variable {world : World Inventory}

section Soundness

variable {audit : Audit Inventory} {after : World Inventory} {escrow : Nat → Nat}
  {character : Character Inventory} {removed : AuctionEntry}

theorem mem_of_player (hplayer : world.player low = some character) :
    character ∈ world.characters ∧ character.low = low ∧ character.inWorld = true := by
  obtain ⟨hget, hworld⟩ := Option.filter_eq_some_iff.mp hplayer
  obtain ⟨hmem, hlow⟩ := Table.get?_eq_some_iff.mp hget
  exact ⟨hmem, hlow, hworld⟩

theorem receiverExists_of_inWorld (hmem : character ∈ world.characters)
    (hworld : character.inWorld = true) : world.receiverExists character.low = true := by
  have hget : world.characters.get? character.low = some character := Table.get?_key hmem
  unfold World.receiverExists
  rw [hget, Option.any_some, hworld, Bool.true_or]

theorem mem_of_getAuction {house : House} {auctionId : Nat}
    (hauction : world.getAuction house auctionId = some auction) :
    auction ∈ world.auctions ∧ auction.id = auctionId :=
  Table.get?_eq_some_iff.mp (Option.filter_eq_some_iff.mp hauction).1

theorem AuctionFits.transfer (hfits : AuctionFits audit.world audit.escrow auction)
    (hexists : ∀ low, after.receiverExists low = audit.world.receiverExists low)
    (hissued : audit.world.auctionId ≤ after.auctionId)
    (hescrow : escrow auction.id = audit.escrow auction.id) : AuctionFits after escrow auction where
  owner := (hexists _).trans hfits.owner
  bidder hbidder := (hexists _).trans (hfits.bidder hbidder)
  bid := hfits.bid
  deposit := hfits.deposit
  issued := hfits.issued.trans_le hissued
  sound := ⟨hescrow.trans hfits.sound.escrow, hfits.sound.unbid, hfits.sound.below⟩

theorem Audit.Sound.of_fits (hsound : audit.Sound)
    (hcharacters : ∀ other ∈ after.characters, ∃ old ∈ audit.world.characters,
      old.low = other.low ∧ other.money.toNat ≤ old.money.toNat)
    (hunused : ∀ auctionId, after.auctionId ≤ auctionId → escrow auctionId = 0)
    (hfits : ∀ auction ∈ after.auctions, AuctionFits after escrow auction) :
    (Audit.mk after escrow).Sound := by
  refine ⟨?_, ?_, hunused, hfits⟩
  · intro other hother
    obtain ⟨old, hold, hlow, -⟩ := hcharacters other hother
    exact hlow ▸ hsound.counters old hold
  · intro other hother
    obtain ⟨old, hold, -, hle⟩ := hcharacters other hother
    exact hle.trans_lt (hsound.purses old hold)

theorem Moved.total_removeAuction (hmoved : Moved world middle charged mailed)
    (hauction : auction ∈ world.auctions) (hid : removed.id = auction.id) :
    (middle.removeAuction removed).total + charged + auction.escrowed + auction.deposit.toNat =
      world.total + mailed := by
  have hheld : (middle.removeAuction removed).held +
      (auction.escrowed + auction.deposit.toNat) = world.held := by
    have hsame : (middle.removeAuction removed).held = (world.removeAuction auction).held := by
      unfold World.held World.removeAuction
      rw [hmoved.auctions, hid]
    rw [hsame]
    exact Table.sum_erase hauction _
  have htotal : (middle.removeAuction removed).total =
      middle.purses + gold middle.letters + (middle.removeAuction removed).held := rfl
  have hpurses := hmoved.purses
  have hletters := hmoved.letters
  rw [htotal]
  unfold World.total
  omega

/-- The other auctions stay as they are when one is closed, whatever is recorded for it. -/
theorem Moved.sound_removeAuction (hmoved : Moved audit.world middle charged mailed)
    (hsound : audit.Sound) (hauction : auction ∈ audit.world.auctions)
    (hid : removed.id = auction.id)
    (hescrow : ∀ other, other ≠ auction.id → escrow other = audit.escrow other) :
    (Audit.mk (middle.removeAuction removed) escrow).Sound := by
  refine hsound.of_fits hmoved.characters ?_ ?_
  · intro other hother
    have hge : audit.world.auctionId ≤ other := hmoved.auctionId ▸ hother
    have hissued := (hsound.auctions auction hauction).issued
    rw [hescrow other (by omega)]
    exact hsound.unused other hge
  · intro found hfound
    obtain ⟨hlive, hne⟩ := Table.mem_erase.mp hfound
    rw [hmoved.auctions] at hlive
    exact (hsound.auctions found hlive).transfer hmoved.receiverExists
      (Nat.le_of_eq hmoved.auctionId.symm) (hescrow found.id (hid ▸ hne))

end Soundness

/-! ## Bids -/

section Bids

variable {audit : Audit Inventory} {character : Character Inventory} {auction : AuctionEntry}
  {auctionId : Nat} {price : UInt64} {env : Environment Inventory} {circumstances : Circumstances}

/-- What is known of a bid that has passed all checks. -/
structure Accepted (world : World Inventory) (character : Character Inventory)
    (auctionId : Nat) (price : UInt64) (auction : AuctionEntry) : Prop where
  live : auction ∈ world.auctions
  id : auction.id = auctionId
  higher : auction.bid.toNat < price.toNat
  covered : price.toNat ≤ character.money.toNat

theorem accepted_of_checkPlaceBid
    (hcheck : checkPlaceBid env world circumstances character auctionId price = some auction) :
    Accepted world character auctionId price auction := by
  simp only [checkPlaceBid, Option.bind_eq_bind, Option.bind_eq_some_iff, Option.guard_eq_some',
    exists_const, Option.some.injEq] at hcheck
  obtain ⟨-, _, -, found, hfound, -, ⟨hhigher, -⟩, -, hcovered, rfl⟩ := hcheck
  obtain ⟨hlive, hid⟩ := mem_of_getAuction hfound
  refine ⟨hlive, hid, UInt64.lt_iff_toNat_lt.mp hhigher, ?_⟩
  simpa [hasEnoughMoney, UInt64.le_iff_toNat_le] using hcovered

theorem payBid_of_accepted (hsound : audit.Sound)
    (hcharacter : character ∈ audit.world.characters) {amount : UInt64}
    (hlive : auction ∈ audit.world.auctions) (hbid : auction.bid.toNat ≤ amount.toNat)
    (hamount : amount.toNat ≤ character.money.toNat) :
    ∃ after charged mailed, payBid audit.world character auction amount = some after ∧
      Paid audit.world after character charged mailed ∧
      charged + auction.escrowed = amount.toNat + mailed :=
  payBid_paid (Nat.le_of_lt (hsound.purses character hcharacter)) hamount hbid
    (hsound.counters character hcharacter) (hsound.auctions auction hlive).bidder

theorem mem_setBid {bidder : UInt32} {found : AuctionEntry} :
    found ∈ (world.setBid auctionId bidder price).auctions ↔
      ∃ old ∈ world.auctions,
        (if old.id = auctionId then old.withBid bidder price else old) = found :=
  Table.mem_modify (f := fun auction : AuctionEntry => auction.withBid bidder price) fun _ => rfl

theorem held_setBid (hlive : auction ∈ world.auctions) {bidder : UInt32} (hbidder : bidder ≠ 0) :
    (world.setBid auction.id bidder price).held + auction.escrowed =
      world.held + price.toNat := by
  have hsum : (world.setBid auction.id bidder price).held +
      (auction.escrowed + auction.deposit.toNat) = world.held +
        ((auction.withBid bidder price).escrowed + auction.deposit.toNat) :=
    Table.sum_modify hlive (fun auction : AuctionEntry => auction.withBid bidder price)
      (fun _ => rfl) _
  have hescrowed : (auction.withBid bidder price).escrowed = price.toNat := if_neg hbidder
  omega

/-- A bid moves gold from the purse into the auction, and from there to the last bidder. -/
theorem bid_conserves (circumstances : Circumstances) (hsound : audit.Sound)
    (hcharacter : character ∈ audit.world.characters) (hworld : character.inWorld = true)
    (haccepted : Accepted audit.world character auctionId price auction)
    (hbid : isBid auction price = true) :
    ∃ paid, payBid audit.world character auction price = some paid ∧
      (paid.setBid auctionId character.low price).total = audit.world.total ∧
      (Audit.mk (paid.setBid auctionId character.low price)
        (record audit (.request character.low circumstances (.placeBid auctionId price))
          (paid.setBid auctionId character.low price))).Sound := by
  obtain ⟨hlive, rfl, hhigher, hcovered⟩ := haccepted
  have hlow := hsound.counters character hcharacter
  have hlimit := Nat.le_of_lt (hsound.purses character hcharacter)
  have hfits := hsound.auctions auction hlive
  obtain ⟨paid, charged, mailed, hpay, hpaid, hbalance⟩ :=
    payBid_of_accepted hsound hcharacter hlive (Nat.le_of_lt hhigher) hcovered
  have hpurses := hpaid.purses hcharacter
  have hpurse := hpaid.purse hcharacter
  have hletters := hpaid.letters
  have hheld : (paid.setBid auction.id character.low price).held + auction.escrowed =
      audit.world.held + price.toNat := by
    have hsame : paid.held = audit.world.held := by
      unfold World.held
      rw [hpaid.auctions]
    rw [← hsame]
    exact held_setBid (hpaid.auctions ▸ hlive) hlow
  refine ⟨paid, hpay, ?_, ?_⟩
  · have htotal : (paid.setBid auction.id character.low price).total = paid.purses +
        gold paid.letters + (paid.setBid auction.id character.low price).held := rfl
    rw [htotal]
    unfold World.total
    omega
  · have hrecord : record audit (.request character.low circumstances
        (.placeBid auction.id price)) (paid.setBid auction.id character.low price) =
        Function.update audit.escrow auction.id price.toNat := by
      have hescrow := hfits.sound.escrow
      have hpurse' : (paid.setBid auction.id character.low price).purse character.low =
        paid.purse character.low := rfl
      have hletters' : gold (paid.setBid auction.id character.low price).letters =
        gold paid.letters := rfl
      simp only [record, hpurse', hletters']
      congr 1
      omega
    rw [hrecord]
    refine hsound.of_fits (fun other hother => hpaid.characters hcharacter hother) ?_ ?_
    · intro other hother
      have hge : audit.world.auctionId ≤ other := hpaid.auctionId ▸ hother
      have hne : other ≠ auction.id := by
        have hissued := hfits.issued
        omega
      rw [Function.update_of_ne hne]
      exact hsound.unused other hge
    · intro found hfound
      obtain ⟨old, hold, hupdate⟩ := mem_setBid.mp hfound
      rw [hpaid.auctions] at hold
      have hexists : ∀ low, (paid.setBid auction.id character.low price).receiverExists low =
          audit.world.receiverExists low := hpaid.receiverExists
      split at hupdate
      next hid =>
        obtain rfl : old = auction := Table.eq_of_key_eq hold hlive hid
        subst hupdate
        refine ⟨(hexists _).trans hfits.owner, fun _ => (hexists _).trans
          (receiverExists_of_inWorld hcharacter hworld), hcovered.trans hlimit, hfits.deposit,
          hpaid.auctionId.symm ▸ hfits.issued, ?_, fun hzero => absurd hzero hlow, ?_⟩
        · have hescrowed : (old.withBid character.low price).escrowed = price.toNat :=
            if_neg hlow
          rw [hescrowed]
          exact Function.update_self _ _ _
        · intro hbuyout
          have hsome : old.buyout ≠ 0 := hbuyout
          show price < old.buyout
          simpa [isBid, hsome] using hbid
      next hid =>
        subst hupdate
        exact (hsound.auctions old hold).transfer hexists (Nat.le_of_eq hpaid.auctionId.symm)
          (Function.update_of_ne hid _ _)

theorem buyout_le_of_isBid_eq_false (hbid : isBid auction price = false) :
    auction.buyout ≠ 0 ∧ auction.buyout.toNat ≤ price.toNat := by
  simp only [isBid, Bool.or_eq_false_iff, decide_eq_false_iff_not, UInt64.not_lt] at hbid
  exact ⟨hbid.2, UInt64.le_iff_toNat_le.mp hbid.1⟩

variable (env : Environment Inventory)

/-- What a sale leaves behind: the owner is mailed the profit, and the auction is gone. -/
def closeSale (world : World Inventory) (auction : AuctionEntry) : World Inventory :=
  (sendAuctionWonMail env
    (sendAuctionSuccessfulMail env (sendAuctionSalePendingMail world auction) auction)
    auction).removeAuction auction

theorem buyout_total (circumstances : Circumstances) (hsound : audit.Sound)
    (hcharacter : character ∈ audit.world.characters)
    (haccepted : Accepted audit.world character auctionId price auction)
    (hbid : isBid auction price = false) :
    ∃ paid, payBid audit.world character auction auction.buyout = some paid ∧
      (closeSale env paid (auction.withBid character.low auction.buyout)).total +
          (getAuctionCut env (auction.withBid character.low auction.buyout)).toNat =
        audit.world.total + surplus env (auction.withBid character.low auction.buyout) ∧
      (Audit.mk (closeSale env paid (auction.withBid character.low auction.buyout))
        (record audit (.request character.low circumstances (.placeBid auctionId price))
          (closeSale env paid (auction.withBid character.low auction.buyout)))).Sound := by
  obtain ⟨hlive, rfl, hhigher, hcovered⟩ := haccepted
  have hfits := hsound.auctions auction hlive
  obtain ⟨hbuyout, hle⟩ := buyout_le_of_isBid_eq_false hbid
  have hlimit := Nat.le_of_lt (hsound.purses character hcharacter)
  have hbelow : auction.bid.toNat ≤ auction.buyout.toNat :=
    Nat.le_of_lt (UInt64.lt_iff_toNat_lt.mp (hfits.sound.below hbuyout))
  obtain ⟨paid, charged, mailed, hpay, hpaid, hbalance⟩ :=
    payBid_of_accepted hsound hcharacter hlive hbelow (hle.trans hcovered)
  refine ⟨paid, hpay, ?_⟩
  generalize hsold : auction.withBid character.low auction.buyout = sold
  have hid : sold.id = auction.id := by rw [← hsold]; rfl
  have hbid' : sold.bid = auction.buyout := by rw [← hsold]; rfl
  have hdeposit : sold.deposit = auction.deposit := by rw [← hsold]; rfl
  have howner : sold.owner = auction.owner := by rw [← hsold]; rfl
  have hpending := sendAuctionSalePendingMail_posted paid sold
  have hexists : (sendAuctionSalePendingMail paid sold).receiverExists sold.owner = true := by
    rw [hpending.moved.receiverExists, hpaid.receiverExists, howner]
    exact hfits.owner
  have hposted := (hpending.trans (sendAuctionSuccessfulMail_posted env sold hexists)).trans
    (sendAuctionWonMail_posted env sold)
  have hmoved := (hpaid.post hposted).moved hcharacter
  have htotal := hmoved.total_removeAuction hlive hid
  have hsmall : sold.bid.toNat ≤ maxMoneyAmount := by
    rw [hbid']
    exact (hle.trans hcovered).trans hlimit
  have hprofit := profit_add_cut env hsmall (hdeposit ▸ hfits.deposit)
  refine ⟨?_, hmoved.sound_removeAuction hsound hlive hid ?_⟩
  · unfold closeSale
    rw [hbid', hdeposit] at hprofit
    omega
  · intro other hne
    exact Function.update_of_ne hne _ _

end Bids

/-! ## Cancelling and expiry -/

section Closing

variable {audit : Audit Inventory} {character : Character Inventory} {auction : AuctionEntry}
  {env : Environment Inventory} {circumstances : Circumstances}

/-- The gold an auction creates when it runs out. -/
def surplusAtExpiry (env : Environment Inventory) (auction : AuctionEntry) : Nat :=
  if auction.bidder = 0 then 0 else surplus env auction

theorem surplusAtExpiry_eq_zero_iff (env : Environment Inventory) (auction : AuctionEntry) :
    surplusAtExpiry env auction = 0 ↔ (auction.bidder ≠ 0 → CutCovered env auction) := by
  unfold surplusAtExpiry
  split
  next hbidder => exact ⟨fun _ hne => absurd hbidder hne, fun _ => rfl⟩
  next hbidder =>
    rw [surplus_eq_zero_iff]
    exact ⟨fun hcovered _ => hcovered, fun hcovered => hcovered hbidder⟩

/-- An auction that runs out is closed after its owner has been mailed the profit, if there
is one. -/
theorem expireAuction_moved (env : Environment Inventory) (hsound : audit.Sound)
    (hlive : auction ∈ audit.world.auctions) :
    ∃ middle mailed, expireAuction env audit.world auction = middle.removeAuction auction ∧
      Moved audit.world middle 0 mailed ∧
      mailed + keptAtExpiry env auction =
        auction.escrowed + auction.deposit.toNat + surplusAtExpiry env auction := by
  have hfits := hsound.auctions auction hlive
  unfold expireAuction keptAtExpiry surplusAtExpiry AuctionEntry.escrowed
  by_cases hbidder : auction.bidder = 0
  · simp only [if_pos hbidder]
    exact ⟨_, 0, rfl, (sendAuctionExpiredMail_posted auction).moved, by omega⟩
  · simp only [if_neg hbidder]
    exact ⟨_, _, rfl, ((sendAuctionSuccessfulMail_posted env auction hfits.owner).trans
      (sendAuctionWonMail_posted env auction)).moved, profit_add_cut env hfits.bid hfits.deposit⟩

theorem expireAuction_total (env : Environment Inventory) (hsound : audit.Sound)
    (hlive : auction ∈ audit.world.auctions) :
    (expireAuction env audit.world auction).total + keptAtExpiry env auction =
        audit.world.total + surplusAtExpiry env auction ∧
      (Audit.mk (expireAuction env audit.world auction) audit.escrow).Sound := by
  obtain ⟨middle, mailed, hexpire, hmoved, hbalance⟩ := expireAuction_moved env hsound hlive
  have htotal := hmoved.total_removeAuction hlive rfl
  rw [hexpire]
  exact ⟨by omega, hmoved.sound_removeAuction hsound hlive rfl fun _ _ => rfl⟩

theorem updateAuction_total (env : Environment Inventory) (house : House)
    (hsound : audit.Sound) (auctionId : Nat) :
    (updateAuction env house audit.world auctionId).total +
          expirySum house audit.world [auctionId] (keptAtExpiry env) =
        audit.world.total + expirySum house audit.world [auctionId] (surplusAtExpiry env) ∧
      (Audit.mk (updateAuction env house audit.world auctionId) audit.escrow).Sound ∧
      ∀ other, other ≠ auctionId →
        (updateAuction env house audit.world auctionId).getAuction house other =
          audit.world.getAuction house other := by
  unfold updateAuction expirySum
  cases hauction : audit.world.getAuction house auctionId with
  | none => simpa [hauction] using hsound
  | some auction =>
    obtain ⟨hlive, hid⟩ := mem_of_getAuction hauction
    obtain ⟨htotal, hafter⟩ := expireAuction_total env hsound hlive
    obtain ⟨middle, mailed, hexpire, hmoved, -⟩ := expireAuction_moved env hsound hlive
    refine ⟨by simpa [hauction] using htotal, hafter, ?_⟩
    intro other hne
    have hauctions : (expireAuction env audit.world auction).auctions =
        audit.world.auctions.erase auction.id := by
      rw [hexpire, ← hmoved.auctions]
      rfl
    unfold World.getAuction
    rw [hauctions, Table.get?_erase_of_ne _ (hid.symm ▸ hne)]

/-- The loop of `Update`: each auction is paid out as it stood when the loop began. -/
theorem foldl_updateAuction_total (env : Environment Inventory) (house : House)
    (ids : List Nat) (hnodup : ids.Nodup) (hsound : audit.Sound) :
    (ids.foldl (updateAuction env house) audit.world).total +
          expirySum house audit.world ids (keptAtExpiry env) =
        audit.world.total + expirySum house audit.world ids (surplusAtExpiry env) ∧
      (Audit.mk (ids.foldl (updateAuction env house) audit.world) audit.escrow).Sound := by
  induction ids generalizing audit with
  | nil => exact ⟨rfl, hsound⟩
  | cons auctionId rest ih =>
    obtain ⟨hfresh, hrest⟩ := List.nodup_cons.mp hnodup
    obtain ⟨hone, hafter, hothers⟩ := updateAuction_total env house hsound auctionId
    obtain ⟨htotal, hend⟩ := ih hrest hafter
    refine ⟨?_, hend⟩
    have hsame : ∀ amount,
        expirySum house (updateAuction env house audit.world auctionId) rest amount =
          expirySum house audit.world rest amount := by
      intro amount
      unfold expirySum
      congr 1
      refine List.map_congr_left fun other hother => ?_
      rw [hothers other fun heq => hfresh (heq ▸ hother)]
    have hcons : ∀ amount, expirySum house audit.world (auctionId :: rest) amount =
        expirySum house audit.world [auctionId] amount +
          expirySum house audit.world rest amount := by
      intro amount
      simp [expirySum]
    simp only [hsame] at htotal
    rw [hcons, hcons, List.foldl_cons]
    omega

theorem selectExpired_nodup (world : World Inventory) (time : Nat) :
    (selectExpired world time).Nodup := by
  unfold selectExpired
  rw [((List.perm_insertionSort _ _).map AuctionEntry.id).nodup_iff]
  exact world.auctions.nodup.sublist (List.filter_sublist.map _)

/-- Cancelling an auction returns the bid; the house keeps the cut and the deposit. -/
theorem removeItem_total (hsound : audit.Sound) (hcharacter : character ∈ audit.world.characters)
    {auctionId : Nat} {item : Item} (hcheck : checkRemoveItem env audit.world circumstances
      character auctionId = some (auction, item)) :
    ∃ after, handleAuctionRemoveItem env audit.world circumstances character auctionId =
        some after ∧
      after.total + ((if auction.bidder = 0 then 0 else (getAuctionCut env auction).toNat) +
        auction.deposit.toNat) = audit.world.total ∧
      (Audit.mk after audit.escrow).Sound := by
  unfold handleAuctionRemoveItem
  rw [hcheck]
  simp only [checkRemoveItem, Option.bind_eq_bind, Option.bind_eq_some_iff, Option.guard_eq_some',
    exists_const, Option.some.injEq, Prod.mk.injEq] at hcheck
  obtain ⟨_, -, found, hfound, -, returned, -, hcovered, rfl, rfl⟩ := hcheck
  obtain ⟨hlive, -⟩ := mem_of_getAuction hfound
  have hfits := hsound.auctions found hlive
  have hreturn (world : World Inventory) : Posted world (world.post
      { receiver := character.low, answer := .canceled, item := some returned }) 0 :=
    posted_post world _
  by_cases hbidder : found.bidder = 0
  · simp only [hbidder, ne_eq, not_true, if_false, if_true, Option.bind_eq_bind, Option.bind_some]
    have hmoved := (hreturn audit.world).moved
    have hescrowed : found.escrowed = 0 := if_pos hbidder
    refine ⟨_, rfl, ?_, hmoved.sound_removeAuction hsound hlive rfl fun _ _ => rfl⟩
    have htotal := hmoved.total_removeAuction hlive rfl
    omega
  · simp only [hbidder, ne_eq, not_false_eq_true, if_true, if_false, Option.bind_eq_bind]
    have hcut : (getAuctionCut env found).toNat ≤ character.money.toNat := by
      simpa [hasEnoughMoney, UInt64.le_iff_toNat_le] using hcovered hbidder
    obtain ⟨paid, hcharge, hpaid⟩ := charge_paid
      (Nat.le_of_lt (hsound.purses character hcharacter)) (getAuctionCut env found) hcut
      (sendBidBack_posted found .cancelledToBidder (hfits.bidder hbidder))
    unfold sendAuctionCancelledToBidderMail
    rw [hcharge, Option.bind_some]
    have hmoved := (hpaid.post (hreturn paid)).moved hcharacter
    have hescrowed : found.escrowed = found.bid.toNat := if_neg hbidder
    refine ⟨_, rfl, ?_, hmoved.sound_removeAuction hsound hlive rfl fun _ _ => rfl⟩
    have htotal := hmoved.total_removeAuction hlive rfl
    omega

end Closing

/-! ## Selling -/

section Selling

variable {audit : Audit Inventory} {character : Character Inventory}
  {env : Environment Inventory} {circumstances : Circumstances} {request : SellRequest}
  {offer : Offer}

/-- The world after the deposit has been charged, with the auction if there is an item. -/
def sold (env : Environment Inventory) (world : World Inventory) (time : Nat)
    (character : Character Inventory) (request : SellRequest) (offer : Offer) (d : Int) :
    World Inventory :=
  let charged := world.setMoney character.low (modifyMoney character.money d)
  let opened := match offeredItem env offer with
    | none => charged
    | some item =>
      openAuction env charged time character.low character.inventory request offer item
  { opened with auctionId := world.auctionId + 1 }

theorem handleAuctionSellItem_eq
    (hcheck : checkSellItem env world circumstances character request = some offer)
    (henough : hasEnoughMoney character.money (offerDeposit env offer).toUInt64 = true) :
    handleAuctionSellItem env world circumstances character request =
      (negSigned 32 (offerDeposit env offer).toNat).map
        (sold env world circumstances.time character request offer) := by
  unfold handleAuctionSellItem
  simp only [hcheck, henough, Bool.not_true, Bool.false_eq_true, if_false, Option.bind_eq_bind]
  cases negSigned 32 (offerDeposit env offer).toNat <;> rfl

theorem mem_setInventory {inventory : Inventory} {after : Character Inventory} :
    after ∈ (world.setInventory low inventory).characters ↔
      ∃ old ∈ world.characters,
        (if old.low = low then { old with inventory := inventory } else old) = after :=
  Table.mem_modify
    (f := fun character : Character Inventory => { character with inventory := inventory })
    fun _ => rfl

theorem purses_setInventory (world : World Inventory) (low : UInt32) (inventory : Inventory) :
    (world.setInventory low inventory).purses = world.purses := by
  unfold World.purses World.setInventory Table.sum Table.modify
  rw [List.map_map]
  congr 1
  refine List.map_congr_left fun character _ => ?_
  simp only [Function.comp_apply]
  split <;> rfl

theorem receiverExists_setInventory (world : World Inventory) (low other : UInt32)
    (inventory : Inventory) :
    (world.setInventory low inventory).receiverExists other = world.receiverExists other := by
  have hget := Table.get?_modify world.characters low other
    (fun character : Character Inventory => { character with inventory := inventory })
    fun _ => rfl
  unfold World.receiverExists World.setInventory
  rw [hget]
  split
  next heq =>
    subst heq
    cases world.characters.get? other <;> rfl
  · rfl

theorem getAuction_new (hsound : audit.Sound) :
    audit.world.auctions.get? audit.world.auctionId = none := by
  rw [Table.get?_eq_none_iff]
  intro auction hauction
  exact Nat.ne_of_lt (hsound.auctions auction hauction).issued

section Sold

variable {world : World Inventory} {time : Nat} {d : Int}

theorem sold_letters :
    (sold env world time character request offer d).letters = world.letters := by
  unfold sold
  cases offeredItem env offer <;> rfl

theorem sold_purses :
    (sold env world time character request offer d).purses =
      (world.setMoney character.low (modifyMoney character.money d)).purses := by
  unfold sold
  cases offeredItem env offer with
  | none => rfl
  | some item => exact purses_setInventory _ _ _

theorem sold_receiverExists (low : UInt32) :
    (sold env world time character request offer d).receiverExists low =
      world.receiverExists low := by
  rw [← receiverExists_setMoney world character.low low (modifyMoney character.money d)]
  unfold sold
  cases offeredItem env offer with
  | none => rfl
  | some item => exact receiverExists_setInventory _ _ _ _

theorem sold_held (hnew : world.auctions.get? world.auctionId = none) :
    (sold env world time character request offer d).held =
      world.held + if (offeredItem env offer).isSome then (offerDeposit env offer).toNat else 0 := by
  unfold sold
  cases offeredItem env offer with
  | none => rfl
  | some item =>
    have hkey : world.auctions.get? (Keyed.key (newAuction env world time character.low request
      offer item)) = none := hnew
    have hsum := Table.sum_insert hkey (Rearrangement.keep AuctionEntry)
      fun auction => auction.escrowed + auction.deposit.toNat
    have hescrowed :
        (newAuction env world time character.low request offer item).escrowed = 0 := rfl
    have hdeposit : (newAuction env world time character.low request offer item).deposit.toNat =
        (offerDeposit env offer).toNat := UInt32.toNat_toUInt64 _
    rw [hescrowed, hdeposit, Nat.zero_add] at hsum
    exact hsum

theorem mem_sold_auctions
    (hauction : auction ∈ (sold env world time character request offer d).auctions) :
    auction ∈ world.auctions ∨
      ∃ item, auction = newAuction env world time character.low request offer item := by
  unfold sold at hauction
  cases hitem : offeredItem env offer with
  | none =>
    rw [hitem] at hauction
    exact Or.inl hauction
  | some item =>
    rw [hitem] at hauction
    rcases Table.mem_insert.mp hauction with hnew | ⟨hold, -⟩
    · exact Or.inr ⟨item, hnew⟩
    · exact Or.inl hold

theorem mem_sold_characters
    (hother : other ∈ (sold env world time character request offer d).characters) :
    ∃ old ∈ (world.setMoney character.low (modifyMoney character.money d)).characters,
      old.low = other.low ∧ old.money = other.money := by
  unfold sold at hother
  cases hitem : offeredItem env offer with
  | none =>
    rw [hitem] at hother
    exact ⟨other, hother, rfl, rfl⟩
  | some item =>
    rw [hitem] at hother
    obtain ⟨old, hold, hupdate⟩ := mem_setInventory.mp hother
    refine ⟨old, hold, ?_⟩
    subst hupdate
    split <;> exact ⟨rfl, rfl⟩

end Sold

/-- A sale moves the deposit into the auction, if there is one. -/
theorem sold_total (env : Environment Inventory) (hsound : audit.Sound)
    (hcharacter : character ∈ audit.world.characters) (time : Nat) (request : SellRequest)
    (offer : Offer) (d : Int) :
    (sold env audit.world time character request offer d).total + character.money.toNat =
      audit.world.total + (modifyMoney character.money d).toNat +
        (if (offeredItem env offer).isSome then (offerDeposit env offer).toNat else 0) := by
  have hpurses := purses_setMoney hcharacter (modifyMoney character.money d)
  unfold World.total
  rw [sold_letters, sold_purses, sold_held (getAuction_new hsound)]
  omega

theorem sold_sound (env : Environment Inventory) (hsound : audit.Sound)
    (hcharacter : character ∈ audit.world.characters) (hworld : character.inWorld = true)
    (time : Nat) (request : SellRequest) (offer : Offer)
    {d : Int} (hdebit : (modifyMoney character.money d).toNat ≤ character.money.toNat) :
    (Audit.mk (sold env audit.world time character request offer d) audit.escrow).Sound := by
  have hexists : ∀ low, (sold env audit.world time character request offer d).receiverExists
      low = audit.world.receiverExists low := sold_receiverExists
  have hid : (sold env audit.world time character request offer d).auctionId =
      audit.world.auctionId + 1 := rfl
  refine hsound.of_fits ?_ ?_ ?_
  · intro other hother
    obtain ⟨middle, hmiddle, hlow, hmoney⟩ := mem_sold_characters hother
    obtain ⟨old, hold, hupdate⟩ := mem_setMoney.mp hmiddle
    refine ⟨old, hold, ?_⟩
    rw [← hlow, ← hmoney, ← hupdate]
    split
    next hsame =>
      obtain rfl : old = character := Table.eq_of_key_eq hold hcharacter hsame
      exact ⟨rfl, hdebit⟩
    · exact ⟨rfl, Nat.le_refl _⟩
  · intro auctionId hauctionId
    exact hsound.unused auctionId (by omega)
  · intro auction hauction
    rcases mem_sold_auctions hauction with hold | ⟨item, rfl⟩
    · exact (hsound.auctions auction hold).transfer hexists (by omega) rfl
    · refine ⟨(hexists _).trans (receiverExists_of_inWorld hcharacter hworld),
        fun hbidder => absurd rfl hbidder, Nat.zero_le _, ?_, by rw [hid]; exact Nat.lt_succ_self _,
        hsound.unused _ (Nat.le_refl _), fun _ => rfl, ?_⟩
      · have hdeposit : (newAuction env audit.world time character.low request offer
            item).deposit.toNat = (offerDeposit env offer).toNat := UInt32.toNat_toUInt64 _
        rw [hdeposit]
        exact (offerDeposit env offer).toNat_lt
      · intro hbuyout
        exact UInt64.pos_iff_ne_zero.mpr hbuyout

end Selling

/-! ## Events -/

/-- The run is defined so far, and its world is sound. -/
def Stands : Option (Audit Inventory) → Prop
  | none => False
  | some audit => audit.Sound

section Events

variable {audit : Audit Inventory} {env : Environment Inventory} {event : Event}

/-- What is shown of each event: it conserves gold exactly if it is covered, and then leaves
a sound world. -/
def Settles (env : Environment Inventory) (audit : Audit Inventory) (event : Event) : Prop :=
  (Conserves env (some audit) event ↔ Covered env (some audit) event) ∧
    (Covered env (some audit) event → Stands (auditStep env (some audit) event))

/-- An event that always leaves a sound world, and creates gold unless it is covered. -/
theorem settles_of_total (extra : Nat) (hperform : perform env audit.world event = some after)
    (htotal : after.total + kept env audit.world event = audit.world.total + extra)
    (hafter : (Audit.mk after (record audit event after)).Sound)
    (hextra : extra = 0 ↔ Covered env (some audit) event) : Settles env audit event := by
  constructor
  · rw [← hextra]
    constructor
    · rintro ⟨other, hother, hconserved, -⟩
      obtain rfl := Option.some.inj (hperform.symm.trans hother)
      omega
    · intro hzero
      exact ⟨after, hperform, by omega, fun auction hauction =>
        (hafter.auctions auction hauction).sound⟩
  · intro _
    simp only [auditStep, hperform, Option.map_some]
    exact hafter

theorem record_self (audit : Audit Inventory) (event : Event) :
    record audit event audit.world = audit.escrow := by
  unfold record
  split
  · simp
  · rfl

theorem settles_of_refused (hsound : audit.Sound)
    (hperform : perform env audit.world event = some audit.world)
    (hkept : kept env audit.world event = 0) (hcovered : Covered env (some audit) event) :
    Settles env audit event := by
  refine settles_of_total 0 hperform (by rw [hkept]) ?_ ⟨fun _ => hcovered, fun _ => rfl⟩
  rw [record_self]
  exact hsound

theorem settles_update (hsound : audit.Sound) (house : House) (time : Nat) :
    Settles env audit (.update house time) := by
  obtain ⟨htotal, hafter⟩ := foldl_updateAuction_total env house _
    (selectExpired_nodup audit.world time) hsound
  refine settles_of_total _ rfl htotal hafter ?_
  unfold expirySum Covered
  simp only [List.sum_eq_zero_iff_forall_eq_nat, List.mem_map, forall_exists_index, and_imp,
    forall_apply_eq_imp_iff₂]
  refine forall₂_congr fun auctionId _ => ?_
  cases audit.world.getAuction house auctionId with
  | none => simp
  | some auction => simpa using surplusAtExpiry_eq_zero_iff env auction

section Requests

variable {character : Character Inventory} (circumstances : Circumstances)

theorem settles_removeItem (hsound : audit.Sound)
    (hplayer : audit.world.player character.low = some character) (auctionId : Nat) :
    Settles env audit (.request character.low circumstances (.removeItem auctionId)) := by
  obtain ⟨hcharacter, -, -⟩ := mem_of_player hplayer
  cases hcheck : checkRemoveItem env audit.world circumstances character auctionId with
  | none =>
    refine settles_of_refused hsound ?_ ?_ trivial
    · simp only [perform, hplayer, handleAuctionRemoveItem, hcheck]
    · simp only [kept, hplayer, hcheck]
  | some found =>
    obtain ⟨auction, item⟩ := found
    obtain ⟨after, hafter, htotal, hsound'⟩ := removeItem_total hsound hcharacter hcheck
    have hperform : perform env audit.world
        (.request character.low circumstances (.removeItem auctionId)) = some after := by
      simpa only [perform, hplayer] using hafter
    refine settles_of_total 0 hperform ?_ hsound' ⟨fun _ => trivial, fun _ => rfl⟩
    simpa only [kept, hplayer, hcheck, Nat.add_zero] using htotal

theorem settles_placeBid (hsound : audit.Sound)
    (hplayer : audit.world.player character.low = some character) (auctionId : Nat)
    (price : UInt64) :
    Settles env audit (.request character.low circumstances (.placeBid auctionId price)) := by
  obtain ⟨hcharacter, -, hworld⟩ := mem_of_player hplayer
  cases hcheck : checkPlaceBid env audit.world circumstances character auctionId price with
  | none =>
    refine settles_of_refused hsound ?_ ?_ ?_
    · simp only [perform, hplayer, handleAuctionPlaceBid, hcheck]
    · simp only [kept, hplayer, hcheck]
    · simp [Covered, hplayer, hcheck]
  | some auction =>
    have haccepted := accepted_of_checkPlaceBid hcheck
    cases hbid : isBid auction price with
    | true =>
      obtain ⟨paid, hpay, htotal, hafter⟩ :=
        bid_conserves circumstances hsound hcharacter hworld haccepted hbid
      refine settles_of_total 0 ?_ ?_ hafter ?_
      · simp [perform, hplayer, handleAuctionPlaceBid, hcheck, hbid, hpay]
      · simpa [kept, hplayer, hcheck, hbid] using htotal
      · simp [Covered, hplayer, hcheck, hbid]
    | false =>
      obtain ⟨paid, hpay, htotal, hafter⟩ :=
        buyout_total env circumstances hsound hcharacter haccepted hbid
      refine settles_of_total (surplus env (auction.withBid character.low auction.buyout))
        ?_ ?_ hafter ?_
      · simp [perform, hplayer, handleAuctionPlaceBid, hcheck, hbid, hpay, closeSale]
      · simpa [kept, hplayer, hcheck, hbid] using htotal
      · simp [Covered, hplayer, hcheck, hbid, surplus_eq_zero_iff]

/-- The charge of a deposit is exact, or nothing is charged when nothing is sold. -/
theorem deposit_charged_iff {offer : Offer} (hlimit : character.money.toNat < maxMoneyAmount)
    (henough : hasEnoughMoney character.money (offerDeposit env offer).toUInt64 = true) :
    (∃ d, negSigned 32 (offerDeposit env offer).toNat = some d ∧
        (modifyMoney character.money d).toNat +
          (if (offeredItem env offer).isSome then (offerDeposit env offer).toNat else 0) =
            character.money.toNat) ↔
      (offerDeposit env offer).toNat < 2 ^ 31 ∧
        ((offeredItem env offer).isSome = true ∨ offerDeposit env offer = 0) := by
  have hle : (offerDeposit env offer).toNat ≤ character.money.toNat := by
    simpa [hasEnoughMoney, UInt64.le_iff_toNat_le] using henough
  cases (offeredItem env offer).isSome with
  | true =>
    simp only [if_true, true_or, and_true]
    exact modifyMoney_negSigned_32_exact_iff (Nat.le_of_lt hlimit) hle
  | false =>
    simp only [Bool.false_eq_true, if_false, Nat.add_zero, false_or]
    rw [modifyMoney_negSigned_32_same_iff hlimit hle (offerDeposit env offer).toNat_lt]
    constructor
    · exact fun hzero => ⟨by omega, UInt32.toNat.inj hzero⟩
    · rintro ⟨-, hzero⟩
      rw [hzero]
      rfl

theorem settles_sellItem (hsound : audit.Sound)
    (hplayer : audit.world.player character.low = some character) (request : SellRequest) :
    Settles env audit (.request character.low circumstances (.sellItem request)) := by
  obtain ⟨hcharacter, -, hworld⟩ := mem_of_player hplayer
  have hkept : kept env audit.world (.request character.low circumstances (.sellItem request)) =
      0 := by simp only [kept, hplayer]
  cases hcheck : checkSellItem env audit.world circumstances character request with
  | none =>
    refine settles_of_refused hsound ?_ hkept ?_
    · simp only [perform, hplayer, handleAuctionSellItem, hcheck]
    · simp [Covered, hplayer, hcheck]
  | some offer =>
    cases henough : hasEnoughMoney character.money (offerDeposit env offer).toUInt64 with
    | false =>
      refine settles_of_refused hsound ?_ hkept ?_
      · simp [perform, hplayer, handleAuctionSellItem, hcheck, henough]
      · simp [Covered, hplayer, hcheck, henough]
    | true =>
      have hperform : perform env audit.world (.request character.low circumstances
          (.sellItem request)) = (negSigned 32 (offerDeposit env offer).toNat).map
            (sold env audit.world circumstances.time character request offer) := by
        simp only [perform, hplayer, handleAuctionSellItem_eq hcheck henough]
      have hcharged := deposit_charged_iff (hsound.purses character hcharacter) henough
      have hcovered : Covered env (some audit) (.request character.low circumstances
          (.sellItem request)) ↔ (offerDeposit env offer).toNat < 2 ^ 31 ∧
            ((offeredItem env offer).isSome = true ∨ offerDeposit env offer = 0) := by
        simp [Covered, hplayer, hcheck, henough]
      have htotal := sold_total env hsound hcharacter circumstances.time request offer
      have hend (d : Int) (hexact : (modifyMoney character.money d).toNat +
          (if (offeredItem env offer).isSome then (offerDeposit env offer).toNat else 0) =
            character.money.toNat) :=
        sold_sound env hsound hcharacter hworld circumstances.time request offer (d := d)
          (by omega)
      unfold Settles
      rw [hcovered, ← hcharged]
      refine ⟨⟨?_, ?_⟩, ?_⟩
      · rintro ⟨after, hafter, hconserved, -⟩
        rw [hperform, Option.map_eq_some_iff] at hafter
        obtain ⟨d, hd, rfl⟩ := hafter
        have htotal := htotal d
        exact ⟨d, hd, by omega⟩
      · rintro ⟨d, hd, hexact⟩
        have htotal := htotal d
        refine ⟨_, by rw [hperform, hd]; rfl, by omega, ?_⟩
        exact fun auction hauction => ((hend d hexact).auctions auction hauction).sound
      · rintro ⟨d, hd, hexact⟩
        simp only [auditStep, hperform, hd, Option.map_some]
        exact hend d hexact

end Requests

theorem settles (env : Environment Inventory) (hsound : audit.Sound) (event : Event) :
    Settles env audit event := by
  cases event with
  | update house time => exact settles_update hsound house time
  | request low circumstances request =>
    cases hplayer : audit.world.player low with
    | none =>
      refine settles_of_refused hsound ?_ ?_ ?_
      · simp only [perform, hplayer]
      · simp only [kept, hplayer]
      · cases request <;> simp [Covered, hplayer]
    | some character =>
      obtain ⟨-, rfl, -⟩ := mem_of_player hplayer
      cases request with
      | sellItem request => exact settles_sellItem circumstances hsound hplayer request
      | placeBid auctionId price =>
        exact settles_placeBid circumstances hsound hplayer auctionId price
      | removeItem auctionId =>
        exact settles_removeItem circumstances hsound hplayer auctionId

end Events

/-- Along every run from a sound world gold changes only by what the houses keep, and every
live auction holds exactly its bid, if and only if all deposits are below the sign bit and
taken for an auction, and all cuts are covered by the sales. -/
theorem gold_conserved_iff_covered (env : Environment Inventory) (audit : Audit Inventory)
    (hsound : audit.Sound) (events : List Event) :
    Along (auditStep env) (Conserves env) (some audit) events ↔
      Along (auditStep env) (Covered env) (some audit) events := by
  refine along_iff_of_invariant (auditStep env) Stands ?_ ?_ (some audit) events hsound
  · intro state event hstate hcovered
    cases state with
    | none => exact hstate.elim
    | some audit => exact (settles env hstate event).2 hcovered
  · intro state event hstate
    cases state with
    | none => exact hstate.elim
    | some audit => exact (settles env hstate event).1

/-! ## A large deposit -/

/-- Rates of one, and bags that are lists of stacks. -/
def plainEnvironment : Environment (List Item) where
  gmLogTrade := false
  calculateDeposit entry time item count :=
    let share := entry.depositPercent.toNat * 3 * item.sellPrice.toNat * count.toNat
    UInt32.ofNat (max 100 (share * (time.toNat / minAuctionTime.toNat) / 100))
  calculateCut entry bid := UInt64.ofNat (bid.toNat * entry.cutPercent.toNat / 100)
  fivePercent bid := UInt64.ofNat (bid.toNat * 5 / 100)
  auctionTime := id
  getItemByGuid items guid := items.find? fun item => item.guid = guid
  hasItemCount items entry count :=
    count.toNat ≤ ((items.filter fun item => item.entry = entry).map fun item =>
      item.count.toNat).sum
  moveItemFromInventory items item := items.filter fun other => other.guid ≠ item.guid
  setCount items item count :=
    items.map fun other => if other.guid = item.guid then { other with count := count } else other
  cloneItem item count := some { item with guidLow := item.guidLow + 1000, count := count }

/-- A stack of forty items that a vendor buys for 1000 gold each. -/
def preciousStack : Item where
  guid := 7
  guidLow := 7
  entry := 52
  count := 40
  maxStackCount := 200
  sellPrice := 10000000
  canBeTraded := true
  isNotEmptyBag := false
  isConjured := false
  duration := 0

/-- A seller with 500000 gold and the precious stack, and a buyer. -/
def market : World (List Item) where
  characters :=
    ⟨[⟨1, 10, true, 5000000000, [preciousStack]⟩, ⟨2, 20, true, 1000000, []⟩], by decide⟩
  auctions := Table.empty
  auctionItems := fun _ => none
  letters := []
  auctionId := 1

def neutralHouse : Circumstances where
  time := 0
  auctioneer := some ⟨.neutral, some ⟨7, 75, 15⟩⟩

/-- Offer some of the stack for a start bid of 100 and a buyout of 1000, for 48 hours. -/
def offerStack (count : UInt32) : Event :=
  .request 1 neutralHouse (.sellItem ⟨100, 1000, 2880, [(7, count)]⟩)

def freshAudit : Audit (List Item) := ⟨market, fun _ => 0⟩

theorem freshAudit_sound : freshAudit.Sound where
  counters := by decide
  purses := by decide
  unused _ _ := rfl
  auctions _ hauction := absurd hauction List.not_mem_nil

/-- One item is sold for a bid, an outbid and a buyout; a smaller deposit. -/
theorem gold_conserved_bids :
    freshAudit.Sound ∧
      Along (auditStep plainEnvironment) (Conserves plainEnvironment) (some freshAudit)
        [offerStack 1, .request 2 neutralHouse (.placeBid 1 100),
          .request 2 neutralHouse (.placeBid 1 300),
          .request 2 neutralHouse (.placeBid 1 1000)] := by
  exact ⟨freshAudit_sound, (gold_conserved_iff_covered plainEnvironment freshAudit
    freshAudit_sound _).mpr (by decide +kernel)⟩

/-- The deposit for all forty items is 360000 gold, and the seller is credited with almost
70000 gold. -/
theorem gold_created_by_deposit :
    freshAudit.Sound ∧
      (auditStep plainEnvironment (some freshAudit) (offerStack 40)).map
        (fun audit => (audit.world.purse 1, audit.world.held)) = some (5694967296, 3600000000) ∧
      ¬ Along (auditStep plainEnvironment) (Conserves plainEnvironment) (some freshAudit)
        [offerStack 40] := by
  refine ⟨freshAudit_sound, by decide +kernel, ?_⟩
  rintro ⟨hconserves, -⟩
  have hcovered := (settles plainEnvironment freshAudit_sound (offerStack 40)).1.mp hconserves
  exact absurd hcovered (by decide +kernel)

end MopServer.Auctions
