import MopServer.BlackMarket.BlackMarketMgr
import MopServer.Entities.Money
import MopServer.Foundation.Run

/-! # Bids on the black market

A bid is charged to the bidder and mailed back when another player outbids it.  The check of the
price exempts the starting bid, for the sake of the first bid; the exemption stays when there are
other bids.
-/

namespace MopServer.BlackMarket

open MopServer.Foundation

/-- A request to bid, with what the handler sees of the player. -/
structure BidRequest where
  guidLow : Nat
  guidLow_ne : guidLow ≠ 0 := by decide
  money : UInt64
  canInteract : Bool
  price : UInt64
  id : Nat

/-- An amount of money and the player who pays or gets it. -/
structure Payment where
  guidLow : Nat
  money : Int
  deriving DecidableEq

/-- What becomes of a request.  Negating the price is undefined for one price. -/
inductive BidResult
  | rejected
  | undefined
  | accepted (mgr : BlackMarketMgr) (money : UInt64) (refund : Option Payment)

namespace BMAuctionEntry

variable (auction : BMAuctionEntry)

/-- The mail of `SendAuctionOutbidded`. -/
def outbidMail : Option Payment :=
  if auction.bidder ≠ 0 then some ⟨auction.bidder, auction.bid⟩ else none

def bidTooLow (price : UInt64) : Bool :=
  price.toNat ≤ auction.bid && price.toNat ≠ auction.bmTemplate.startBid

end BMAuctionEntry

/-- `HandleBlackMarketBid`. -/
def handleBlackMarketBid (mgr : BlackMarketMgr) (request : BidRequest) : BidResult :=
  if request.price = 0 then .rejected
  else if !request.canInteract then .rejected
  else
    match mgr.auctions.get? request.id with
    | none => .rejected
    | some auction =>
      if auction.bidder = request.guidLow then .rejected
      else if !hasEnoughMoney request.money request.price then .rejected
      else if auction.bidTooLow request.price then .rejected
      else
        match negSigned 64 request.price.toNat with
        | none => .undefined
        | some d =>
          .accepted (mgr.updateAuction request.id request.price.toNat request.guidLow)
            (modifyMoney request.money d) auction.outbidMail

/-- The market, and for each auction who has been charged for the current bid, and how much. -/
structure Market where
  mgr : BlackMarketMgr
  charged : Nat → Option Payment

namespace Market

variable (market : Market) (request : BidRequest)

def step : Market :=
  match handleBlackMarketBid market.mgr request with
  | .rejected => market
  | .undefined => market
  | .accepted mgr money _ =>
    { mgr := mgr
      charged := fun id =>
        if id = request.id then
          some ⟨request.guidLow, request.money.toNat - money.toNat⟩
        else market.charged id }

/-- An accepted bid refunds what has been charged for the bid before, if there is one, and
exceeds it. -/
def IsFair : Prop :=
  match handleBlackMarketBid market.mgr request with
  | .rejected => True
  | .undefined => False
  | .accepted _ _ refund =>
    refund = market.charged request.id ∧
      ∀ auction, market.mgr.auctions.get? request.id = some auction →
        market.charged request.id ≠ none → auction.bid < request.price.toNat

/-- The request passes the checks that do not look at the amount of the current bid. -/
def MayBid (auction : BMAuctionEntry) (request : BidRequest) : Prop :=
  request.price ≠ 0 ∧ request.canInteract = true ∧ auction.bidder ≠ request.guidLow ∧
    hasEnoughMoney request.money request.price = true

/-- The starting bid is not offered again on an auction that has a bid. -/
def IsNotReopened : Prop :=
  ∀ auction, market.mgr.auctions.get? request.id = some auction → MayBid auction request →
    ¬ (auction.bidder ≠ 0 ∧ request.price.toNat = auction.bmTemplate.startBid ∧
      auction.bmTemplate.startBid ≤ auction.bid)

/-- The standing bids are the charges. -/
def IsCharged : Prop :=
  ∀ id auction, market.mgr.auctions.get? id = some auction →
    market.charged id = auction.outbidMail

/-! ## One request -/

variable {request : BidRequest} {auction : BMAuctionEntry} {market : Market} (mgr : BlackMarketMgr)

/-- Who may bid pays exactly the price. -/
theorem exists_charge (hprice : request.price ≠ 0)
    (henough : hasEnoughMoney request.money request.price = true)
    (hsmall : request.price.toNat < 2 ^ 63) :
    ∃ d, negSigned 64 request.price.toNat = some d ∧
      (request.money.toNat : Int) - (modifyMoney request.money d).toNat =
        request.price.toNat := by
  have hle : request.price.toNat ≤ request.money.toNat := by
    simpa [hasEnoughMoney, UInt64.le_iff_toNat_le] using henough
  have hpos : 0 < request.price.toNat :=
    Nat.pos_of_ne_zero fun hzero => hprice (UInt64.toNat_inj.mp hzero)
  refine ⟨_, negSigned_of_lt (by decide) hsmall, ?_⟩
  rw [toNat_modifyMoney_neg hpos hle]
  omega

theorem not_hasEnoughMoney_of_lt {money price : UInt64} (hlt : money < price) :
    hasEnoughMoney money price = false := by
  simpa [hasEnoughMoney] using hlt

theorem handleBlackMarketBid_cases
    (hsmall : request.price.toNat < 2 ^ 63 ∨ request.money < request.price) :
    handleBlackMarketBid mgr request = .rejected ∧
        (∀ auction, mgr.auctions.get? request.id = some auction → MayBid auction request →
          auction.bidTooLow request.price = true) ∨
      ∃ auction money, mgr.auctions.get? request.id = some auction ∧ MayBid auction request ∧
        auction.bidTooLow request.price = false ∧
        (request.money.toNat : Int) - money.toNat = request.price.toNat ∧
        handleBlackMarketBid mgr request =
          .accepted (mgr.updateAuction request.id request.price.toNat request.guidLow) money
            auction.outbidMail := by
  unfold handleBlackMarketBid
  by_cases hprice : request.price = 0
  · exact .inl ⟨if_pos hprice, fun _ _ hmay => absurd hprice hmay.1⟩
  rw [if_neg hprice]
  cases hinteract : request.canInteract with
  | false => exact .inl ⟨rfl, fun _ _ hmay => absurd hmay.2.1 (by simp [hinteract])⟩
  | true =>
    cases hauction : mgr.auctions.get? request.id with
    | none => exact .inl ⟨rfl, fun _ hget => by cases hget⟩
    | some auction =>
      simp only [Bool.not_true, Bool.false_eq_true, if_false, Option.some.injEq]
      by_cases hown : auction.bidder = request.guidLow
      · rw [if_pos hown]
        exact .inl ⟨rfl, fun _ heq hmay => absurd hown (heq ▸ hmay.2.2.1)⟩
      rw [if_neg hown]
      cases henough : hasEnoughMoney request.money request.price with
      | false => exact .inl ⟨rfl, fun _ _ hmay => absurd hmay.2.2.2 (by simp [henough])⟩
      | true =>
        have hmay : MayBid auction request := ⟨hprice, hinteract, hown, henough⟩
        cases hlow : auction.bidTooLow request.price with
        | true => exact .inl ⟨rfl, fun _ heq _ => heq ▸ hlow⟩
        | false =>
          right
          have hcovered : request.price.toNat < 2 ^ 63 :=
            hsmall.resolve_right fun hlt => by
              simp [not_hasEnoughMoney_of_lt hlt] at henough
          obtain ⟨d, hd, hcharge⟩ := exists_charge hprice henough hcovered
          refine ⟨auction, modifyMoney request.money d, rfl, hmay, hlow, hcharge, ?_⟩
          simp [hd]

theorem outbidMail_ne_none_iff : auction.outbidMail ≠ none ↔ auction.bidder ≠ 0 := by
  unfold BMAuctionEntry.outbidMail
  split
  next hbidder => simp [hbidder]
  next hnone => simpa using hnone

theorem bidTooLow_iff {price : UInt64} :
    auction.bidTooLow price = true ↔
      price.toNat ≤ auction.bid ∧ price.toNat ≠ auction.bmTemplate.startBid := by
  simp [BMAuctionEntry.bidTooLow]

/-- A request is treated fairly exactly if it does not offer the starting bid again. -/
theorem isFair_iff (hcharged : market.IsCharged)
    (hsmall : request.price.toNat < 2 ^ 63 ∨ request.money < request.price) :
    market.IsFair request ↔ market.IsNotReopened request := by
  rcases handleBlackMarketBid_cases market.mgr hsmall with ⟨hrejected, hlow⟩ |
    ⟨auction, money, hauction, hmay, hlow, -, haccepted⟩
  · refine iff_of_true (by simp [IsFair, hrejected]) ?_
    intro auction hauction hmay hreopened
    exact (bidTooLow_iff.mp (hlow auction hauction hmay)).2 hreopened.2.1
  · have hmail := hcharged request.id auction hauction
    have hhigh : ¬ (request.price.toNat ≤ auction.bid ∧
        request.price.toNat ≠ auction.bmTemplate.startBid) := by
      rw [← bidTooLow_iff, hlow]
      exact Bool.false_ne_true
    simp only [IsFair, IsNotReopened, haccepted, hauction, hmail, Option.some.injEq,
      forall_eq', true_and, outbidMail_ne_none_iff]
    constructor
    · rintro hfair - ⟨hbidder, hstart, hbelow⟩
      omega
    · intro hnot hbidder
      by_contra hbelow
      have hstart : request.price.toNat = auction.bmTemplate.startBid := by
        by_contra hother
        exact hhigh ⟨Nat.le_of_not_lt hbelow, hother⟩
      exact hnot hmay ⟨hbidder, hstart, by omega⟩

theorem isCharged_step (hcharged : market.IsCharged)
    (hsmall : request.price.toNat < 2 ^ 63 ∨ request.money < request.price) :
    (market.step request).IsCharged := by
  rcases handleBlackMarketBid_cases market.mgr hsmall with ⟨hrejected, -⟩ |
    ⟨auction, money, hauction, -, -, hcharge, haccepted⟩
  · rw [step, hrejected]
    exact hcharged
  · intro id other hother
    rw [step, haccepted] at hother ⊢
    simp only [BlackMarketMgr.updateAuction, hauction] at hother
    rw [Table.get?_modify] at hother
    by_cases hid : id = request.id
    · subst hid
      rw [if_pos rfl, hauction, Option.map_some, Option.some.injEq] at hother
      subst hother
      have hguid := request.guidLow_ne
      simp [BMAuctionEntry.outbidMail, hguid, hcharge]
    · rw [if_neg hid] at hother
      simpa [hid] using hcharged id other hother

/-! ## Every sequence of requests -/

theorem along_isFair_iff {requests : List BidRequest} (hcharged : market.IsCharged)
    (hsmall : ∀ request ∈ requests, request.price.toNat < 2 ^ 63 ∨ request.money < request.price) :
    Along step IsFair market requests ↔ Along step IsNotReopened market requests := by
  induction requests generalizing market with
  | nil => exact Iff.rfl
  | cons request rest ih =>
    have hhead := hsmall request List.mem_cons_self
    exact and_congr (isFair_iff hcharged hhead)
      (ih (isCharged_step hcharged hhead) fun other hother =>
        hsmall other (List.mem_cons_of_mem _ hother))

/-- The market with the bids that stand. -/
def start (mgr : BlackMarketMgr) : Market where
  mgr := mgr
  charged := fun id => (mgr.auctions.get? id).bind BMAuctionEntry.outbidMail

theorem isCharged_start : (start mgr).IsCharged := by
  intro id auction hauction
  change mgr.auctions.get? id = some auction at hauction
  change (mgr.auctions.get? id).bind BMAuctionEntry.outbidMail = auction.outbidMail
  rw [hauction, Option.bind_some]

/-- As long as nobody who owns that much offers `2 ^ 63` copper or more, the requests are all
treated fairly exactly if none of them offers the starting bid again. -/
theorem fair_iff_notReopened (mgr : BlackMarketMgr) {requests : List BidRequest}
    (hsmall : ∀ request ∈ requests,
      request.price.toNat < 2 ^ 63 ∨ request.money < request.price) :
    Along step IsFair (start mgr) requests ↔ Along step IsNotReopened (start mgr) requests :=
  along_isFair_iff (isCharged_start mgr) hsmall

/-- An auction of one item that starts at a hundred copper. -/
def mountMarket : BlackMarketMgr where
  templates := Table.empty
  auctions := Table.empty.insert
    { id := 1
      templateId := 7
      startTime := 0
      bid := 100
      bidder := 0
      bidderCount := 0
      bmTemplate :=
        { id := 7
          itemEntry := 44151
          itemCount := 1
          seller := 62943
          duration := 86400
          startBid := 100
          chance := 50 } }
    (.keep _)
  stored := Table.empty

/-- A bid of a player with a thousand copper. -/
def offer (guidLow : Nat) (price : UInt64) (hguidLow : guidLow ≠ 0 := by decide) : BidRequest where
  guidLow := guidLow
  guidLow_ne := hguidLow
  money := 1000
  canInteract := true
  price := price
  id := 1

/-- The second bid is higher, and the first bidder gets his hundred back. -/
theorem fair_iff_notReopened_rising :
    Along step IsFair (start mountMarket) [offer 1 100, offer 2 200] := by
  refine (fair_iff_notReopened mountMarket (by decide)).mpr ⟨?_, ?_, trivial⟩
  · rintro auction hget - ⟨hbidder, -⟩
    obtain rfl := Option.some.inj hget
    exact hbidder rfl
  · rintro auction hget - ⟨-, hstart, -⟩
    obtain rfl := Option.some.inj hget
    cases hstart

/-- A third player gets the auction back to its starting bid. -/
theorem not_always_fair : ¬ ∀ mgr requests, Along step IsFair (start mgr) requests := by
  intro hall
  have hfair := hall mountMarket [offer 1 100, offer 2 200, offer 3 100]
  obtain ⟨-, -, ⟨-, hexceeds⟩, -⟩ := hfair
  have hlower := hexceeds _ rfl (by decide)
  exact absurd hlower (by decide)

end Market

end MopServer.BlackMarket
