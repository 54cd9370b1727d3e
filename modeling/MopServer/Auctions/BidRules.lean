import MopServer.Auctions.AuctionRows

/-! # Rules of bidding

An event leaves an auction as it is, raises the bid on it, ends it or puts a new one up.
-/

namespace MopServer.Auctions

open MopServer.Foundation

variable {Inventory : Type} {env : Environment Inventory} {world middle after : World Inventory}
  {auction : AuctionEntry} {character : Character Inventory} {price : UInt64}

/-- A bid is not the owner's, and it is between the start bid and the buyout. -/
structure AuctionEntry.Fair (auction : AuctionEntry) : Prop where
  bid : auction.bid ≠ 0 → auction.bidder ≠ auction.owner ∧ auction.startbid ≤ auction.bid
  below : auction.buyout ≠ 0 → auction.bid < auction.buyout

/-- The auctions are fair and have ids that are used up. -/
def World.Fair (world : World Inventory) : Prop :=
  ∀ auction ∈ world.auctions, auction.id < world.auctionId ∧ auction.Fair

/-- No id is used again, and an auction that is left keeps its terms and has no lower bid. -/
structure Continues (world after : World Inventory) : Prop where
  fair : after.Fair
  counter : world.auctionId ≤ after.auctionId
  rises : ∀ later ∈ after.auctions, later.id < world.auctionId →
    ∃ auction ∈ world.auctions, auction.bid ≤ later.bid ∧
      ∃ bidder, later = auction.withBid bidder later.bid

theorem continues_refl (hfair : world.Fair) : Continues world world :=
  ⟨hfair, le_rfl, fun later hlater _ => ⟨later, hlater, UInt64.le_refl _, later.bidder, rfl⟩⟩

section

variable (hfirst : Continues world middle)

include hfirst

/-- Two steps that keep the rules keep them together. -/
theorem Continues.trans (hsecond : Continues middle after) : Continues world after where
  fair := hsecond.fair
  counter := hfirst.counter.trans hsecond.counter
  rises last hlast hid := by
    obtain ⟨later, hlater, hraised, bidder, heq⟩ :=
      hsecond.rises last hlast (hid.trans_le hfirst.counter)
    rw [heq] at hid
    obtain ⟨auction, hauction, hbid, _, hsame⟩ := hfirst.rises later hlater hid
    refine ⟨auction, hauction, UInt64.le_trans hbid hraised, bidder, ?_⟩
    rw [heq, hsame]
    rfl

/-! ## Letters and money -/

theorem Continues.mail (condition : Bool) (letter : Letter) :
    Continues world (if condition then middle.post letter else middle) := by
  cases condition <;> exact ⟨hfirst.fair, hfirst.counter, hfirst.rises⟩

theorem Continues.wonMail : Continues world (sendAuctionWonMail env middle auction) := by
  unfold sendAuctionWonMail
  split
  · exact hfirst
  · exact hfirst.mail _ _

theorem Continues.charge (hcharge : charge middle character price = some after) :
    Continues world after := by
  unfold Auctions.charge at hcharge
  obtain ⟨_, -, hafter⟩ := Option.bind_eq_some_iff.mp hcharge
  cases hafter
  exact ⟨hfirst.fair, hfirst.counter, hfirst.rises⟩

theorem Continues.removeAuction : Continues world (middle.removeAuction auction) where
  fair later hlater := hfirst.fair later (mem_removeAuction.mp hlater).1
  counter := hfirst.counter
  rises later hlater := hfirst.rises later (mem_removeAuction.mp hlater).1

end

variable (hfair : world.Fair)

include hfair

theorem continues_payBid (hpay : payBid world character auction price = some after) :
    Continues world after := by
  have hself := continues_refl hfair
  unfold payBid at hpay
  split at hpay
  · exact hself.charge hpay
  · dsimp only at hpay
    split at hpay
    · exact (hself.mail _ _).charge hpay
    · exact hself.charge hpay

/-! ## Events -/

/-- The end of an auction goes by the rules. -/
theorem continues_updateAuction (env : Environment Inventory) (house : House) (auctionId : Nat) :
    Continues world (updateAuction env house world auctionId) := by
  have hself := continues_refl hfair
  unfold updateAuction
  split
  · exact hself
  · refine Continues.removeAuction ?_
    split
    · unfold sendAuctionExpiredMail
      split
      · exact hself
      · exact hself.mail _ _
    · exact (hself.mail _ _).wonMail

variable {circumstances : Circumstances} {auctionId : Nat}

/-- A bid is higher than the standing one and from somebody else than the owner. -/
theorem continues_placeBid
    (hafter : handleAuctionPlaceBid env world circumstances character auctionId price =
      some after) : Continues world after := by
  unfold handleAuctionPlaceBid at hafter
  split at hafter
  · cases hafter
    exact continues_refl hfair
  next found hcheck =>
  split at hafter <;> obtain ⟨middle, hpay, hmiddle⟩ := Option.bind_eq_some_iff.mp hafter <;>
    cases hmiddle
  next hbid =>
    have hcounter := (continues_payBid hfair hpay).counter
    obtain ⟨hlive, hkey, -, -⟩ := accepted_of_checkPlaceBid hcheck
    simp only [checkPlaceBid, Option.bind_eq_bind, Option.bind_eq_some_iff, Option.guard_eq_some',
      exists_const, Option.some.injEq] at hcheck
    obtain ⟨-, _, -, current, -, howner, ⟨hhigher, hstart⟩, -, -, rfl⟩ := hcheck
    have hlater : ∀ later ∈ (middle.setBid auctionId character.low price).auctions,
        later = current.withBid character.low price ∨ later ∈ world.auctions := by
      intro later hlater
      obtain ⟨old, hold, rfl⟩ := mem_setBid.mp hlater
      rw [(unmoved_payBid hpay 0).1.auctions] at hold
      split
      next heq => exact Or.inl (Table.eq_of_key_eq hold hlive (heq.trans hkey.symm) ▸ rfl)
      · exact Or.inr hold
    refine ⟨fun later hmem => ?_, hcounter, fun later hmem _ => ?_⟩
    · rcases hlater later hmem with rfl | hold
      · refine ⟨(hfair current hlive).1.trans_le hcounter, fun _ => ⟨Ne.symm howner, hstart⟩,
          fun hbuyout => ?_⟩
        have hsome : current.buyout ≠ 0 := hbuyout
        change price < current.buyout
        simpa [isBid, hsome] using hbid
      · exact ⟨(hfair later hold).1.trans_le hcounter, (hfair later hold).2⟩
    · rcases hlater later hmem with rfl | hold
      · exact ⟨current, hlive, UInt64.le_of_lt hhigher, character.low, rfl⟩
      · exact ⟨later, hold, UInt64.le_refl _, later.bidder, rfl⟩
  · exact (((continues_payBid hfair hpay).mail _ _).mail _ _).wonMail.removeAuction

/-- A posting uses a new id. -/
theorem continues_sellItem {request : SellRequest}
    (hafter : handleAuctionSellItem env world circumstances character request = some after) :
    Continues world after := by
  unfold handleAuctionSellItem at hafter
  split at hafter
  · cases hafter
    exact continues_refl hfair
  next offer hcheck =>
  dsimp only at hafter
  split at hafter
  · cases hafter
    exact continues_refl hfair
  obtain ⟨d, -, hd⟩ := Option.bind_eq_some_iff.mp hafter
  cases hd
  refine ⟨fun later hmem => ?_, Nat.le_succ _, fun later hmem hold => ?_⟩ <;>
    rcases mem_sold_auctions hmem with hstays | ⟨item, rfl⟩
  · exact ⟨Nat.lt_succ_of_lt (hfair later hstays).1, (hfair later hstays).2⟩
  · refine ⟨Nat.lt_succ_self _, fun hbid => absurd rfl hbid, fun hbuyout => ?_⟩
    exact UInt64.pos_iff_ne_zero.mpr hbuyout
  · exact ⟨later, hstays, UInt64.le_refl _, later.bidder, rfl⟩
  · exact absurd hold (lt_irrefl _)

/-- A cancellation takes the auction away. -/
theorem continues_removeItem
    (hafter : handleAuctionRemoveItem env world circumstances character auctionId = some after) :
    Continues world after := by
  have hself := continues_refl hfair
  unfold handleAuctionRemoveItem at hafter
  split at hafter
  · cases hafter
    exact hself
  split at hafter <;> obtain ⟨middle, hmiddle, hend⟩ := Option.bind_eq_some_iff.mp hafter <;>
    cases hend
  · exact (((hself.mail _ _).charge hmiddle).mail true _).removeAuction
  · cases hmiddle
    exact (hself.mail true _).removeAuction

/-- Every event keeps the rules. -/
theorem continues_perform {event : Event} (hafter : perform env world event = some after) :
    Continues world after := by
  cases event with
  | update house time =>
    cases hafter
    unfold update
    generalize selectExpired world time = ids
    induction ids generalizing world with
    | nil => exact continues_refl hfair
    | cons auctionId rest ih =>
      have hfirst := continues_updateAuction hfair env house auctionId
      exact hfirst.trans (ih hfirst.fair)
  | request low circumstances request =>
    unfold perform at hafter
    dsimp only at hafter
    split at hafter
    · cases hafter
      exact continues_refl hfair
    cases request with
    | sellItem request => exact continues_sellItem hfair hafter
    | placeBid auctionId price => exact continues_placeBid hfair hafter
    | removeItem auctionId => exact continues_removeItem hfair hafter

/-- In every run the bids on an auction rise, are never the owner's, and stay between the start bid
and the buyout. -/
theorem continues_run (env : Environment Inventory) (events : List Event)
    (hafter : events.foldlM (perform env) world = some after) : Continues world after := by
  induction events generalizing world with
  | nil =>
    cases hafter
    exact continues_refl hfair
  | cons event rest ih =>
    rw [List.foldlM_cons] at hafter
    obtain ⟨middle, hmiddle, hrest⟩ := Option.bind_eq_some_iff.mp hafter
    have hfirst := continues_perform hfair hmiddle
    exact hfirst.trans (ih hfirst.fair hrest)

omit hfair in
theorem continues_run_bids : ∃ after, Continues market after ∧
    after.auctions.rows.map AuctionEntry.bid = [300] := by
  have hfair : market.Fair := fun _ hauction => absurd hauction List.not_mem_nil
  exact ⟨_, continues_run hfair plainEnvironment [offerStack 1,
    .request 2 neutralHouse (.placeBid 1 100), .request 2 neutralHouse (.placeBid 1 300)] rfl, rfl⟩

end MopServer.Auctions
