import MopServer.Auctions.GoldConservation

/-! # The items of auctions

An auction ends when its time is up, by a buyout, or when its owner cancels it.  Its item
then goes by mail to the winner, or back to the owner.
-/

namespace MopServer.Auctions

open MopServer.Foundation

variable {Inventory : Type}

def Letter.carries (letter : Letter) (itemGuidLow : UInt32) : Bool :=
  letter.item.any fun item => item.guidLow = itemGuidLow

def World.deliveries (world : World Inventory) (itemGuidLow : UInt32) : List Letter :=
  world.letters.filter fun letter => letter.carries itemGuidLow

/-- Every auction has its own item. -/
structure World.Stocked (world : World Inventory) : Prop where
  items : ∀ auction ∈ world.auctions, ∃ item,
    world.auctionItems auction.itemGuidLow = some item ∧ item.guidLow = auction.itemGuidLow
  distinct : ∀ first ∈ world.auctions, ∀ second ∈ world.auctions,
    first.itemGuidLow = second.itemGuidLow → first = second

/-- Who is to get the item of an auction that ends in an event: who buys it out, the highest
bidder when time is up, else the owner. -/
def heir (event : Event) (auction : AuctionEntry) : UInt32 :=
  match event with
  | .update _ _ => if auction.bidder = 0 then auction.owner else auction.bidder
  | .request low _ (.placeBid _ _) => low
  | .request _ _ _ => auction.owner

/-- The item of an auction has been attached to exactly one letter, to its heir; or to none,
if there is neither the character nor his account. -/
def Delivered (world after : World Inventory) (auction : AuctionEntry) (receiver : UInt32) :
    Prop :=
  (∃ letter item, letter.receiver = receiver ∧ letter.item = some item ∧
    world.auctionItems auction.itemGuidLow = some item ∧
    after.deliveries auction.itemGuidLow = letter :: world.deliveries auction.itemGuidLow) ∨
  (world.receiverExists receiver = false ∧
    after.deliveries auction.itemGuidLow = world.deliveries auction.itemGuidLow)

/-- When time is up with a bid on the auction, accounts are looked up, or the winner is in the
world, or there is nobody who could get the item. -/
def WinnerFound (env : Environment Inventory) (world : World Inventory) (event : Event)
    (auction : AuctionEntry) : Prop :=
  match event with
  | .update _ _ => auction.bidder ≠ 0 → env.gmLogTrade = true ∨
      (world.player auction.bidder).isSome = true ∨
        world.receiverExists auction.bidder = false
  | .request _ _ _ => True

section

variable {env : Environment Inventory} {world after : World Inventory} {auction : AuctionEntry}
  {item : Item} {low itemGuidLow : UInt32}

/-! ## Letters -/

variable {letter : Letter} {middle : World Inventory}

theorem deliveries_post (world : World Inventory) (letter : Letter) (itemGuidLow : UInt32) :
    (world.post letter).deliveries itemGuidLow =
      if letter.carries itemGuidLow then letter :: world.deliveries itemGuidLow
      else world.deliveries itemGuidLow := by
  unfold World.deliveries World.post
  rw [List.filter_cons]

/-- Letters without an item do not count. -/
theorem deliveries_post_bare (hitem : letter.item = none) :
    (world.post letter).deliveries itemGuidLow = world.deliveries itemGuidLow := by
  have hcarries : letter.carries itemGuidLow = false := by
    unfold Letter.carries
    rw [hitem]
    rfl
  rw [deliveries_post, hcarries]
  rfl

theorem deliveries_post_item (hitem : letter.item = some item) (hguid : item.guidLow = itemGuidLow)
    : (world.post letter).deliveries itemGuidLow = letter :: world.deliveries itemGuidLow := by
  have hcarries : letter.carries itemGuidLow = true := by
    unfold Letter.carries
    rw [hitem, Option.any_some, decide_eq_true_eq]
    exact hguid
  rw [deliveries_post, if_pos hcarries]

theorem deliveries_post_other (hitem : letter.item = some item) (hguid : item.guidLow ≠ itemGuidLow)
    : (world.post letter).deliveries itemGuidLow = world.deliveries itemGuidLow := by
  have hcarries : letter.carries itemGuidLow = false := by
    unfold Letter.carries
    rw [hitem, Option.any_some, decide_eq_false_iff_not]
    exact hguid
  rw [deliveries_post, hcarries]
  rfl

/-- What stays the same while the house writes letters and charges players. -/
structure Unmoved (world after : World Inventory) : Prop where
  auctions : after.auctions = world.auctions
  auctionItems : after.auctionItems = world.auctionItems
  receivers : ∀ low, after.receiverExists low = world.receiverExists low
  players : ∀ low, (after.player low).isSome = (world.player low).isSome

theorem Unmoved.refl (world : World Inventory) : Unmoved world world :=
  ⟨rfl, rfl, fun _ => rfl, fun _ => rfl⟩

theorem Unmoved.trans (hfirst : Unmoved world middle) (hsecond : Unmoved middle after) :
    Unmoved world after where
  auctions := hsecond.auctions.trans hfirst.auctions
  auctionItems := hsecond.auctionItems.trans hfirst.auctionItems
  receivers low := (hsecond.receivers low).trans (hfirst.receivers low)
  players low := (hsecond.players low).trans (hfirst.players low)

theorem unmoved_post (world : World Inventory) (letter : Letter) :
    Unmoved world (world.post letter) :=
  ⟨rfl, rfl, fun _ => rfl, fun _ => rfl⟩

theorem unmoved_setMoney (world : World Inventory) (low : UInt32) (money : UInt64) :
    Unmoved world (world.setMoney low money) := by
  refine ⟨rfl, rfl, fun other => receiverExists_setMoney world low other money, fun other => ?_⟩
  unfold World.player
  rw [get?_setMoney]
  split
  next heq =>
    subst heq
    cases world.characters.get? other with
    | none => rfl
    | some character => cases hworld : character.inWorld <;> simp [Option.filter, hworld]
  · rfl

theorem unmoved_bare {condition : Bool} (hitem : letter.item = none) :
    Unmoved world (if condition then world.post letter else world) ∧
      (if condition then world.post letter else world).deliveries itemGuidLow =
        world.deliveries itemGuidLow := by
  split
  · exact ⟨unmoved_post world letter, deliveries_post_bare hitem⟩
  · exact ⟨Unmoved.refl world, rfl⟩

def winnerFound (env : Environment Inventory) (world : World Inventory) (low : UInt32) : Bool :=
  (world.player low).isSome || (env.gmLogTrade && world.receiverExists low)

theorem any_eq_winnerFound (env : Environment Inventory) (world : World Inventory)
    (low : UInt32) :
    ((world.characters.get? low).any fun bidder =>
      bidder.inWorld || (env.gmLogTrade && bidder.accountId ≠ 0)) = winnerFound env world low := by
  unfold winnerFound World.player World.receiverExists
  cases world.characters.get? low with
  | none => simp
  | some character =>
    cases hworld : character.inWorld <;> simp [Option.filter, hworld]

variable (hitem : world.auctionItems auction.itemGuidLow = some item)

include hitem in
theorem sendAuctionWonMail_eq :
    sendAuctionWonMail env world auction =
      if winnerFound env world auction.bidder then
        world.post { receiver := auction.bidder, answer := .won, item := some item }
      else world := by
  unfold sendAuctionWonMail
  rw [hitem]
  simp only [any_eq_winnerFound]

theorem unmoved_sendAuctionWonMail (env : Environment Inventory) (world : World Inventory)
    (auction : AuctionEntry) : Unmoved world (sendAuctionWonMail env world auction) := by
  unfold sendAuctionWonMail
  split
  · exact Unmoved.refl world
  · simp only
    split
    · exact unmoved_post world _
    · exact Unmoved.refl world

theorem unmoved_sendAuctionSalePendingMail (world : World Inventory) (auction : AuctionEntry)
    (itemGuidLow : UInt32) :
    Unmoved world (sendAuctionSalePendingMail world auction) ∧
      (sendAuctionSalePendingMail world auction).deliveries itemGuidLow =
        world.deliveries itemGuidLow :=
  unmoved_bare rfl

include hitem in
theorem sendAuctionExpiredMail_eq :
    sendAuctionExpiredMail world auction =
      if world.receiverExists auction.owner then
        world.post { receiver := auction.owner, answer := .expired, item := some item }
      else world := by
  unfold sendAuctionExpiredMail
  rw [hitem]

/-! ## Time is up -/

variable {ended : AuctionEntry}

theorem unmoved_sendAuctionSuccessfulMail (env : Environment Inventory) (world : World Inventory)
    (auction : AuctionEntry) (itemGuidLow : UInt32) :
    Unmoved world (sendAuctionSuccessfulMail env world auction) ∧
      (sendAuctionSuccessfulMail env world auction).deliveries itemGuidLow =
        world.deliveries itemGuidLow :=
  unmoved_bare rfl

theorem Unmoved.winnerFound (hunmoved : Unmoved world after) (env : Environment Inventory)
    (low : UInt32) : winnerFound env after low = Auctions.winnerFound env world low := by
  unfold Auctions.winnerFound
  rw [hunmoved.players, hunmoved.receivers]

/-- Somebody is found to send the item of an expired auction to. -/
def expiryFound (env : Environment Inventory) (world : World Inventory) (auction : AuctionEntry) :
    Bool :=
  if auction.bidder = 0 then world.receiverExists auction.owner
  else winnerFound env world auction.bidder

def expiryLetter (auction : AuctionEntry) (item : Item) : Letter :=
  if auction.bidder = 0 then
    { receiver := auction.owner, answer := .expired, item := some item }
  else { receiver := auction.bidder, answer := .won, item := some item }

theorem expiryLetter_item (auction : AuctionEntry) (item : Item) :
    (expiryLetter auction item).item = some item := by
  unfold expiryLetter
  split <;> rfl

theorem expiryLetter_receiver (auction : AuctionEntry) (item : Item) (house : House)
    (time : Nat) : (expiryLetter auction item).receiver = heir (.update house time) auction := by
  unfold expiryLetter heir
  split <;> rfl

/-- An auction that expires sends its item by at most one letter, and is removed. -/
theorem expireAuction_eq (env : Environment Inventory)
    (hitem : world.auctionItems auction.itemGuidLow = some item) :
    ∃ middle, Unmoved world middle ∧
      expireAuction env world auction = middle.removeAuction auction ∧
      ∀ itemGuidLow, middle.deliveries itemGuidLow =
        if expiryFound env world auction then
          (world.post (expiryLetter auction item)).deliveries itemGuidLow
        else world.deliveries itemGuidLow := by
  unfold expireAuction expiryFound expiryLetter
  by_cases hbidder : auction.bidder = 0
  · simp only [if_pos hbidder, sendAuctionExpiredMail_eq hitem]
    refine ⟨_, ?_, rfl, fun itemGuidLow => ?_⟩
    · split
      · exact unmoved_post world _
      · exact Unmoved.refl world
    · split <;> rfl
  · obtain ⟨hunmoved, -⟩ := unmoved_sendAuctionSuccessfulMail env world auction 0
    have hitem' : (sendAuctionSuccessfulMail env world auction).auctionItems
        auction.itemGuidLow = some item := by
      rw [hunmoved.auctionItems]
      exact hitem
    simp only [if_neg hbidder, sendAuctionWonMail_eq hitem', hunmoved.winnerFound]
    refine ⟨_, ?_, rfl, fun itemGuidLow => ?_⟩
    · split
      · exact hunmoved.trans (unmoved_post _ _)
      · exact hunmoved
    · have hsame := (unmoved_sendAuctionSuccessfulMail env world auction itemGuidLow).2
      split
      · rw [deliveries_post, deliveries_post, hsame]
      · exact hsame

theorem deliveries_removeAuction (world : World Inventory) (auction : AuctionEntry)
    (itemGuidLow : UInt32) :
    (world.removeAuction auction).deliveries itemGuidLow = world.deliveries itemGuidLow := rfl

theorem deliveries_expireAuction_self (env : Environment Inventory)
    (hitem : world.auctionItems auction.itemGuidLow = some item)
    (hguid : item.guidLow = auction.itemGuidLow) :
    (expireAuction env world auction).deliveries auction.itemGuidLow =
      if expiryFound env world auction then
        expiryLetter auction item :: world.deliveries auction.itemGuidLow
      else world.deliveries auction.itemGuidLow := by
  obtain ⟨middle, -, heq, hdeliveries⟩ := expireAuction_eq env hitem
  rw [heq, deliveries_removeAuction, hdeliveries,
    deliveries_post_item (expiryLetter_item auction item) hguid]

theorem deliveries_expireAuction_other (env : Environment Inventory)
    (hitem : world.auctionItems auction.itemGuidLow = some item)
    (hguid : item.guidLow = auction.itemGuidLow) (hne : auction.itemGuidLow ≠ itemGuidLow) :
    (expireAuction env world auction).deliveries itemGuidLow = world.deliveries itemGuidLow := by
  obtain ⟨middle, -, heq, hdeliveries⟩ := expireAuction_eq env hitem
  rw [heq, deliveries_removeAuction, hdeliveries,
    deliveries_post_other (expiryLetter_item auction item) (hguid ▸ hne), ite_self]

theorem mem_removeAuction :
    auction ∈ (world.removeAuction ended).auctions ↔
      auction ∈ world.auctions ∧ auction.id ≠ ended.id := Table.mem_erase

theorem stocked_removeAuction (hstocked : world.Stocked) (hunmoved : Unmoved world middle)
    (hended : ended ∈ world.auctions) : (middle.removeAuction ended).Stocked := by
  constructor
  · intro auction hauction
    rw [mem_removeAuction, hunmoved.auctions] at hauction
    obtain ⟨item, hitem, hguid⟩ := hstocked.items auction hauction.1
    refine ⟨item, ?_, hguid⟩
    have hne : auction.itemGuidLow ≠ ended.itemGuidLow := by
      intro heq
      exact hauction.2 (congrArg AuctionEntry.id (hstocked.distinct auction hauction.1 ended
        hended heq))
    unfold World.removeAuction
    simp only
    rw [Function.update_of_ne hne, hunmoved.auctionItems]
    exact hitem
  · intro first hfirst second hsecond heq
    rw [mem_removeAuction, hunmoved.auctions] at hfirst hsecond
    exact hstocked.distinct first hfirst.1 second hsecond.1 heq

theorem updateAuction_cases (env : Environment Inventory) (house : House)
    (hstocked : world.Stocked) (auctionId : Nat) :
    updateAuction env house world auctionId = world ∨
      ∃ ended item middle, ended ∈ world.auctions ∧ ended.id = auctionId ∧
        world.auctionItems ended.itemGuidLow = some item ∧ item.guidLow = ended.itemGuidLow ∧
        updateAuction env house world auctionId = expireAuction env world ended ∧
        Unmoved world middle ∧ expireAuction env world ended = middle.removeAuction ended := by
  unfold updateAuction
  cases hauction : world.getAuction house auctionId with
  | none => exact Or.inl rfl
  | some ended =>
    obtain ⟨hmem, hid⟩ := mem_of_getAuction hauction
    obtain ⟨item, hitem, hguid⟩ := hstocked.items ended hmem
    obtain ⟨middle, hunmoved, heq, -⟩ := expireAuction_eq env hitem
    exact Or.inr ⟨ended, item, middle, hmem, hid, hitem, hguid, rfl, hunmoved, heq⟩

/-- An item that is not up for auction is sent by no update. -/
theorem foldl_updateAuction_gone (env : Environment Inventory) (house : House) (ids : List Nat)
    (hstocked : world.Stocked)
    (hgone : ∀ other ∈ world.auctions, other.itemGuidLow ≠ itemGuidLow) :
    (ids.foldl (updateAuction env house) world).deliveries itemGuidLow =
      world.deliveries itemGuidLow := by
  induction ids generalizing world with
  | nil => rfl
  | cons auctionId rest ih =>
    rw [List.foldl_cons]
    rcases updateAuction_cases env house hstocked auctionId with
      hsame | ⟨ended, item, middle, hmem, -, hitem, hguid, hupdate, hunmoved, heq⟩
    · rw [hsame]
      exact ih hstocked hgone
    · have hdeliveries := deliveries_expireAuction_other env hitem hguid
        (hgone ended hmem)
      rw [hupdate, ← hdeliveries, heq]
      refine ih (stocked_removeAuction hstocked hunmoved hmem) fun other hother => ?_
      rw [mem_removeAuction, hunmoved.auctions] at hother
      exact hgone other hother.1

theorem Unmoved.expiryFound (hunmoved : Unmoved world after) (env : Environment Inventory)
    (auction : AuctionEntry) :
    expiryFound env after auction = Auctions.expiryFound env world auction := by
  unfold Auctions.expiryFound
  rw [hunmoved.receivers, hunmoved.winnerFound]

theorem expiryFound_removeAuction (env : Environment Inventory) (world : World Inventory)
    (ended auction : AuctionEntry) :
    expiryFound env (world.removeAuction ended) auction = expiryFound env world auction := rfl

/-- During an update an auction is left alone, or its item is posted if somebody is found. -/
theorem foldl_updateAuction_spec (env : Environment Inventory) (house : House) (ids : List Nat)
    (hstocked : world.Stocked) (hauction : auction ∈ world.auctions)
    (hitem : world.auctionItems auction.itemGuidLow = some item)
    (hguid : item.guidLow = auction.itemGuidLow) :
    auction ∈ (ids.foldl (updateAuction env house) world).auctions ∨
      (ids.foldl (updateAuction env house) world).deliveries auction.itemGuidLow =
        if expiryFound env world auction then
          expiryLetter auction item :: world.deliveries auction.itemGuidLow
        else world.deliveries auction.itemGuidLow := by
  induction ids generalizing world with
  | nil => exact Or.inl hauction
  | cons auctionId rest ih =>
    rw [List.foldl_cons]
    rcases updateAuction_cases env house hstocked auctionId with
      hsame | ⟨ended, other, middle, hmem, -, hother, hother', hupdate, hunmoved, heq⟩
    · rw [hsame]
      exact ih hstocked hauction hitem
    · have hstocked' := stocked_removeAuction hstocked hunmoved hmem
      rw [hupdate]
      by_cases hsame : ended = auction
      · -- The auction ends here; its item is in no other auction.
        subst hsame
        have hdeliveries := deliveries_expireAuction_self env hitem hguid
        refine Or.inr ?_
        rw [← hdeliveries, heq]
        refine foldl_updateAuction_gone env house rest hstocked' fun later hlater hguid' => ?_
        rw [mem_removeAuction, hunmoved.auctions] at hlater
        exact hlater.2 (congrArg AuctionEntry.id
          (hstocked.distinct later hlater.1 ended hmem hguid'))
      · have hne : ended.itemGuidLow ≠ auction.itemGuidLow := fun heq =>
          hsame (hstocked.distinct ended hmem auction hauction heq)
        have hdeliveries := deliveries_expireAuction_other env hother hother' hne
        have hauction' : auction ∈ (middle.removeAuction ended).auctions := by
          rw [mem_removeAuction, hunmoved.auctions]
          refine ⟨hauction, fun hid => hsame ?_⟩
          exact Table.eq_of_key_eq hmem hauction hid.symm
        have hitem' : (middle.removeAuction ended).auctionItems auction.itemGuidLow =
            some item := by
          unfold World.removeAuction
          simp only
          rw [Function.update_of_ne hne.symm, hunmoved.auctionItems]
          exact hitem
        rw [← hdeliveries, heq, ← hunmoved.expiryFound env auction,
          ← expiryFound_removeAuction env middle ended auction]
        exact ih hstocked' hauction' hitem'

include hitem in
theorem delivered_iff_of_expired {house : House} {time : Nat}
    (hdeliveries : after.deliveries auction.itemGuidLow =
      if expiryFound env world auction then
        expiryLetter auction item :: world.deliveries auction.itemGuidLow
      else world.deliveries auction.itemGuidLow) :
    Delivered world after auction (heir (.update house time) auction) ↔
      WinnerFound env world (.update house time) auction := by
  have hfound : (expiryFound env world auction = true ∨
      world.receiverExists (heir (.update house time) auction) = false) ↔
        WinnerFound env world (.update house time) auction := by
    unfold expiryFound heir WinnerFound
    by_cases hbidder : auction.bidder = 0
    · simp only [hbidder, ne_eq, not_true, false_implies, iff_true, if_true]
      cases howner : world.receiverExists auction.owner <;> simp
    · simp only [hbidder, ne_eq, not_false_iff, true_implies, if_false]
      unfold winnerFound
      cases hworld : (world.player auction.bidder).isSome <;> cases hlog : env.gmLogTrade <;>
        cases haccount : world.receiverExists auction.bidder <;> simp
  rw [← hfound]
  cases hcase : expiryFound env world auction with
  | true =>
    rw [hcase, if_pos rfl] at hdeliveries
    simp only [true_or, iff_true]
    exact Or.inl ⟨expiryLetter auction item, item, expiryLetter_receiver auction item house time,
      expiryLetter_item auction item, hitem, hdeliveries⟩
  | false =>
    rw [hcase, if_neg (by decide)] at hdeliveries
    simp only [Bool.false_eq_true, false_or]
    constructor
    · rintro (⟨letter, found, -, -, -, hletter⟩ | ⟨hnobody, -⟩)
      · rw [hdeliveries] at hletter
        exact absurd hletter.symm (List.cons_ne_self _ _)
      · exact hnobody
    · exact fun hnobody => Or.inr ⟨hnobody, hdeliveries⟩

/-! ## Buyouts -/

variable {character : Character Inventory} {circumstances : Circumstances}

theorem unmoved_charge {amount : UInt64} (hcharge : charge world character amount = some after) :
    Unmoved world after ∧ after.letters = world.letters := by
  unfold charge at hcharge
  obtain ⟨d, -, hafter⟩ := Option.bind_eq_some_iff.mp hcharge
  obtain rfl := Option.some.inj hafter
  exact ⟨unmoved_setMoney world _ _, rfl⟩

theorem unmoved_sendBidBack (world : World Inventory) (auction : AuctionEntry)
    (answer : MailAuctionAnswer) (itemGuidLow : UInt32) :
    Unmoved world (sendBidBack world auction answer) ∧
      (sendBidBack world auction answer).deliveries itemGuidLow = world.deliveries itemGuidLow :=
  unmoved_bare rfl

theorem unmoved_payBid {price : UInt64} (hpay : payBid world character auction price = some after)
    (itemGuidLow : UInt32) :
    Unmoved world after ∧ after.deliveries itemGuidLow = world.deliveries itemGuidLow := by
  unfold payBid at hpay
  split at hpay
  · obtain ⟨hunmoved, hletters⟩ := unmoved_charge hpay
    exact ⟨hunmoved, by unfold World.deliveries; rw [hletters]⟩
  · obtain ⟨hunmoved, hletters⟩ := unmoved_charge hpay
    have hback := unmoved_sendBidBack world auction .outbidded itemGuidLow
    have hdeliveries : after.deliveries itemGuidLow = (if auction.bidder ≠ 0 then
        sendAuctionOutbiddedMail world auction else world).deliveries itemGuidLow := by
      unfold World.deliveries
      rw [hletters]
    rw [hdeliveries]
    split at hunmoved
    next hbidder =>
      rw [if_pos hbidder]
      exact ⟨hback.1.trans hunmoved, hback.2⟩
    next hbidder =>
      rw [if_neg hbidder]
      exact ⟨hunmoved, rfl⟩

/-- An auction that is over. -/
def Ended (after : World Inventory) (auction : AuctionEntry) : Prop :=
  after.auctions.get? auction.id = none

theorem not_ended_of_mem {later : AuctionEntry} (hlater : later ∈ after.auctions)
    (hid : later.id = auction.id) : ¬ Ended after auction := by
  intro hended
  exact Table.get?_eq_none_iff.mp hended later hlater hid

theorem unmoved_buyoutMails (env : Environment Inventory) (world : World Inventory)
    (bought : AuctionEntry) :
    Unmoved world (sendAuctionWonMail env (sendAuctionSuccessfulMail env
      (sendAuctionSalePendingMail world bought) bought) bought) :=
  ((unmoved_sendAuctionSalePendingMail world bought 0).1.trans
    (unmoved_sendAuctionSuccessfulMail env _ bought 0).1).trans
      (unmoved_sendAuctionWonMail env _ bought)

/-- A buyout delivers the item to the buyer. -/
theorem delivered_of_buyout (hunmoved : Unmoved world middle)
    (hsame : middle.deliveries auction.itemGuidLow = world.deliveries auction.itemGuidLow)
    (hitem : world.auctionItems auction.itemGuidLow = some item)
    (hguid : item.guidLow = auction.itemGuidLow)
    (hplayer : (world.player character.low).isSome = true) :
    Delivered world ((sendAuctionWonMail env (sendAuctionSuccessfulMail env
      (sendAuctionSalePendingMail middle (auction.withBid character.low auction.buyout))
      (auction.withBid character.low auction.buyout))
      (auction.withBid character.low auction.buyout)).removeAuction
        (auction.withBid character.low auction.buyout)) auction character.low := by
  let bought := auction.withBid character.low auction.buyout
  have hpending := unmoved_sendAuctionSalePendingMail middle bought auction.itemGuidLow
  have hsuccess := unmoved_sendAuctionSuccessfulMail env
    (sendAuctionSalePendingMail middle bought) bought auction.itemGuidLow
  have hmailed := (hunmoved.trans hpending.1).trans hsuccess.1
  have hitem' : (sendAuctionSuccessfulMail env (sendAuctionSalePendingMail middle bought)
      bought).auctionItems bought.itemGuidLow = some item := by
    rw [hmailed.auctionItems]
    exact hitem
  have hwinner : winnerFound env (sendAuctionSuccessfulMail env
      (sendAuctionSalePendingMail middle bought) bought) bought.bidder = true := by
    unfold winnerFound
    rw [hmailed.players, Bool.or_eq_true]
    exact Or.inl hplayer
  refine Or.inl ⟨{ receiver := character.low, answer := .won, item := some item }, item, rfl, rfl,
    hitem, ?_⟩
  rw [deliveries_removeAuction, sendAuctionWonMail_eq hitem', if_pos hwinner,
    deliveries_post_item rfl hguid, hsuccess.2, hpending.2, hsame]
  rfl

theorem delivered_placeBid (hstocked : world.Stocked) (hauction : auction ∈ world.auctions)
    (hplayer : world.player low = some character) {auctionId : Nat} {price : UInt64}
    (hafter : handleAuctionPlaceBid env world circumstances character auctionId price = some after)
    (hended : Ended after auction) : Delivered world after auction low := by
  obtain ⟨-, rfl, -⟩ := mem_of_player hplayer
  obtain ⟨item, hitem, hguid⟩ := hstocked.items auction hauction
  unfold handleAuctionPlaceBid at hafter
  cases hcheck : checkPlaceBid env world circumstances character auctionId price with
  | none =>
    rw [hcheck] at hafter
    obtain rfl := Option.some.inj hafter
    exact absurd hended (not_ended_of_mem hauction rfl)
  | some found =>
    simp only [hcheck] at hafter
    have haccepted := accepted_of_checkPlaceBid hcheck
    split at hafter
    · -- A bid: the auction goes on.
      obtain ⟨middle, hpay, hbid⟩ := Option.bind_eq_some_iff.mp hafter
      obtain rfl := Option.some.inj hbid
      have hunmoved := (unmoved_payBid hpay 0).1
      have hmem : auction ∈ middle.auctions := by
        rw [hunmoved.auctions]
        exact hauction
      refine absurd hended (not_ended_of_mem (mem_setBid.mpr ⟨auction, hmem, rfl⟩) ?_)
      split <;> rfl
    · obtain ⟨middle, hpay, hbuyout⟩ := Option.bind_eq_some_iff.mp hafter
      obtain rfl := Option.some.inj hbuyout
      obtain ⟨hunmoved, hsame⟩ := unmoved_payBid hpay auction.itemGuidLow
      by_cases hfound : found = auction
      · subst hfound
        exact delivered_of_buyout hunmoved hsame hitem hguid (by rw [hplayer]; rfl)
      · -- Another auction is bought out.
        have hmailed := hunmoved.trans
          (unmoved_buyoutMails env middle (found.withBid character.low found.buyout))
        refine absurd hended (not_ended_of_mem (mem_removeAuction.mpr ⟨?_, ?_⟩) rfl)
        · rw [hmailed.auctions]
          exact hauction
        · intro hid
          exact hfound (Table.eq_of_key_eq haccepted.live hauction hid.symm)

/-! ## Cancelling -/

theorem delivered_removeItem (hstocked : world.Stocked) (hauction : auction ∈ world.auctions)
    {auctionId : Nat}
    (hafter : handleAuctionRemoveItem env world circumstances character auctionId = some after)
    (hended : Ended after auction) : Delivered world after auction auction.owner := by
  unfold handleAuctionRemoveItem at hafter
  cases hcheck : checkRemoveItem env world circumstances character auctionId with
  | none =>
    rw [hcheck] at hafter
    obtain rfl := Option.some.inj hafter
    exact absurd hended (not_ended_of_mem hauction rfl)
  | some checked =>
    obtain ⟨found, item⟩ := checked
    simp only [hcheck] at hafter
    simp only [checkRemoveItem, Option.bind_eq_bind, Option.bind_eq_some_iff,
      Option.guard_eq_some', exists_const, Option.some.injEq, Prod.mk.injEq] at hcheck
    obtain ⟨_, -, _, hfound, howner, _, hitem, -, rfl, rfl⟩ := hcheck
    rename_i found item
    obtain ⟨hlive, -⟩ := mem_of_getAuction hfound
    obtain ⟨middle, ⟨hunmoved, hdeliveries⟩, rfl⟩ : ∃ middle, (Unmoved world middle ∧
        middle.deliveries auction.itemGuidLow = world.deliveries auction.itemGuidLow) ∧
        after = (middle.post { receiver := character.low, answer := .canceled
                               item := some item }).removeAuction found := by
      split at hafter
      · obtain ⟨middle, hcharged, hcancelled⟩ := Option.bind_eq_some_iff.mp hafter
        have hback := unmoved_sendBidBack world found .cancelledToBidder auction.itemGuidLow
        obtain ⟨hunmoved, hletters⟩ := unmoved_charge hcharged
        have hsame : middle.deliveries auction.itemGuidLow = (sendBidBack world found
            .cancelledToBidder).deliveries auction.itemGuidLow := by
          unfold World.deliveries
          rw [hletters]
          rfl
        exact ⟨middle, ⟨hback.1.trans hunmoved, hsame.trans hback.2⟩,
          (Option.some.inj hcancelled).symm⟩
      · exact ⟨world, ⟨Unmoved.refl world, rfl⟩, (Option.some.inj hafter).symm⟩
    by_cases hsame : found = auction
    · subst hsame
      obtain ⟨stocked, hstock, hguid⟩ := hstocked.items found hauction
      obtain rfl := Option.some.inj (hitem.symm.trans hstock)
      refine Or.inl ⟨{ receiver := character.low, answer := .canceled, item := some item },
        item, howner.symm, rfl, hitem, ?_⟩
      rw [deliveries_removeAuction, deliveries_post_item rfl hguid, hdeliveries]
    · refine absurd hended (not_ended_of_mem (mem_removeAuction.mpr ⟨?_, ?_⟩) rfl)
      · rw [(hunmoved.trans (unmoved_post middle _)).auctions]
        exact hauction
      · intro hid
        exact hsame (Table.eq_of_key_eq hlive hauction hid.symm)

/-- A posting ends no auction. -/
theorem not_ended_sellItem (hauction : auction ∈ world.auctions) {request : SellRequest}
    (hafter : handleAuctionSellItem env world circumstances character request = some after) :
    ¬ Ended after auction := by
  unfold handleAuctionSellItem at hafter
  split at hafter
  · obtain rfl := Option.some.inj hafter
    exact not_ended_of_mem hauction rfl
  · simp only at hafter
    split at hafter
    · obtain rfl := Option.some.inj hafter
      exact not_ended_of_mem hauction rfl
    · obtain ⟨d, -, hsold⟩ := Option.bind_eq_some_iff.mp hafter
      obtain rfl := Option.some.inj hsold
      split
      · exact not_ended_of_mem hauction rfl
      next offer _ _ item _ =>
        by_cases hid : auction.id = world.auctionId
        · exact not_ended_of_mem (Table.mem_insert.mpr (Or.inl rfl)) hid.symm
        · exact not_ended_of_mem (Table.mem_insert.mpr (Or.inr ⟨hauction, hid⟩)) rfl

/-- Whenever an auction ends, by time, buyout or cancellation, its item goes with exactly one
letter to its heir if there is one, if and only if it is not won, while accounts are not
looked up, by a character with an account who is not in the world when time is up. -/
theorem item_delivered_iff_winnerFound (env : Environment Inventory) (world after : World Inventory)
    (hstocked : world.Stocked) (event : Event) (hafter : perform env world event = some after)
    (auction : AuctionEntry) (hauction : auction ∈ world.auctions)
    (hended : after.auctions.get? auction.id = none) :
    Delivered world after auction (heir event auction) ↔ WinnerFound env world event auction := by
  cases event with
  | update house time =>
    obtain ⟨item, hitem, hguid⟩ := hstocked.items auction hauction
    obtain rfl := Option.some.inj hafter
    rcases foldl_updateAuction_spec env house (selectExpired world time) hstocked hauction hitem
      hguid with hlive | hdeliveries
    · exact absurd hended (not_ended_of_mem hlive rfl)
    · exact delivered_iff_of_expired hitem hdeliveries
  | request low circumstances request =>
    refine iff_of_true ?_ trivial
    simp only [perform] at hafter
    split at hafter
    · obtain rfl := Option.some.inj hafter
      exact absurd hended (not_ended_of_mem hauction rfl)
    next character hplayer =>
      cases request with
      | sellItem request => exact absurd hended (not_ended_sellItem hauction hafter)
      | placeBid auctionId price =>
        exact delivered_placeBid hstocked hauction hplayer hafter hended
      | removeItem auctionId => exact delivered_removeItem hstocked hauction hafter hended

end

/-! ## A winner who is not in the world -/

/-- An auction whose time is up; the second character has bid on it. -/
def wonAuction : AuctionEntry where
  id := 1
  house := .neutral
  itemGuidLow := 7
  itemEntry := 52
  itemCount := 40
  owner := 1
  startbid := 100
  bid := 100
  buyout := 1000
  expireTime := 0
  bidder := 2
  deposit := 100
  auctionHouseEntry := ⟨7, 75, 15⟩

variable (winnerInWorld : Bool)

def auctionDay : World (List Item) where
  characters := ⟨[⟨1, 10, true, 500, []⟩, ⟨2, 20, winnerInWorld, 900, []⟩], by simp⟩
  auctions := ⟨[wonAuction], by decide⟩
  auctionItems := fun itemGuidLow => if itemGuidLow = 7 then some preciousStack else none
  letters := []
  auctionId := 2

theorem stocked_auctionDay : (auctionDay winnerInWorld).Stocked where
  items auction hauction := by
    obtain rfl := List.mem_singleton.mp hauction
    exact ⟨preciousStack, rfl, rfl⟩
  distinct first hfirst second hsecond _ :=
    (List.mem_singleton.mp hfirst).trans (List.mem_singleton.mp hsecond).symm

/-- A winner who is in the world gets the item. -/
theorem item_delivered_to_online_winner :
    Delivered (auctionDay true) (update plainEnvironment .neutral (auctionDay true) 0)
        wonAuction 2 ∧ heir (.update .neutral 0) wonAuction = 2 := by
  refine ⟨?_, rfl⟩
  refine (item_delivered_iff_winnerFound plainEnvironment (auctionDay true) _
    (stocked_auctionDay true) (.update .neutral 0) rfl wonAuction List.mem_cons_self
    (by decide)).mpr ?_
  exact fun _ => Or.inr (Or.inl (by decide))

/-- A winner who has an account but is not in the world gets nothing, and the auction is
gone. -/
theorem item_lost_by_offline_winner :
    (update plainEnvironment .neutral (auctionDay false) 0).auctions.get? 1 = none ∧
      (auctionDay false).receiverExists 2 = true ∧
      ¬ Delivered (auctionDay false) (update plainEnvironment .neutral (auctionDay false) 0)
        wonAuction (heir (.update .neutral 0) wonAuction) := by
  refine ⟨by decide, by decide, ?_⟩
  have hlost : (update plainEnvironment .neutral (auctionDay false) 0).deliveries 7 = [] := by
    decide
  rintro (⟨letter, item, -, -, -, hletter⟩ | ⟨hnobody, -⟩)
  · have hnone := hlost.symm.trans hletter
    cases hnone
  · exact absurd hnobody (by decide)

end MopServer.Auctions
