import MopServer.Entities.Money
import MopServer.Foundation.Table

/-! # Auction houses

Gold moves between the purses of characters, the auctions and the mails the house
sends.  A seller pays a deposit, a bidder pays his bid, and the house pays back by
mail when somebody is outbid, an auction is cancelled, or an item is sold.
-/

namespace MopServer.Auctions

open MopServer.Foundation

/-- `MIN_AUCTION_TIME`, in seconds. -/
def minAuctionTime : UInt32 := 12 * 3600

/-- The three houses auctions are kept in. -/
inductive House where
  | neutral
  | alliance
  | horde
  deriving DecidableEq, Repr

/-- A row of `AuctionHouse.dbc`. -/
structure AuctionHouseEntry where
  houseId : UInt32
  depositPercent : UInt32
  cutPercent : UInt32
  deriving DecidableEq, Repr

/-- An item with the answers to the questions `HandleAuctionSellItem` asks about it. -/
structure Item where
  guid : UInt64
  guidLow : UInt32
  entry : UInt32
  count : UInt32
  maxStackCount : UInt32
  sellPrice : UInt32
  canBeTraded : Bool
  isNotEmptyBag : Bool
  isConjured : Bool
  duration : UInt32
  deriving DecidableEq, Repr

structure AuctionEntry where
  id : Nat
  house : House
  itemGuidLow : UInt32
  itemEntry : UInt32
  itemCount : UInt32
  owner : UInt32
  startbid : UInt64
  bid : UInt64
  buyout : UInt64
  expireTime : Nat
  bidder : UInt32
  deposit : UInt64
  auctionHouseEntry : AuctionHouseEntry
  deriving DecidableEq, Repr

instance : Keyed AuctionEntry Nat := ⟨AuctionEntry.id⟩

@[simp] theorem key_auction (auction : AuctionEntry) : Keyed.key auction = auction.id := rfl

/-- A character, in the world or not; his purse is loaded from the database when he
enters the world. -/
structure Character (Inventory : Type) where
  low : UInt32
  accountId : UInt32
  inWorld : Bool
  money : UInt64
  inventory : Inventory

instance {Inventory : Type} : Keyed (Character Inventory) UInt32 := ⟨Character.low⟩

@[simp] theorem key_character {Inventory : Type} (character : Character Inventory) :
    Keyed.key character = character.low := rfl

/-- `MailAuctionAnswers`. -/
inductive MailAuctionAnswer where
  | outbidded
  | won
  | successful
  | expired
  | cancelledToBidder
  | canceled
  | salePending
  deriving DecidableEq, Repr

/-- A mail the house has sent. -/
structure Letter where
  receiver : UInt32
  answer : MailAuctionAnswer
  money : UInt64 := 0
  item : Option Item := none
  deriving DecidableEq, Repr

structure World (Inventory : Type) where
  characters : Table (Character Inventory)
  auctions : Table AuctionEntry
  /-- `mAitems`: the items of all auctions. -/
  auctionItems : UInt32 → Option Item
  letters : List Letter
  auctionId : Nat

/-- What the auction handlers ask of the rest of the server.  Deposits, cuts, outbids and
durations are computed in floating point from configured rates. -/
structure Environment (Inventory : Type) where
  gmLogTrade : Bool
  calculateDeposit : AuctionHouseEntry → UInt32 → Item → UInt32 → UInt32
  calculateCut : AuctionHouseEntry → UInt64 → UInt64
  /-- `CalculatePct(bid, 5)`. -/
  fivePercent : UInt64 → UInt64
  auctionTime : UInt32 → UInt32
  getItemByGuid : Inventory → UInt64 → Option Item
  hasItemCount : Inventory → UInt32 → UInt32 → Bool
  moveItemFromInventory : Inventory → Item → Inventory
  setCount : Inventory → Item → UInt32 → Inventory
  cloneItem : Item → UInt32 → Option Item

/-- The auctioneer a player talks to: his house, and its entry if there is one. -/
structure Auctioneer where
  house : House
  entry : Option AuctionHouseEntry
  deriving DecidableEq, Repr

/-- What a request meets outside the auction houses. -/
structure Circumstances where
  time : Nat
  auctioneer : Option Auctioneer
  deriving DecidableEq, Repr

section

variable {Inventory : Type} (env : Environment Inventory) (auction : AuctionEntry)

/-- `AuctionEntry::GetAuctionCut`. -/
def getAuctionCut : UInt64 :=
  env.calculateCut auction.auctionHouseEntry auction.bid

/-- `AuctionEntry::GetAuctionOutBid`: at least one copper. -/
def getAuctionOutBid : UInt64 :=
  let outbid := env.fivePercent auction.bid
  if outbid = 0 then 1 else outbid

namespace World

variable (world : World Inventory)

/-- `AuctionHouseObject::GetAuction`. -/
def getAuction (house : House) (auctionId : Nat) : Option AuctionEntry :=
  (world.auctions.get? auctionId).filter fun auction => auction.house = house

variable (low : UInt32)

def receiverExists : Bool :=
  (world.characters.get? low).any fun character => character.inWorld || character.accountId ≠ 0

def setMoney (money : UInt64) : World Inventory :=
  let update (character : Character Inventory) := { character with money := money }
  { world with characters := world.characters.modify low update }

def setInventory (inventory : Inventory) : World Inventory :=
  let update (character : Character Inventory) := { character with inventory := inventory }
  { world with characters := world.characters.modify low update }

def post (letter : Letter) : World Inventory :=
  { world with letters := letter :: world.letters }

/-- `RemoveAItem` and `RemoveAuction`. -/
def removeAuction (auction : AuctionEntry) : World Inventory :=
  { world with
    auctions := world.auctions.erase auction.id
    auctionItems := Function.update world.auctionItems auction.itemGuidLow none }

end World

/-! ## Mails -/

variable (world : World Inventory)

/-- `SendAuctionWonMail`: without the game master log the account of a winner who is not in
the world is never looked up. -/
def sendAuctionWonMail (auction : AuctionEntry) : World Inventory :=
  match world.auctionItems auction.itemGuidLow with
  | none => world
  | some item =>
    let exists? := (world.characters.get? auction.bidder).any fun bidder =>
      bidder.inWorld || (env.gmLogTrade && bidder.accountId ≠ 0)
    if exists? then world.post { receiver := auction.bidder, answer := .won, item := some item }
    else world

def sendAuctionSalePendingMail (auction : AuctionEntry) : World Inventory :=
  if world.receiverExists auction.owner then
    world.post { receiver := auction.owner, answer := .salePending }
  else world

/-- `SendAuctionSuccessfulMail`: the profit is computed with unsigned 64-bit numbers. -/
def sendAuctionSuccessfulMail (auction : AuctionEntry) : World Inventory :=
  if world.receiverExists auction.owner then
    let profit := auction.bid + auction.deposit - getAuctionCut env auction
    world.post { receiver := auction.owner, answer := .successful, money := profit }
  else world

def sendAuctionExpiredMail (auction : AuctionEntry) : World Inventory :=
  match world.auctionItems auction.itemGuidLow with
  | none => world
  | some item =>
    if world.receiverExists auction.owner then
      world.post { receiver := auction.owner, answer := .expired, item := some item }
    else world

def sendBidBack (auction : AuctionEntry) (answer : MailAuctionAnswer) : World Inventory :=
  if world.receiverExists auction.bidder then
    world.post { receiver := auction.bidder, answer := answer, money := auction.bid }
  else world

def sendAuctionOutbiddedMail (auction : AuctionEntry) : World Inventory :=
  sendBidBack world auction .outbidded

def sendAuctionCancelledToBidderMail (auction : AuctionEntry) : World Inventory :=
  sendBidBack world auction .cancelledToBidder

/-! ## Selling -/

/-- `CMSG_AUCTION_SELL_ITEM`; the duration is in minutes. -/
structure SellRequest where
  bid : UInt64
  buyout : UInt64
  etime : UInt32
  items : List (UInt64 × UInt32)
  deriving DecidableEq, Repr

variable (character : Character Inventory)

/-- The checks on one stack: it exists, is of the kind of the first one, may be sold and is
large enough. -/
def checkStack (entry : Option UInt32) (stack : UInt64 × UInt32) : Option Item :=
  (env.getItemByGuid character.inventory stack.1).filter fun item =>
    (entry.all fun entry => item.entry = entry) &&
    (world.auctionItems item.guidLow).isNone && item.canBeTraded && !item.isNotEmptyBag &&
    !item.isConjured && item.duration = 0 && stack.2 ≤ item.count

def checkStacks (env : Environment Inventory) (world : World Inventory)
    (character : Character Inventory) :
    Option UInt32 → List (UInt64 × UInt32) → Option (List (Item × UInt32))
  | _, [] => some []
  | entry, stack :: rest => do
      let item ← checkStack env world character entry stack
      let items ← checkStacks env world character (entry.getD item.entry) rest
      some ((item, stack.2) :: items)

/-- The number of items offered together. -/
def finalCount (items : List (Item × UInt32)) : UInt32 := (items.map Prod.snd).sum

/-- What a seller offers once all checks but the one on his money have passed. -/
structure Offer where
  house : House
  entry : AuctionHouseEntry
  etime : UInt32
  item : Item
  items : List (Item × UInt32)
  deriving DecidableEq, Repr

variable (circumstances : Circumstances)

/-- The checks of `HandleAuctionSellItem` up to the deposit. -/
def checkSellItem (character : Character Inventory) (request : SellRequest) : Option Offer := do
  guard (request.items.map Prod.fst).Nodup
  guard (request.items.all fun stack => stack.1 ≠ 0 ∧ stack.2 ≠ 0 ∧ stack.2 ≤ 1000)
  guard (request.bid ≠ 0 ∧ request.etime ≠ 0)
  let auctioneer ← circumstances.auctioneer
  let entry ← auctioneer.entry
  let etime := request.etime * 60
  guard (etime = minAuctionTime ∨ etime = 2 * minAuctionTime ∨ etime = 4 * minAuctionTime)
  let items ← checkStacks env world character none request.items
  let count := finalCount items
  guard (count ≠ 0)
  let (item, _) ← items.head?
  guard (env.hasItemCount character.inventory item.entry count)
  guard (items.all fun stack => count ≤ stack.1.maxStackCount)
  some ⟨auctioneer.house, entry, etime, item, items⟩

/-- `GetAuctionDeposit` for an offer. -/
def offerDeposit (offer : Offer) : UInt32 :=
  env.calculateDeposit offer.entry offer.etime offer.item (finalCount offer.items)

/-- The item put up: the stack itself if it is sold whole, else a clone. -/
def offeredItem (offer : Offer) : Option Item :=
  match offer.items with
  | [(item, count)] =>
    if item.count = count then some item else env.cloneItem item (finalCount offer.items)
  | _ => env.cloneItem offer.item (finalCount offer.items)

/-- Take the offered stacks out of the bags. -/
def withdrawStacks (inventory : Inventory) (items : List (Item × UInt32)) : Inventory :=
  items.foldl (fun inventory stack =>
    if stack.1.count = stack.2 then env.moveItemFromInventory inventory stack.1
    else env.setCount inventory stack.1 (stack.1.count - stack.2)) inventory

variable (time : Nat) (low : UInt32)

def newAuction (request : SellRequest) (offer : Offer) (item : Item) : AuctionEntry where
  id := world.auctionId
  house := offer.house
  itemGuidLow := item.guidLow
  itemEntry := item.entry
  itemCount := item.count
  owner := low
  startbid := request.bid
  bid := 0
  buyout := request.buyout
  expireTime := time + (env.auctionTime offer.etime).toNat
  bidder := 0
  deposit := (offerDeposit env offer).toUInt64
  auctionHouseEntry := offer.entry

def openAuction (inventory : Inventory) (request : SellRequest) (offer : Offer) (item : Item) :
    World Inventory :=
  let auction := newAuction env world time low request offer item
  let world := world.setInventory low (withdrawStacks env inventory offer.items)
  { world with
    auctions := world.auctions.insert auction (Rearrangement.keep AuctionEntry)
    auctionItems := Function.update world.auctionItems item.guidLow (some item) }

/-- `WorldSession::HandleAuctionSellItem`; `none` is undefined behaviour.  The deposit is
taken, and an id used up, even if the clone cannot be made. -/
def handleAuctionSellItem (character : Character Inventory) (request : SellRequest) :
    Option (World Inventory) :=
  match checkSellItem env world circumstances character request with
  | none => some world
  | some offer =>
    let deposit := offerDeposit env offer
    if !hasEnoughMoney character.money deposit.toUInt64 then some world
    else do
      let d ← negSigned 32 deposit.toNat
      let charged := world.setMoney character.low (modifyMoney character.money d)
      let opened := match offeredItem env offer with
        | none => charged
        | some item =>
          openAuction env charged circumstances.time character.low character.inventory request
            offer item
      some { opened with auctionId := world.auctionId + 1 }

/-! ## Bidding -/

def isBid (price : UInt64) : Bool :=
  price < auction.buyout || auction.buyout = 0

/-- The checks of `HandleAuctionPlaceBid`; the auction if all pass. -/
def checkPlaceBid (character : Character Inventory) (auctionId : Nat) (price : UInt64) :
    Option AuctionEntry := do
  guard (auctionId ≠ 0 ∧ price ≠ 0)
  let auctioneer ← circumstances.auctioneer
  let auction ← world.getAuction auctioneer.house auctionId
  guard (auction.owner ≠ character.low)
  guard (auction.bid < price ∧ auction.startbid ≤ price)
  guard (isBid auction price → auction.bid + getAuctionOutBid env auction ≤ price)
  guard (hasEnoughMoney character.money price)
  some auction

/-- `ModifyMoney(-int64(amount))`; `none` is undefined behaviour. -/
def charge (amount : UInt64) : Option (World Inventory) := do
  let d ← negSigned 64 amount.toNat
  some (world.setMoney character.low (modifyMoney character.money d))

/-- Charge the new leader of an auction: the current bidder pays the difference, anybody
else the price, and the current bidder gets his bid back. -/
def payBid (auction : AuctionEntry) (price : UInt64) : Option (World Inventory) :=
  if auction.bidder = character.low then charge world character (price - auction.bid)
  else
    let world := if auction.bidder ≠ 0 then sendAuctionOutbiddedMail world auction else world
    charge world character price

def AuctionEntry.withBid (bidder : UInt32) (price : UInt64) : AuctionEntry :=
  { auction with bidder := bidder, bid := price }

def World.setBid (auctionId : Nat) (bidder : UInt32) (price : UInt64) : World Inventory :=
  let lead (auction : AuctionEntry) : AuctionEntry := auction.withBid bidder price
  { world with auctions := world.auctions.modify auctionId lead }

/-- `WorldSession::HandleAuctionPlaceBid`. -/
def handleAuctionPlaceBid (character : Character Inventory) (auctionId : Nat) (price : UInt64) :
    Option (World Inventory) :=
  match checkPlaceBid env world circumstances character auctionId price with
  | none => some world
  | some auction =>
    if isBid auction price then do
      let world ← payBid world character auction price
      some (world.setBid auctionId character.low price)
    else do
      let world ← payBid world character auction auction.buyout
      let auction := auction.withBid character.low auction.buyout
      let world := sendAuctionSalePendingMail world auction
      let world := sendAuctionSuccessfulMail env world auction
      let world := sendAuctionWonMail env world auction
      some (world.removeAuction auction)

/-! ## Cancelling and expiry -/

/-- The checks of `HandleAuctionRemoveItem`; the auction and its item if all pass. -/
def checkRemoveItem (character : Character Inventory) (auctionId : Nat) :
    Option (AuctionEntry × Item) := do
  let auctioneer ← circumstances.auctioneer
  let auction ← world.getAuction auctioneer.house auctionId
  guard (auction.owner = character.low)
  let item ← world.auctionItems auction.itemGuidLow
  guard (auction.bidder ≠ 0 → hasEnoughMoney character.money (getAuctionCut env auction))
  some (auction, item)

/-- `WorldSession::HandleAuctionRemoveItem`. -/
def handleAuctionRemoveItem (character : Character Inventory) (auctionId : Nat) :
    Option (World Inventory) :=
  match checkRemoveItem env world circumstances character auctionId with
  | none => some world
  | some (auction, item) => do
      let world ←
        if auction.bidder ≠ 0 then
          charge (sendAuctionCancelledToBidderMail world auction) character
            (getAuctionCut env auction)
        else some world
      let world := world.post
        { receiver := character.low, answer := .canceled, item := some item }
      some (world.removeAuction auction)

/-- What `Update` does to one expired auction. -/
def expireAuction (auction : AuctionEntry) : World Inventory :=
  let world :=
    if auction.bidder = 0 then sendAuctionExpiredMail world auction
    else sendAuctionWonMail env (sendAuctionSuccessfulMail env world auction) auction
  world.removeAuction auction

/-- `CHAR_SEL_AUCTION_BY_TIME`: the ids of all auctions that expire within a minute, the
earliest first. -/
def selectExpired : List Nat :=
  ((world.auctions.rows.filter fun auction => auction.expireTime ≤ (time + 60) % 2 ^ 32).insertionSort
    fun first second => first.expireTime ≤ second.expireTime).map AuctionEntry.id

/-- One round of the loop of `AuctionHouseObject::Update`. -/
def updateAuction (house : House) (world : World Inventory) (auctionId : Nat) : World Inventory :=
  match world.getAuction house auctionId with
  | none => world
  | some auction => expireAuction env world auction

/-- `AuctionHouseObject::Update`. -/
def update (house : House) (world : World Inventory) (time : Nat) : World Inventory :=
  (selectExpired world time).foldl (updateAuction env house) world

/-! ## Events -/

inductive Request where
  | sellItem (request : SellRequest)
  | placeBid (auctionId : Nat) (price : UInt64)
  | removeItem (auctionId : Nat)
  deriving DecidableEq, Repr

inductive Event where
  | request (low : UInt32) (circumstances : Circumstances) (request : Request)
  | update (house : House) (time : Nat)
  deriving DecidableEq, Repr

def World.player : Option (Character Inventory) :=
  (world.characters.get? low).filter fun character => character.inWorld

/-- One event; `none` is undefined behaviour. -/
def perform : Event → Option (World Inventory)
  | .update house time => some (update env house world time)
  | .request low circumstances request =>
    match world.player low with
    | none => some world
    | some character =>
      match request with
      | .sellItem request => handleAuctionSellItem env world circumstances character request
      | .placeBid auctionId price =>
        handleAuctionPlaceBid env world circumstances character auctionId price
      | .removeItem auctionId =>
        handleAuctionRemoveItem env world circumstances character auctionId

end

end MopServer.Auctions
