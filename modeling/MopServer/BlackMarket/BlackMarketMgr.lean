import MopServer.Foundation.Table

/-! # The black market

Auctions run out and are replaced by new ones, from templates that are drawn at random.  What an
update changes it also appends to one transaction.
-/

namespace MopServer.BlackMarket

open MopServer.Foundation

structure ItemTemplate where
  stackable : Int

variable (item : ItemTemplate)

/-- `GetMaxStackSize`. -/
def ItemTemplate.maxStackSize : Nat :=
  if item.stackable = 2147483647 ∨ item.stackable ≤ 0 then 0x7FFFFFFF - 1 else item.stackable.toNat

structure BMAuctionTemplate where
  id : Nat
  itemEntry : Nat
  itemCount : Nat
  seller : Nat
  duration : UInt32
  startBid : Nat
  chance : Nat
  deriving DecidableEq

instance instKeyedBMAuctionTemplate : Keyed BMAuctionTemplate Nat := ⟨BMAuctionTemplate.id⟩

/-- A row of `blackmarket`. -/
structure AuctionRow where
  id : Nat
  templateId : Nat
  startTime : UInt32
  bid : Nat
  bidder : Nat
  bidderCount : UInt32
  deriving DecidableEq

instance instKeyedAuctionRow : Keyed AuctionRow Nat := ⟨AuctionRow.id⟩

/-- `BMAuctionEntry`, with the template it points to. -/
structure BMAuctionEntry extends AuctionRow where
  bmTemplate : BMAuctionTemplate
  deriving DecidableEq

instance instKeyedBMAuctionEntry : Keyed BMAuctionEntry Nat := ⟨fun auction => auction.id⟩

namespace BMAuctionEntry

variable (auction : BMAuctionEntry)

def endTime : UInt32 := auction.startTime + auction.bmTemplate.duration

def isExpired (now : Nat) : Bool := auction.endTime.toNat ≤ now

end BMAuctionEntry

/-- What is appended to a transaction. -/
inductive Statement
  | wonMail (auctionId receiver itemEntry itemCount : Nat)
  | delete (id : Nat)
  | insert (row : AuctionRow)

variable (rows : Table AuctionRow)

def Statement.apply : Statement → Option (Table AuctionRow)
  | .wonMail _ _ _ _ => some rows
  | .delete id => some (rows.erase id)
  | .insert row =>
    if (rows.get? row.id).isSome then none else some (rows.insert row (.keep _))

/-- `CommitTransaction`: a statement that fails takes the others back. -/
def commit (transaction : List Statement) : Table AuctionRow :=
  (transaction.foldlM Statement.apply rows).getD rows

/-- What the configuration and the world database say. -/
structure Config where
  maxAuctions : UInt32
  auctionDelay : UInt32
  auctionDelayMod : UInt32
  items : Nat → Option ItemTemplate

/-- `urand`, for any outcome. -/
def urand (min max outcome : Nat) : Nat := min + outcome % (max - min + 1)

/-- The time and the random outcomes of a round of `CreateAuctions`. -/
structure Round where
  chance : Nat
  pick : Nat
  now : Nat
  delay : Nat

/-- When an update looks at each auction, and what happens in its rounds. -/
structure Tick where
  clock : Nat → Nat
  round : Nat → Round

structure BlackMarketMgr where
  templates : Table BMAuctionTemplate
  auctions : Table BMAuctionEntry
  stored : Table AuctionRow

/-- `CreateItem`: the size of the stack, or no item. -/
def createItem (count : Nat) : Option Nat :=
  if count < 1 then none
  else
    let count := if item.maxStackSize < count then item.maxStackSize else count
    if count = 0 then none else some count

variable (config : Config) (auction : BMAuctionEntry)

/-- `SendAuctionWon`; it does not ask whether there is an item. -/
def sendAuctionWon : Option (List Statement) :=
  match config.items auction.bmTemplate.itemEntry with
  | none => some []
  | some item =>
    (createItem item auction.bmTemplate.itemCount).map fun count =>
      [.wonMail auction.id auction.bidder auction.bmTemplate.itemEntry count]

/-- The mail of an auction that has run out; only a bidder gets one. -/
def sendIfWon : Option (List Statement) :=
  if auction.bidder ≠ 0 then sendAuctionWon config auction else some []

/-- What `Update` appends for the auctions that have run out. -/
def expire (config : Config) (clock : Nat → Nat) :
    List BMAuctionEntry → Option (List Statement)
  | [] => some []
  | auction :: rest =>
    if auction.isExpired (clock auction.id) then do
      let won ← sendIfWon config auction
      let later ← expire config clock rest
      return won ++ .delete auction.id :: later
    else expire config clock rest

/-- `GetNewAuctionId`: one of the first ids is free. -/
def newAuctionId (auctions : Table BMAuctionEntry) : Nat :=
  ((List.range' 1 (auctions.rows.length + 1)).find? fun id => (auctions.get? id).isNone).getD 0

variable (templates : Table BMAuctionTemplate)

def templateList (auctions : Table BMAuctionEntry) (rand : Nat) : List Nat :=
  ((templates.rows.filter fun template => rand ≤ template.chance).map BMAuctionTemplate.id).filter
    fun id => id ∉ auctions.rows.map fun auction => auction.templateId

/-- The start of a new auction; the clock has 64 bits, and the field 32. -/
def startTimeOf (round : Round) : UInt32 :=
  UInt32.ofInt (round.now + config.auctionDelay.toNat +
    urand 0 (config.auctionDelayMod * 2).toNat round.delay - (config.auctionDelayMod / 2).toNat)

/-- The loop body of `CreateAuctions`. -/
def createAuction (created : Table BMAuctionEntry × List Statement) (round : Round) :
    Table BMAuctionEntry × List Statement :=
  let (auctions, transaction) := created
  let list := templateList templates auctions (urand 1 100 round.chance)
  match list[urand 0 (list.length - 1) round.pick]? with
  | none => (auctions, transaction)
  | some id =>
    match templates.get? id with
    | none => (auctions, transaction)
    | some selTemplate =>
      let auction : BMAuctionEntry :=
        { id := newAuctionId auctions
          templateId := selTemplate.id
          startTime := startTimeOf config round
          bid := selTemplate.startBid
          bidder := 0
          bidderCount := 0
          bmTemplate := selTemplate }
      (auctions.insert auction (.sorted _), transaction ++ [.insert auction.toAuctionRow])

def createAuctions (number : Nat) (round : Nat → Round) (auctions : Table BMAuctionEntry)
    (transaction : List Statement) : Table BMAuctionEntry × List Statement :=
  if templates.rows = [] then (auctions, transaction)
  else ((List.range number).map round).foldl (createAuction config templates) (auctions, transaction)

namespace BlackMarketMgr

variable (config : Config) (mgr : BlackMarketMgr)

/-- `Update`, and its transaction; there is none if a null pointer is followed. -/
def update (tick : Tick) : Option (BlackMarketMgr × List Statement) :=
  (expire config tick.clock mgr.auctions.rows).map fun expired =>
    let auctions := mgr.auctions.filter fun auction => !auction.isExpired (tick.clock auction.id)
    let add := ((config.maxAuctions.toNat : Int) - auctions.rows.length).bmod (2 ^ 32)
    let (auctions, transaction) :=
      if 0 < add then
        createAuctions config mgr.templates add.toNat tick.round auctions expired
      else (auctions, expired)
    ({ mgr with auctions := auctions, stored := commit mgr.stored transaction }, transaction)

/-- `UpdateAuction`: a bid, in memory and in the row. -/
def updateAuction (id newPrice newBidder : Nat) : BlackMarketMgr :=
  match mgr.auctions.get? id with
  | none => mgr
  | some auction =>
    let count := auction.bidderCount + 1
    { mgr with
      auctions := mgr.auctions.modify id fun auction =>
        { auction with bid := newPrice, bidder := newBidder, bidderCount := count }
      stored := mgr.stored.modify id fun row =>
        { row with bid := newPrice, bidder := newBidder, bidderCount := count } }

inductive Event
  | update (tick : Tick)
  | bid (id newPrice newBidder : Nat)

def step (mgr : BlackMarketMgr) : Event → BlackMarketMgr
  | .update tick => ((mgr.update config tick).map Prod.fst).getD mgr
  | .bid id newPrice newBidder => mgr.updateAuction id newPrice newBidder

end BlackMarketMgr

end MopServer.BlackMarket
