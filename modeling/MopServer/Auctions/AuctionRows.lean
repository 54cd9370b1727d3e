import MopServer.Auctions.ItemConservation

/-! # The rows of auctions

An auction is written to the database when it is put up, and its bid whenever somebody bids.  At the
start of the server it is read back.
-/

namespace MopServer.Auctions

open MopServer.Foundation

variable {Inventory : Type}

/-- The columns of `auctionhouse`. -/
inductive Column where
  | id
  | auctioneerguid
  | itemguid
  | itemowner
  | buyoutprice
  | time
  | buyguid
  | lastbid
  | startbid
  | deposit
  deriving DecidableEq

structure AuctionRow where
  id : Int
  auctioneerguid : Int
  itemguid : Int
  itemowner : Int
  buyoutprice : Int
  time : Int
  buyguid : Int
  lastbid : Int
  startbid : Int
  deposit : Int
  deriving DecidableEq

/-- What the database keeps of a value that is sent to a column, unless it refuses it. -/
abbrev Storage := Column → Int → Option Int

/-- The width with which `LoadFromDB` reads a column. -/
def Column.bits : Column → Nat
  | .buyoutprice | .lastbid | .startbid | .deposit => 64
  | _ => 32

/-- The columns are as wide as they are read.  A negative value is kept, replaced by 0 or refused,
as a column is signed or not and the database strict or not. -/
structure Storage.Suits (storage : Storage) : Prop where
  keeps : ∀ column value, 0 ≤ value → value < 2 ^ column.bits → storage column value = some value
  clips : ∀ column value kept, value < 0 → storage column value = some kept →
    kept = value ∨ kept = 0

/-- `int32(deposit)`. -/
def signedDeposit (deposit : UInt64) : Int := Int.bmod deposit.toNat (2 ^ 32)

variable (storage : Storage)

/-- `AuctionEntry::SaveToDB`. -/
def saveToDB (auctioneer : UInt32) (auction : AuctionEntry) : Option AuctionRow := do
  let id ← storage .id auction.id
  let auctioneerguid ← storage .auctioneerguid auctioneer.toNat
  let itemguid ← storage .itemguid auction.itemGuidLow.toNat
  let itemowner ← storage .itemowner auction.owner.toNat
  let buyoutprice ← storage .buyoutprice auction.buyout.toNat
  let time ← storage .time (auction.expireTime % 2 ^ 64)
  let buyguid ← storage .buyguid auction.bidder.toNat
  let lastbid ← storage .lastbid auction.bid.toNat
  let startbid ← storage .startbid auction.startbid.toNat
  let deposit ← storage .deposit (signedDeposit auction.deposit)
  some ⟨id, auctioneerguid, itemguid, itemowner, buyoutprice, time, buyguid, lastbid, startbid,
    deposit⟩

/-- `CHAR_UPD_AUCTION_BID`, with the bid as `HandleAuctionPlaceBid` sends it. -/
def AuctionRow.updateBid (row : AuctionRow) (bidder : UInt32) (bid : UInt64) : AuctionRow :=
  match storage .buyguid bidder.toNat, storage .lastbid bid.toUInt32.toNat with
  | some buyguid, some lastbid => { row with buyguid, lastbid }
  | _, _ => row

/-- `Field::GetUInt32`, `Field::GetUInt64`. -/
def readUInt32 (value : Int) : UInt32 := UInt32.ofNat (value % 2 ^ 32).toNat
def readUInt64 (value : Int) : UInt64 := UInt64.ofNat (value % 2 ^ 64).toNat

/-- What is known when auctions are loaded. -/
structure Startup where
  /-- The entry and the count of an item in `item_instance`. -/
  itemInstance : UInt32 → Option (UInt32 × UInt32)
  /-- The faction of the template of a creature. -/
  factionTemplate : UInt32 → Option UInt32
  auctionHouseEntry : UInt32 → Option (House × AuctionHouseEntry)
  /-- `GetAItem`. -/
  hasItem : UInt32 → Bool

/-- `AuctionEntry::LoadFromDB`. -/
def loadFromDB (startup : Startup) (row : AuctionRow) : Option AuctionEntry := do
  let itemGuidLow := readUInt32 row.itemguid
  let (itemEntry, itemCount) ← startup.itemInstance itemGuidLow
  let factionTemplateId ← startup.factionTemplate (readUInt32 row.auctioneerguid)
  let (house, auctionHouseEntry) ← startup.auctionHouseEntry factionTemplateId
  guard (startup.hasItem itemGuidLow)
  some {
    id := (readUInt32 row.id).toNat
    house
    itemGuidLow
    itemEntry
    itemCount
    owner := readUInt32 row.itemowner
    startbid := readUInt64 row.startbid
    bid := readUInt64 row.lastbid
    buyout := readUInt64 row.buyoutprice
    expireTime := (readUInt32 row.time).toNat
    bidder := readUInt32 row.buyguid
    deposit := readUInt64 row.deposit
    auctionHouseEntry }

/-- The auctioneer and the item of an auction are there. -/
structure Startup.Knows (startup : Startup) (auctioneer itemGuidLow : UInt32) : Prop where
  item : (startup.itemInstance itemGuidLow).isSome
  auctioneer : ∃ faction, startup.factionTemplate auctioneer = some faction ∧
    (startup.auctionHouseEntry faction).isSome
  loaded : startup.hasItem itemGuidLow = true

/-- The bids and the terms of an auction are read back as they are in memory. -/
def Reloads (startup : Startup) (row : Option AuctionRow) (auction : AuctionEntry) : Prop :=
  ∃ loaded, row.bind (loadFromDB startup) = some loaded ∧ loaded.bidder = auction.bidder ∧
    loaded.bid = auction.bid ∧ loaded.buyout = auction.buyout ∧
    loaded.startbid = auction.startbid ∧ loaded.deposit = auction.deposit ∧
    loaded.expireTime = auction.expireTime

/-! ## Bids on auctions that are in the database -/

/-- The auctions in memory and in the database. -/
structure Persisted (Inventory : Type) where
  world : World Inventory
  rows : Nat → Option AuctionRow

/-- `CMSG_AUCTION_PLACE_BID` of a player. -/
structure BidRequest where
  low : UInt32
  circumstances : Circumstances
  auctionId : Nat
  price : UInt64
  deriving DecidableEq

variable (env : Environment Inventory) (state : Persisted Inventory)

/-- The statement of a bid: an update, or a deletion if the auction is bought out. -/
def bidStatement (character : Character Inventory) (request : BidRequest) :
    Nat → Option AuctionRow :=
  match checkPlaceBid env state.world request.circumstances character request.auctionId
    request.price with
  | none => state.rows
  | some auction =>
    Function.update state.rows auction.id
      (if isBid auction request.price then
        (state.rows auction.id).map fun row => row.updateBid storage character.low request.price
      else none)

/-- `WorldSession::HandleAuctionPlaceBid` in both; `none` is undefined behaviour. -/
def placeBid (request : BidRequest) : Option (Persisted Inventory) :=
  match state.world.player request.low with
  | none => some state
  | some character =>
    (handleAuctionPlaceBid env state.world request.circumstances character request.auctionId
      request.price).map fun world =>
        ⟨world, bidStatement storage env state character request⟩

def acceptedBid (world : World Inventory) (auctionId : Nat) (request : BidRequest) :
    Option UInt64 :=
  match world.player request.low with
  | none => none
  | some character =>
    match checkPlaceBid env world request.circumstances character request.auctionId
      request.price with
    | none => none
    | some auction =>
      if auction.id = auctionId && isBid auction request.price then some request.price
      else none

def acceptedBids (storage : Storage) (env : Environment Inventory) (auctionId : Nat) :
    Persisted Inventory → List BidRequest → List UInt64
  | _, [] => []
  | state, request :: requests =>
    (acceptedBid env state.world auctionId request).toList ++
      match placeBid storage env state request with
      | none => []
      | some next => acceptedBids storage env auctionId next requests

/-! ## What is read back of a value -/

@[simp] theorem readUInt32_toNat (value : UInt32) : readUInt32 value.toNat = value := by
  have hlt := value.toNat_lt
  have hmod : ((value.toNat : Int) % 2 ^ 32).toNat = value.toNat := by omega
  unfold readUInt32
  rw [hmod, UInt32.ofNat_toNat]

@[simp] theorem readUInt64_toNat (value : UInt64) : readUInt64 value.toNat = value := by
  have hlt := value.toNat_lt
  have hmod : ((value.toNat : Int) % 2 ^ 64).toNat = value.toNat := by omega
  unfold readUInt64
  rw [hmod, UInt64.ofNat_toNat]

theorem readUInt64_bid_eq_iff (bid : UInt64) :
    readUInt64 bid.toUInt32.toNat = bid ↔ bid.toNat < 2 ^ 32 := by
  have hmod : (((bid.toNat % 2 ^ 32 : Nat) : Int) % 2 ^ 64).toNat = bid.toNat % 2 ^ 32 := by omega
  unfold readUInt64
  rw [UInt64.toNat_toUInt32, hmod, ← UInt64.toNat_inj, UInt64.toNat_ofNat']
  omega

section Columns

variable {storage : Storage}

theorem Storage.Suits.keeps_uint32 (hsuits : storage.Suits) (column : Column)
    (hbits : 32 ≤ column.bits) (value : UInt32) :
    storage column value.toNat = some ↑value.toNat := by
  have hlt : (value.toNat : Int) < 2 ^ 32 := by exact_mod_cast value.toNat_lt
  exact hsuits.keeps column _ (Int.natCast_nonneg _)
    (hlt.trans_le (pow_le_pow_right₀ (by decide) hbits))

theorem Storage.Suits.keeps_uint64 (hsuits : storage.Suits) (column : Column)
    (hbits : column.bits = 64) (value : UInt64) :
    storage column value.toNat = some ↑value.toNat := by
  have hlt : (value.toNat : Int) < 2 ^ 64 := by exact_mod_cast value.toNat_lt
  exact hsuits.keeps column _ (Int.natCast_nonneg _) (hbits ▸ hlt)

theorem Storage.Suits.time_read_iff (hsuits : storage.Suits) (expireTime : Nat) :
    (∃ time, storage .time (expireTime % 2 ^ 64) = some time ∧
        (readUInt32 time).toNat = expireTime) ↔ expireTime < 2 ^ 32 := by
  constructor
  · rintro ⟨time, -, hread⟩
    exact hread ▸ (readUInt32 time).toNat_lt
  · intro hsmall
    have hmod : ((expireTime : Int) % 2 ^ 64) = expireTime := by omega
    have hfits : (expireTime : Int) < 2 ^ Column.time.bits := by
      have hbits : Column.time.bits = 32 := rfl
      rw [hbits]
      omega
    refine ⟨expireTime, ?_, ?_⟩
    · rw [hmod]
      exact hsuits.keeps .time _ (Int.natCast_nonneg _) hfits
    · have hread := readUInt32_toNat (UInt32.ofNat expireTime)
      rw [UInt32.toNat_ofNat', Nat.mod_eq_of_lt hsmall] at hread
      rw [hread, UInt32.toNat_ofNat', Nat.mod_eq_of_lt hsmall]

theorem Storage.Suits.deposit_read_iff (hsuits : storage.Suits) {deposit : UInt64}
    (hdeposit : deposit.toNat < 2 ^ 32) :
    (∃ kept, storage .deposit (signedDeposit deposit) = some kept ∧
        readUInt64 kept = deposit) ↔ deposit.toNat < 2 ^ 31 := by
  constructor
  · rintro ⟨kept, hkept, hread⟩
    by_contra hlarge
    have hsigned : signedDeposit deposit = deposit.toNat - 2 ^ 32 := by
      unfold signedDeposit
      rw [Int.bmod_def]
      split <;> omega
    have hread' := congrArg UInt64.toNat hread
    unfold readUInt64 at hread'
    rw [UInt64.toNat_ofNat'] at hread'
    have hnegative : signedDeposit deposit < 0 := by omega
    -- A negative number that is kept is read as one near the end of the range.
    have hclipped := hsuits.clips .deposit _ kept hnegative hkept
    omega
  · intro hsmall
    have hsigned : signedDeposit deposit = deposit.toNat := by
      unfold signedDeposit
      rw [Int.bmod_def]
      split <;> omega
    refine ⟨deposit.toNat, ?_, readUInt64_toNat deposit⟩
    rw [hsigned]
    exact hsuits.keeps_uint64 .deposit rfl deposit

end Columns

/-! ## Rows of saved auctions -/

variable {current : AuctionEntry}

section Rows

variable {storage : Storage} {startup : Startup} {auctioneer : UInt32} {auction : AuctionEntry}
  {row : AuctionRow}

def auctionRow (auctioneer : UInt32) (auction : AuctionEntry) (time deposit : Int) :
    AuctionRow where
  id := auction.id
  auctioneerguid := auctioneer.toNat
  itemguid := auction.itemGuidLow.toNat
  itemowner := auction.owner.toNat
  buyoutprice := auction.buyout.toNat
  time
  buyguid := auction.bidder.toNat
  lastbid := auction.bid.toNat
  startbid := auction.startbid.toNat
  deposit

theorem saveToDB_eq (hsuits : storage.Suits) (hid : auction.id < 2 ^ 32) :
    saveToDB storage auctioneer auction =
      (storage .time (auction.expireTime % 2 ^ 64)).bind fun time =>
        (storage .deposit (signedDeposit auction.deposit)).bind fun deposit =>
          some (auctionRow auctioneer auction time deposit) := by
  have hbits : Column.id.bits = 32 := rfl
  have hkey : storage .id auction.id = some ↑auction.id :=
    hsuits.keeps .id _ (Int.natCast_nonneg _) (by rw [hbits]; exact_mod_cast hid)
  have hauctioneer := hsuits.keeps_uint32 .auctioneerguid (by decide) auctioneer
  have hitem := hsuits.keeps_uint32 .itemguid (by decide) auction.itemGuidLow
  have howner := hsuits.keeps_uint32 .itemowner (by decide) auction.owner
  have hbuyout := hsuits.keeps_uint64 .buyoutprice rfl auction.buyout
  have hbidder := hsuits.keeps_uint32 .buyguid (by decide) auction.bidder
  have hbid := hsuits.keeps_uint64 .lastbid rfl auction.bid
  have hstart := hsuits.keeps_uint64 .startbid rfl auction.startbid
  simp only [saveToDB, hkey, hauctioneer, hitem, howner, hbuyout, hbidder, hbid, hstart,
    Option.bind_eq_bind, Option.bind_some]
  rfl

theorem updateBid_eq (hsuits : storage.Suits) (row : AuctionRow) (bidder : UInt32)
    (bid : UInt64) :
    row.updateBid storage bidder bid =
      { row with buyguid := bidder.toNat, lastbid := bid.toUInt32.toNat } := by
  have hbidder := hsuits.keeps_uint32 .buyguid (by decide) bidder
  have hbid := hsuits.keeps_uint32 .lastbid (by decide) bid.toUInt32
  simp only [AuctionRow.updateBid, hbidder, hbid]

theorem updateBid_updateBid (hsuits : storage.Suits) (row : AuctionRow)
    (bidder later : UInt32) (bid price : UInt64) :
    (row.updateBid storage bidder bid).updateBid storage later price =
      row.updateBid storage later price := by
  simp only [updateBid_eq hsuits]

theorem reloads_some_iff (hknows : startup.Knows auctioneer auction.itemGuidLow)
    (hitem : row.itemguid = auction.itemGuidLow.toNat)
    (hauctioneer : row.auctioneerguid = auctioneer.toNat) :
    Reloads startup (some row) current ↔
      readUInt32 row.buyguid = current.bidder ∧ readUInt64 row.lastbid = current.bid ∧
        readUInt64 row.buyoutprice = current.buyout ∧
        readUInt64 row.startbid = current.startbid ∧
        readUInt64 row.deposit = current.deposit ∧
        (readUInt32 row.time).toNat = current.expireTime := by
  obtain ⟨⟨itemEntry, itemCount⟩, hinstance⟩ := Option.isSome_iff_exists.mp hknows.item
  obtain ⟨faction, hfaction, hhouse⟩ := hknows.auctioneer
  obtain ⟨⟨house, entry⟩, hentry⟩ := Option.isSome_iff_exists.mp hhouse
  simp only [Reloads, Option.bind_some, loadFromDB, hitem, hauctioneer, readUInt32_toNat, hinstance,
    hfaction, hentry, hknows.loaded, guard_true, Option.bind_eq_bind, Option.pure_def,
    Option.some.injEq, exists_eq_left']

end Rows

/-! ## Bids in memory and in the database -/

section Bids

variable {storage : Storage} {env : Environment Inventory} {state next : Persisted Inventory}
  {request : BidRequest} {auctionId : Nat} {requests : List BidRequest} {last : Option UInt64}
  {auction : AuctionEntry} {auctioneer : UInt32}

theorem get?_setBid (world : World Inventory) (auctionId other : Nat) (bidder : UInt32)
    (price : UInt64) :
    (world.setBid auctionId bidder price).auctions.get? other =
      if other = auctionId then (world.auctions.get? auctionId).map fun auction =>
        auction.withBid bidder price
      else world.auctions.get? other :=
  Table.get?_modify world.auctions auctionId other
    (fun auction : AuctionEntry => auction.withBid bidder price) fun _ => rfl

/-- A request is refused, a bid that is led by its bidder from then on, or a buyout. -/
theorem handleAuctionPlaceBid_cases {world after : World Inventory}
    {circumstances : Circumstances} {character : Character Inventory} {price : UInt64}
    (hafter : handleAuctionPlaceBid env world circumstances character auctionId price =
      some after) :
    (checkPlaceBid env world circumstances character auctionId price = none ∧ after = world) ∨
      ∃ auction,
        checkPlaceBid env world circumstances character auctionId price = some auction ∧
          if isBid auction price then
            after.auctions = (world.setBid auctionId character.low price).auctions
          else after.auctions = world.auctions.erase auction.id := by
  unfold handleAuctionPlaceBid at hafter
  split at hafter
  next hcheck => exact Or.inl ⟨hcheck, (Option.some.inj hafter).symm⟩
  next auction hcheck =>
    refine Or.inr ⟨auction, hcheck, ?_⟩
    split at hafter
    next hbid =>
      obtain ⟨middle, hpay, hmiddle⟩ := Option.bind_eq_some_iff.mp hafter
      obtain rfl := Option.some.inj hmiddle
      have hsame := (unmoved_payBid hpay auction.itemGuidLow).1.auctions
      rw [if_pos hbid]
      unfold World.setBid
      simp only [hsame]
    next hbid =>
      obtain ⟨middle, hpay, hmiddle⟩ := Option.bind_eq_some_iff.mp hafter
      obtain rfl := Option.some.inj hmiddle
      have hsame := (unmoved_payBid hpay auction.itemGuidLow).1.auctions
      have hmails := (unmoved_buyoutMails env middle
        (auction.withBid character.low auction.buyout)).auctions
      rw [if_neg hbid]
      unfold World.removeAuction
      simp only [hmails, hsame]
      rfl

theorem placeBid_live (hnext : placeBid storage env state request = some next)
    (hlive : state.world.auctions.get? auctionId = some current) :
    next.world.auctions.get? auctionId = none ∨
      (acceptedBid env state.world auctionId request = none ∧
        next.world.auctions.get? auctionId = some current ∧
          next.rows auctionId = state.rows auctionId) ∨
      (acceptedBid env state.world auctionId request = some request.price ∧
        next.world.auctions.get? auctionId = some (current.withBid request.low request.price) ∧
          next.rows auctionId =
            (state.rows auctionId).map fun row =>
              row.updateBid storage request.low request.price) := by
  unfold placeBid at hnext
  unfold acceptedBid
  split at hnext
  next hplayer =>
    obtain rfl := Option.some.inj hnext
    exact Or.inr (Or.inl ⟨rfl, hlive, rfl⟩)
  next character hplayer =>
    obtain ⟨after, hafter, rfl⟩ := Option.map_eq_some_iff.mp hnext
    obtain ⟨-, hlow, -⟩ := mem_of_player hplayer
    simp only [bidStatement]
    rcases handleAuctionPlaceBid_cases hafter with ⟨hcheck, rfl⟩ | ⟨auction, hcheck, hauctions⟩
    · rw [hcheck]
      exact Or.inr (Or.inl ⟨rfl, hlive, rfl⟩)
    · have hid := (accepted_of_checkPlaceBid hcheck).id
      simp only [hcheck]
      by_cases hsame : auction.id = auctionId
      · have hrequest : auctionId = request.auctionId := hsame.symm.trans hid
        split at hauctions
        next hbid =>
          refine Or.inr (Or.inr ⟨by simp [hsame, hbid], ?_, ?_⟩)
          · rw [hauctions, get?_setBid, if_pos hrequest, ← hrequest, hlive, hlow]
            rfl
          · rw [hsame, Function.update_self, if_pos hbid, hlow]
        next hbid =>
          refine Or.inl ?_
          rw [hauctions, hsame, Table.get?_erase, if_pos rfl]
      · -- Another auction is bid on or bought.
        have hother : auctionId ≠ auction.id := fun heq => hsame heq.symm
        refine Or.inr (Or.inl ⟨by simp [hsame], ?_, Function.update_of_ne hother _ _⟩)
        split at hauctions
        · rw [hauctions, get?_setBid, if_neg (hid ▸ hother), hlive]
        · rw [hauctions, Table.get?_erase_of_ne _ hother, hlive]

/-- An auction that is over does not come back. -/
theorem placeBid_gone (hnext : placeBid storage env state request = some next)
    (hgone : state.world.auctions.get? auctionId = none) :
    next.world.auctions.get? auctionId = none := by
  unfold placeBid at hnext
  split at hnext
  · obtain rfl := Option.some.inj hnext
    exact hgone
  · obtain ⟨after, hafter, rfl⟩ := Option.map_eq_some_iff.mp hnext
    rcases handleAuctionPlaceBid_cases hafter with ⟨-, rfl⟩ | ⟨auction, -, hauctions⟩
    · exact hgone
    · split at hauctions
      · rw [hauctions, get?_setBid]
        split
        next heq => rw [← heq, hgone, Option.map_none]
        · exact hgone
      · rw [hauctions, Table.get?_erase]
        split
        · rfl
        · exact hgone

theorem foldlM_placeBid_gone (hrun : requests.foldlM (placeBid storage env) state = some next)
    (hgone : state.world.auctions.get? auctionId = none) :
    next.world.auctions.get? auctionId = none := by
  induction requests generalizing state with
  | nil =>
    obtain rfl := Option.some.inj hrun
    exact hgone
  | cons request requests ih =>
    rw [List.foldlM_cons] at hrun
    obtain ⟨middle, hmiddle, hrest⟩ := Option.bind_eq_some_iff.mp hrun
    exact ih hrest (placeBid_gone hmiddle hgone)

/-- An auction and its row as the last accepted bid has left them. -/
inductive Tracks (storage : Storage) (auctioneer : UInt32) (auction : AuctionEntry) :
    Option UInt64 → Option AuctionEntry → Option AuctionRow → Prop where
  | unbid : Tracks storage auctioneer auction none (some auction)
      (saveToDB storage auctioneer auction)
  | bid (bidder : UInt32) (price : UInt64) :
      Tracks storage auctioneer auction (some price) (some (auction.withBid bidder price))
        ((saveToDB storage auctioneer auction).map fun row => row.updateBid storage bidder price)

theorem Tracks.step (hsuits : storage.Suits)
    (htracks : Tracks storage auctioneer auction last (state.world.auctions.get? auction.id)
      (state.rows auction.id)) (hnext : placeBid storage env state request = some next)
    (hlive : next.world.auctions.get? auction.id ≠ none) :
    Tracks storage auctioneer auction ((acceptedBid env state.world auction.id request).or last)
      (next.world.auctions.get? auction.id) (next.rows auction.id) := by
  generalize hentry : state.world.auctions.get? auction.id = entry at htracks
  generalize hrow : state.rows auction.id = row at htracks
  cases htracks with
  | unbid =>
    rcases placeBid_live hnext hentry with hgone | ⟨hbid, hnow, hrow'⟩ | ⟨hbid, hnow, hrow'⟩
    · exact absurd hgone hlive
    · rw [hbid, hnow, hrow', hrow]
      exact Tracks.unbid
    · rw [hbid, hnow, hrow', hrow]
      exact Tracks.bid _ _
  | bid bidder price =>
    rcases placeBid_live hnext hentry with hgone | ⟨hbid, hnow, hrow'⟩ | ⟨hbid, hnow, hrow'⟩
    · exact absurd hgone hlive
    · rw [hbid, hnow, hrow', hrow]
      exact Tracks.bid bidder price
    · rw [hbid, hnow, hrow', hrow, Option.map_map]
      have htwice : (fun row : AuctionRow => row.updateBid storage request.low request.price) ∘
          (fun row : AuctionRow => row.updateBid storage bidder price) =
            fun row : AuctionRow => row.updateBid storage request.low request.price := by
        funext row
        exact updateBid_updateBid hsuits row bidder request.low price request.price
      rw [htwice]
      exact Tracks.bid request.low request.price

theorem Tracks.run (hsuits : storage.Suits)
    (htracks : Tracks storage auctioneer auction last (state.world.auctions.get? auction.id)
      (state.rows auction.id)) (hrun : requests.foldlM (placeBid storage env) state = some next)
    (hlive : next.world.auctions.get? auction.id ≠ none) :
    Tracks storage auctioneer auction
      ((acceptedBids storage env auction.id state requests).getLast?.or last)
      (next.world.auctions.get? auction.id) (next.rows auction.id) := by
  induction requests generalizing state last with
  | nil =>
    obtain rfl := Option.some.inj hrun
    exact htracks
  | cons request requests ih =>
    rw [List.foldlM_cons] at hrun
    obtain ⟨middle, hmiddle, hrest⟩ := Option.bind_eq_some_iff.mp hrun
    have hstill : middle.world.auctions.get? auction.id ≠ none := fun hgone =>
      hlive (foldlM_placeBid_gone hrest hgone)
    have hlater := ih (htracks.step hsuits hmiddle hstill) hrest
    have hlast : (acceptedBids storage env auction.id state (request :: requests)).getLast? =
        (acceptedBids storage env auction.id middle requests).getLast?.or
          (acceptedBid env state.world auction.id request) := by
      simp only [acceptedBids, hmiddle, List.getLast?_append]
      cases acceptedBid env state.world auction.id request <;> rfl
    rw [hlast, Option.or_assoc]
    exact hlater

end Bids

/-! ## A restart after any number of bids -/

section Restart

variable {storage : Storage} {startup : Startup} {auctioneer : UInt32} {auction : AuctionEntry}

theorem reloads_saved_iff (hsuits : storage.Suits)
    (hknows : startup.Knows auctioneer auction.itemGuidLow) (hid : auction.id < 2 ^ 32)
    (hdeposit : auction.deposit.toNat < 2 ^ 32) (bidder : UInt32) (lastbid : Int)
    (price : UInt64) :
    Reloads startup
        ((saveToDB storage auctioneer auction).map fun row =>
          { row with buyguid := bidder.toNat, lastbid })
        (auction.withBid bidder price) ↔
      readUInt64 lastbid = price ∧ auction.deposit.toNat < 2 ^ 31 ∧
        auction.expireTime < 2 ^ 32 := by
  have htime := hsuits.time_read_iff auction.expireTime
  have hread := hsuits.deposit_read_iff hdeposit
  rw [saveToDB_eq hsuits hid, ← htime, ← hread]
  cases hkeptTime : storage .time (auction.expireTime % 2 ^ 64) with
  | none => simp [Reloads]
  | some time =>
    cases hkeptDeposit : storage .deposit (signedDeposit auction.deposit) with
    | none => simp [Reloads]
    | some deposit =>
      simp only [Option.bind_some, Option.map_some, Option.some.injEq, exists_eq_left']
      rw [reloads_some_iff hknows rfl rfl]
      simp only [auctionRow, AuctionEntry.withBid, readUInt32_toNat, readUInt64_toNat, true_and]

theorem map_saveToDB_self (hsuits : storage.Suits) (hid : auction.id < 2 ^ 32) :
    ((saveToDB storage auctioneer auction).map fun row =>
      { row with buyguid := auction.bidder.toNat, lastbid := auction.bid.toNat }) =
        saveToDB storage auctioneer auction := by
  rw [saveToDB_eq hsuits hid]
  cases storage .time (auction.expireTime % 2 ^ 64) with
  | none => rfl
  | some time => cases storage .deposit (signedDeposit auction.deposit) <;> rfl

/-- An auction that has been saved and bid on in any way is read back as it is in memory if and
only if the last accepted bid fits into 32 bits, the deposit is below the sign bit of such a
number, and the auction expires before the year 2106. -/
theorem reloads_iff (hsuits : storage.Suits)
    (hknows : startup.Knows auctioneer auction.itemGuidLow) (hid : auction.id < 2 ^ 32)
    (hdeposit : auction.deposit.toNat < 2 ^ 32) (env : Environment Inventory)
    {saved final : Persisted Inventory} {requests : List BidRequest} {current : AuctionEntry}
    (hlive : saved.world.auctions.get? auction.id = some auction)
    (hsaved : saved.rows auction.id = saveToDB storage auctioneer auction)
    (hrun : requests.foldlM (placeBid storage env) saved = some final)
    (hcurrent : final.world.auctions.get? auction.id = some current) :
    Reloads startup (final.rows auction.id) current ↔
      (∀ price ∈ (acceptedBids storage env auction.id saved requests).getLast?,
        price.toNat < 2 ^ 32) ∧
        auction.deposit.toNat < 2 ^ 31 ∧ auction.expireTime < 2 ^ 32 := by
  have hstart : Tracks storage auctioneer auction none (saved.world.auctions.get? auction.id)
      (saved.rows auction.id) := by
    rw [hlive, hsaved]
    exact Tracks.unbid
  have hfinal := hstart.run hsuits hrun (by simp [hcurrent])
  rw [Option.or_none, hcurrent] at hfinal
  generalize (acceptedBids storage env auction.id saved requests).getLast? = last at hfinal ⊢
  generalize final.rows auction.id = row at hfinal ⊢
  cases hfinal with
  | unbid =>
    have hunbid := reloads_saved_iff hsuits hknows hid hdeposit auction.bidder auction.bid.toNat
      auction.bid
    have hself : auction.withBid auction.bidder auction.bid = auction := rfl
    rw [map_saveToDB_self hsuits hid, readUInt64_toNat, hself] at hunbid
    simpa using hunbid
  | bid bidder price =>
    have hbid := reloads_saved_iff hsuits hknows hid hdeposit bidder price.toUInt32.toNat price
    rw [readUInt64_bid_eq_iff] at hbid
    simp only [updateBid_eq hsuits]
    simpa using hbid

end Restart

def strictStorage : Storage := fun column value =>
  if 0 ≤ value ∧ value < 2 ^ column.bits then some value else none

theorem strictStorage_suits : strictStorage.Suits where
  keeps column value hlow hhigh := if_pos ⟨hlow, hhigh⟩
  clips column value kept hnegative hkept := by
    unfold strictStorage at hkept
    rw [if_neg fun hrange => absurd hrange.1 (Int.not_le.mpr hnegative)] at hkept
    cases hkept

def oneAuctioneer : Startup where
  itemInstance itemGuidLow := if itemGuidLow = 7 then some (52, 40) else none
  factionTemplate auctioneer := if auctioneer = 5 then some 120 else none
  auctionHouseEntry _ := some (.neutral, ⟨7, 75, 15⟩)
  hasItem itemGuidLow := itemGuidLow = 7

theorem oneAuctioneer_knows : oneAuctioneer.Knows 5 7 where
  item := rfl
  auctioneer := ⟨120, rfl, rfl⟩
  loaded := by decide

def openedAuction : AuctionEntry where
  id := 1
  house := .neutral
  itemGuidLow := 7
  itemEntry := 52
  itemCount := 40
  owner := 1
  startbid := 100
  bid := 0
  buyout := 0
  expireTime := 1700000000
  bidder := 0
  deposit := 100
  auctionHouseEntry := ⟨7, 75, 15⟩

/-- The house just after it has been put up; the other character has 900000 gold. -/
def openedHouse : Persisted (List Item) where
  world :=
    { auctionDay true with
      characters := ⟨[⟨1, 10, true, 500, []⟩, ⟨2, 20, true, 9000000000, []⟩], by decide⟩
      auctions := ⟨[openedAuction], by decide⟩ }
  rows := Function.update (fun _ => none) 1 (saveToDB strictStorage 5 openedAuction)

def bidOf (price : UInt64) : BidRequest := ⟨2, neutralHouse, 1, price⟩

def biddenHouse (price : UInt64) : Persisted (List Item) :=
  (placeBid strictStorage plainEnvironment openedHouse (bidOf price)).getD openedHouse

/-- A bid of 300000 gold. -/
theorem reloads_iff_small :
    Reloads oneAuctioneer ((biddenHouse 3000000000).rows 1)
      (openedAuction.withBid 2 3000000000) := by
  have hlive : openedHouse.world.auctions.get? openedAuction.id = some openedAuction := rfl
  have hrun : [bidOf 3000000000].foldlM (placeBid strictStorage plainEnvironment) openedHouse =
      some (biddenHouse 3000000000) := rfl
  have hcurrent : (biddenHouse 3000000000).world.auctions.get? openedAuction.id =
      some (openedAuction.withBid 2 3000000000) := rfl
  have hlast : (acceptedBids strictStorage plainEnvironment openedAuction.id openedHouse
      [bidOf 3000000000]).getLast? = some 3000000000 := by
    decide +kernel
  refine (reloads_iff strictStorage_suits oneAuctioneer_knows (by decide) (by decide)
    plainEnvironment hlive rfl hrun hcurrent).mpr ⟨?_, by decide, by decide⟩
  intro price hprice
  rw [hlast, Option.mem_some_iff] at hprice
  rw [← hprice]
  decide

/-- A bid of 500000 gold is one of 70503 gold, 27 silver and 4 copper after a restart. -/
theorem not_reloads :
    strictStorage.Suits ∧ oneAuctioneer.Knows 5 openedAuction.itemGuidLow ∧
      [bidOf 5000000000].foldlM (placeBid strictStorage plainEnvironment) openedHouse =
        some (biddenHouse 5000000000) ∧
      (biddenHouse 5000000000).world.auctions.get? 1 =
        some (openedAuction.withBid 2 5000000000) ∧
      ¬ Reloads oneAuctioneer ((biddenHouse 5000000000).rows 1)
        (openedAuction.withBid 2 5000000000) := by
  refine ⟨strictStorage_suits, oneAuctioneer_knows, rfl, rfl, ?_⟩
  rintro ⟨loaded, hloaded, -, hbid, -⟩
  have hread : (((biddenHouse 5000000000).rows 1).bind (loadFromDB oneAuctioneer)).map
      AuctionEntry.bid = some 705032704 := by
    decide +kernel
  rw [hloaded, Option.map_some, hbid] at hread
  exact absurd hread (by decide)

end MopServer.Auctions
