import MopServer.BlackMarket.BlackMarketMgr
import MopServer.Foundation.Run

/-! # The stock of the black market

An update takes out what has run out, each auction once, and fills up with templates that are not on
offer.  The database follows statement by statement.
-/

namespace MopServer.BlackMarket

open MopServer.Foundation

/-! ## Transactions -/

variable {transaction : List Statement}

namespace Statement

def deleted? : Statement → Option Nat
  | .delete id => some id
  | _ => none

def inserted? : Statement → Option AuctionRow
  | .insert row => some row
  | _ => none

def won? : Statement → Option Nat
  | .wonMail auctionId _ _ _ => some auctionId
  | _ => none

theorem foldlM_apply_of_no_insert (hnone : transaction.filterMap inserted? = [])
    (rows : Table AuctionRow) :
    ∃ left, transaction.foldlM apply rows = some left ∧
      ∀ row, row ∈ left ↔ row ∈ rows ∧ row.id ∉ transaction.filterMap deleted? := by
  induction transaction generalizing rows with
  | nil => exact ⟨rows, rfl, fun row => by simp⟩
  | cons statement rest ih =>
    cases statement with
    | insert row => simp [inserted?] at hnone
    | wonMail auctionId receiver itemEntry itemCount => exact ih hnone rows
    | delete id =>
      obtain ⟨left, hleft, hmem⟩ := ih hnone (rows.erase id)
      refine ⟨left, hleft, fun row => ?_⟩
      rw [hmem, Table.mem_erase]
      simp only [List.filterMap_cons, deleted?, List.mem_cons, not_or, and_assoc]
      exact Iff.rfl

end Statement

/-! ## Running out -/

variable (item : ItemTemplate) (config : Config)

/-- A winner of a template without items; his item is asked for all the same. -/
def NullItem (config : Config) (auction : BMAuctionEntry) : Prop :=
  auction.bidder ≠ 0 ∧ (config.items auction.bmTemplate.itemEntry).isSome = true ∧
    auction.bmTemplate.itemCount = 0

theorem maxStackSize_pos : 0 < item.maxStackSize := by
  unfold ItemTemplate.maxStackSize
  split <;> omega

theorem createItem_isSome {count : Nat} (hcount : count ≠ 0) :
    ∃ size, createItem item count = some size := by
  have hstack := maxStackSize_pos item
  have hsize : (if item.maxStackSize < count then item.maxStackSize else count) ≠ 0 := by
    split <;> omega
  unfold createItem
  rw [if_neg (by omega)]
  exact ⟨_, if_neg hsize⟩

def Wins (config : Config) (auction : BMAuctionEntry) : Bool :=
  auction.bidder ≠ 0 && (config.items auction.bmTemplate.itemEntry).isSome

theorem won_cases (auction : BMAuctionEntry) :
    NullItem config auction ∧ sendIfWon config auction = none ∨
      ∃ won, sendIfWon config auction = some won ∧
        won.filterMap Statement.deleted? = [] ∧ won.filterMap Statement.inserted? = [] ∧
        won.filterMap Statement.won? = if Wins config auction then [auction.id] else [] := by
  unfold Wins sendIfWon
  by_cases hbidder : auction.bidder = 0
  · exact Or.inr ⟨[], by simp [hbidder], rfl, rfl, by simp [hbidder]⟩
  unfold sendAuctionWon
  cases hitem : config.items auction.bmTemplate.itemEntry with
  | none => exact Or.inr ⟨[], by simp [hbidder], rfl, rfl, by simp⟩
  | some item =>
    by_cases hcount : auction.bmTemplate.itemCount = 0
    · refine Or.inl ⟨⟨hbidder, by rw [hitem]; rfl, hcount⟩, ?_⟩
      simp [hbidder, hcount, createItem]
    · obtain ⟨size, hsize⟩ := createItem_isSome item hcount
      refine Or.inr ⟨[.wonMail auction.id auction.bidder auction.bmTemplate.itemEntry size], ?_,
        rfl, rfl, ?_⟩
      · simp [hbidder, hsize]
      · simp [hbidder, Statement.won?]

theorem expire_cases (clock : Nat → Nat) (auctions : List BMAuctionEntry) :
    let gone := auctions.filter fun auction => auction.isExpired (clock auction.id)
    (∃ auction ∈ gone, NullItem config auction) ∧ expire config clock auctions = none ∨
      ∃ transaction, expire config clock auctions = some transaction ∧
        transaction.filterMap Statement.deleted? = gone.map (fun auction => auction.id) ∧
        transaction.filterMap Statement.inserted? = [] ∧
        transaction.filterMap Statement.won? =
          (gone.filter (Wins config)).map fun auction => auction.id := by
  induction auctions with
  | nil => exact Or.inr ⟨[], rfl, rfl, rfl, rfl⟩
  | cons auction rest ih =>
    unfold expire
    cases hexpired : auction.isExpired (clock auction.id) with
    | false =>
      simp only [List.filter_cons, hexpired, Bool.false_eq_true, if_false]
      exact ih
    | true =>
      simp only [List.filter_cons, hexpired, if_true, List.mem_cons, List.map_cons]
      rcases won_cases config auction with
        ⟨hnull, hnone⟩ | ⟨won, hwon, hdeleted, hinserted, hmails⟩
      · refine Or.inl ⟨⟨auction, Or.inl rfl, hnull⟩, ?_⟩
        rw [hnone]
        rfl
      rcases ih with ⟨⟨other, hother, hnull⟩, hnone⟩ | ⟨later, hlater, hlaterDeleted,
        hlaterInserted, hlaterMails⟩
      · refine Or.inl ⟨⟨other, Or.inr hother, hnull⟩, ?_⟩
        rw [hwon, hnone]
        rfl
      refine Or.inr ⟨won ++ .delete auction.id :: later, ?_, ?_, ?_, ?_⟩
      · rw [hwon, hlater]
        rfl
      · rw [List.filterMap_append, hdeleted, ← hlaterDeleted]
        rfl
      · rw [List.filterMap_append, hinserted]
        exact hlaterInserted
      · rw [List.filterMap_append, hmails]
        have hdelete : (Statement.delete auction.id :: later).filterMap Statement.won? =
            later.filterMap Statement.won? := rfl
        rw [hdelete, hlaterMails]
        cases Wins config auction <;> rfl

/-! ## Filling up -/

variable {auctions : Table BMAuctionEntry} {stored : Table AuctionRow} {won : List Nat}

theorem newAuctionId_free (auctions : Table BMAuctionEntry) :
    auctions.get? (newAuctionId auctions) = none := by
  unfold newAuctionId
  cases hfind : (List.range' 1 (auctions.rows.length + 1)).find? fun id =>
      (auctions.get? id).isNone with
  | some id => simpa using List.find?_some hfind
  | none =>
    -- All of them taken are more ids than there are auctions.
    exfalso
    have htaken : List.range' 1 (auctions.rows.length + 1) ⊆
        auctions.rows.map fun auction => auction.id := by
      intro id hid
      have hsome := List.find?_eq_none.mp hfind id hid
      rw [Option.isNone_iff_eq_none, ← ne_eq, Option.ne_none_iff_exists'] at hsome
      obtain ⟨auction, hget⟩ := hsome
      obtain ⟨hmem, hkey⟩ := Table.get?_eq_some_iff.mp hget
      exact List.mem_map.mpr ⟨auction, hmem, hkey⟩
    have hnodup : (List.range' 1 (auctions.rows.length + 1)).Nodup := List.nodup_range'
    have hlength := (hnodup.subperm htaken).length_le
    rw [List.length_range', List.length_map] at hlength
    omega

theorem not_mem_of_mem_templateList {templates : Table BMAuctionTemplate} {rand id : Nat}
    (hid : id ∈ templateList templates auctions rand) :
    id ∉ auctions.rows.map fun auction => auction.templateId := by
  simpa using (List.mem_filter.mp hid).2

/-- What one round of `CreateAuctions` does: nothing, or a new auction. -/
theorem createAuction_cases (templates : Table BMAuctionTemplate) (auctions : Table BMAuctionEntry)
    (transaction : List Statement) (round : Round) :
    createAuction config templates (auctions, transaction) round = (auctions, transaction) ∨
      ∃ auction : BMAuctionEntry, auctions.get? auction.id = none ∧
        (auction.templateId ∉ auctions.rows.map fun live => live.templateId) ∧
        createAuction config templates (auctions, transaction) round =
          (auctions.insert auction (.sorted _),
            transaction ++ [.insert auction.toAuctionRow]) := by
  unfold createAuction
  dsimp only
  split
  · exact Or.inl rfl
  next id hid =>
  split
  · exact Or.inl rfl
  next selTemplate hget =>
  refine Or.inr ⟨_, newAuctionId_free auctions, ?_, rfl⟩
  have hkey : selTemplate.id = id := (Table.get?_eq_some_iff.mp hget).2
  rw [hkey]
  exact not_mem_of_mem_templateList (List.mem_of_getElem? hid)

/-- The rows are those of the auctions. -/
def Mirrors (rows : Table AuctionRow) (auctions : Table BMAuctionEntry) : Prop :=
  ∀ row, row ∈ rows ↔ ∃ auction ∈ auctions, auction.toAuctionRow = row

/-- The state of the loop of `CreateAuctions`: some auctions have come to those that were kept, and
the transaction so far tells of them. -/
structure Restocked (stored : Table AuctionRow) (kept : List BMAuctionEntry)
    (deleted won : List Nat) (auctions : Table BMAuctionEntry) (transaction : List Statement) :
    Prop where
  distinct : (auctions.rows.map fun auction => auction.templateId).Nodup
  created : ∃ created : List BMAuctionEntry, auctions.rows.Perm (kept ++ created) ∧
    transaction.filterMap Statement.inserted? = created.map BMAuctionEntry.toAuctionRow
  deleted : transaction.filterMap Statement.deleted? = deleted
  won : transaction.filterMap Statement.won? = won
  written : ∃ rows, transaction.foldlM Statement.apply stored = some rows ∧
    Mirrors rows auctions

theorem Restocked.insert {kept : List BMAuctionEntry} {deleted : List Nat}
    (hstock : Restocked stored kept deleted won auctions transaction) {auction : BMAuctionEntry}
    (hfree : auctions.get? auction.id = none)
    (hnew : auction.templateId ∉ auctions.rows.map fun live => live.templateId) :
    Restocked stored kept deleted won (auctions.insert auction (.sorted _))
      (transaction ++ [.insert auction.toAuctionRow]) := by
  have hperm := Table.rows_insert_perm hfree (.sorted _)
  obtain ⟨created, hrows, hinserted⟩ := hstock.created
  obtain ⟨rows, hrun, hmirrors⟩ := hstock.written
  have habsent : rows.get? auction.id = none := by
    refine Table.get?_eq_none_iff.mpr fun row hrow hkey => ?_
    obtain ⟨live, hlive, rfl⟩ := (hmirrors row).mp hrow
    exact Table.get?_eq_none_iff.mp hfree live hlive hkey
  refine ⟨?_, ⟨created ++ [auction], ?_, ?_⟩, ?_, ?_, ?_⟩
  · exact ((hperm.map fun live => live.templateId).nodup_iff).mpr
      (List.nodup_cons.mpr ⟨hnew, hstock.distinct⟩)
  · refine (hperm.trans (hrows.cons auction)).trans ?_
    rw [← List.append_assoc]
    exact (List.perm_append_singleton auction _).symm
  · rw [List.filterMap_append, hinserted, List.map_append]
    rfl
  · rw [List.filterMap_append, hstock.deleted]
    exact List.append_nil _
  · rw [List.filterMap_append, hstock.won]
    exact List.append_nil _
  · refine ⟨rows.insert auction.toAuctionRow (.keep _), ?_, fun row => ?_⟩
    · rw [List.foldlM_append, hrun]
      change (if (rows.get? auction.id).isSome then none else
        some (rows.insert auction.toAuctionRow (.keep _))).bind some = _
      rw [habsent]
      rfl
    · rw [Table.mem_insert, hmirrors]
      constructor
      · rintro (rfl | ⟨⟨live, hlive, rfl⟩, -⟩)
        · exact ⟨auction, Table.mem_insert.mpr (Or.inl rfl), rfl⟩
        · refine ⟨live, Table.mem_insert.mpr (Or.inr ⟨hlive, ?_⟩), rfl⟩
          exact Table.get?_eq_none_iff.mp hfree live hlive
      · rintro ⟨live, hlive, rfl⟩
        rcases Table.mem_insert.mp hlive with rfl | ⟨hold, hne⟩
        · exact Or.inl rfl
        · exact Or.inr ⟨⟨live, hold, rfl⟩, hne⟩

/-- The loop of `CreateAuctions` adds at most one auction a round. -/
theorem Restocked.createAuctions {kept : List BMAuctionEntry} {deleted : List Nat}
    (hstock : Restocked stored kept deleted won auctions transaction) (config : Config)
    (templates : Table BMAuctionTemplate) (rounds : List Round) :
    let created := rounds.foldl (createAuction config templates) (auctions, transaction)
    Restocked stored kept deleted won created.1 created.2 ∧
      created.1.rows.length ≤ auctions.rows.length + rounds.length := by
  induction rounds generalizing auctions transaction with
  | nil => exact ⟨hstock, Nat.le_refl _⟩
  | cons round rest ih =>
    rw [List.foldl_cons]
    rcases createAuction_cases config templates auctions transaction round with
      hsame | ⟨auction, hfree, hnew, hround⟩
    · rw [hsame]
      obtain ⟨hrest, hlength⟩ := ih hstock
      refine ⟨hrest, hlength.trans ?_⟩
      rw [List.length_cons]
      omega
    · rw [hround]
      obtain ⟨hrest, hlength⟩ := ih (hstock.insert hfree hnew)
      refine ⟨hrest, hlength.trans ?_⟩
      rw [(Table.rows_insert_perm hfree (.sorted _)).length_eq, List.length_cons, List.length_cons]
      omega

namespace BlackMarketMgr

variable {config : Config} {mgr : BlackMarketMgr}

/-! ## Updates -/

/-- What an update finds run out. -/
def gone (mgr : BlackMarketMgr) (tick : Tick) : List BMAuctionEntry :=
  mgr.auctions.rows.filter fun auction => auction.isExpired (tick.clock auction.id)

/-- What it leaves. -/
def kept (mgr : BlackMarketMgr) (tick : Tick) : List BMAuctionEntry :=
  mgr.auctions.rows.filter fun auction => !auction.isExpired (tick.clock auction.id)

/-- Distinct templates on offer, no more auctions than there may be, and the same in the
database. -/
structure Stocked (config : Config) (mgr : BlackMarketMgr) : Prop where
  ids : (mgr.auctions.rows.map fun auction => auction.id).Nodup
  templates : (mgr.auctions.rows.map fun auction => auction.templateId).Nodup
  limited : mgr.auctions.rows.length ≤ config.maxAuctions.toNat
  mirrored : Mirrors mgr.stored mgr.auctions

/-- An update leaves a proper stock: what was kept and what is new.  It deletes each auction that
has run out once, and sends one mail for each of them that is won. -/
structure Turnover (config : Config) (wins : BMAuctionEntry → Bool) (tick : Tick)
    (mgr after : BlackMarketMgr) (transaction : List Statement) : Prop where
  stocked : after.Stocked config
  created : ∃ created : List BMAuctionEntry,
    after.auctions.rows.Perm (mgr.kept tick ++ created) ∧
      transaction.filterMap Statement.inserted? = created.map BMAuctionEntry.toAuctionRow
  deleted : transaction.filterMap Statement.deleted? =
    (mgr.gone tick).map fun auction => auction.id
  won : transaction.filterMap Statement.won? =
    ((mgr.gone tick).filter wins).map fun auction => auction.id

variable (hstocked : mgr.Stocked config) (tick : Tick)

include hstocked in
theorem mirrors_kept {rows : Table AuctionRow} (hrows : ∀ row, row ∈ rows ↔ row ∈ mgr.stored ∧
      row.id ∉ (mgr.gone tick).map fun auction => auction.id) :
    Mirrors rows
      (mgr.auctions.filter fun auction => !auction.isExpired (tick.clock auction.id)) := by
  intro row
  rw [hrows, hstocked.mirrored row]
  constructor
  · rintro ⟨⟨auction, hauction, rfl⟩, hleft⟩
    refine ⟨auction, Table.mem_filter.mpr ⟨hauction, ?_⟩, rfl⟩
    refine Bool.not_eq_true' _ |>.mpr (Bool.eq_false_iff.mpr fun hexpired => hleft ?_)
    exact List.mem_map.mpr ⟨auction, List.mem_filter.mpr ⟨hauction, hexpired⟩, rfl⟩
  · rintro ⟨auction, hauction, rfl⟩
    obtain ⟨hold, hlive⟩ := Table.mem_filter.mp hauction
    refine ⟨⟨auction, hold, rfl⟩, fun hgone => ?_⟩
    obtain ⟨other, hother, hid⟩ := List.mem_map.mp hgone
    obtain ⟨hmem, hexpired⟩ := List.mem_filter.mp hother
    have hsame : other = auction := Table.eq_of_key_eq (Table.mem_def.mpr hmem) hold hid
    rw [hsame] at hexpired
    rw [hexpired] at hlive
    cases hlive

include hstocked in
theorem restocked_kept {expired : List Statement} (hdeleted : expired.filterMap Statement.deleted? =
      (mgr.gone tick).map fun auction => auction.id)
    (hinserted : expired.filterMap Statement.inserted? = [])
    (hwon : expired.filterMap Statement.won? = won) :
    Restocked mgr.stored (mgr.kept tick) ((mgr.gone tick).map fun auction => auction.id) won
      (mgr.auctions.filter fun auction => !auction.isExpired (tick.clock auction.id)) expired := by
  obtain ⟨rows, hrun, hrows⟩ := Statement.foldlM_apply_of_no_insert hinserted mgr.stored
  rw [hdeleted] at hrows
  exact
    { distinct := hstocked.templates.sublist (List.filter_sublist.map _)
      created := ⟨[], by rw [List.append_nil]; exact List.Perm.refl _, hinserted⟩
      deleted := hdeleted
      won := hwon
      written := ⟨rows, hrun, mirrors_kept hstocked tick hrows⟩ }

/-- The deficit is not more than what is missing, whatever becomes of it in 32 bits. -/
theorem bmod_deficit_le {limit : UInt32} {count : Nat} (hcount : count ≤ limit.toNat)
    (hadd : 0 < ((limit.toNat : Int) - count).bmod (2 ^ 32)) :
    count + (((limit.toNat : Int) - count).bmod (2 ^ 32)).toNat ≤ limit.toNat := by
  have hlimit : limit.toNat < 2 ^ 32 := limit.toNat_lt
  have hrange : ((limit.toNat : Int) - count) % ((2 ^ 32 : Nat) : Int) = limit.toNat - count := by
    refine Int.emod_eq_of_lt ?_ ?_ <;> omega
  unfold Int.bmod at hadd ⊢
  rw [hrange] at hadd ⊢
  dsimp only at hadd ⊢
  split at hadd
  next hsmall =>
    rw [if_pos hsmall]
    omega
  · omega

include hstocked in
theorem update_cases :
    (∃ auction ∈ mgr.gone tick, NullItem config auction) ∧ mgr.update config tick = none ∨
      ∃ after transaction, mgr.update config tick = some (after, transaction) ∧
        Turnover config (Wins config) tick mgr after transaction := by
  rcases expire_cases config tick.clock mgr.auctions.rows with
    ⟨hnull, hnone⟩ | ⟨expired, hexpired, hdeleted, hinserted, hwon⟩
  · refine Or.inl ⟨hnull, ?_⟩
    unfold update
    rw [hnone]
    rfl
  refine Or.inr ?_
  have hkept := restocked_kept hstocked tick hdeleted hinserted hwon
  have hfewer : (mgr.auctions.filter fun auction =>
      !auction.isExpired (tick.clock auction.id)).rows.length ≤ config.maxAuctions.toNat :=
    (List.length_filter_le _ _).trans hstocked.limited
  unfold update
  rw [hexpired, Option.map_some]
  extract_lets auctions add
  set filled := (if 0 < add then
    createAuctions config mgr.templates add.toNat tick.round auctions expired
    else (auctions, expired)) with hfilled
  have hdone : Restocked mgr.stored (mgr.kept tick)
      ((mgr.gone tick).map fun auction => auction.id)
      (((mgr.gone tick).filter (Wins config)).map fun auction => auction.id) filled.1 filled.2 ∧
      filled.1.rows.length ≤ config.maxAuctions.toNat := by
    rw [hfilled]
    split
    next hadd =>
      unfold createAuctions
      split
      · exact ⟨hkept, hfewer⟩
      · obtain ⟨hcreated, hlength⟩ := hkept.createAuctions config mgr.templates
          ((List.range add.toNat).map tick.round)
        refine ⟨hcreated, hlength.trans ?_⟩
        rw [List.length_map, List.length_range]
        exact bmod_deficit_le hfewer hadd
    · exact ⟨hkept, hfewer⟩
  obtain ⟨hstock, hlimited⟩ := hdone
  obtain ⟨rows, hrun, hmirrors⟩ := hstock.written
  refine ⟨_, _, rfl, ?_⟩
  have hstored : commit mgr.stored filled.2 = rows := by
    unfold commit
    rw [hrun]
    rfl
  refine ⟨⟨filled.1.nodup, hstock.distinct, hlimited, ?_⟩, hstock.created, hstock.deleted,
    hstock.won⟩
  rw [← hstored] at hmirrors
  exact hmirrors

/-! ## Runs -/

include hstocked in
theorem Stocked.updateAuction (id newPrice newBidder : Nat) :
    (mgr.updateAuction id newPrice newBidder).Stocked config := by
  unfold BlackMarketMgr.updateAuction
  cases hget : mgr.auctions.get? id with
  | none => exact hstocked
  | some auction =>
    set bid : BMAuctionEntry → BMAuctionEntry := fun live =>
      { live with bid := newPrice, bidder := newBidder, bidderCount := auction.bidderCount + 1 }
      with hbid
    have htemplates : ((mgr.auctions.modify id bid).rows.map fun live => live.templateId) =
        mgr.auctions.rows.map fun live => live.templateId := by
      unfold Table.modify
      rw [List.map_map]
      refine List.map_congr_left fun live _ => ?_
      simp only [Function.comp_apply]
      split <;> rfl
    refine ⟨(mgr.auctions.modify id bid).nodup, htemplates ▸ hstocked.templates, ?_, ?_⟩
    · exact (List.length_map _).trans_le hstocked.limited
    · intro row
      dsimp only
      rw [Table.mem_modify]
      constructor
      · rintro ⟨old, hold, rfl⟩
        obtain ⟨live, hlive, rfl⟩ := (hstocked.mirrored old).mp hold
        refine ⟨_, Table.mem_modify _ |>.mpr ⟨live, hlive, rfl⟩, ?_⟩
        change (if live.id = id then bid live else live).toAuctionRow =
          if live.id = id then _ else live.toAuctionRow
        split <;> rfl
      · rintro ⟨live, hlive, rfl⟩
        obtain ⟨old, hold, rfl⟩ := (Table.mem_modify _).mp hlive
        refine ⟨old.toAuctionRow, (hstocked.mirrored _).mpr ⟨old, hold, rfl⟩, ?_⟩
        change (if old.id = id then _ else old.toAuctionRow) =
          (if old.id = id then bid old else old).toAuctionRow
        split <;> rfl

/-- An update turns the stock over, unless it follows a null item; a bid leaves it proper. -/
def KeepsStock (config : Config) (wins : BMAuctionEntry → Bool) (mgr : BlackMarketMgr) :
    Event → Prop
  | .update tick => (∃ auction ∈ mgr.gone tick, NullItem config auction) ∨
      ∃ after transaction, mgr.update config tick = some (after, transaction) ∧
        Turnover config wins tick mgr after transaction
  | .bid id newPrice newBidder => (mgr.updateAuction id newPrice newBidder).Stocked config

include hstocked in
theorem Stocked.step (event : Event) : (mgr.step config event).Stocked config := by
  cases event with
  | bid id newPrice newBidder => exact hstocked.updateAuction id newPrice newBidder
  | update tick =>
    change (((mgr.update config tick).map Prod.fst).getD mgr).Stocked config
    rcases update_cases hstocked tick with ⟨-, hnone⟩ | ⟨after, transaction, hupdate, hturnover⟩
    · rw [hnone]
      exact hstocked
    · rw [hupdate]
      exact hturnover.stocked

/-- The stock of the black market is kept in every run, if an auction is only won for an item of the
world. -/
theorem keepsStock_along (config : Config) (mgr : BlackMarketMgr) (hstocked : mgr.Stocked config)
    (events : List Event) :
    Along (step config) (KeepsStock config (Wins config)) mgr events := by
  have halways : Along (step config) (fun _ _ => True) mgr events :=
    along_of_forall _ (fun _ _ => trivial) mgr events
  refine along_of_invariant (step config) (Stocked config)
    (fun _ event hbefore _ => hbefore.step event) (fun _ event hbefore _ => ?_) mgr events
    hstocked halways
  cases event with
  | update tick => exact (update_cases hbefore tick).imp_left And.left
  | bid id newPrice newBidder => exact hbefore.updateAuction id newPrice newBidder

def soldTemplate : BMAuctionTemplate := ⟨1, 10, 1, 100, 0, 1000, 100⟩

/-- An auction with a bidder that runs out at once. -/
def soldAuction : BMAuctionEntry := ⟨⟨1, 1, 0, 2000, 5, 1⟩, soldTemplate⟩

def sold : BlackMarketMgr where
  templates := ⟨[soldTemplate], by decide⟩
  auctions := ⟨[soldAuction], by decide⟩
  stored := ⟨[soldAuction.toAuctionRow], by decide⟩

theorem sold_stocked {config : Config} (hlimit : 1 ≤ config.maxAuctions.toNat) :
    sold.Stocked config where
  ids := by decide
  templates := by decide
  limited := hlimit
  mirrored row := by
    constructor
    · intro hrow
      exact ⟨soldAuction, List.mem_singleton.mpr rfl, (List.mem_singleton.mp hrow).symm⟩
    · rintro ⟨auction, hauction, rfl⟩
      rw [List.mem_singleton.mp hauction]
      exact List.mem_singleton.mpr rfl

def unknownItem : Config := ⟨1, 120, 60, fun _ => none⟩

/-- The auctions are looked at when they run out, and the first outcomes are drawn. -/
def firstTick : Tick := ⟨fun _ => 0, fun _ => ⟨0, 0, 0, 0⟩⟩

theorem keepsStock_sold :
    Along (step unknownItem) (KeepsStock unknownItem (Wins unknownItem)) sold
      [.bid 1 3000 6, .update firstTick, .update firstTick] :=
  keepsStock_along unknownItem sold (sold_stocked (by decide)) _

/-- The winner of an unknown item gets no mail. -/
theorem not_always_keepsStock :
    ¬∀ (config : Config) (mgr : BlackMarketMgr) events, mgr.Stocked config →
      Along (step config) (KeepsStock config fun auction => auction.bidder ≠ 0) mgr events := by
  intro hall
  have hstocked : sold.Stocked unknownItem := sold_stocked (by decide)
  have hgone : sold.gone firstTick = [soldAuction] := by decide
  have hitem : ¬∃ auction ∈ sold.gone firstTick, NullItem unknownItem auction := by
    rintro ⟨auction, -, -, hsome, -⟩
    cases hsome
  obtain ⟨hkeeps, -⟩ := hall unknownItem sold [.update firstTick] hstocked
  rcases hkeeps with hnull | ⟨after, transaction, hupdate, hturnover⟩
  · exact hitem hnull
  rcases update_cases hstocked firstTick with ⟨hnull, -⟩ | ⟨other, sent, hother, hsent⟩
  · exact hitem hnull
  rw [hupdate] at hother
  cases hother
  have hboth := hturnover.won.symm.trans hsent.won
  rw [hgone] at hboth
  exact absurd hboth (by decide)

end BlackMarketMgr

end MopServer.BlackMarket
