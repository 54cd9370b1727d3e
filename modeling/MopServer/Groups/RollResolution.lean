import MopServer.Groups.Roll
import MopServer.Loots.Loot

/-! # How a roll is resolved

When a roll is counted, its item goes to the winner, or becomes lootable again.  Which player is
picked depends on the counters of the roll, and the counters may differ from the votes.
-/

namespace MopServer.Groups

open MopServer.Foundation

/-! ## The loot -/

/-- Items of one kind that are stored together. -/
structure Stack where
  itemId : UInt32
  count : UInt8
  randomPropertyId : Int
  deriving DecidableEq

/-- What the server knows of the players when a roll is counted. -/
structure Players (Bags : Type) where
  /-- The player is found and has a session. -/
  online : UInt64 → Bool
  bags : UInt64 → Bags
  /-- `CanStoreNewItem` has nothing against the items. -/
  canStore : Bags → Stack → Bool
  /-- `StoreNewItem`. -/
  store : Bags → Stack → Bags
  /-- The items the roll is for. -/
  rolled : Stack
  /-- The slots of the loot that is filled for the player when he disenchants them. -/
  disenchanted : UInt64 → List Stack

/-- Who has got what, and for which vote. -/
structure Award where
  guid : UInt64
  vote : RollVote
  received : List Stack
  deriving DecidableEq

variable {Bags : Type} (players : Players Bags)

/-- The slots that `AutoStoreLoot` stores; those there is no room for are skipped. -/
def autoStoreLoot (bags : Bags) : List Stack → List Stack
  | [] => []
  | stack :: rest =>
    if players.canStore bags stack then stack :: autoStoreLoot (players.store bags stack) rest
    else autoStoreLoot bags rest

/-- There is room for all of it, one after the other. -/
def Players.hasRoom (bags : Bags) : List Stack → Bool
  | [] => true
  | stack :: rest =>
    players.canStore bags stack && Players.hasRoom (players.store bags stack) rest

theorem length_autoStoreLoot_le (bags : Bags) (slots : List Stack) :
    (autoStoreLoot players bags slots).length ≤ slots.length := by
  induction slots generalizing bags with
  | nil => exact Nat.le_refl 0
  | cons stack rest ih =>
    rw [autoStoreLoot]
    split
    · exact Nat.succ_le_succ (ih _)
    · exact Nat.le_succ_of_le (ih _)

/-- Everything is stored just if there is room for it. -/
theorem autoStoreLoot_eq_self_iff (bags : Bags) (slots : List Stack) :
    autoStoreLoot players bags slots = slots ↔ players.hasRoom bags slots = true := by
  induction slots generalizing bags with
  | nil => exact iff_of_true rfl rfl
  | cons stack rest ih =>
    rw [autoStoreLoot, Players.hasRoom]
    split
    next hstore => rw [List.cons_inj_right, ih, hstore, Bool.true_and]
    next hstore =>
      rw [Bool.eq_false_of_not_eq_true hstore, Bool.false_and]
      refine iff_of_false (fun hall => ?_) Bool.false_ne_true
      have hlength := length_autoStoreLoot_le players bags rest
      rw [hall] at hlength
      exact Nat.not_succ_le_self _ hlength

/-- `CountTheRoll` for a winner by need or greed: `StoreNewItem`, if the items can be stored. -/
def storeRolled (loot : Loots.Loot) (slot : Nat) (guid : UInt64) (vote : RollVote) :
    Loots.Loot × Option Award :=
  if players.canStore (players.bags guid) players.rolled then
    (loot.countTheRoll slot .stored, some ⟨guid, vote, [players.rolled]⟩)
  else (loot.countTheRoll slot .notStored, none)

/-- The part of `CountTheRoll` that hands the item out or unblocks it. -/
def settle (loot : Loots.Loot) (slot : Nat) : Outcome → Loots.Loot × Option Award
  | .lootDeleted => (loot, none)
  | .nobody => (loot, none)
  | .allPassed => (loot.countTheRoll slot .notStored, none)
  | .won guid vote =>
    if players.online guid then
      match vote with
      | .need => storeRolled players loot slot guid .need
      | .greed => storeRolled players loot slot guid .greed
      | .disenchant =>
        -- the item is gone before it is known what can be stored
        (loot.countTheRoll slot .stored,
          some ⟨guid, .disenchant,
            autoStoreLoot players (players.bags guid) (players.disenchanted guid)⟩)
      | _ => (loot, none)
    else (loot.countTheRoll slot .winnerOffline, none)

/-- `CountTheRoll`, with the loot of the roll. -/
def countTheRollFor (draws : List UInt8) (state : Rolls) (loot : Loots.Loot)
    (roll : Roll) : Rolls × Loots.Loot × Option Award :=
  (countTheRoll draws state roll, settle players loot roll.itemSlot.toNat (roll.outcome draws))

variable (loot : Loots.Loot) (slot : Nat)

/-- The item a roll is for; regular and quest items share the slots. -/
def rolledItem : Option Loots.LootItem :=
  (loot.itemsOf (loot.rollPlace slot).1)[(loot.rollPlace slot).2]?

theorem rolledItem_modifyRolled (f : Loots.LootItem → Loots.LootItem) :
    rolledItem (loot.modifyRolled slot f) slot = (rolledItem loot slot).map f := by
  unfold rolledItem Loots.Loot.modifyRolled
  by_cases hslot : loot.items.length ≤ slot
  · have hplace : loot.rollPlace slot = (.quest, slot - loot.items.length) := if_pos hslot
    rw [hplace]
    have hafter : (loot.modifyItem .quest (slot - loot.items.length) f).rollPlace slot =
        (.quest, slot - loot.items.length) := if_pos hslot
    rw [hafter]
    exact List.getElem?_modify_eq f _ _
  · have hplace : loot.rollPlace slot = (.ffa, slot) := if_neg hslot
    rw [hplace]
    have hlength : (loot.modifyItem .ffa slot f).items.length = loot.items.length :=
      List.length_modify f _ _
    have hafter : (loot.modifyItem .ffa slot f).rollPlace slot = (.ffa, slot) := by
      unfold Loots.Loot.rollPlace
      rw [hlength]
      exact if_neg hslot
    rw [hafter]
    exact List.getElem?_modify_eq f _ _

theorem rolledItem_countTheRoll (result : Loots.RollResult) :
    rolledItem (loot.countTheRoll slot result) slot =
      (rolledItem loot slot).map fun item => match result with
        | .stored => { item with isLooted := true }
        | .notStored => { item with isBlocked := false }
        | .winnerOffline => item := by
  cases result with
  | stored | notStored => exact rolledItem_modifyRolled loot slot _
  | winnerOffline => exact Option.map_id'.symm

/-! ## Numbers -/

def numbers (counts : RollVote → Bool) : List Ballot → List UInt8 → List (Ballot × UInt8)
  | [], _ => []
  | ballot :: rest, draws =>
    if counts ballot.vote then (ballot, draws.headD 1) :: numbers counts rest draws.tail
    else numbers counts rest draws

theorem numbers_spec {counts : RollVote → Bool} {ballots : List Ballot} {draws : List UInt8}
    (hdraws : ∀ number ∈ draws, 0 < number) {entry : Ballot × UInt8}
    (hentry : entry ∈ numbers counts ballots draws) :
    entry.1 ∈ ballots ∧ counts entry.1.vote = true ∧ 0 < entry.2 := by
  induction ballots generalizing draws with
  | nil => cases hentry
  | cons ballot rest ih =>
    rw [numbers] at hentry
    split at hentry
    next hcounts =>
      rcases List.mem_cons.mp hentry with rfl | hrest
      · refine ⟨List.mem_cons_self, hcounts, ?_⟩
        cases draws with
        | nil => exact (by decide : (0 : UInt8) < 1)
        | cons number later => exact hdraws number List.mem_cons_self
      · obtain ⟨hmem, hvote, hpositive⟩ :=
          ih (fun number hnumber => hdraws number (List.mem_of_mem_tail hnumber)) hrest
        exact ⟨List.mem_cons_of_mem _ hmem, hvote, hpositive⟩
    · obtain ⟨hmem, hvote, hpositive⟩ := ih hdraws hentry
      exact ⟨List.mem_cons_of_mem _ hmem, hvote, hpositive⟩

theorem exists_number (counts : RollVote → Bool) {ballots : List Ballot} {ballot : Ballot}
    (hballot : ballot ∈ ballots) (hcounts : counts ballot.vote = true) (draws : List UInt8) :
    ∃ number, (ballot, number) ∈ numbers counts ballots draws := by
  induction ballots generalizing draws with
  | nil => cases hballot
  | cons first rest ih =>
    rw [numbers]
    rcases List.mem_cons.mp hballot with rfl | hrest
    · rw [if_pos hcounts]
      exact ⟨_, List.mem_cons_self⟩
    · split
      · obtain ⟨number, hnumber⟩ := ih hrest draws.tail
        exact ⟨number, List.mem_cons_of_mem _ hnumber⟩
      · exact ih hrest draws

/-- The first of the highest numbers. -/
structure FirstBest (entries : List (Ballot × UInt8)) (ballot : Ballot) (number : UInt8) : Prop where
  split : ∃ before after, entries = before ++ (ballot, number) :: after ∧
    (∀ entry ∈ before, entry.2 < number) ∧ ∀ entry ∈ after, entry.2 ≤ number

theorem FirstBest.mem {entries : List (Ballot × UInt8)} {ballot : Ballot} {number : UInt8}
    (hbest : FirstBest entries ballot number) : (ballot, number) ∈ entries := by
  obtain ⟨before, after, rfl, -⟩ := hbest.split
  exact List.mem_append_right _ List.mem_cons_self

theorem FirstBest.le {entries : List (Ballot × UInt8)} {ballot : Ballot} {number : UInt8}
    (hbest : FirstBest entries ballot number) : ∀ entry ∈ entries, entry.2 ≤ number := by
  obtain ⟨before, after, rfl, hbefore, hafter⟩ := hbest.split
  intro entry hentry
  rcases List.mem_append.mp hentry with hentry | hentry
  · exact UInt8.le_of_lt (hbefore entry hentry)
  · rcases List.mem_cons.mp hentry with rfl | hentry
    · exact UInt8.le_refl _
    · exact hafter entry hentry

theorem draw_eq_foldl (counts : RollVote → Bool) (ballots : List Ballot) (draws : List UInt8)
    (best : Best) :
    draw counts ballots draws best =
      (numbers counts ballots draws).foldl
        (fun best entry => if best.number < entry.2 then
          ⟨entry.2, entry.1.guid, entry.1.vote⟩ else best) best := by
  induction ballots generalizing draws best with
  | nil => rfl
  | cons ballot rest ih =>
    rw [draw, numbers]
    split
    · exact ih _ _
    · exact ih _ _

theorem foldl_best (entries : List (Ballot × UInt8)) (best : Best) :
    (entries.foldl (fun best entry => if best.number < entry.2 then
        ⟨entry.2, entry.1.guid, entry.1.vote⟩ else best) best = best ∧
      ∀ entry ∈ entries, entry.2 ≤ best.number) ∨
    ∃ ballot number, FirstBest entries ballot number ∧ best.number < number ∧
      entries.foldl (fun best entry => if best.number < entry.2 then
        ⟨entry.2, entry.1.guid, entry.1.vote⟩ else best) best =
          ⟨number, ballot.guid, ballot.vote⟩ := by
  induction entries generalizing best with
  | nil => exact Or.inl ⟨rfl, fun _ hentry => by cases hentry⟩
  | cons entry rest ih =>
    rw [List.foldl_cons]
    by_cases hless : best.number < entry.2
    · rw [if_pos hless]
      right
      rcases ih ⟨entry.2, entry.1.guid, entry.1.vote⟩ with
        ⟨hsame, hle⟩ | ⟨ballot, number, ⟨before, after, rfl, hbefore, hafter⟩, hhigher, hfold⟩
      · exact ⟨entry.1, entry.2, ⟨[], rest, rfl, fun _ hmem => (by cases hmem), hle⟩, hless, hsame⟩
      · refine ⟨ballot, number, ⟨entry :: before, after, rfl, ?_, hafter⟩,
          UInt8.lt_trans hless hhigher, hfold⟩
        exact List.forall_mem_cons.mpr ⟨hhigher, hbefore⟩
    · rw [if_neg hless]
      have hle : entry.2 ≤ best.number := UInt8.not_lt.mp hless
      rcases ih best with
        ⟨hsame, hall⟩ | ⟨ballot, number, ⟨before, after, rfl, hbefore, hafter⟩, hhigher, hfold⟩
      · exact Or.inl ⟨hsame, List.forall_mem_cons.mpr ⟨hle, hall⟩⟩
      · refine Or.inr ⟨ballot, number, ⟨entry :: before, after, rfl, ?_, hafter⟩, hhigher, hfold⟩
        exact List.forall_mem_cons.mpr ⟨UInt8.lt_of_le_of_lt hle hhigher, hbefore⟩

theorem draw_spec (counts : RollVote → Bool) {ballots : List Ballot} {draws : List UInt8}
    (hdraws : ∀ number ∈ draws, 0 < number) (guid : UInt64) (vote : RollVote) :
    (numbers counts ballots draws = [] ∧
      draw counts ballots draws ⟨0, guid, vote⟩ = ⟨0, guid, vote⟩) ∨
    ∃ ballot number, FirstBest (numbers counts ballots draws) ballot number ∧
      draw counts ballots draws ⟨0, guid, vote⟩ = ⟨number, ballot.guid, ballot.vote⟩ := by
  rw [draw_eq_foldl]
  rcases foldl_best (numbers counts ballots draws) ⟨0, guid, vote⟩ with
    ⟨hsame, hle⟩ | ⟨ballot, number, hbest, -, hfold⟩
  · left
    refine ⟨List.eq_nil_iff_forall_not_mem.mpr fun entry hentry => ?_, hsame⟩
    have hpositive := (numbers_spec hdraws hentry).2.2
    exact absurd hpositive (UInt8.not_lt.mpr (hle entry hentry))
  · exact Or.inr ⟨ballot, number, hbest, hfold⟩

theorem FirstBest.draw_eq {counts : RollVote → Bool} {ballots : List Ballot} {draws : List UInt8}
    {ballot : Ballot} {number : UInt8}
    (hbest : FirstBest (numbers counts ballots draws) ballot number) (hpositive : 0 < number)
    (guid : UInt64) (vote : RollVote) :
    draw counts ballots draws ⟨0, guid, vote⟩ = ⟨number, ballot.guid, ballot.vote⟩ := by
  have hafter : ∀ (after : List (Ballot × UInt8)) (best : Best),
      (∀ entry ∈ after, entry.2 ≤ best.number) →
        after.foldl (fun best entry => if best.number < entry.2 then
          ⟨entry.2, entry.1.guid, entry.1.vote⟩ else best) best = best := by
    intro after
    induction after with
    | nil => exact fun _ _ => rfl
    | cons entry rest ih =>
      intro best hle
      rw [List.foldl_cons, if_neg (UInt8.not_lt.mpr (hle entry List.mem_cons_self))]
      exact ih best fun other hother => hle other (List.mem_cons_of_mem _ hother)
  have hbefore : ∀ (before after : List (Ballot × UInt8)) (best : Best), best.number < number →
      (∀ entry ∈ before, entry.2 < number) → (∀ entry ∈ after, entry.2 ≤ number) →
        (before ++ (ballot, number) :: after).foldl (fun best entry => if best.number < entry.2 then
          ⟨entry.2, entry.1.guid, entry.1.vote⟩ else best) best =
            ⟨number, ballot.guid, ballot.vote⟩ := by
    intro before
    induction before with
    | nil =>
      intro after best hless _ hle
      rw [List.nil_append, List.foldl_cons, if_pos hless]
      exact hafter after _ hle
    | cons entry rest ih =>
      intro after best hless hlower hle
      rw [List.cons_append, List.foldl_cons]
      refine ih after _ ?_ (fun other hother => hlower other (List.mem_cons_of_mem _ hother)) hle
      split
      · exact hlower entry List.mem_cons_self
      · exact hless
  obtain ⟨before, after, hsplit, hlower, hle⟩ := hbest.split
  rw [draw_eq_foldl, hsplit]
  exact hbefore before after _ hpositive hlower hle

/-! ## The pick -/

/-- The votes that are rolled for together. -/
inductive Category
  | need
  | greed
  deriving DecidableEq

def Category.counts : Category → RollVote → Bool
  | .need => fun vote => vote = .need
  | .greed => fun vote => vote = .greed || vote = .disenchant

namespace Roll

variable (roll : Roll)

/-- The category that the counters name. -/
def category : Option Category :=
  if 0 < roll.totalNeed then some .need else if 0 < roll.totalGreed then some .greed else none

def entries (category : Category) (draws : List UInt8) : List (Ballot × UInt8) :=
  numbers category.counts roll.playerVote.rows draws

/-- Nobody has voted for a higher category. -/
def IsHighest (category : Category) : Prop :=
  category = .greed → ∀ ballot ∈ roll.playerVote.rows, ballot.vote ≠ .need

/-- Who is picked: the first of the highest numbers, or the first player if nobody has voted in the
category. -/
inductive Picks (roll : Roll) (draws : List UInt8) : UInt64 → RollVote → Prop
  | best {category : Category} {ballot : Ballot} {number : UInt8}
      (hcategory : roll.category = some category)
      (hbest : FirstBest (roll.entries category draws) ballot number) :
      Picks roll draws ballot.guid ballot.vote
  | fallback {category : Category} {first : Ballot}
      (hcategory : roll.category = some category) (hnone : roll.entries category draws = [])
      (hfirst : roll.playerVote.rows.head? = some first) :
      Picks roll draws first.guid (if category = .need then .need else .notValid)

variable {roll : Roll} {draws : List UInt8}

theorem outcome_of_category_none (hvalid : roll.isValid = true) (hcategory : roll.category = none) :
    roll.outcome draws = .allPassed := by
  unfold category at hcategory
  split at hcategory
  · cases hcategory
  next hneed =>
  split at hcategory
  · cases hcategory
  next hgreed =>
  unfold outcome
  rw [hvalid]
  split
  next hinvalid => cases hinvalid
  split
  · simp [hneed, hgreed]
  · rfl

variable {cat : Category}

theorem outcome_of_nil (hvalid : roll.isValid = true) (hcategory : roll.category = some cat)
    (hrows : roll.playerVote.rows = []) : roll.outcome draws = .nobody := by
  have hsome : 0 < roll.totalNeed ∨ 0 < roll.totalGreed := by
    unfold category at hcategory
    split at hcategory
    next hneed => exact Or.inl hneed
    split at hcategory
    next hgreed => exact Or.inr hgreed
    · cases hcategory
  unfold outcome
  rw [hvalid, hrows]
  simp [hsome]

theorem outcome_of_cons {first : Ballot} {rest : List Ballot} (hvalid : roll.isValid = true)
    (hcategory : roll.category = some cat) (hrows : roll.playerVote.rows = first :: rest) :
    roll.outcome draws =
      match cat with
      | .need => .won (draw (Category.need.counts) (first :: rest) draws
          ⟨0, first.guid, .need⟩).guid .need
      | .greed =>
        let best := draw (Category.greed.counts) (first :: rest) draws ⟨0, first.guid, .notValid⟩
        .won best.guid best.vote := by
  unfold category at hcategory
  unfold outcome
  rw [hvalid, hrows]
  split at hcategory
  next hneed =>
    cases hcategory
    simp only [Bool.not_true, Bool.false_eq_true, if_false, hneed, if_true]
    rfl
  next hneed =>
    split at hcategory
    next hgreed =>
      cases hcategory
      simp only [Bool.not_true, Bool.false_eq_true, if_false, hneed, hgreed, if_true]
      rfl
    · cases hcategory

theorem vote_of_need {ballot : Ballot} {number : UInt8} (hdraws : ∀ number ∈ draws, 0 < number)
    (hmem : (ballot, number) ∈ roll.entries .need draws) : ballot.vote = .need :=
  of_decide_eq_true (numbers_spec hdraws hmem).2.1

/-- Somebody is picked as soon as anybody has voted. -/
theorem exists_picks (hdraws : ∀ number ∈ draws, 0 < number) (hvalid : roll.isValid = true)
    (hcategory : roll.category = some cat) (hrows : roll.playerVote.rows ≠ []) :
    ∃ guid vote, Picks roll draws guid vote ∧ roll.outcome draws = .won guid vote := by
  obtain ⟨first, rest, hrows⟩ := List.exists_cons_of_ne_nil hrows
  have hfirst : roll.playerVote.rows.head? = some first := by rw [hrows, List.head?_cons]
  rw [outcome_of_cons hvalid hcategory hrows]
  have hentries : roll.entries cat draws = numbers cat.counts (first :: rest) draws := by
    rw [entries, hrows]
  cases cat with
  | need =>
    rcases draw_spec Category.need.counts hdraws first.guid .need with
      ⟨hnone, hdraw⟩ | ⟨ballot, number, hbest, hdraw⟩
    · exact ⟨_, _, .fallback hcategory (hentries.trans hnone) hfirst, by rw [hdraw]; rfl⟩
    · rw [← hentries] at hbest
      refine ⟨_, _, .best hcategory hbest, ?_⟩
      rw [hdraw, vote_of_need hdraws hbest.mem]
  | greed =>
    rcases draw_spec Category.greed.counts hdraws first.guid .notValid with
      ⟨hnone, hdraw⟩ | ⟨ballot, number, hbest, hdraw⟩
    · exact ⟨_, _, .fallback hcategory (hentries.trans hnone) hfirst, by rw [hdraw]; rfl⟩
    · rw [← hentries] at hbest
      exact ⟨_, _, .best hcategory hbest, by rw [hdraw]⟩

theorem Picks.outcome_eq {guid : UInt64} {vote : RollVote} (hpicks : Picks roll draws guid vote)
    (hdraws : ∀ number ∈ draws, 0 < number) (hvalid : roll.isValid = true) :
    roll.outcome draws = .won guid vote := by
  cases hpicks with
  | @best cat ballot number hcategory hbest =>
    have hmem := numbers_spec hdraws hbest.mem
    obtain ⟨first, rest, hrows⟩ := List.exists_cons_of_ne_nil (List.ne_nil_of_mem hmem.1)
    have hentries : roll.entries cat draws = numbers cat.counts (first :: rest) draws := by
      rw [entries, hrows]
    rw [outcome_of_cons hvalid hcategory hrows]
    cases cat with
    | need =>
      have hvote := vote_of_need hdraws hbest.mem
      rw [hentries] at hbest
      rw [hbest.draw_eq hmem.2.2, hvote]
    | greed =>
      rw [hentries] at hbest
      rw [hbest.draw_eq hmem.2.2]
  | @fallback cat first hcategory hnone hfirst =>
    obtain ⟨rest, hrows⟩ := List.head?_eq_some_iff.mp hfirst
    have hentries : numbers cat.counts (first :: rest) draws = [] := by
      rw [← hrows]
      exact hnone
    rw [outcome_of_cons hvalid hcategory hrows]
    cases cat with
    | need | greed =>
      dsimp only
      rw [draw_eq_foldl, hentries]
      rfl

/-! ## Resolution -/

/-- A recorded vote of the highest category whose number nobody exceeds. -/
structure Winner (roll : Roll) (draws : List UInt8) (guid : UInt64) (vote : RollVote) : Prop where
  recorded : ⟨guid, vote⟩ ∈ roll.playerVote.rows
  best : ∃ category : Category, category.counts vote = true ∧ roll.IsHighest category ∧
    ∃ number, (⟨guid, vote⟩, number) ∈ roll.entries category draws ∧
      ∀ entry ∈ roll.entries category draws, entry.2 ≤ number

/-- What is due to a winner: the item, or everything it is disenchanted into. -/
def due (players : Players Bags) (guid : UInt64) : RollVote → List Stack
  | .disenchant => players.disenchanted guid
  | _ => [players.rolled]

/-- The roll is gone, and its item has gone to one player who has won it, or can be looted. -/
structure Resolved (players : Players Bags) (roll : Roll) (draws : List UInt8) (state : Rolls)
    (loot : Loots.Loot) : Prop where
  removed : (countTheRollFor players draws state loot roll).1.rolls.get? roll.itemGuid = none
  item : roll.isValid = true → ∀ item, rolledItem loot roll.itemSlot.toNat = some item →
    ∃ after, rolledItem (countTheRollFor players draws state loot roll).2.1
        roll.itemSlot.toNat = some after ∧
      match (countTheRollFor players draws state loot roll).2.2 with
      | some award => Winner roll draws award.guid award.vote ∧ after.isLooted = true ∧
          award.received ≠ [] ∧ award.received = due players award.guid award.vote
      | none => after.isBlocked = false ∧ after.isLooted = item.isLooted

/-- There is something to store for whoever disenchants, and room for it. -/
def CanDisenchant (players : Players Bags) (guid : UInt64) : Prop :=
  players.disenchanted guid ≠ [] ∧
    players.hasRoom (players.bags guid) (players.disenchanted guid) = true

/-- When a roll is resolved: all have passed; or the winner is there, the counters have named the
highest category, and he has room for what he disenchants; or whoever is picked is there and has no
room; or the item was not blocked, and nobody is picked who gets it. -/
inductive Settles (players : Players Bags) (roll : Roll) (draws : List UInt8)
    (item : Loots.LootItem) : Prop
  | allPassed (hcategory : roll.category = none)
  | winner {category : Category} {ballot : Ballot} {number : UInt8}
      (hcategory : roll.category = some category)
      (hbest : FirstBest (roll.entries category draws) ballot number)
      (hhighest : roll.IsHighest category) (honline : players.online ballot.guid = true)
      (hroom : ballot.vote = .disenchant → CanDisenchant players ballot.guid)
  | noRoom {guid : UInt64} {vote : RollVote} (hpicks : Picks roll draws guid vote)
      (honline : players.online guid = true) (hvote : vote = .need ∨ vote = .greed)
      (hstore : players.canStore (players.bags guid) players.rolled = false)
  | unblocked (hblocked : item.isBlocked = false)
      (hpicks : ∀ guid vote, Picks roll draws guid vote → players.online guid = true →
        vote = .notValid)

variable {players : Players Bags} {loot : Loots.Loot} {item : Loots.LootItem}

/-- A pick of the need category counts as need, one of the other as greed, disenchant or nothing. -/
theorem Picks.vote_cases {guid : UInt64} {vote : RollVote} (hpicks : Picks roll draws guid vote)
    (hdraws : ∀ number ∈ draws, 0 < number) :
    vote = .need ∨ vote = .greed ∨ vote = .disenchant ∨ vote = .notValid := by
  cases hpicks with
  | @best cat ballot number hcategory hbest =>
    have hcounts := (numbers_spec hdraws hbest.mem).2.1
    cases cat with
    | need => exact Or.inl (of_decide_eq_true hcounts)
    | greed =>
      simp only [Category.counts, Bool.or_eq_true, decide_eq_true_eq] at hcounts
      exact Or.inr (hcounts.elim Or.inl fun hvote => Or.inr (Or.inl hvote))
  | @fallback cat first hcategory hnone hfirst =>
    split
    · exact Or.inl rfl
    · exact Or.inr (Or.inr (Or.inr rfl))

/-- What `CountTheRoll` stores for a winner. -/
def stored (players : Players Bags) (guid : UInt64) : RollVote → List Stack
  | .disenchant => autoStoreLoot players (players.bags guid) (players.disenchanted guid)
  | _ => [players.rolled]

/-- What is stored is what is due, unless something that is disenchanted cannot be stored. -/
theorem stored_eq_due_iff (guid : UInt64) (vote : RollVote) :
    (stored players guid vote ≠ [] ∧ stored players guid vote = due players guid vote) ↔
      (vote = .disenchant → CanDisenchant players guid) := by
  have hother : ([players.rolled] ≠ [] ∧ [players.rolled] = [players.rolled]) :=
    ⟨List.cons_ne_nil _ _, rfl⟩
  cases vote with
  | disenchant =>
    rw [stored, due, autoStoreLoot_eq_self_iff]
    constructor
    · rintro ⟨hsome, hroom⟩ -
      exact ⟨(autoStoreLoot_eq_self_iff _ _ _).mpr hroom ▸ hsome, hroom⟩
    · intro hcan
      obtain ⟨hsome, hroom⟩ := hcan rfl
      exact ⟨((autoStoreLoot_eq_self_iff _ _ _).mpr hroom).symm ▸ hsome, hroom⟩
  | _ => exact iff_of_true hother nofun

/-- What a pick leads to. -/
theorem settle_won (players : Players Bags)
    (hitem : rolledItem loot roll.itemSlot.toNat = some item) {guid : UInt64} {vote : RollVote}
    (hvote : vote = .need ∨ vote = .greed ∨ vote = .disenchant ∨ vote = .notValid) :
    let result := settle players loot roll.itemSlot.toNat (.won guid vote)
    let after := rolledItem result.1 roll.itemSlot.toNat
    (players.online guid = true ∧ vote ≠ .notValid ∧
        (vote = .disenchant ∨ players.canStore (players.bags guid) players.rolled = true) ∧
        result.2 = some ⟨guid, vote, stored players guid vote⟩ ∧
          after = some { item with isLooted := true }) ∨
      (players.online guid = true ∧ (vote = .need ∨ vote = .greed) ∧
        players.canStore (players.bags guid) players.rolled = false ∧ result.2 = none ∧
        after = some { item with isBlocked := false }) ∨
      ((players.online guid = true → vote = .notValid) ∧ result.2 = none ∧ after = some item) := by
  cases honline : players.online guid <;>
    cases hstore : players.canStore (players.bags guid) players.rolled <;>
    rcases hvote with rfl | rfl | rfl | rfl <;>
    simp [settle, storeRolled, stored, honline, hstore, rolledItem_countTheRoll, hitem]

theorem no_picks_of_nil (hdraws : ∀ number ∈ draws, 0 < number)
    (hrows : roll.playerVote.rows = []) {guid : UInt64} {vote : RollVote} :
    ¬Picks roll draws guid vote := by
  rintro (⟨hcategory, hbest⟩ | ⟨hcategory, hnone, hfirst⟩)
  · have hmem := (numbers_spec hdraws hbest.mem).1
    rw [hrows] at hmem
    cases hmem
  · rw [hrows] at hfirst
    cases hfirst

/-- A winner by the counters is one by the votes if the counters name the highest category. -/
theorem winner_of_best {ballot : Ballot} {number : UInt8} (hdraws : ∀ number ∈ draws, 0 < number)
    (hbest : FirstBest (roll.entries cat draws) ballot number) (hhighest : roll.IsHighest cat) :
    Winner roll draws ballot.guid ballot.vote := by
  obtain ⟨hmem, hcounts, -⟩ := numbers_spec hdraws hbest.mem
  exact ⟨hmem, cat, hcounts, hhighest, number, hbest.mem, hbest.le⟩

theorem Picks.settles_of_winner {guid : UInt64} {vote : RollVote} {item : Loots.LootItem}
    (hpicks : Picks roll draws guid vote) (hdraws : ∀ number ∈ draws, 0 < number)
    (honline : players.online guid = true) (hwinner : Winner roll draws guid vote)
    (hroom : vote = .disenchant → CanDisenchant players guid) :
    Settles players roll draws item := by
  obtain ⟨hrecorded, category, hcounts, hhighest, -⟩ := hwinner
  cases hpicks with
  | @best cat ballot number hcategory hbest =>
    refine .winner hcategory hbest ?_ honline hroom
    rintro rfl other hother hneed
    have hvote := (numbers_spec hdraws hbest.mem).2.1
    cases category with
    | need =>
      have hneed : ballot.vote = .need := of_decide_eq_true hcounts
      rw [hneed] at hvote
      cases hvote
    | greed => exact hhighest rfl other hother hneed
  | @fallback cat first hcategory hnone hfirst =>
    split at hrecorded
    next hneed =>
      -- The first player would have voted need.
      subst hneed
      obtain ⟨number, hnumber⟩ := exists_number Category.need.counts hrecorded rfl draws
      rw [entries] at hnone
      rw [hnone] at hnumber
      cases hnumber
    next hgreed =>
      rw [if_neg hgreed] at hcounts
      cases category <;> cases hcounts

/-- Exactly when a roll is resolved as it should be. -/
theorem resolved_iff_settles (players : Players Bags) (state : Rolls) (loot : Loots.Loot)
    (hdraws : ∀ number ∈ draws, 0 < number) :
    Resolved players roll draws state loot ↔
      (roll.isValid = true → ∀ item, rolledItem loot roll.itemSlot.toNat = some item →
        Settles players roll draws item) := by
  have hremoved : (countTheRollFor players draws state loot roll).1.rolls.get? roll.itemGuid =
      none := by
    rw [countTheRollFor, countTheRoll, Table.get?_erase, if_pos rfl]
  refine Iff.trans ⟨Resolved.item, fun hitem => ⟨hremoved, hitem⟩⟩ ?_
  refine forall_congr' fun hvalid => forall_congr' fun item => forall_congr' fun hitem => ?_
  dsimp only [countTheRollFor]
  cases hcategory : roll.category with
  | none =>
    rw [outcome_of_category_none hvalid hcategory]
    refine ⟨fun _ => .allPassed hcategory, fun _ => ?_⟩
    refine ⟨{ item with isBlocked := false }, ?_, rfl, rfl⟩
    rw [settle, rolledItem_countTheRoll, hitem]
    rfl
  | some cat =>
    by_cases hrows : roll.playerVote.rows = []
    · rw [outcome_of_nil hvalid hcategory hrows]
      constructor
      · rintro ⟨after, hafter, hblocked, -⟩
        refine .unblocked ?_ fun guid vote hpicks => (no_picks_of_nil hdraws hrows hpicks).elim
        rw [settle, hitem] at hafter
        cases hafter
        exact hblocked
      · intro hsettles
        refine ⟨item, hitem, ?_, rfl⟩
        cases hsettles with
        | allPassed hnone => exact absurd (hcategory.symm.trans hnone) (Option.some_ne_none _)
        | winner hcategory hbest =>
          exact (no_picks_of_nil hdraws hrows (.best hcategory hbest)).elim
        | noRoom hpicks => exact (no_picks_of_nil hdraws hrows hpicks).elim
        | unblocked hblocked => exact hblocked
    · obtain ⟨guid, vote, hpicks, houtcome⟩ := exists_picks hdraws hvalid hcategory hrows
      rw [houtcome]
      -- Nobody else is picked.
      have hunique : ∀ other otherVote, Picks roll draws other otherVote →
          other = guid ∧ otherVote = vote := by
        intro other otherVote hother
        have heq := (hother.outcome_eq hdraws hvalid).symm.trans houtcome
        cases heq
        exact ⟨rfl, rfl⟩
      rcases settle_won players hitem (hpicks.vote_cases hdraws) with
        ⟨honline, hvalidVote, hstores, haward, hafter⟩ | ⟨honline, hvote, hstore, hnone, hafter⟩ |
          ⟨hnobody, hnone, hafter⟩
      · rw [haward, hafter]
        constructor
        · rintro ⟨after, -, hwinner, -, hreceived⟩
          exact hpicks.settles_of_winner hdraws honline hwinner
            ((stored_eq_due_iff guid vote).mp hreceived)
        · intro hsettles
          refine ⟨_, rfl, ?_⟩
          cases hsettles with
          | allPassed hnone => exact absurd (hcategory.symm.trans hnone) (Option.some_ne_none _)
          | winner hcategory hbest hhighest _ hroom =>
            obtain ⟨rfl, rfl⟩ := hunique _ _ (.best hcategory hbest)
            exact ⟨winner_of_best hdraws hbest hhighest, rfl, (stored_eq_due_iff _ _).mpr hroom⟩
          | noRoom hother _ hneeds hstore =>
            obtain ⟨rfl, rfl⟩ := hunique _ _ hother
            rcases hstores with rfl | hstores
            · rcases hneeds with hneeds | hneeds <;> cases hneeds
            · exact absurd (hstore.symm.trans hstores) Bool.false_ne_true
          | unblocked _ hall => exact absurd (hall _ _ hpicks honline) hvalidVote
      · rw [hnone, hafter]
        exact ⟨fun _ => .noRoom hpicks honline hvote hstore, fun _ => ⟨_, rfl, rfl, rfl⟩⟩
      · rw [hnone, hafter]
        constructor
        · rintro ⟨after, hsame, hblocked, -⟩
          cases hsame
          refine .unblocked hblocked fun other otherVote hother honline => ?_
          obtain ⟨rfl, rfl⟩ := hunique _ _ hother
          exact hnobody honline
        · intro hsettles
          refine ⟨item, rfl, ?_, rfl⟩
          cases hsettles with
          | allPassed hnone => exact absurd (hcategory.symm.trans hnone) (Option.some_ne_none _)
          | @winner category ballot number hcategory hbest hhighest honline =>
            obtain ⟨rfl, rfl⟩ := hunique _ _ (.best hcategory hbest)
            have hcounts := (numbers_spec hdraws hbest.mem).2.1
            rw [hnobody honline] at hcounts
            cases category <;> cases hcounts
          | noRoom hother honline hneeds =>
            obtain ⟨rfl, rfl⟩ := hunique _ _ hother
            rw [hnobody honline] at hneeds
            rcases hneeds with hneeds | hneeds <;> cases hneeds
          | unblocked hblocked => exact hblocked

theorem fifty_positive : ∀ number ∈ ([50] : List UInt8), 0 < number :=
  List.forall_mem_singleton.mpr (by decide)

/-- One player has voted need for the only item of a loot. -/
def loneRoll : Roll :=
  { Roll.blank 1 ⟨2, 0, [], []⟩ 0 with
    playerVote := Table.empty.insert ⟨7, .need⟩ byGuid
    totalPlayersRolling := 1
    totalNeed := 1 }

/-- Everybody is there or nobody, and has bags of one size. -/
def lonePlayers (online : Bool) : Players Unit where
  online _ := online
  bags _ := ()
  canStore _ _ := true
  store bags _ := bags
  rolled := ⟨1, 1, 0⟩
  disenchanted _ := []

def blockedLoot : Loots.Loot :=
  { Loots.Loot.empty 0 with
    items := [⟨⟨1, false, false, false⟩, false, false, false, true, false⟩]
    unlootedCount := 1 }

theorem loneRoll_firstBest : FirstBest (loneRoll.entries .need [50]) ⟨7, .need⟩ 50 :=
  ⟨[], [], rfl, fun _ hentry => (by cases hentry), fun _ hentry => by cases hentry⟩

theorem resolved_iff_settles_lone :
    Resolved (lonePlayers true) loneRoll [50] ⟨Table.empty, 2, []⟩ blockedLoot :=
  (resolved_iff_settles _ _ _ fifty_positive).mpr fun _ _ _ =>
    .winner rfl loneRoll_firstBest (fun hgreed => by cases hgreed) rfl nofun

/-- The winner has logged out. -/
theorem not_always_resolved :
    ¬∀ (players : Players Unit) (roll : Roll) (draws : List UInt8) (state : Rolls) (loot : Loots.Loot),
      (∀ number ∈ draws, 0 < number) → Resolved players roll draws state loot := by
  intro hall
  have hresolved := hall (lonePlayers false) loneRoll [50] ⟨Table.empty, 2, []⟩ blockedLoot
    fifty_positive
  obtain ⟨after, hafter, hblocked, -⟩ := hresolved.item rfl _ rfl
  cases hafter
  cases hblocked

end Roll

end MopServer.Groups
