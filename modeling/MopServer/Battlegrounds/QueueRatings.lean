import MopServer.Battlegrounds.QueuePairing

/-! # Whom rated teams play against

The waiting times of rated teams are differences of a counter of 32 bits.  The point in time before
which a team must have joined to be paired whatever its rating is guarded for arenas, but may lie
before the start of the counter for rated battlegrounds.
-/

namespace MopServer.Battlegrounds

open Foundation

/-- How long a group has waited, as far as the counter can tell. -/
def QueuedGroup.waited (now : UInt32) (row : QueuedGroup) : Nat := (now - row.info.joinTime).toNat

def QueuedGroup.rating (row : QueuedGroup) : Nat := row.info.arenaMatchmakerRating.toNat

/-- Two ratings are no further apart than a window is wide. -/
def Near (reference rating window : Nat) : Prop :=
  reference ≤ rating + window ∧ rating ≤ reference + window

/-- The rating of a group is near the reference, or the group has waited long enough. -/
def World.Acceptable (world : World) (reference window : Nat) (row : QueuedGroup) : Prop :=
  Near reference row.rating window ∨ world.ratingDiscardTimer.toNat ≤ row.waited world.now

/-! ## The window -/

variable {reference difference : UInt32}

theorem toNat_lowered (rating difference : UInt32) :
    (if rating ≤ difference then 0 else rating - difference).toNat =
      rating.toNat - difference.toNat := by
  split
  next hle =>
    rw [UInt32.le_iff_toNat_le] at hle
    rw [UInt32.toNat_zero]
    omega
  next hlt =>
    rw [UInt32.not_le] at hlt
    exact UInt32.toNat_sub_of_le _ _ (UInt32.le_of_lt hlt)

theorem toNat_add_le (rating difference : UInt32) :
    (rating + difference).toNat ≤ rating.toNat + difference.toNat := by
  rw [UInt32.toNat_add]
  exact Nat.mod_le _ _

theorem near_of_range {rating : UInt32}
    (hmin : (if reference ≤ difference then 0 else reference - difference) ≤ rating)
    (hmax : rating ≤ reference + difference) :
    Near reference.toNat rating.toNat difference.toNat := by
  rw [UInt32.le_iff_toNat_le, toNat_lowered] at hmin
  rw [UInt32.le_iff_toNat_le] at hmax
  have hadd := toNat_add_le reference difference
  exact ⟨by omega, by omega⟩

/-- What the waiting time adds makes the window wider on both sides. -/
theorem near_of_widened {rating widening least : UInt32}
    (hleast : least.toNat = reference.toNat - difference.toNat)
    (hmin : (if 0 < widening then if widening < least then least - widening else 0 else least) ≤
      rating) (hmax : rating ≤
      if 0 < widening then widening + (reference + difference) else reference + difference) :
    Near reference.toNat rating.toNat (difference.toNat + widening.toNat) := by
  have hadd := toNat_add_le reference difference
  rw [UInt32.le_iff_toNat_le] at hmin hmax
  split at hmin
  next hpos =>
    have hwide := toNat_add_le widening (reference + difference)
    rw [if_pos hpos] at hmax
    have hlow : (if widening < least then least - widening else 0).toNat =
        least.toNat - widening.toNat := by
      split
      next hless => exact UInt32.toNat_sub_of_le _ _ (UInt32.le_of_lt hless)
      next hnot =>
        rw [UInt32.lt_iff_toNat_lt] at hnot
        rw [UInt32.toNat_zero]
        omega
    rw [hlow] at hmin
    exact ⟨by omega, by omega⟩
  next hzero =>
    rw [if_neg hzero] at hmax
    exact ⟨by omega, by omega⟩

/-! ## The waiting time -/

variable {row : QueuedGroup} {world : World}

theorem discard_le_waited (hjoined : row.info.joinTime < world.now - world.ratingDiscardTimer)
    (hclock : world.ratingDiscardTimer ≤ world.now ∨ world.now < row.info.joinTime) :
    world.ratingDiscardTimer.toNat ≤ row.waited world.now := by
  have hnow := world.now.toNat_lt
  unfold QueuedGroup.waited
  rw [UInt32.lt_iff_toNat_lt, UInt32.toNat_sub] at hjoined
  rw [UInt32.toNat_sub]
  rw [UInt32.le_iff_toNat_le, UInt32.lt_iff_toNat_lt] at hclock
  omega

/-- The group passes for one that has waited long enough although it has not: the counter has not
come as far as the discard time yet, and the point in time that lies so long before now wraps around.
-/
def World.Rushed (world : World) (reference : UInt32) (row : QueuedGroup) : Prop :=
  world.now < world.ratingDiscardTimer ∧ row.info.joinTime ≤ world.now ∧
    row.info.joinTime < world.now - world.ratingDiscardTimer ∧
    ¬Near reference.toNat row.rating world.maxRatingDifference.toNat

theorem acceptable_of_fitsRating (hfits : BattlegroundQueue.fitsRating world reference row = true)
    (hrushed : ¬world.Rushed reference row) :
    world.Acceptable reference.toNat world.maxRatingDifference.toNat row := by
  simp only [BattlegroundQueue.fitsRating, Bool.and_eq_true, Bool.or_eq_true,
    decide_eq_true_eq] at hfits
  rcases hfits.2 with ⟨hmin, hmax⟩ | hjoined
  · exact Or.inl (near_of_range hmin hmax)
  · by_cases hclock : world.ratingDiscardTimer ≤ world.now ∨ world.now < row.info.joinTime
    · exact Or.inr (discard_le_waited hjoined hclock)
    · rw [not_or, UInt32.not_le, UInt32.not_lt] at hclock
      by_contra hnot
      exact hrushed ⟨hclock.1, hclock.2, hjoined, fun hnear => hnot (Or.inl hnear)⟩

theorem World.Rushed.not_acceptable (hrushed : world.Rushed reference row) :
    ¬world.Acceptable reference.toNat world.maxRatingDifference.toNat row := by
  obtain ⟨hclock, hjoin, -, hfar⟩ := hrushed
  rintro (hnear | hwaited)
  · exact hfar hnear
  · unfold QueuedGroup.waited at hwaited
    rw [UInt32.toNat_sub_of_le _ _ hjoin] at hwaited
    rw [UInt32.lt_iff_toNat_lt] at hclock
    omega

theorem acceptable_of_isOpponent {selected check : QueuedGroup}
    (hopponent : BattlegroundQueue.isOpponent world selected check = true) :
    world.Acceptable selected.rating
      (world.maxRatingDifference.toNat + 150 * (selected.waited world.now / 60000)) check := by
  have hwidening : ((world.now - selected.info.joinTime) / 60000 * 150).toNat =
      150 * (selected.waited world.now / 60000) := by
    have hwaited := (world.now - selected.info.joinTime).toNat_lt
    unfold QueuedGroup.waited
    rw [UInt32.toNat_mul, UInt32.toNat_div]
    simp only [UInt32.reduceToNat]
    omega
  simp only [BattlegroundQueue.isOpponent, Bool.and_eq_true, Bool.or_eq_true,
    decide_eq_true_eq] at hopponent
  rcases hopponent.2 with ⟨hmin, hmax⟩ | hjoined
  · rw [← hwidening]
    exact Or.inl (near_of_widened (toNat_lowered _ _) hmin hmax)
  · split at hjoined
    next hclock => exact Or.inr (discard_le_waited hjoined (Or.inl hclock))
    · exact absurd hjoined (UInt32.not_lt.mpr UInt32.zero_le)

namespace BattlegroundQueue

variable {queue : BattlegroundQueue} {world : World} {bracket : Bracket}

/-! ## The choice of two teams -/

variable {aTeam hTeam : QueuedGroup}

/-- No group waits in the rated lists of both factions. -/
def RatedApart (queue : BattlegroundQueue) (bracket : Bracket) : Prop :=
  ∀ id ∈ queue.queuedGroups ⟨bracket, .premadeAlliance⟩,
    id ∉ queue.queuedGroups ⟨bracket, .premadeHorde⟩

theorem ratedApart_of_structured (hqueue : queue.view.Structured) (bracket : Bracket) :
    queue.RatedApart bracket := by
  intro id halliance hhorde
  have hfaction := hqueue.faction_of_mem halliance
  rw [hqueue.faction_of_mem hhorde] at hfaction
  cases hfaction

/-- Two teams of an arena are different ones that nobody has invited, and the opponent is acceptable
for the team it was searched for, whose window grows with its waiting time. -/
def PairsArenaFairly (queue : BattlegroundQueue) (world : World) (bracket : Bracket) : Prop :=
  ∀ aTeam hTeam, queue.selectArenaTeams world bracket = some (aTeam, hTeam) →
    aTeam.id ≠ hTeam.id ∧ aTeam.info.invited = false ∧ hTeam.info.invited = false ∧
      world.Acceptable aTeam.rating
        (world.maxRatingDifference.toNat + 150 * (aTeam.waited world.now / 60000)) hTeam

/-- Two teams of a rated battleground are different ones that nobody has invited, and both are
acceptable for the rating it is made for. -/
def PairsRatedFairly (queue : BattlegroundQueue) (world : World) (update : Update) : Prop :=
  ∀ reference aTeam hTeam, queue.soughtRating update = some reference →
    queue.selectRatedBGTeams world update.bracket reference = some (aTeam, hTeam) →
    (queue.RatedApart update.bracket → aTeam.id ≠ hTeam.id) ∧
      aTeam.info.invited = false ∧ hTeam.info.invited = false ∧
      world.Acceptable reference.toNat world.maxRatingDifference.toNat aTeam ∧
      world.Acceptable reference.toNat world.maxRatingDifference.toNat hTeam

def PairsFairly (queue : BattlegroundQueue) (world : World) (update : Update) : Prop :=
  queue.PairsArenaFairly world update.bracket ∧ queue.PairsRatedFairly world update

/-- Neither team of a rated battleground is rushed. -/
def PairsUnrushed (queue : BattlegroundQueue) (world : World) (update : Update) : Prop :=
  ∀ reference aTeam hTeam, queue.soughtRating update = some reference →
    queue.selectRatedBGTeams world update.bracket reference = some (aTeam, hTeam) →
    ¬world.Rushed reference aTeam ∧ ¬world.Rushed reference hTeam

theorem pairsArenaFairly (queue : BattlegroundQueue) (world : World) (bracket : Bracket) :
    queue.PairsArenaFairly world bracket := by
  intro aTeam hTeam hselect
  obtain ⟨selected, -, hopponent⟩ := List.exists_of_findSome?_eq_some hselect
  split at hopponent
  · cases hopponent
  next hinvited =>
  obtain ⟨opponent, hfind, hpair⟩ := Option.map_eq_some_iff.mp hopponent
  obtain ⟨rfl, rfl⟩ := Prod.mk.inj hpair
  have hfits := List.find?_some hfind
  have haccept := acceptable_of_isOpponent hfits
  simp only [isOpponent, Bool.and_eq_true, Bool.not_eq_true', decide_eq_true_eq] at hfits
  exact ⟨hfits.1.2, Bool.eq_false_iff.mpr hinvited, hfits.1.1, haccept⟩

theorem secondOfList_fits {slot : Slot} {first : QueuedGroup}
    (hfirst : (queue.listed slot).find? (fitsRating world reference) = some first)
    (hselect : secondOfList world reference (queue.listed slot) first = some (aTeam, hTeam)) :
    fitsRating world reference aTeam = true ∧ fitsRating world reference hTeam = true ∧
      aTeam.id ≠ hTeam.id := by
  obtain ⟨second, hfind, hpair⟩ := Option.map_eq_some_iff.mp hselect
  obtain ⟨rfl, rfl⟩ := Prod.mk.inj hpair
  have hfits := List.find?_some hfind
  simp only [Bool.and_eq_true, decide_eq_true_eq] at hfits
  refine ⟨List.find?_some hfirst, hfits.1, ?_⟩
  -- Two records of one group would be of the same party.
  intro heq
  have hown := (mem_listed (List.mem_of_find?_eq_some hfirst)).2
  have hother := (mem_listed ((List.dropWhile_sublist _).mem (List.mem_of_find?_eq_some hfind))).2
  rw [heq, hother] at hown
  exact hfits.2 (congrArg (fun row : QueuedGroup => row.info.group) (Option.some.inj hown).symm)

theorem selectRatedBGTeams_fits
    (hselect : queue.selectRatedBGTeams world bracket reference = some (aTeam, hTeam)) :
    fitsRating world reference aTeam = true ∧ fitsRating world reference hTeam = true ∧
      (queue.RatedApart bracket → aTeam.id ≠ hTeam.id) := by
  unfold selectRatedBGTeams at hselect
  dsimp only at hselect
  split at hselect
  · cases hselect
  next first second hfirst hsecond =>
    obtain ⟨rfl, rfl⟩ := Prod.mk.inj (Option.some.inj hselect)
    refine ⟨List.find?_some hfirst, List.find?_some hsecond, fun hapart heq => ?_⟩
    have halliance := (mem_listed (List.mem_of_find?_eq_some hfirst)).1
    have hhorde := (mem_listed (List.mem_of_find?_eq_some hsecond)).1
    rw [← heq] at hhorde
    exact hapart _ halliance hhorde
  next first hfirst _ =>
    obtain ⟨hown, hother, hne⟩ := secondOfList_fits hfirst hselect
    exact ⟨hown, hother, fun _ => hne⟩
  next first _ hfirst =>
    obtain ⟨hown, hother, hne⟩ := secondOfList_fits hfirst hselect
    exact ⟨hown, hother, fun _ => hne⟩

theorem not_invited_of_fitsRating (hfits : fitsRating world reference row = true) :
    row.info.invited = false := by
  simp only [fitsRating, Bool.and_eq_true, Bool.not_eq_true'] at hfits
  exact hfits.1

/-- Rated teams are paired fairly exactly when neither of the two is rushed. -/
theorem pairsFairly_iff_unrushed (queue : BattlegroundQueue) (world : World) (update : Update) :
    queue.PairsFairly world update ↔ queue.PairsUnrushed world update := by
  constructor
  · rintro ⟨-, hfair⟩ reference aTeam hTeam hsought hselect
    obtain ⟨-, -, -, hown, hother⟩ := hfair reference aTeam hTeam hsought hselect
    exact ⟨fun hrushed => hrushed.not_acceptable hown, fun hrushed => hrushed.not_acceptable hother⟩
  · intro hunrushed
    refine ⟨pairsArenaFairly queue world update.bracket, ?_⟩
    intro reference aTeam hTeam hsought hselect
    obtain ⟨hown, hother, hne⟩ := selectRatedBGTeams_fits hselect
    obtain ⟨howncalm, hothercalm⟩ := hunrushed reference aTeam hTeam hsought hselect
    exact ⟨hne, not_invited_of_fitsRating hown, not_invited_of_fitsRating hother,
      acceptable_of_fitsRating hown howncalm, acceptable_of_fitsRating hother hothercalm⟩

/-! ## Early pairs -/

/-- A party of two that queues for a rated battleground. -/
def ratedPair (team : Team) (leader mate : UInt64) (groupId : Nat) (rating now : UInt32) :
    Joining :=
  { arenaPair team leader mate groupId with
    bgTypeId := battlegroundRated10Vs10
    arenaType := 0
    matchmakerRating := rating
    now := now }

variable (first second : UInt32 × UInt32)

def ratedQueue : BattlegroundQueue :=
  (empty.addGroup (ratedPair .alliance 10 11 1 first.1 first.2)).addGroup
    (ratedPair .horde 20 21 2 second.1 second.2)

def ratedUpdate (rating : UInt32) : Update :=
  { arenaUpdate with bgTypeId := battlegroundRated10Vs10, arenaType := 0, arenaRating := rating }

def allianceRow : QueuedGroup :=
  ⟨0, (ratedPair .alliance 10 11 1 first.1 first.2).info⟩

def hordeRow : QueuedGroup :=
  ⟨1, (ratedPair .horde 20 21 2 second.1 second.2).info⟩

/-- Whoever joined when the counter started fits every rating before the discard time has passed. -/
theorem fitsRating_of_early (hclock : world.now < world.ratingDiscardTimer)
    (hjoin : row.info.joinTime = 0) (hinvited : row.info.invited = false) :
    fitsRating world reference row = true := by
  have hpast : 0 < world.now - world.ratingDiscardTimer := by
    rw [UInt32.lt_iff_toNat_lt] at hclock ⊢
    rw [UInt32.toNat_sub, UInt32.toNat_zero]
    have := world.ratingDiscardTimer.toNat_lt
    omega
  simp [fitsRating, hjoin, hinvited, hpast]

theorem selectRatedBGTeams_ratedQueue {first second : UInt32 × UInt32}
    (hfirst : fitsRating world reference (allianceRow first) = true)
    (hsecond : fitsRating world reference (hordeRow second) = true) :
    (ratedQueue first second).selectRatedBGTeams world (ratedUpdate reference).bracket reference =
      some (allianceRow first, hordeRow second) := by
  have halliance : (ratedQueue first second).listed ⟨(ratedUpdate reference).bracket,
      .premadeAlliance⟩ = [allianceRow first] := rfl
  have hhorde : (ratedQueue first second).listed ⟨(ratedUpdate reference).bracket,
      .premadeHorde⟩ = [hordeRow second] := rfl
  unfold selectRatedBGTeams
  rw [halliance, hhorde]
  dsimp only
  rw [List.find?_cons_of_pos hfirst, List.find?_cons_of_pos hsecond]

theorem soughtRating_ratedUpdate (hreference : reference ≠ 0) :
    queue.soughtRating (ratedUpdate reference) = some reference :=
  if_pos hreference

/-- Two pairs who joined when the counter started play for a rating that is out of their reach. -/
theorem not_pairsFairly_early (hclock : world.now < world.ratingDiscardTimer)
    (hdifference : world.maxRatingDifference ≠ 0xFFFFFFFF) :
    ¬(ratedQueue (0, 0) (0, 0)).PairsFairly world (ratedUpdate 0xFFFFFFFF) := by
  rintro ⟨-, hfair⟩
  obtain ⟨-, -, -, haccept, -⟩ := hfair 0xFFFFFFFF _ _ (soughtRating_ratedUpdate (by decide))
    (selectRatedBGTeams_ratedQueue (fitsRating_of_early hclock rfl rfl)
      (fitsRating_of_early hclock rfl rfl))
  rcases haccept with ⟨hnear, -⟩ | hwaited
  · apply hdifference
    apply UInt32.toNat_inj.mp
    have hmax := world.maxRatingDifference.toNat_lt
    have hzero : (allianceRow (0, 0)).rating = 0 := rfl
    rw [hzero] at hnear
    simp only [UInt32.reduceToNat] at hnear ⊢
    omega
  · have hall : (allianceRow (0, 0)).waited world.now = world.now.toNat := by
      change (world.now - 0).toNat = world.now.toNat
      rw [UInt32.sub_zero]
    rw [hall] at hwaited
    rw [UInt32.lt_iff_toNat_lt] at hclock
    omega

/-- One queue is paired fairly exactly when no team of the pair is rushed, and all queues are exactly
when the counter has come as far as the discard time, or ratings do not matter. -/
theorem pairsFairly_iff (world : World) :
    (∀ (queue : BattlegroundQueue) (update : Update),
      queue.PairsFairly world update ↔ queue.PairsUnrushed world update) ∧
    ((∀ (queue : BattlegroundQueue) (update : Update), queue.PairsFairly world update) ↔
      world.ratingDiscardTimer ≤ world.now ∨ world.maxRatingDifference = 0xFFFFFFFF) ∧
    ∀ (queue : BattlegroundQueue) (bracket : Bracket), queue.view.Structured →
      queue.RatedApart bracket := by
  refine ⟨fun queue update => pairsFairly_iff_unrushed queue world update, ?_,
    fun _ bracket hqueue => ratedApart_of_structured hqueue bracket⟩
  constructor
  · intro hfair
    by_contra hnot
    rw [not_or, UInt32.not_le] at hnot
    exact not_pairsFairly_early hnot.1 hnot.2 (hfair _ _)
  · intro hworld queue update
    refine (pairsFairly_iff_unrushed queue world update).mpr ?_
    have hcalm : ∀ reference row, ¬world.Rushed reference row := by
      rintro reference row ⟨hclock, -, -, hfar⟩
      rcases hworld with hle | hall
      · exact absurd hclock (UInt32.not_lt.mpr hle)
      · apply hfar
        have hreference := reference.toNat_lt
        have hrow := row.info.arenaMatchmakerRating.toNat_lt
        rw [hall]
        unfold Near QueuedGroup.rating
        simp only [UInt32.reduceToNat]
        omega
    exact fun reference aTeam hTeam _ _ => ⟨hcalm reference aTeam, hcalm reference hTeam⟩

/-- A minute after the start, with a discard time of ten minutes. -/
def startedWorld : World := { arenaWorld with now := 60000 }

/-- A pair rated 1500 and one rated 2500 who joined after a second are sent against each other. -/
theorem not_always_pairsFairly :
    ¬∀ (queue : BattlegroundQueue) (world : World) (update : Update),
      queue.PairsFairly world update := by
  intro hfair
  obtain ⟨-, -, -, haccept, -⟩ := (hfair (ratedQueue (1500, 1000) (2500, 2000)) startedWorld
    (ratedUpdate 2500)).2 2500 _ _ (soughtRating_ratedUpdate (by decide))
    (selectRatedBGTeams_ratedQueue (by decide) (by decide))
  rcases haccept with ⟨hnear, -⟩ | hwaited
  · exact absurd hnear (by decide)
  · exact absurd hwaited (by decide)

end BattlegroundQueue

end MopServer.Battlegrounds
