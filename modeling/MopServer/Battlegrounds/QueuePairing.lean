import MopServer.Battlegrounds.QueueStructure

/-! # Rated pairings, and whole runs of the battleground queue

Two teams that are paired for a rated match are seated in the lists of the sides they play for.
That is right for teams of a faction.  The structure is then kept along every run.
-/

namespace MopServer.Battlegrounds

open Foundation

namespace BattlegroundQueue

variable {queue : BattlegroundQueue} {bracket : Bracket} {without : Nat → List Nat → List Nat}
  {ginfo aTeam hTeam : QueuedGroup} {world : World} {instanceId : UInt32}

theorem premade_other_ne (bracket : Bracket) (side : TeamIndex) :
    (⟨bracket, .premade side.other⟩ : Slot) ≠ ⟨bracket, .premade side⟩ := by
  cases side <;> simp [QueueGroupType.premade, TeamIndex.other]

/-- Taking a group out of a list without repetitions, as each kind of rated match does it. -/
def ErasesOnce (without : Nat → List Nat → List Nat) : Prop :=
  ∀ id groups, groups.Nodup → without id groups = groups.erase id

theorem erasesOnce_removeAll : ErasesOnce removeAll := by
  intro id groups hnodup
  rw [hnodup.erase_eq_filter id]
  apply List.filter_congr
  intro other _
  simp [bne, beq_eq_decide]

theorem erasesOnce_eraseAt : ErasesOnce eraseAt := fun _ _ _ => rfl

/-- A team that has to change its side is put into the other list. -/
def shift (bracket : Bracket) (ginfo : QueuedGroup) (side : TeamIndex) (view : View) : View :=
  if ginfo.info.team = side.team then view
  else view.relist ⟨bracket, .premade side.other⟩ ⟨bracket, .premade side⟩ ginfo.id

@[simp]
theorem faction_shift (bracket : Bracket) (ginfo : QueuedGroup) (side : TeamIndex) (view : View) :
    (shift bracket ginfo side view).faction = view.faction := by
  unfold shift
  split <;> rfl

theorem enter_shift (bracket : Bracket) (ginfo : QueuedGroup) (side index : TeamIndex)
    (view : View) (id : Nat) :
    (shift bracket ginfo side view).enter id index =
      shift bracket ginfo side (view.enter id index) := by
  unfold shift
  split <;> rfl

theorem view_moveRated (hwithout : ErasesOnce without) (ginfo : QueuedGroup) {side : TeamIndex}
    (hnodup : (queue.view.lists ⟨bracket, .premade side.other⟩).Nodup) :
    (moveRated bracket without ginfo side queue).view =
      shift bracket ginfo side queue.view := by
  unfold moveRated shift
  by_cases hteam : ginfo.info.team = side.team
  · rw [if_neg (not_not.mpr hteam), if_pos hteam]
  · rw [if_pos hteam, if_neg hteam]
    have herase : without ginfo.id (queue.queuedGroups ⟨bracket, .premade side.other⟩) =
        (queue.queuedGroups ⟨bracket, .premade side.other⟩).erase ginfo.id :=
      hwithout ginfo.id _ hnodup
    simp only [setList, Function.update_of_ne (premade_other_ne bracket side), herase]
    rfl

theorem view_setOpponent (own opponent : QueuedGroup) (queue : BattlegroundQueue) :
    (setOpponent own opponent queue).view = queue.view := by
  unfold setOpponent
  rw [view_modifyGroup]
  · have hsame : queue.view.faction own.id =
        (queue.groups.get? own.id).map fun row => row.info.team.index := rfl
    rw [← hsame, Function.update_eq_self]
  · exact fun info => rfl

/-- A team that waits for a rated match: a live group of one of the premade lists. -/
structure Waits (queue : BattlegroundQueue) (bracket : Bracket) (ginfo : QueuedGroup) : Prop where
  row : queue.groups.get? ginfo.id = some ginfo
  listed : ∃ index, ginfo.id ∈ queue.queuedGroups ⟨bracket, .premade index⟩

/-- For a team of a faction to change its side is to change its lists. -/
def Factional (ginfo : QueuedGroup) (side : TeamIndex) : Prop :=
  ginfo.info.team = side.team ↔ ginfo.info.team.index = side

theorem factional_horde (ginfo : QueuedGroup) : Factional ginfo .horde := by
  unfold Factional
  cases ginfo.info.team <;> simp [Team.index, TeamIndex.team]

theorem factional_alliance (hteam : ginfo.info.team ≠ .pandarenNeutral) :
    Factional ginfo .alliance := by
  unfold Factional
  cases hcase : ginfo.info.team with
  | alliance | horde => simp [Team.index, TeamIndex.team]
  | pandarenNeutral => exact absurd hcase hteam

theorem enter_shift_eq_seat {view : View} (bracket : Bracket) {side : TeamIndex}
    (hfaction : view.faction ginfo.id = some ginfo.info.team.index)
    (hfactional : Factional ginfo side) :
    (shift bracket ginfo side view).enter ginfo.id side = view.seat bracket ginfo.id side := by
  unfold View.seat shift
  by_cases hteam : ginfo.info.team = side.team
  · have hside : view.faction ginfo.id = some side := by rw [hfaction, hfactional.mp hteam]
    rw [if_pos hteam, if_pos hside, View.enter_of_faction hside]
  · have hside : view.faction ginfo.id ≠ some side := by
      rw [hfaction]
      exact fun heq => hteam (hfactional.mpr (Option.some.inj heq))
    rw [if_neg hteam, if_neg hside, View.transfer, teamIndex_premade]

theorem Waits.faction (hwaits : queue.Waits bracket ginfo) :
    queue.view.faction ginfo.id = some ginfo.info.team.index :=
  view_faction_eq_some hwaits.row

variable (hqueue : queue.view.Structured)

include hqueue in
theorem view_startRated (hwithout : ErasesOnce without) (ha : queue.Waits bracket aTeam)
    (hh : queue.Waits bracket hTeam) (hne : hTeam.id ≠ aTeam.id)
    (hfactional : Factional aTeam .alliance) :
    (queue.startRated world bracket without aTeam hTeam instanceId).view =
      (queue.view.seat bracket aTeam.id .alliance).seat bracket hTeam.id .horde := by
  obtain ⟨index, hlisted⟩ := ha.listed
  have hfirst := enter_shift_eq_seat bracket ha.faction hfactional
  have hseated := hqueue.seat hlisted .alliance
  rw [← hfirst] at hseated ⊢
  have hother : ((shift bracket aTeam .alliance queue.view).enter aTeam.id .alliance).faction
      hTeam.id = some hTeam.info.team.index := by
    simp [View.enter, Function.update_of_ne hne, hh.faction]
  rw [← enter_shift_eq_seat bracket hother (factional_horde hTeam), ← enter_shift]
  have hlive : ∀ {ginfo : QueuedGroup}, queue.Waits bracket ginfo →
      queue.view.faction ginfo.id ≠ none := by
    intro ginfo hwaits
    rw [hwaits.faction]
    exact Option.some_ne_none _
  have hopened : (setOpponent hTeam aTeam (setOpponent aTeam hTeam queue)).view =
      queue.view := by rw [view_setOpponent, view_setOpponent]
  unfold startRated
  dsimp only
  generalize setOpponent hTeam aTeam (setOpponent aTeam hTeam queue) = opened at hopened
  -- each move is made in lists without repetitions
  have hmoved : (moveRated bracket without aTeam .alliance opened).view =
      shift bracket aTeam .alliance queue.view := by
    rw [view_moveRated hwithout aTeam (by rw [hopened]; exact hqueue.nodup_lists _), hopened]
  generalize moveRated bracket without aTeam .alliance opened = moved at hmoved
  have hboth : (moveRated bracket without hTeam .horde moved).view =
      shift bracket hTeam .horde (shift bracket aTeam .alliance queue.view) := by
    rw [view_moveRated hwithout hTeam (by rw [hmoved]; exact hseated.nodup_lists _), hmoved]
  rw [view_inviteGroupToBG, view_inviteGroupToBG, hboth]
  · rfl
  · rw [hboth, faction_shift, faction_shift]
    exact hlive ha
  · rw [view_inviteGroupToBG, hboth]
    · simpa [View.enter, Function.update_of_ne hne] using hlive hh
    · rw [hboth, faction_shift, faction_shift]
      exact hlive ha

include hqueue in
theorem structured_startRated (hwithout : ErasesOnce without) (ha : queue.Waits bracket aTeam)
    (hh : queue.Waits bracket hTeam) (hne : hTeam.id ≠ aTeam.id)
    (hfactional : Factional aTeam .alliance) :
    (queue.startRated world bracket without aTeam hTeam instanceId).view.Structured := by
  rw [view_startRated hqueue hwithout ha hh hne hfactional]
  obtain ⟨aIndex, haMem⟩ := ha.listed
  obtain ⟨hIndex, hhMem⟩ := hh.listed
  exact (hqueue.seat haMem .alliance).seat (View.Structured.mem_seat hhMem hne) .horde

/-! ## The choice of two teams -/

variable {first : QueuedGroup}

theorem waits_of_mem_listed (index : TeamIndex) {row : QueuedGroup}
    (hrow : row ∈ queue.listed ⟨bracket, .premade index⟩) : queue.Waits bracket row :=
  ⟨(mem_listed hrow).2, index, (mem_listed hrow).1⟩

theorem waits_of_mem_ratedGroups {row : QueuedGroup} (hrow : row ∈ queue.ratedGroups bracket) :
    queue.Waits bracket row := by
  rcases List.mem_append.mp hrow with hrow | hrow
  · exact waits_of_mem_listed .alliance hrow
  · exact waits_of_mem_listed .horde hrow

theorem selectArenaTeams_eq_some
    (hselect : queue.selectArenaTeams world bracket = some (aTeam, hTeam)) :
    queue.Waits bracket aTeam ∧ queue.Waits bracket hTeam ∧ hTeam.id ≠ aTeam.id := by
  obtain ⟨selected, hselected, hopponent⟩ := List.exists_of_findSome?_eq_some hselect
  split at hopponent
  · exact absurd hopponent nofun
  · obtain ⟨opponent, hfind, hpair⟩ := Option.map_eq_some_iff.mp hopponent
    obtain ⟨rfl, rfl⟩ := Prod.mk.inj hpair
    refine ⟨waits_of_mem_ratedGroups hselected,
      waits_of_mem_ratedGroups (List.mem_of_find?_eq_some hfind), ?_⟩
    have hfits := List.find?_some hfind
    simp only [isOpponent, Bool.and_eq_true, decide_eq_true_eq] at hfits
    exact fun heq => hfits.1.2 heq.symm

theorem secondOfList_eq_some {rating : UInt32} {groups : List QueuedGroup}
    (hselect : secondOfList world rating groups first = some (aTeam, hTeam)) :
    aTeam = first ∧ hTeam ∈ groups ∧ hTeam ≠ first := by
  obtain ⟨second, hfind, hpair⟩ := Option.map_eq_some_iff.mp hselect
  obtain ⟨rfl, rfl⟩ := Prod.mk.inj hpair
  refine ⟨rfl, (List.dropWhile_sublist _).mem (List.mem_of_find?_eq_some hfind), ?_⟩
  have hgroup := List.find?_some hfind
  simp only [Bool.and_eq_true, decide_eq_true_eq] at hgroup
  exact fun heq => hgroup.2 (heq ▸ rfl)

theorem Waits.id_ne {second : QueuedGroup} (hfirst : queue.Waits bracket first)
    (hsecond : queue.Waits bracket second) (hne : second ≠ first) : second.id ≠ first.id := by
  intro heq
  have hrow := hsecond.row
  rw [heq, hfirst.row] at hrow
  exact hne (Option.some.inj hrow).symm

include hqueue in
theorem selectRatedBGTeams_eq_some {rating : UInt32}
    (hselect : queue.selectRatedBGTeams world bracket rating = some (aTeam, hTeam)) :
    queue.Waits bracket aTeam ∧ queue.Waits bracket hTeam ∧ hTeam.id ≠ aTeam.id := by
  -- two groups of one list
  have hsame : ∀ (index : TeamIndex) {first : QueuedGroup},
      first ∈ queue.listed ⟨bracket, .premade index⟩ →
      secondOfList world rating (queue.listed ⟨bracket, .premade index⟩) first =
        some (aTeam, hTeam) →
      queue.Waits bracket aTeam ∧ queue.Waits bracket hTeam ∧ hTeam.id ≠ aTeam.id := by
    intro index first hfirst hsecond
    obtain ⟨rfl, hmem, hne⟩ := secondOfList_eq_some hsecond
    have hwaits := waits_of_mem_listed index hfirst
    have hother := waits_of_mem_listed index hmem
    exact ⟨hwaits, hother, hwaits.id_ne hother hne⟩
  unfold selectRatedBGTeams at hselect
  dsimp only at hselect
  split at hselect
  · exact absurd hselect nofun
  next first second hfirst hsecond =>
    obtain ⟨rfl, rfl⟩ := Prod.mk.inj (Option.some.inj hselect)
    have ha := mem_listed (List.mem_of_find?_eq_some hfirst)
    have hh := mem_listed (List.mem_of_find?_eq_some hsecond)
    refine ⟨⟨ha.2, .alliance, ha.1⟩, ⟨hh.2, .horde, hh.1⟩, ?_⟩
    intro heq
    have hfaction := hqueue.faction_of_mem ha.1
    rw [← heq, hqueue.faction_of_mem hh.1] at hfaction
    exact absurd hfaction nofun
  next first hfirst _ =>
    exact hsame .alliance (List.mem_of_find?_eq_some hfirst) hselect
  next first _ hfirst =>
    exact hsame .horde (List.mem_of_find?_eq_some hfirst) hselect

/-! ## Teams without a faction -/

variable {update : Update}

def teamOf (queue : BattlegroundQueue) (id : Nat) : Option Team :=
  (queue.groups.get? id).map fun row => row.info.team

/-- Nobody in the alliance's rated list of a bracket has yet to choose a faction. -/
def FactionsChosen (queue : BattlegroundQueue) (bracket : Bracket) : Prop :=
  ∀ id ∈ queue.queuedGroups ⟨bracket, .premadeAlliance⟩,
    queue.teamOf id ≠ some .pandarenNeutral

instance (bracket : Bracket) : Decidable (queue.FactionsChosen bracket) :=
  decidable_of_iff ((queue.queuedGroups ⟨bracket, .premadeAlliance⟩).all fun id =>
    decide (queue.teamOf id ≠ some .pandarenNeutral)) (by simp [FactionsChosen])

theorem teamOf_inviteOnOwnSide (now instanceId : UInt32) (queue : BattlegroundQueue)
    (ginfo : QueuedGroup) (id : Nat) :
    (inviteOnOwnSide now instanceId queue ginfo).teamOf id = queue.teamOf id := by
  unfold inviteOnOwnSide
  split
  · rfl
  next row hrow =>
    have hid : row.id = ginfo.id := (Table.get?_eq_some_iff.mp hrow).2
    simp only [teamOf, inviteGroupToBG, modifyGroup, Table.get?_modify, hid]
    split
    next heq =>
      subst heq
      rw [hrow, Option.map_some, Option.map_some, Option.map_some]
      split <;> rfl
    · rfl

theorem teamOf_inviteSelected (queue : BattlegroundQueue) (now instanceId : UInt32)
    (pools : SelectionPools) (id : Nat) :
    (queue.inviteSelected now instanceId pools).teamOf id = queue.teamOf id := by
  unfold inviteSelected
  generalize pools.alliance.selectedGroups ++ pools.horde.selectedGroups = selected
  induction selected generalizing queue with
  | nil => rfl
  | cons ginfo rest ih => rw [List.foldl_cons, ih, teamOf_inviteOnOwnSide]

theorem teamOf_foldl_fillRunning (world : World) (update : Update) (queue : BattlegroundQueue)
    (running : List RunningBattleground) (id : Nat) :
    (running.foldl (fillRunning world update) queue).teamOf id = queue.teamOf id := by
  induction running generalizing queue with
  | nil => rfl
  | cons bg rest ih =>
    rw [List.foldl_cons, ih, fillRunning]
    split
    · exact teamOf_inviteSelected queue _ _ _ id
    · rfl

theorem FactionsChosen.fillRunning (hchosen : queue.FactionsChosen bracket) (world : World)
    (update : Update) (running : List RunningBattleground) :
    (running.foldl (fillRunning world update) queue).FactionsChosen bracket := by
  have hlists : (running.foldl (BattlegroundQueue.fillRunning world update) queue).queuedGroups =
      queue.queuedGroups := congrArg View.lists (view_foldl_fillRunning world update queue running)
  unfold FactionsChosen
  rw [hlists]
  intro id hid
  rw [teamOf_foldl_fillRunning]
  exact hchosen id hid

include hqueue in
/-- A waiting team is of a faction: in the horde's list it can only be one of the horde. -/
theorem Waits.factional_alliance (hwaits : queue.Waits bracket ginfo)
    (hchosen : queue.FactionsChosen bracket) : Factional ginfo .alliance := by
  apply BattlegroundQueue.factional_alliance
  intro hneutral
  obtain ⟨index, hmem⟩ := hwaits.listed
  cases index with
  | alliance =>
    apply hchosen ginfo.id hmem
    rw [teamOf, hwaits.row, Option.map_some, hneutral]
  | horde =>
    have hfaction := hwaits.faction
    rw [hqueue.faction_of_mem hmem, hneutral] at hfaction
    exact absurd hfaction nofun

include hqueue in
theorem structured_ratedArena (hchosen : world.newInstance ≠ none → queue.FactionsChosen bracket) :
    (queue.ratedArena world bracket).view.Structured := by
  unfold ratedArena
  split
  next aTeam hTeam instanceId hselect hinstance =>
    obtain ⟨ha, hh, hne⟩ := selectArenaTeams_eq_some hselect
    have hfactions := hchosen (by rw [hinstance]; exact nofun)
    exact structured_startRated hqueue erasesOnce_removeAll ha hh hne
      (ha.factional_alliance hqueue hfactions)
  · exact hqueue

include hqueue in
theorem structured_ratedBattleground
    (hchosen : world.newInstance ≠ none → queue.FactionsChosen update.bracket) :
    (queue.ratedBattleground world update).view.Structured := by
  unfold ratedBattleground
  split
  · exact hqueue
  · split
    next aTeam hTeam instanceId hselect hinstance =>
      obtain ⟨ha, hh, hne⟩ := selectRatedBGTeams_eq_some hqueue hselect
      have hfactions := hchosen (by rw [hinstance]; exact nofun)
      exact structured_startRated hqueue erasesOnce_eraseAt ha hh hne
        (ha.factional_alliance hqueue hfactions)
    · exact hqueue

/-! ## The whole update -/

def pairsRated (world : World) (update : Update) : Bool :=
  world.hasBracketEntry && world.newInstance.isSome &&
    match world.template with
    | none => false
    | some template => update.isRated && template.isArena || template.isRatedBG

include hqueue in
theorem structured_premadeStage (world : World) (template : Template) (bracket : Bracket)
    (minPlayers maxPlayers : Nat) :
    (queue.premadeStage world template bracket minPlayers maxPlayers).1.view.Structured := by
  have hcheck := structured_checkPremadeMatch world bracket minPlayers maxPlayers hqueue
  unfold premadeStage
  split
  · split
    next after heq => rwa [heq] at hcheck
    next after pools heq =>
      rw [heq] at hcheck
      split
      · exact hcheck
      · rwa [view_inviteSelected]
  · exact hqueue

include hqueue in
theorem structured_normalStage (world : World) (template : Template) (bracket : Bracket)
    (minPlayers maxPlayers : Nat) :
    (queue.normalStage world template bracket minPlayers maxPlayers).view.Structured := by
  unfold normalStage
  dsimp only
  split
  · split
    · exact hqueue
    · rwa [view_inviteSelected]
  · split
    · split
      next after pools heq =>
        have hafter := structured_checkSkirmish hqueue heq
        split
        · exact hafter
        · rwa [view_inviteSelected]
      · exact hqueue
    · exact hqueue

include hqueue in
theorem structured_newMatch {template : Template} (htemplate : world.template = some template)
    (hentry : world.hasBracketEntry = true)
    (hchosen : pairsRated world update = true → queue.FactionsChosen update.bracket) :
    (queue.newMatch world update template).view.Structured := by
  have hpairs : (update.isRated && template.isArena || template.isRatedBG) = true →
      world.newInstance ≠ none → queue.FactionsChosen update.bracket := by
    intro hrated hinstance
    apply hchosen
    rw [pairsRated, hentry, Option.isSome_iff_ne_none.mpr hinstance, htemplate]
    exact hrated
  unfold newMatch
  dsimp only
  generalize playersPerTeam world template update.arenaType = players
  have hpremade := structured_premadeStage hqueue world template update.bracket players.1 players.2
  split
  next after heq => rwa [heq] at hpremade
  next after heq =>
    have hafter := hpremade
    rw [heq] at hafter
    split
    · exact structured_normalStage hafter world template _ _ _
    · -- the premade stage does nothing to a queue whose teams are paired
      have hsame : (template.isArena || template.isRatedBG) = true → after = queue := by
        intro hkind
        unfold premadeStage at heq
        rw [if_neg] at heq
        · exact (Prod.mk.inj heq).1.symm
        · intro hnot
          simp only [Bool.and_eq_true, Bool.not_eq_true'] at hnot
          simp [hnot] at hkind
      split
      next hrated harena =>
        rw [hsame (by simp [harena])]
        apply structured_ratedArena hqueue
        apply hpairs
        cases hcase : update.isRated with
        | true => simp [harena]
        | false => simpa [hcase] using hrated
      · split
        next hratedBG =>
          rw [hsame (by simp [hratedBG])]
          apply structured_ratedBattleground hqueue
          apply hpairs
          simp [hratedBG]
        · exact hafter

include hqueue in
theorem structured_update
    (hchosen : pairsRated world update = true → queue.FactionsChosen update.bracket) :
    (queue.battlegroundQueueUpdate world update).view.Structured := by
  have hfilled := view_foldl_fillRunning world update queue world.freeSlotQueue
  unfold battlegroundQueueUpdate
  split
  · exact hqueue
  · dsimp only
    split
    · rwa [hfilled]
    next template htemplate =>
      split
      next hentry =>
        apply structured_newMatch (hfilled ▸ hqueue) htemplate hentry
        intro hpairs
        exact (hchosen hpairs).fillRunning world update _
      · rwa [hfilled]

/-! ## Runs -/

/-- The structure of a queue in its own terms.  A group is in one list, once, and that list is
one of its faction; its players are those whose entries point to it; and for each of them the
search for the group ends in a list that holds it. -/
structure WellFormed (queue : BattlegroundQueue) : Prop where
  listed_once : ∀ row ∈ queue.groups, ∃ slot, (queue.queuedGroups slot).count row.id = 1 ∧
    (∀ other, other ≠ slot → (queue.queuedGroups other).count row.id = 0) ∧
    slot.type.teamIndex = row.info.team.index
  listed_live : ∀ slot, ∀ id ∈ queue.queuedGroups slot, ∃ row ∈ queue.groups, row.id = id
  players_nonempty : ∀ row ∈ queue.groups, row.info.players ≠ []
  queued_player : ∀ entry ∈ queue.queuedPlayers, ∃ row ∈ queue.groups,
    row.id = entry.groupInfo ∧ entry.guid ∈ row.info.players
  player_queued : ∀ row ∈ queue.groups, ∀ guid ∈ row.info.players,
    ∃ entry ∈ queue.queuedPlayers, entry.guid = guid ∧ entry.groupInfo = row.id
  removal_finds : ∀ entry ∈ queue.queuedPlayers, ∃ row ∈ queue.groups,
    row.id = entry.groupInfo ∧ ∃ slot, queue.findGroup row.id row.info.team.index = some slot ∧
      row.id ∈ queue.queuedGroups slot

include hqueue in
theorem exists_row_of_owner {entry : PlayerQueueInfo} (hentry : entry ∈ queue.queuedPlayers) :
    ∃ row ∈ queue.groups, row.id = entry.groupInfo ∧ entry.guid ∈ row.info.players := by
  have howner : queue.view.owner entry.guid = some entry.groupInfo := by
    have hget : queue.queuedPlayers.get? entry.guid = some entry := Table.get?_key hentry
    simp [view, hget]
  obtain ⟨players, hplayers, hguid⟩ := (hqueue.owner_iff _ _).mp howner
  obtain ⟨row, hrow, rfl⟩ := Option.map_eq_some_iff.mp hplayers
  obtain ⟨hmem, hid⟩ := Table.get?_eq_some_iff.mp hrow
  exact ⟨row, hmem, hid, hguid⟩

include hqueue in
theorem wellFormed_of_structured : queue.WellFormed where
  listed_once := by
    intro row hrow
    have hget : queue.groups.get? row.id = some row := Table.get?_key hrow
    obtain ⟨slot, hmem, hindex⟩ := hqueue.exists_mem_lists (view_faction_eq_some hget)
    obtain ⟨place, hplaces, -⟩ := hqueue.placed
    refine ⟨slot, hplaces.count_eq_one ((hplaces.mem_iff slot row.id).mp hmem), ?_, hindex⟩
    intro other hother
    exact List.count_eq_zero_of_not_mem (hplaces.notMem_of_ne hmem hother)
  listed_live := by
    intro slot id hid
    have hfaction := hqueue.faction_of_mem hid
    obtain ⟨row, hrow, -⟩ := Option.map_eq_some_iff.mp hfaction
    obtain ⟨hmem, hkey⟩ := Table.get?_eq_some_iff.mp hrow
    exact ⟨row, hmem, hkey⟩
  players_nonempty := fun row hrow =>
    hqueue.nonempty row.id _ (view_players_eq_some (Table.get?_key hrow))
  queued_player := fun entry hentry => exists_row_of_owner hqueue hentry
  player_queued := by
    intro row hrow guid hguid
    have hplayers := view_players_eq_some (Table.get?_key hrow)
    have howner := (hqueue.owner_iff guid row.id).mpr ⟨_, hplayers, hguid⟩
    obtain ⟨entry, hentry, hgroup⟩ := Option.map_eq_some_iff.mp howner
    obtain ⟨hmem, hkey⟩ := Table.get?_eq_some_iff.mp hentry
    exact ⟨entry, hmem, hkey, hgroup⟩
  removal_finds := by
    intro entry hentry
    obtain ⟨row, hrow, hid, -⟩ := exists_row_of_owner hqueue hentry
    have hget : queue.groups.get? row.id = some row := Table.get?_key hrow
    exact ⟨row, hrow, hid, exists_findGroup hqueue hget⟩

def Admissible (queue : BattlegroundQueue) : Request → Prop
  | .addGroup joining => queue.NotQueued joining
  | .removePlayer _ => True
  | .battlegroundQueueUpdate _ _ => True

/-- No team of Pandaren without a faction waits in the alliance's list when rated teams are
paired. -/
def PairsFactions (queue : BattlegroundQueue) : Request → Prop
  | .addGroup _ => True
  | .removePlayer _ => True
  | .battlegroundQueueUpdate world update =>
    pairsRated world update = true → queue.FactionsChosen update.bracket

include hqueue in
theorem structured_step {request : Request} (hadmissible : queue.Admissible request)
    (hpairs : queue.PairsFactions request) : (step queue request).view.Structured := by
  cases request with
  | addGroup joining => exact structured_addGroup hqueue hadmissible
  | removePlayer guid => exact structured_removePlayer hqueue guid
  | battlegroundQueueUpdate world update => exact structured_update hqueue hpairs

/-- In every run whose rated pairings are of teams with a faction, every queue that is reached
is well formed. -/
theorem wellFormed_of_pairsFactions (requests : List Request)
    (halong : Along step (fun queue request =>
      queue.Admissible request ∧ queue.PairsFactions request) empty requests) :
    ∀ queue ∈ visited step empty requests, queue.WellFormed := by
  intro queue hqueue
  apply wellFormed_of_structured
  exact invariant_of_along step (fun queue => queue.view.Structured) _
    (fun queue request hstructured hrequest =>
      structured_step hstructured hrequest.1 hrequest.2)
    empty requests structured_empty halong queue hqueue

/-- Two players who queue for a rated arena of two against two. -/
def arenaPair (team : Team) (leader mate : UInt64) (groupId : Nat) : Joining where
  leader := leader
  team := team
  grp := some (groupId, [leader, mate])
  bgTypeId := 6
  bracket := ⟨16, by decide⟩
  arenaType := 2
  isRated := true
  isPremade := false
  arenaRating := 1500
  matchmakerRating := 1500
  disabledBGs := none
  now := 1000
  leader_mem := by
    rintro party ⟨⟩
    exact List.mem_cons_self

def arenaWorld : World where
  now := 2000
  invitationType := 0
  premadeGroupWaitForMatch := 1800000
  maxRatingDifference := 150
  ratingDiscardTimer := 600000
  isTesting := false
  isArenaTesting := false
  freeSlotQueue := []
  template := some ⟨true, false, 2, 2⟩
  hasBracketEntry := true
  premadeInstance := none
  newInstance := some 7

def arenaUpdate : Update := ⟨6, ⟨16, by decide⟩, 2, true, 1500⟩

/-- Two pairs queue and are sent against each other. -/
def arenaRun (first second : Team) : List Request :=
  [.addGroup (arenaPair first 10 11 1), .addGroup (arenaPair second 20 21 2),
    .battlegroundQueueUpdate arenaWorld arenaUpdate]

instance (queue : BattlegroundQueue) (joining : Joining) : Decidable (queue.NotQueued joining) :=
  decidable_of_iff (joining.members.all fun guid => (queue.queuedPlayers.get? guid).isNone)
    (by simp [NotQueued])

/-- Two pairs of the horde: one of them is moved to the alliance's list. -/
theorem wellFormed_hordePairs :
    (Along step (fun queue request => queue.Admissible request ∧ queue.PairsFactions request)
      empty (arenaRun .horde .horde)) ∧
    ∀ queue ∈ visited step empty (arenaRun .horde .horde), queue.WellFormed := by
  have halong : Along step (fun queue request =>
      queue.Admissible request ∧ queue.PairsFactions request) empty
        (arenaRun .horde .horde) := by
    refine ⟨⟨?_, trivial⟩, ⟨?_, trivial⟩, ⟨trivial, fun _ => ?_⟩, trivial⟩
    · change NotQueued _ _
      decide +kernel
    · change NotQueued _ _
      decide +kernel
    · decide +kernel
  exact ⟨halong, wellFormed_of_pairsFactions _ halong⟩

/-- The queue after two pairs of Pandaren without a faction have been paired. -/
def neutralQueue : BattlegroundQueue :=
  (arenaRun .pandarenNeutral .pandarenNeutral).foldl step empty

/-- The first of two pairs of Pandaren without a faction is then in the alliance's list twice. -/
theorem not_wellFormed_neutralPairs :
    Along step Admissible empty (arenaRun .pandarenNeutral .pandarenNeutral) ∧
    ∃ queue ∈ visited step empty (arenaRun .pandarenNeutral .pandarenNeutral),
      ¬ queue.WellFormed := by
  have halong : Along step Admissible empty
      (arenaRun .pandarenNeutral .pandarenNeutral) := by
    refine ⟨?_, ?_, trivial, trivial⟩
    · change NotQueued _ _
      decide +kernel
    · change NotQueued _ _
      decide +kernel
  refine ⟨halong, neutralQueue, by simp [neutralQueue, arenaRun, visited], ?_⟩
  intro hwellFormed
  have htwice : (neutralQueue.queuedGroups
      ⟨⟨16, by decide⟩, .premadeAlliance⟩).count 0 = 2 := by decide +kernel
  have hlive : (neutralQueue.groups.get? 0).isSome = true := by decide +kernel
  obtain ⟨row, hget⟩ := Option.isSome_iff_exists.mp hlive
  obtain ⟨hrow, hid⟩ := Table.get?_eq_some_iff.mp hget
  change row.id = 0 at hid
  obtain ⟨slot, hone, hzero, -⟩ := hwellFormed.listed_once row hrow
  rw [hid] at hone hzero
  by_cases hslot : ⟨⟨16, by decide⟩, .premadeAlliance⟩ = slot
  · rw [← hslot, htwice] at hone
    exact absurd hone (by decide)
  · have hnone := hzero _ hslot
    rw [htwice] at hnone
    exact absurd hnone (by decide)

end BattlegroundQueue

end MopServer.Battlegrounds
