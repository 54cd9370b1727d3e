import MopServer.Battlegrounds.QueueUpdate
import MopServer.Battlegrounds.QueueView
import MopServer.Foundation.Run

/-! # The structure of the battleground queue

Each function of the queue does to the view of the queue what one of the operations on views
does, so that the structure is kept by every call.  There is one exception: a team of Pandaren
that have not chosen a faction may be put into the alliance's list a second time when it is
paired for a rated match.
-/

namespace MopServer.Battlegrounds

open Foundation

namespace BattlegroundQueue

variable {queue : BattlegroundQueue}

theorem structured_empty : empty.view.Structured where
  placed := ⟨fun _ => none, ⟨fun _ => List.nodup_nil, fun _ _ => by simp [view, empty]⟩,
    fun _ => rfl⟩
  live := fun _ => ⟨fun _ => rfl, fun _ => rfl⟩
  fresh := fun _ _ => rfl
  nonempty := nofun
  nodup := nofun
  owner_iff := fun _ _ => ⟨nofun, nofun⟩

/-! ## Joining -/

variable {players : List UInt64}

theorem mem_insertPlayer {guid other : UInt64} :
    other ∈ insertPlayer guid players ↔ other = guid ∨ other ∈ players := by
  unfold insertPlayer
  split
  next hmem =>
    constructor
    · exact Or.inr
    · rintro (rfl | hother)
      · exact hmem
      · exact hother
  · exact List.mem_orderedInsert _

theorem nodup_insertPlayer {guid : UInt64} (hnodup : players.Nodup) :
    (insertPlayer guid players).Nodup := by
  unfold insertPlayer
  split
  · exact hnodup
  next hnot =>
    rw [(List.perm_orderedInsert _ guid players).nodup_iff]
    exact List.nodup_cons.mpr ⟨hnot, hnodup⟩

theorem foldl_insertPlayer (members players : List UInt64) (hnodup : players.Nodup) :
    (members.foldl (fun players guid => insertPlayer guid players) players).Nodup ∧
      ∀ guid, guid ∈ members.foldl (fun players guid => insertPlayer guid players) players ↔
        guid ∈ members ∨ guid ∈ players := by
  induction members generalizing players with
  | nil => exact ⟨hnodup, fun guid => by simp⟩
  | cons head rest ih =>
    obtain ⟨hrest, hmem⟩ := ih (insertPlayer head players) (nodup_insertPlayer hnodup)
    refine ⟨hrest, ?_⟩
    intro guid
    rw [List.foldl_cons, hmem, mem_insertPlayer, List.mem_cons]
    tauto

variable (joining : Joining)

theorem Joining.nodup_players : joining.info.players.Nodup :=
  (foldl_insertPlayer joining.members [] List.nodup_nil).1

theorem Joining.mem_players (guid : UInt64) :
    guid ∈ joining.info.players ↔ guid ∈ joining.members := by
  rw [Joining.info, (foldl_insertPlayer joining.members [] List.nodup_nil).2 guid]
  simp

theorem Joining.leader_mem_players : joining.leader ∈ joining.info.players := by
  rw [joining.mem_players]
  unfold Joining.members
  split
  next heq => exact joining.leader_mem _ heq
  · exact List.mem_singleton_self _

theorem Joining.slot_teamIndex : joining.slot.type.teamIndex = joining.team.index := by
  unfold Joining.slot
  split <;> cases joining.team.index <;> rfl

theorem get?_foldl_enqueuePlayer (now : UInt32) (id : Nat) (members : List UInt64)
    (players : Table PlayerQueueInfo) (guid : UInt64) :
    (members.foldl (enqueuePlayer now id) players).get? guid =
      if guid ∈ members then some ⟨guid, now, id⟩ else players.get? guid := by
  induction members generalizing players with
  | nil => simp
  | cons head rest ih =>
    rw [List.foldl_cons, ih, enqueuePlayer, Table.get?_insert]
    rcases eq_or_ne guid head with rfl | hne
    · simp [Keyed.key]
    · simp [Keyed.key, hne]

/-- Joining enlists the group with its players. -/
theorem view_addGroup (queue : BattlegroundQueue) (joining : Joining) :
    (queue.addGroup joining).view =
      queue.view.enlist joining.slot joining.info.players := by
  ext
  · rfl
  next id index =>
    simp only [view, addGroup, View.enlist, Table.get?_insert, Function.update_apply,
      joining.slot_teamIndex, Keyed.key]
    split <;> rfl
  next id players =>
    simp only [view, addGroup, View.enlist, Table.get?_insert, Function.update_apply, Keyed.key]
    split <;> rfl
  next guid id =>
    simp only [view, addGroup, View.enlist, get?_foldl_enqueuePlayer, joining.mem_players]
    split <;> rfl
  · rfl

/-- Nobody who joins is queued already. -/
def NotQueued (queue : BattlegroundQueue) (joining : Joining) : Prop :=
  ∀ guid ∈ joining.members, queue.queuedPlayers.get? guid = none

variable (hqueue : queue.view.Structured)

include hqueue in
/-- A group whose players are not queued keeps the structure. -/
theorem structured_addGroup {joining : Joining} (hnew : queue.NotQueued joining) :
    (queue.addGroup joining).view.Structured := by
  rw [view_addGroup]
  apply hqueue.enlist
  · exact List.ne_nil_of_mem joining.leader_mem_players
  · exact joining.nodup_players
  · intro guid hguid
    simp [view, hnew guid ((joining.mem_players guid).mp hguid)]

/-! ## Leaving -/

variable {row : QueuedGroup} {id : Nat} {index : TeamIndex} {bracket : Bracket} {slot : Slot}
  (hrow : queue.groups.get? id = some row)

include hrow in
theorem view_faction_eq_some : queue.view.faction id = some row.info.team.index := by
  simp [view, hrow]

include hrow in
theorem view_players_eq_some : queue.view.players id = some row.info.players := by
  simp [view, hrow]

theorem mem_brackets (bracket : Bracket) : bracket ∈ brackets :=
  List.mem_reverse.mpr (List.mem_finRange bracket)

/-- What is found in a bracket is in the list. -/
theorem findInBracket_eq_some (hfind : queue.findInBracket id index bracket = some slot) :
    id ∈ queue.queuedGroups slot := by
  unfold findInBracket at hfind
  split at hfind
  next hmem => exact Option.some.inj hfind ▸ hmem
  · split at hfind
    next hmem => exact Option.some.inj hfind ▸ hmem
    · exact absurd hfind nofun

/-- A group in a bracket is found. -/
theorem findInBracket_ne_none (hmem : id ∈ queue.queuedGroups slot) :
    queue.findInBracket id slot.type.teamIndex slot.bracket ≠ none := by
  obtain ⟨bracket, type⟩ := slot
  unfold findInBracket
  cases type <;> simp only [QueueGroupType.teamIndex, QueueGroupType.normal,
    QueueGroupType.premade] at hmem ⊢ <;> simp [hmem]
  · split <;> simp
  · split <;> simp

theorem mem_of_findGroup (hfind : queue.findGroup id index = some slot) :
    id ∈ queue.queuedGroups slot := by
  obtain ⟨bracket, -, hbracket⟩ := List.exists_of_findSome?_eq_some hfind
  exact findInBracket_eq_some hbracket

include hqueue hrow in
/-- The lists of its faction are the only ones a group has to be searched in. -/
theorem exists_findGroup :
    ∃ slot, queue.findGroup id row.info.team.index = some slot ∧
      id ∈ queue.queuedGroups slot := by
  obtain ⟨slot, hmem, hindex⟩ := hqueue.exists_mem_lists (view_faction_eq_some hrow)
  have hfound : queue.findGroup id row.info.team.index ≠ none := by
    intro hnone
    unfold findGroup at hnone
    rw [List.findSome?_eq_none_iff] at hnone
    rw [← hindex] at hnone
    exact findInBracket_ne_none hmem (hnone slot.bracket (mem_brackets slot.bracket))
  obtain ⟨found, heq⟩ := Option.ne_none_iff_exists'.mp hfound
  exact ⟨found, heq, mem_of_findGroup heq⟩

theorem view_dropPlayer (queue : BattlegroundQueue) (id : Nat) (guid : UInt64) :
    (queue.dropPlayer id guid).view = queue.view.withdraw id guid := by
  ext
  · rfl
  next other index =>
    simp only [view, dropPlayer, modifyGroup, View.withdraw, Table.get?_modify]
    split
    next heq => subst heq; simp [Function.comp_def]
    · rfl
  next other players =>
    simp only [view, dropPlayer, modifyGroup, View.withdraw, Table.get?_modify,
      Function.update_apply]
    split
    · simp [Function.comp_def]
    · rfl
  next someone other =>
    simp only [view, dropPlayer, View.withdraw, Table.get?_erase, Function.update_apply]
    split <;> rfl
  · rfl

theorem view_deleteGroup (queue : BattlegroundQueue) (slot : Slot) (id : Nat) :
    (queue.deleteGroup slot id).view = queue.view.dissolve slot id := by
  ext
  · rfl
  next other index =>
    simp only [view, deleteGroup, setList, View.dissolve, Table.get?_erase, Function.update_apply]
    split <;> rfl
  next other players =>
    simp only [view, deleteGroup, setList, View.dissolve, Table.get?_erase, Function.update_apply]
    split <;> rfl
  · rfl
  · rfl

include hqueue in
/-- The structure stays when a player leaves. -/
theorem structured_removeOne (guid : UInt64) : (queue.removeOne guid).1.view.Structured := by
  unfold removeOne
  split
  · exact hqueue
  next entry hentry =>
    split
    · exact hqueue
    next row hrow =>
      split
      · exact hqueue
      next slot hslot =>
        have hid : row.id = entry.groupInfo := (Table.get?_eq_some_iff.mp hrow).2
        have hplayers := view_players_eq_some hrow
        have howner : queue.view.owner guid = some entry.groupInfo := by
          simp [view, hentry]
        obtain ⟨players, hsome, hguid⟩ := (hqueue.owner_iff _ _).mp howner
        rw [hplayers] at hsome
        obtain rfl := Option.some.inj hsome
        rw [hid] at hslot ⊢
        split
        next hlast =>
          rw [view_deleteGroup, view_dropPlayer]
          apply hqueue.dissolve
          · rcases List.erase_eq_nil_iff.mp hlast with hnil | hsingle
            · exact absurd hnil (List.ne_nil_of_mem hguid)
            · rw [hplayers, hsingle]
          · exact mem_of_findGroup hslot
        next next rest hrest =>
          rw [view_dropPlayer]
          apply hqueue.withdraw hplayers hguid
          rw [hrest]
          exact List.cons_ne_nil _ _

theorem structured_removeFrom (depth : Nat) (hqueue : queue.view.Structured) (guid : UInt64) :
    (removeFrom depth queue guid).view.Structured := by
  induction depth generalizing queue guid with
  | zero => exact hqueue
  | succ depth ih =>
    have hone := structured_removeOne hqueue guid
    unfold removeFrom
    split
    next rest heq => rwa [heq] at hone
    next rest next heq =>
      rw [heq] at hone
      exact ih hone next

include hqueue in
theorem structured_removePlayer (guid : UInt64) : (queue.removePlayer guid).view.Structured :=
  structured_removeFrom _ hqueue guid

/-! ## Invitations -/

variable {f : GroupQueueInfo → GroupQueueInfo}

/-- A change of a record that keeps its players and the faction of its lists is not seen. -/
theorem view_modifyGroup (queue : BattlegroundQueue) (id : Nat)
    (hplayers : ∀ info, (f info).players = info.players) :
    (queue.modifyGroup id f).view =
      { queue.view with
        faction := Function.update queue.view.faction id
          ((queue.groups.get? id).map fun row => (f row.info).team.index) } := by
  ext
  · rfl
  next other index =>
    simp only [view, modifyGroup, Table.get?_modify, Function.update_apply]
    split
    · simp [Function.comp_def]
    · rfl
  next other players =>
    simp only [view, modifyGroup, Table.get?_modify]
    split
    next heq => subst heq; simp [Function.comp_def, hplayers]
    · rfl
  · rfl
  · rfl

theorem view_modifyGroup_team {team : Team} (hplayers : ∀ info, (f info).players = info.players)
    (hteam : ∀ info, (f info).team = team) (hlive : queue.view.faction id ≠ none) :
    (queue.modifyGroup id f).view = queue.view.enter id team.index := by
  rw [view_modifyGroup queue id hplayers]
  cases hrow : queue.groups.get? id with
  | none => exact absurd (by simp [view, hrow]) hlive
  | some row => simp [View.enter, hteam]

/-- An invitation enters a group on the side it is invited for. -/
theorem view_inviteGroupToBG (now instanceId : UInt32) (side : Team)
    (hlive : queue.view.faction id ≠ none) :
    (queue.inviteGroupToBG id now instanceId side).view = queue.view.enter id side.index := by
  apply view_modifyGroup_team
  · intro info
    split <;> rfl
  · intro info
    split <;> rfl
  · exact hlive

theorem view_inviteOnOwnSide (now instanceId : UInt32) (queue : BattlegroundQueue)
    (ginfo : QueuedGroup) : (inviteOnOwnSide now instanceId queue ginfo).view = queue.view := by
  unfold inviteOnOwnSide
  split
  · rfl
  next row hrow =>
    have hid : row.id = ginfo.id := (Table.get?_eq_some_iff.mp hrow).2
    have hfaction := view_faction_eq_some hrow
    rw [hid, view_inviteGroupToBG, View.enter_of_faction hfaction]
    rw [hfaction]
    exact nofun

/-- An invitation to the side a group is on changes nothing of the structure. -/
theorem view_inviteSelected (queue : BattlegroundQueue) (now instanceId : UInt32)
    (pools : SelectionPools) :
    (queue.inviteSelected now instanceId pools).view = queue.view := by
  unfold inviteSelected
  generalize pools.alliance.selectedGroups ++ pools.horde.selectedGroups = selected
  induction selected generalizing queue with
  | nil => rfl
  | cons ginfo rest ih => rw [List.foldl_cons, ih, view_inviteOnOwnSide]

variable (world : World)

theorem view_fillRunning (update : Update) (queue : BattlegroundQueue) (bg : RunningBattleground) :
    (fillRunning world update queue bg).view = queue.view := by
  unfold fillRunning
  split
  · exact view_inviteSelected queue _ _ _
  · rfl

theorem view_foldl_fillRunning (update : Update) (queue : BattlegroundQueue)
    (running : List RunningBattleground) :
    (running.foldl (fillRunning world update) queue).view = queue.view := by
  induction running generalizing queue with
  | nil => rfl
  | cons bg rest ih => rw [List.foldl_cons, ih, view_fillRunning]

/-! ## Moves between the lists -/

theorem normal_ne_premade (bracket : Bracket) (first second : TeamIndex) :
    (⟨bracket, .normal first⟩ : Slot) ≠ ⟨bracket, .premade second⟩ := by
  cases first <;> cases second <;> simp [QueueGroupType.normal, QueueGroupType.premade]

/-- A premade group that is moved stays on its side. -/
theorem structured_movePremade (bracket : Bracket) (minPlayers : Nat)
    (hqueue : queue.view.Structured) (index : TeamIndex) :
    (movePremade world bracket minPlayers queue index).view.Structured := by
  unfold movePremade
  split
  · exact hqueue
  next id rest hlist =>
    split
    · exact hqueue
    · split
      · have hmem : id ∈ queue.view.lists ⟨bracket, .premade index⟩ := by
          simp [view, hlist]
        have hfaction := hqueue.faction_of_mem hmem
        have hview := hqueue.transfer hmem (normal_ne_premade bracket index index)
        -- both lists belong to the faction of the group
        rw [View.transfer, View.enter_of_faction (by simpa [View.relist] using hfaction)]
          at hview
        convert hview using 1
        simp [view, setList, View.relist, hlist]
      · exact hqueue

theorem structured_checkPremadeMatch (bracket : Bracket) (minPlayers maxPlayers : Nat)
    (hqueue : queue.view.Structured) :
    (queue.checkPremadeMatch world bracket minPlayers maxPlayers).1.view.Structured := by
  unfold checkPremadeMatch
  split
  · exact hqueue
  · exact structured_movePremade world bracket minPlayers
      (structured_movePremade world bracket minPlayers hqueue .alliance) .horde

include hqueue in
theorem listed_map_id (slot : Slot) :
    (queue.listed slot).map QueuedGroup.id = queue.queuedGroups slot := by
  have hlive : ∀ id ∈ queue.queuedGroups slot,
      (queue.groups.get? id).map QueuedGroup.id = some id := by
    intro id hid
    have hfaction : queue.view.faction id ≠ none := by
      rw [hqueue.faction_of_mem hid]
      exact nofun
    cases hrow : queue.groups.get? id with
    | none => exact absurd (by simp [view, hrow]) hfaction
    | some row => rw [Option.map_some, show row.id = id from (Table.get?_eq_some_iff.mp hrow).2]
  unfold listed
  rw [List.map_filterMap]
  generalize queue.queuedGroups slot = ids at hlive
  induction ids with
  | nil => rfl
  | cons id rest ih =>
    have hrest := ih fun other hother => hlive other (List.mem_cons_of_mem id hother)
    have hhead := hlive id List.mem_cons_self
    simp only [List.filterMap_cons, hhead, hrest]

theorem mem_listed (hrow : row ∈ queue.listed slot) :
    row.id ∈ queue.queuedGroups slot ∧ queue.groups.get? row.id = some row := by
  obtain ⟨id, hid, hget⟩ := List.mem_filterMap.mp hrow
  have heq : row.id = id := (Table.get?_eq_some_iff.mp hget).2
  rw [heq]
  exact ⟨hid, hget⟩

/-! ## Skirmishes -/

variable {mark : Nat}

def idsBehind (mark : Nat) (ids : List Nat) : List Nat := (ids.dropWhile (· ≠ mark)).tail

theorem map_id_behind (mark : Nat) (groups : List QueuedGroup) :
    (behind mark groups).map QueuedGroup.id = idsBehind mark (groups.map QueuedGroup.id) := by
  unfold behind idsBehind
  induction groups with
  | nil => rfl
  | cons row rest ih =>
    by_cases hmark : row.id = mark
    · simp [hmark]
    · simpa [hmark] using ih

theorem mem_of_mem_idsBehind {ids : List Nat} (hid : id ∈ idsBehind mark ids) : id ∈ ids :=
  (List.dropWhile_sublist _).mem (List.mem_of_mem_tail hid)

theorem eraseAfter_eq_erase {ids : List Nat} (hnodup : ids.Nodup) (hid : id ∈ idsBehind mark ids) :
    eraseAfter mark id ids = ids.erase id := by
  induction ids with
  | nil => rfl
  | cons head rest ih =>
    obtain ⟨hhead, hrest⟩ := List.nodup_cons.mp hnodup
    unfold eraseAfter
    by_cases hmark : head = mark
    · have hmem : id ∈ rest := by simpa [idsBehind, hmark] using hid
      have hne : head ≠ id := fun heq => hhead (heq ▸ hmem)
      rw [if_pos hmark, List.erase_cons_tail (by simpa using hne)]
    · have hmem : id ∈ idsBehind mark rest := by simpa [idsBehind, hmark] using hid
      have hne : head ≠ id := fun heq => hhead (heq ▸ mem_of_mem_idsBehind hmem)
      rw [if_neg hmark, ih hrest hmem, List.erase_cons_tail (by simpa using hne)]

theorem idsBehind_eraseAfter (mark id : Nat) (ids : List Nat) :
    idsBehind mark (eraseAfter mark id ids) = (idsBehind mark ids).erase id := by
  induction ids with
  | nil => rfl
  | cons head rest ih =>
    unfold eraseAfter
    by_cases hmark : head = mark
    · simp [idsBehind, hmark]
    · rw [if_neg hmark]
      simpa [idsBehind, hmark] using ih

theorem addUntilFull_selectedGroups (desiredCount : Nat) (pool : SelectionPool)
    (groups : List QueuedGroup) :
    ∃ added, added.Sublist groups ∧
      (pool.addUntilFull desiredCount groups).selectedGroups = pool.selectedGroups ++ added := by
  induction groups generalizing pool with
  | nil => exact ⟨[], List.Sublist.slnil, by simp [SelectionPool.addUntilFull]⟩
  | cons ginfo rest ih =>
    unfold SelectionPool.addUntilFull
    split
    · obtain ⟨added, hsub, heq⟩ := ih pool
      exact ⟨added, hsub.cons ginfo, heq⟩
    · unfold SelectionPool.addGroup
      split
      next pool' hadd =>
        split at hadd
        · obtain ⟨added, hsub, heq⟩ := ih pool'
          obtain ⟨rfl, -⟩ := Prod.mk.inj hadd
          exact ⟨ginfo :: added, hsub.cons_cons ginfo, by rw [heq]; simp⟩
        · obtain ⟨added, hsub, heq⟩ := ih pool'
          obtain ⟨rfl, -⟩ := Prod.mk.inj hadd
          exact ⟨added, hsub.cons ginfo, heq⟩
      next pool' hadd =>
        split at hadd
        · exact absurd (Prod.mk.inj hadd).2 nofun
        · obtain ⟨rfl, -⟩ := Prod.mk.inj hadd
          exact ⟨[], List.nil_sublist _, by simp⟩

theorem normal_other_ne (bracket : Bracket) (index : TeamIndex) :
    (⟨bracket, .normal index.other⟩ : Slot) ≠ ⟨bracket, .normal index⟩ := by
  cases index <;> simp [QueueGroupType.normal, TeamIndex.other]

include hqueue in
/-- A group behind the last selected one of its own faction is transferred. -/
theorem view_changeSide {ginfo : QueuedGroup}
    (hbehind : ginfo.id ∈ idsBehind mark (queue.queuedGroups ⟨bracket, .normal index⟩)) :
    (changeSide bracket index mark queue ginfo).view =
      queue.view.transfer ⟨bracket, .normal index⟩ ⟨bracket, .normal index.other⟩ ginfo.id := by
  have hmem : ginfo.id ∈ queue.view.lists ⟨bracket, .normal index⟩ := mem_of_mem_idsBehind hbehind
  have herase : eraseAfter mark ginfo.id (queue.queuedGroups ⟨bracket, .normal index⟩) =
      (queue.queuedGroups ⟨bracket, .normal index⟩).erase ginfo.id :=
    eraseAfter_eq_erase (hqueue.nodup_lists ⟨bracket, .normal index⟩) hbehind
  have hteam : index.other.team.index = index.other := by cases index <;> rfl
  have hmodify : (queue.modifyGroup ginfo.id fun info =>
      { info with team := index.other.team }).view =
        queue.view.enter ginfo.id index.other.team.index := by
    apply view_modifyGroup_team
    · exact fun info => rfl
    · exact fun info => rfl
    · rw [hqueue.faction_of_mem hmem]
      exact nofun
  have hlists : (changeSide bracket index mark queue ginfo).queuedGroups =
      (queue.view.relist ⟨bracket, .normal index⟩ ⟨bracket, .normal index.other⟩
        ginfo.id).lists := by
    simp only [changeSide, setList, modifyGroup, View.relist,
      Function.update_of_ne (normal_other_ne bracket index).symm, herase]
    rfl
  calc (changeSide bracket index mark queue ginfo).view
      = { queue.view.enter ginfo.id index.other.team.index with
          lists := (changeSide bracket index mark queue ginfo).queuedGroups } := by
        rw [← hmodify]
        rfl
    _ = queue.view.transfer ⟨bracket, .normal index⟩ ⟨bracket, .normal index.other⟩
          ginfo.id := by
        rw [hlists, hteam, View.transfer, teamIndex_normal]
        rfl

theorem structured_foldl_changeSide (bracket : Bracket) (index : TeamIndex) (mark : Nat)
    (selected : List QueuedGroup) (hqueue : queue.view.Structured)
    (hsub : (selected.map QueuedGroup.id).Sublist
      (idsBehind mark (queue.queuedGroups ⟨bracket, .normal index⟩))) :
    (selected.foldl (changeSide bracket index mark) queue).view.Structured := by
  induction selected generalizing queue with
  | nil => exact hqueue
  | cons ginfo rest ih =>
    have hbehind : ginfo.id ∈ idsBehind mark
        (queue.queuedGroups ⟨bracket, .normal index⟩) := hsub.mem (by simp)
    apply ih
    · rw [view_changeSide hqueue hbehind]
      exact hqueue.transfer (mem_of_mem_idsBehind hbehind) (normal_other_ne bracket index)
    · have hrest := hsub.erase ginfo.id
      simpa [changeSide, setList, modifyGroup, idsBehind_eraseAfter,
        Function.update_of_ne (normal_other_ne bracket index).symm] using hrest

include hqueue in
theorem structured_checkSkirmish {minPlayers : Nat} {pools : SelectionPools}
    {result : BattlegroundQueue × SelectionPools}
    (hresult : queue.checkSkirmishForSameFaction bracket minPlayers pools = some result) :
    result.1.view.Structured := by
  unfold checkSkirmishForSameFaction at hresult
  dsimp only at hresult
  split at hresult
  · exact absurd hresult nofun
  · split at hresult
    · exact absurd hresult nofun
    next last hlast =>
      split at hresult
      · split at hresult
        · obtain rfl := Option.some.inj hresult
          obtain ⟨added, hsub, hselected⟩ := addUntilFull_selectedGroups minPlayers
            SelectionPool.init (behind last.id
              (queue.listed ⟨bracket, .normal (skirmishIndex pools minPlayers)⟩))
          apply structured_foldl_changeSide _ _ _ _ hqueue
          rw [hselected, ← listed_map_id hqueue, ← map_id_behind]
          exact hsub.map QueuedGroup.id
        · exact absurd hresult nofun
      · exact absurd hresult nofun

end BattlegroundQueue

end MopServer.Battlegrounds
