import MopServer.DungeonFinder.GroupRoles

/-! # Queue entries that go together

A list of queue entries is compatible if its players may form a group: the check takes the first
entry away, asks the same of the others, and then looks at all of them.  If they are as many as a
group needs, a proposal is made.
-/

namespace MopServer.DungeonFinder

open MopServer.Foundation

/-- What the check asks of the rest of the server, and its dice. -/
structure Finder extends World where
  /-- The social list of the first has the second, by the low part of his guid, as ignored. -/
  hasIgnore : UInt64 → UInt32 → Bool
  /-- There is a group of this number, and it was formed by the dungeon finder. -/
  isLFGGroup : UInt32 → Bool
  /-- The keys of `GetLockedDungeons`: a dungeon with its type in the high bits. -/
  lockedDungeons : UInt64 → List UInt32
  /-- `IsTest`. -/
  test : Bool
  /-- `urand(0, 1)`, for a player who may become the leader. -/
  coin : UInt64 → Bool
  randomPlayer : (max : Nat) → Fin (max + 1)
  randomDungeon : (max : Nat) → Fin (max + 1)

/-- A row of `pqInfoMap`. -/
structure QueueEntry where
  guid : UInt64
  info : LfgQueueInfo

instance : Keyed QueueEntry UInt64 := ⟨QueueEntry.guid⟩

/-- `pqInfoMap` is in the order of the guids. -/
def entriesByGuid : Rearrangement QueueEntry :=
  ⟨List.insertionSort fun first second => first.guid ≤ second.guid,
    fun rows => List.perm_insertionSort _ rows⟩

/-- What is gathered of the entries. -/
structure Gathered where
  numPlayers : UInt8
  numLfgGroups : Nat
  groupLowGuid : UInt32
  infos : Table QueueEntry

namespace Finder

variable (finder : Finder)

/-- The entry of a group that was formed by the dungeon finder. -/
def isLFGEntry (guid : UInt64) : Bool := isGroup guid && finder.isLFGGroup (guidLoPart guid)

/-- `maxGroupSize`. -/
def maxGroupSize (category : LfgCategory) : Nat :=
  if finder.test then 2
  else
    match category with
    | .raid => 25
    | .scenario => 3
    | _ => 5

/-- One of two players ignores the other. -/
def ignoring (first second : UInt64) : Bool :=
  finder.hasIgnore first (guidLoPart second) || finder.hasIgnore second (guidLoPart first)

def gatherEntry (gathered : Gathered) (guid : UInt64) (info : LfgQueueInfo) : Gathered where
  numPlayers := gathered.numPlayers + UInt8.ofNat info.roles.rows.length
  numLfgGroups := gathered.numLfgGroups + if finder.isLFGEntry guid then 1 else 0
  groupLowGuid :=
    if finder.isLFGEntry guid && gathered.numLfgGroups = 0 then guidLoPart guid
    else gathered.groupLowGuid
  infos := gathered.infos.insert ⟨guid, info⟩ entriesByGuid

/-- The loop over the entries.  It fails with one that is not queued any more, and ends early if
there are too many players or groups. -/
def gather (mgr : LFGMgr) (max : Nat) : List UInt64 → Gathered → Except UInt64 Gathered
  | [], gathered => .ok gathered
  | guid :: rest, gathered =>
    if gathered.numLfgGroups < 2 && gathered.numPlayers.toNat ≤ max then
      match mgr.queueInfoMap guid with
      | none => .error guid
      | some info =>
        if mgr.getState guid ≠ .queued then .error guid
        else gather mgr max rest (finder.gatherEntry gathered guid info)
    else .ok gathered

variable (entries : List QueueEntry)

/-- `rolesMap`. -/
def collectRoles : LfgRolesMap :=
  entries.foldl
    (fun map entry => entry.info.roles.rows.foldl (fun map role => map.insert role byGuid) map)
    Table.empty

/-- The leader, if some player has the flag. -/
def chooseLeader : UInt64 :=
  (entries.flatMap fun entry => entry.info.roles.rows).foldl
    (fun leader role =>
      if role.roles &&& roleLeader ≠ 0 ∧ (leader = 0 ∨ finder.coin role.guid = true) then
        role.guid
      else leader)
    0

/-- `players`: those in the world who ignore none of the others, and are ignored by none. -/
def choosePlayers (players : List UInt64) (roles : List LfgRole) : List UInt64 :=
  roles.foldl
    (fun players role =>
      if (finder.findPlayer role.guid).isNone then players
      else if players.any fun other => finder.ignoring role.guid other then players
      else players ++ [role.guid])
    players

def commonDungeons (category : LfgCategory) : List QueueEntry → List UInt32
  | [] => []
  | first :: rest =>
    first.info.dungeons.filter fun dungeon =>
      first.info.category = category ∧ ∀ other ∈ rest, dungeon ∈ other.info.dungeons

/-- `GetCompatibleDungeons`. -/
def getCompatibleDungeons (dungeons : List UInt32) (players : List UInt64) : List UInt32 :=
  players.foldl
    (fun dungeons guid =>
      (finder.lockedDungeons guid).foldl
        (fun dungeons key => dungeons.filter fun dungeon => dungeon ≠ key &&& 0x00FFFFFF) dungeons)
    dungeons

variable (assigned : List LfgRole)

/-- The role of a player in the map that the check of the roles has left. -/
def roleOf (guid : UInt64) : UInt8 :=
  ((assigned.find? fun role => role.guid = guid).map LfgRole.roles).getD 0

/-- A player of a proposal; those who come from a group of the dungeon finder have agreed. -/
def proposalPlayer (guid : UInt64) : LfgProposalPlayer :=
  match (finder.findPlayer guid).bind Player.group with
  | none => ⟨guid, roleOf assigned guid, .pending, 0⟩
  | some group =>
    ⟨guid, roleOf assigned guid, if group.isLFGGroup then .agree else .pending, group.lowGuid⟩

def formProposal (category : LfgCategory) (check : List UInt64) (gathered : Gathered)
    (players : List UInt64) (assigned : List LfgRole) (dungeon : UInt32) : LfgProposal :=
  let leader := finder.chooseLeader gathered.infos.rows
  let proposalPlayers := players.map (finder.proposalPlayer assigned)
  { dungeonId := dungeon
    state :=
      if proposalPlayers.countP (fun player => player.accept = .agree) =
          finder.maxGroupSize category then
        .success
      else .initiating
    groupLowGuid := gathered.groupLowGuid
    leader :=
      if leader ≠ 0 then leader else players.getD (finder.randomPlayer (players.length - 1)) 0
    queues := check
    players := proposalPlayers }

/-- `CheckCompatibility`, behind the check of all but the first. -/
def checkAll (category : LfgCategory) (check : List UInt64) (mgr : LFGMgr)
    (proposal : Option LfgProposal) : Bool × LFGMgr × Option LfgProposal :=
  let key := LFGMgr.concatenateGuids check
  let max := finder.maxGroupSize category
  match finder.gather mgr max check ⟨0, 0, 0, Table.empty⟩ with
  | .error guid => (false, mgr.removeFromQueue guid, proposal)
  | .ok gathered =>
    if check.length = 1 ∧ gathered.numPlayers.toNat ≠ max then (true, mgr, proposal)
    else if 1 < gathered.numLfgGroups ∨ max < gathered.numPlayers.toNat then
      (false, mgr.setCompatibles key false, proposal)
    else
      let rolesMap := collectRoles gathered.infos.rows
      if rolesMap.rows.length ≠ gathered.numPlayers.toNat then (false, mgr, proposal)
      else
        let players := finder.choosePlayers [] rolesMap.rows
        if players.length ≠ gathered.numPlayers.toNat then
          (false, mgr.setCompatibles key false, proposal)
        else
          match checkGroupRoles (rolesNeeded finder.test category) rolesMap.rows with
          | none => (false, mgr.setCompatibles key false, proposal)
          | some assigned =>
            match finder.getCompatibleDungeons
              (commonDungeons category gathered.infos.rows) players with
            | [] => (false, mgr.setCompatibles key false, proposal)
            | dungeon :: dungeons =>
              let mgr := mgr.setCompatibles key true
              if gathered.numPlayers.toNat ≠ max then (true, mgr, proposal)
              else
                let chosen := (dungeon :: dungeons).get (finder.randomDungeon dungeons.length)
                (true, mgr,
                  some (finder.formProposal category check gathered players assigned chosen))

/-- `CheckCompatibility`. -/
def checkCompatibility (category : LfgCategory) :
    List UInt64 → LFGMgr → Option LfgProposal → Bool × LFGMgr × Option LfgProposal
  | [], mgr, proposal => (false, mgr, proposal)
  | frontGuid :: rest, mgr, proposal =>
    let check := frontGuid :: rest
    if proposal.isSome then (false, mgr, proposal)
    else if finder.maxGroupSize category < check.length then (false, mgr, proposal)
    else if check.length = 1 ∧ isPlayerGuid frontGuid then (true, mgr, proposal)
    else
      match mgr.compatibleMap (LFGMgr.concatenateGuids check) with
      | some answer => (answer, mgr, proposal)
      | none =>
        if 2 < check.length then
          match checkCompatibility category rest mgr proposal with
          | (false, mgr, proposal) =>
            (false, mgr.setCompatibles (LFGMgr.concatenateGuids check) false, proposal)
          | (true, mgr, proposal) => finder.checkAll category check mgr proposal
        else finder.checkAll category check mgr proposal

/-- What is expected of a proposal: enough players and no player twice, at most one group of the
dungeon finder, nobody who is ignored, one role for each player within the bounds, and a dungeon
that every entry has chosen and that is locked for no player. -/
structure Sound (mgr : LFGMgr) (category : LfgCategory) (proposal : LfgProposal) : Prop where
  size : proposal.players.length = finder.maxGroupSize category
  distinct : (proposal.players.map LfgProposalPlayer.guid).Nodup
  members : ∀ guid, guid ∈ proposal.players.map LfgProposalPlayer.guid ↔
    ∃ entry ∈ proposal.queues, ∃ info, mgr.queueInfoMap entry = some info ∧
      guid ∈ info.roles.rows.map LfgRole.guid
  groups : proposal.queues.countP finder.isLFGEntry ≤ 1
  peaceful : ∀ first ∈ proposal.players, ∀ second ∈ proposal.players,
    first.guid ≠ second.guid → finder.ignoring first.guid second.guid = false
  oneRole : ∀ player ∈ proposal.players,
    player.role = roleTank ∨ player.role = roleHealer ∨ player.role = roleDamage
  chosenRole : ∀ player ∈ proposal.players, ∃ entry ∈ proposal.queues, ∃ info,
    mgr.queueInfoMap entry = some info ∧ ∃ chosen ∈ info.roles,
      chosen.guid = player.guid ∧ player.role &&& chosen.roles = player.role
  tanks : proposal.players.countP (fun player => player.role = roleTank) ≤
    (rolesNeeded finder.test category).tank
  healers : proposal.players.countP (fun player => player.role = roleHealer) ≤
    (rolesNeeded finder.test category).healer
  damage : proposal.players.countP (fun player => player.role = roleDamage) ≤
    (rolesNeeded finder.test category).damage
  selected : ∀ entry ∈ proposal.queues, ∃ info, mgr.queueInfoMap entry = some info ∧
    proposal.dungeonId ∈ info.dungeons
  unlocked : ∀ player ∈ proposal.players, ∀ key ∈ finder.lockedDungeons player.guid,
    key &&& 0x00FFFFFF ≠ proposal.dungeonId

section

variable {finder : Finder} {mgr : LFGMgr} {category : LfgCategory}

/-! ## What is gathered -/

/-- The rows of the entries say what the queue infos say. -/
def Agrees (mgr : LFGMgr) (gathered : Gathered) : Prop :=
  ∀ entry ∈ gathered.infos, mgr.queueInfoMap entry.guid = some entry.info

variable (finder) in
theorem mem_gatherEntry {gathered : Gathered} {guid : UInt64} {info : LfgQueueInfo}
    (hagrees : Agrees mgr gathered) (hinfo : mgr.queueInfoMap guid = some info)
    (entry : QueueEntry) :
    entry ∈ (finder.gatherEntry gathered guid info).infos ↔
      entry ∈ gathered.infos ∨ entry = ⟨guid, info⟩ := by
  unfold gatherEntry
  rw [Table.mem_insert]
  constructor
  · rintro (rfl | ⟨hentry, -⟩)
    · exact Or.inr rfl
    · exact Or.inl hentry
  · rintro (hentry | rfl)
    · by_cases hsame : entry.guid = guid
      · have hsameInfo := hagrees entry hentry
        rw [hsame, hinfo, Option.some.injEq] at hsameInfo
        left
        rw [hsameInfo, ← hsame]
      · exact Or.inr ⟨hentry, hsame⟩
    · exact Or.inl rfl

/-- Unless there are too many players or groups, all entries are gathered. -/
theorem gather_spec {max : Nat} {check : List UInt64} {before after : Gathered}
    (hagrees : Agrees mgr before) (hgather : finder.gather mgr max check before = .ok after)
    (hgroups : after.numLfgGroups ≤ 1) (hplayers : after.numPlayers.toNat ≤ max) :
    Agrees mgr after ∧
      after.numLfgGroups = before.numLfgGroups + check.countP finder.isLFGEntry ∧
      (∀ entry, entry ∈ after.infos ↔ entry ∈ before.infos ∨
        entry.guid ∈ check ∧ mgr.queueInfoMap entry.guid = some entry.info) ∧
      ∀ guid ∈ check, (mgr.queueInfoMap guid).isSome = true := by
  induction check generalizing before with
  | nil =>
    cases hgather
    exact ⟨hagrees, rfl, by simp, by simp⟩
  | cons guid rest ih =>
    unfold gather at hgather
    split at hgather
    · split at hgather
      · cases hgather
      next info hinfo =>
        split at hgather
        · cases hgather
        · have hmem := mem_gatherEntry finder hagrees hinfo
          have hnext : Agrees mgr (finder.gatherEntry before guid info) := by
            intro entry hentry
            rcases (hmem entry).mp hentry with hold | rfl
            · exact hagrees entry hold
            · exact hinfo
          obtain ⟨hafter, hcount, hentries, hrest⟩ := ih hnext hgather
          refine ⟨hafter, ?_, fun entry => ?_, ?_⟩
          · rw [hcount, List.countP_cons]
            unfold gatherEntry
            dsimp only
            omega
          · rw [hentries, hmem, List.mem_cons]
            constructor
            · rintro ((hold | rfl) | ⟨hguid, hsame⟩)
              · exact Or.inl hold
              · exact Or.inr ⟨Or.inl rfl, hinfo⟩
              · exact Or.inr ⟨Or.inr hguid, hsame⟩
            · rintro (hold | ⟨rfl | hguid, hsame⟩)
              · exact Or.inl (Or.inl hold)
              · rw [hinfo, Option.some.injEq] at hsame
                exact Or.inl (Or.inr (by rw [hsame]))
              · exact Or.inr ⟨hguid, hsame⟩
          · rw [List.forall_mem_cons]
            exact ⟨by rw [hinfo]; rfl, hrest⟩
    next htoo =>
      cases hgather
      simp only [Bool.and_eq_true, decide_eq_true_eq, not_and] at htoo
      omega

/-! ## The roles of all players -/

variable (roles : List LfgRole)

theorem insertRoles_spec (map : LfgRolesMap) :
    (∀ role ∈ roles.foldl (fun map role => map.insert role byGuid) map,
        role ∈ roles ∨ role ∈ map) ∧
      ∀ guid, (∃ role ∈ roles.foldl (fun map role => map.insert role byGuid) map,
          role.guid = guid) ↔
        (∃ role ∈ roles, role.guid = guid) ∨ ∃ role ∈ map, role.guid = guid := by
  induction roles generalizing map with
  | nil => exact ⟨fun role hrole => Or.inr hrole, by simp⟩
  | cons first rest ih =>
    obtain ⟨hmem, hguids⟩ := ih (map.insert first byGuid)
    rw [List.foldl_cons]
    refine ⟨fun role hrole => ?_, fun guid => ?_⟩
    · rcases hmem role hrole with hrest | hinsert
      · exact Or.inl (List.mem_cons_of_mem first hrest)
      · rcases Table.mem_insert.mp hinsert with rfl | ⟨hold, -⟩
        · exact Or.inl List.mem_cons_self
        · exact Or.inr hold
    · rw [hguids]
      constructor
      · rintro (⟨role, hrole, rfl⟩ | ⟨role, hrole, rfl⟩)
        · exact Or.inl ⟨role, List.mem_cons_of_mem first hrole, rfl⟩
        · rcases Table.mem_insert.mp hrole with rfl | ⟨hold, -⟩
          · exact Or.inl ⟨role, List.mem_cons_self, rfl⟩
          · exact Or.inr ⟨role, hold, rfl⟩
      · rintro (⟨role, hrole, rfl⟩ | ⟨role, hrole, rfl⟩)
        · rcases List.mem_cons.mp hrole with rfl | hrest
          · exact Or.inr ⟨role, Table.mem_insert.mpr (Or.inl rfl), rfl⟩
          · exact Or.inl ⟨role, hrest, rfl⟩
        · by_cases hsame : role.guid = first.guid
          · exact Or.inr ⟨first, Table.mem_insert.mpr (Or.inl rfl), hsame.symm⟩
          · exact Or.inr ⟨role, Table.mem_insert.mpr (Or.inr ⟨hrole, hsame⟩), rfl⟩

theorem collectRoles_spec (entries : List QueueEntry) :
    (∀ role ∈ collectRoles entries, ∃ entry ∈ entries, role ∈ entry.info.roles) ∧
      ∀ guid, (∃ role ∈ collectRoles entries, role.guid = guid) ↔
        ∃ entry ∈ entries, ∃ role ∈ entry.info.roles, role.guid = guid := by
  obtain ⟨hmem, hguids⟩ :=
    insertRoles_spec (entries.flatMap fun entry => entry.info.roles.rows) Table.empty
  rw [List.foldl_flatMap] at hmem hguids
  refine ⟨fun role hrole => ?_, fun guid => (hguids guid).trans ?_⟩
  · exact List.mem_flatMap.mp ((hmem role hrole).resolve_right List.not_mem_nil)
  · constructor
    · rintro (⟨role, hrole, heq⟩ | ⟨role, hrole, -⟩)
      · obtain ⟨entry, hentry, hin⟩ := List.mem_flatMap.mp hrole
        exact ⟨entry, hentry, role, hin, heq⟩
      · exact absurd hrole List.not_mem_nil
    · rintro ⟨entry, hentry, role, hrole, heq⟩
      exact Or.inl ⟨role, List.mem_flatMap.mpr ⟨entry, hentry, hrole⟩, heq⟩

/-! ## Players and dungeons -/

theorem ignoring_comm (first second : UInt64) :
    finder.ignoring first second = finder.ignoring second first := Bool.or_comm _ _

variable (finder) in
/-- Those who are chosen are among the players, in their order, and none ignores another. -/
theorem choosePlayers_spec {players : List UInt64}
    (hpeaceful : players.Pairwise fun first second => finder.ignoring first second = false) :
    ∃ chosen, finder.choosePlayers players roles = players ++ chosen ∧
      chosen.Sublist (roles.map LfgRole.guid) ∧
        (players ++ chosen).Pairwise fun first second => finder.ignoring first second = false := by
  induction roles generalizing players with
  | nil => exact ⟨[], (List.append_nil _).symm, List.Sublist.slnil, by rwa [List.append_nil]⟩
  | cons role rest ih =>
    unfold choosePlayers
    rw [List.foldl_cons]
    split
    · obtain ⟨chosen, hchosen, hsub, hpairs⟩ := ih hpeaceful
      exact ⟨chosen, hchosen, hsub.cons _, hpairs⟩
    · split
      · obtain ⟨chosen, hchosen, hsub, hpairs⟩ := ih hpeaceful
        exact ⟨chosen, hchosen, hsub.cons _, hpairs⟩
      next hquiet =>
        have hadded : (players ++ [role.guid]).Pairwise fun first second =>
            finder.ignoring first second = false := by
          refine List.pairwise_append.mpr ⟨hpeaceful, List.pairwise_singleton _ _, ?_⟩
          intro first hfirst second hsecond
          rw [List.mem_singleton.mp hsecond, ignoring_comm]
          rw [Bool.not_eq_true, List.any_eq_false] at hquiet
          exact Bool.not_eq_true _ ▸ hquiet first hfirst
        obtain ⟨chosen, hchosen, hsub, hpairs⟩ := ih hadded
        rw [List.append_assoc, List.singleton_append] at hchosen hpairs
        exact ⟨role.guid :: chosen, hchosen, hsub.cons_cons _, hpairs⟩

theorem mem_commonDungeons {entries : List QueueEntry} {dungeon : UInt32}
    (hdungeon : dungeon ∈ commonDungeons category entries) :
    ∀ entry ∈ entries, dungeon ∈ entry.info.dungeons := by
  cases entries with
  | nil => cases hdungeon
  | cons first rest =>
    obtain ⟨hfirst, hothers⟩ := List.mem_filter.mp hdungeon
    rw [decide_eq_true_iff] at hothers
    exact List.forall_mem_cons.mpr ⟨hfirst, hothers.2⟩

theorem mem_getCompatibleDungeons {dungeons : List UInt32} {players : List UInt64}
    {dungeon : UInt32} (hdungeon : dungeon ∈ finder.getCompatibleDungeons dungeons players) :
    dungeon ∈ dungeons ∧ ∀ guid ∈ players, ∀ key ∈ finder.lockedDungeons guid,
      key &&& 0x00FFFFFF ≠ dungeon := by
  have hkeys : ∀ (keys dungeons : List UInt32),
      dungeon ∈ keys.foldl (fun dungeons key =>
        dungeons.filter fun dungeon => dungeon ≠ key &&& 0x00FFFFFF) dungeons →
      dungeon ∈ dungeons ∧ ∀ key ∈ keys, key &&& 0x00FFFFFF ≠ dungeon := by
    intro keys
    induction keys with
    | nil => exact fun dungeons hmem => ⟨hmem, by simp⟩
    | cons key rest ih =>
      intro dungeons hmem
      obtain ⟨hfilter, hrest⟩ := ih _ hmem
      obtain ⟨hold, hne⟩ := List.mem_filter.mp hfilter
      rw [decide_eq_true_iff] at hne
      exact ⟨hold, List.forall_mem_cons.mpr ⟨hne.symm, hrest⟩⟩
  unfold getCompatibleDungeons at hdungeon
  induction players generalizing dungeons with
  | nil => exact ⟨hdungeon, by simp⟩
  | cons guid rest ih =>
    rw [List.foldl_cons] at hdungeon
    obtain ⟨hleft, hrest⟩ := ih hdungeon
    obtain ⟨hold, hunlocked⟩ := hkeys _ _ hleft
    exact ⟨hold, List.forall_mem_cons.mpr ⟨hunlocked, hrest⟩⟩

/-! ## The proposal -/

variable {assigned : List LfgRole} (hnodup : (assigned.map LfgRole.guid).Nodup)

include hnodup in
theorem roleOf_of_mem {role : LfgRole} (hrole : role ∈ assigned) :
    roleOf assigned role.guid = role.roles := by
  unfold roleOf
  cases hfind : assigned.find? (fun other => other.guid = role.guid) with
  | none =>
    have habsent := List.find?_eq_none.mp hfind role hrole
    simp at habsent
  | some other =>
    have hguid : other.guid = role.guid := by simpa using List.find?_some hfind
    have hsame : other = role :=
      List.inj_on_of_nodup_map hnodup (List.mem_of_find?_eq_some hfind) hrole hguid
    rw [hsame]
    rfl

theorem proposalPlayer_guid (assigned : List LfgRole) (guid : UInt64) :
    (finder.proposalPlayer assigned guid).guid = guid := by
  unfold proposalPlayer
  split <;> rfl

theorem proposalPlayer_role (assigned : List LfgRole) (guid : UInt64) :
    (finder.proposalPlayer assigned guid).role = roleOf assigned guid := by
  unfold proposalPlayer
  split <;> rfl

variable {before after : List LfgRole}

theorem map_guid_of_narrows (hnarrows : List.Forall₂ LfgRole.Narrows before after) :
    after.map LfgRole.guid = before.map LfgRole.guid := by
  induction hnarrows with
  | nil => rfl
  | cons hhead _ ih => rw [List.map_cons, List.map_cons, hhead.1, ih]

theorem exists_narrows (hnarrows : List.Forall₂ LfgRole.Narrows before after) {role : LfgRole}
    (hrole : role ∈ after) : ∃ chosen ∈ before, chosen.Narrows role := by
  induction hnarrows with
  | nil => cases hrole
  | cons hhead _ ih =>
    rcases List.mem_cons.mp hrole with rfl | hrest
    · exact ⟨_, List.mem_cons_self, hhead⟩
    · obtain ⟨chosen, hchosen, hboth⟩ := ih hrest
      exact ⟨chosen, List.mem_cons_of_mem _ hchosen, hboth⟩

variable (finder) in
include hnodup in
theorem map_proposalPlayer :
    ((assigned.map LfgRole.guid).map (finder.proposalPlayer assigned)).map
        (fun player => (player.guid, player.role)) =
      assigned.map fun role => (role.guid, role.roles) := by
  rw [List.map_map, List.map_map]
  refine List.map_congr_left fun role hrole => ?_
  dsimp only [Function.comp_apply]
  rw [proposalPlayer_guid, proposalPlayer_role, roleOf_of_mem hnodup hrole]

include hnodup in
theorem countP_proposalPlayer (role : UInt8) :
    ((assigned.map LfgRole.guid).map (finder.proposalPlayer assigned)).countP
        (fun player => player.role = role) =
      assigned.countP fun player => player.roles = role := by
  have hpairs := congrArg (List.countP fun pair : UInt64 × UInt8 => pair.2 = role)
    (map_proposalPlayer finder hnodup)
  simp only [List.countP_map] at hpairs ⊢
  exact hpairs

include hnodup in
theorem mem_proposalPlayer {player : LfgProposalPlayer}
    (hplayer : player ∈ (assigned.map LfgRole.guid).map (finder.proposalPlayer assigned)) :
    ∃ role ∈ assigned, role.guid = player.guid ∧ role.roles = player.role := by
  have hpair := List.mem_map_of_mem (f := fun player : LfgProposalPlayer =>
    (player.guid, player.role)) hplayer
  rw [map_proposalPlayer finder hnodup] at hpair
  obtain ⟨role, hrole, heq⟩ := List.mem_map.mp hpair
  exact ⟨role, hrole, congrArg Prod.fst heq, congrArg Prod.snd heq⟩

theorem formProposal_sound {check : List UInt64} {gathered : Gathered} {assigned : List LfgRole}
    {dungeon : UInt32}
    (hgather : finder.gather mgr (finder.maxGroupSize category) check ⟨0, 0, 0, Table.empty⟩ =
      .ok gathered)
    (hgroups : gathered.numLfgGroups ≤ 1)
    (hsize : gathered.numPlayers.toNat = finder.maxGroupSize category)
    (hroles : (collectRoles gathered.infos.rows).rows.length = gathered.numPlayers.toNat)
    (hplayers : (finder.choosePlayers [] (collectRoles gathered.infos.rows).rows).length =
      gathered.numPlayers.toNat)
    (hassigned : checkGroupRoles (rolesNeeded finder.test category)
      (collectRoles gathered.infos.rows).rows = some assigned)
    (hdungeon : dungeon ∈ finder.getCompatibleDungeons
      (commonDungeons category gathered.infos.rows)
      (finder.choosePlayers [] (collectRoles gathered.infos.rows).rows)) :
    finder.Sound mgr category (finder.formProposal category check gathered
      (finder.choosePlayers [] (collectRoles gathered.infos.rows).rows) assigned dungeon) := by
  have hempty : Agrees mgr ⟨0, 0, 0, Table.empty⟩ :=
    fun entry hentry => absurd hentry List.not_mem_nil
  obtain ⟨hagrees, hcount, hentries, hqueued⟩ := gather_spec hempty hgather hgroups hsize.le
  obtain ⟨hrolesMem, hrolesGuids⟩ := collectRoles_spec gathered.infos.rows
  -- all players of the map are chosen
  obtain ⟨chosen, hchosen, hsub, hpeaceful⟩ :=
    choosePlayers_spec finder (collectRoles gathered.infos.rows).rows List.Pairwise.nil
  rw [List.nil_append] at hchosen hpeaceful
  have hall : chosen = (collectRoles gathered.infos.rows).rows.map LfgRole.guid := by
    refine hsub.eq_of_length ?_
    rw [List.length_map, hroles, ← hplayers, hchosen]
  have hlength : (collectRoles gathered.infos.rows).rows.length < 256 :=
    hroles ▸ gathered.numPlayers.toNat_lt
  have hassigns := checkGroupRoles_spec hlength hassigned
  have hguids : assigned.map LfgRole.guid = chosen :=
    (map_guid_of_narrows hassigns.narrows).trans hall.symm
  have hnodup : (assigned.map LfgRole.guid).Nodup := by
    rw [hguids, hall]
    exact (collectRoles gathered.infos.rows).nodup
  obtain ⟨hcommon, hunlocked⟩ := mem_getCompatibleDungeons hdungeon
  have hselected := mem_commonDungeons hcommon
  rw [hchosen, ← hguids] at hunlocked ⊢
  rw [← hguids] at hpeaceful
  have hentryOf : ∀ entry ∈ gathered.infos.rows, entry.guid ∈ check ∧
      mgr.queueInfoMap entry.guid = some entry.info := fun entry hentry =>
    ((hentries entry).mp hentry).resolve_left List.not_mem_nil
  have hentryFor : ∀ guid ∈ check, ∃ info, mgr.queueInfoMap guid = some info ∧
      (⟨guid, info⟩ : QueueEntry) ∈ gathered.infos.rows := by
    intro guid hguid
    obtain ⟨info, hinfo⟩ := Option.isSome_iff_exists.mp (hqueued guid hguid)
    exact ⟨info, hinfo, (hentries ⟨guid, info⟩).mpr (Or.inr ⟨hguid, hinfo⟩)⟩
  have hplayerGuids : ((assigned.map LfgRole.guid).map (finder.proposalPlayer assigned)).map
      LfgProposalPlayer.guid = assigned.map LfgRole.guid := by
    rw [List.map_map]
    exact (List.map_congr_left fun guid _ => proposalPlayer_guid assigned guid).trans
      (List.map_id _)
  exact {
    size := by
      show ((assigned.map LfgRole.guid).map (finder.proposalPlayer assigned)).length = _
      rw [List.length_map, ← hsize, ← hplayers, hchosen, hguids]
    distinct := by
      show (((assigned.map LfgRole.guid).map (finder.proposalPlayer assigned)).map
        LfgProposalPlayer.guid).Nodup
      rw [hplayerGuids]
      exact hnodup
    members := by
      intro guid
      show guid ∈ ((assigned.map LfgRole.guid).map (finder.proposalPlayer assigned)).map
        LfgProposalPlayer.guid ↔ _
      rw [hplayerGuids, hguids, hall, List.mem_map]
      refine (hrolesGuids guid).trans ⟨?_, ?_⟩
      · rintro ⟨entry, hentry, role, hrole, rfl⟩
        obtain ⟨hqueue, hinfo⟩ := hentryOf entry hentry
        exact ⟨entry.guid, hqueue, entry.info, hinfo, List.mem_map_of_mem hrole⟩
      · rintro ⟨queue, hqueue, info, hinfo, hguid⟩
        obtain ⟨role, hrole, rfl⟩ := List.mem_map.mp hguid
        obtain ⟨sameInfo, hsame, hentry⟩ := hentryFor queue hqueue
        rw [hinfo, Option.some.injEq] at hsame
        exact ⟨_, hentry, role, hsame ▸ hrole, rfl⟩
    groups := by
      show check.countP finder.isLFGEntry ≤ 1
      omega
    peaceful := by
      intro first hfirst second hsecond hne
      have hsymmetric : Std.Symm fun first second => finder.ignoring first second = false :=
        ⟨fun first second hquiet => (ignoring_comm second first).trans hquiet⟩
      refine hpeaceful.forall ?_ ?_ hne
      · rw [← hplayerGuids]
        exact List.mem_map_of_mem hfirst
      · rw [← hplayerGuids]
        exact List.mem_map_of_mem hsecond
    oneRole := by
      intro player hplayer
      obtain ⟨role, hrole, -, heq⟩ := mem_proposalPlayer hnodup hplayer
      exact heq ▸ hassigns.one role hrole
    chosenRole := by
      intro player hplayer
      obtain ⟨role, hrole, hguid, heq⟩ := mem_proposalPlayer hnodup hplayer
      obtain ⟨chosenRole, hchosenRole, hsameGuid, hnarrow⟩ := exists_narrows hassigns.narrows hrole
      obtain ⟨entry, hentry, hin⟩ := hrolesMem chosenRole hchosenRole
      obtain ⟨hqueue, hinfo⟩ := hentryOf entry hentry
      exact ⟨entry.guid, hqueue, entry.info, hinfo, chosenRole, hin,
        hsameGuid.symm.trans hguid, heq ▸ hnarrow⟩
    tanks := (countP_proposalPlayer hnodup roleTank).trans_le hassigns.tank
    healers := (countP_proposalPlayer hnodup roleHealer).trans_le hassigns.healer
    damage := (countP_proposalPlayer hnodup roleDamage).trans_le hassigns.damage
    selected := by
      intro queue hqueue
      obtain ⟨info, hinfo, hentry⟩ := hentryFor queue hqueue
      exact ⟨info, hinfo, hselected _ hentry⟩
    unlocked := by
      intro player hplayer key hkey
      obtain ⟨guid, hguid, rfl⟩ := List.mem_map.mp hplayer
      rw [proposalPlayer_guid] at hkey
      exact hunlocked guid hguid key hkey }

/-! ## The check -/

/-- The entries have the same infos, and are in the same states. -/
structure SameEntries (before after : LFGMgr) : Prop where
  infos : after.queueInfoMap = before.queueInfoMap
  players : after.players = before.players
  groups : after.groups = before.groups

theorem Sound.of_infos {other : LFGMgr} {proposal : LfgProposal}
    (hsame : other.queueInfoMap = mgr.queueInfoMap)
    (hsound : finder.Sound other category proposal) : finder.Sound mgr category proposal := by
  exact {
    hsound with
    members := hsame ▸ hsound.members
    chosenRole := hsame ▸ hsound.chosenRole
    selected := hsame ▸ hsound.selected }

variable (finder) (category) in
theorem checkAll_spec (check : List UInt64) (mgr : LFGMgr) (proposal : Option LfgProposal) :
    ((finder.checkAll category check mgr proposal).1 = true →
        SameEntries mgr (finder.checkAll category check mgr proposal).2.1) ∧
      ∀ formed, (finder.checkAll category check mgr proposal).2.2 = some formed →
        proposal = some formed ∨ finder.Sound mgr category formed := by
  unfold checkAll
  dsimp only
  cases hgather : finder.gather mgr (finder.maxGroupSize category) check
    ⟨0, 0, 0, Table.empty⟩ with
  | error guid => exact ⟨fun hfalse => (Bool.false_ne_true hfalse).elim, fun _ => Or.inl⟩
  | ok gathered =>
    dsimp only
    split
    · exact ⟨fun _ => ⟨rfl, rfl, rfl⟩, fun _ => Or.inl⟩
    split
    · exact ⟨fun hfalse => (Bool.false_ne_true hfalse).elim, fun _ => Or.inl⟩
    next hroom =>
    split
    · exact ⟨fun hfalse => (Bool.false_ne_true hfalse).elim, fun _ => Or.inl⟩
    next hroles =>
    split
    · exact ⟨fun hfalse => (Bool.false_ne_true hfalse).elim, fun _ => Or.inl⟩
    next hplayers =>
    split
    · exact ⟨fun hfalse => (Bool.false_ne_true hfalse).elim, fun _ => Or.inl⟩
    next assigned hassigned =>
    split
    · exact ⟨fun hfalse => (Bool.false_ne_true hfalse).elim, fun _ => Or.inl⟩
    next dungeon dungeons hdungeons =>
    split
    · exact ⟨fun _ => ⟨rfl, rfl, rfl⟩, fun _ => Or.inl⟩
    next hsize =>
    refine ⟨fun _ => ⟨rfl, rfl, rfl⟩, fun formed hformed => Or.inr ?_⟩
    cases hformed
    refine formProposal_sound hgather (by omega) (not_not.mp hsize) (not_not.mp hroles)
      (not_not.mp hplayers) hassigned ?_
    rw [hdungeons]
    exact List.get_mem _ _

theorem checkCompatibility_spec (check : List UInt64) (mgr : LFGMgr) :
    ((finder.checkCompatibility category check mgr none).1 = true →
        SameEntries mgr (finder.checkCompatibility category check mgr none).2.1) ∧
      ∀ formed, (finder.checkCompatibility category check mgr none).2.2 = some formed →
        finder.Sound mgr category formed := by
  induction check with
  | nil => exact ⟨fun hfalse => (Bool.false_ne_true hfalse).elim, fun _ hnone => nomatch hnone⟩
  | cons frontGuid rest ih =>
    unfold checkCompatibility
    rw [Option.isSome_none, if_neg Bool.false_ne_true]
    split
    · exact ⟨fun hfalse => (Bool.false_ne_true hfalse).elim, fun _ hnone => nomatch hnone⟩
    split
    · exact ⟨fun _ => ⟨rfl, rfl, rfl⟩, fun _ hnone => nomatch hnone⟩
    split
    · exact ⟨fun _ => ⟨rfl, rfl, rfl⟩, fun _ hnone => nomatch hnone⟩
    split
    · -- the others first
      obtain ⟨hsame, hformed⟩ := ih
      generalize finder.checkCompatibility category rest mgr none = result at *
      obtain ⟨answer, after, proposal⟩ := result
      cases answer with
      | false => exact ⟨fun hfalse => (Bool.false_ne_true hfalse).elim, hformed⟩
      | true =>
        obtain ⟨hinfos, hplayers, hgroups⟩ := hsame rfl
        obtain ⟨hsameAll, hformedAll⟩ :=
          checkAll_spec finder category (frontGuid :: rest) after
            proposal
        refine ⟨fun htrue => ?_, fun formed hresult => ?_⟩
        · have hall := hsameAll htrue
          exact ⟨hall.infos.trans hinfos, hall.players.trans hplayers, hall.groups.trans hgroups⟩
        · rcases hformedAll formed hresult with hbefore | hsound
          · exact hformed formed hbefore
          · exact hsound.of_infos hinfos
    · obtain ⟨hsameAll, hformedAll⟩ :=
        checkAll_spec finder category (frontGuid :: rest) mgr none
      exact ⟨hsameAll, fun formed hresult =>
        (hformedAll formed hresult).resolve_left fun hnone => nomatch hnone⟩

/-- Whenever the check makes a proposal, it is sound. -/
theorem checkCompatibility_sound (finder : Finder) (category : LfgCategory) (check : List UInt64)
    (mgr : LFGMgr) (proposal : LfgProposal)
    (hformed : (finder.checkCompatibility category check mgr none).2.2 = some proposal) :
    finder.Sound mgr category proposal :=
  (checkCompatibility_spec check mgr).2 proposal hformed

end

end Finder

def testFinder : Finder where
  findPlayer := fun _ => some ⟨67, none⟩
  twoSide := false
  hasIgnore := fun _ _ => false
  isLFGGroup := fun _ => false
  lockedDungeons := fun _ => []
  test := true
  coin := fun _ => true
  randomPlayer := fun max => ⟨0, Nat.succ_pos max⟩
  randomDungeon := fun max => ⟨0, Nat.succ_pos max⟩

def queuedMgr : LFGMgr where
  queueInfoMap := fun guid =>
    some ⟨[5], ⟨[⟨guid, roleDamage⟩], nodup_damage guid⟩, .dungeon⟩
  currentQueue := fun _ => []
  newToQueue := fun _ => []
  compatibleMap := fun _ => none
  players := fun _ => ⟨.queued, .none⟩
  groups := fun _ => ⟨.none, .none⟩

namespace Finder

theorem checkCompatibility_sound_test :
    ∃ proposal, (testFinder.checkCompatibility .dungeon [1, 2] queuedMgr none).2.2 =
      some proposal ∧ testFinder.Sound queuedMgr .dungeon proposal := by
  obtain ⟨proposal, hformed⟩ := Option.isSome_iff_exists.mp
    (show (testFinder.checkCompatibility .dungeon [1, 2] queuedMgr none).2.2.isSome = true by
      decide +kernel)
  exact ⟨proposal, hformed,
    checkCompatibility_sound testFinder .dungeon [1, 2] queuedMgr proposal hformed⟩

end Finder

end MopServer.DungeonFinder
