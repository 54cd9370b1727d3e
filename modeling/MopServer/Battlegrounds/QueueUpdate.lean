import MopServer.Battlegrounds.Queue

/-! # Matches out of the battleground queue

An update fills running battlegrounds and then tries to start one new match.  The groups to
invite are first collected in one selection pool for each faction.
-/

namespace MopServer.Battlegrounds

open Foundation

/-- `SelectionPool`. -/
structure SelectionPool where
  selectedGroups : List QueuedGroup
  playerCount : Nat

namespace SelectionPool

def init : SelectionPool := ⟨[], 0⟩

def admits (info : GroupQueueInfo) (mapId : UInt32) : Bool :=
  mapId == 0 ||
    (match info.disabledBGs with
    | none => mapId != 0xFFFFFFFF
    | some (first, second) => mapId != first && mapId != second)

variable (pool : SelectionPool)

def addGroup (ginfo : QueuedGroup) (desiredCount : Nat) (mapId : UInt32) : SelectionPool × Bool :=
  if admits ginfo.info mapId && !ginfo.info.invited &&
      decide (pool.playerCount + ginfo.info.players.length ≤ desiredCount) then
    (⟨pool.selectedGroups ++ [ginfo], pool.playerCount + ginfo.info.players.length⟩, true)
  else (pool, decide (pool.playerCount < desiredCount))

/-- The position of the last group that differs from a size by at most one player, else of the
last largest one. -/
def groupToKick (size : Nat) : List QueuedGroup → Nat → Nat × Nat → Bool → Nat
  | [], _, best, _ => best.1
  | ginfo :: rest, position, best, found =>
    let players := ginfo.info.players.length
    if ((players : Int) - size).natAbs ≤ 1 then
      groupToKick size rest (position + 1) (position, players) true
    else if !found && decide (best.2 ≤ players) then
      groupToKick size rest (position + 1) (position, players) found
    else groupToKick size rest (position + 1) best found

/-- Returns also whether another group should be offered to the pool. -/
def kickGroup (size : Nat) : SelectionPool × Bool :=
  let first := (pool.selectedGroups.head?.map fun ginfo => ginfo.info.players.length).getD 0
  let position := groupToKick size pool.selectedGroups 0 (0, first) false
  if pool.playerCount = 0 then (pool, true)
  else
    match pool.selectedGroups[position]? with
    | none => (pool, true)
    | some ginfo =>
      (⟨pool.selectedGroups.eraseIdx position,
        pool.playerCount - ginfo.info.players.length⟩,
        decide (size + 1 < ginfo.info.players.length))

/-- Offer groups until the pool takes no more; returns the groups that are left. -/
def fill (desiredCount : Nat) (mapId : UInt32) :
    SelectionPool → List QueuedGroup → SelectionPool × List QueuedGroup
  | pool, [] => (pool, [])
  | pool, ginfo :: rest =>
    match pool.addGroup ginfo desiredCount mapId with
    | (pool', true) => fill desiredCount mapId pool' rest
    | (pool', false) => (pool', ginfo :: rest)

def addUntilFull (desiredCount : Nat) : SelectionPool → List QueuedGroup → SelectionPool
  | pool, [] => pool
  | pool, ginfo :: rest =>
    if ginfo.info.invited then addUntilFull desiredCount pool rest
    else
      match pool.addGroup ginfo desiredCount 0 with
      | (pool', true) => addUntilFull desiredCount pool' rest
      | (pool', false) => pool'

/-- Offer the groups that are not invited until there are enough players; returns also the
groups from the one that made the pool full on. -/
def addUntilEnough (minPlayers maxPlayers : Nat) :
    SelectionPool → List QueuedGroup → SelectionPool × List QueuedGroup
  | pool, [] => (pool, [])
  | pool, ginfo :: rest =>
    if ginfo.info.invited then addUntilEnough minPlayers maxPlayers pool rest
    else
      let pool' := (pool.addGroup ginfo maxPlayers 0).1
      if minPlayers ≤ pool'.playerCount then (pool', ginfo :: rest)
      else addUntilEnough minPlayers maxPlayers pool' rest

end SelectionPool

/-- `m_SelectionPools`. -/
structure SelectionPools where
  alliance : SelectionPool
  horde : SelectionPool

namespace SelectionPools

def init : SelectionPools := ⟨.init, .init⟩

variable (pools : SelectionPools)

def get : TeamIndex → SelectionPool
  | .alliance => pools.alliance
  | .horde => pools.horde

def set (index : TeamIndex) (pool : SelectionPool) : SelectionPools :=
  match index with
  | .alliance => { pools with alliance := pool }
  | .horde => { pools with horde := pool }

end SelectionPools

/-- A battleground of `BGFreeSlotQueue`. -/
structure RunningBattleground where
  isArena : Bool
  typeId : UInt32
  bracket : Bracket
  status : Nat
  isRandom : Bool
  mapId : UInt32
  instanceId : UInt32
  allianceFree : Nat
  hordeFree : Nat
  deriving DecidableEq, Repr

/-- `STATUS_WAIT_QUEUE < status < STATUS_WAIT_LEAVE`, for a battleground of this type and
bracket. -/
def RunningBattleground.accepts (bg : RunningBattleground) (bgTypeId : UInt32)
    (bracket : Bracket) : Bool :=
  !bg.isArena && bg.typeId == bgTypeId && decide (bg.bracket = bracket) &&
    decide (1 < bg.status) && decide (bg.status < 4)

/-- The battleground template of a queue. -/
structure Template where
  isArena : Bool
  isRatedBG : Bool
  minPlayersPerTeam : Nat
  maxPlayersPerTeam : Nat
  deriving DecidableEq, Repr

/-- What an update reads outside of the queue: the clock, the configuration, the running
battlegrounds, the template of the battleground type and its bracket entry, and the instances
that `CreateNewBattleground` returns for a premade and for another match. -/
structure World where
  now : UInt32
  invitationType : UInt32
  premadeGroupWaitForMatch : UInt32
  maxRatingDifference : UInt32
  ratingDiscardTimer : UInt32
  isTesting : Bool
  isArenaTesting : Bool
  freeSlotQueue : List RunningBattleground
  template : Option Template
  hasBracketEntry : Bool
  premadeInstance : Option UInt32
  newInstance : Option UInt32

/-- The arguments of `BattlegroundQueueUpdate`. -/
structure Update where
  bgTypeId : UInt32
  bracket : Bracket
  arenaType : UInt8
  isRated : Bool
  arenaRating : UInt32

/-! ## Filling a running battleground -/

def kickAndFill (size desired : Nat) (mapId : UInt32) (pool : SelectionPool)
    (rest : List QueuedGroup) : SelectionPool × List QueuedGroup :=
  match pool.kickGroup size with
  | (kicked, true) => kicked.fill desired mapId rest
  | (kicked, false) => (kicked, rest)

/-- The side with fewer free places loses a group of the pool, and the other side one when that
pool is empty.  Returns also whether the balancing stops. -/
def kickLarger (free diff diffOther : Int) (mapId : UInt32) (pool other : SelectionPool)
    (rest : List QueuedGroup) : SelectionPool × SelectionPool × List QueuedGroup × Bool :=
  let size := (diffOther - diff).toNat
  let desired := if diffOther ≤ free then (free - diffOther).toNat else 0
  let after := kickAndFill size desired mapId pool rest
  if after.1.playerCount = 0 then
    if free ≤ diffOther + 1 then (after.1, other, after.2, true)
    else (after.1, (other.kickGroup size).1, after.2, false)
  else (after.1, other, after.2, false)

/-- The loop of `FillPlayersToBG` that evens out the two pools. -/
def balance (allianceFree hordeFree : Nat) (mapId : UInt32) :
    Nat → SelectionPools → List QueuedGroup → List QueuedGroup → SelectionPools
  | 0, pools, _, _ => pools
  | rounds + 1, pools, restAlliance, restHorde =>
    let diffAli : Int := allianceFree - pools.alliance.playerCount
    let diffHorde : Int := hordeFree - pools.horde.playerCount
    if 1 < (diffAli - diffHorde).natAbs ∧
        (0 < pools.horde.playerCount ∨ 0 < pools.alliance.playerCount) then
      if diffAli < diffHorde then
        match kickLarger allianceFree diffAli diffHorde mapId pools.alliance pools.horde
            restAlliance with
        | (alliance, horde, _, true) => ⟨alliance, horde⟩
        | (alliance, horde, rest, false) =>
          balance allianceFree hordeFree mapId rounds ⟨alliance, horde⟩ rest restHorde
      else
        match kickLarger hordeFree diffHorde diffAli mapId pools.horde pools.alliance
            restHorde with
        | (horde, alliance, _, true) => ⟨alliance, horde⟩
        | (horde, alliance, rest, false) =>
          balance allianceFree hordeFree mapId rounds ⟨alliance, horde⟩ restAlliance rest
    else pools

namespace BattlegroundQueue

variable (queue : BattlegroundQueue) (world : World)

/-- Every round of the balancing takes a group out of a pool or passes one of a list, so no more
rounds are needed than two for each waiting group. -/
def fillPlayersToBG (bg : RunningBattleground) (bracket : Bracket) : SelectionPools :=
  let mapId := if bg.isRandom then bg.mapId else 0
  let waitingAlliance := queue.listed ⟨bracket, .normalAlliance⟩
  let waitingHorde := queue.listed ⟨bracket, .normalHorde⟩
  let (alliance, restAlliance) := SelectionPool.init.fill bg.allianceFree mapId waitingAlliance
  let (horde, restHorde) := SelectionPool.init.fill bg.hordeFree mapId waitingHorde
  if world.invitationType = 0 then ⟨alliance, horde⟩
  else
    balance bg.allianceFree bg.hordeFree mapId
      (2 * (waitingAlliance.length + waitingHorde.length)) ⟨alliance, horde⟩
      restAlliance restHorde

/-! ## Invitations -/

variable (bracket : Bracket) (id : Nat) (now instanceId : UInt32)

/-- `InviteGroupToBG` with the side given. -/
def inviteGroupToBG (side : Team) : BattlegroundQueue :=
  queue.modifyGroup id fun info =>
    if info.invited then { info with team := side }
    else
      { info with
        team := side
        isInvitedToBGInstanceGUID := instanceId
        removeInviteTime := now + inviteAcceptWaitTime }

/-- `InviteGroupToBG((*citr), bg, (*citr)->Team)`. -/
def inviteOnOwnSide (queue : BattlegroundQueue) (ginfo : QueuedGroup) : BattlegroundQueue :=
  match queue.groups.get? ginfo.id with
  | none => queue
  | some row => queue.inviteGroupToBG row.id now instanceId row.info.team

variable (pools : SelectionPools)

def inviteSelected : BattlegroundQueue :=
  (pools.alliance.selectedGroups ++ pools.horde.selectedGroups).foldl
    (inviteOnOwnSide now instanceId) queue

variable (update : Update)

def fillRunning (queue : BattlegroundQueue) (bg : RunningBattleground) : BattlegroundQueue :=
  if bg.accepts update.bgTypeId update.bracket then
    queue.inviteSelected world.now bg.instanceId
      (queue.fillPlayersToBG world bg update.bracket)
  else queue

/-! ## New matches -/

variable (minPlayers : Nat)

/-- The first premade group of a faction goes to the front of the normal list when it has waited
too long or has become too small. -/
def movePremade (queue : BattlegroundQueue) (index : TeamIndex) : BattlegroundQueue :=
  match queue.queuedGroups ⟨bracket, .premade index⟩ with
  | [] => queue
  | id :: rest =>
    match queue.groups.get? id with
    | none => queue
    | some row =>
      if !row.info.invited &&
          (decide (row.info.joinTime < world.now - world.premadeGroupWaitForMatch) ||
            decide (row.info.players.length < minPlayers)) then
        (queue.setList ⟨bracket, .normal index⟩
          (id :: queue.queuedGroups ⟨bracket, .normal index⟩)).setList
            ⟨bracket, .premade index⟩ rest
      else queue

def premadePools (maxPlayers : Nat) : Option SelectionPools :=
  let waiting (index : TeamIndex) :=
    (queue.listed ⟨bracket, .premade index⟩).find? fun row => !row.info.invited
  match waiting .alliance, waiting .horde with
  | some aliGroup, some hordeGroup =>
    let alliance := (SelectionPool.init.addGroup aliGroup maxPlayers 0).1
    let horde := (SelectionPool.init.addGroup hordeGroup maxPlayers 0).1
    let desired := min alliance.playerCount horde.playerCount
    some ⟨alliance.addUntilFull desired (queue.listed ⟨bracket, .normalAlliance⟩),
      horde.addUntilFull desired (queue.listed ⟨bracket, .normalHorde⟩)⟩
  | _, _ => none

/-- Returns the pools when there is a premade match, else the lists are brought up to date. -/
def checkPremadeMatch (maxPlayers : Nat) : BattlegroundQueue × Option SelectionPools :=
  match queue.premadePools bracket maxPlayers with
  | some pools => (queue, some pools)
  | none =>
    ([TeamIndex.alliance, .horde].foldl (movePremade world bracket minPlayers) queue, none)

variable (template : Template)

def checkNormalMatch (bracket : Bracket) (minPlayers maxPlayers : Nat) : SelectionPools × Bool :=
  let select (index : TeamIndex) :=
    SelectionPool.init.addUntilEnough minPlayers maxPlayers
      (queue.listed ⟨bracket, .normal index⟩)
  let pools : SelectionPools := ⟨(select .alliance).1, (select .horde).1⟩
  let j : TeamIndex :=
    if pools.horde.playerCount < pools.alliance.playerCount then .horde else .alliance
  let even :=
    decide (world.invitationType ≠ 0 ∧ minPlayers ≤ pools.horde.playerCount ∧
      minPlayers ≤ pools.alliance.playerCount)
  let pools :=
    if even then
      pools.set j
        ((pools.get j).addUntilFull (pools.get j.other).playerCount (select j).2.tail)
    else pools
  if even && decide (2 < ((pools.horde.playerCount : Int) - pools.alliance.playerCount).natAbs)
  then (pools, false)
  else if world.isTesting && !template.isArena &&
      (pools.alliance.playerCount != 0 || pools.horde.playerCount != 0) then (pools, true)
  else
    (pools, decide (minPlayers ≤ pools.alliance.playerCount ∧
      minPlayers ≤ pools.horde.playerCount))

/-- Erase the first occurrence of a group behind that of a marked one. -/
def eraseAfter (mark id : Nat) : List Nat → List Nat
  | [] => []
  | head :: rest =>
    if head = mark then head :: rest.erase id else head :: eraseAfter mark id rest

/-- One round of the loop that hands a selected group to the other faction. -/
def changeSide (index : TeamIndex) (mark : Nat) (queue : BattlegroundQueue) (ginfo : QueuedGroup) :
    BattlegroundQueue :=
  let queue := queue.modifyGroup ginfo.id fun info => { info with team := index.other.team }
  let queue :=
    queue.setList ⟨bracket, .normal index.other⟩
      (ginfo.id :: queue.queuedGroups ⟨bracket, .normal index.other⟩)
  queue.setList ⟨bracket, .normal index⟩
    (eraseAfter mark ginfo.id (queue.queuedGroups ⟨bracket, .normal index⟩))

/-- The faction that is split for a skirmish. -/
def skirmishIndex : TeamIndex :=
  if pools.horde.playerCount = minPlayers then .horde else .alliance

def behind (mark : Nat) (groups : List QueuedGroup) : List QueuedGroup :=
  (groups.dropWhile fun row => row.id ≠ mark).tail

/-- `none` when there is no match.  The pool of the split faction keeps its groups, and those
waiting behind its last one make up the other side. -/
def checkSkirmishForSameFaction (pools : SelectionPools) :
    Option (BattlegroundQueue × SelectionPools) :=
  if pools.alliance.playerCount < minPlayers ∧ pools.horde.playerCount < minPlayers then none
  else
    let index := skirmishIndex pools minPlayers
    match (pools.get index).selectedGroups.getLast? with
    -- the source reads the last group of an empty list here, which is not defined
    | none => none
    | some last =>
      let waiting := queue.listed ⟨bracket, .normal index⟩
      if (waiting.map QueuedGroup.id).contains last.id then
        let other := SelectionPool.init.addUntilFull minPlayers (behind last.id waiting)
        if other.playerCount = minPlayers then
          some (other.selectedGroups.foldl (changeSide bracket index last.id) queue,
            pools.set index.other other)
        else none
      else none

/-! ## Rated matches -/

def ratedGroups : List QueuedGroup :=
  queue.listed ⟨bracket, .premadeAlliance⟩ ++ queue.listed ⟨bracket, .premadeHorde⟩

/-- Whether a group is an opponent for the selected team; the accepted rating difference grows
with the minutes the team has waited. -/
def isOpponent (selected check : QueuedGroup) : Bool :=
  let discardTime :=
    if world.ratingDiscardTimer ≤ world.now then world.now - world.ratingDiscardTimer else 0
  let selectedRating := selected.info.arenaMatchmakerRating
  let mmrMaxDiff := (world.now - selected.info.joinTime) / 60000 * 150
  let minRating :=
    if selectedRating ≤ world.maxRatingDifference then 0
    else selectedRating - world.maxRatingDifference
  let maxRating := selectedRating + world.maxRatingDifference
  let minRating :=
    if 0 < mmrMaxDiff then if mmrMaxDiff < minRating then minRating - mmrMaxDiff else 0
    else minRating
  let maxRating := if 0 < mmrMaxDiff then mmrMaxDiff + maxRating else maxRating
  !check.info.invited && decide (selected.id ≠ check.id) &&
    ((decide (minRating ≤ check.info.arenaMatchmakerRating) &&
      decide (check.info.arenaMatchmakerRating ≤ maxRating)) ||
      decide (check.info.joinTime < discardTime))

/-- The first team with an opponent, and its first opponent.  What the source does after that
only schedules another update. -/
def selectArenaTeams : Option (QueuedGroup × QueuedGroup) :=
  (queue.ratedGroups bracket).findSome? fun selected =>
    if selected.info.invited then none
    else ((queue.ratedGroups bracket).find? (isOpponent world selected)).map (selected, ·)

/-- The rating a rated battleground is made for: that of the newest group, or of the group that
has waited longest. -/
def soughtRating : Option UInt32 :=
  if update.arenaRating ≠ 0 then some update.arenaRating
  else
    match (queue.listed ⟨update.bracket, .premadeAlliance⟩).head?,
        (queue.listed ⟨update.bracket, .premadeHorde⟩).head? with
    | none, none => none
    | some front1, none => some front1.info.arenaMatchmakerRating
    | none, some front2 => some front2.info.arenaMatchmakerRating
    | some front1, some front2 =>
      if front1.info.joinTime < front2.info.joinTime then
        some front1.info.arenaMatchmakerRating
      else some front2.info.arenaMatchmakerRating

variable (rating : UInt32)

def fitsRating (row : QueuedGroup) : Bool :=
  let minRating :=
    if rating ≤ world.maxRatingDifference then 0 else rating - world.maxRatingDifference
  !row.info.invited &&
    ((decide (minRating ≤ row.info.arenaMatchmakerRating) &&
      decide (row.info.arenaMatchmakerRating ≤ rating + world.maxRatingDifference)) ||
      decide (row.info.joinTime < world.now - world.ratingDiscardTimer))

/-- Another group of the list the only group that fits was found in. -/
def secondOfList (groups : List QueuedGroup) (first : QueuedGroup) :
    Option (QueuedGroup × QueuedGroup) :=
  ((groups.dropWhile fun row => !fitsRating world rating row).find? fun row =>
    fitsRating world rating row && decide (first.info.group ≠ row.info.group)).map (first, ·)

/-- The first group of each faction that fits, else two groups of one faction. -/
def selectRatedBGTeams : Option (QueuedGroup × QueuedGroup) :=
  let alliance := queue.listed ⟨bracket, .premadeAlliance⟩
  let horde := queue.listed ⟨bracket, .premadeHorde⟩
  match alliance.find? (fitsRating world rating), horde.find? (fitsRating world rating) with
  | none, none => none
  | some first, some second => some (first, second)
  | some first, none => secondOfList world rating alliance first
  | none, some first => secondOfList world rating horde first

def setOpponent (own opponent : QueuedGroup) (queue : BattlegroundQueue) : BattlegroundQueue :=
  queue.modifyGroup own.id fun info =>
    { info with
      opponentsTeamRating := opponent.info.arenaTeamRating
      opponentsMatchmakerRating := opponent.info.arenaMatchmakerRating }

variable (without : Nat → List Nat → List Nat)

/-- A team that plays for the other faction is moved to that faction's list.  `without` is how
the source takes it out of the old one. -/
def moveRated (ginfo : QueuedGroup) (side : TeamIndex) (queue : BattlegroundQueue) :
    BattlegroundQueue :=
  if ginfo.info.team ≠ side.team then
    let queue :=
      queue.setList ⟨bracket, .premade side⟩
        (ginfo.id :: queue.queuedGroups ⟨bracket, .premade side⟩)
    queue.setList ⟨bracket, .premade side.other⟩
      (without ginfo.id (queue.queuedGroups ⟨bracket, .premade side.other⟩))
  else queue

/-- Two teams are sent against each other, the first one for the alliance. -/
def startRated (aTeam hTeam : QueuedGroup) (instanceId : UInt32) : BattlegroundQueue :=
  let queue := setOpponent hTeam aTeam (setOpponent aTeam hTeam queue)
  let queue := moveRated bracket without aTeam .alliance queue
  let queue := moveRated bracket without hTeam .horde queue
  (queue.inviteGroupToBG aTeam.id world.now instanceId .alliance).inviteGroupToBG hTeam.id
    world.now instanceId .horde

/-- `std::list::remove`. -/
def removeAll (groups : List Nat) : List Nat := groups.filter (· ≠ id)

/-- `std::list::erase` at the position of a group; that of another list is not defined. -/
def eraseAt (groups : List Nat) : List Nat := groups.erase id

def ratedArena : BattlegroundQueue :=
  match queue.selectArenaTeams world bracket, world.newInstance with
  | some (aTeam, hTeam), some instanceId =>
    queue.startRated world bracket removeAll aTeam hTeam instanceId
  | _, _ => queue

def ratedBattleground : BattlegroundQueue :=
  match queue.soughtRating update with
  | none => queue
  | some rating =>
    match queue.selectRatedBGTeams world update.bracket rating, world.newInstance with
    | some (aTeam, hTeam), some instanceId =>
      queue.startRated world update.bracket eraseAt aTeam hTeam instanceId
    | _, _ => queue

/-! ## The update -/

/-- The numbers of players a match needs and takes on either side. -/
def playersPerTeam (arenaType : UInt8) : Nat × Nat :=
  if template.isArena then
    if world.isArenaTesting then (1, 1) else (arenaType.toNat, arenaType.toNat)
  else (if world.isTesting then 1 else template.minPlayersPerTeam, template.maxPlayersPerTeam)

/-- A premade match, or the move of premade groups.  Returns also whether the update goes on. -/
def premadeStage (bracket : Bracket) (minPlayers maxPlayers : Nat) : BattlegroundQueue × Bool :=
  if !template.isArena && !template.isRatedBG then
    match queue.checkPremadeMatch world bracket minPlayers maxPlayers with
    | (queue, none) => (queue, true)
    | (queue, some pools) =>
      match world.premadeInstance with
      | none => (queue, false)
      | some instanceId => (queue.inviteSelected world.now instanceId pools, true)
  else (queue, true)

def normalStage (bracket : Bracket) (minPlayers maxPlayers : Nat) : BattlegroundQueue :=
  let start (queue : BattlegroundQueue) (pools : SelectionPools) :=
    match world.newInstance with
    | none => queue
    | some instanceId => queue.inviteSelected world.now instanceId pools
  match queue.checkNormalMatch world template bracket minPlayers maxPlayers with
  | (pools, true) => start queue pools
  | (pools, false) =>
    if template.isArena then
      match queue.checkSkirmishForSameFaction bracket minPlayers pools with
      | some (queue, pools) => start queue pools
      | none => queue
    else queue

def newMatch : BattlegroundQueue :=
  let (minPlayers, maxPlayers) := playersPerTeam world template update.arenaType
  match queue.premadeStage world template update.bracket minPlayers maxPlayers with
  | (queue, false) => queue
  | (queue, true) =>
    if !update.isRated && !template.isRatedBG then
      queue.normalStage world template update.bracket minPlayers maxPlayers
    else if template.isArena then queue.ratedArena world update.bracket
    else if template.isRatedBG then queue.ratedBattleground world update
    else queue

/-- Whether nobody waits in a bracket. -/
def idle : Bool :=
  (queue.queuedGroups ⟨bracket, .premadeAlliance⟩).isEmpty &&
    (queue.queuedGroups ⟨bracket, .premadeHorde⟩).isEmpty &&
    (queue.queuedGroups ⟨bracket, .normalAlliance⟩).isEmpty &&
    (queue.queuedGroups ⟨bracket, .normalHorde⟩).isEmpty

def battlegroundQueueUpdate : BattlegroundQueue :=
  if queue.idle update.bracket then queue
  else
    let queue := world.freeSlotQueue.foldl (fillRunning world update) queue
    match world.template with
    | none => queue
    | some template =>
      if world.hasBracketEntry then queue.newMatch world update template else queue

end BattlegroundQueue

/-- The calls a queue receives. -/
inductive Request where
  | addGroup (joining : BattlegroundQueue.Joining)
  | removePlayer (guid : UInt64)
  | battlegroundQueueUpdate (world : World) (update : Update)

/-- A queue answers one call. -/
def step (queue : BattlegroundQueue) : Request → BattlegroundQueue
  | .addGroup joining => queue.addGroup joining
  | .removePlayer guid => queue.removePlayer guid
  | .battlegroundQueueUpdate world update => queue.battlegroundQueueUpdate world update

end MopServer.Battlegrounds
