import MopServer.Foundation.Run
import MopServer.Foundation.Table

/-! # The login queue

A realm with a player limit lets further players wait.  A place is freed when a session ends or
is replaced by a new one of the same account; the first in the queue then takes it.
-/

namespace MopServer.Sessions

open MopServer.Foundation

/-- A session, told from others by when it arrived. -/
structure WorldSession where
  accountId : UInt32
  arrival : Nat
  inQueue : Bool
  deriving DecidableEq, Repr

instance : Keyed WorldSession UInt32 := ⟨WorldSession.accountId⟩

structure World where
  sessions : Table WorldSession
  queuedPlayer : List Nat
  playerLimit : UInt32
  arrivals : Nat

/-- A connection whose account has been authenticated. -/
structure Connection where
  accountId : UInt32
  isPlayerAccount : Bool
  hasRecentlyDisconnected : Bool
  isPremium : Bool

/-- What `UpdateSessions` takes up.  The old session of an account may still be loading its
player when the next one arrives. -/
inductive SessionEvent where
  | add (connection : Connection) (oldPlayerLoading : Bool)
  | ended (accountId : UInt32)

namespace World

variable (world : World) (arrival : Nat)

/-- `SetInQueue` of a session. -/
def setInQueue (state : Bool) : World :=
  { world with
    sessions := world.sessions.map fun session =>
      { session with inQueue := if session.arrival = arrival then state else session.inQueue } }

/-- A session leaves the queue. -/
def dequeue : World :=
  { world.setInQueue arrival false with queuedPlayer := world.queuedPlayer.erase arrival }

/-- The first in the queue is admitted. -/
def acceptFirst : World :=
  match world.queuedPlayer with
  | [] => world
  | arrival :: _ => world.dequeue arrival

/-- `AddQueuedPlayer`. -/
def addQueuedPlayer : World :=
  { world.setInQueue arrival true with queuedPlayer := world.queuedPlayer ++ [arrival] }

section

-- a number of sessions as it is reported, multiplied by the rate `RATE_ONLINE`
variable (online : Nat → UInt32) (world : World)

/-- `GetActiveAndQueuedSessionCount`. -/
def getActiveAndQueuedSessionCount : UInt32 :=
  online world.sessions.rows.length

/-- `GetActiveSessionCount`. -/
def getActiveSessionCount : UInt32 :=
  online (world.sessions.rows.length - world.queuedPlayer.length)

/-- `RemoveQueuedPlayer`; the answer says whether the session was queued. -/
def removeQueuedPlayer (arrival : Nat) : Bool × World :=
  let found := world.queuedPlayer.contains arrival
  let removed := if found then world.dequeue arrival else world
  let sessions := world.getActiveSessionCount online
  let sessions := if !found && sessions ≠ 0 then sessions - 1 else sessions
  (found, if world.playerLimit = 0 || sessions < world.playerLimit then removed.acceptFirst
    else removed)

variable (accountId : UInt32)

/-- The new session takes the place of the old one of its account. -/
def putSession : World :=
  { world with
    sessions := world.sessions.insert ⟨accountId, world.arrivals, false⟩
      (Rearrangement.keep WorldSession)
    arrivals := world.arrivals + 1 }

variable (connection : Connection)

/-- `AddSession_` once the old session of the account is off the queue. -/
def placeSession (decreaseSession : Bool) : World :=
  let placed := world.putSession connection.accountId
  let sessions := placed.getActiveAndQueuedSessionCount online
  let sessions := if decreaseSession then sessions - 1 else sessions
  if 0 < world.playerLimit && world.playerLimit ≤ sessions && connection.isPlayerAccount &&
      !connection.hasRecentlyDisconnected && !connection.isPremium then
    placed.addQueuedPlayer world.arrivals
  else placed

/-- `AddSession_`.  A session that arrives while the old one is loading is dropped. -/
def addSession (oldPlayerLoading : Bool) : World :=
  match world.sessions.get? connection.accountId with
  | none => world.placeSession online connection true
  | some old =>
    if oldPlayerLoading then world
    else
      let removed := world.removeQueuedPlayer online old.arrival
      removed.2.placeSession online connection (!removed.1)

/-- A session whose `Update` fails is removed from the queue, twice, and deleted. -/
def endSession : World :=
  match world.sessions.get? accountId with
  | none => world
  | some session =>
    let first := (world.removeQueuedPlayer online session.arrival).2
    let second := (first.removeQueuedPlayer online session.arrival).2
    { second with sessions := second.sessions.erase accountId }

def step : SessionEvent → World
  | .add connection oldPlayerLoading => world.addSession online connection oldPlayerLoading
  | .ended accountId => world.endSession online accountId

end

/-- A realm nobody has entered. -/
def start (playerLimit : UInt32) : World := ⟨Table.empty, [], playerLimit, 0⟩

/-- The number of sessions that are not queued. -/
def activeCount : Nat :=
  world.sessions.rows.countP fun session => !session.inQueue

/-- The queue is as it should be. -/
structure Orderly (world : World) : Prop where
  distinct : world.queuedPlayer.Nodup
  flagged : ∀ arrival, arrival ∈ world.queuedPlayer ↔
    ∃ session ∈ world.sessions, session.arrival = arrival ∧ session.inQueue = true
  inOrder : world.queuedPlayer.Pairwise (· < ·)
  limited : world.activeCount ≤ world.playerLimit.toNat
  full : world.queuedPlayer ≠ [] → world.activeCount = world.playerLimit.toNat

/-- Whoever is admitted has waited longest. -/
def AdmitsFirst (online : Nat → UInt32) (world : World) (event : SessionEvent) : Prop :=
  ∀ arrival ∈ world.queuedPlayer,
    (∃ session ∈ (world.step online event).sessions,
      session.arrival = arrival ∧ session.inQueue = false) →
        world.queuedPlayer.head? = some arrival

end World

def SessionEvent.Ordinary : SessionEvent → Prop
  | .add connection _ => connection.isPlayerAccount = true ∧
      connection.hasRecentlyDisconnected = false ∧ connection.isPremium = false
  | .ended _ => True

namespace World

/-- What all operations keep: the queue lists the flagged sessions in order of arrival. -/
structure Consistent (world : World) : Prop where
  inOrder : world.queuedPlayer.Pairwise (· < ·)
  flagged : ∀ arrival, arrival ∈ world.queuedPlayer ↔
    ∃ session ∈ world.sessions, session.arrival = arrival ∧ session.inQueue = true
  arrivals : ∀ first ∈ world.sessions, ∀ second ∈ world.sessions,
    first.arrival = second.arrival → first = second
  fresh : ∀ session ∈ world.sessions, session.arrival < world.arrivals

section

variable {world : World} {arrival : Nat} (hworld : world.Consistent)

include hworld in
theorem Consistent.nodup : world.queuedPlayer.Nodup :=
  hworld.inOrder.imp fun hlt => Nat.ne_of_lt hlt

variable {state : Bool} {session : WorldSession}

theorem mem_setInQueue :
    session ∈ (world.setInQueue arrival state).sessions ↔
      ∃ old ∈ world.sessions, session =
        { old with inQueue := if old.arrival = arrival then state else old.inQueue } := by
  simp only [setInQueue, Table.map, Table.mem_def, List.mem_map]
  simp only [eq_comm]

theorem length_setInQueue (world : World) (arrival : Nat) (state : Bool) :
    (world.setInQueue arrival state).sessions.rows.length = world.sessions.rows.length :=
  List.length_map _

theorem flagged_setInQueue {other : Nat} :
    (∃ session ∈ (world.setInQueue arrival state).sessions,
        session.arrival = other ∧ session.inQueue = true) ↔
      if other = arrival then state = true ∧ ∃ session ∈ world.sessions, session.arrival = other
      else ∃ session ∈ world.sessions, session.arrival = other ∧ session.inQueue = true := by
  simp only [mem_setInQueue]
  constructor
  · rintro ⟨_, ⟨old, hold, rfl⟩, rfl, hflag⟩
    split at hflag
    next heq =>
      rw [if_pos heq]
      exact ⟨hflag, old, hold, rfl⟩
    next hne =>
      rw [if_neg hne]
      exact ⟨old, hold, rfl, hflag⟩
  · intro hother
    split at hother
    next heq =>
      obtain ⟨hstate, old, hold, harrival⟩ := hother
      exact ⟨_, ⟨old, hold, rfl⟩, harrival, by rw [if_pos (harrival.trans heq), hstate]⟩
    next hne =>
      obtain ⟨old, hold, harrival, hflag⟩ := hother
      exact ⟨_, ⟨old, hold, rfl⟩, harrival,
        by rw [if_neg fun heq => hne (harrival.symm.trans heq), hflag]⟩

theorem arrivals_setInQueue (harrivals : ∀ first ∈ world.sessions, ∀ second ∈ world.sessions,
      first.arrival = second.arrival → first = second) :
    ∀ first ∈ (world.setInQueue arrival state).sessions,
      ∀ second ∈ (world.setInQueue arrival state).sessions,
        first.arrival = second.arrival → first = second := by
  intro first hfirst second hsecond heq
  obtain ⟨oldFirst, holdFirst, rfl⟩ := mem_setInQueue.mp hfirst
  obtain ⟨oldSecond, holdSecond, rfl⟩ := mem_setInQueue.mp hsecond
  have hsame : oldFirst = oldSecond := harrivals oldFirst holdFirst oldSecond holdSecond heq
  rw [hsame]

theorem fresh_setInQueue (hfresh : ∀ session ∈ world.sessions, session.arrival < world.arrivals) :
    ∀ session ∈ (world.setInQueue arrival state).sessions, session.arrival < world.arrivals := by
  intro session hsession
  obtain ⟨old, hold, rfl⟩ := mem_setInQueue.mp hsession
  exact hfresh old hold

include hworld in
theorem Consistent.dequeue (arrival : Nat) : (world.dequeue arrival).Consistent where
  inOrder := hworld.inOrder.sublist List.erase_sublist
  flagged other := by
    show other ∈ world.queuedPlayer.erase arrival ↔
      ∃ session ∈ (world.setInQueue arrival false).sessions, _
    rw [flagged_setInQueue, hworld.nodup.mem_erase_iff]
    split
    next heq => simp [heq]
    next hne => rw [← hworld.flagged, and_iff_right hne]
  arrivals := arrivals_setInQueue hworld.arrivals
  fresh := fresh_setInQueue hworld.fresh

include hworld in
theorem Consistent.addQueuedPlayer (hlast : ∀ other ∈ world.queuedPlayer, other < arrival)
    (hsession : ∃ session ∈ world.sessions, session.arrival = arrival) :
    (world.addQueuedPlayer arrival).Consistent where
  inOrder := by
    show (world.queuedPlayer ++ [arrival]).Pairwise (· < ·)
    rw [List.pairwise_append]
    refine ⟨hworld.inOrder, List.pairwise_singleton _ _, fun other hother last hmem => ?_⟩
    rw [List.mem_singleton.mp hmem]
    exact hlast other hother
  flagged other := by
    show other ∈ world.queuedPlayer ++ [arrival] ↔
      ∃ session ∈ (world.setInQueue arrival true).sessions, _
    rw [flagged_setInQueue, List.mem_append, List.mem_singleton]
    split
    next heq =>
      subst heq
      exact iff_of_true (Or.inr rfl) ⟨rfl, hsession⟩
    next hne => rw [← hworld.flagged, or_iff_left hne]
  arrivals := arrivals_setInQueue hworld.arrivals
  fresh := fresh_setInQueue hworld.fresh

variable {accountId : UInt32}

include hworld in
theorem Consistent.erase (hsession : world.sessions.get? accountId = some session)
    (hgone : session.arrival ∉ world.queuedPlayer) :
    ({ world with sessions := world.sessions.erase accountId } : World).Consistent where
  inOrder := hworld.inOrder
  flagged other := by
    rw [hworld.flagged]
    constructor
    · rintro ⟨waiting, hwaiting, harrival, hflag⟩
      refine ⟨waiting, Table.mem_erase.mpr ⟨hwaiting, fun hkey => hgone ?_⟩, harrival, hflag⟩
      have hsame : world.sessions.get? accountId = some waiting :=
        Table.get?_eq_some_iff.mpr ⟨hwaiting, hkey⟩
      rw [hsession, Option.some.injEq] at hsame
      exact (hworld.flagged _).mpr ⟨waiting, hwaiting, by rw [hsame], hflag⟩
    · rintro ⟨waiting, hwaiting, harrival, hflag⟩
      exact ⟨waiting, (Table.mem_erase.mp hwaiting).1, harrival, hflag⟩
  arrivals := fun first hfirst second hsecond =>
    hworld.arrivals first (Table.mem_erase.mp hfirst).1 second (Table.mem_erase.mp hsecond).1
  fresh := fun session hmem => hworld.fresh session (Table.mem_erase.mp hmem).1

include hworld in
theorem Consistent.putSession (hgone : ∀ session, world.sessions.get? accountId = some session →
      session.arrival ∉ world.queuedPlayer) : (world.putSession accountId).Consistent where
  inOrder := hworld.inOrder
  flagged other := by
    show other ∈ world.queuedPlayer ↔ _
    rw [hworld.flagged]
    constructor
    · rintro ⟨waiting, hwaiting, harrival, hflag⟩
      refine ⟨waiting, Table.mem_insert.mpr (Or.inr ⟨hwaiting, fun hkey => ?_⟩), harrival, hflag⟩
      exact hgone waiting (Table.get?_eq_some_iff.mpr ⟨hwaiting, hkey⟩)
        ((hworld.flagged _).mpr ⟨waiting, hwaiting, rfl, hflag⟩)
    · rintro ⟨waiting, hwaiting, harrival, hflag⟩
      rcases Table.mem_insert.mp hwaiting with rfl | ⟨hwaiting, -⟩
      · cases hflag
      · exact ⟨waiting, hwaiting, harrival, hflag⟩
  arrivals := by
    intro first hfirst second hsecond heq
    rcases Table.mem_insert.mp hfirst with rfl | ⟨hfirst, -⟩ <;>
      rcases Table.mem_insert.mp hsecond with rfl | ⟨hsecond, -⟩
    · rfl
    · exact absurd heq (Nat.ne_of_gt (hworld.fresh second hsecond))
    · exact absurd heq (Nat.ne_of_lt (hworld.fresh first hfirst))
    · exact hworld.arrivals first hfirst second hsecond heq
  fresh := by
    intro session hsession
    rcases Table.mem_insert.mp hsession with rfl | ⟨hsession, -⟩
    · exact Nat.lt_succ_self _
    · exact Nat.lt_succ_of_lt (hworld.fresh session hsession)

include hworld in
theorem Consistent.count_eq :
    world.queuedPlayer.length + world.activeCount = world.sessions.rows.length := by
  have hwaiting : ((world.sessions.rows.filter WorldSession.inQueue).map
      WorldSession.arrival).Perm world.queuedPlayer := by
    refine (List.perm_ext_iff_of_nodup ?_ hworld.nodup).mpr fun arrival => ?_
    · refine List.Nodup.map_on (fun first hfirst second hsecond => ?_)
        (world.sessions.nodup.of_map.filter _)
      exact hworld.arrivals first (List.mem_of_mem_filter hfirst) second
        (List.mem_of_mem_filter hsecond)
    · rw [hworld.flagged]
      simp only [List.mem_map, List.mem_filter]
      constructor
      · rintro ⟨session, ⟨hmem, hflag⟩, harrival⟩
        exact ⟨session, hmem, harrival, hflag⟩
      · rintro ⟨session, hmem, harrival, hflag⟩
        exact ⟨session, ⟨hmem, hflag⟩, harrival⟩
  have hlength := hwaiting.length_eq
  rw [List.length_map, ← List.countP_eq_length_filter] at hlength
  unfold activeCount
  rw [← hlength, List.length_eq_countP_add_countP WorldSession.inQueue]
  simp

/-- No place is wasted, and none is given away twice. -/
structure Sound (world : World) : Prop extends world.Consistent where
  limited : world.sessions.rows.length ≤ world.queuedPlayer.length + world.playerLimit.toNat
  full : world.queuedPlayer ≠ [] →
    world.sessions.rows.length = world.queuedPlayer.length + world.playerLimit.toNat

theorem Sound.orderly (hworld : world.Sound) : world.Orderly where
  distinct := hworld.nodup
  flagged := hworld.flagged
  inOrder := hworld.inOrder
  limited := by
    have hcount := hworld.count_eq
    have hlimited := hworld.limited
    omega
  full := fun hqueue => by
    have hcount := hworld.count_eq
    have hfull := hworld.full hqueue
    omega

/-- The world once a session has left the queue or given its place to the first in it. -/
structure Released (world : World) (session : WorldSession) (after : World) : Prop where
  consistent : after.Consistent
  gone : session.arrival ∉ after.queuedPlayer
  found : ∃ kept, after.sessions.get? session.accountId = some kept ∧
    kept.arrival = session.arrival
  origin : ∀ kept ∈ after.sessions, ∃ old ∈ world.sessions,
    old.arrival = kept.arrival ∧ old.accountId = kept.accountId
  size : after.sessions.rows.length = world.sessions.rows.length
  shorter : after.queuedPlayer.length = world.queuedPlayer.length - 1
  sub : ∀ arrival ∈ after.queuedPlayer, arrival ∈ world.queuedPlayer
  kept : ∀ arrival ∈ world.queuedPlayer, arrival ∈ after.queuedPlayer ∨
    arrival = session.arrival ∨ world.queuedPlayer.head? = some arrival
  playerLimit : after.playerLimit = world.playerLimit
  sameArrivals : after.arrivals = world.arrivals

variable (hsession : session ∈ world.sessions)

include hworld hsession in
theorem released_dequeue (hmem : arrival ∈ world.queuedPlayer) (hwho : arrival = session.arrival ∨
      session.arrival ∉ world.queuedPlayer ∧ world.queuedPlayer.head? = some arrival) :
    Released world session (world.dequeue arrival) where
  consistent := hworld.dequeue arrival
  gone := by
    show session.arrival ∉ world.queuedPlayer.erase arrival
    rw [hworld.nodup.mem_erase_iff]
    rintro ⟨hne, hqueued⟩
    rcases hwho with heq | ⟨hactive, -⟩
    · exact hne heq.symm
    · exact hactive hqueued
  found := by
    have hget : world.sessions.get? session.accountId = some session := Table.get?_key hsession
    refine ⟨{ session with
      inQueue := if session.arrival = arrival then false else session.inQueue }, ?_, rfl⟩
    unfold World.dequeue setInQueue
    rw [Table.get?_map, hget, Option.map_some]
  origin kept hkept := by
    obtain ⟨old, hold, rfl⟩ := mem_setInQueue.mp hkept
    exact ⟨old, hold, rfl, rfl⟩
  size := length_setInQueue world arrival false
  shorter := List.length_erase_of_mem hmem
  sub := fun _ hother => List.mem_of_mem_erase hother
  kept other hother := by
    by_cases heq : other = arrival
    · subst heq
      exact Or.inr (hwho.imp_right And.right)
    · exact Or.inl ((List.mem_erase_of_ne heq).mpr hother)
  playerLimit := rfl
  sameArrivals := rfl

include hworld hsession in
theorem released_self (hempty : world.queuedPlayer = []) : Released world session world where
  consistent := hworld
  gone := by
    rw [hempty]
    exact List.not_mem_nil
  found := ⟨session, Table.get?_key hsession, rfl⟩
  origin := fun kept hkept => ⟨kept, hkept, rfl, rfl⟩
  size := rfl
  shorter := by rw [hempty, List.length_nil]
  sub := fun _ hother => hother
  kept := fun _ hother => Or.inl hother
  playerLimit := rfl
  sameArrivals := rfl

variable {online : Nat → UInt32} {bound : Nat} (hexact : ∀ n ≤ bound, (online n).toNat = n)

include hexact in
/-- With exact counts a place is given away if one is free. -/
theorem removeQueuedPlayer_eq (hsize : world.sessions.rows.length ≤ bound)
    (hlimit : world.playerLimit ≠ 0) (arrival : Nat) :
    world.removeQueuedPlayer online arrival =
      (world.queuedPlayer.contains arrival,
        if world.sessions.rows.length - world.queuedPlayer.length -
            (if world.queuedPlayer.contains arrival then 0 else 1) < world.playerLimit.toNat then
          (if world.queuedPlayer.contains arrival then world.dequeue arrival else world).acceptFirst
        else if world.queuedPlayer.contains arrival then world.dequeue arrival else world) := by
  have hactive : (world.getActiveSessionCount online).toNat =
      world.sessions.rows.length - world.queuedPlayer.length := hexact _ (by omega)
  have hdecreased : ∀ found : Bool,
      (if (!found && world.getActiveSessionCount online ≠ 0) = true then
        world.getActiveSessionCount online - 1 else world.getActiveSessionCount online).toNat =
      world.sessions.rows.length - world.queuedPlayer.length - (if found then 0 else 1) := by
    intro found
    rw [← hactive]
    generalize world.getActiveSessionCount online = sessions
    cases found with
    | true => simp
    | false =>
      by_cases hzero : sessions = 0
      · simp [hzero]
      · have hpos : 1 ≤ sessions := by
          rw [UInt32.le_iff_toNat_le]
          exact Nat.one_le_iff_ne_zero.mpr fun heq => hzero (UInt32.toNat_inj.mp heq)
        simp [hzero, UInt32.toNat_sub_of_le _ _ hpos]
  unfold removeQueuedPlayer
  rw [Prod.mk.injEq]
  refine ⟨rfl, ?_⟩
  simp only [hlimit, decide_false, Bool.false_or, decide_eq_true_eq, UInt32.lt_iff_toNat_lt,
    hdecreased]

include hsession in
theorem length_pos_of_mem : 1 ≤ world.sessions.rows.length :=
  List.length_pos_of_mem hsession

include hexact in
/-- The first removal frees a place, or gives one that is freed to the first in the queue. -/
theorem removeQueuedPlayer_released (hworld : world.Sound)
    (hsize : world.sessions.rows.length ≤ bound) (hlimit : world.playerLimit ≠ 0)
    (hsession : session ∈ world.sessions) :
    ∃ after, world.removeQueuedPlayer online session.arrival =
        (world.queuedPlayer.contains session.arrival, after) ∧ Released world session after := by
  have hpos : 0 < world.playerLimit.toNat :=
    Nat.pos_of_ne_zero fun heq => hlimit (UInt32.toNat_inj.mp heq)
  rw [removeQueuedPlayer_eq hexact hsize hlimit]
  refine ⟨_, rfl, ?_⟩
  by_cases hqueued : session.arrival ∈ world.queuedPlayer
  · have hfull := hworld.full (List.ne_nil_of_mem hqueued)
    rw [List.contains_iff_mem.mpr hqueued, if_pos rfl, if_pos rfl, if_neg (by omega)]
    exact released_dequeue hworld.toConsistent hsession hqueued (Or.inl rfl)
  · have hnot : world.queuedPlayer.contains session.arrival = false :=
      Bool.eq_false_iff.mpr fun heq => hqueued (List.contains_iff_mem.mp heq)
    rw [hnot, if_neg Bool.false_ne_true, if_neg Bool.false_ne_true]
    cases hqueue : world.queuedPlayer with
    | nil =>
      have hself : world.acceptFirst = world := by
        unfold acceptFirst
        rw [hqueue]
      rw [hself, ite_self]
      exact released_self hworld.toConsistent hsession hqueue
    | cons first rest =>
      have hfull := hworld.full (by rw [hqueue]; exact List.cons_ne_nil _ _)
      have haccept : world.acceptFirst = world.dequeue first := by
        unfold acceptFirst
        rw [hqueue]
      rw [haccept, ← hqueue, if_pos (by omega)]
      have hhead : world.queuedPlayer.head? = some first := by rw [hqueue, List.head?_cons]
      refine released_dequeue hworld.toConsistent hsession ?_ (Or.inr ⟨hqueued, hhead⟩)
      rw [hqueue]
      exact List.mem_cons_self

include hexact in
/-- The second removal changes nothing: the session that ends still counts as active. -/
theorem removeQueuedPlayer_again (hworld : world.Sound) (hsize : world.sessions.rows.length ≤ bound)
    (hlimit : world.playerLimit ≠ 0) {after : World} (hreleased : Released world session after) :
    (after.removeQueuedPlayer online session.arrival).2 = after := by
  have hnot : after.queuedPlayer.contains session.arrival = false :=
    Bool.eq_false_iff.mpr fun heq => hreleased.gone (List.contains_iff_mem.mp heq)
  have hfull := hworld.full
  have hshorter := hreleased.shorter
  have hsame := hreleased.size
  rw [removeQueuedPlayer_eq hexact (hsame.trans_le hsize) (hreleased.playerLimit ▸ hlimit)]
  simp only [hnot, Bool.false_eq_true, if_false]
  split
  next hfree =>
    rw [hreleased.playerLimit] at hfree
    -- only an empty queue leaves a place free here
    have hempty : after.queuedPlayer = [] := by
      by_contra hnonempty
      have hlength := List.length_pos_of_ne_nil hnonempty
      have := hfull (List.ne_nil_of_length_pos (by omega))
      omega
    unfold acceptFirst
    rw [hempty]
  · rfl

variable {event : SessionEvent}

/-- Whoever has left the queue but not the realm was its first. -/
theorem admitsFirst_of_released {after : World} (hreleased : Released world session after)
    (hconsistent : (world.step online event).Consistent)
    (hqueue : ∀ arrival ∈ after.queuedPlayer, arrival ∈ (world.step online event).queuedPlayer)
    (hended : ∀ kept ∈ (world.step online event).sessions, kept.arrival ≠ session.arrival) :
    AdmitsFirst online world event := by
  rintro arrival harrival ⟨kept, hkept, heq, hflag⟩
  rcases hreleased.kept arrival harrival with hstill | hgone | hfirst
  · obtain ⟨waiting, hwaiting, hsame, hqueued⟩ :=
      (hconsistent.flagged arrival).mp (hqueue arrival hstill)
    have hboth := hconsistent.arrivals waiting hwaiting kept hkept (hsame.trans heq.symm)
    rw [hboth, hflag] at hqueued
    cases hqueued
  · exact absurd (heq.trans hgone) (hended kept hkept)
  · exact hfirst

/-- Nobody is admitted when nobody leaves the queue. -/
theorem admitsFirst_of_waiting (hconsistent : (world.step online event).Consistent)
    (hqueue : ∀ arrival ∈ world.queuedPlayer, arrival ∈ (world.step online event).queuedPlayer) :
    AdmitsFirst online world event := by
  rintro arrival harrival ⟨kept, hkept, heq, hflag⟩
  obtain ⟨waiting, hwaiting, hsame, hqueued⟩ :=
    (hconsistent.flagged arrival).mp (hqueue arrival harrival)
  have hboth := hconsistent.arrivals waiting hwaiting kept hkept (hsame.trans heq.symm)
  rw [hboth, hflag] at hqueued
  cases hqueued

include hexact in
theorem endSession_spec (hworld : world.Sound) (hsize : world.sessions.rows.length ≤ bound)
    (hlimit : world.playerLimit ≠ 0) (accountId : UInt32) :
    (world.step online (.ended accountId)).Sound ∧
      AdmitsFirst online world (.ended accountId) := by
  have hstep : world.step online (.ended accountId) = world.endSession online accountId := rfl
  cases hget : world.sessions.get? accountId with
  | none =>
    have hsame : world.step online (.ended accountId) = world := by
      rw [hstep, endSession, hget]
    refine ⟨hsame.symm ▸ hworld, admitsFirst_of_waiting ?_ fun arrival hmem => ?_⟩
    · rw [hsame]
      exact hworld.toConsistent
    · rw [hsame]
      exact hmem
  | some session =>
    obtain ⟨hsession, hkeyed⟩ := Table.get?_eq_some_iff.mp hget
    have haccount : session.accountId = accountId := hkeyed
    subst haccount
    obtain ⟨after, hremove, hreleased⟩ :=
      removeQueuedPlayer_released hexact hworld hsize hlimit hsession
    have hafter : world.step online (.ended session.accountId) =
        { after with sessions := after.sessions.erase session.accountId } := by
      rw [hstep, endSession, hget]
      dsimp only
      rw [hremove, removeQueuedPlayer_again hexact hworld hsize hlimit hreleased]
    obtain ⟨kept, hkept, harrival⟩ := hreleased.found
    have hconsistent := hreleased.consistent.erase hkept (harrival ▸ hreleased.gone)
    have hlength := Table.length_erase (Table.get?_eq_some_iff.mp hkept).1
    have hkey : Keyed.key kept = session.accountId := (Table.get?_eq_some_iff.mp hkept).2
    rw [hkey] at hlength
    have hshorter := hreleased.shorter
    have hsame := hreleased.size
    have hlimited := hworld.limited
    have hfull : 1 ≤ world.queuedPlayer.length → world.sessions.rows.length =
        world.queuedPlayer.length + world.playerLimit.toNat :=
      fun hlong => hworld.full (List.ne_nil_of_length_pos hlong)
    have hended : ∀ other ∈ (after.sessions.erase session.accountId),
        other.arrival ≠ session.arrival := by
      intro other hother heq
      obtain ⟨hmem, hne⟩ := Table.mem_erase.mp hother
      have hboth := hreleased.consistent.arrivals other hmem kept
        (Table.get?_eq_some_iff.mp hkept).1 (heq.trans harrival.symm)
      exact hne (hboth ▸ hkey)
    constructor
    · rw [hafter]
      refine ⟨hconsistent, ?_, fun hqueue => ?_⟩
      · show (after.sessions.erase session.accountId).rows.length ≤
          after.queuedPlayer.length + after.playerLimit.toNat
        rw [hreleased.playerLimit]
        omega
      · have hlong : 1 ≤ after.queuedPlayer.length := List.length_pos_of_ne_nil hqueue
        show (after.sessions.erase session.accountId).rows.length =
          after.queuedPlayer.length + after.playerLimit.toNat
        rw [hreleased.playerLimit]
        omega
    · refine admitsFirst_of_released hreleased ?_ (fun arrival hmem => ?_) ?_
      · rw [hafter]
        exact hconsistent
      · rw [hafter]
        exact hmem
      · rw [hafter]
        exact hended

/-! ## A new session -/

variable {connection : Connection} (hordinary : (SessionEvent.add connection false).Ordinary)

include hexact hordinary in
/-- The new session is admitted if a place is free, and put at the end of the queue otherwise. -/
theorem placeSession_eq (hlimit : world.playerLimit ≠ 0)
    (hsize : (world.putSession connection.accountId).sessions.rows.length ≤ bound)
    (decreaseSession : Bool) :
    world.placeSession online connection decreaseSession =
      if world.playerLimit.toNat ≤ (world.putSession connection.accountId).sessions.rows.length -
          (if decreaseSession then 1 else 0) then
        (world.putSession connection.accountId).addQueuedPlayer world.arrivals
      else world.putSession connection.accountId := by
  obtain ⟨haccount, hrecent, hpremium⟩ := hordinary
  have hcount : ((world.putSession connection.accountId).getActiveAndQueuedSessionCount
      online).toNat = (world.putSession connection.accountId).sessions.rows.length :=
    hexact _ hsize
  have hone : 1 ≤ (world.putSession connection.accountId).sessions.rows.length := by
    show 1 ≤ (world.sessions.insert _ _).rows.length
    rw [Table.length_insert]
    exact Nat.le_add_left _ _
  have hdecreased : (if decreaseSession = true then
      (world.putSession connection.accountId).getActiveAndQueuedSessionCount online - 1
      else (world.putSession connection.accountId).getActiveAndQueuedSessionCount online).toNat =
      (world.putSession connection.accountId).sessions.rows.length -
        (if decreaseSession then 1 else 0) := by
    cases decreaseSession with
    | true =>
      rw [if_pos rfl, if_pos rfl, UInt32.toNat_sub_of_le, hcount]
      · rfl
      · rw [UInt32.le_iff_toNat_le, hcount]
        exact hone
    | false => simpa using hcount
  have hpos : 0 < world.playerLimit := by
    rw [UInt32.lt_iff_toNat_lt]
    exact Nat.pos_of_ne_zero fun heq => hlimit (UInt32.toNat_inj.mp heq)
  unfold placeSession
  simp only [haccount, hrecent, hpremium, Bool.not_false, Bool.and_true, hpos, decide_true,
    Bool.true_and, decide_eq_true_eq, UInt32.le_iff_toNat_le, hdecreased]

include hexact hordinary in
/-- What a new session finds: the one it replaces is not queued, and a place is free unless
there is a queue or all are taken. -/
theorem placeSession_sound (hworld : world.Consistent) (hlimit : world.playerLimit ≠ 0)
    (decreaseSession : Bool)
    (hgone : ∀ session, world.sessions.get? connection.accountId = some session →
      session.arrival ∉ world.queuedPlayer)
    (hsize : (world.putSession connection.accountId).sessions.rows.length ≤ bound)
    (hplace : (world.putSession connection.accountId).sessions.rows.length -
        (if decreaseSession then 1 else 0) < world.playerLimit.toNat →
      world.queuedPlayer = [] ∧ (world.putSession connection.accountId).sessions.rows.length ≤
        world.playerLimit.toNat) (htaken : world.playerLimit.toNat ≤
        (world.putSession connection.accountId).sessions.rows.length -
          (if decreaseSession then 1 else 0) →
      (world.putSession connection.accountId).sessions.rows.length =
        world.queuedPlayer.length + 1 + world.playerLimit.toNat) :
    (world.placeSession online connection decreaseSession).Sound ∧
      ∀ arrival ∈ world.queuedPlayer,
        arrival ∈ (world.placeSession online connection decreaseSession).queuedPlayer := by
  have hput := hworld.putSession hgone
  rw [placeSession_eq hexact hordinary hlimit hsize]
  by_cases hfull : world.playerLimit.toNat ≤
      (world.putSession connection.accountId).sessions.rows.length -
        (if decreaseSession then 1 else 0)
  · rw [if_pos hfull]
    refine ⟨⟨?_, ?_, fun _ => ?_⟩, fun arrival hmem => List.mem_append_left _ hmem⟩
    · refine hput.addQueuedPlayer (fun other hother => ?_) ?_
      · obtain ⟨session, hsession, rfl, -⟩ := (hworld.flagged other).mp hother
        exact hworld.fresh session hsession
      · exact ⟨⟨connection.accountId, world.arrivals, false⟩,
          Table.mem_insert.mpr (Or.inl rfl), rfl⟩
    · show ((world.putSession connection.accountId).setInQueue _ true).sessions.rows.length ≤
        (world.queuedPlayer ++ [world.arrivals]).length + world.playerLimit.toNat
      rw [length_setInQueue, List.length_append, List.length_singleton]
      exact (htaken hfull).le
    · show ((world.putSession connection.accountId).setInQueue _ true).sessions.rows.length =
        (world.queuedPlayer ++ [world.arrivals]).length + world.playerLimit.toNat
      rw [length_setInQueue, List.length_append, List.length_singleton]
      exact htaken hfull
  · rw [if_neg hfull]
    obtain ⟨hempty, hroom⟩ := hplace (Nat.lt_of_not_le hfull)
    refine ⟨⟨hput, ?_, fun hqueue => absurd hempty hqueue⟩, fun arrival hmem => hmem⟩
    show (world.putSession connection.accountId).sessions.rows.length ≤
      world.queuedPlayer.length + world.playerLimit.toNat
    omega

theorem length_putSession_none (hnone : world.sessions.get? accountId = none) :
    (world.putSession accountId).sessions.rows.length = world.sessions.rows.length + 1 := by
  have hkey : Keyed.key (⟨accountId, world.arrivals, false⟩ : WorldSession) = accountId := rfl
  rw [← hkey] at hnone
  exact (Table.rows_insert_perm hnone _).length_eq

theorem length_putSession_some (hsome : world.sessions.get? accountId = some session) :
    (world.putSession accountId).sessions.rows.length = world.sessions.rows.length := by
  obtain ⟨hmem, rfl⟩ := Table.get?_eq_some_iff.mp hsome
  show (world.sessions.insert _ _).rows.length = _
  have hkey : Keyed.key (⟨Keyed.key session, world.arrivals, false⟩ : WorldSession) =
    Keyed.key session := rfl
  rw [Table.length_insert, hkey, Table.length_erase hmem]

theorem placeSession_cases (online : Nat → UInt32) (world : World) (connection : Connection)
    (decreaseSession : Bool) :
    world.placeSession online connection decreaseSession =
        (world.putSession connection.accountId).addQueuedPlayer world.arrivals ∨
      world.placeSession online connection decreaseSession =
        world.putSession connection.accountId :=
  ite_eq_or_eq _ _ _

theorem length_placeSession (world : World) (connection : Connection) (decreaseSession : Bool) :
    (world.placeSession online connection decreaseSession).sessions.rows.length =
      (world.putSession connection.accountId).sessions.rows.length := by
  rcases placeSession_cases online world connection decreaseSession with heq | heq
  · rw [heq]
    exact length_setInQueue _ _ _
  · rw [heq]

theorem mem_placeSession {decreaseSession : Bool}
    (hsession : session ∈ (world.placeSession online connection decreaseSession).sessions) :
    session.arrival = world.arrivals ∨
      ∃ old ∈ world.sessions, old.arrival = session.arrival ∧
        old.accountId ≠ connection.accountId := by
  have hput : ∀ put ∈ (world.putSession connection.accountId).sessions,
      put.arrival = world.arrivals ∨ ∃ old ∈ world.sessions, old.arrival = put.arrival ∧
        old.accountId ≠ connection.accountId := by
    intro put hmem
    rcases Table.mem_insert.mp hmem with rfl | ⟨hold, hne⟩
    · exact Or.inl rfl
    · exact Or.inr ⟨put, hold, rfl, hne⟩
  rcases placeSession_cases online world connection decreaseSession with heq | heq
  · rw [heq] at hsession
    obtain ⟨put, hmem, rfl⟩ := mem_setInQueue.mp hsession
    exact hput put hmem
  · rw [heq] at hsession
    exact hput session hsession

include hexact in
theorem addSession_spec (hworld : world.Sound) {oldPlayerLoading : Bool}
    (hordinary : (SessionEvent.add connection false).Ordinary) (hlimit : world.playerLimit ≠ 0)
    (hsize : world.sessions.rows.length ≤ bound)
    (hafter : (world.step online (.add connection oldPlayerLoading)).sessions.rows.length ≤ bound) :
    (world.step online (.add connection oldPlayerLoading)).Sound ∧
      AdmitsFirst online world (.add connection oldPlayerLoading) := by
  have hstep : world.step online (.add connection oldPlayerLoading) =
    world.addSession online connection oldPlayerLoading := rfl
  have hpos : 0 < world.playerLimit.toNat :=
    Nat.pos_of_ne_zero fun heq => hlimit (UInt32.toNat_inj.mp heq)
  have hlimited := hworld.limited
  have hfull : 1 ≤ world.queuedPlayer.length → world.sessions.rows.length =
      world.queuedPlayer.length + world.playerLimit.toNat :=
    fun hlong => hworld.full (List.ne_nil_of_length_pos hlong)
  cases hget : world.sessions.get? connection.accountId with
  | none =>
    have hplaced : world.step online (.add connection oldPlayerLoading) =
        world.placeSession online connection true := by rw [hstep, addSession, hget]
    have hlength := length_putSession_none hget
    rw [hplaced, length_placeSession] at hafter
    obtain ⟨hsound, hqueue⟩ := placeSession_sound hexact hordinary hworld.toConsistent hlimit
      true (fun session hsession => by rw [hget] at hsession; cases hsession)
      hafter
      (fun hfree => by
        rw [if_pos rfl] at hfree
        refine ⟨List.length_eq_zero_iff.mp ?_, ?_⟩ <;> omega)
      (fun htaken => by
        rw [if_pos rfl] at htaken
        omega)
    refine ⟨hplaced ▸ hsound, admitsFirst_of_waiting ?_ fun arrival hmem => ?_⟩
    · rw [hplaced]
      exact hsound.toConsistent
    · rw [hplaced]
      exact hqueue arrival hmem
  | some old =>
    cases oldPlayerLoading with
    | true =>
      have hsame : world.step online (.add connection true) = world := by
        rw [hstep, addSession, hget]
        exact if_pos rfl
      refine ⟨hsame.symm ▸ hworld, admitsFirst_of_waiting ?_ fun arrival hmem => ?_⟩
      · rw [hsame]
        exact hworld.toConsistent
      · rw [hsame]
        exact hmem
    | false =>
      obtain ⟨hold, haccount⟩ := Table.get?_eq_some_iff.mp hget
      have hkey : old.accountId = connection.accountId := haccount
      obtain ⟨released, hremove, hreleased⟩ :=
        removeQueuedPlayer_released hexact hworld hsize hlimit hold
      have hplaced : world.step online (.add connection false) =
          released.placeSession online connection
            (!world.queuedPlayer.contains old.arrival) := by
        rw [hstep, addSession, hget]
        dsimp only
        rw [if_neg Bool.false_ne_true, hremove]
      obtain ⟨kept, hkept, hwhen⟩ := hreleased.found
      rw [hkey] at hkept
      have hlength := length_putSession_some hkept
      rw [hplaced, length_placeSession] at hafter
      have hshorter := hreleased.shorter
      have hrows := hreleased.size
      have hqueued : world.queuedPlayer.contains old.arrival = true →
          1 ≤ world.queuedPlayer.length :=
        fun hmem => List.length_pos_of_mem (List.contains_iff_mem.mp hmem)
      obtain ⟨hsound, hqueue⟩ := placeSession_sound hexact hordinary hreleased.consistent
        (hreleased.playerLimit ▸ hlimit) (!world.queuedPlayer.contains old.arrival)
        (fun session hsession => by
          rw [hkept, Option.some.injEq] at hsession
          rw [← hsession, hwhen]
          exact hreleased.gone)
        hafter
        (fun hfree => by
          rw [hreleased.playerLimit] at hfree ⊢
          cases hfound : world.queuedPlayer.contains old.arrival with
          | true =>
            have hlong := hfull (hqueued hfound)
            rw [hfound, Bool.not_true, if_neg Bool.false_ne_true] at hfree
            omega
          | false =>
            rw [hfound, Bool.not_false, if_pos rfl] at hfree
            refine ⟨List.length_eq_zero_iff.mp ?_, ?_⟩ <;> omega)
        (fun htaken => by
          rw [hreleased.playerLimit] at htaken ⊢
          cases hfound : world.queuedPlayer.contains old.arrival with
          | true =>
            have hlong := hqueued hfound
            omega
          | false =>
            rw [hfound, Bool.not_false, if_pos rfl] at htaken
            omega)
      refine ⟨hplaced ▸ hsound, admitsFirst_of_released hreleased ?_ (fun arrival hmem => ?_)
        fun session hsession heq => ?_⟩
      · rw [hplaced]
        exact hsound.toConsistent
      · rw [hplaced]
        exact hqueue arrival hmem
      · rw [hplaced] at hsession
        rcases mem_placeSession hsession with hnew | ⟨other, hother, hsame, hne⟩
        · have hfresh := hworld.fresh old hold
          rw [← hreleased.sameArrivals, ← hnew, heq] at hfresh
          exact Nat.lt_irrefl _ hfresh
        · have hboth := hreleased.consistent.arrivals other hother kept
            (Table.get?_eq_some_iff.mp hkept).1 (hsame.trans (heq.trans hwhen.symm))
          rw [hboth] at hne
          exact hne (Table.get?_eq_some_iff.mp hkept).2

/-! ## Runs -/

theorem playerLimit_acceptFirst (world : World) :
    world.acceptFirst.playerLimit = world.playerLimit := by
  unfold acceptFirst
  split <;> rfl

theorem playerLimit_removeQueuedPlayer (online : Nat → UInt32) (world : World) (arrival : Nat) :
    (world.removeQueuedPlayer online arrival).2.playerLimit = world.playerLimit := by
  have hremoved : ∀ found : Bool,
      (if found then world.dequeue arrival else world).playerLimit = world.playerLimit := by
    intro found
    cases found <;> rfl
  have hcases : (world.removeQueuedPlayer online arrival).2 =
        (if world.queuedPlayer.contains arrival then world.dequeue arrival
          else world).acceptFirst ∨
      (world.removeQueuedPlayer online arrival).2 =
        if world.queuedPlayer.contains arrival then world.dequeue arrival else world :=
    ite_eq_or_eq _ _ _
  rcases hcases with heq | heq
  · rw [heq, playerLimit_acceptFirst, hremoved]
  · rw [heq, hremoved]

theorem playerLimit_placeSession (online : Nat → UInt32) (world : World) (connection : Connection)
    (decreaseSession : Bool) :
    (world.placeSession online connection decreaseSession).playerLimit = world.playerLimit := by
  rcases placeSession_cases online world connection decreaseSession with heq | heq <;>
    rw [heq] <;> rfl

theorem playerLimit_step (online : Nat → UInt32) (world : World) (event : SessionEvent) :
    (world.step online event).playerLimit = world.playerLimit := by
  cases event with
  | add connection oldPlayerLoading =>
    show (world.addSession online connection oldPlayerLoading).playerLimit = _
    unfold addSession
    split
    · exact playerLimit_placeSession online world connection true
    · split
      · rfl
      · rw [playerLimit_placeSession, playerLimit_removeQueuedPlayer]
  | ended accountId =>
    show (world.endSession online accountId).playerLimit = _
    unfold endSession
    split
    · rfl
    · dsimp only
      rw [playerLimit_removeQueuedPlayer, playerLimit_removeQueuedPlayer]

include hexact in
theorem step_spec (hworld : world.Sound) (hlimit : world.playerLimit ≠ 0) {event : SessionEvent}
    (hordinary : event.Ordinary) (hsize : world.sessions.rows.length ≤ bound)
    (hafter : (world.step online event).sessions.rows.length ≤ bound) :
    (world.step online event).Sound ∧ AdmitsFirst online world event := by
  cases event with
  | add connection oldPlayerLoading =>
    exact addSession_spec hexact hworld hordinary hlimit hsize hafter
  | ended accountId => exact endSession_spec hexact hworld hsize hlimit accountId

theorem sound_start (playerLimit : UInt32) : (start playerLimit).Sound where
  inOrder := List.Pairwise.nil
  flagged := fun arrival => by simp [start, Table.empty, Table.mem_def]
  arrivals := fun first hfirst => absurd hfirst List.not_mem_nil
  fresh := fun session hsession => absurd hsession List.not_mem_nil
  limited := Nat.zero_le _
  full := fun hqueue => absurd rfl hqueue

include hexact in
theorem run_spec (events : List SessionEvent) (hordinary : ∀ event ∈ events, event.Ordinary)
    (hworld : world.Sound) (hlimit : world.playerLimit ≠ 0)
    (hfew : ∀ reached ∈ visited (step online) world events, reached.sessions.rows.length ≤ bound) :
    (∀ reached ∈ visited (step online) world events,
      reached.Orderly ∧ reached.playerLimit = world.playerLimit) ∧
      Along (step online) (AdmitsFirst online) world events := by
  induction events generalizing world with
  | nil =>
    refine ⟨fun reached hreached => ?_, trivial⟩
    rw [visited, List.mem_singleton] at hreached
    rw [hreached]
    exact ⟨hworld.orderly, rfl⟩
  | cons event rest ih =>
    have hhere : world.sessions.rows.length ≤ bound := hfew world List.mem_cons_self
    have hrest : ∀ reached ∈ visited (step online) (world.step online event) rest,
        reached.sessions.rows.length ≤ bound :=
      fun reached hreached => hfew reached (List.mem_cons_of_mem world hreached)
    obtain ⟨hsound, hadmits⟩ := step_spec hexact hworld hlimit
      (hordinary event List.mem_cons_self) hhere (hrest _ (mem_visited_self _ _ _))
    obtain ⟨hall, halong⟩ := ih
      (fun other hother => hordinary other (List.mem_cons_of_mem event hother)) hsound
      ((playerLimit_step online world event).symm ▸ hlimit) hrest
    refine ⟨fun reached hreached => ?_, hadmits, halong⟩
    rcases List.mem_cons.mp hreached with rfl | hreached
    · exact ⟨hworld.orderly, rfl⟩
    · rw [← playerLimit_step online world event]
      exact hall reached hreached

end

end World

open World in
/-- As long as sessions are counted exactly, the queue is orderly in every world reached, and
whoever is admitted has waited longest. -/
theorem loginQueue_orderly (online : Nat → UInt32) (bound : Nat)
    (hexact : ∀ n ≤ bound, (online n).toNat = n) (playerLimit : UInt32)
    (hlimit : 1 ≤ playerLimit) (events : List SessionEvent)
    (hordinary : ∀ event ∈ events, event.Ordinary)
    (hfew : ∀ reached ∈ visited (step online) (start playerLimit) events,
      reached.sessions.rows.length ≤ bound) :
    (∀ reached ∈ visited (step online) (start playerLimit) events,
      reached.Orderly ∧ reached.playerLimit = playerLimit) ∧
      Along (step online) (AdmitsFirst online) (start playerLimit) events := by
  refine run_spec hexact events hordinary (sound_start playerLimit) ?_ hfew
  intro hzero
  have hzero' : playerLimit = 0 := hzero
  rw [hzero'] at hlimit
  exact absurd hlimit (by decide)

def ordinary (accountId : UInt32) : Connection := ⟨accountId, true, false, false⟩

open World in
/-- With a rate of two the second of two players is queued although a place is free. -/
theorem not_loginQueue_orderly :
    ¬ ∀ (online : Nat → UInt32) (playerLimit : UInt32) (events : List SessionEvent),
      1 ≤ playerLimit → (∀ event ∈ events, event.Ordinary) →
        (∀ reached ∈ visited (step online) (start playerLimit) events, reached.Orderly) ∧
          Along (step online) (AdmitsFirst online) (start playerLimit) events := by
  intro hall
  have hordinary : ∀ event ∈ [SessionEvent.add (ordinary 1) false, .add (ordinary 2) false],
      event.Ordinary := by
    intro event hevent
    simp only [List.mem_cons, List.not_mem_nil, or_false] at hevent
    rcases hevent with rfl | rfl <;> exact ⟨rfl, rfl, rfl⟩
  have horderly := (hall (fun n => UInt32.ofNat (2 * n)) 2 _ (by decide) hordinary).1 _
    (List.mem_cons_of_mem _ (List.mem_cons_of_mem _ (List.mem_singleton_self _)))
  exact absurd (horderly.full (by decide)) (by decide)

open World in
/-- One place, a player who waits, a reconnect and a logout. -/
theorem loginQueue_orderly_onePlace :
    (∀ reached ∈ visited (step UInt32.ofNat) (start 1)
        [.add (ordinary 1) false, .add (ordinary 2) false, .add (ordinary 1) false, .ended 2],
      reached.Orderly ∧ reached.playerLimit = 1) ∧
      Along (step UInt32.ofNat) (AdmitsFirst UInt32.ofNat) (start 1)
        [.add (ordinary 1) false, .add (ordinary 2) false, .add (ordinary 1) false, .ended 2] := by
  refine loginQueue_orderly UInt32.ofNat 5 (by decide) 1 (by decide) _ (fun event hevent => ?_)
    (by decide)
  simp only [List.mem_cons, List.not_mem_nil, or_false] at hevent
  rcases hevent with rfl | rfl | rfl | rfl
  · exact ⟨rfl, rfl, rfl⟩
  · exact ⟨rfl, rfl, rfl⟩
  · exact ⟨rfl, rfl, rfl⟩
  · trivial

end MopServer.Sessions
