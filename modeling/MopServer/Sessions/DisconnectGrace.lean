import MopServer.Sessions.LoginQueue

/-! # The grace after a disconnect

Whoever loses the connection may come back past a full queue for a while.  The times of the
disconnects are kept by account; they are looked through, and meant to be cleared of old ones,
when a player comes to a full realm.
-/

namespace MopServer.Sessions

open MopServer.Foundation

/-- An entry of `m_disconnects`. -/
structure Disconnect where
  accountId : UInt32
  time : Int
  deriving DecidableEq, Repr

instance : Keyed Disconnect UInt32 := ⟨Disconnect.accountId⟩

/-- The loop of `HasRecentlyDisconnected`, with the entries that are left. -/
def searchDisconnects (tolerance : UInt32) (now : Int) (accountId : UInt32) :
    List Disconnect → Bool × List Disconnect
  | [] => (false, [])
  | entry :: rest =>
    -- `difftime(i->second, time(NULL))`
    if entry.time - now < tolerance.toNat then
      if entry.accountId = accountId then (true, entry :: rest)
      else
        let searched := searchDisconnects tolerance now accountId rest
        (searched.1, entry :: searched.2)
    else searchDisconnects tolerance now accountId rest

theorem searchDisconnects_sublist (tolerance : UInt32) (now : Int) (accountId : UInt32)
    (entries : List Disconnect) :
    (searchDisconnects tolerance now accountId entries).2.Sublist entries := by
  induction entries with
  | nil => exact List.Sublist.refl []
  | cons entry rest ih =>
    unfold searchDisconnects
    split
    · split
      · exact List.Sublist.refl _
      · exact ih.cons_cons entry
    · exact ih.cons entry

/-- `HasRecentlyDisconnected`. -/
def hasRecentlyDisconnected (tolerance : UInt32) (now : Int) (accountId : UInt32)
    (disconnects : Table Disconnect) : Bool × Table Disconnect :=
  if tolerance = 0 then (false, disconnects)
  else
    ((searchDisconnects tolerance now accountId disconnects.rows).1,
      { rows := (searchDisconnects tolerance now accountId disconnects.rows).2
        nodup := disconnects.nodup.sublist
          ((searchDisconnects_sublist tolerance now accountId disconnects.rows).map
            Keyed.key) })

/-- The sessions, and the disconnects of those that have ended. -/
structure Realm where
  world : World
  disconnects : Table Disconnect

/-- Something `UpdateSessions` takes up, and when. -/
structure TimedEvent where
  now : Int
  event : SessionEvent

section

variable (online : Nat → UInt32) (world : World) (connection : Connection)

/-- The part of the test of `AddSession_` that comes before `HasRecentlyDisconnected`. -/
def World.isFullFor (decreaseSession : Bool) : Bool :=
  let sessions := (world.putSession connection.accountId).getActiveAndQueuedSessionCount online
  let sessions := if decreaseSession then sessions - 1 else sessions
  0 < world.playerLimit && world.playerLimit ≤ sessions && connection.isPlayerAccount

/-- Whether `AddSession_` comes to the call of `HasRecentlyDisconnected`. -/
def World.asksFor (oldPlayerLoading : Bool) : Bool :=
  match world.sessions.get? connection.accountId with
  | none => world.isFullFor online connection true
  | some old =>
    if oldPlayerLoading then false
    else
      let removed := world.removeQueuedPlayer online old.arrival
      removed.2.isFullFor online connection (!removed.1)

def World.recordsEnd (tolerance accountId : UInt32) : Bool :=
  match world.sessions.get? accountId with
  | none => false
  | some session => !(world.removeQueuedPlayer online session.arrival).1 && tolerance ≠ 0

namespace Realm

/-- `AddSession_`. -/
def addSession (realm : Realm) (tolerance : UInt32) (now : Int) (connection : Connection)
    (oldPlayerLoading : Bool) : Realm :=
  if realm.world.asksFor online connection oldPlayerLoading then
    let answer := hasRecentlyDisconnected tolerance now connection.accountId realm.disconnects
    { world := realm.world.addSession online
        { connection with hasRecentlyDisconnected := answer.1 } oldPlayerLoading
      disconnects := answer.2 }
  else
    { realm with
      world := realm.world.addSession online
        { connection with hasRecentlyDisconnected := false } oldPlayerLoading }

/-- A session whose `Update` fails. -/
def endSession (rehash : Rearrangement Disconnect) (realm : Realm) (tolerance : UInt32)
    (now : Int) (accountId : UInt32) : Realm :=
  { world := realm.world.endSession online accountId
    disconnects :=
      if realm.world.recordsEnd online tolerance accountId then
        realm.disconnects.insert ⟨accountId, now⟩ rehash
      else realm.disconnects }

def step (rehash : Rearrangement Disconnect) (tolerance : UInt32) (realm : Realm)
    (timed : TimedEvent) : Realm :=
  match timed.event with
  | .add connection oldPlayerLoading =>
    realm.addSession online tolerance timed.now connection oldPlayerLoading
  | .ended accountId => realm.endSession online rehash tolerance timed.now accountId

end Realm

end

/-! ## The last disconnect of an account -/

/-- A realm with a record of the last disconnect of each account. -/
structure Chronicle extends Realm where
  recorded : UInt32 → Option Int

namespace Chronicle

section

variable (online : Nat → UInt32) (rehash : Rearrangement Disconnect) (tolerance : UInt32)

def step (chronicle : Chronicle) (timed : TimedEvent) : Chronicle where
  toRealm := chronicle.toRealm.step online rehash tolerance timed
  recorded :=
    match timed.event with
    | .add _ _ => chronicle.recorded
    | .ended accountId =>
      if chronicle.world.recordsEnd online tolerance accountId then
        Function.update chronicle.recorded accountId (some timed.now)
      else chronicle.recorded

variable (chronicle : Chronicle)

/-- The last disconnect of the account was less than the tolerance ago. -/
def Recent (now : Int) (accountId : UInt32) : Prop :=
  ∃ time, chronicle.recorded accountId = some time ∧ now - time < tolerance.toNat

/-- Only an account with a recent disconnect gets the grace, and comes past a full queue with
it; if it has none, all old entries are dropped. -/
structure GraceHolds (chronicle : Chronicle) (now : Int) (connection : Connection)
    (oldPlayerLoading : Bool) : Prop where
  answer : (hasRecentlyDisconnected tolerance now connection.accountId
      chronicle.disconnects).1 = true ↔ chronicle.Recent tolerance now connection.accountId
  dropped : (hasRecentlyDisconnected tolerance now connection.accountId
      chronicle.disconnects).1 = false →
    ∀ entry ∈ (hasRecentlyDisconnected tolerance now connection.accountId
        chronicle.disconnects).2, now - entry.time < tolerance.toNat
  bypass : chronicle.world.asksFor online connection oldPlayerLoading = true →
    connection.isPremium = false →
    (∃ session ∈ (chronicle.toRealm.addSession online tolerance now connection
        oldPlayerLoading).world.sessions,
      session.arrival = chronicle.world.arrivals ∧ session.inQueue = false) →
    chronicle.Recent tolerance now connection.accountId

variable (timed : TimedEvent)

/-- The grace is given as it should be. -/
def GraceExpires : Prop :=
  match timed.event with
  | .add connection oldPlayerLoading =>
    chronicle.GraceHolds online tolerance timed.now connection oldPlayerLoading
  | .ended _ => True

/-- Who comes has a recent disconnect, or nobody has an old one. -/
def Timely : Prop :=
  match timed.event with
  | .add connection _ =>
    chronicle.Recent tolerance timed.now connection.accountId ∨
      ∀ accountId time, chronicle.recorded accountId = some time →
        timed.now - time < tolerance.toNat
  | .ended _ => True

end

/-- A realm nobody has entered. -/
def start (playerLimit : UInt32) : Chronicle :=
  { world := World.start playerLimit, disconnects := Table.empty, recorded := fun _ => none }

/-- The entries are the last disconnects. -/
def Faithful (chronicle : Chronicle) : Prop :=
  ∀ accountId, chronicle.recorded accountId =
    (chronicle.disconnects.get? accountId).map Disconnect.time

variable {online : Nat → UInt32} {rehash : Rearrangement Disconnect} {tolerance : UInt32}
  {chronicle : Chronicle} {now : Int} {connection : Connection} {world : World}
  {session : WorldSession}

theorem Faithful.recorded_eq_some_iff (hfaithful : chronicle.Faithful) {accountId : UInt32}
    {time : Int} :
    chronicle.recorded accountId = some time ↔ ⟨accountId, time⟩ ∈ chronicle.disconnects := by
  rw [hfaithful, Option.map_eq_some_iff]
  constructor
  · rintro ⟨entry, hentry, rfl⟩
    obtain ⟨hmem, rfl⟩ := Table.get?_eq_some_iff.mp hentry
    exact hmem
  · intro hmem
    exact ⟨⟨accountId, time⟩, Table.get?_eq_some_iff.mpr ⟨hmem, rfl⟩, rfl⟩

variable (htolerance : tolerance ≠ 0)

include htolerance in
/-- With no entry from the future the loop drops nothing and finds every entry. -/
theorem searchDisconnects_eq {entries : List Disconnect}
    (hpast : ∀ entry ∈ entries, entry.time ≤ now) (accountId : UInt32) :
    searchDisconnects tolerance now accountId entries =
      (entries.any fun entry => entry.accountId = accountId, entries) := by
  have hpos : 0 < tolerance.toNat :=
    Nat.pos_of_ne_zero fun heq => htolerance (UInt32.toNat_inj.mp heq)
  induction entries with
  | nil => rfl
  | cons entry rest ih =>
    have hentry := hpast entry List.mem_cons_self
    unfold searchDisconnects
    rw [if_pos (by omega), ih fun other hother => hpast other (List.mem_cons_of_mem entry hother)]
    split
    next heq => simp [heq]
    next hne => simp [hne]

include htolerance in
theorem hasRecentlyDisconnected_eq {disconnects : Table Disconnect}
    (hpast : ∀ entry ∈ disconnects, entry.time ≤ now) (accountId : UInt32) :
    hasRecentlyDisconnected tolerance now accountId disconnects =
      (disconnects.rows.any fun entry => entry.accountId = accountId, disconnects) := by
  unfold hasRecentlyDisconnected
  rw [if_neg htolerance]
  simp only [searchDisconnects_eq htolerance hpast]

include htolerance in
/-- The grace is given to whoever has an entry. -/
theorem hasRecentlyDisconnected_iff (hpast : ∀ entry ∈ chronicle.disconnects, entry.time ≤ now)
    (hfaithful : chronicle.Faithful) (accountId : UInt32) :
    (hasRecentlyDisconnected tolerance now accountId chronicle.disconnects).1 = true ↔
      ∃ time, chronicle.recorded accountId = some time := by
  rw [hasRecentlyDisconnected_eq htolerance hpast]
  simp only [List.any_eq_true, decide_eq_true_eq]
  constructor
  · rintro ⟨entry, hentry, rfl⟩
    exact ⟨entry.time, hfaithful.recorded_eq_some_iff.mpr hentry⟩
  · rintro ⟨time, hrecorded⟩
    exact ⟨_, hfaithful.recorded_eq_some_iff.mp hrecorded, rfl⟩

/-- Who comes to a full realm without any favour is put into the queue. -/
theorem placeSession_of_isFullFor {decreaseSession : Bool}
    (hfull : world.isFullFor online connection decreaseSession = true)
    (hpremium : connection.isPremium = false) :
    world.placeSession online { connection with hasRecentlyDisconnected := false }
        decreaseSession =
      (world.putSession connection.accountId).addQueuedPlayer world.arrivals := by
  unfold World.isFullFor at hfull
  unfold World.placeSession
  dsimp only at hfull ⊢
  rw [hfull, hpremium]
  rfl

theorem inQueue_addQueuedPlayer {arrival : Nat}
    (hsession : session ∈ (world.addQueuedPlayer arrival).sessions)
    (harrival : session.arrival = arrival) : session.inQueue = true := by
  obtain ⟨old, -, rfl⟩ := World.mem_setInQueue.mp hsession
  exact if_pos harrival

theorem arrivals_removeQueuedPlayer (world : World) (arrival : Nat) :
    (world.removeQueuedPlayer online arrival).2.arrivals = world.arrivals := by
  have haccept : ∀ other : World, other.acceptFirst.arrivals = other.arrivals := by
    intro other
    unfold World.acceptFirst
    split <;> rfl
  have hdequeue : (if world.queuedPlayer.contains arrival then world.dequeue arrival
      else world).arrivals = world.arrivals := by
    split <;> rfl
  unfold World.removeQueuedPlayer
  rw [apply_ite World.arrivals, haccept, hdequeue, ite_self]

/-- Without the grace a player without other favours waits. -/
theorem inQueue_of_asksFor {oldPlayerLoading : Bool}
    (hasks : world.asksFor online connection oldPlayerLoading = true)
    (hpremium : connection.isPremium = false) (hsession : session ∈ (world.addSession online
      { connection with hasRecentlyDisconnected := false } oldPlayerLoading).sessions)
    (harrival : session.arrival = world.arrivals) : session.inQueue = true := by
  unfold World.asksFor at hasks
  unfold World.addSession at hsession
  cases hget : world.sessions.get? connection.accountId with
  | none =>
    rw [hget] at hasks hsession
    rw [placeSession_of_isFullFor hasks hpremium] at hsession
    exact inQueue_addQueuedPlayer hsession harrival
  | some old =>
    rw [hget] at hasks hsession
    dsimp only at hasks hsession
    cases oldPlayerLoading with
    | true => cases hasks
    | false =>
      rw [if_neg Bool.false_ne_true] at hasks hsession
      rw [placeSession_of_isFullFor hasks hpremium] at hsession
      refine inQueue_addQueuedPlayer hsession (harrival.trans ?_)
      exact (arrivals_removeQueuedPlayer world old.arrival).symm

include htolerance in
/-- The grace is given as it should be exactly if whoever comes has a recent disconnect or
nobody has an old one. -/
theorem graceExpires_iff_timely (hfaithful : chronicle.Faithful) {timed : TimedEvent}
    (hpast : ∀ entry ∈ chronicle.disconnects, entry.time ≤ timed.now) :
    chronicle.GraceExpires online tolerance timed ↔ chronicle.Timely tolerance timed := by
  unfold GraceExpires Timely
  cases hevent : timed.event with
  | ended accountId => exact Iff.rfl
  | add connection oldPlayerLoading =>
    have hanswer := hasRecentlyDisconnected_iff htolerance hpast hfaithful connection.accountId
    constructor
    · intro hholds
      cases hrecorded : chronicle.recorded connection.accountId with
      | some time =>
        exact Or.inl (hholds.answer.mp (hanswer.mpr ⟨time, hrecorded⟩))
      | none =>
        have hno : (hasRecentlyDisconnected tolerance timed.now connection.accountId
            chronicle.disconnects).1 = false := by
          rw [Bool.eq_false_iff, ne_eq, hanswer]
          rintro ⟨time, hsome⟩
          rw [hrecorded] at hsome
          cases hsome
        refine Or.inr fun accountId time hentry => ?_
        refine hholds.dropped hno ⟨accountId, time⟩ ?_
        rw [hasRecentlyDisconnected_eq htolerance hpast]
        exact hfaithful.recorded_eq_some_iff.mp hentry
    · intro htimely
      have hiff : (hasRecentlyDisconnected tolerance timed.now connection.accountId
          chronicle.disconnects).1 = true ↔
            chronicle.Recent tolerance timed.now connection.accountId := by
        rw [hanswer]
        constructor
        · rintro ⟨time, hrecorded⟩
          rcases htimely with hrecent | hall
          · exact hrecent
          · exact ⟨time, hrecorded, hall _ _ hrecorded⟩
        · rintro ⟨time, hrecorded, -⟩
          exact ⟨time, hrecorded⟩
      refine ⟨hiff, fun hno entry hentry => ?_, ?_⟩
      · rw [hasRecentlyDisconnected_eq htolerance hpast] at hentry
        rcases htimely with hrecent | hall
        · rw [hiff.mpr hrecent] at hno
          cases hno
        · exact hall _ _ (hfaithful.recorded_eq_some_iff.mpr hentry)
      · rintro hasks hpremium ⟨session, hsession, harrival, hactive⟩
        refine hiff.mp (Bool.of_not_eq_false fun hno => ?_)
        unfold Realm.addSession at hsession
        rw [if_pos hasks] at hsession
        dsimp only at hsession
        rw [hno] at hsession
        rw [inQueue_of_asksFor hasks hpremium hsession harrival] at hactive
        cases hactive

variable (online) (rehash) in
include htolerance in
theorem step_faithful (hfaithful : chronicle.Faithful) {timed : TimedEvent}
    (hpast : ∀ entry ∈ chronicle.disconnects, entry.time ≤ timed.now) :
    (chronicle.step online rehash tolerance timed).Faithful ∧
      ∀ entry ∈ (chronicle.step online rehash tolerance timed).disconnects,
        entry.time ≤ timed.now := by
  cases hevent : timed.event with
  | add connection oldPlayerLoading =>
    have hdisconnects : (chronicle.step online rehash tolerance timed).disconnects =
        chronicle.disconnects := by
      unfold step Realm.step
      rw [hevent]
      dsimp only
      unfold Realm.addSession
      split
      · rw [hasRecentlyDisconnected_eq htolerance hpast]
      · rfl
    have hrecorded : (chronicle.step online rehash tolerance timed).recorded =
        chronicle.recorded := by
      unfold step
      rw [hevent]
    unfold Faithful
    rw [hdisconnects, hrecorded]
    exact ⟨hfaithful, hpast⟩
  | ended accountId =>
    have hdisconnects : (chronicle.step online rehash tolerance timed).disconnects =
        if chronicle.world.recordsEnd online tolerance accountId then
          chronicle.disconnects.insert ⟨accountId, timed.now⟩ rehash
        else chronicle.disconnects := by
      unfold step Realm.step
      rw [hevent]
      rfl
    have hrecorded : (chronicle.step online rehash tolerance timed).recorded =
        if chronicle.world.recordsEnd online tolerance accountId then
          Function.update chronicle.recorded accountId (some timed.now)
        else chronicle.recorded := by
      unfold step
      rw [hevent]
    unfold Faithful
    rw [hdisconnects, hrecorded]
    split
    · refine ⟨fun other => ?_, fun entry hentry => ?_⟩
      · rw [Table.get?_insert, Function.update_apply]
        show _ = Option.map _ (if other = accountId then _ else _)
        split
        · rfl
        · exact hfaithful other
      · rcases Table.mem_insert.mp hentry with rfl | ⟨hold, -⟩
        · exact le_refl _
        · exact hpast entry hold
    · exact ⟨hfaithful, hpast⟩

include htolerance in
theorem along_graceExpires_iff (hfaithful : chronicle.Faithful) (events : List TimedEvent)
    (hordered : events.Pairwise fun first second => first.now ≤ second.now)
    (hpast : ∀ entry ∈ chronicle.disconnects, ∀ timed ∈ events, entry.time ≤ timed.now) :
    Along (step online rehash tolerance) (GraceExpires online tolerance) chronicle events ↔
      Along (step online rehash tolerance) (Timely tolerance) chronicle events := by
  induction events generalizing chronicle with
  | nil => exact Iff.rfl
  | cons timed rest ih =>
    obtain ⟨hlater, hrest⟩ := List.pairwise_cons.mp hordered
    have hhere : ∀ entry ∈ chronicle.disconnects, entry.time ≤ timed.now :=
      fun entry hentry => hpast entry hentry timed List.mem_cons_self
    obtain ⟨hnext, hbefore⟩ := step_faithful online rehash htolerance hfaithful hhere
    unfold Along
    rw [graceExpires_iff_timely htolerance hfaithful hhere]
    refine and_congr_right fun _ => ih hnext hrest fun entry hentry other hother => ?_
    exact (hbefore entry hentry).trans (hlater other hother)

theorem faithful_start (playerLimit : UInt32) : (start playerLimit).Faithful :=
  fun _ => rfl

/-- In runs at non-decreasing times the grace is given as it should be exactly if, whenever a
player comes, that player has a recent disconnect or nobody has an old one. -/
theorem start_graceExpires_iff (online : Nat → UInt32) (rehash : Rearrangement Disconnect)
    {tolerance : UInt32} (htolerance : tolerance ≠ 0) (playerLimit : UInt32)
    (events : List TimedEvent)
    (hordered : events.Pairwise fun first second => first.now ≤ second.now) :
    Along (step online rehash tolerance) (GraceExpires online tolerance) (start playerLimit)
        events ↔
      Along (step online rehash tolerance) (Timely tolerance) (start playerLimit) events :=
  along_graceExpires_iff htolerance (faithful_start playerLimit) events hordered
    fun _ hentry => absurd hentry List.not_mem_nil

/-- An account comes past a full queue a thousand seconds after its disconnect. -/
theorem not_start_graceExpires :
    ¬ ∀ (online : Nat → UInt32) (rehash : Rearrangement Disconnect) (tolerance : UInt32),
      tolerance ≠ 0 → ∀ (playerLimit : UInt32) (events : List TimedEvent),
        (events.Pairwise fun first second => first.now ≤ second.now) →
          Along (step online rehash tolerance) (GraceExpires online tolerance)
            (start playerLimit) events := by
  intro hall
  obtain ⟨-, -, -, hlast, -⟩ := hall UInt32.ofNat (Rearrangement.keep _) 60 (by decide) 1
    [⟨0, .add (ordinary 1) false⟩, ⟨1, .ended 1⟩, ⟨2, .add (ordinary 2) false⟩,
      ⟨1000, .add (ordinary 1) false⟩] (by decide)
  obtain ⟨time, hrecorded, hrecent⟩ := hlast.bypass (by decide) rfl
    ⟨⟨1, 2, false⟩, Table.mem_def.mpr (by decide), rfl, rfl⟩
  have htime : time = 1 := (Option.some.inj hrecorded).symm
  subst htime
  exact absurd hrecent (by decide)

/-- An account that comes back after half a minute. -/
theorem start_graceExpires_back :
    Along (step UInt32.ofNat (Rearrangement.keep _) 60) (GraceExpires UInt32.ofNat 60) (start 1)
      [⟨0, .add (ordinary 1) false⟩, ⟨1, .ended 1⟩, ⟨31, .add (ordinary 1) false⟩] := by
  refine (start_graceExpires_iff UInt32.ofNat (Rearrangement.keep _) (by decide) 1 _
    (by decide)).mpr ⟨?_, trivial, ?_, trivial⟩
  · exact Or.inr fun accountId time hnone => nomatch hnone
  · exact Or.inl ⟨1, by decide, by decide⟩

end Chronicle

end MopServer.Sessions
