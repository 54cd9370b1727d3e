import MopServer.Calendar.CalendarMgr

/-! # What an action does to the calendar

Every action is described once, by what its checks have found and by what it leaves under each id.
-/

namespace MopServer.Calendar

open MopServer.Foundation

namespace CalendarMgr

variable {mgr after : CalendarMgr} {player : Player} {event : CalendarEvent}
  {eventId inviteId : Nat}

/-- The invite is in the list of the event. -/
def Listed (mgr : CalendarMgr) (inviteId eventId : Nat) : Prop :=
  ∃ event, mgr.events.get? eventId = some event ∧ inviteId ∈ event.invites

/-- There is an invite with the id, of the event and for the player. -/
def Held (mgr : CalendarMgr) (inviteId eventId guid : Nat) : Prop :=
  ∃ invite, mgr.invites.get? inviteId = some invite ∧ invite.eventId = eventId ∧
    invite.invitee = guid

/-- What has passed `checkPermisions`. -/
structure Permitted (mgr : CalendarMgr) (eventId : Nat) (player : Player) (inviteId : Nat)
    (minRank : CalendarModerationRank) (event : CalendarEvent) (invite : CalendarInvite) :
    Prop where
  eventFound : mgr.events.get? eventId = some event
  inviteFound : mgr.invites.get? inviteId = some invite
  listed : inviteId ∈ event.invites
  sameEvent : invite.eventId = eventId
  own : invite.invitee = player.guid
  ranked : minRank ≤ invite.rank

theorem eventId_of_get? (hevent : mgr.events.get? eventId = some event) : event.eventId = eventId :=
  (Table.get?_eq_some_iff.mp hevent).2

/-- Who passes the check is permitted by an invite of the event. -/
theorem checkPermisions_spec {minRank : CalendarModerationRank}
    (hcheck : mgr.checkPermisions eventId player inviteId minRank = some event) :
    ∃ invite, mgr.Permitted eventId player inviteId minRank event invite := by
  unfold checkPermisions at hcheck
  cases hevent : mgr.events.get? eventId with
  | none => simp only [hevent, reduceCtorEq] at hcheck
  | some found =>
    cases hinvite : mgr.invites.get? inviteId with
    | none => simp only [hevent, hinvite, reduceCtorEq] at hcheck
    | some invite =>
      simp only [hevent, hinvite] at hcheck
      split at hcheck
      · cases hcheck
      next hlisted =>
      split at hcheck
      · cases hcheck
      next howner =>
      split at hcheck
      · cases hcheck
      next hrank =>
      cases hcheck
      rw [not_or, not_not, not_not] at howner
      exact ⟨invite, hevent, hinvite, not_not.mp hlisted,
        howner.1.trans (eventId_of_get? hevent), howner.2, UInt8.not_lt.mp hrank⟩

/-! ## Adding an invite -/

variable {new : CalendarInvite} (books : Nat → Finset Nat)

/-- Afterwards there is one more invite, in the books of its invitee. -/
structure Admits (mgr after : CalendarMgr) (new : CalendarInvite) : Prop where
  fresh : mgr.invites.get? new.inviteId = none
  invites : ∀ inviteId, after.invites.get? inviteId =
    if inviteId = new.inviteId then some new else mgr.invites.get? inviteId
  playerInvites : ∀ inviteId guid, inviteId ∈ after.playerInvites guid ↔
    inviteId ∈ mgr.playerInvites guid ∨ inviteId = new.inviteId ∧ guid = new.invitee
  playerEvents : ∀ eventId guid, eventId ∈ after.playerEvents guid ↔
    eventId ∈ mgr.playerEvents guid ∨ eventId = new.eventId ∧ guid = new.invitee

theorem mem_update_insert (guid new id other : Nat) :
    id ∈ Function.update books guid (insert new (books guid)) other ↔
      id ∈ books other ∨ id = new ∧ other = guid := by
  by_cases heq : other = guid
  · subst heq
    rw [Function.update_self, Finset.mem_insert]
    tauto
  · rw [Function.update_of_ne heq]
    tauto

theorem mem_update_erase (guid old id other : Nat) :
    id ∈ Function.update books guid ((books guid).erase old) other ↔
      id ∈ books other ∧ ¬(id = old ∧ other = guid) := by
  by_cases heq : other = guid
  · subst heq
    rw [Function.update_self, Finset.mem_erase]
    tauto
  · rw [Function.update_of_ne heq]
    tauto

/-- An invite is only stored under a new id, and in the books of its invitee. -/
theorem addInvite_spec (hadd : mgr.addInvite new = some after) :
    new.inviteId ≠ 0 ∧ Admits mgr after new ∧ after.events = mgr.events ∧
      after.eventNum = mgr.eventNum ∧ after.inviteNum = mgr.inviteNum := by
  unfold addInvite at hadd
  split at hadd
  · cases hadd
  next hzero =>
  split at hadd
  · cases hadd
  next hfresh =>
  cases hadd
  refine ⟨hzero, ⟨?_, fun inviteId => ?_, fun inviteId guid => ?_, fun eventId guid => ?_⟩,
    rfl, rfl, rfl⟩
  · simpa using hfresh
  · exact Table.get?_insert _ _ _ _
  · exact mem_update_insert _ _ _ _ _
  · exact mem_update_insert _ _ _ _ _

theorem addInvite_isSome (hzero : new.inviteId ≠ 0) (hfresh : mgr.invites.get? new.inviteId = none)
    : (mgr.addInvite new).isSome := by
  unfold addInvite
  rw [if_neg hzero, hfresh, if_neg (by simp)]
  rfl

theorem addEvent_of_fresh (hfresh : mgr.events.get? event.eventId = none) :
    mgr.addEvent event = some { mgr with events := mgr.events.insert event (.keep _) } := by
  unfold addEvent
  rw [hfresh]
  rfl

/-! ## Removing invites -/

theorem removeInvite_of_none (hinvite : mgr.invites.get? inviteId = none) :
    mgr.removeInvite inviteId = (mgr, 0) := by
  unfold removeInvite
  rw [hinvite]

theorem removeInvite_of_some {invite : CalendarInvite}
    (hinvite : mgr.invites.get? inviteId = some invite) :
    (mgr.removeInvite inviteId).1 =
      { mgr with
        invites := mgr.invites.erase inviteId
        playerInvites := Function.update mgr.playerInvites invite.invitee
          ((mgr.playerInvites invite.invitee).erase inviteId) } := by
  unfold removeInvite
  rw [hinvite]

/-- Afterwards the invites with these ids are gone, and so is the event from the books of their
invitees. -/
structure Removes (mgr after : CalendarMgr) (eventId : Nat) (ids : List Nat) : Prop where
  events : after.events = mgr.events
  invites : ∀ inviteId, after.invites.get? inviteId =
    if inviteId ∈ ids then none else mgr.invites.get? inviteId
  playerInvites : ∀ inviteId guid, inviteId ∈ after.playerInvites guid ↔
    inviteId ∈ mgr.playerInvites guid ∧ ¬(inviteId ∈ ids ∧ ∃ other, mgr.Held inviteId other guid)
  playerEvents : ∀ other guid, other ∈ after.playerEvents guid ↔
    other ∈ mgr.playerEvents guid ∧
      ¬(other = eventId ∧ ∃ inviteId ∈ ids, ∃ event, mgr.Held inviteId event guid)
  eventNum : after.eventNum = mgr.eventNum
  inviteNum : after.inviteNum = mgr.inviteNum

/-- The body of the loop of `RemoveEvent` removes one invite. -/
theorem removeEventInvite_removes (eventId : Nat) (mgr : CalendarMgr) (inviteId : Nat) :
    Removes mgr (removeEventInvite eventId mgr inviteId) eventId [inviteId] := by
  unfold removeEventInvite
  cases hinvite : mgr.invites.get? inviteId with
  | none =>
    have hheld : ∀ other guid, ¬mgr.Held inviteId other guid := by
      rintro other guid ⟨invite, hget, -⟩
      rw [hinvite] at hget
      cases hget
    simp only [removeInvite_of_none hinvite]
    refine ⟨rfl, fun id => ?_, fun id guid => ?_, fun other guid => ?_, rfl, rfl⟩
    · split
      next hmem => rw [List.mem_singleton.mp hmem, hinvite]
      · rfl
    · simp only [List.mem_singleton]
      refine (and_iff_left ?_).symm
      rintro ⟨rfl, other, hother⟩
      exact hheld other guid hother
    · simp only [List.mem_singleton, exists_eq_left]
      refine (and_iff_left ?_).symm
      rintro ⟨-, event, hevent⟩
      exact hheld event guid hevent
  | some invite =>
    have hheld : ∀ guid, (∃ other, mgr.Held inviteId other guid) ↔ guid = invite.invitee := by
      intro guid
      constructor
      · rintro ⟨other, found, hget, -, rfl⟩
        rw [hinvite] at hget
        cases hget
        rfl
      · rintro rfl
        exact ⟨_, invite, hinvite, rfl, rfl⟩
    have hlater : (mgr.removePlayerEvent invite.invitee eventId).invites.get? inviteId =
        some invite := hinvite
    simp only [removeInvite_of_some hlater]
    refine ⟨rfl, fun id => ?_, fun id guid => ?_, fun other guid => ?_, rfl, rfl⟩
    · simp only [List.mem_singleton]
      exact Table.get?_erase _ _ _
    · refine (mem_update_erase mgr.playerInvites _ _ _ _).trans (and_congr_right fun _ => ?_)
      simp only [List.mem_singleton]
      refine not_congr (and_congr_right ?_)
      rintro rfl
      exact (hheld guid).symm
    · refine (mem_update_erase mgr.playerEvents _ _ _ _).trans (and_congr_right fun _ => ?_)
      simp only [List.mem_singleton, exists_eq_left, hheld guid]

theorem Removes.nil (mgr : CalendarMgr) (eventId : Nat) : Removes mgr mgr eventId [] := by
  refine ⟨rfl, fun id => ?_, fun id guid => ?_, fun other guid => ?_, rfl, rfl⟩ <;> simp

/-- Removing some invites and then others removes them all. -/
theorem Removes.append {middle : CalendarMgr} {first second : List Nat}
    (hfirst : Removes mgr middle eventId first) (hsecond : Removes middle after eventId second)
    (hdisjoint : ∀ id ∈ second, id ∉ first) : Removes mgr after eventId (first ++ second) := by
  have hheld : ∀ id ∈ second, ∀ event guid, middle.Held id event guid ↔ mgr.Held id event guid := by
    intro id hid event guid
    unfold Held
    rw [hfirst.invites id, if_neg (hdisjoint id hid)]
  refine ⟨hsecond.events.trans hfirst.events, fun id => ?_, fun id guid => ?_,
    fun other guid => ?_, hsecond.eventNum.trans hfirst.eventNum,
    hsecond.inviteNum.trans hfirst.inviteNum⟩
  · rw [hsecond.invites id, hfirst.invites id]
    by_cases hmem : id ∈ second <;> simp [hmem]
  · rw [hsecond.playerInvites id guid, hfirst.playerInvites id guid, List.mem_append]
    by_cases hmem : id ∈ second
    · simp only [hmem, hdisjoint id hmem, hheld id hmem]
      tauto
    · simp only [hmem]
      tauto
  · rw [hsecond.playerEvents other guid, hfirst.playerEvents other guid, and_assoc]
    refine and_congr_right fun _ => ?_
    rw [← not_or, ← and_or_left]
    refine not_congr (and_congr_right fun _ => ?_)
    constructor
    · rintro (⟨id, hid, hrest⟩ | ⟨id, hid, event, hevent⟩)
      · exact ⟨id, List.mem_append_left _ hid, hrest⟩
      · exact ⟨id, List.mem_append_right _ hid, event, (hheld id hid event guid).mp hevent⟩
    · rintro ⟨id, hid, event, hevent⟩
      rcases List.mem_append.mp hid with hid | hid
      · exact Or.inl ⟨id, hid, event, hevent⟩
      · exact Or.inr ⟨id, hid, event, (hheld id hid event guid).mpr hevent⟩

theorem foldl_removeEventInvite (eventId : Nat) (ids : List Nat) (hnodup : ids.Nodup)
    (mgr : CalendarMgr) :
    Removes mgr (ids.foldl (removeEventInvite eventId) mgr) eventId ids := by
  induction ids generalizing mgr with
  | nil => exact Removes.nil mgr eventId
  | cons id rest ih =>
    rw [List.nodup_cons] at hnodup
    refine (removeEventInvite_removes eventId mgr id).append (ih hnodup.2 _) fun other hother => ?_
    rw [List.mem_singleton]
    rintro rfl
    exact hnodup.1 hother

/-- `RemoveEvent` removes the event and the invites it lists. -/
theorem removeEvent_spec (hevent : mgr.events.get? eventId = some event) :
    ∃ removed, Removes mgr removed eventId (event.invites.sort (· ≤ ·)) ∧
      (mgr.removeEvent eventId).1 = { removed with events := mgr.events.erase eventId } := by
  have hremoved := foldl_removeEventInvite eventId (event.invites.sort (· ≤ ·))
    (event.invites.sort_nodup (· ≤ ·)) mgr
  refine ⟨_, hremoved, ?_⟩
  unfold removeEvent
  rw [hevent]
  simp only [hremoved.events]

end CalendarMgr

end MopServer.Calendar
