import MopServer.Calendar.Regularity

/-! # The lists, the invites and the books of the players

Each invite is in the list of its event and in the books of its invitee.  Signing up leaves the
list out, and removing an invite leaves it in.
-/

namespace MopServer.Calendar

open MopServer.Foundation

namespace CalendarMgr

variable {mgr after : CalendarMgr} {player : Player} {excepted : Nat → Prop}

/-- The lists of the events and the books of the players name the same invites as the table; the
last part is not asked of the excepted events. -/
structure Consistent (excepted : Nat → Prop) (mgr : CalendarMgr) : Prop where
  listed : ∀ inviteId eventId,
    mgr.Listed inviteId eventId ↔ ∃ guid, mgr.Held inviteId eventId guid
  playerInvites : ∀ inviteId guid,
    inviteId ∈ mgr.playerInvites guid ↔ ∃ eventId, mgr.Held inviteId eventId guid
  playerEvents : ∀ eventId guid, ¬excepted eventId →
    (eventId ∈ mgr.playerEvents guid ↔ ∃ inviteId, mgr.Held inviteId eventId guid)

/-- Nobody signs up to an event of his guild, and no invite is removed. -/
def Harmless (mgr : CalendarMgr) (call : Player × Request) : Prop :=
  match call.2 with
  | .eventSignup eventId _ _ => ∀ event, ¬mgr.SignsUp call.1 eventId event
  | .eventRemoveInvite inviteId ownInviteId eventId =>
    ∀ event invite, ¬mgr.Withdraws call.1 ownInviteId inviteId eventId event invite
  | _ => True

structure Sound (mgr : CalendarMgr) : Prop where
  regular : mgr.Regular
  consistent : mgr.Consistent fun _ => False

/-! ## Requests that keep the calendar consistent -/

variable {event : CalendarEvent} {eventId : Nat} {call : Player × Request}

theorem Keeps.consistent (hkeeps : Keeps mgr after) (hconsistent : mgr.Consistent excepted) :
    after.Consistent excepted where
  listed inviteId eventId := by
    simp only [hkeeps.listed, hkeeps.held]
    exact hconsistent.listed inviteId eventId
  playerInvites inviteId guid := by
    simp only [hkeeps.playerInvites, hkeeps.held]
    exact hconsistent.playerInvites inviteId guid
  playerEvents eventId guid hplain := by
    simp only [hkeeps.playerEvents, hkeeps.held]
    exact hconsistent.playerEvents eventId guid hplain

theorem Enrolls.consistent {new : CalendarInvite} (henrolls : Enrolls mgr after new)
    (hconsistent : mgr.Consistent excepted) : after.Consistent excepted where
  listed inviteId eventId := by
    simp only [henrolls.listed, henrolls.toAdmits.held, hconsistent.listed inviteId eventId,
      exists_or, exists_and_left, exists_eq, and_true]
  playerInvites inviteId guid := by
    simp only [henrolls.toAdmits.playerInvites, henrolls.toAdmits.held,
      hconsistent.playerInvites inviteId guid, exists_or, exists_and_left, exists_eq_left]
  playerEvents eventId guid hplain := by
    simp only [henrolls.toAdmits.playerEvents, henrolls.toAdmits.held,
      hconsistent.playerEvents eventId guid hplain, exists_or, exists_eq_left]

theorem Grown.consistent (hgrown : Grown mgr after) (hconsistent : mgr.Consistent excepted) :
    after.Consistent excepted := by
  induction hgrown with
  | refl => exact hconsistent
  | keep _ hkeeps ih => exact hkeeps.consistent ih
  | enroll _ henrolls ih => exact henrolls.consistent ih

/-- An event takes all its invites along, and the books of their invitees are cleared of it. -/
theorem Sound.removed (hsound : mgr.Sound) {removed : CalendarMgr}
    (hevent : mgr.events.get? eventId = some event)
    (hremoves : Removes mgr removed eventId (event.invites.sort (· ≤ ·))) :
    Consistent (fun _ => False) { removed with events := mgr.events.erase eventId } := by
  have hlists : ∀ inviteId, inviteId ∈ event.invites.sort (· ≤ ·) ↔
      ∃ guid, mgr.Held inviteId eventId guid := by
    intro inviteId
    rw [Finset.mem_sort, ← hsound.consistent.listed inviteId eventId]
    unfold Listed
    simp only [hevent, Option.some.injEq, exists_eq_left']
  -- an invite of another event is in no list but its own
  have hother : ∀ inviteId other guid, mgr.Held inviteId other guid →
      (inviteId ∈ event.invites.sort (· ≤ ·) ↔ other = eventId) := by
    intro inviteId other guid hheld
    rw [hlists]
    constructor
    · rintro ⟨holder, hsame⟩
      have hlisted := (hsound.consistent.listed inviteId eventId).mpr ⟨holder, hsame⟩
      exact (hsound.regular.listed inviteId eventId hlisted).2 other guid hheld
    · rintro rfl
      exact ⟨guid, hheld⟩
  have hheld : ∀ inviteId other guid,
      Held { removed with events := mgr.events.erase eventId } inviteId other guid ↔
        mgr.Held inviteId other guid ∧ other ≠ eventId := by
    intro inviteId other guid
    have hget := hremoves.invites inviteId
    constructor
    · rintro ⟨invite, hinvite, hrest⟩
      rw [show removed.invites.get? inviteId = _ from hget] at hinvite
      split at hinvite
      · cases hinvite
      next hnot =>
        have hbefore : mgr.Held inviteId other guid := ⟨invite, hinvite, hrest⟩
        exact ⟨hbefore, fun heq => hnot ((hother inviteId other guid hbefore).mpr heq)⟩
    · rintro ⟨hbefore, hne⟩
      rw [if_neg fun hmem => hne ((hother inviteId other guid hbefore).mp hmem)] at hget
      obtain ⟨invite, hinvite, hrest⟩ := hbefore
      exact ⟨invite, hget.trans hinvite, hrest⟩
  refine ⟨fun inviteId other => ?_, fun inviteId guid => ?_, fun other guid _ => ?_⟩
  · have hlisted : Listed { removed with events := mgr.events.erase eventId } inviteId other ↔
        mgr.Listed inviteId other ∧ other ≠ eventId := by
      unfold Listed
      rw [Table.get?_erase]
      split
      next heq => simp [heq]
      next hne => simp [hne]
    simp only [hlisted, hheld, hsound.consistent.listed inviteId other, exists_and_right]
  · simp only [hheld]
    rw [show inviteId ∈ removed.playerInvites guid ↔ _ from hremoves.playerInvites inviteId guid,
      hsound.consistent.playerInvites inviteId guid]
    constructor
    · rintro ⟨⟨other, hbefore⟩, hkept⟩
      refine ⟨other, hbefore, fun heq => hkept ⟨?_, other, hbefore⟩⟩
      exact (hother inviteId other guid hbefore).mpr heq
    · rintro ⟨other, hbefore, hne⟩
      exact ⟨⟨other, hbefore⟩, fun hgone => hne ((hother inviteId other guid hbefore).mp hgone.1)⟩
  · simp only [hheld]
    rw [show other ∈ removed.playerEvents guid ↔ _ from hremoves.playerEvents other guid,
      hsound.consistent.playerEvents other guid not_false]
    constructor
    · rintro ⟨⟨inviteId, hbefore⟩, hkept⟩
      refine ⟨inviteId, hbefore, fun heq => hkept ⟨heq, inviteId, ?_, other, hbefore⟩⟩
      exact (hother inviteId other guid hbefore).mpr heq
    · rintro ⟨inviteId, hbefore, hne⟩
      exact ⟨⟨inviteId, hbefore⟩, fun hgone => hne hgone.1⟩

theorem Sound.step (hsound : mgr.Sound) (hharmless : mgr.Harmless call) :
    (mgr.step call).Sound := by
  obtain ⟨player, request⟩ := call
  refine ⟨handle_regular hsound.regular player request, ?_⟩
  by_cases hgrowing : request.Growing
  · exact (handle_grown hsound.regular player hgrowing).consistent hsound.consistent
  cases request with
  | removeEvent eventId inviteId =>
    simp only [CalendarMgr.step, handle]
    rcases removeEvent_cases mgr player inviteId eventId with
      hsame | ⟨event, own, removed, hpermitted, hremoves, hremoved⟩
    · rw [hsame]
      exact hsound.consistent
    · rw [hremoved]
      exact hsound.removed hpermitted.eventFound hremoves
  | eventSignup eventId status now =>
    simp only [CalendarMgr.step, handle]
    rcases signupToEvent_cases hsound.regular player eventId status now with
      ⟨-, hsame⟩ | ⟨event, _, _, hsigns, -⟩
    · rw [hsame]
      exact hsound.consistent
    · exact absurd hsigns (hharmless event)
  | eventRemoveInvite inviteId ownInviteId eventId =>
    simp only [CalendarMgr.step, handle]
    rcases removeEventInvite_cases mgr player ownInviteId inviteId eventId with
      ⟨-, hsame⟩ | ⟨event, invite, hwithdraws, -⟩
    · rw [hsame]
      exact hsound.consistent
    · exact absurd hwithdraws (hharmless event invite)
  | _ => exact absurd trivial hgrowing

/-! ## Requests that do not -/

theorem not_consistent_of_signsUp (hregular : mgr.Regular)
    (hsigns : mgr.SignsUp player eventId event) (status : CalendarInviteStatus) (now : UInt32) :
    ¬(mgr.handle player (.eventSignup eventId status now)).Consistent excepted := by
  intro hconsistent
  simp only [handle] at hconsistent
  rcases signupToEvent_cases hregular player eventId status now with
    ⟨hnot, -⟩ | ⟨_, after, new, -, hafter, hnumber, hevent, -, hadmits, hevents, -, -⟩
  · exact hnot event hsigns
  · rw [hafter] at hconsistent
    have hheld : after.Held new.inviteId new.eventId new.invitee :=
      (hadmits.held _ _ _).mpr (Or.inr ⟨rfl, rfl, rfl⟩)
    have hlisted : mgr.Listed new.inviteId new.eventId := by
      have hafter := (hconsistent.listed _ _).mpr ⟨_, hheld⟩
      unfold Listed at hafter ⊢
      rw [hevents] at hafter
      exact hafter
    have hle := (hregular.listed _ _ hlisted).1
    omega

theorem not_consistent_of_withdraws (hsound : mgr.Sound) {ownInviteId inviteId : Nat}
    {invite : CalendarInvite}
    (hwithdraws : mgr.Withdraws player ownInviteId inviteId eventId event invite) :
    ¬(mgr.handle player (.eventRemoveInvite inviteId ownInviteId eventId)).Consistent
      excepted := by
  intro hconsistent
  simp only [handle] at hconsistent
  rcases removeEventInvite_cases mgr player ownInviteId inviteId eventId with
    ⟨hnot, -⟩ | ⟨_, _, -, hafter⟩
  · exact hnot event invite hwithdraws
  · rw [hafter, removeInvite_of_some hwithdraws.found] at hconsistent
    -- the list of its event still names the invite
    have hlisted : mgr.Listed inviteId invite.eventId :=
      (hsound.consistent.listed _ _).mpr ⟨_, invite, hwithdraws.found, rfl, rfl⟩
    obtain ⟨guid, found, hfound, -⟩ := (hconsistent.listed inviteId invite.eventId).mp hlisted
    rw [Table.get?_erase, if_pos rfl] at hfound
    cases hfound

theorem Sound.harmless (hsound : mgr.Sound) (hconsistent : (mgr.step call).Consistent excepted) :
    mgr.Harmless call := by
  obtain ⟨player, request⟩ := call
  cases request with
  | eventSignup eventId status now =>
    exact fun event hsigns =>
      not_consistent_of_signsUp hsound.regular hsigns status now hconsistent
  | eventRemoveInvite inviteId ownInviteId eventId =>
    exact fun event invite hwithdraws => not_consistent_of_withdraws hsound hwithdraws hconsistent
  | _ => trivial

theorem empty_sound : empty.Sound where
  regular := empty_regular
  consistent := by
    have hheld : ∀ inviteId eventId guid, ¬empty.Held inviteId eventId guid := by
      rintro inviteId eventId guid ⟨invite, hinvite, -⟩
      cases hinvite
    have hlisted : ∀ inviteId eventId, ¬empty.Listed inviteId eventId := by
      rintro inviteId eventId ⟨event, hevent, -⟩
      cases hevent
    refine ⟨fun inviteId eventId => ?_, fun inviteId guid => ?_, fun eventId guid _ => ?_⟩
    · simp [hheld, hlisted]
    · simp only [hheld, exists_false, iff_false]
      exact Finset.notMem_empty inviteId
    · simp only [hheld, exists_false, iff_false]
      exact Finset.notMem_empty eventId

/-- The calendar is consistent throughout exactly in the runs in which nobody signs up to an event
of his guild and no invite is removed, whichever events are excepted from the players' books. -/
theorem consistent_iff_harmless (excepted : Nat → Prop) (calls : List (Player × Request)) :
    (∀ reached ∈ visited step empty calls, reached.Consistent excepted) ↔
      Along step Harmless empty calls := by
  refine forall_visited_iff_along_of_invariant step Sound (Consistent excepted) Harmless
    (fun mgr hsound => ?_) (fun mgr call hsound hharmless => hsound.step hharmless)
    (fun mgr call hsound hconsistent => hsound.harmless hconsistent) empty calls empty_sound
  exact ⟨hsound.consistent.listed, hsound.consistent.playerInvites,
    fun eventId guid _ => hsound.consistent.playerEvents eventId guid not_false⟩

/-- A guild mate signs up to it: his invite is in no list. -/
theorem not_consistent_after_signup :
    let calls := [guildEvent, (⟨200, 7⟩, Request.eventSignup 1 .invited 0)]
    ¬∀ reached ∈ visited step empty calls, reached.Consistent fun _ => True := by
  intro calls hall
  have hreached : (empty.step guildEvent).handle ⟨200, 7⟩ (.eventSignup 1 .invited 0) ∈
      visited step empty calls :=
    List.mem_cons_of_mem _ (List.mem_cons_of_mem _ List.mem_cons_self)
  have hregular : (empty.step guildEvent).Regular :=
    handle_regular empty_regular guildEvent.1 guildEvent.2
  obtain ⟨event, hsigns⟩ : ∃ event, (empty.step guildEvent).SignsUp ⟨200, 7⟩ 1 event :=
    ⟨_, rfl, by decide, by decide, rfl⟩
  exact not_consistent_of_signsUp hregular hsigns _ _ (hall _ hreached)

end CalendarMgr

end MopServer.Calendar
