import MopServer.Calendar.Effects
import MopServer.Foundation.Run

/-! # Ids and lists of the calendar

New ids are counted up, so no id comes back after its event or invite is gone: whatever a list
still names, it never names an invite of another event.
-/

namespace MopServer.Calendar

open MopServer.Foundation

namespace CalendarMgr

variable {mgr middle after : CalendarMgr} {player : Player} {eventId : Nat} {new : CalendarInvite}

/-- The ids are within the counters, and a list names no invite of another event. -/
structure Regular (mgr : CalendarMgr) : Prop where
  eventNum : ∀ eventId, (mgr.events.get? eventId).isSome → eventId ≤ mgr.eventNum
  inviteNum : ∀ inviteId eventId guid, mgr.Held inviteId eventId guid → inviteId ≤ mgr.inviteNum
  listed : ∀ inviteId eventId, mgr.Listed inviteId eventId → inviteId ≤ mgr.inviteNum ∧
    ∀ other guid, mgr.Held inviteId other guid → other = eventId

theorem Regular.event_fresh (hregular : mgr.Regular) (hlater : mgr.eventNum < eventId) :
    mgr.events.get? eventId = none := by
  cases hevent : mgr.events.get? eventId with
  | none => rfl
  | some event =>
    have hle := hregular.eventNum eventId (by rw [hevent]; rfl)
    exact absurd hle (Nat.not_le.mpr hlater)

theorem Regular.invite_fresh (hregular : mgr.Regular) {inviteId : Nat}
    (hlater : mgr.inviteNum < inviteId) : mgr.invites.get? inviteId = none := by
  cases hinvite : mgr.invites.get? inviteId with
  | none => rfl
  | some invite =>
    have hle := hregular.inviteNum inviteId _ _ ⟨invite, hinvite, rfl, rfl⟩
    exact absurd hle (Nat.not_le.mpr hlater)

/-- Events appear under new ids only. -/
structure Advances (mgr after : CalendarMgr) : Prop where
  events : ∀ eventId, (after.events.get? eventId).isSome →
    (mgr.events.get? eventId).isSome ∨ eventId ≤ after.eventNum
  eventNum : mgr.eventNum ≤ after.eventNum
  inviteNum : mgr.inviteNum ≤ after.inviteNum

/-- Nothing has changed between the lists, the invites and the books. -/
structure Keeps (mgr after : CalendarMgr) : Prop extends Advances mgr after where
  listed : ∀ inviteId eventId, after.Listed inviteId eventId ↔ mgr.Listed inviteId eventId
  held : ∀ inviteId eventId guid,
    after.Held inviteId eventId guid ↔ mgr.Held inviteId eventId guid
  playerInvites : after.playerInvites = mgr.playerInvites
  playerEvents : after.playerEvents = mgr.playerEvents

/-- A new invite is in the list of its event and in the books of its invitee. -/
structure Enrolls (mgr after : CalendarMgr) (new : CalendarInvite) : Prop extends
    Advances mgr after, Admits mgr after new where
  listed : ∀ inviteId eventId, after.Listed inviteId eventId ↔
    mgr.Listed inviteId eventId ∨ inviteId = new.inviteId ∧ eventId = new.eventId
  later : mgr.inviteNum < new.inviteId
  counted : new.inviteId ≤ after.inviteNum

/-- What comes of a calendar when invites are only added to events. -/
inductive Grown (mgr : CalendarMgr) : CalendarMgr → Prop
  | refl : Grown mgr mgr
  | keep {middle after : CalendarMgr} : Grown mgr middle → Keeps middle after → Grown mgr after
  | enroll {middle after : CalendarMgr} {new : CalendarInvite} :
      Grown mgr middle → Enrolls middle after new → Grown mgr after

theorem Grown.trans {last : CalendarMgr} (hfirst : Grown mgr after) (hrest : Grown after last) :
    Grown mgr last := by
  induction hrest with
  | refl => exact hfirst
  | keep _ hkeeps ih => exact ih.keep hkeeps
  | enroll _ henrolls ih => exact ih.enroll henrolls

theorem Admits.held (hadmits : Admits mgr after new) (inviteId eventId guid : Nat) :
    after.Held inviteId eventId guid ↔ mgr.Held inviteId eventId guid ∨
      inviteId = new.inviteId ∧ eventId = new.eventId ∧ guid = new.invitee := by
  unfold Held
  rw [hadmits.invites inviteId]
  split
  next heq =>
    subst heq
    simp only [Option.some.injEq, exists_eq_left', hadmits.fresh, reduceCtorEq, false_and,
      exists_false, true_and, false_or, eq_comm]
  next hne =>
    simp only [hne, false_and, or_false]

/-- Invites only go, or come under new ids. -/
theorem Regular.advance (hregular : mgr.Regular) (hadvances : Advances mgr after)
    (hheld : ∀ inviteId eventId guid, after.Held inviteId eventId guid →
      mgr.Held inviteId eventId guid ∨ mgr.inviteNum < inviteId ∧ inviteId ≤ after.inviteNum)
    (hlisted : ∀ inviteId eventId, after.Listed inviteId eventId →
      mgr.Listed inviteId eventId ∨ mgr.inviteNum < inviteId ∧ inviteId ≤ after.inviteNum ∧
        ∀ other guid, after.Held inviteId other guid → other = eventId) : after.Regular := by
  refine ⟨fun eventId hevent => ?_, fun inviteId eventId guid hinvite => ?_,
    fun inviteId eventId hlist => ?_⟩
  · rcases hadvances.events eventId hevent with hold | hnew
    · exact (hregular.eventNum eventId hold).trans hadvances.eventNum
    · exact hnew
  · rcases hheld inviteId eventId guid hinvite with hold | hnew
    · exact (hregular.inviteNum _ _ _ hold).trans hadvances.inviteNum
    · exact hnew.2
  · rcases hlisted inviteId eventId hlist with hold | hnew
    · have hentry := hregular.listed inviteId eventId hold
      refine ⟨hentry.1.trans hadvances.inviteNum, fun other guid hother => ?_⟩
      rcases hheld inviteId other guid hother with hbefore | hlater
      · exact hentry.2 other guid hbefore
      · exact absurd hentry.1 (Nat.not_le.mpr hlater.1)
    · exact ⟨hnew.2.1, hnew.2.2⟩

theorem Keeps.regular (hkeeps : Keeps mgr after) (hregular : mgr.Regular) : after.Regular := by
  apply hregular.advance hkeeps.toAdvances
  · exact fun inviteId eventId guid hheld => Or.inl ((hkeeps.held inviteId eventId guid).mp hheld)
  · exact fun inviteId eventId hlisted => Or.inl ((hkeeps.listed inviteId eventId).mp hlisted)

theorem Admits.regular (hadmits : Admits mgr after new) (hadvances : Advances mgr after)
    (hlater : mgr.inviteNum < new.inviteId) (hcounted : new.inviteId ≤ after.inviteNum)
    (hlisted : ∀ inviteId eventId, after.Listed inviteId eventId →
      mgr.Listed inviteId eventId ∨ inviteId = new.inviteId ∧ eventId = new.eventId)
    (hregular : mgr.Regular) : after.Regular := by
  apply hregular.advance hadvances
  · intro inviteId eventId guid hheld
    rcases (hadmits.held inviteId eventId guid).mp hheld with hold | ⟨rfl, -⟩
    · exact Or.inl hold
    · exact Or.inr ⟨hlater, hcounted⟩
  · intro inviteId eventId hlist
    rcases hlisted inviteId eventId hlist with hold | ⟨rfl, rfl⟩
    · exact Or.inl hold
    · refine Or.inr ⟨hlater, hcounted, fun other guid hheld => ?_⟩
      rcases (hadmits.held new.inviteId other guid).mp hheld with hold | ⟨-, hother, -⟩
      · exact absurd (hregular.inviteNum _ _ _ hold) (Nat.not_le.mpr hlater)
      · exact hother

theorem Grown.regular (hgrown : Grown mgr after) (hregular : mgr.Regular) : after.Regular := by
  induction hgrown with
  | refl => exact hregular
  | keep _ hkeeps ih => exact hkeeps.regular ih
  | enroll _ henrolls ih =>
    exact henrolls.toAdmits.regular henrolls.toAdvances henrolls.later henrolls.counted
      (fun inviteId eventId => (henrolls.listed inviteId eventId).mp) ih

/-! ## Changes that keep everything -/

/-- Counters go up. -/
theorem keeps_count (hevents : after.events = mgr.events) (hinvites : after.invites = mgr.invites)
    (hplayerInvites : after.playerInvites = mgr.playerInvites)
    (hplayerEvents : after.playerEvents = mgr.playerEvents)
    (heventNum : mgr.eventNum ≤ after.eventNum) (hinviteNum : mgr.inviteNum ≤ after.inviteNum) :
    Keeps mgr after where
  events eventId hevent := Or.inl (hevents ▸ hevent)
  eventNum := heventNum
  inviteNum := hinviteNum
  listed inviteId eventId := by
    unfold Listed
    rw [hevents]
  held inviteId eventId guid := by
    unfold Held
    rw [hinvites]
  playerInvites := hplayerInvites
  playerEvents := hplayerEvents

variable {f : CalendarEvent → CalendarEvent} (hf : ∀ event, Keyed.key (f event) = Keyed.key event)

theorem listed_modify (hevents : after.events = mgr.events.modify eventId f hf)
    (inviteId other : Nat) :
    after.Listed inviteId other ↔ ∃ event, mgr.events.get? other = some event ∧
      inviteId ∈ (if other = eventId then f event else event).invites := by
  unfold Listed
  rw [hevents, Table.get?_modify]
  split
  next heq =>
    subst heq
    cases mgr.events.get? other <;> simp
  · rfl

theorem isSome_modify (hevents : after.events = mgr.events.modify eventId f hf) (other : Nat) :
    (after.events.get? other).isSome = (mgr.events.get? other).isSome := by
  rw [hevents, Table.get?_modify]
  split
  next heq =>
    subst heq
    exact Option.isSome_map
  · rfl

theorem keeps_modifyEvent (mgr : CalendarMgr) (eventId : Nat) (details : EventDetails) :
    Keeps mgr { mgr with events := mgr.events.modify eventId fun event =>
      { event with details := details } } where
  events other hevent := by
    have hkey : ∀ event : CalendarEvent,
        Keyed.key { event with details := details } = Keyed.key event := fun _ => rfl
    exact Or.inl ((isSome_modify hkey rfl other).symm.trans hevent)
  eventNum := Nat.le_refl _
  inviteNum := Nat.le_refl _
  listed inviteId other := by
    have hkey : ∀ event : CalendarEvent,
        Keyed.key { event with details := details } = Keyed.key event := fun _ => rfl
    refine (listed_modify hkey rfl inviteId other).trans (exists_congr fun event => ?_)
    split <;> rfl
  held inviteId other guid := Iff.rfl
  playerInvites := rfl
  playerEvents := rfl

theorem keeps_setStatus (mgr : CalendarMgr) (inviteId : Nat) (status : CalendarInviteStatus) :
    Keeps mgr { mgr with invites := mgr.invites.modify inviteId fun invite =>
      { invite with status := status } } where
  events other hevent := Or.inl hevent
  eventNum := Nat.le_refl _
  inviteNum := Nat.le_refl _
  listed other eventId := Iff.rfl
  held other eventId guid := by
    unfold Held
    rw [Table.get?_modify]
    split
    next heq =>
      subst heq
      cases mgr.invites.get? other <;> simp
    · rfl
  playerInvites := rfl
  playerEvents := rfl

def withEvent (mgr : CalendarMgr) (event : CalendarEvent) : CalendarMgr :=
  { mgr with events := mgr.events.insert event (.keep _) }

theorem get?_withEvent (mgr : CalendarMgr) (new : CalendarEvent) (eventId : Nat) :
    (mgr.withEvent new).events.get? eventId =
      if eventId = new.eventId then some new else mgr.events.get? eventId :=
  Table.get?_insert _ _ _ _

theorem listed_withEvent {new : CalendarEvent} (hfresh : mgr.events.get? new.eventId = none)
    (inviteId eventId : Nat) : (mgr.withEvent new).Listed inviteId eventId ↔
      mgr.Listed inviteId eventId ∨ inviteId ∈ new.invites ∧ eventId = new.eventId := by
  unfold Listed
  rw [get?_withEvent]
  split
  next heq =>
    subst heq
    simp [hfresh]
  next hne => simp [hne]

theorem isSome_withEvent {new : CalendarEvent} :
    ((mgr.withEvent new).events.get? eventId).isSome ↔
      (mgr.events.get? eventId).isSome ∨ eventId = new.eventId := by
  rw [get?_withEvent]
  split
  next heq => simp [heq]
  next hne => simp [hne]

theorem keeps_withEvent {new : CalendarEvent} (hfresh : mgr.events.get? new.eventId = none)
    (hempty : new.invites = ∅) (hcounted : new.eventId ≤ mgr.eventNum) :
    Keeps mgr (mgr.withEvent new) where
  events eventId hevent := by
    rcases isSome_withEvent.mp hevent with hold | rfl
    · exact Or.inl hold
    · exact Or.inr hcounted
  eventNum := Nat.le_refl _
  inviteNum := Nat.le_refl _
  listed inviteId eventId := by
    rw [listed_withEvent hfresh inviteId eventId, hempty]
    simp
  held inviteId eventId guid := Iff.rfl
  playerInvites := rfl
  playerEvents := rfl

/-! ## Growth -/

variable {event : CalendarEvent}

theorem keeps_numbers (mgr : CalendarMgr) (events invites : Nat) :
    Keeps mgr { mgr with eventNum := mgr.eventNum + events, inviteNum := mgr.inviteNum + invites } :=
  keeps_count rfl rfl rfl rfl (Nat.le_add_right _ _) (Nat.le_add_right _ _)

theorem mem_addInvite {inviteId : Nat} (hzero : inviteId ≠ 0) (other : Nat) :
    other ∈ (event.addInvite inviteId).invites ↔
      other = inviteId ∨ other ∈ event.invites := by
  unfold CalendarEvent.addInvite
  rw [if_pos hzero]
  exact Finset.mem_insert

/-- What copying an invite does to the calendar and the copy. -/
inductive Copies (eventId : Nat) (mgr : CalendarMgr) (event : CalendarEvent) :
    CalendarMgr × CalendarEvent → Prop
  | absent : Copies eventId mgr event (mgr, event)
  | refused : Copies eventId mgr event ({ mgr with inviteNum := mgr.inviteNum + 1 }, event)
  | stored {after : CalendarMgr} {new : CalendarInvite} (number : new.inviteId = mgr.inviteNum + 1)
      (ofEvent : new.eventId = eventId)
      (added : { mgr with inviteNum := mgr.inviteNum + 1 }.addInvite new = some after) :
      Copies eventId mgr event (after, event.addInvite new.inviteId)

theorem copyInvite_cases (player : Player) (eventId : Nat) (mgr : CalendarMgr)
    (event : CalendarEvent) (inviteId : Nat) :
    Copies eventId mgr event (copyInvite player eventId (mgr, event) inviteId) := by
  unfold copyInvite
  cases hinvite : mgr.invites.get? inviteId with
  | none => exact .absent
  | some invite =>
    dsimp only
    cases hadd : addInvite { mgr with inviteNum := mgr.inviteNum + 1 } { invite with
      inviteId := mgr.inviteNum + 1, eventId := eventId, senderGUID := player.guid } with
    | none => exact .refused
    | some after => exact .stored rfl rfl hadd

/-- Copied invites belong to the copy, which is not in the calendar yet. -/
structure Copied (start mgr : CalendarMgr) (event new : CalendarEvent) : Prop where
  grown : Grown (start.withEvent event) (mgr.withEvent new)
  events : mgr.events = start.events
  eventNum : mgr.eventNum = start.eventNum
  eventId : new.eventId = event.eventId
  creator : new.creatorGUID = event.creatorGUID
  guild : new.guildId = event.guildId
  details : new.details = event.details
  invites : ∀ inviteId, mgr.invites.get? inviteId = start.invites.get? inviteId ∨
    start.invites.get? inviteId = none ∧
      ∃ invite, mgr.invites.get? inviteId = some invite ∧ invite.eventId = event.eventId

theorem Copied.step {start : CalendarMgr} {new : CalendarEvent}
    (hcopied : Copied start mgr event new) (hfresh : start.events.get? event.eventId = none)
    {result : CalendarMgr × CalendarEvent} (hcopies : Copies event.eventId mgr new result) :
    Copied start result.1 event result.2 := by
  have hunused : mgr.events.get? new.eventId = none := by
    rw [hcopied.events, hcopied.eventId]
    exact hfresh
  cases hcopies with
  | absent => exact hcopied
  | refused =>
    exact { hcopied with
      grown := hcopied.grown.keep (keeps_numbers (mgr.withEvent new) 0 1) }
  | @stored after invite hnumber hevent hadd =>
    obtain ⟨hzero, hadmits, hevents, heventNum, hinviteNum⟩ := addInvite_spec hadd
    have hsame : (new.addInvite invite.inviteId).eventId = new.eventId :=
      new.addInvite_eventId invite.inviteId
    have hunchanged : (new.addInvite invite.inviteId).creatorGUID = new.creatorGUID ∧
        (new.addInvite invite.inviteId).guildId = new.guildId ∧
        (new.addInvite invite.inviteId).details = new.details := by
      unfold CalendarEvent.addInvite
      rw [if_pos hzero]
      exact ⟨rfl, rfl, rfl⟩
    have henrolls : Enrolls (mgr.withEvent new)
        (after.withEvent (new.addInvite invite.inviteId)) invite := by
      have hafter : after.events.get? (new.addInvite invite.inviteId).eventId = none := by
        rw [hevents, hsame]
        exact hunused
      exact
        { events := fun eventId hsome => by
            rw [isSome_withEvent, hevents, hsame] at hsome
            exact Or.inl (isSome_withEvent.mpr hsome)
          eventNum := heventNum.ge
          inviteNum := (Nat.le_add_right _ 1).trans hinviteNum.ge
          fresh := hadmits.fresh
          invites := hadmits.invites
          playerInvites := hadmits.playerInvites
          playerEvents := hadmits.playerEvents
          listed := fun inviteId eventId => by
            have hevent : eventId = invite.eventId ↔ eventId = new.eventId := by
              rw [hevent, hcopied.eventId]
            have hold : after.Listed inviteId eventId ↔ mgr.Listed inviteId eventId := by
              unfold Listed
              rw [hevents]
            rw [listed_withEvent hafter, listed_withEvent hunused, hsame, hevent, hold,
              mem_addInvite hzero]
            tauto
          later := hnumber ▸ Nat.lt_succ_self _
          counted := (hnumber.trans hinviteNum.symm).le }
    refine
      { grown := hcopied.grown.enroll henrolls
        events := hevents.trans hcopied.events
        eventNum := heventNum.trans hcopied.eventNum
        eventId := hsame.trans hcopied.eventId
        creator := hunchanged.1.trans hcopied.creator
        guild := hunchanged.2.1.trans hcopied.guild
        details := hunchanged.2.2.trans hcopied.details
        invites := fun inviteId => ?_ }
    rw [hadmits.invites inviteId]
    split
    next heq =>
      subst heq
      rcases hcopied.invites invite.inviteId with hold | hnew
      · exact Or.inr ⟨hold.symm.trans hadmits.fresh, invite, rfl, hevent⟩
      · exact Or.inr ⟨hnew.1, invite, rfl, hevent⟩
    · exact hcopied.invites inviteId

theorem copied_foldl (player : Player) {start : CalendarMgr}
    (hfresh : start.events.get? event.eventId = none) (ids : List Nat)
    {copied : CalendarMgr × CalendarEvent} (hcopied : Copied start copied.1 event copied.2) :
    let result := ids.foldl (copyInvite player event.eventId) copied
    Copied start result.1 event result.2 := by
  induction ids generalizing copied with
  | nil => exact hcopied
  | cons id rest ih =>
    exact ih (hcopied.step hfresh (copyInvite_cases player event.eventId _ _ id))

theorem Copied.refl (start : CalendarMgr) (event : CalendarEvent) :
    Copied start start event event :=
  ⟨.refl, rfl, rfl, rfl, rfl, rfl, rfl, fun _ => Or.inl rfl⟩

theorem copyEvent_spec (hregular : mgr.Regular) (player : Player) (event : CalendarEvent)
    (eventTime : UInt32) :
    ∃ (copied : CalendarMgr) (new : CalendarEvent), new.eventId = mgr.eventNum + 1 ∧
      mgr.copyEvent player event eventTime = copied.withEvent new ∧
      copied.events = mgr.events ∧ Grown mgr (copied.withEvent new) ∧
      ∀ id, copied.invites.get? id = mgr.invites.get? id ∨ mgr.invites.get? id = none ∧
        ∃ invite, copied.invites.get? id = some invite ∧ invite.eventId = mgr.eventNum + 1 := by
  unfold copyEvent
  extract_lets counted details copy copied
  have hfresh : counted.events.get? copy.eventId = none :=
    hregular.event_fresh (Nat.lt_succ_self mgr.eventNum)
  have hcopied : Copied counted copied.1 copy copied.2 :=
    copied_foldl player hfresh _ (Copied.refl counted copy)
  have hunused : copied.1.events.get? copied.2.eventId = none := by
    rw [hcopied.events, hcopied.eventId]
    exact hfresh
  have hstart : Grown mgr (counted.withEvent copy) :=
    (Grown.refl.keep (keeps_numbers mgr 1 0)).keep (keeps_withEvent hfresh rfl (Nat.le_refl _))
  refine ⟨copied.1, copied.2, hcopied.eventId, ?_, hcopied.events, hstart.trans hcopied.grown,
    hcopied.invites⟩
  rw [addEvent_of_fresh hunused]
  rfl

theorem addEvent_enrolls (hregular : mgr.Regular) (player : Player) (event : CalendarEvent)
    (invite : CalendarInvite) (heventId : event.eventId = mgr.eventNum + 1)
    (hinviteId : invite.inviteId = mgr.inviteNum + 1) (hevent : invite.eventId = event.eventId)
    (hinvites : event.invites = {invite.inviteId}) :
    ∃ after, addAction { mgr with inviteNum := mgr.inviteNum + 1, eventNum := mgr.eventNum + 1 }
        player (.addEvent event invite) = after ∧
      Enrolls mgr after invite ∧ after.events = (mgr.withEvent event).events := by
  have hfresh : mgr.events.get? event.eventId = none :=
    hregular.event_fresh (heventId ▸ Nat.lt_succ_self _)
  have hunused : mgr.invites.get? invite.inviteId = none :=
    hregular.invite_fresh (hinviteId ▸ Nat.lt_succ_self _)
  set counted := { mgr with inviteNum := mgr.inviteNum + 1, eventNum := mgr.eventNum + 1 }
    with hcounted
  have hadded : (counted.withEvent event).addInvite invite ≠ none := by
    rw [← Option.isSome_iff_ne_none]
    exact addInvite_isSome (hinviteId ▸ Nat.succ_ne_zero _) hunused
  obtain ⟨after, hafter⟩ := Option.ne_none_iff_exists'.mp hadded
  obtain ⟨-, hadmits, hevents, heventNum, hinviteNum⟩ := addInvite_spec hafter
  refine ⟨after, ?_, ?_, hevents⟩
  · have hadd : counted.addEvent event = some (counted.withEvent event) :=
      addEvent_of_fresh hfresh
    simp only [addAction, hadd, hafter, Option.getD_some]
  · exact
      { events := fun eventId hsome => by
          rw [hevents] at hsome
          rcases isSome_withEvent.mp hsome with hold | rfl
          · exact Or.inl hold
          · exact Or.inr (heventId.trans heventNum.symm).le
        eventNum := (Nat.le_succ _).trans heventNum.ge
        inviteNum := (Nat.le_succ _).trans hinviteNum.ge
        fresh := hadmits.fresh
        invites := hadmits.invites
        playerInvites := hadmits.playerInvites
        playerEvents := hadmits.playerEvents
        listed := fun inviteId eventId => by
          have hlists : after.Listed inviteId eventId ↔
              (mgr.withEvent event).Listed inviteId eventId := by
            unfold Listed
            rw [hevents]
            rfl
          rw [hlists, listed_withEvent hfresh, hinvites, Finset.mem_singleton, hevent]
        later := hinviteId ▸ Nat.lt_succ_self _
        counted := (hinviteId.trans hinviteNum.symm).le }

theorem addEvent_keeps (hregular : mgr.Regular) (player : Player) (event : CalendarEvent)
    (invite : CalendarInvite) (heventId : event.eventId = mgr.eventNum + 1)
    (hinviteId : invite.inviteId = 0) (hinvites : event.invites = ∅) :
    ∃ after, addAction { mgr with eventNum := mgr.eventNum + 1 } player (.addEvent event invite) =
        after ∧ Grown mgr after ∧ after.events = (mgr.withEvent event).events ∧
      after.invites = mgr.invites := by
  set counted := { mgr with eventNum := mgr.eventNum + 1 } with hcounted
  have hfresh : counted.events.get? event.eventId = none :=
    hregular.event_fresh (heventId ▸ Nat.lt_succ_self _)
  refine ⟨counted.withEvent event, ?_, ?_, rfl, rfl⟩
  · have hadd : counted.addEvent event = some (counted.withEvent event) :=
      addEvent_of_fresh hfresh
    have hrefused : (counted.withEvent event).addInvite invite = none := if_pos hinviteId
    simp only [addAction, hadd, hrefused, Option.getD_none]
  · exact (Grown.refl.keep (keeps_numbers mgr 1 0)).keep
      (keeps_withEvent hfresh hinvites heventId.le)

/-- A moderator's invite is stored and listed. -/
theorem addEventInvite_cases (hregular : mgr.Regular) {ownInviteId : Nat}
    (invite : CalendarInvite) (hinviteId : invite.inviteId = mgr.inviteNum + 1)
    {after : CalendarMgr} (hafter : addAction { mgr with inviteNum := mgr.inviteNum + 1 } player
      (.addEventInvite ownInviteId invite) = after) :
    Keeps mgr after ∧ after.events = mgr.events ∧ after.invites = mgr.invites ∨
      ∃ event own, mgr.Permitted invite.eventId player ownInviteId .moderator event own ∧
        Enrolls mgr after invite ∧
        ∀ other, other ≠ invite.eventId → after.events.get? other = mgr.events.get? other := by
  set counted := { mgr with inviteNum := mgr.inviteNum + 1 } with hcounted
  simp only [addAction] at hafter
  cases hcheck : counted.checkPermisions invite.eventId player ownInviteId .moderator with
  | none =>
    rw [hcheck] at hafter
    exact Or.inl (hafter ▸ ⟨keeps_numbers mgr 0 1, rfl, rfl⟩)
  | some event =>
    rw [hcheck] at hafter
    obtain ⟨own, hpermitted⟩ := checkPermisions_spec hcheck
    have hadded : counted.addInvite invite ≠ none := by
      rw [← Option.isSome_iff_ne_none]
      exact addInvite_isSome (hinviteId ▸ Nat.succ_ne_zero _)
        (hregular.invite_fresh (hinviteId ▸ Nat.lt_succ_self _))
    obtain ⟨stored, hstored⟩ := Option.ne_none_iff_exists'.mp hadded
    obtain ⟨hzero, hadmits, hevents, heventNum, hinviteNum⟩ := addInvite_spec hstored
    rw [hstored] at hafter
    have hkey : ∀ event : CalendarEvent,
        Keyed.key (event.addInvite invite.inviteId) = Keyed.key event :=
      fun event => event.addInvite_eventId invite.inviteId
    subst hafter
    refine Or.inr ⟨event, own, ⟨hpermitted.eventFound, hpermitted.inviteFound,
      hpermitted.listed, hpermitted.sameEvent, hpermitted.own, hpermitted.ranked⟩, ?_, ?_⟩
    · exact
        { events := fun eventId hsome => by
            rw [isSome_modify hkey rfl eventId, hevents] at hsome
            exact Or.inl hsome
          eventNum := heventNum.ge
          inviteNum := (Nat.le_succ _).trans hinviteNum.ge
          fresh := hadmits.fresh
          invites := hadmits.invites
          playerInvites := hadmits.playerInvites
          playerEvents := hadmits.playerEvents
          listed := fun inviteId eventId => by
            rw [listed_modify hkey rfl inviteId eventId, hevents]
            by_cases hsame : eventId = invite.eventId
            · subst hsame
              have hfound : mgr.events.get? invite.eventId = some event := hpermitted.eventFound
              unfold Listed
              simp only [hpermitted.eventFound, hfound, Option.some.injEq, exists_eq_left',
                if_pos, and_true, mem_addInvite hzero]
              exact or_comm
            · simp only [hsame, if_false, and_false, or_false]
              rfl
          later := hinviteId ▸ Nat.lt_succ_self _
          counted := (hinviteId.trans hinviteNum.symm).le }
    · intro other hother
      rw [Table.get?_modify, if_neg hother, hevents]

/-! ## The other actions -/

theorem setStatus_cases (mgr : CalendarMgr) (player : Player) (minRank : CalendarModerationRank)
    (ownInviteId inviteId eventId : Nat) (status : CalendarInviteStatus) :
    mgr.setStatus player minRank ownInviteId inviteId eventId status = mgr ∨
      ∃ event invite, mgr.events.get? eventId = some event ∧
        (ownInviteId ≠ inviteId →
          ∃ own, mgr.Permitted eventId player ownInviteId minRank event own) ∧
        mgr.invites.get? inviteId = some invite ∧ inviteId ∈ event.invites ∧
        mgr.setStatus player minRank ownInviteId inviteId eventId status =
          { mgr with invites := mgr.invites.modify inviteId fun invite =>
              { invite with status := status } } := by
  unfold setStatus
  extract_lets found
  cases hevent : found with
  | none => exact Or.inl rfl
  | some event =>
    cases hinvite : mgr.invites.get? inviteId with
    | none => exact Or.inl rfl
    | some invite =>
      dsimp only
      split
      next hlisted =>
        refine Or.inr ⟨event, invite, ?_, fun hother => ?_, rfl, hlisted, rfl⟩
        · by_cases hother : ownInviteId ≠ inviteId
          · obtain ⟨own, hpermitted⟩ :=
              checkPermisions_spec ((if_pos hother).symm.trans hevent)
            exact hpermitted.eventFound
          · exact (if_neg hother).symm.trans hevent
        · exact checkPermisions_spec ((if_pos hother).symm.trans hevent)
      · exact Or.inl rfl

/-- The event is open to the guild of the player. -/
structure SignsUp (mgr : CalendarMgr) (player : Player) (eventId : Nat) (event : CalendarEvent) :
    Prop where
  found : mgr.events.get? eventId = some event
  guildOnly : event.details.flags &&& CalendarFlag.guildOnly ≠ 0
  guild : event.guildId ≠ 0
  sameGuild : event.guildId = player.guildId

theorem signupToEvent_cases (hregular : mgr.Regular) (player : Player) (eventId : Nat)
    (status : CalendarInviteStatus) (statusTime : UInt32) :
    (∀ event, ¬mgr.SignsUp player eventId event) ∧
        mgr.addAction player (.signupToEvent eventId status statusTime) = mgr ∨
      ∃ event after new, mgr.SignsUp player eventId event ∧
        mgr.addAction player (.signupToEvent eventId status statusTime) = after ∧
        new.inviteId = mgr.inviteNum + 1 ∧ new.eventId = eventId ∧ new.invitee = player.guid ∧
        Admits mgr after new ∧ after.events = mgr.events ∧ after.eventNum = mgr.eventNum ∧
        after.inviteNum = mgr.inviteNum + 1 := by
  simp only [addAction]
  cases hevent : mgr.events.get? eventId with
  | none =>
    refine Or.inl ⟨fun event hsigns => ?_, rfl⟩
    have hfound := hsigns.found
    rw [hevent] at hfound
    cases hfound
  | some event =>
    dsimp only
    split
    next hclosed =>
      refine Or.inl ⟨fun other hsigns => ?_, rfl⟩
      have hfound := hsigns.found
      rw [hevent] at hfound
      cases hfound
      rcases hclosed with hflags | hguild | hguild
      · exact hsigns.guildOnly hflags
      · exact hsigns.guild hguild
      · exact hguild hsigns.sameGuild
    next hopen =>
      rw [not_or, not_or, not_not] at hopen
      have hadded : ∀ counted : CalendarMgr, ∀ new : CalendarInvite,
          counted.invites = mgr.invites → new.inviteId = mgr.inviteNum + 1 →
          ∃ after, counted.addInvite new = some after := by
        intro counted new hinvites hnumber
        apply Option.isSome_iff_exists.mp
        apply addInvite_isSome (hnumber ▸ Nat.succ_ne_zero _)
        rw [hinvites]
        exact hregular.invite_fresh (hnumber ▸ Nat.lt_succ_self _)
      obtain ⟨after, hafter⟩ := hadded { mgr with inviteNum := mgr.inviteNum + 1 }
        { inviteId := mgr.inviteNum + 1, eventId := eventId, invitee := player.guid
          senderGUID := player.guid, statusTime := statusTime
          status :=
            if status = .invited then CalendarInviteStatus.confirmed
            else if status = .accepted then .status8
            else status
          rank := .player, text := "" } rfl rfl
      obtain ⟨-, hadmits, hevents, heventNum, hinviteNum⟩ := addInvite_spec hafter
      refine Or.inr ⟨event, after, _, ⟨hevent, hopen.1, hopen.2.1, hopen.2.2⟩, ?_, rfl, rfl, rfl,
        ⟨hadmits.fresh, hadmits.invites, hadmits.playerInvites, hadmits.playerEvents⟩, hevents,
        heventNum, hinviteNum⟩
      rw [hafter, Option.getD_some]

/-- The invite is removed by a moderator of the event he names. -/
structure Withdraws (mgr : CalendarMgr) (player : Player) (ownInviteId inviteId eventId : Nat)
    (event : CalendarEvent) (invite : CalendarInvite) : Prop where
  checked : mgr.checkPermisions eventId player ownInviteId .moderator = some event
  found : mgr.invites.get? inviteId = some invite
  notCreator : event.creatorGUID ≠ invite.invitee

theorem removeEventInvite_cases (mgr : CalendarMgr) (player : Player)
    (ownInviteId inviteId eventId : Nat) :
    (∀ event invite, ¬mgr.Withdraws player ownInviteId inviteId eventId event invite) ∧
        mgr.addAction player (.removeEventInvite ownInviteId inviteId eventId) = mgr ∨
      ∃ event invite, mgr.Withdraws player ownInviteId inviteId eventId event invite ∧
        mgr.addAction player (.removeEventInvite ownInviteId inviteId eventId) =
          (mgr.removeInvite inviteId).1 := by
  simp only [addAction]
  cases hcheck : mgr.checkPermisions eventId player ownInviteId .moderator with
  | none =>
    refine Or.inl ⟨fun event invite hwithdraws => ?_, rfl⟩
    have hchecked := hwithdraws.checked
    rw [hcheck] at hchecked
    cases hchecked
  | some event =>
    cases hinvite : mgr.invites.get? inviteId with
    | none =>
      refine Or.inl ⟨fun other invite hwithdraws => ?_, rfl⟩
      have hfound := hwithdraws.found
      rw [hinvite] at hfound
      cases hfound
    | some invite =>
      dsimp only
      split
      next hcreator =>
        refine Or.inl ⟨fun other found hwithdraws => ?_, rfl⟩
        have hchecked := hwithdraws.checked
        have hfound := hwithdraws.found
        rw [hcheck] at hchecked
        rw [hinvite] at hfound
        cases hchecked
        cases hfound
        exact hwithdraws.notCreator hcreator
      next hother => exact Or.inr ⟨event, invite, ⟨hcheck, hinvite, hother⟩, rfl⟩

/-! ## Requests -/

/-- The requests that take nothing away and list every invite they add. -/
def Request.Growing : Request → Prop
  | .removeEvent _ _ | .eventSignup _ _ _ | .eventRemoveInvite _ _ _ => False
  | _ => True

theorem setStatus_grown (mgr : CalendarMgr) (player : Player) (minRank : CalendarModerationRank)
    (ownInviteId inviteId eventId : Nat) (status : CalendarInviteStatus) :
    Grown mgr (mgr.setStatus player minRank ownInviteId inviteId eventId status) := by
  rcases setStatus_cases mgr player minRank ownInviteId inviteId eventId status with
    hsame | ⟨_, _, -, -, -, -, hset⟩
  · rw [hsame]
    exact .refl
  · rw [hset]
    exact Grown.refl.keep (keeps_setStatus mgr inviteId status)

/-- A new event has the next id; its one invite, if it has one, is the creator's. -/
theorem addEvent_cases (hregular : mgr.Regular) (player : Player) (details : EventDetails)
    (inviteCount : UInt32) (invitee : Nat) (status : CalendarInviteStatus)
    (rank : CalendarModerationRank) :
    let after := mgr.handle player (.addEvent details inviteCount invitee status rank)
    after = mgr ∨
      (∃ event invite, event.eventId = mgr.eventNum + 1 ∧ invite.eventId = mgr.eventNum + 1 ∧
        Enrolls mgr after invite ∧ after.events = (mgr.withEvent event).events) ∨
      ∃ event, event.eventId = mgr.eventNum + 1 ∧ Grown mgr after ∧
        after.events = (mgr.withEvent event).events ∧ after.invites = mgr.invites := by
  simp only [handle]
  generalize (if details.flags &&& CalendarFlag.guildOnly ≠ 0 then player.guildId else 0) = guildId
  by_cases hflags : details.flags &&& CalendarFlag.withoutInvites = 0
  · rw [if_pos hflags]
    by_cases hinvalid : inviteCount ≠ 1 ∨ invitee ≠ player.guid
    · exact Or.inl (if_pos hinvalid)
    · rw [if_neg hinvalid]
      obtain ⟨after, hafter, henrolls, hevents⟩ := addEvent_enrolls hregular player
        { eventId := mgr.eventNum + 1, creatorGUID := player.guid, guildId := guildId
          details := details, invites := {mgr.inviteNum + 1} }
        { inviteId := mgr.inviteNum + 1, eventId := mgr.eventNum + 1, invitee := invitee
          senderGUID := player.guid, statusTime := 0, status := status, rank := rank
          text := "" } rfl rfl rfl rfl
      rw [hafter]
      exact Or.inr (Or.inl ⟨_, _, rfl, rfl, henrolls, hevents⟩)
  · rw [if_neg hflags]
    obtain ⟨after, hafter, hgrown, hevents, hinvites⟩ := addEvent_keeps hregular player
      { eventId := mgr.eventNum + 1, creatorGUID := player.guid, guildId := guildId
        details := details, invites := ∅ }
      { inviteId := 0, eventId := mgr.eventNum + 1, invitee := 0, senderGUID := player.guid
        statusTime := 0, status := .noOwner, rank := .player, text := "" } rfl rfl rfl
    rw [hafter]
    exact Or.inr (Or.inr ⟨_, rfl, hgrown, hevents, hinvites⟩)

theorem handle_grown (hregular : mgr.Regular) (player : Player) {request : Request}
    (hgrowing : request.Growing) : Grown mgr (mgr.handle player request) := by
  cases request with
  | removeEvent _ _ | eventSignup _ _ _ | eventRemoveInvite _ _ _ => exact hgrowing.elim
  | addEvent details inviteCount invitee status rank =>
    rcases addEvent_cases hregular player details inviteCount invitee status rank with
      hsame | ⟨_, _, -, -, henrolls, -⟩ | ⟨_, -, hgrown, -⟩
    · rw [hsame]
      exact .refl
    · exact Grown.refl.enroll henrolls
    · exact hgrown
  | updateEvent eventId inviteId details =>
    simp only [handle, addAction]
    split
    · exact .refl
    · exact Grown.refl.keep (keeps_modifyEvent mgr eventId details)
  | copyEvent eventId inviteId eventTime =>
    simp only [handle, addAction]
    split
    · exact .refl
    next event _ =>
      obtain ⟨copied, new, -, hcopy, -, hgrown, -⟩ := copyEvent_spec hregular player event eventTime
      rw [hcopy]
      exact hgrown
  | eventInvite eventId inviteId invitee allied status rank =>
    simp only [handle]
    split
    · exact .refl
    · generalize hinvite : CalendarInvite.mk _ _ _ _ _ _ _ _ = invite
      have hnumber : invite.inviteId = mgr.inviteNum + 1 := hinvite ▸ rfl
      rcases addEventInvite_cases hregular invite hnumber rfl with
        ⟨hkeeps, -, -⟩ | ⟨_, _, -, henrolls, -⟩
      · exact Grown.refl.keep hkeeps
      · exact Grown.refl.enroll henrolls
  | eventRsvp _ _ _ | eventStatus _ _ _ _ => exact setStatus_grown mgr player _ _ _ _ _
  | eventModeratorStatus eventId inviteId ownInviteId status =>
    exact setStatus_grown mgr player _ _ _ _ _

theorem removeEvent_cases (mgr : CalendarMgr) (player : Player) (inviteId eventId : Nat) :
    mgr.addAction player (.removeEvent inviteId eventId) = mgr ∨
      ∃ event own removed, mgr.Permitted eventId player inviteId .owner event own ∧
        Removes mgr removed eventId (event.invites.sort (· ≤ ·)) ∧
        mgr.addAction player (.removeEvent inviteId eventId) =
          { removed with events := mgr.events.erase eventId } := by
  simp only [addAction]
  split
  · exact Or.inl rfl
  next event hcheck =>
    obtain ⟨own, hpermitted⟩ := checkPermisions_spec hcheck
    obtain ⟨removed, hremoves, hremoved⟩ := removeEvent_spec hpermitted.eventFound
    exact Or.inr ⟨event, own, removed, hpermitted, hremoves, hremoved⟩

/-- Taking records away keeps the calendar regular. -/
theorem Regular.shrink (hregular : mgr.Regular)
    (hevents : ∀ eventId event, after.events.get? eventId = some event →
      mgr.events.get? eventId = some event)
    (hinvites : ∀ inviteId invite, after.invites.get? inviteId = some invite →
      mgr.invites.get? inviteId = some invite)
    (heventNum : after.eventNum = mgr.eventNum) (hinviteNum : after.inviteNum = mgr.inviteNum) :
    after.Regular := by
  refine hregular.advance ⟨fun eventId hsome => ?_, heventNum.ge, hinviteNum.ge⟩ ?_ ?_
  · obtain ⟨event, hevent⟩ := Option.isSome_iff_exists.mp hsome
    exact Or.inl (hevents eventId event hevent ▸ rfl)
  · rintro inviteId eventId guid ⟨invite, hinvite, hrest⟩
    exact Or.inl ⟨invite, hinvites inviteId invite hinvite, hrest⟩
  · rintro inviteId eventId ⟨event, hevent, hlisted⟩
    exact Or.inl ⟨event, hevents eventId event hevent, hlisted⟩

theorem get?_of_erase {Row Key : Type*} [DecidableEq Key] [Keyed Row Key]
    {table : Table Row} {key other : Key}
    {row : Row} (hget : (table.erase key).get? other = some row) : table.get? other = some row := by
  rw [Table.get?_erase] at hget
  split at hget
  · cases hget
  · exact hget

/-- The calendar stays regular whatever the players ask for. -/
theorem handle_regular (hregular : mgr.Regular) (player : Player) (request : Request) :
    (mgr.handle player request).Regular := by
  by_cases hgrowing : request.Growing
  · exact (handle_grown hregular player hgrowing).regular hregular
  cases request with
  | removeEvent eventId inviteId =>
    rcases removeEvent_cases mgr player inviteId eventId with
      hsame | ⟨_, _, removed, -, hremoves, hremoved⟩
    · simp only [handle, hsame]
      exact hregular
    · simp only [handle, hremoved]
      refine hregular.shrink (fun other event hevent => get?_of_erase hevent)
        (fun id invite hinvite => ?_) hremoves.eventNum hremoves.inviteNum
      have hget : removed.invites.get? id = some invite := hinvite
      rw [hremoves.invites id] at hget
      split at hget
      · cases hget
      · exact hget
  | eventSignup eventId status now =>
    rcases signupToEvent_cases hregular player eventId status now with
      ⟨-, hsame⟩ | ⟨_, after, new, -, hafter, hnumber, -, -, hadmits, hevents, heventNum, hinviteNum⟩
    · simp only [handle, hsame]
      exact hregular
    · simp only [handle, hafter]
      refine hadmits.regular ⟨fun other hsome => Or.inl (hevents ▸ hsome), heventNum.ge, ?_⟩
        ?_ ?_ (fun inviteId other hlisted => Or.inl ?_) hregular
      · exact hinviteNum ▸ Nat.le_succ _
      · exact hnumber ▸ Nat.lt_succ_self _
      · exact (hnumber.trans hinviteNum.symm).le
      · unfold Listed at hlisted ⊢
        rw [hevents] at hlisted
        exact hlisted
  | eventRemoveInvite inviteId ownInviteId eventId =>
    rcases removeEventInvite_cases mgr player ownInviteId inviteId eventId with
      ⟨-, hsame⟩ | ⟨event, invite, hwithdraws, hafter⟩
    · simp only [handle, hsame]
      exact hregular
    · simp only [handle, hafter, removeInvite_of_some hwithdraws.found]
      exact hregular.shrink (fun _ _ hevent => hevent)
        (fun _ _ hinvite => get?_of_erase hinvite) rfl rfl
  | _ => exact absurd trivial hgrowing

theorem empty_regular : empty.Regular where
  eventNum eventId hsome := by cases hsome
  inviteNum inviteId eventId guid hheld := by
    obtain ⟨invite, hinvite, -⟩ := hheld
    cases hinvite
  listed inviteId eventId hlisted := by
    obtain ⟨event, hevent, -⟩ := hlisted
    cases hevent

/-- In every run no id is given out twice, and an invite that is listed belongs to its event. -/
theorem regular_run (calls : List (Player × Request)) : (calls.foldl step empty).Regular :=
  invariant_of_along step Regular (fun _ _ => True)
    (fun _ call hregular _ => handle_regular hregular call.1 call.2) empty calls empty_regular
    (along_of_forall step (fun _ _ => trivial) empty calls) _ (foldl_mem_visited step empty calls)

/-- An event of guild 7 with its creator's invite. -/
def guildEvent : Player × Request :=
  (⟨100, 7⟩, .addEvent
    { type := 0, dungeonId := 0, maxInvites := 100, eventTime := 0, flags := CalendarFlag.guildOnly
      repeatable := false, timezoneTime := 0, title := "raid", description := "" }
    1 100 .confirmed .owner)

end CalendarMgr

end MopServer.Calendar
