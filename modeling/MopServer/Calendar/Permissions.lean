import MopServer.Calendar.Regularity

/-! # Who may change the calendar

A player changes an event, or an invite of it, through an invite of his own.  The checks take three
ids from the packet: an invite named twice is not checked at all, and an invite to be removed is
not compared with the event.
-/

namespace MopServer.Calendar

open MopServer.Foundation

namespace CalendarMgr

variable {mgr after : CalendarMgr} {player : Player} {event : CalendarEvent} {eventId : Nat}

def Holds (mgr : CalendarMgr) (player : Player) (eventId : Nat) (rank : CalendarModerationRank) :
    Prop :=
  ∃ inviteId invite, mgr.invites.get? inviteId = some invite ∧ invite.eventId = eventId ∧
    invite.invitee = player.guid ∧ rank ≤ invite.rank

/-- The rank its action asks for; a new event asks for none. -/
def Request.requiredRank : Request → CalendarModerationRank
  | .addEvent .. | .removeEvent .. | .copyEvent .. | .eventModeratorStatus .. => .owner
  | .updateEvent .. | .eventInvite .. | .eventSignup .. | .eventRsvp .. | .eventRemoveInvite ..
  | .eventStatus .. => .moderator

/-- Every change to an event of the calendar or to its invites is covered by an invite of the
player, is the status of his own invite, or is his own sign-up to an event of his guild. -/
structure Authorized (mgr after : CalendarMgr) (player : Player) (request : Request) : Prop where
  events : ∀ eventId event, mgr.events.get? eventId = some event →
    after.events.get? eventId = some event ∨ mgr.Holds player eventId request.requiredRank
  invites : ∀ inviteId invite, mgr.invites.get? inviteId = some invite →
    (mgr.events.get? invite.eventId).isSome →
    after.invites.get? inviteId = some invite ∨
      mgr.Holds player invite.eventId request.requiredRank ∨
      invite.invitee = player.guid ∧
        ∃ status, after.invites.get? inviteId = some { invite with status := status }
  added : ∀ inviteId invite event, mgr.invites.get? inviteId = none →
    after.invites.get? inviteId = some invite → mgr.events.get? invite.eventId = some event →
    mgr.Holds player invite.eventId request.requiredRank ∨
      (∃ status now, request = .eventSignup invite.eventId status now) ∧
        invite.invitee = player.guid ∧ event.guildId ≠ 0 ∧ event.guildId = player.guildId

/-- A status set through the invite itself is set on an own invite, under the required rank, or to
what it is. -/
def StatusAllowed (mgr : CalendarMgr) (player : Player) (rank : CalendarModerationRank)
    (ownInviteId inviteId eventId : Nat) (status : CalendarInviteStatus) : Prop :=
  ownInviteId = inviteId → ∀ event invite, mgr.events.get? eventId = some event →
    inviteId ∈ event.invites → mgr.invites.get? inviteId = some invite →
    invite.invitee = player.guid ∨ invite.status = status ∨ mgr.Holds player eventId rank

/-- The player may do what the checks let him do. -/
def Allowed (mgr : CalendarMgr) (player : Player) : Request → Prop
  | .eventRsvp eventId inviteId status =>
    mgr.StatusAllowed player .moderator inviteId inviteId eventId status
  | .eventStatus eventId inviteId ownInviteId status =>
    mgr.StatusAllowed player .moderator ownInviteId inviteId eventId status
  | .eventModeratorStatus eventId inviteId ownInviteId status =>
    mgr.StatusAllowed player .owner ownInviteId inviteId eventId status
  | .eventRemoveInvite inviteId ownInviteId eventId =>
    ∀ event invite, mgr.Withdraws player ownInviteId inviteId eventId event invite →
      mgr.Holds player invite.eventId .moderator ∨ mgr.events.get? invite.eventId = none
  | _ => True

theorem Permitted.holds {inviteId : Nat} {minRank : CalendarModerationRank} {own : CalendarInvite}
    (hpermitted : mgr.Permitted eventId player inviteId minRank event own) :
    mgr.Holds player eventId minRank :=
  ⟨inviteId, own, hpermitted.inviteFound, hpermitted.sameEvent, hpermitted.own, hpermitted.ranked⟩

/-- The records of the calendar are still there. -/
theorem authorized_of_new {request : Request}
    (hevents : ∀ eventId event, mgr.events.get? eventId = some event →
      after.events.get? eventId = some event)
    (hinvites : ∀ inviteId, after.invites.get? inviteId = mgr.invites.get? inviteId ∨
      mgr.invites.get? inviteId = none ∧ ∃ invite, after.invites.get? inviteId = some invite ∧
        mgr.events.get? invite.eventId = none) : Authorized mgr after player request where
  events eventId event hevent := Or.inl (hevents eventId event hevent)
  invites inviteId invite hinvite _ := by
    rcases hinvites inviteId with hsame | ⟨hnone, -⟩
    · exact Or.inl (hsame.trans hinvite)
    · rw [hinvite] at hnone
      cases hnone
  added inviteId invite event hnone hinvite hevent := by
    rcases hinvites inviteId with hsame | ⟨-, found, hfound, habsent⟩
    · rw [hsame, hnone] at hinvite
      cases hinvite
    · rw [hinvite] at hfound
      cases hfound
      rw [hevent] at habsent
      cases habsent

theorem authorized_refl (mgr : CalendarMgr) (player : Player) (request : Request) :
    Authorized mgr mgr player request :=
  authorized_of_new (fun _ _ hevent => hevent) fun _ => Or.inl rfl

theorem Admits.invites_cases {new : CalendarInvite} (hadmits : Admits mgr after new)
    (inviteId : Nat) : after.invites.get? inviteId = mgr.invites.get? inviteId ∨
      inviteId = new.inviteId ∧ mgr.invites.get? inviteId = none ∧
        after.invites.get? inviteId = some new := by
  rw [hadmits.invites inviteId]
  split
  next heq =>
    subst heq
    exact Or.inr ⟨rfl, hadmits.fresh, rfl⟩
  · exact Or.inl rfl

theorem Admits.keeps {new invite : CalendarInvite} (hadmits : Admits mgr after new) {inviteId : Nat}
    (hold : mgr.invites.get? inviteId = some invite) :
    after.invites.get? inviteId = some invite := by
  rcases hadmits.invites_cases inviteId with hsame | ⟨-, hnone, -⟩
  · exact hsame.trans hold
  · rw [hold] at hnone
    cases hnone

theorem Admits.eq_new {new invite : CalendarInvite} (hadmits : Admits mgr after new)
    {inviteId : Nat} (hnone : mgr.invites.get? inviteId = none)
    (hsome : after.invites.get? inviteId = some invite) : invite = new := by
  rcases hadmits.invites_cases inviteId with hsame | ⟨-, -, hnew⟩
  · rw [hsame, hnone] at hsome
    cases hsome
  · rw [hnew] at hsome
    exact (Option.some.inj hsome).symm

theorem get?_withEvent_of_regular (hregular : mgr.Regular) {new : CalendarEvent}
    (hnew : new.eventId = mgr.eventNum + 1) (hevent : mgr.events.get? eventId = some event) :
    (mgr.withEvent new).events.get? eventId = some event := by
  have hle := hregular.eventNum eventId (by rw [hevent]; rfl)
  rw [get?_withEvent, if_neg (by omega), hevent]

/-! ## Setting the status of an invite -/

theorem setStatus_authorized_iff (hregular : mgr.Regular) {rank : CalendarModerationRank}
    {ownInviteId inviteId : Nat} {status : CalendarInviteStatus} {request : Request}
    (hrank : request.requiredRank = rank) :
    Authorized mgr (mgr.setStatus player rank ownInviteId inviteId eventId status) player request ↔
      mgr.StatusAllowed player rank ownInviteId inviteId eventId status := by
  constructor
  · rintro hauthorized rfl event invite hevent hlisted hinvite
    have hset : mgr.setStatus player rank ownInviteId ownInviteId eventId status =
        { mgr with invites := mgr.invites.modify ownInviteId fun invite =>
            { invite with status := status } } := by
      unfold setStatus
      simp only [ne_eq, not_true_eq_false, if_false, hevent, hinvite, hlisted, if_true]
    have hsame : invite.eventId = eventId :=
      (hregular.listed _ _ ⟨event, hevent, hlisted⟩).2 _ _ ⟨invite, hinvite, rfl, rfl⟩
    have hchange := hauthorized.invites ownInviteId invite hinvite (by rw [hsame, hevent]; rfl)
    rw [hset, Table.get?_modify, if_pos rfl, hinvite, hrank, hsame] at hchange
    rcases hchange with hchange | hholds | ⟨hown, -⟩
    · rw [Option.map_some, Option.some.injEq] at hchange
      exact Or.inr (Or.inl (hchange ▸ rfl))
    · exact Or.inr (Or.inr hholds)
    · exact Or.inl hown
  · intro hallowed
    rcases setStatus_cases mgr player rank ownInviteId inviteId eventId status with
      hsame | ⟨event, target, hevent, hchecked, htarget, hlisted, hset⟩
    · rw [hsame]
      exact authorized_refl mgr player request
    have hget : ∀ id, (mgr.setStatus player rank ownInviteId inviteId eventId status).invites.get?
        id = if id = inviteId then some { target with status := status } else
          mgr.invites.get? id := by
      intro id
      rw [hset, Table.get?_modify, htarget]
      rfl
    have hsame : target.eventId = eventId :=
      (hregular.listed _ _ ⟨event, hevent, hlisted⟩).2 _ _ ⟨target, htarget, rfl, rfl⟩
    refine ⟨fun other found hfound => Or.inl ?_, fun id invite hinvite _ => ?_,
      fun id invite found hnone hinvite _ => ?_⟩
    · rw [hset]
      exact hfound
    · rw [hget, hrank]
      by_cases hid : id = inviteId
      · subst hid
        rw [htarget] at hinvite
        cases hinvite
        rw [if_pos rfl, hsame]
        by_cases hown : ownInviteId = id
        · rcases hallowed hown event target hevent hlisted htarget with hself | rfl | hholds
          · exact Or.inr (Or.inr ⟨hself, status, rfl⟩)
          · subst hsame
            exact Or.inl rfl
          · exact Or.inr (Or.inl hholds)
        · obtain ⟨own, hpermitted⟩ := hchecked hown
          exact Or.inr (Or.inl hpermitted.holds)
      · rw [if_neg hid]
        exact Or.inl hinvite
    · rw [hget] at hinvite
      split at hinvite
      next hid =>
        rw [hid, htarget] at hnone
        cases hnone
      · rw [hnone] at hinvite
        cases hinvite

/-! ## Requests -/

theorem addEvent_authorized (hregular : mgr.Regular) (player : Player) (details : EventDetails)
    (inviteCount : UInt32) (invitee : Nat) (status : CalendarInviteStatus)
    (rank : CalendarModerationRank) :
    let request := Request.addEvent details inviteCount invitee status rank
    Authorized mgr (mgr.handle player request) player request := by
  intro request
  rcases addEvent_cases hregular player details inviteCount invitee status rank with
    hsame | ⟨event, invite, hnew, hinvite, henrolls, hevents⟩ | ⟨event, hnew, -, hevents, hinvites⟩
  · rw [hsame]
    exact authorized_refl mgr player request
  · refine authorized_of_new (fun eventId old hold => ?_) fun inviteId => ?_
    · rw [hevents]
      exact get?_withEvent_of_regular hregular hnew hold
    · rcases henrolls.toAdmits.invites_cases inviteId with hsame | ⟨-, hnone, hsome⟩
      · exact Or.inl hsame
      · exact Or.inr ⟨hnone, invite, hsome,
          hregular.event_fresh (hinvite ▸ Nat.lt_succ_self mgr.eventNum)⟩
  · refine authorized_of_new (fun eventId old hold => ?_) fun inviteId => Or.inl ?_
    · rw [hevents]
      exact get?_withEvent_of_regular hregular hnew hold
    · rw [hinvites]

theorem updateEvent_authorized (mgr : CalendarMgr) (player : Player) (eventId inviteId : Nat)
    (details : EventDetails) :
    let request := Request.updateEvent eventId inviteId details
    Authorized mgr (mgr.handle player request) player request := by
  intro request
  simp only [request, handle, addAction]
  cases hcheck : mgr.checkPermisions eventId player inviteId .moderator with
  | none => exact authorized_refl mgr player request
  | some event =>
    obtain ⟨own, hpermitted⟩ := checkPermisions_spec hcheck
    refine ⟨fun other found hfound => ?_, fun id invite hinvite _ => Or.inl hinvite,
      fun id invite found hnone hinvite _ => ?_⟩
    · by_cases hother : other = eventId
      · exact Or.inr (hother ▸ hpermitted.holds)
      · dsimp only
        rw [Table.get?_modify, if_neg hother]
        exact Or.inl hfound
    · rw [show mgr.invites.get? id = some invite from hinvite] at hnone
      cases hnone

theorem removeEvent_authorized (hregular : mgr.Regular) (player : Player)
    (eventId inviteId : Nat) :
    let request := Request.removeEvent eventId inviteId
    Authorized mgr (mgr.handle player request) player request := by
  intro request
  simp only [request, handle]
  rcases removeEvent_cases mgr player inviteId eventId with
    hsame | ⟨event, own, removed, hpermitted, hremoves, hremoved⟩
  · rw [hsame]
    exact authorized_refl mgr player request
  rw [hremoved]
  have hget : ∀ id, removed.invites.get? id = _ := hremoves.invites
  refine ⟨fun other found hfound => ?_, fun id invite hinvite _ => ?_,
    fun id invite found hnone hinvite _ => ?_⟩
  · dsimp only
    rw [Table.get?_erase]
    split
    next hother => exact Or.inr (hother ▸ hpermitted.holds)
    · exact Or.inl hfound
  · dsimp only
    rw [hget]
    split
    next hmem =>
      -- what the list names is an invite of the event itself
      have hlisted : mgr.Listed id eventId :=
        ⟨event, hpermitted.eventFound, (Finset.mem_sort _).mp hmem⟩
      have hsame := (hregular.listed _ _ hlisted).2 _ _ ⟨invite, hinvite, rfl, rfl⟩
      exact Or.inr (Or.inl (hsame ▸ hpermitted.holds))
    · exact Or.inl hinvite
  · dsimp only at hinvite
    rw [hget, hnone, ite_self] at hinvite
    cases hinvite

theorem copyEvent_authorized (hregular : mgr.Regular) (player : Player) (eventId inviteId : Nat)
    (eventTime : UInt32) :
    let request := Request.copyEvent eventId inviteId eventTime
    Authorized mgr (mgr.handle player request) player request := by
  intro request
  simp only [request, handle, addAction]
  cases hcheck : mgr.checkPermisions eventId player inviteId .owner with
  | none => exact authorized_refl mgr player request
  | some event =>
    obtain ⟨copied, new, hnew, hcopy, hevents, -, hinvites⟩ :=
      copyEvent_spec hregular player event eventTime
    dsimp only
    rw [hcopy]
    refine authorized_of_new (fun other old hold => ?_) fun id => ?_
    · have hstill := get?_withEvent_of_regular hregular hnew hold
      rw [get?_withEvent] at hstill ⊢
      rw [hevents]
      exact hstill
    · rcases hinvites id with hsame | ⟨hnone, invite, hsome, hof⟩
      · exact Or.inl hsame
      · exact Or.inr ⟨hnone, invite, hsome,
          hregular.event_fresh (hof ▸ Nat.lt_succ_self mgr.eventNum)⟩

theorem eventInvite_authorized (hregular : mgr.Regular) (player : Player)
    (eventId inviteId invitee : Nat) (allied : Bool) (status : CalendarInviteStatus)
    (rank : CalendarModerationRank) :
    let request := Request.eventInvite eventId inviteId invitee allied status rank
    Authorized mgr (mgr.handle player request) player request := by
  intro request
  simp only [request, handle]
  split
  · exact authorized_refl mgr player request
  generalize hinvite : CalendarInvite.mk _ _ _ _ _ _ _ _ = new
  have hnumber : new.inviteId = mgr.inviteNum + 1 := hinvite ▸ rfl
  rcases addEventInvite_cases hregular new hnumber rfl with
    ⟨-, hevents, hinvites⟩ | ⟨event, own, hpermitted, henrolls, hothers⟩
  · refine authorized_of_new (fun other old hold => ?_) fun id => Or.inl ?_
    · rw [hevents]
      exact hold
    · rw [hinvites]
  · refine ⟨fun other found hfound => ?_,
      fun id invite hold _ => Or.inl (henrolls.toAdmits.keeps hold),
      fun id invite found hnone hsome _ => ?_⟩
    · by_cases hother : other = new.eventId
      · exact Or.inr (hother ▸ hpermitted.holds)
      · rw [hothers other hother]
        exact Or.inl hfound
    · obtain rfl := henrolls.toAdmits.eq_new hnone hsome
      exact Or.inl hpermitted.holds

theorem eventSignup_authorized (hregular : mgr.Regular) (player : Player) (eventId : Nat)
    (status : CalendarInviteStatus) (now : UInt32) :
    let request := Request.eventSignup eventId status now
    Authorized mgr (mgr.handle player request) player request := by
  intro request
  simp only [request, handle]
  rcases signupToEvent_cases hregular player eventId status now with
    ⟨-, hsame⟩ |
      ⟨event, after, new, hsigns, hafter, -, hevent, hinvitee, hadmits, hevents, -, -⟩
  · rw [hsame]
    exact authorized_refl mgr player request
  rw [hafter]
  refine ⟨fun other found hfound => Or.inl ?_,
    fun id invite hold _ => Or.inl (hadmits.keeps hold),
    fun id invite found hnone hsome hfound => ?_⟩
  · rw [hevents]
    exact hfound
  · obtain rfl := hadmits.eq_new hnone hsome
    rw [hevent, hsigns.found] at hfound
    cases hfound
    exact Or.inr ⟨⟨status, now, by rw [hevent]⟩, hinvitee, hsigns.guild, hsigns.sameGuild⟩

theorem eventRemoveInvite_authorized_iff (mgr : CalendarMgr) (player : Player)
    (inviteId ownInviteId eventId : Nat) :
    let request := Request.eventRemoveInvite inviteId ownInviteId eventId
    Authorized mgr (mgr.handle player request) player request ↔ mgr.Allowed player request := by
  intro request
  simp only [request, handle]
  constructor
  · intro hauthorized event invite hwithdraws
    have hremoved := removeEventInvite_cases mgr player ownInviteId inviteId eventId
    rcases hremoved with ⟨hnot, -⟩ | ⟨_, _, -, hafter⟩
    · exact absurd hwithdraws (hnot event invite)
    rw [hafter, removeInvite_of_some hwithdraws.found] at hauthorized
    cases hevent : mgr.events.get? invite.eventId with
    | none => exact Or.inr rfl
    | some found =>
      have hchange := hauthorized.invites inviteId invite hwithdraws.found (by rw [hevent]; rfl)
      rw [Table.get?_erase, if_pos rfl] at hchange
      rcases hchange with hchange | hholds | ⟨-, _, hchange⟩
      · cases hchange
      · exact Or.inl hholds
      · cases hchange
  · intro hallowed
    rcases removeEventInvite_cases mgr player ownInviteId inviteId eventId with
      ⟨-, hsame⟩ | ⟨event, target, hwithdraws, hafter⟩
    · rw [hsame]
      exact authorized_refl mgr player request
    rw [hafter, removeInvite_of_some hwithdraws.found]
    refine ⟨fun other found hfound => Or.inl hfound, fun id invite hinvite hsome => ?_,
      fun id invite found hnone hinvite _ => ?_⟩
    · dsimp only
      rw [Table.get?_erase]
      split
      next hid =>
        rw [hid, hwithdraws.found] at hinvite
        cases hinvite
        rcases hallowed event target hwithdraws with hholds | hgone
        · exact Or.inr (Or.inl hholds)
        · rw [hgone] at hsome
          cases hsome
      · exact Or.inl hinvite
    · rw [get?_of_erase hinvite] at hnone
      cases hnone

/-- A packet of a player is covered by what he holds exactly if it sets no status through an invite
of another player and removes no invite of another event. -/
theorem handle_authorized_iff (mgr : CalendarMgr) (hregular : mgr.Regular) (player : Player)
    (request : Request) :
    Authorized mgr (mgr.handle player request) player request ↔ mgr.Allowed player request := by
  cases request with
  | addEvent details inviteCount invitee status rank =>
    exact iff_of_true (addEvent_authorized hregular player _ _ _ _ _) trivial
  | updateEvent eventId inviteId details =>
    exact iff_of_true (updateEvent_authorized mgr player eventId inviteId details) trivial
  | removeEvent eventId inviteId =>
    exact iff_of_true (removeEvent_authorized hregular player eventId inviteId) trivial
  | copyEvent eventId inviteId eventTime =>
    exact iff_of_true (copyEvent_authorized hregular player eventId inviteId eventTime) trivial
  | eventInvite eventId inviteId invitee allied status rank =>
    exact iff_of_true (eventInvite_authorized hregular player _ _ _ _ _ _) trivial
  | eventSignup eventId status now =>
    exact iff_of_true (eventSignup_authorized hregular player eventId status now) trivial
  | eventRsvp eventId inviteId status => exact setStatus_authorized_iff hregular rfl
  | eventRemoveInvite inviteId ownInviteId eventId =>
    exact eventRemoveInvite_authorized_iff mgr player inviteId ownInviteId eventId
  | eventStatus eventId inviteId ownInviteId status => exact setStatus_authorized_iff hregular rfl
  | eventModeratorStatus eventId inviteId ownInviteId status =>
    exact setStatus_authorized_iff hregular rfl

theorem handle_authorized_iff_guildEvent :
    let mgr := empty.step guildEvent
    let request := Request.eventSignup 1 .invited 0
    Authorized mgr (mgr.handle ⟨200, 7⟩ request) ⟨200, 7⟩ request ↔
      mgr.Allowed ⟨200, 7⟩ request :=
  handle_authorized_iff (empty.step guildEvent)
    (handle_regular empty_regular guildEvent.1 guildEvent.2) ⟨200, 7⟩ (.eventSignup 1 .invited 0)

/-- A stranger answers for the creator, whose invite has the number 1. -/
theorem not_authorized_rsvp :
    let mgr := empty.step guildEvent
    let request := Request.eventRsvp 1 1 .accepted
    ¬Authorized mgr (mgr.handle ⟨200, 0⟩ request) ⟨200, 0⟩ request := by
  intro mgr request hauthorized
  have hchange := hauthorized.invites 1 _ rfl rfl
  rcases hchange with hchange | ⟨inviteId, invite, hinvite, -, hinvitee, -⟩ | ⟨hown, -⟩
  · exact absurd hchange (by decide)
  · have hmem : invite ∈ mgr.invites := (Table.get?_eq_some_iff.mp hinvite).1
    have hcreator : invite.invitee = 100 := by
      rw [List.mem_singleton.mp hmem]
    exact absurd (hcreator.symm.trans hinvitee) (by decide)
  · exact absurd hown (by decide)

end CalendarMgr

end MopServer.Calendar
