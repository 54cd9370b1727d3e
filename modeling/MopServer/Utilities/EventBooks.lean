import MopServer.Utilities.EventLog

/-! # The books of the events

The log agrees with the queue, the calls and the events that are alive, whatever the code of the
events does.
-/

namespace MopServer.Utilities

open MopServer.Foundation

namespace EventProcessor

/-! ## The books -/

variable {calls : List Call} {observation : Observation} {log : List Observation} {call : Call}

/-- The observation is that code of the entry's event was called, or that it has returned. -/
def Begins (entry : Entry) : Observation → Prop
  | .executed other _ => other = entry
  | .aborted other => other = entry
  | _ => False

def Ends (entry : Entry) : Observation → Prop
  | .completed other => other = entry
  | .kept other => other = entry
  | .discarded other => other = entry
  | .spared other => other = entry
  | _ => False

/-- Every call has returned, or has not yet. -/
def Balanced (log : List Observation) (calls : List Call) : Prop :=
  ∀ entry, (executed log).count entry + (aborted log).count entry =
    (calls.map Call.entry).count entry + (Utilities.released log).count entry +
      (kept log).count entry + (spared log).count entry

theorem Balanced.begins (hbalanced : Balanced log calls) (hbegins : Begins call.entry observation) :
    Balanced (observation :: log) (call :: calls) := by
  intro entry
  have hentry := hbalanced entry
  cases observation with
  | executed other time =>
    obtain rfl : other = call.entry := hbegins
    show (call.entry :: executed log).count entry + (aborted log).count entry =
      (call.entry :: calls.map Call.entry).count entry + (Utilities.released log).count entry +
        (kept log).count entry + (spared log).count entry
    rw [List.count_cons, List.count_cons]
    omega
  | aborted other =>
    obtain rfl : other = call.entry := hbegins
    show (executed log).count entry + (call.entry :: aborted log).count entry =
      (call.entry :: calls.map Call.entry).count entry + (Utilities.released log).count entry +
        (kept log).count entry + (spared log).count entry
    rw [List.count_cons, List.count_cons]
    omega
  | _ => exact hbegins.elim

theorem Balanced.ends (hbalanced : Balanced log (call :: calls))
    (hends : Ends call.entry observation) : Balanced (observation :: log) calls := by
  intro entry
  have hentry := hbalanced entry
  rw [List.map_cons, List.count_cons] at hentry
  cases observation with
  | kept other =>
    obtain rfl : other = call.entry := hends
    show _ = (calls.map Call.entry).count entry + (Utilities.released log).count entry +
      (call.entry :: kept log).count entry + (spared log).count entry
    rw [List.count_cons]
    exact hentry.trans (by omega)
  | spared other =>
    obtain rfl : other = call.entry := hends
    show _ = (calls.map Call.entry).count entry + (Utilities.released log).count entry +
      (kept log).count entry + (call.entry :: spared log).count entry
    rw [List.count_cons]
    exact hentry.trans (by omega)
  | completed other | discarded other =>
    obtain rfl : other = call.entry := hends
    show _ = (calls.map Call.entry).count entry +
      (call.entry :: Utilities.released log).count entry + (kept log).count entry +
        (spared log).count entry
    rw [List.count_cons]
    exact hentry.trans (by omega)
  | _ => exact hends.elim

/-- The log agrees with the queue, the calls and the events that are alive. -/
structure Accounts (processor : EventProcessor) (pending : List Entry) : Prop where
  timely : Timely processor.log
  serials : ∀ entry ∈ added processor.log, entry.2.serial < processor.serial
  known : ∀ entry ∈ processor.events, entry ∈ added processor.log
  before : processor.events.Pairwise Before
  waiting : pending.Perm (waiting processor.log)
  balanced : Balanced processor.log processor.calls
  nodup : (processor.owned pending).Nodup
  alive : ∀ event, processor.isAlive event = true ↔ event ∈ processor.owned pending
  sound : processor.dangling = false

/-- What is still to be taken from the queue: not what the call of `KillAllEvents` at the top has
dealt with. -/
structure Stage (processor : EventProcessor) (pending : List Entry) : Prop where
  calm : ∀ call ∈ processor.calls.tail, call.kills = false
  idle : (∀ call ∈ processor.calls.head?, call.kills = false) → pending = processor.events
  forced : ∀ entry next calls, processor.calls = .killing entry true next :: calls →
    ∃ front, processor.events = front ++ entry :: pending ∧ next = pending.head?
  gentle : ∀ entry next calls, processor.calls = .killing entry false next :: calls →
    entry ∈ processor.events ∧ pending = processor.events.filter (· ≠ entry) ∧
      ∀ other, next = some other → other ∈ pending

/-- The same between two calls of event code. -/
structure Between (processor : EventProcessor) (force : Bool) (next : Option Entry)
    (pending : List Entry) : Prop where
  calm : ∀ call ∈ processor.calls, call.kills = false
  forced : force = true → ∃ front, processor.events = front ++ pending ∧ next = pending.head?
  gentle : force = false → pending = processor.events ∧ ∀ other, next = some other → other ∈ pending

def Sound (processor : EventProcessor) : Prop :=
  ∃ pending, Accounts processor pending ∧ Stage processor pending

section Steps

variable {processor : EventProcessor} {pending rest : List Entry} {entry : Entry} {event : Nat}
  (haccounts : Accounts processor pending)

include haccounts in
theorem isAlive_of_mem_held (hheld : event ∈ processor.held) : processor.isAlive event = true :=
  (haccounts.alive event).mpr (List.mem_append_right _ hheld)

theorem touch_dangling (hsound : processor.dangling = false)
    (halive : processor.isAlive event = true) : (processor.touch event).dangling = false := by
  rw [touch, hsound, halive]
  rfl

theorem visit_eq (hsound : processor.dangling = false)
    (halive : processor.isAlive entry.2.event = true) (hmem : entry ∈ processor.events) :
    processor.visit entry = processor := by
  unfold visit
  rw [touch_dangling hsound halive, decide_eq_false (not_not.mpr hmem)]
  cases processor
  cases hsound
  rfl

include haccounts in
theorem Accounts.ordered : TimedQueue.Ordered processor.events := by
  apply haccounts.before.imp
  rintro first second (hlt | ⟨heq, -⟩)
  · exact Int.le_of_lt hlt
  · exact Int.le_of_eq heq

include haccounts in
theorem Accounts.nodup_events : processor.events.Nodup := by
  apply haccounts.before.imp
  rintro first _ (hlt | ⟨-, hserial⟩) rfl
  · exact absurd hlt (Int.lt_irrefl _)
  · exact absurd hserial (Nat.lt_irrefl _)

theorem isAlive_modify {target : Nat} {change : BasicEvent → BasicEvent} (event : Nat) :
    ((processor.heap.modify target change).get? event).isSome = processor.isAlive event := by
  by_cases heq : event = target
  · rw [heq, Heap.get?_modify_self, Option.isSome_map, isAlive]
  · rw [Heap.get?_modify heq, isAlive]

include haccounts in
theorem Accounts.setToAbort (halive : processor.isAlive event = true) :
    Accounts (processor.step (.setToAbort event)) pending :=
  { haccounts with
    alive other := by
      show ((processor.heap.modify _ _).get? other).isSome = true ↔ _
      rw [isAlive_modify, haccounts.alive]
      rfl
    sound := touch_dangling haccounts.sound halive }

include haccounts in
theorem Accounts.make (object : BasicEvent) : Accounts (processor.step (.make object)) pending := by
  have hperm : ((processor.step (.make object)).owned pending).Perm
      (processor.heap.next :: processor.owned pending) := List.perm_middle
  have hnew : processor.heap.next ∉ processor.owned pending := by
    rw [← haccounts.alive, isAlive, Heap.get?_next]
    nofun
  refine { haccounts with nodup := ?_, alive := fun other => ?_ }
  · exact hperm.nodup_iff.mpr (List.nodup_cons.mpr ⟨hnew, haccounts.nodup⟩)
  · rw [hperm.mem_iff, List.mem_cons, ← haccounts.alive]
    show ((processor.heap.alloc object).get? other).isSome = true ↔ _
    by_cases heq : other = processor.heap.next
    · subst heq
      rw [Heap.get?_alloc_next]
      exact iff_of_true rfl (.inl rfl)
    · rw [Heap.get?_alloc heq, or_iff_right heq, isAlive]

include haccounts in
theorem Accounts.addEvent (hheld : event ∈ processor.held) (execTime : UInt64) (setAddTime : Bool) :
    Accounts (processor.addEvent event execTime setAddTime)
      (TimedQueue.schedule pending execTime.toNat ⟨event, processor.serial⟩) := by
  have hperm := TimedQueue.schedule_perm pending execTime.toNat ⟨event, processor.serial⟩
  have howned : ((processor.addEvent event execTime setAddTime).owned
      (TimedQueue.schedule pending execTime.toNat ⟨event, processor.serial⟩)).Perm
        (processor.owned pending) := by
    have hback := (((hperm.append_right (dying processor.calls)).map (·.2.event)).append_right
      (processor.held.erase event))
    have hmiddle : ((pending ++ dying processor.calls).map (·.2.event) ++
        event :: processor.held.erase event).Perm
        (event :: ((pending ++ dying processor.calls).map (·.2.event) ++
          processor.held.erase event)) := List.perm_middle
    exact (hback.trans hmiddle.symm).trans ((List.perm_cons_erase hheld).symm.append_left _)
  refine ⟨⟨haccounts.serials, haccounts.timely⟩, ?_, ?_, ?_, ?_, haccounts.balanced, ?_, ?_, ?_⟩
  · intro other hother
    rcases List.mem_cons.mp hother with rfl | hold
    · exact Nat.lt_succ_self _
    · exact Nat.lt_succ_of_lt (haccounts.serials other hold)
  · intro other hother
    rcases TimedQueue.mem_schedule.mp hother with rfl | hold
    · exact List.mem_cons_self
    · exact List.mem_cons_of_mem _ (haccounts.known other hold)
  · apply haccounts.ordered.pairwise_schedule haccounts.before
    · intro other hother hle
      rcases Int.lt_or_eq_of_le hle with hlt | heq
      · exact .inl hlt
      · exact .inr ⟨heq, haccounts.serials other (haccounts.known other hother)⟩
    · exact fun other _ hlt => .inl hlt
  · exact hperm.trans (haccounts.waiting.cons _)
  · exact howned.nodup_iff.mpr haccounts.nodup
  · intro other
    rw [howned.mem_iff, ← haccounts.alive]
    show ((processor.heap.modify _ _).get? other).isSome = true ↔ _
    rw [isAlive_modify]
  · exact touch_dangling haccounts.sound (isAlive_of_mem_held haccounts hheld)

/-! ### Update -/

variable {events : List Entry}

include haccounts in
theorem Accounts.updated (hlater : ∀ entry ∈ pending, processor.time.toNat < entry.1) :
    Accounts (processor.observe (.updated processor.time)) pending :=
  { haccounts with
    timely := ⟨fun entry hentry => hlater entry (haccounts.waiting.mem_iff.mpr hentry),
      haccounts.timely⟩ }

include haccounts in
theorem Accounts.isAlive_of_mem (hentry : entry ∈ pending) :
    processor.isAlive entry.2.event = true := by
  apply (haccounts.alive _).mpr
  apply List.mem_append_left
  exact List.mem_map_of_mem (List.mem_append_left _ hentry)

include haccounts in
theorem Accounts.mem_waiting (hentry : entry ∈ pending) :
    entry ∈ Utilities.waiting processor.log := haccounts.waiting.mem_iff.mp hentry

variable (hperm : pending.Perm (entry :: rest))

include haccounts hperm in
theorem Accounts.waiting_erase : rest.Perm ((Utilities.waiting processor.log).erase entry) := by
  have herase := (hperm.symm.trans haccounts.waiting).erase entry
  rwa [List.erase_cons_head] at herase

theorem owned_perm_cons (processor : EventProcessor) (hperm : pending.Perm (entry :: rest)) :
    (processor.owned pending).Perm (entry.2.event :: processor.owned rest) := by
  have hevents := (hperm.append_right (dying processor.calls)).map fun entry => entry.2.event
  exact hevents.append_right processor.held

include haccounts hperm in
theorem Accounts.execute (hdue : entry.1 ≤ processor.time.toNat)
    (hfirst : ∀ other ∈ pending, other ≠ entry → Before entry other)
    (hevents : events.Sublist processor.events) (diff : UInt32) :
    Accounts (({ processor.touch entry.2.event with
        events := events, held := entry.2.event :: processor.held }.observe
          (.executed entry processor.time)).call (.executing entry diff)) rest := by
  have hentry : entry ∈ pending := hperm.mem_iff.mpr List.mem_cons_self
  have howned := (owned_perm_cons processor hperm).trans List.perm_middle.symm
  have hbegins : Begins (Call.executing entry diff).entry (.executed entry processor.time) := rfl
  refine ⟨⟨⟨haccounts.mem_waiting hentry, hdue, fun other hother =>
    hfirst other (haccounts.waiting.mem_iff.mpr hother)⟩, haccounts.timely⟩, haccounts.serials,
    fun other hother => haccounts.known other (hevents.subset hother),
    haccounts.before.sublist hevents, haccounts.waiting_erase hperm,
    haccounts.balanced.begins hbegins,
    howned.nodup_iff.mp haccounts.nodup, fun other => ?_,
    touch_dangling haccounts.sound (haccounts.isAlive_of_mem hentry)⟩
  exact (haccounts.alive other).trans howned.mem_iff

include haccounts hperm in
theorem Accounts.abort {heap : Heap BasicEvent} {dangling : Bool}
    (hheap : ∀ event, (heap.get? event).isSome = processor.isAlive event)
    (hevents : events.Sublist processor.events) (hsound : dangling = false)
    (hentry : call.entry = entry) (haborts : call.aborts = true) :
    Accounts (({ processor with heap := heap, events := events, dangling := dangling }.observe
      (.aborted entry)).call call) rest := by
  have hmem : entry ∈ pending := hperm.mem_iff.mpr List.mem_cons_self
  have hdying : dying (call :: processor.calls) = entry :: dying processor.calls := by
    rw [dying, List.filter_cons_of_pos haborts, List.map_cons, hentry]
    rfl
  have howned : (processor.owned pending).Perm
      ((rest ++ dying (call :: processor.calls)).map (·.2.event) ++ processor.held) := by
    have hentries := (hperm.append_right (dying processor.calls)).trans List.perm_middle.symm
    rw [hdying]
    exact (hentries.map (·.2.event)).append_right processor.held
  refine ⟨⟨haccounts.mem_waiting hmem, haccounts.timely⟩, haccounts.serials,
    fun other hother => haccounts.known other (hevents.subset hother),
    haccounts.before.sublist hevents, haccounts.waiting_erase hperm,
    haccounts.balanced.begins hentry.symm, howned.nodup_iff.mp haccounts.nodup, fun other => ?_,
    hsound⟩
  show (heap.get? other).isSome = true ↔ _
  rw [hheap]
  exact (haccounts.alive other).trans howned.mem_iff

theorem Stage.of_calm (hcalm : ∀ call ∈ processor.calls, call.kills = false) :
    Stage processor processor.events where
  calm call hcall := hcalm call (List.mem_of_mem_tail hcall)
  idle _ := rfl
  forced entry next calls hcalls := by
    have hkills := hcalm (.killing entry true next) (by rw [hcalls]; exact List.mem_cons_self)
    cases hkills
  gentle entry next calls hcalls := by
    have hkills := hcalm (.killing entry false next) (by rw [hcalls]; exact List.mem_cons_self)
    cases hkills

/-- The loop of `Update` leaves the books in order. -/
theorem Accounts.drain (haccounts : Accounts processor processor.events)
    (hcalm : ∀ call ∈ processor.calls, call.kills = false) (diff : UInt32) :
    Sound (processor.drain diff) := by
  unfold EventProcessor.drain
  cases hevents : processor.events with
  | nil =>
    rw [hevents] at haccounts
    have hnone : ∀ entry ∈ ([] : List Entry), processor.time.toNat < entry.1 := by simp
    have hstage : Stage (processor.observe (.updated processor.time)) processor.events :=
      Stage.of_calm hcalm
    rw [hevents] at hstage
    exact ⟨[], haccounts.updated hnone, hstage⟩
  | cons entry rest =>
    have hordered := haccounts.ordered
    have hbefore := haccounts.before
    have hsublist : rest.Sublist processor.events := by
      rw [hevents]
      exact List.sublist_cons_self entry rest
    rw [hevents] at haccounts hordered hbefore
    have hperm := List.Perm.refl (entry :: rest)
    dsimp only
    split
    next hdue =>
      have hmem : entry ∈ entry :: rest := List.mem_cons_self
      split
      · have habort := haccounts.abort hperm (fun _ => rfl) hsublist
          (touch_dangling haccounts.sound (haccounts.isAlive_of_mem hmem))
          (rfl : (Call.aborting entry diff).entry = entry) rfl
        refine ⟨rest, habort, Stage.of_calm ?_⟩
        exact List.forall_mem_cons.mpr ⟨rfl, hcalm⟩
      · refine ⟨rest, haccounts.execute hperm hdue ?_ hsublist diff, Stage.of_calm ?_⟩
        · intro other hother hne
          rcases List.mem_cons.mp hother with rfl | hlater
          · exact absurd rfl hne
          · exact (List.pairwise_cons.mp hbefore).1 other hlater
        · exact List.forall_mem_cons.mpr ⟨rfl, hcalm⟩
    next hlater =>
      have hall := hordered.le_of_head (Int.add_one_le_of_lt (Int.not_le.mp hlater))
      have hstage : Stage (processor.observe (.updated processor.time)) processor.events :=
        Stage.of_calm hcalm
      rw [hevents] at hstage
      exact ⟨entry :: rest, haccounts.updated fun other hother => hall other hother, hstage⟩

theorem drain_of_later (hlater : ∀ entry ∈ processor.events, processor.time.toNat < entry.1)
    (diff : UInt32) :
    processor.drain diff = processor.observe (.updated processor.time) := by
  unfold EventProcessor.drain
  cases hevents : processor.events with
  | nil => rfl
  | cons entry rest =>
    have hentry := hlater entry (by rw [hevents]; exact List.mem_cons_self)
    exact if_neg (Int.not_le.mpr hentry)

/-! ### KillAllEvents -/

variable {next : Option Entry}

include haccounts in
theorem successor_of_append {front back : List Entry}
    (hevents : processor.events = front ++ entry :: back) :
    processor.successor entry = back.head? := by
  have hnodup := haccounts.nodup_events
  rw [hevents] at hnodup
  have hfront : ∀ other ∈ front, decide (other ≠ entry) = true := by
    intro other hother
    rw [decide_eq_true_eq]
    rintro rfl
    exact (List.nodup_append.mp hnodup).2.2 other hother other List.mem_cons_self rfl
  rw [successor, hevents, List.dropWhile_append_of_pos hfront,
    List.dropWhile_cons_of_neg (by simp), List.tail_cons]

theorem perm_cons_filter {entries : List Entry} (hnodup : entries.Nodup) (hmem : entry ∈ entries) :
    entries.Perm (entry :: entries.filter (· ≠ entry)) := by
  have herase := List.perm_cons_erase hmem
  rw [hnodup.erase_eq_filter] at herase
  convert herase using 3
  funext other
  simp [bne, beq_eq_decide]

include haccounts in
/-- The loop of `KillAllEvents` leaves the books in order. -/
theorem Accounts.sweep {force : Bool} (hbetween : Between processor force next pending) :
    Sound (processor.sweep force next) := by
  obtain ⟨hcalm, hforced, hgentle⟩ := hbetween
  cases next with
  | none =>
    cases force with
    | false =>
      obtain ⟨rfl, -⟩ := hgentle rfl
      exact ⟨processor.events, haccounts, Stage.of_calm hcalm⟩
    | true =>
      obtain ⟨front, -, hnone⟩ := hforced rfl
      obtain rfl : pending = [] := List.head?_eq_none_iff.mp hnone.symm
      refine ⟨[], { haccounts with known := ?_, before := List.Pairwise.nil }, ?_⟩
      · intro entry hentry
        cases hentry
      · exact Stage.of_calm hcalm
  | some entry =>
    obtain ⟨front, back, hevents, hnext⟩ : ∃ front back,
        processor.events = front ++ entry :: back ∧ (force = true → pending = entry :: back) := by
      cases force with
      | false =>
        obtain ⟨rfl, hnext⟩ := hgentle rfl
        obtain ⟨front, back, hevents⟩ := List.append_of_mem (hnext entry rfl)
        exact ⟨front, back, hevents, nofun⟩
      | true =>
        obtain ⟨front, hevents, hnext⟩ := hforced rfl
        obtain ⟨back, rfl⟩ := List.head?_eq_some_iff.mp hnext.symm
        exact ⟨front, back, hevents, fun _ => rfl⟩
    have hmem : entry ∈ processor.events := by
      rw [hevents]
      exact List.mem_append_right _ List.mem_cons_self
    have hsuccessor := successor_of_append haccounts hevents
    have hkills {calls : List Call} {call : Call} (hkills : call.kills = true)
        {property : Prop} (hcalls : ∀ other ∈ (call :: calls).head?, other.kills = false) :
        property := by
      have hfalse := hcalls call rfl
      rw [hkills] at hfalse
      cases hfalse
    have hpending : entry ∈ pending := by
      cases force with
      | false => exact (hgentle rfl).1 ▸ hmem
      | true => exact hnext rfl ▸ List.mem_cons_self
    have hsound : (processor.visit entry).dangling = false := by
      rw [visit_eq haccounts.sound (haccounts.isAlive_of_mem hpending) hmem]
      exact haccounts.sound
    have habort {rest : List Entry} (hperm : pending.Perm (entry :: rest)) :
        Accounts (processor.sweep force (some entry)) rest :=
      haccounts.abort hperm isAlive_modify (List.Sublist.refl _) hsound rfl rfl
    cases force with
    | false =>
      obtain ⟨rfl, -⟩ := hgentle rfl
      have hperm := perm_cons_filter haccounts.nodup_events hmem
      refine ⟨_, habort hperm, hcalm, hkills rfl, nofun, ?_⟩
      rintro _ _ _ ⟨⟩
      refine ⟨hmem, rfl, fun other hother => ?_⟩
      rw [hsuccessor] at hother
      have hback := List.mem_of_mem_head? hother
      have hnodup := haccounts.nodup_events
      rw [hevents] at hnodup
      have hnew := (List.nodup_cons.mp (List.nodup_append.mp hnodup).2.1).1
      refine List.mem_filter.mpr ⟨?_, decide_eq_true fun heq => hnew (heq ▸ hback)⟩
      rw [hevents]
      exact List.mem_append_right _ (List.mem_cons_of_mem _ hback)
    | true =>
      obtain rfl := hnext rfl
      refine ⟨back, habort (List.Perm.refl _), hcalm, hkills rfl, ?_, nofun⟩
      rintro _ _ _ ⟨⟩
      exact ⟨front, hevents, hsuccessor⟩

/-! ### Event code returns -/

variable (hcalls : processor.calls = call :: calls)

include haccounts hcalls in
theorem Accounts.delete
    (hobservation : observation = .completed call.entry ∨ observation = .discarded call.entry)
    (howned : (processor.owned pending).Perm (call.entry.2.event ::
      ((pending ++ dying calls).map (·.2.event) ++ processor.held.erase call.entry.2.event))) :
    Accounts ((({ processor with calls := calls } : EventProcessor).delete
      call.entry.2.event).observe observation) pending := by
  obtain ⟨hnew, hnodup⟩ := List.nodup_cons.mp (howned.nodup_iff.mp haccounts.nodup)
  have halive (event : Nat) : ((processor.heap.free (· = call.entry.2.event)).get? event).isSome =
      true ↔ event ∈ (pending ++ dying calls).map (·.2.event) ++
        processor.held.erase call.entry.2.event := by
    have hbefore := haccounts.alive event
    rw [howned.mem_iff, List.mem_cons] at hbefore
    by_cases heq : event = call.entry.2.event
    · subst heq
      rw [Heap.get?_free_of_chosen (decide_eq_true rfl)]
      exact iff_of_false nofun hnew
    · rw [Heap.get?_free (decide_eq_false heq)]
      rwa [or_iff_right heq] at hbefore
  have hsound : (({ processor with calls := calls } : EventProcessor).touch
      call.entry.2.event).dangling = false := by
    apply touch_dangling haccounts.sound
    exact (haccounts.alive _).mpr (howned.mem_iff.mpr List.mem_cons_self)
  have hbalanced := haccounts.balanced
  rw [hcalls] at hbalanced
  rcases hobservation with rfl | rfl
  · exact ⟨haccounts.timely, haccounts.serials, haccounts.known, haccounts.before,
      haccounts.waiting, hbalanced.ends rfl, hnodup, halive, hsound⟩
  · exact ⟨haccounts.timely, haccounts.serials, haccounts.known, haccounts.before,
      haccounts.waiting, hbalanced.ends rfl, hnodup, halive, hsound⟩

include haccounts in
theorem Accounts.isAlive_of_dying (hcalls : processor.calls = call :: calls)
    (haborts : call.aborts = true) : processor.isAlive call.entry.2.event = true := by
  apply (haccounts.alive _).mpr
  apply List.mem_append_left
  have hdying : call.entry ∈ dying processor.calls := by
    rw [hcalls]
    exact List.mem_map_of_mem (List.mem_filter.mpr ⟨List.mem_cons_self, haborts⟩)
  exact List.mem_map_of_mem (List.mem_append_right _ hdying)

include haccounts in
/-- `Execute` returned true. -/
theorem Accounts.complete {diff : UInt32}
    (hcalls : processor.calls = .executing entry diff :: calls)
    (hheld : entry.2.event ∈ processor.held) :
    Accounts ((({ processor with calls := calls } : EventProcessor).delete
      entry.2.event).observe (.completed entry)) pending := by
  apply haccounts.delete hcalls (.inl rfl)
  have hheld := ((List.perm_cons_erase hheld).append_left
    ((pending ++ dying calls).map (·.2.event))).trans List.perm_middle
  rw [owned, hcalls]
  exact hheld

include haccounts in
/-- `Execute` returned false. -/
theorem Accounts.keep {diff : UInt32} (hcalls : processor.calls = .executing entry diff :: calls) :
    Accounts (({ processor with calls := calls } : EventProcessor).observe (.kept entry))
      pending := by
  obtain ⟨htimely, hserials, hknown, hbefore, hwaiting, hbalanced, hnodup, halive, hsound⟩ :=
    haccounts
  rw [owned, hcalls] at hnodup
  simp only [owned, hcalls] at halive
  rw [hcalls] at hbalanced
  exact ⟨htimely, hserials, hknown, hbefore, hwaiting, hbalanced.ends rfl, hnodup, halive, hsound⟩

include haccounts hcalls in
/-- `Abort` returned, and the event is deleted. -/
theorem Accounts.discard (haborts : call.aborts = true) :
    Accounts ((({ processor with calls := calls } : EventProcessor).delete
      call.entry.2.event).observe (.discarded call.entry)) pending := by
  apply haccounts.delete hcalls (.inr rfl)
  have hdying : dying processor.calls = call.entry :: dying calls := by
    rw [hcalls, dying, List.filter_cons_of_pos haborts]
    rfl
  have howned : (processor.owned pending).Perm
      (call.entry.2.event :: ((pending ++ dying calls).map (·.2.event) ++ processor.held)) := by
    rw [owned, hdying]
    exact (List.perm_middle.map fun entry : Entry => entry.2.event).append_right processor.held
  obtain ⟨hnew, -⟩ := List.nodup_cons.mp (howned.nodup_iff.mp haccounts.nodup)
  rwa [List.erase_of_not_mem fun hheld => hnew (List.mem_append_right _ hheld)]

include haccounts in
/-- `Abort` returned, and the event cannot be deleted. -/
theorem Accounts.spare (hcalls : processor.calls = .killing entry false next :: calls)
    (hperm : processor.events.Perm (entry :: pending)) :
    Accounts (({ processor with calls := calls } : EventProcessor).observe (.spared entry))
      processor.events := by
  have howned : ((processor.events ++ dying calls).map (fun entry => entry.2.event) ++
      processor.held).Perm (processor.owned pending) := by
    rw [owned, hcalls]
    have hentries := (hperm.append_right (dying calls)).trans List.perm_middle.symm
    exact (hentries.map fun entry => entry.2.event).append_right processor.held
  have hbalanced := haccounts.balanced
  rw [hcalls] at hbalanced
  have hknown := haccounts.known entry (hperm.mem_iff.mpr List.mem_cons_self)
  refine ⟨⟨hknown, haccounts.timely⟩, haccounts.serials, haccounts.known, haccounts.before,
    hperm.trans (haccounts.waiting.cons entry), hbalanced.ends rfl,
    howned.nodup_iff.mpr haccounts.nodup, fun event => ?_, haccounts.sound⟩
  exact (haccounts.alive event).trans howned.mem_iff.symm

variable (hstage : Stage processor pending)

include haccounts hstage in
theorem Accounts.returns {value : Bool} (hpromised : processor.Promised (.returns value)) :
    Sound (processor.returns value) := by
  have hcalm := hstage.calm
  unfold EventProcessor.returns
  cases hcalls : processor.calls with
  | nil => exact ⟨pending, haccounts, hstage⟩
  | cons call calls =>
    rw [hcalls, List.tail_cons] at hcalm
    cases call with
    | executing entry diff =>
      have hidle : pending = processor.events := by
        apply hstage.idle
        rw [hcalls]
        rintro _ ⟨⟩
        rfl
      subst hidle
      cases value with
      | false => exact (haccounts.keep hcalls).drain hcalm diff
      | true =>
        have hheld := hpromised entry diff calls hcalls rfl
        exact (haccounts.complete hcalls hheld).drain hcalm diff
    | aborting entry diff =>
      have hidle : pending = processor.events := by
        apply hstage.idle
        rw [hcalls]
        rintro _ ⟨⟩
        rfl
      subst hidle
      exact (haccounts.discard hcalls rfl).drain hcalm diff
    | killing entry force next =>
      have halive : processor.isAlive entry.2.event = true := haccounts.isAlive_of_dying hcalls rfl
      dsimp only
      cases force with
      | true =>
        obtain ⟨front, hevents, hnext⟩ := hstage.forced entry next calls hcalls
        have hmem : entry ∈ processor.events := by
          rw [hevents]
          exact List.mem_append_right _ List.mem_cons_self
        rw [visit_eq haccounts.sound halive hmem]
        have hdiscard := haccounts.discard hcalls rfl
        refine hdiscard.sweep ⟨hcalm, fun _ => ⟨front ++ [entry], ?_, hnext⟩, nofun⟩
        rw [List.append_assoc]
        exact hevents
      | false =>
        obtain ⟨hmem, hpending, hnext⟩ := hstage.gentle entry next calls hcalls
        rw [visit_eq haccounts.sound halive hmem]
        cases value with
        | true =>
          have hdiscard := haccounts.discard hcalls rfl
          have herased : Accounts { (({ processor with calls := calls } :
              EventProcessor).delete entry.2.event).observe (.discarded entry) with
                events := processor.events.filter (· ≠ entry) } pending :=
            { hdiscard with
              known := fun other hother =>
                haccounts.known other (List.mem_of_mem_filter hother)
              before := haccounts.before.sublist List.filter_sublist }
          exact herased.sweep ⟨hcalm, nofun, fun _ => ⟨hpending, hnext⟩⟩
        | false =>
          have hperm := perm_cons_filter haccounts.nodup_events hmem
          rw [← hpending] at hperm
          refine (haccounts.spare hcalls hperm).sweep ⟨hcalm, nofun, fun _ => ⟨rfl, ?_⟩⟩
          intro other hother
          rw [hpending] at hnext
          exact List.mem_of_mem_filter (hnext other hother)

include haccounts hstage in
theorem Stage.addEvent {execTime : UInt64} {setAddTime : Bool}
    (hundisturbed : processor.Undisturbed (.addEvent event execTime setAddTime)) :
    Stage (processor.addEvent event execTime setAddTime)
      (TimedQueue.schedule pending execTime.toNat ⟨event, processor.serial⟩) where
  calm := hstage.calm
  idle htop := by
    rw [hstage.idle htop]
    rfl
  forced entry next calls hcalls := by
    obtain ⟨front, hevents, hnext⟩ := hstage.forced entry next calls hcalls
    obtain ⟨later, rfl, hlater⟩ := hundisturbed entry next calls hcalls
    obtain ⟨back, rfl⟩ := List.head?_eq_some_iff.mp hnext.symm
    have hordered := haccounts.ordered
    rw [hevents, List.append_cons] at hordered
    have hfront : ∀ other ∈ front ++ [entry], other.1 ≤ execTime.toNat := fun other hother =>
      Int.le_trans ((List.pairwise_append.mp hordered).2.2 other hother later List.mem_cons_self)
        hlater
    refine ⟨front, ?_, ?_⟩
    · show TimedQueue.schedule processor.events _ _ = _
      rw [hevents, List.append_cons, TimedQueue.schedule_append hfront, List.append_assoc]
      rfl
    · rw [TimedQueue.schedule_cons_of_le hlater]
      rfl
  gentle entry next calls hcalls := by
    obtain ⟨hmem, hpending, hnext⟩ := hstage.gentle entry next calls hcalls
    have hserial := haccounts.serials entry (haccounts.known entry hmem)
    refine ⟨TimedQueue.mem_schedule.mpr (.inr hmem), ?_, fun other hother =>
      TimedQueue.mem_schedule.mpr (.inr (hnext other hother))⟩
    rw [hpending]
    refine (haccounts.ordered.filter_schedule (decide_eq_true ?_)).symm
    rintro rfl
    exact absurd hserial (Nat.lt_irrefl _)

include hstage in
theorem Stage.subset : ∀ entry ∈ pending, entry ∈ processor.events := by
  intro other hother
  cases hcalls : processor.calls with
  | nil =>
    rw [hstage.idle (by simp [hcalls])] at hother
    exact hother
  | cons call calls =>
    cases call with
    | killing entry force next =>
      cases force with
      | false =>
        rw [(hstage.gentle entry next calls hcalls).2.1] at hother
        exact List.mem_of_mem_filter hother
      | true =>
        obtain ⟨front, hevents, -⟩ := hstage.forced entry next calls hcalls
        rw [hevents]
        exact List.mem_append_right _ (List.mem_cons_of_mem _ hother)
    | executing _ _ | aborting _ _ =>
      rw [hstage.idle (by simp [hcalls, Call.kills])] at hother
      exact hother

include hstage in
theorem Stage.calm_of_top (htop : ∀ call ∈ processor.calls.head?, call.kills = false) :
    ∀ call ∈ processor.calls, call.kills = false := by
  have hcalm := hstage.calm
  cases hcalls : processor.calls with
  | nil => simp
  | cons call calls =>
    rw [hcalls] at htop hcalm
    exact List.forall_mem_cons.mpr ⟨htop call rfl, hcalm⟩

end Steps

/-- The books stay in order unless `KillAllEvents` is disturbed. -/
theorem Sound.step {processor : EventProcessor} (hsound : Sound processor) {action : Action}
    (hpromised : processor.Promised action) (hundisturbed : processor.Undisturbed action) :
    Sound (processor.step action) := by
  obtain ⟨pending, haccounts, hstage⟩ := hsound
  cases action with
  | make object =>
    exact ⟨pending, haccounts.make object, hstage.calm, hstage.idle, hstage.forced, hstage.gentle⟩
  | setToAbort event =>
    exact ⟨pending, haccounts.setToAbort hpromised, hstage.calm, hstage.idle, hstage.forced,
      hstage.gentle⟩
  | addEvent event execTime setAddTime =>
    exact ⟨_, haccounts.addEvent hpromised execTime setAddTime,
      hstage.addEvent haccounts hundisturbed⟩
  | update diff =>
    have hclock : Accounts { processor with time := processor.time + diff.toUInt64 } pending :=
      { haccounts with }
    by_cases htop : ∃ call ∈ processor.calls.head?, call.kills = true
    · have hlater := hundisturbed htop
      have hdrain : processor.step (.update diff) = _ := drain_of_later hlater diff
      rw [hdrain]
      have hupdated := hclock.updated fun entry hentry =>
        hlater entry (hstage.subset entry hentry)
      exact ⟨pending, hupdated, hstage.calm, hstage.idle, hstage.forced, hstage.gentle⟩
    · have htop : ∀ call ∈ processor.calls.head?, call.kills = false := by
        intro call hcall
        rw [← Bool.not_eq_true]
        exact fun hkills => htop ⟨call, hcall, hkills⟩
      obtain rfl := hstage.idle htop
      exact hclock.drain (hstage.calm_of_top htop) diff
  | killAllEvents force =>
    obtain rfl := hstage.idle hundisturbed
    have haborting : Accounts { processor with aborting := true } processor.events :=
      { haccounts with }
    exact haborting.sweep ⟨hstage.calm_of_top hundisturbed, fun _ => ⟨[], rfl, rfl⟩,
      fun _ => ⟨rfl, fun other hother => List.mem_of_mem_head? hother⟩⟩
  | returns value => exact haccounts.returns hstage hpromised

theorem sound_new : Sound new := by
  refine ⟨[], ⟨trivial, nofun, nofun, List.Pairwise.nil, List.Perm.refl _, fun _ => rfl,
    List.nodup_nil, fun event => ?_, rfl⟩, Stage.of_calm nofun⟩
  exact iff_of_false nofun nofun

end EventProcessor

end MopServer.Utilities
