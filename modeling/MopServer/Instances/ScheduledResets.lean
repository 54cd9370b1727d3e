import MopServer.Foundation.Run
import MopServer.Instances.ResetUpdate

/-! # Resets of single instances

A ledger keeps, next to the queue, what has been asked for with instance ids of 32 bits.  As long
as the ids fit into the 16 bits of an event, an update resets what the ledger says.
-/

namespace MopServer.Instances

open MopServer.Foundation

/-- An instance that is to be reset. -/
structure Request where
  mapid : UInt16
  difficulty : UInt8
  instanceId : UInt32
  deriving DecidableEq, Repr

/-- `InstResetEvent(0, mapid, difficulty, instanceId)`. -/
def Request.event (request : Request) : InstResetEvent :=
  { type := 0, mapid := request.mapid, difficulty := request.difficulty
    instanceId := request.instanceId.toUInt16 }

/-- The id survives its narrowing. -/
def Request.Narrow (request : Request) : Prop :=
  request.instanceId.toUInt16.toUInt32 = request.instanceId

instance (request : Request) : Decidable request.Narrow :=
  inferInstanceAs (Decidable (_ = _))

def single (entry : Int × InstResetEvent) : Bool := entry.2.type = 0

/-- The single instances an update has reset, in order. -/
def instanceResets (actions : List ResetAction) : List (UInt16 × UInt32) :=
  actions.filterMap fun action =>
    match action with
    | .instance mapid instanceId => some (mapid, instanceId)
    | .global .. => none

inductive ScheduleEvent where
  | add (time : Int) (request : Request)
  | cancel (time : Int) (request : Request)
  | update (now : Nat)

/-- The manager, and what has been asked for and neither cancelled nor done. -/
structure Ledger where
  manager : InstanceSaveManager
  asked : TimedQueue Request

namespace Ledger

/-- `Update`, with fuel for what there is to do. -/
def update (realm : Realm) (ledger : Ledger) (now : Nat) :
    Option (InstanceSaveManager × List ResetAction) :=
  ledger.manager.update realm now (ledger.manager.remaining now + 1)

variable (realm : Realm) (ledger : Ledger)

def step : ScheduleEvent → Ledger
  | .add time request =>
    { manager := ledger.manager.addReset time request.event
      asked := ledger.asked.schedule time request }
  | .cancel time request =>
    { manager := ledger.manager.cancelReset time request.event
      asked := ledger.asked.cancel time fun other => other.instanceId = request.instanceId }
  | .update now =>
    match ledger.update realm now with
    | none => ledger
    | some last =>
      { manager := last.1, asked := ledger.asked.filter fun entry => (now : Int) ≤ entry.1 }

def due (now : Nat) : List (UInt16 × UInt32) :=
  (ledger.asked.filter fun entry => entry.1 < (now : Int)).map fun entry =>
    (entry.2.mapid, entry.2.instanceId)

/-- The events of single instances in the queue are those asked for. -/
def Exact : Prop :=
  ((ledger.manager.resetTimeQueue.filter single).map fun entry =>
      (entry.1, entry.2.mapid, entry.2.difficulty, entry.2.instanceId.toUInt32)) =
    ledger.asked.map fun entry =>
      (entry.1, entry.2.mapid, entry.2.difficulty, entry.2.instanceId)

/-- An update resets what is due, and no instance twice; a cancellation leaves the events of all
other instances and of whole maps as they are. -/
def Faithful : ScheduleEvent → Prop
  | .add .. => True
  | .cancel time request =>
    let others := fun entry : Int × InstResetEvent =>
      !(single entry && entry.2.instanceId.toUInt32 = request.instanceId)
    (ledger.manager.cancelReset time request.event).resetTimeQueue.filter others =
      ledger.manager.resetTimeQueue.filter others
  | .update now =>
    ∃ last, ledger.update realm now = some last ∧
      instanceResets last.2 = ledger.due now ∧ ((instanceResets last.2).map Prod.snd).Nodup

/-- The ids fit into 16 bits, a cancellation matches no other event, an update finds no instance
due twice and no reset time near the end of its 32 bits. -/
def Allowed : ScheduleEvent → Prop
  | .add _ request => request.Narrow ∧ realm.instanceable request.mapid = true
  | .cancel _ request =>
    ∀ entry ∈ ledger.manager.resetTimeQueue, entry.2.matches request.event = true →
      entry.2.type = 0 ∧ request.Narrow
  | .update now =>
    ledger.manager.Headroom realm now ∧ ((ledger.due now).map Prod.snd).Nodup

/-- The queue holds the events asked for, under ids that fit. -/
structure Sound (realm : Realm) (ledger : Ledger) : Prop where
  punctual : ledger.manager.Punctual
  asked : ledger.manager.resetTimeQueue.filter single =
    ledger.asked.map (Prod.map id Request.event)
  narrow : ∀ entry ∈ ledger.asked, entry.2.Narrow
  instanceable : ∀ entry ∈ ledger.asked, realm.instanceable entry.2.mapid = true

section

variable {realm : Realm} {ledger : Ledger} (hsound : ledger.Sound realm)

include hsound in
theorem Sound.exact : ledger.Exact := by
  unfold Exact
  rw [hsound.asked, List.map_map]
  refine List.map_congr_left fun entry hentry => ?_
  show (_, _, _, entry.2.instanceId.toUInt16.toUInt32) = _
  rw [hsound.narrow entry hentry]
  rfl

/-! ## Adding and cancelling -/

variable {manager : InstanceSaveManager} {request : Request} {time : Int}

theorem cancelReset_resetTimeQueue (manager : InstanceSaveManager) (time : Int)
    (event : InstResetEvent) :
    (manager.cancelReset time event).resetTimeQueue =
      manager.resetTimeQueue.cancel time fun other => other.matches event := rfl

theorem step_cancel (time : Int) (request : Request) :
    ledger.step realm (.cancel time request) =
      { manager := ledger.manager.cancelReset time request.event
        asked := ledger.asked.cancel time fun other => other.instanceId = request.instanceId } :=
  rfl

theorem punctual_cancelReset (hpunctual : manager.Punctual) (time : Int) (event : InstResetEvent) :
    (manager.cancelReset time event).Punctual := by
  refine ⟨?_, fun entry hentry htype => ?_⟩
  · rw [cancelReset_resetTimeQueue]
    exact hpunctual.ordered.cancel _ _
  · rw [cancelReset_resetTimeQueue] at hentry
    exact hpunctual.inTime entry ((TimedQueue.cancel_sublist _ _ _).subset hentry) htype

include hsound in
theorem Sound.add (hnarrow : request.Narrow)
    (hinstanceable : realm.instanceable request.mapid = true) :
    (ledger.step realm (.add time request)).Sound realm where
  punctual := by
    refine ⟨hsound.punctual.ordered.schedule _ _, fun entry hentry htype => ?_⟩
    rcases TimedQueue.mem_schedule.mp hentry with rfl | hold
    · exact absurd rfl htype
    · exact hsound.punctual.inTime entry hold htype
  asked := by
    show (TimedQueue.schedule ledger.manager.resetTimeQueue time request.event).filter single =
      (TimedQueue.schedule ledger.asked time request).map (Prod.map id Request.event)
    rw [hsound.punctual.ordered.filter_schedule rfl, hsound.asked, TimedQueue.map_schedule]
  narrow := by
    intro entry hentry
    rcases TimedQueue.mem_schedule.mp hentry with rfl | hold
    · exact hnarrow
    · exact hsound.narrow entry hold
  instanceable := by
    intro entry hentry
    rcases TimedQueue.mem_schedule.mp hentry with rfl | hold
    · exact hinstanceable
    · exact hsound.instanceable entry hold

variable (hallowed : Allowed realm ledger (.cancel time request))

include hsound hallowed in
theorem Sound.matches_iff :
    ∀ entry ∈ ledger.asked,
      entry.2.event.matches request.event = decide (entry.2.instanceId = request.instanceId) := by
  intro entry hentry
  have hqueued : (entry.1, entry.2.event) ∈ ledger.manager.resetTimeQueue := by
    refine List.mem_of_mem_filter (p := single) ?_
    rw [hsound.asked]
    exact List.mem_map_of_mem hentry
  rw [Bool.eq_iff_iff, decide_eq_true_iff]
  constructor
  · intro hmatch
    have hnarrow := (hallowed _ hqueued hmatch).2
    have hlow : request.instanceId.toUInt16 = entry.2.instanceId.toUInt16 :=
      of_decide_eq_true hmatch
    rw [← hsound.narrow entry hentry, ← hlow, hnarrow]
  · intro hid
    refine decide_eq_true ?_
    show request.instanceId.toUInt16 = entry.2.instanceId.toUInt16
    rw [hid]

include hsound hallowed in
theorem Sound.cancel : (ledger.step realm (.cancel time request)).Sound realm := by
  rw [step_cancel]
  have hasked := TimedQueue.cancel_sublist ledger.asked time fun other =>
    other.instanceId = request.instanceId
  refine
    { punctual := punctual_cancelReset hsound.punctual time request.event
      asked := ?_
      narrow := fun entry hentry => hsound.narrow entry (hasked.subset hentry)
      instanceable := fun entry hentry => hsound.instanceable entry (hasked.subset hentry) }
  have hsingle : ∀ entry ∈ ledger.manager.resetTimeQueue,
      entry.2.matches request.event = true → single entry = true :=
    fun entry hentry hmatch => decide_eq_true (hallowed entry hentry hmatch).1
  rw [cancelReset_resetTimeQueue, TimedQueue.filter_cancel time hsingle, hsound.asked]
  exact TimedQueue.map_cancel Request.event (fun other => other.matches request.event)
    (fun other => decide (other.instanceId = request.instanceId)) time
    (hsound.matches_iff hallowed)

include hallowed in
theorem cancel_others : Faithful realm ledger (.cancel time request) := by
  unfold Faithful
  dsimp only
  rw [cancelReset_resetTimeQueue]
  refine TimedQueue.filter_cancel_of_not time fun entry hentry hmatch => ?_
  obtain ⟨htype, hnarrow⟩ := hallowed entry hentry hmatch
  have hlow : request.instanceId.toUInt16 = entry.2.instanceId := of_decide_eq_true hmatch
  have hown : entry.2.instanceId.toUInt32 = request.instanceId := by rw [← hlow, hnarrow]
  have hsingle : single entry = true := decide_eq_true htype
  rw [hsingle, hown, decide_eq_true rfl]
  rfl

/-! ## Updating -/

variable {event : InstResetEvent} {now : Nat} {last done : InstanceSaveManager × List ResetAction}
  {rest : ResetTimeQueue}

/-- An update takes the due events of single instances off the queue and resets their instances,
in order. -/
def Sweeps (realm : Realm) (now : Nat) (manager : InstanceSaveManager)
    (last : InstanceSaveManager × List ResetAction) : Prop :=
  last.1.resetTimeQueue.filter single =
      (manager.resetTimeQueue.filter single).filter (fun entry => (now : Int) ≤ entry.1) ∧
    instanceResets last.2 =
      ((manager.resetTimeQueue.filter single).filter fun entry =>
          entry.1 < (now : Int) && realm.instanceable entry.2.mapid).map
        fun entry => (entry.2.mapid, entry.2.instanceId.toUInt32)

/-- The queue of what a map and difficulty leads to next holds no other single instances. -/
theorem filter_schedule_global (queue : ResetTimeQueue) (time : Int) (htype : event.type ≠ 0) :
    (queue.schedule time event).filter single = queue.filter single :=
  TimedQueue.filter_schedule_of_not (decide_eq_false htype)

theorem sweeps_finished (realm : Realm)
    (hlater : ∀ entry ∈ manager.resetTimeQueue, (now : Int) ≤ entry.1) :
    Sweeps realm now manager (manager, []) := by
  constructor
  · refine (List.filter_eq_self.mpr fun entry hentry => decide_eq_true ?_).symm
    exact hlater entry (List.mem_of_mem_filter hentry)
  · rw [List.filter_eq_nil_iff.mpr]
    · rfl
    · intro entry hentry hdue
      have hle := hlater entry (List.mem_of_mem_filter hentry)
      have hlt := of_decide_eq_true (Bool.and_eq_true_iff.mp hdue).1
      omega

theorem sweeps_global (hqueue : manager.resetTimeQueue = (time, event) :: rest)
    (htype : event.type ≠ 0) (hdone : done.1.resetTimeQueue.filter single = rest.filter single)
    (hnone : instanceResets done.2 = []) (hlast : Sweeps realm now done.1 last) :
    Sweeps realm now manager (last.1, done.2 ++ last.2) := by
  have happend : instanceResets (done.2 ++ last.2) =
      instanceResets done.2 ++ instanceResets last.2 := List.filterMap_append
  have hfirst : (manager.resetTimeQueue).filter single = done.1.resetTimeQueue.filter single := by
    rw [hqueue, List.filter_cons_of_neg (by simp [single, htype]), hdone]
  unfold Sweeps
  rw [happend, hnone, List.nil_append, hfirst]
  exact hlast

/-- The first entry and what it leads to belong to one sweep. -/
theorem sweeps_handled (hqueue : manager.resetTimeQueue = (time, event) :: rest) (hdue : time < now)
    (houtcome : InstanceSaveManager.Outcome realm manager time event rest done)
    (hlast : Sweeps realm now done.1 last) :
    Sweeps realm now manager (last.1, done.2 ++ last.2) := by
  have hglobal : event.type = 4 → event.type ≠ 0 := fun htype => by rw [htype]; decide
  cases houtcome with
  | single htype =>
    obtain ⟨hleft, hresets⟩ := hlast
    have happend : instanceResets (InstanceSaveManager.resetInstance realm event ++ last.2) =
        instanceResets (InstanceSaveManager.resetInstance realm event) ++ instanceResets last.2 :=
      List.filterMap_append
    have hsingle : single (time, event) = true := decide_eq_true htype
    unfold Sweeps
    rw [happend, hresets, hleft, hqueue, List.filter_cons_of_pos hsingle]
    constructor
    · rw [List.filter_cons_of_neg (by simpa using hdue)]
    · unfold InstanceSaveManager.resetInstance
      cases hinstanceable : realm.instanceable event.mapid with
      | true =>
        rw [List.filter_cons_of_pos (by simp [hdue, hinstanceable])]
        rfl
      | false =>
        rw [List.filter_cons_of_neg (by simp [hinstanceable])]
        rfl
  | dropped htype => exact sweeps_global hqueue (hglobal htype) rfl rfl hlast
  | warning htype hwarn =>
    have hnext : event.type + 1 ≠ 0 := by
      revert htype hwarn
      generalize event.type = type
      revert type
      decide
    refine sweeps_global hqueue htype (filter_schedule_global rest _ hnext) ?_ hlast
    split <;> rfl
  | reset htype hinstanceable hperiod hlater =>
    exact sweeps_global hqueue (hglobal htype)
      (filter_schedule_global rest _ (by decide : (1 : Fin 5) ≠ 0)) rfl hlast
  | again htype hinstanceable hperiod hearlier =>
    refine sweeps_global hqueue (hglobal htype) ?_ rfl hlast
    exact List.filter_cons_of_neg (by simp [single, htype])

theorem update_sweeps (hpunctual : ledger.manager.Punctual)
    (hroom : ledger.manager.Headroom realm now) :
    ∃ last, ledger.update realm now = some last ∧ last.1.Punctual ∧
      Sweeps realm now ledger.manager last :=
  InstanceSaveManager.update_induction
    (fun _ _ hlater => sweeps_finished realm hlater)
    (fun _ _ _ _ _ _ _ _ hqueue hdue houtcome hlast =>
      sweeps_handled hqueue hdue houtcome hlast)
    hpunctual hroom (Nat.lt_succ_self _)

include hsound in
theorem Sound.resets_eq_due (hlast : Sweeps realm now ledger.manager last) :
    instanceResets last.2 = ledger.due now := by
  rw [hlast.2, hsound.asked, List.filter_map, List.map_map]
  have hdue : ∀ entry ∈ ledger.asked,
      ((fun entry : Int × InstResetEvent =>
          entry.1 < (now : Int) && realm.instanceable entry.2.mapid) ∘ Prod.map id Request.event)
        entry = decide (entry.1 < (now : Int)) := by
    intro entry hentry
    show (decide (entry.1 < (now : Int)) && realm.instanceable entry.2.mapid) = _
    rw [hsound.instanceable entry hentry, Bool.and_true]
  rw [List.filter_congr hdue]
  refine List.map_congr_left fun entry hentry => ?_
  show (entry.2.mapid, entry.2.instanceId.toUInt16.toUInt32) = _
  rw [hsound.narrow entry (List.mem_of_mem_filter hentry)]

include hsound in
theorem Sound.update (hroom : ledger.manager.Headroom realm now) :
    (ledger.step realm (.update now)).Sound realm := by
  obtain ⟨last, hlast, hpunctual, hsweeps⟩ := update_sweeps hsound.punctual hroom
  unfold step
  dsimp only
  rw [hlast]
  refine
    { punctual := hpunctual
      asked := ?_
      narrow := fun entry hentry => hsound.narrow entry (List.mem_of_mem_filter hentry)
      instanceable := fun entry hentry =>
        hsound.instanceable entry (List.mem_of_mem_filter hentry) }
  rw [hsweeps.1, hsound.asked, List.filter_map]
  rfl

variable {event : ScheduleEvent}

include hsound in
theorem Sound.step (hallowed : Allowed realm ledger event) :
    (ledger.step realm event).Sound realm := by
  cases event with
  | add time request => exact hsound.add hallowed.1 hallowed.2
  | cancel time request => exact hsound.cancel hallowed
  | update now => exact hsound.update hallowed.1

include hsound in
theorem Sound.faithful (hallowed : Allowed realm ledger event) : Faithful realm ledger event := by
  cases event with
  | add time request => trivial
  | cancel time request => exact cancel_others hallowed
  | update now =>
    obtain ⟨last, hlast, -, hsweeps⟩ := update_sweeps hsound.punctual hallowed.1
    have hresets := hsound.resets_eq_due hsweeps
    exact ⟨last, hlast, hresets, hresets ▸ hallowed.2⟩

end

/-- A ledger to start with: only events of whole maps are in the queue. -/
def start (manager : InstanceSaveManager) : Ledger := { manager := manager, asked := [] }

/-- From a queue of events of whole maps, in allowed runs the queue holds exactly what was asked
for, every update resets exactly the due instances, each once, and every cancellation leaves the
other events alone. -/
theorem scheduledResets_exact (realm : Realm) (manager : InstanceSaveManager)
    (hpunctual : manager.Punctual) (hglobal : ∀ entry ∈ manager.resetTimeQueue, entry.2.type ≠ 0)
    (events : List ScheduleEvent)
    (hallowed : Along (step realm) (Allowed realm) (start manager) events) :
    (∀ reached ∈ visited (step realm) (start manager) events, reached.Exact) ∧
      Along (step realm) (Faithful realm) (start manager) events := by
  have hstart : (start manager).Sound realm :=
    { punctual := hpunctual
      asked := List.filter_eq_nil_iff.mpr fun entry hentry hsingle =>
        hglobal entry hentry (of_decide_eq_true hsingle)
      narrow := fun entry hentry => absurd hentry List.not_mem_nil
      instanceable := fun entry hentry => absurd hentry List.not_mem_nil }
  constructor
  · intro reached hreached
    exact (invariant_of_along (step realm) (Sound realm) (Allowed realm)
      (fun _ _ hsound => hsound.step) (start manager) events hstart hallowed reached hreached).exact
  · exact along_of_invariant (step realm) (Sound realm) (fun _ _ hsound => hsound.step)
      (fun _ _ hsound => hsound.faithful) (start manager) events hstart hallowed

theorem day_le_week : ∀ (mapid : UInt16) (difficulty : UInt8) (length : Nat),
    (if mapid = 249 ∧ difficulty = 3 then some 604800 else none) = some length →
      day ≤ length := by
  intro mapid difficulty length hlength
  split at hlength
  · cases hlength
    decide
  · cases hlength

/-- Map 249 is reset every week, at 4 o'clock. -/
def weekly : Realm where
  instanceable _ := true
  period mapid difficulty := if mapid = 249 ∧ difficulty = 3 then some 604800 else none
  resetHour := 4
  day_le := day_le_week

/-- The last warning of map 249 is pending. -/
def warned : InstanceSaveManager where
  resetTimeQueue := [(1209540, { type := 4, mapid := 249, difficulty := 3, instanceId := 0 })]
  resetTime _ _ := 1209600

theorem warned_punctual : warned.Punctual where
  ordered := List.pairwise_singleton _ _
  inTime := by decide

theorem scheduledResets_exact_warned :
    let first : Request := { mapid := 36, difficulty := 1, instanceId := 5 }
    let second : Request := { mapid := 36, difficulty := 1, instanceId := 6 }
    let events := [.add 1000 first, .add 1000 second, .cancel 1000 first, .update 1300000]
    (∀ reached ∈ visited (step weekly) (start warned) events, reached.Exact) ∧
      Along (step weekly) (Faithful weekly) (start warned) events := by
  refine scheduledResets_exact weekly warned warned_punctual (by decide) _
    ⟨⟨by decide, rfl⟩, ⟨by decide, rfl⟩, by unfold Allowed; decide, ⟨?_, by decide⟩, trivial⟩
  intro mapid difficulty length hperiod
  unfold weekly at hperiod
  dsimp only at hperiod
  split at hperiod
  next hpair =>
    obtain ⟨rfl, rfl⟩ := hpair
    cases hperiod
    decide
  · cases hperiod

/-- An instance id beyond 16 bits: instance 5 is reset in place of instance 65541. -/
theorem scheduledResets_mixed_up :
    ¬Along (step weekly) (Faithful weekly) (start { warned with resetTimeQueue := [] })
      [.add 1000 { mapid := 36, difficulty := 1, instanceId := 65541 }, .update 2000] := by
  rintro ⟨-, ⟨last, hlast, hresets, -⟩, -⟩
  have hwrong : (update weekly (step weekly (start { warned with resetTimeQueue := [] })
      (.add 1000 { mapid := 36, difficulty := 1, instanceId := 65541 })) 2000).map
        (fun last => instanceResets last.2) = some [(36, 5)] := by decide
  rw [hlast, Option.map_some, hresets] at hwrong
  revert hwrong
  decide

end Ledger

end MopServer.Instances
