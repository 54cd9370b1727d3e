import MopServer.Instances.ResetSchedule
import Mathlib.Algebra.Order.BigOperators.Group.List
import Mathlib.Algebra.Order.Group.Nat

/-! # An update of the reset schedule

`Update` handles the events that are due, among them those it schedules itself.  It ends because a
warning is followed by a later one and a global reset moves the stored reset time on.
-/

namespace MopServer.Instances

open MopServer.Foundation

namespace InstanceSaveManager

variable (now : Nat)

def dueFor (mapid : UInt16) (difficulty : UInt8) (entry : Int × InstResetEvent) : Bool :=
  entry.1 < now && entry.2.type ≠ 0 && entry.2.mapid = mapid && entry.2.difficulty = difficulty

/-- The queue is in order, and no global event comes later than its reset time asks for. -/
structure Punctual (manager : InstanceSaveManager) : Prop where
  ordered : manager.resetTimeQueue.Ordered
  inTime : ∀ entry ∈ manager.resetTimeQueue, entry.2.type ≠ 0 →
    entry.1 + resetTimeDelay entry.2.type ≤ manager.getResetTimeFor entry.2

/-- The reset times an update reaches fit into 32 bits: every event that is due may move a reset
time on by one period. -/
def Headroom (realm : Realm) (now : Nat) (manager : InstanceSaveManager) : Prop :=
  ∀ mapid difficulty length, realm.period mapid difficulty = some length →
    max (manager.resetTime mapid difficulty) (now + hour) +
      (manager.resetTimeQueue.countP (dueFor now mapid difficulty) + 1) *
        (length + realm.diff + minute) < 2 ^ 32

variable (manager : InstanceSaveManager)

/-- How much an event may still keep an update busy. -/
def effort (entry : Int × InstResetEvent) : Nat :=
  if entry.1 < now then
    if entry.2.type = 0 then 1
    else 5 - entry.2.type.val + 4 * (now + hour - manager.getResetTimeFor entry.2)
  else 0

/-- How much an update still has to do. -/
def remaining : Nat :=
  (manager.resetTimeQueue.map (effort now manager)).sum

section

variable {realm : Realm} {manager : InstanceSaveManager} {now : Nat} {time : Int}
  {event : InstResetEvent} {rest : ResetTimeQueue} {length : Nat}

/-- What the first entry of the queue may lead to. -/
inductive Outcome (realm : Realm) (manager : InstanceSaveManager) (time : Int)
    (event : InstResetEvent) (rest : ResetTimeQueue) :
    InstanceSaveManager × List ResetAction → Prop where
  /-- A single instance is reset. -/
  | single (htype : event.type = 0) :
      Outcome realm manager time event rest
        ({ manager with resetTimeQueue := rest }, resetInstance realm event)
  /-- A warning is followed by the next one. -/
  | warning (htype : event.type ≠ 0) (hwarn : event.type ≠ 4) :
      Outcome realm manager time event rest
        ({ manager with
            resetTimeQueue := rest.schedule
              (manager.getResetTimeFor event - resetTimeDelay (event.type + 1))
              { event with type := event.type + 1 } },
          if realm.instanceable event.mapid then
            [.global event.mapid event.difficulty event.type (manager.getResetTimeFor event)]
          else [])
  /-- A reset that does nothing ends the chain of its map. -/
  | dropped (htype : event.type = 4)
      (hnone : realm.instanceable event.mapid = false ∨
        realm.period event.mapid event.difficulty = none) :
      Outcome realm manager time event rest ({ manager with resetTimeQueue := rest }, [])
  /-- A reset starts the next chain. -/
  | reset {length : Nat} (htype : event.type = 4)
      (hinstanceable : realm.instanceable event.mapid = true)
      (hperiod : realm.period event.mapid event.difficulty = some length)
      (hlater : time + hour ≤ nextReset realm (manager.getResetTimeFor event) length) :
      Outcome realm manager time event rest
        ({ manager.setResetTimeFor event.mapid event.difficulty
              (nextReset realm (manager.getResetTimeFor event) length) with
            resetTimeQueue := rest.schedule
              (nextReset realm (manager.getResetTimeFor event) length - hour)
              { type := 1, mapid := event.mapid, difficulty := event.difficulty
                instanceId := 0 } },
          [.global event.mapid event.difficulty event.type (manager.getResetTimeFor event)])
  /-- A reset whose first warning comes before it is taken again. -/
  | again {length : Nat} (htype : event.type = 4)
      (hinstanceable : realm.instanceable event.mapid = true)
      (hperiod : realm.period event.mapid event.difficulty = some length)
      (hearlier : nextReset realm (manager.getResetTimeFor event) length < time + hour) :
      Outcome realm manager time event rest
        ({ manager.setResetTimeFor event.mapid event.difficulty
              (nextReset realm (manager.getResetTimeFor event) length) with
            resetTimeQueue := (time, event) :: rest },
          [.global event.mapid event.difficulty event.type (manager.getResetTimeFor event)])

/-- Without a wrap the next reset time is later than the stored one, and at least a period. -/
theorem nextReset_spec {resetTime : Nat} (hlength : day ≤ length)
    (hroom : resetTime + (length + realm.diff + minute) < 2 ^ 32) :
    nextReset realm resetTime length =
        (resetTime + minute) / day * day + length + realm.diff ∧
      resetTime < nextReset realm resetTime length ∧
      nextReset realm resetTime length ≤ resetTime + (length + realm.diff + minute) ∧
      day ≤ nextReset realm resetTime length := by
  unfold nextReset
  unfold minute day at *
  have hsame : ((resetTime + 60) / 86400 * 86400 + length + realm.diff) % 2 ^ 32 =
      (resetTime + 60) / 86400 * 86400 + length + realm.diff := Nat.mod_eq_of_lt (by omega)
  rw [hsame]
  refine ⟨rfl, ?_, ?_, ?_⟩ <;> omega

variable (hroom : Headroom realm now manager)
  (hperiod : realm.period event.mapid event.difficulty = some length)

include hroom hperiod in
theorem Headroom.room :
    manager.getResetTimeFor event + (length + realm.diff + minute) < 2 ^ 32 := by
  have hlt := hroom event.mapid event.difficulty length hperiod
  have hone : length + realm.diff + minute ≤
      (manager.resetTimeQueue.countP (dueFor now event.mapid event.difficulty) + 1) *
        (length + realm.diff + minute) := Nat.le_mul_of_pos_left _ (Nat.succ_pos _)
  unfold getResetTimeFor
  omega

theorem resetTimeDelay_succ_le {type : Fin 5} (htype : type ≠ 0) (hwarn : type ≠ 4) :
    resetTimeDelay (type + 1) ≤ resetTimeDelay type := by
  revert type
  decide

theorem processFirst_outcome (hpunctual : manager.Punctual) (hroom : Headroom realm now manager)
    (hqueue : manager.resetTimeQueue = (time, event) :: rest) :
    Outcome realm manager time event rest (manager.processFirst realm time event rest) := by
  have hintime : event.type ≠ 0 →
      time + resetTimeDelay event.type ≤ manager.getResetTimeFor event :=
    hpunctual.inTime (time, event) (by rw [hqueue]; exact List.mem_cons_self)
  unfold processFirst
  by_cases htype : event.type = 0
  · rw [if_pos htype]
    have herase : manager.eraseFirst = { manager with resetTimeQueue := rest } := by
      unfold eraseFirst
      rw [hqueue, List.tail_cons]
    rw [herase]
    exact .single htype
  rw [if_neg htype]
  by_cases hwarn : event.type = 4
  · rw [if_neg (not_not.mpr hwarn)]
    unfold resetOrWarnAll
    cases hinstanceable : realm.instanceable event.mapid with
    | false =>
      have herase : manager.eraseFirst = { manager with resetTimeQueue := rest } := by
        unfold eraseFirst
        rw [hqueue, List.tail_cons]
      rw [Bool.not_false, if_pos rfl, herase]
      exact .dropped hwarn (Or.inl hinstanceable)
    | true =>
      rw [Bool.not_true, if_neg Bool.false_ne_true, if_neg (not_not.mpr hwarn)]
      cases hperiod : realm.period event.mapid event.difficulty with
      | none =>
        have herase : manager.eraseFirst = { manager with resetTimeQueue := rest } := by
          unfold eraseFirst
          rw [hqueue, List.tail_cons]
        rw [herase]
        exact .dropped hwarn (Or.inr hperiod)
      | some length =>
        obtain ⟨-, -, hle, hday⟩ := nextReset_spec
          (realm.day_le event.mapid event.difficulty length hperiod) (hroom.room hperiod)
        have hlt := hroom.room hperiod
        have hwrap :
            (((nextReset realm (manager.getResetTimeFor event) length + 2 ^ 32 - hour) %
                2 ^ 32 : Nat) : Int) =
              nextReset realm (manager.getResetTimeFor event) length - hour := by
          unfold day at hday
          unfold hour
          omega
        show Outcome realm manager time event rest
          (eraseFirst (addReset (setResetTimeFor manager event.mapid event.difficulty
            (nextReset realm (manager.getResetTimeFor event) length)) _ _),
            [.global event.mapid event.difficulty event.type (manager.getResetTimeFor event)])
        rw [hwrap]
        unfold addReset eraseFirst
        have hsame : (setResetTimeFor manager event.mapid event.difficulty
            (nextReset realm (manager.getResetTimeFor event) length)).resetTimeQueue =
              (time, event) :: rest := hqueue
        rw [hsame]
        by_cases hlater : time + hour ≤ nextReset realm (manager.getResetTimeFor event) length
        · rw [TimedQueue.schedule_cons_of_le (by omega), List.tail_cons]
          exact .reset hwarn hinstanceable hperiod hlater
        · rw [TimedQueue.schedule, if_neg (by omega), List.tail_cons]
          exact .again hwarn hinstanceable hperiod (by omega)
  · rw [if_pos hwarn]
    have hdelay := resetTimeDelay_succ_le htype hwarn
    unfold addReset eraseFirst
    dsimp only
    rw [TimedQueue.schedule_cons_of_le (by
      omega), List.tail_cons]
    have hdone : resetOrWarnAll realm manager event (manager.getResetTimeFor event) =
        (manager, if realm.instanceable event.mapid then
          [.global event.mapid event.difficulty event.type (manager.getResetTimeFor event)]
          else []) := by
      unfold resetOrWarnAll
      cases realm.instanceable event.mapid with
      | false => rfl
      | true => rw [Bool.not_true, if_neg Bool.false_ne_true, if_pos hwarn, if_pos rfl]
    show Outcome realm manager time event rest
      ({ (resetOrWarnAll realm manager event (manager.getResetTimeFor event)).1 with
          resetTimeQueue := _ },
        (resetOrWarnAll realm manager event (manager.getResetTimeFor event)).2)
    rw [hdone]
    exact .warning htype hwarn

/-! ## What an outcome keeps -/

variable {after : InstanceSaveManager × List ResetAction} (queue : ResetTimeQueue)

theorem getResetTimeFor_setResetTimeFor (manager : InstanceSaveManager) (mapid : UInt16)
    (difficulty : UInt8) (resetTime : Nat) (event : InstResetEvent) :
    (manager.setResetTimeFor mapid difficulty resetTime).getResetTimeFor event =
      if event.mapid = mapid ∧ event.difficulty = difficulty then resetTime
      else manager.getResetTimeFor event := rfl

include hroom hperiod in
theorem le_setResetTimeFor (other : InstResetEvent) :
    manager.getResetTimeFor other ≤
      (manager.setResetTimeFor event.mapid event.difficulty
        (nextReset realm (manager.getResetTimeFor event) length)).getResetTimeFor other := by
  obtain ⟨-, hlt, -, -⟩ := nextReset_spec
    (realm.day_le event.mapid event.difficulty length hperiod) (hroom.room hperiod)
  rw [getResetTimeFor_setResetTimeFor]
  split
  next hsame =>
    have heq : manager.getResetTimeFor other = manager.getResetTimeFor event := by
      unfold getResetTimeFor
      rw [hsame.1, hsame.2]
    rw [heq]
    exact hlt.le
  · exact le_rfl

theorem Punctual.inTime_mono (hpunctual : manager.Punctual)
    (hqueue : manager.resetTimeQueue = (time, event) :: rest) {after : InstanceSaveManager}
    (hlater : ∀ other, manager.getResetTimeFor other ≤ after.getResetTimeFor other) :
    ∀ entry ∈ (time, event) :: rest, entry.2.type ≠ 0 →
      entry.1 + resetTimeDelay entry.2.type ≤ after.getResetTimeFor entry.2 := by
  intro entry hentry htype
  have hbefore := hpunctual.inTime entry (by rw [hqueue]; exact hentry) htype
  have hmono := hlater entry.2
  omega

variable (houtcome : Outcome realm manager time event rest after)

include houtcome in
theorem Outcome.punctual (hpunctual : manager.Punctual) (hroom : Headroom realm now manager)
    (hqueue : manager.resetTimeQueue = (time, event) :: rest) : after.1.Punctual := by
  have hordered : TimedQueue.Ordered ((time, event) :: rest) := hqueue ▸ hpunctual.ordered
  have hrest : TimedQueue.Ordered rest := (List.pairwise_cons.mp hordered).2
  have hsame : ∀ other, manager.getResetTimeFor other ≤ manager.getResetTimeFor other :=
    fun _ => le_rfl
  have hkept := hpunctual.inTime_mono hqueue hsame
  cases houtcome with
  | single | dropped =>
    exact ⟨hrest, fun entry hentry => hkept entry (List.mem_cons_of_mem _ hentry)⟩
  | warning htype hwarn =>
    refine ⟨hrest.schedule _ _, fun entry hentry hentryType => ?_⟩
    rcases TimedQueue.mem_schedule.mp hentry with rfl | hold
    · show (manager.getResetTimeFor event : Int) - resetTimeDelay (event.type + 1) +
        resetTimeDelay (event.type + 1) ≤ manager.getResetTimeFor event
      omega
    · exact hkept entry (List.mem_cons_of_mem _ hold) hentryType
  | @reset length htype hinstanceable hperiod hlater =>
    have hmono := hpunctual.inTime_mono hqueue (le_setResetTimeFor hroom hperiod)
    refine ⟨hrest.schedule _ _, fun entry hentry hentryType => ?_⟩
    rcases TimedQueue.mem_schedule.mp hentry with rfl | hold
    · have hown : (manager.setResetTimeFor event.mapid event.difficulty
          (nextReset realm (manager.getResetTimeFor event) length)).getResetTimeFor
            ⟨1, event.mapid, event.difficulty, 0⟩ =
          nextReset realm (manager.getResetTimeFor event) length := if_pos ⟨rfl, rfl⟩
      have hdelay : resetTimeDelay 1 = hour := rfl
      show (nextReset realm (manager.getResetTimeFor event) length : Int) - hour +
        resetTimeDelay 1 ≤ _
      rw [hdelay]
      exact (Int.sub_add_cancel _ _).le.trans (Int.ofNat_le.mpr hown.symm.le)
    · exact hmono entry (List.mem_cons_of_mem _ hold) hentryType
  | again htype hinstanceable hperiod hearlier =>
    exact ⟨hordered, hpunctual.inTime_mono hqueue (le_setResetTimeFor hroom hperiod)⟩

theorem countP_schedule (time : Int) (event : InstResetEvent) (keep : Int × InstResetEvent → Bool) :
    (queue.schedule time event).countP keep =
      queue.countP keep + if keep (time, event) then 1 else 0 := by
  rw [(TimedQueue.schedule_perm queue time event).countP_eq, List.countP_cons]

theorem dueFor_of_due (htype : event.type ≠ 0) (hdue : time < now) (mapid : UInt16)
    (difficulty : UInt8) :
    dueFor now mapid difficulty (time, event) =
      (event.mapid = mapid && event.difficulty = difficulty : Bool) := by
  unfold dueFor
  simp [htype, hdue]

include hroom in
theorem Headroom.of_le {after : InstanceSaveManager}
    (hle : ∀ mapid difficulty length, realm.period mapid difficulty = some length →
      max (after.resetTime mapid difficulty) (now + hour) +
          (after.resetTimeQueue.countP (dueFor now mapid difficulty) + 1) *
            (length + realm.diff + minute) ≤
        max (manager.resetTime mapid difficulty) (now + hour) +
          (manager.resetTimeQueue.countP (dueFor now mapid difficulty) + 1) *
            (length + realm.diff + minute)) : Headroom realm now after :=
  fun mapid difficulty length hperiod =>
    (hle mapid difficulty length hperiod).trans_lt (hroom mapid difficulty length hperiod)

include houtcome in
theorem Outcome.headroom (hroom : Headroom realm now manager)
    (hqueue : manager.resetTimeQueue = (time, event) :: rest) (hdue : time < now) :
    Headroom realm now after.1 := by
  refine hroom.of_le fun mapid difficulty length hperiod => ?_
  rw [hqueue, List.countP_cons]
  cases houtcome with
  | single | dropped =>
    exact Nat.add_le_add_left (Nat.mul_le_mul_right _ (by dsimp only; omega)) _
  | warning htype hwarn =>
    -- the next warning is due only where this one was
    refine Nat.add_le_add_left (Nat.mul_le_mul_right _ ?_) _
    rw [countP_schedule, dueFor_of_due htype hdue]
    have hnext : dueFor now mapid difficulty
        ((manager.getResetTimeFor event : Int) - resetTimeDelay (event.type + 1),
          { event with type := event.type + 1 }) = true →
        (event.mapid = mapid && event.difficulty = difficulty : Bool) = true := by
      unfold dueFor
      simp only [Bool.and_eq_true, decide_eq_true_eq]
      rintro ⟨⟨-, hmap⟩, hdifficulty⟩
      exact ⟨hmap, hdifficulty⟩
    split <;> split <;> simp_all
  | @reset own htype hinstanceable hown hlater =>
    obtain ⟨-, -, hle, -⟩ := nextReset_spec
      (realm.day_le event.mapid event.difficulty own hown) (hroom.room hown)
    have hglobal : event.type ≠ 0 := by rw [htype]; decide
    rw [countP_schedule, dueFor_of_due hglobal hdue]
    by_cases hpair : event.mapid = mapid ∧ event.difficulty = difficulty
    · obtain ⟨rfl, rfl⟩ := hpair
      have hlength : own = length := Option.some.inj (hown.symm.trans hperiod)
      subst hlength
      have hmoved : (manager.setResetTimeFor event.mapid event.difficulty
          (nextReset realm (manager.getResetTimeFor event) own)).resetTime event.mapid
            event.difficulty = nextReset realm (manager.getResetTimeFor event) own :=
        if_pos ⟨rfl, rfl⟩
      have hsame : manager.resetTime event.mapid event.difficulty =
          manager.getResetTimeFor event := rfl
      rw [hmoved, hsame]
      simp only [decide_true, Bool.and_self, if_true]
      split
      next hagain =>
        -- the first warning is due as well, so the reset time is not later than the update
        unfold dueFor at hagain
        simp only [Bool.and_eq_true, decide_eq_true_eq] at hagain
        have hearly := hagain.1.1.1
        have hnext : nextReset realm (manager.getResetTimeFor event) own ≤ now + hour := by
          generalize nextReset realm (manager.getResetTimeFor event) own = next at hearly ⊢
          omega
        have hmax : max (nextReset realm (manager.getResetTimeFor event) own) (now + hour) ≤
            max (manager.getResetTimeFor event) (now + hour) :=
          (max_le hnext le_rfl).trans (le_max_right _ _)
        exact Nat.add_le_add_right hmax _
      · have hstep := Nat.succ_mul
          (rest.countP (dueFor now event.mapid event.difficulty) + 1) (own + realm.diff + minute)
        have hmax : max (nextReset realm (manager.getResetTimeFor event) own) (now + hour) ≤
            max (manager.getResetTimeFor event) (now + hour) + (own + realm.diff + minute) :=
          max_le (hle.trans (Nat.add_le_add_right (le_max_left _ _) _))
            ((le_max_right _ _).trans (Nat.le_add_right _ _))
        rw [Nat.succ_eq_add_one] at hstep
        rw [Nat.add_zero, hstep]
        exact (Nat.add_le_add_right hmax _).trans (by omega)
    · have hother : (manager.setResetTimeFor event.mapid event.difficulty
          (nextReset realm (manager.getResetTimeFor event) own)).resetTime mapid difficulty =
            manager.resetTime mapid difficulty :=
        if_neg fun hsame => hpair ⟨hsame.1.symm, hsame.2.symm⟩
      have hnot : dueFor now mapid difficulty
          ((nextReset realm (manager.getResetTimeFor event) own : Int) - hour,
            { type := 1, mapid := event.mapid, difficulty := event.difficulty
              instanceId := 0 }) = false := by
        unfold dueFor
        grind
      rw [hother, hnot]
      exact Nat.add_le_add_left (Nat.mul_le_mul_right _ (by simp)) _
  | @again own htype hinstanceable hown hearlier =>
    have hmax : max ((manager.setResetTimeFor event.mapid event.difficulty
          (nextReset realm (manager.getResetTimeFor event) own)).resetTime mapid difficulty)
            (now + hour) ≤ max (manager.resetTime mapid difficulty) (now + hour) := by
      show max (if mapid = event.mapid ∧ difficulty = event.difficulty then _ else _) _ ≤ _
      split <;> omega
    rw [List.countP_cons]
    exact Nat.add_le_add_right hmax _

/-! ## An update ends -/

theorem sum_map_schedule (weight : Int × InstResetEvent → Nat) (time : Int)
    (event : InstResetEvent) :
    ((queue.schedule time event).map weight).sum =
      weight (time, event) + (queue.map weight).sum := by
  rw [((TimedQueue.schedule_perm queue time event).map weight).sum_eq, List.map_cons, List.sum_cons]

theorem effort_le {after : InstanceSaveManager}
    (hlater : ∀ other, manager.getResetTimeFor other ≤ after.getResetTimeFor other)
    (entry : Int × InstResetEvent) : effort now after entry ≤ effort now manager entry := by
  have hmono := hlater entry.2
  unfold effort
  split
  · split <;> omega
  · exact le_rfl

theorem sum_effort_le (now : Nat) {after : InstanceSaveManager}
    (hlater : ∀ other, manager.getResetTimeFor other ≤ after.getResetTimeFor other)
    (queue : ResetTimeQueue) :
    (queue.map (effort now after)).sum ≤ (queue.map (effort now manager)).sum :=
  List.sum_le_sum fun entry _ => effort_le hlater entry

theorem effort_of_due (htype : event.type ≠ 0) (hdue : time < now) :
    effort now manager (time, event) =
      5 - event.type.val + 4 * (now + hour - manager.getResetTimeFor event) := by
  unfold effort
  rw [if_pos hdue, if_neg htype]

theorem effort_warning_lt (htype : event.type ≠ 0) (hwarn : event.type ≠ 4) (hdue : time < now)
    (next : Int) :
    effort now manager (next, { event with type := event.type + 1 }) <
      effort now manager (time, event) := by
  rw [effort_of_due htype hdue]
  have hsucc : (event.type + 1).val = event.type.val + 1 ∧ event.type.val < 4 ∧
      event.type + 1 ≠ 0 := by
    revert htype hwarn
    generalize event.type = type
    revert type
    decide
  have hsame : manager.getResetTimeFor { event with type := event.type + 1 } =
      manager.getResetTimeFor event := rfl
  unfold effort
  rw [hsame, if_neg hsucc.2.2, hsucc.1]
  split <;> omega

include houtcome in
theorem Outcome.remaining_lt (hroom : Headroom realm now manager)
    (hqueue : manager.resetTimeQueue = (time, event) :: rest) (hdue : time < now) :
    remaining now after.1 < remaining now manager := by
  unfold remaining
  rw [hqueue, List.map_cons, List.sum_cons]
  cases houtcome with
  | single htype =>
    have hone : effort now manager (time, event) = 1 := by
      unfold effort
      rw [if_pos hdue, if_pos htype]
    rw [hone]
    exact Nat.lt_one_add_iff.mpr le_rfl
  | dropped htype =>
    have hpos : 0 < effort now manager (time, event) := by
      rw [effort_of_due (by rw [htype]; decide) hdue, htype]
      exact Nat.add_pos_left (by decide) _
    exact Nat.lt_add_of_pos_left hpos
  | warning htype hwarn =>
    rw [sum_map_schedule]
    exact Nat.add_lt_add_right (effort_warning_lt htype hwarn hdue _) _
  | @reset length htype hinstanceable hperiod hlater =>
    obtain ⟨-, hlt, -, -⟩ := nextReset_spec
      (realm.day_le event.mapid event.difficulty length hperiod) (hroom.room hperiod)
    have hothers := sum_effort_le now (le_setResetTimeFor hroom hperiod) rest
    have hown : (manager.setResetTimeFor event.mapid event.difficulty
        (nextReset realm (manager.getResetTimeFor event) length)).getResetTimeFor
          ⟨1, event.mapid, event.difficulty, 0⟩ =
        nextReset realm (manager.getResetTimeFor event) length := if_pos ⟨rfl, rfl⟩
    have hless : effort now (manager.setResetTimeFor event.mapid event.difficulty
          (nextReset realm (manager.getResetTimeFor event) length))
        ((nextReset realm (manager.getResetTimeFor event) length : Int) - hour,
          ⟨1, event.mapid, event.difficulty, 0⟩) < effort now manager (time, event) := by
      rw [effort_of_due (by rw [htype]; decide) hdue, htype]
      unfold effort
      rw [hown, if_neg (show ¬(1 : Fin 5) = 0 by decide)]
      split
      · show 5 - 1 + _ < 5 - 4 + _
        omega
      · exact Nat.add_pos_left (by decide) _
    rw [sum_map_schedule]
    exact Nat.add_lt_add_of_lt_of_le hless hothers
  | @again length htype hinstanceable hperiod hearlier =>
    obtain ⟨-, hlt, -, -⟩ := nextReset_spec
      (realm.day_le event.mapid event.difficulty length hperiod) (hroom.room hperiod)
    have hothers := sum_effort_le now (le_setResetTimeFor hroom hperiod) rest
    have hglobal : event.type ≠ 0 := by rw [htype]; decide
    have hown : (manager.setResetTimeFor event.mapid event.difficulty
        (nextReset realm (manager.getResetTimeFor event) length)).getResetTimeFor event =
        nextReset realm (manager.getResetTimeFor event) length := if_pos ⟨rfl, rfl⟩
    have hless : effort now (manager.setResetTimeFor event.mapid event.difficulty
          (nextReset realm (manager.getResetTimeFor event) length)) (time, event) <
        effort now manager (time, event) := by
      rw [effort_of_due hglobal hdue, effort_of_due hglobal hdue, hown]
      omega
    rw [List.map_cons, List.sum_cons]
    exact Nat.add_lt_add_of_lt_of_le hless hothers

/-- `Update` has a result once it has fuel for what remains to be done, and the result has what
holds when nothing is due and is handed back through what the first entry leads to. -/
theorem update_induction {motive : InstanceSaveManager → InstanceSaveManager × List ResetAction →
      Prop}
    (finished : ∀ manager : InstanceSaveManager, manager.Punctual →
      (∀ entry ∈ manager.resetTimeQueue, (now : Int) ≤ entry.1) → motive manager (manager, []))
    (handled : ∀ (manager : InstanceSaveManager) (time : Int) (event : InstResetEvent)
      (rest : ResetTimeQueue) (done last : InstanceSaveManager × List ResetAction),
      manager.Punctual → Headroom realm now manager →
      manager.resetTimeQueue = (time, event) :: rest → time < now →
      Outcome realm manager time event rest done → motive done.1 last →
      motive manager (last.1, done.2 ++ last.2))
    {fuel : Nat} (hpunctual : manager.Punctual) (hroom : Headroom realm now manager)
    (hfuel : remaining now manager < fuel) :
    ∃ last, manager.update realm now fuel = some last ∧ last.1.Punctual ∧
      motive manager last := by
  induction fuel generalizing manager with
  | zero => exact absurd hfuel (Nat.not_lt_zero _)
  | succ fuel ih =>
    unfold update
    split
    next hqueue =>
      refine ⟨_, rfl, hpunctual, finished manager hpunctual fun entry hentry => ?_⟩
      rw [hqueue] at hentry
      exact absurd hentry List.not_mem_nil
    next time event rest hqueue =>
      split
      next hlater =>
        refine ⟨_, rfl, hpunctual, finished manager hpunctual ?_⟩
        have hordered := hpunctual.ordered
        rw [hqueue] at hordered ⊢
        exact hordered.le_of_head hlater
      next hdue =>
        have hdue : time < now := Int.not_le.mp hdue
        have houtcome := processFirst_outcome hpunctual hroom hqueue
        obtain ⟨last, hlast, hafter, hmotive⟩ :=
          ih (houtcome.punctual hpunctual hroom hqueue)
          (houtcome.headroom hroom hqueue hdue)
          (Nat.lt_of_lt_of_le (houtcome.remaining_lt hroom hqueue hdue)
            (Nat.le_of_lt_succ hfuel))
        refine ⟨(last.1, (processFirst realm manager time event rest).2 ++ last.2), ?_,
          hafter, handled manager time event rest _ last hpunctual hroom hqueue hdue houtcome
            hmotive⟩
        dsimp only
        rw [hlast]
        rfl

end

end InstanceSaveManager

end MopServer.Instances
