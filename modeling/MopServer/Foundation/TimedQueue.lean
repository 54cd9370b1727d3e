import Mathlib.Data.List.Basic
import Mathlib.Data.List.Perm.Basic

/-! # Queues ordered by time

A list of events in order of time, as a multimap keeps them: an event is put behind those of the
same time.
-/

namespace MopServer.Foundation

abbrev TimedQueue (Event : Type*) := List (Int × Event)

namespace TimedQueue

variable {Event : Type*} {rest queue : TimedQueue Event} {first : Int × Event} {time : Int}
  {event : Event} {keep : Int × Event → Bool}

/-- The queue is in order of time. -/
def Ordered (queue : TimedQueue Event) : Prop :=
  queue.Pairwise fun first second => first.1 ≤ second.1

/-- Put an event behind all events that are not later. -/
def schedule : TimedQueue Event → Int → Event → TimedQueue Event
  | [], time, event => [(time, event)]
  | first :: rest, time, event =>
    if first.1 ≤ time then first :: schedule rest time event else (time, event) :: first :: rest

theorem schedule_cons_of_le (hle : first.1 ≤ time) (event : Event) :
    schedule (first :: rest) time event = first :: schedule rest time event :=
  if_pos hle

theorem schedule_cons_of_lt (hlt : ¬first.1 ≤ time) (event : Event) :
    schedule (first :: rest) time event = (time, event) :: first :: rest :=
  if_neg hlt

theorem schedule_perm (queue : TimedQueue Event) (time : Int) (event : Event) :
    (schedule queue time event).Perm ((time, event) :: queue) := by
  induction queue with
  | nil => exact List.Perm.refl _
  | cons first rest ih =>
    unfold schedule
    split
    · exact (ih.cons first).trans (List.Perm.swap _ _ _)
    · exact List.Perm.refl _

theorem mem_schedule {entry : Int × Event} :
    entry ∈ schedule queue time event ↔ entry = (time, event) ∨ entry ∈ queue := by
  rw [(schedule_perm queue time event).mem_iff, List.mem_cons]

theorem Ordered.schedule (hordered : Ordered queue) (time : Int) (event : Event) :
    Ordered (schedule queue time event) := by
  induction queue with
  | nil => exact List.pairwise_singleton _ _
  | cons first rest ih =>
    obtain ⟨hfirst, hrest⟩ := List.pairwise_cons.mp hordered
    unfold TimedQueue.schedule
    split
    next hle =>
      refine List.pairwise_cons.mpr ⟨fun entry hentry => ?_, ih hrest⟩
      rcases mem_schedule.mp hentry with rfl | hold
      · exact hle
      · exact hfirst entry hold
    next hgt =>
      refine List.pairwise_cons.mpr ⟨fun entry hentry => ?_, hordered⟩
      have hlt : time ≤ first.1 := by omega
      rcases List.mem_cons.mp hentry with rfl | hold
      · exact hlt
      · exact Int.le_trans hlt (hfirst entry hold)

/-- A relation that the new event has to those it is put behind and ahead of. -/
theorem Ordered.pairwise_schedule (hordered : Ordered queue)
    {relation : Int × Event → Int × Event → Prop} (hqueue : queue.Pairwise relation)
    (hbehind : ∀ entry ∈ queue, entry.1 ≤ time → relation entry (time, event))
    (hahead : ∀ entry ∈ queue, time < entry.1 → relation (time, event) entry) :
    (TimedQueue.schedule queue time event).Pairwise relation := by
  induction queue with
  | nil => exact List.pairwise_singleton _ _
  | cons first rest ih =>
    obtain ⟨hfirst, hrest⟩ := List.pairwise_cons.mp hqueue
    by_cases hle : first.1 ≤ time
    · rw [schedule_cons_of_le hle]
      refine List.pairwise_cons.mpr ⟨fun entry hentry => ?_, ?_⟩
      · rcases mem_schedule.mp hentry with rfl | hold
        · exact hbehind first List.mem_cons_self hle
        · exact hfirst entry hold
      · exact ih (List.Pairwise.of_cons hordered) hrest
          (fun entry hentry => hbehind entry (List.mem_cons_of_mem _ hentry))
          fun entry hentry => hahead entry (List.mem_cons_of_mem _ hentry)
    · rw [schedule_cons_of_lt hle]
      refine List.pairwise_cons.mpr ⟨fun entry hentry => hahead entry hentry ?_, hqueue⟩
      have hlater : first.1 ≤ entry.1 := by
        rcases List.mem_cons.mp hentry with rfl | hold
        · exact Int.le_refl _
        · exact (List.pairwise_cons.mp hordered).1 entry hold
      omega

theorem schedule_append {front : TimedQueue Event} (hfront : ∀ entry ∈ front, entry.1 ≤ time)
    (rest : TimedQueue Event) (event : Event) :
    schedule (front ++ rest) time event = front ++ schedule rest time event := by
  induction front with
  | nil => rfl
  | cons first others ih =>
    rw [List.cons_append, schedule_cons_of_le (hfront first List.mem_cons_self),
      ih fun entry hentry => hfront entry (List.mem_cons_of_mem _ hentry), List.cons_append]

theorem filter_schedule_of_not (hother : keep (time, event) = false) :
    (schedule queue time event).filter keep = queue.filter keep := by
  induction queue with
  | nil => simp [schedule, hother]
  | cons first rest ih =>
    unfold schedule
    split
    · rw [List.filter_cons, List.filter_cons, ih]
    · rw [List.filter_cons, hother, if_neg Bool.false_ne_true]

/-- Once the first event is not due, none is. -/
theorem Ordered.le_of_head {now : Int} (hordered : Ordered (first :: rest)) (hnow : now ≤ first.1) :
    ∀ entry ∈ first :: rest, now ≤ entry.1 := by
  intro entry hentry
  rcases List.mem_cons.mp hentry with rfl | hrest
  · exact hnow
  · exact Int.le_trans hnow ((List.pairwise_cons.mp hordered).1 entry hrest)

theorem Ordered.filter_schedule (hordered : Ordered queue) (hkeep : keep (time, event) = true) :
    (TimedQueue.schedule queue time event).filter keep =
      TimedQueue.schedule (queue.filter keep) time event := by
  induction queue with
  | nil => simp [TimedQueue.schedule, hkeep]
  | cons first rest ih =>
    obtain ⟨hfirst, hrest⟩ := List.pairwise_cons.mp hordered
    by_cases hle : first.1 ≤ time
    · rw [schedule_cons_of_le hle, List.filter_cons, List.filter_cons, ih hrest]
      split
      · rw [schedule_cons_of_le hle]
      · rfl
    · rw [schedule_cons_of_lt hle, List.filter_cons, if_pos hkeep]
      -- whatever is kept is later than the new event
      have hlater : ∀ entry ∈ (first :: rest).filter keep, ¬entry.1 ≤ time := by
        intro entry hentry
        rcases List.mem_cons.mp (List.mem_of_mem_filter hentry) with rfl | hold
        · exact hle
        · have horder := hfirst entry hold
          omega
      cases hkept : (first :: rest).filter keep with
      | nil => rfl
      | cons head tail =>
        rw [hkept] at hlater
        exact (schedule_cons_of_lt (hlater head List.mem_cons_self) event).symm

theorem map_schedule {Event' : Type*} (rename : Event → Event') (queue : TimedQueue Event)
    (time : Int) (event : Event) :
    TimedQueue.schedule (queue.map (Prod.map id rename)) time (rename event) =
      (schedule queue time event).map (Prod.map id rename) := by
  induction queue with
  | nil => rfl
  | cons first rest ih =>
    rw [List.map_cons]
    by_cases hle : first.1 ≤ time
    · have hsame : (Prod.map id rename first).1 ≤ time := hle
      rw [schedule_cons_of_le hle, schedule_cons_of_le hsame, ih, List.map_cons]
    · have hsame : ¬(Prod.map id rename first).1 ≤ time := hle
      rw [schedule_cons_of_lt hle, schedule_cons_of_lt hsame]
      rfl

/-- Remove the first matching event of a time, or else the first matching one. -/
def cancel (queue : TimedQueue Event) (time : Int) (matching : Event → Bool) : TimedQueue Event :=
  if queue.any fun entry => entry.1 = time && matching entry.2 then
    queue.eraseP fun entry => entry.1 = time && matching entry.2
  else queue.eraseP fun entry => matching entry.2

theorem cancel_sublist (queue : TimedQueue Event) (time : Int) (matching : Event → Bool) :
    (cancel queue time matching).Sublist queue := by
  unfold cancel
  split <;> exact List.eraseP_sublist

theorem Ordered.cancel (hordered : Ordered queue) (time : Int) (matching : Event → Bool) :
    Ordered (queue.cancel time matching) :=
  hordered.sublist (cancel_sublist queue time matching)

section

variable {queue : TimedQueue Event} {matching : Event → Bool} {keep erased : Int × Event → Bool}

theorem filter_eraseP_of_not (hnot : ∀ entry ∈ queue, erased entry = true → keep entry = false) :
    (queue.eraseP erased).filter keep = queue.filter keep := by
  induction queue with
  | nil => rfl
  | cons first rest ih =>
    cases herased : erased first with
    | true =>
      rw [List.eraseP_cons_of_pos herased,
        List.filter_cons_of_neg (by simp [hnot first List.mem_cons_self herased])]
    | false =>
      rw [List.eraseP_cons_of_neg (by simp [herased]), List.filter_cons, List.filter_cons,
        ih fun entry hentry => hnot entry (List.mem_cons_of_mem _ hentry)]

theorem filter_eraseP_of_imp (himp : ∀ entry ∈ queue, erased entry = true → keep entry = true) :
    (queue.eraseP erased).filter keep = (queue.filter keep).eraseP erased := by
  induction queue with
  | nil => rfl
  | cons first rest ih =>
    have hrest := ih fun entry hentry => himp entry (List.mem_cons_of_mem _ hentry)
    cases herased : erased first with
    | true =>
      rw [List.eraseP_cons_of_pos herased, List.filter_cons_of_pos (himp first List.mem_cons_self
        herased), List.eraseP_cons_of_pos herased]
    | false =>
      rw [List.eraseP_cons_of_neg (by simp [herased]), List.filter_cons, List.filter_cons,
        hrest]
      split
      · rw [List.eraseP_cons_of_neg (by simp [herased])]
      · rfl

/-- Cancelling leaves events of another kind alone. -/
theorem filter_cancel_of_not (time : Int)
    (hnot : ∀ entry ∈ queue, matching entry.2 = true → keep entry = false) :
    (cancel queue time matching).filter keep = queue.filter keep := by
  unfold cancel
  split
  · refine filter_eraseP_of_not fun entry hentry herased => hnot entry hentry ?_
    exact (Bool.and_eq_true_iff.mp herased).2
  · exact filter_eraseP_of_not hnot

/-- Events of a kind are cancelled among themselves. -/
theorem filter_cancel (time : Int)
    (himp : ∀ entry ∈ queue, matching entry.2 = true → keep entry = true) :
    (cancel queue time matching).filter keep = cancel (queue.filter keep) time matching := by
  have hany : (queue.filter keep).any (fun entry => entry.1 = time && matching entry.2) =
      queue.any fun entry => entry.1 = time && matching entry.2 := by
    rw [Bool.eq_iff_iff, List.any_eq_true, List.any_eq_true]
    constructor
    · rintro ⟨entry, hentry, hmatch⟩
      exact ⟨entry, List.mem_of_mem_filter hentry, hmatch⟩
    · rintro ⟨entry, hentry, hmatch⟩
      have hkeep := himp entry hentry (Bool.and_eq_true_iff.mp hmatch).2
      exact ⟨entry, List.mem_filter.mpr ⟨hentry, hkeep⟩, hmatch⟩
  unfold cancel
  rw [hany]
  split
  · refine filter_eraseP_of_imp fun entry hentry herased => himp entry hentry ?_
    exact (Bool.and_eq_true_iff.mp herased).2
  · exact filter_eraseP_of_imp himp

theorem eraseP_congr {first second : Int × Event → Bool}
    (hsame : ∀ entry ∈ queue, first entry = second entry) :
    queue.eraseP first = queue.eraseP second := by
  induction queue with
  | nil => rfl
  | cons entry rest ih =>
    rw [List.eraseP_cons, List.eraseP_cons, hsame entry List.mem_cons_self,
      ih fun other hother => hsame other (List.mem_cons_of_mem _ hother)]

/-- Renamed events are cancelled alike where the renaming keeps apart what matches. -/
theorem map_cancel {Event' : Type*} (rename : Event → Event') (matching' : Event' → Bool)
    (matching : Event → Bool) (time : Int)
    (hsame : ∀ entry ∈ queue, matching' (rename entry.2) = matching entry.2) :
    cancel (queue.map (Prod.map id rename)) time matching' =
      (cancel queue time matching).map (Prod.map id rename) := by
  have hany : (queue.map (Prod.map id rename)).any
      (fun entry => entry.1 = time && matching' entry.2) =
        queue.any fun entry => entry.1 = time && matching entry.2 := by
    rw [List.any_map, Bool.eq_iff_iff, List.any_eq_true, List.any_eq_true]
    refine exists_congr fun entry => and_congr_right fun hentry => ?_
    show (decide (entry.1 = time) && matching' (rename entry.2)) = true ↔ _
    rw [hsame entry hentry]
  unfold cancel
  rw [hany]
  split
  · rw [List.eraseP_map]
    refine congrArg _ (eraseP_congr fun entry hentry => ?_)
    show (decide (entry.1 = time) && matching' (rename entry.2)) = _
    rw [hsame entry hentry]
  · rw [List.eraseP_map]
    exact congrArg _ (eraseP_congr hsame)

end

end TimedQueue

end MopServer.Foundation
