import Mathlib.Data.List.Nodup
import MopServer.Utilities.EventProcessor

/-! # What is promised about events

The log says what became of every entry of the queue.
-/

namespace MopServer.Utilities

open MopServer.Foundation

/-! ## The log -/

def added (log : List Observation) : List Entry :=
  log.filterMap fun
    | .added entry => some entry
    | _ => none

def executed (log : List Observation) : List Entry :=
  log.filterMap fun
    | .executed entry _ => some entry
    | _ => none

def aborted (log : List Observation) : List Entry :=
  log.filterMap fun
    | .aborted entry => some entry
    | _ => none

def spared (log : List Observation) : List Entry :=
  log.filterMap fun
    | .spared entry => some entry
    | _ => none

def kept (log : List Observation) : List Entry :=
  log.filterMap fun
    | .kept entry => some entry
    | _ => none

/-- The entries whose events were deleted. -/
def released (log : List Observation) : List Entry :=
  log.filterMap fun
    | .completed entry => some entry
    | .discarded entry => some entry
    | _ => none

/-- The entries that have not been taken. -/
def waiting : List Observation → List Entry
  | [] => []
  | .added entry :: older => entry :: waiting older
  | .executed entry _ :: older => (waiting older).erase entry
  | .aborted entry :: older => (waiting older).erase entry
  | .spared entry :: older => entry :: waiting older
  | _ :: older => waiting older

/-- In the order of time, and of insertion for the same time. -/
def Before (first second : Entry) : Prop :=
  first.1 < second.1 ∨ first.1 = second.1 ∧ first.2.serial < second.2.serial

/-- What is executed is due and the first of what waits, and what still waits when `Update` returns
is not due. -/
def Timely : List Observation → Prop
  | [] => True
  | .added entry :: older => (∀ other ∈ added older, other.2.serial < entry.2.serial) ∧ Timely older
  | .executed entry time :: older =>
    (entry ∈ waiting older ∧ entry.1 ≤ time.toNat ∧
      ∀ other ∈ waiting older, other ≠ entry → Before entry other) ∧ Timely older
  | .aborted entry :: older => entry ∈ waiting older ∧ Timely older
  | .spared entry :: older => entry ∈ added older ∧ Timely older
  | .updated time :: older => (∀ entry ∈ waiting older, time.toNat < entry.1) ∧ Timely older
  | _ :: older => Timely older

section Logs

variable {log : List Observation} {entry : Entry}

theorem Timely.tail {observation : Observation} (htimely : Timely (observation :: log)) :
    Timely log := by
  cases observation with
  | completed | kept | discarded => exact htimely
  | _ => exact htimely.2

theorem count_erase_add {entries : List Entry} (hentry : entry ∈ entries) (other : Entry) :
    (entries.erase entry).count other + (if entry == other then 1 else 0) =
      entries.count other := by
  rw [(List.perm_cons_erase hentry).count_eq other, List.count_cons]

/-- What was added or spared waits until it is executed or aborted. -/
theorem count_waiting (htimely : Timely log) (entry : Entry) :
    (waiting log).count entry + (executed log).count entry + (aborted log).count entry =
      (added log).count entry + (spared log).count entry := by
  induction log with
  | nil => rfl
  | cons observation older ih =>
    have hrest := ih htimely.tail
    cases observation with
    | added other =>
      show (other :: waiting older).count entry + (executed older).count entry +
        (aborted older).count entry =
          (other :: added older).count entry + (spared older).count entry
      rw [List.count_cons, List.count_cons]
      omega
    | spared other =>
      show (other :: waiting older).count entry + (executed older).count entry +
        (aborted older).count entry =
          (added older).count entry + (other :: spared older).count entry
      rw [List.count_cons, List.count_cons]
      omega
    | executed other time =>
      have hcount := count_erase_add htimely.1.1 entry
      show ((waiting older).erase other).count entry + (other :: executed older).count entry +
        (aborted older).count entry = (added older).count entry + (spared older).count entry
      rw [List.count_cons]
      omega
    | aborted other =>
      have hcount := count_erase_add htimely.1 entry
      show ((waiting older).erase other).count entry + (executed older).count entry +
        (other :: aborted older).count entry =
          (added older).count entry + (spared older).count entry
      rw [List.count_cons]
      omega
    | _ => exact hrest

/-- No entry is added twice. -/
theorem nodup_added (htimely : Timely log) : (added log).Nodup := by
  induction log with
  | nil => exact List.nodup_nil
  | cons observation older ih =>
    have hrest := ih htimely.tail
    cases observation with
    | added other =>
      apply List.nodup_cons.mpr ⟨fun hother => ?_, hrest⟩
      exact absurd (htimely.1 other hother) (Nat.lt_irrefl _)
    | _ => exact hrest

end Logs

/-! ## Calls -/

namespace Call

def entry : Call → Entry
  | .executing entry _ => entry
  | .aborting entry _ => entry
  | .killing entry _ _ => entry

def aborts : Call → Bool
  | .executing _ _ => false
  | _ => true

def kills : Call → Bool
  | .killing _ _ _ => true
  | _ => false

end Call

/-- The entries whose events are being aborted. -/
def dying (calls : List Call) : List Entry := (calls.filter Call.aborts).map Call.entry

namespace EventProcessor

/-! ## Promises and deliveries -/

variable (processor : EventProcessor)

/-- Code uses no event that it has not made, adds only events that belong to it, and an event that
was added again does not ask to be deleted. -/
def Promised : Action → Prop
  | .setToAbort event => processor.isAlive event = true
  | .addEvent event _ _ => event ∈ processor.held
  | .returns value =>
    ∀ entry diff calls, processor.calls = .executing entry diff :: calls → value = true →
      entry.2.event ∈ processor.held
  | _ => True

/-- While `KillAllEvents` is running nobody calls it again, an `Update` finds nothing due, and if it
deletes all nothing is added ahead of the iterator. -/
def Undisturbed : Action → Prop
  | .addEvent _ execTime _ =>
    ∀ entry next calls, processor.calls = .killing entry true next :: calls →
      ∃ later, next = some later ∧ later.1 ≤ execTime.toNat
  | .update diff =>
    (∃ call ∈ processor.calls.head?, call.kills = true) →
      ∀ entry ∈ processor.events, (processor.time + diff.toUInt64).toNat < entry.1
  | .killAllEvents _ => ∀ call ∈ processor.calls.head?, call.kills = false
  | _ => True

/-- `KillAllEvents` finds only events that can be deleted, unless it deletes all. -/
def Deletable : Action → Prop
  | .returns value =>
    ∀ entry next calls, processor.calls = .killing entry false next :: calls → value = true
  | _ => True

/-- The events of the entries that wait or are being aborted, and those that belong to other code.
-/
def owned (pending : List Entry) : List Nat :=
  (pending ++ dying processor.calls).map (·.2.event) ++ processor.held

/-- Events are executed in time, once, and deleted once. -/
structure Delivered (processor : EventProcessor) : Prop where
  timely : Timely processor.log
  /-- An entry that was added waits, was executed or was aborted. -/
  once : ∀ entry ∈ added processor.log,
    (waiting processor.log).count entry + (executed processor.log).count entry +
      (aborted processor.log).count entry = 1
  /-- An entry that was added waits, is dealt with, was released, or its event has asked not to be
  deleted. -/
  released : ∀ entry ∈ added processor.log,
    (waiting processor.log).count entry + (processor.calls.map Call.entry).count entry +
      (released processor.log).count entry + (kept processor.log).count entry = 1
  queued : ∀ entry ∈ waiting processor.log, entry ∈ processor.events
  /-- Nothing is lost. -/
  alive : ∀ event, processor.isAlive event = true ↔
    event ∈ processor.owned (waiting processor.log)
  /-- Nothing belongs to two. -/
  nodup : (processor.owned (waiting processor.log)).Nodup
  sound : processor.dangling = false

end EventProcessor

end MopServer.Utilities
