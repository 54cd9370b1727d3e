import MopServer.Foundation.Heap
import MopServer.Foundation.Run
import MopServer.Foundation.TimedQueue

/-! # Events that wait for their time

The processor and the code of its events take turns: an event may use the processor while it is
executed or aborted, and the processor goes on when it returns.
-/

namespace MopServer.Utilities

open MopServer.Foundation

/-- `BasicEvent`. -/
structure BasicEvent where
  toAbort : Bool
  addTime : UInt64
  execTime : UInt64

/-- A node of the multimap. -/
structure Node where
  event : Nat
  /-- The number of nodes that were made before. -/
  serial : Nat
  deriving DecidableEq

abbrev Entry := Int × Node

/-- Code of an event that the processor has called and that has not returned, with what the
processor goes on with. -/
inductive Call where
  /-- `Execute`, called by `Update`. -/
  | executing (entry : Entry) (diff : UInt32)
  /-- `Abort`, called by `Update`. -/
  | aborting (entry : Entry) (diff : UInt32)
  /-- `Abort`, called by `KillAllEvents` whose iterator is at the next entry. -/
  | killing (entry : Entry) (force : Bool) (next : Option Entry)

/-- What happens to an entry. -/
inductive Observation where
  | added (entry : Entry)
  | executed (entry : Entry) (time : UInt64)
  /-- `Execute` returned true and the event was deleted. -/
  | completed (entry : Entry)
  /-- `Execute` returned false. -/
  | kept (entry : Entry)
  | aborted (entry : Entry)
  /-- The event was deleted after `Abort`. -/
  | discarded (entry : Entry)
  /-- The event was aborted by `KillAllEvents` and is not deletable. -/
  | spared (entry : Entry)
  /-- `Update` returned. -/
  | updated (time : UInt64)
  deriving DecidableEq

structure EventProcessor where
  heap : Heap BasicEvent
  time : UInt64
  events : TimedQueue Node
  aborting : Bool
  /-- The calls of event code that have not returned, the last one first. -/
  calls : List Call
  /-- The events that belong to code outside the processor, their own included. -/
  held : List Nat
  serial : Nat
  /-- All that has happened, the last first. -/
  log : List Observation
  /-- An event was used after it was deleted, or a node after it was erased. -/
  dangling : Bool

/-- `EventProcessor::EventProcessor`. -/
def EventProcessor.new : EventProcessor where
  heap := .empty
  time := 0
  events := []
  aborting := false
  calls := []
  held := []
  serial := 0
  log := []
  dangling := false

/-- What code outside the processor does. -/
inductive Action where
  /-- An event is made. -/
  | make (event : BasicEvent)
  /-- `to_Abort` is set. -/
  | setToAbort (event : Nat)
  | addEvent (event : Nat) (execTime : UInt64) (setAddTime : Bool)
  | update (diff : UInt32)
  | killAllEvents (force : Bool)
  /-- The event code that was called last returns: `Execute` with its value, `Abort` with what
  `IsDeletable` answers afterwards. -/
  | returns (value : Bool)

namespace EventProcessor

variable (processor : EventProcessor) (event : Nat)

def isAlive : Bool := (processor.heap.get? event).isSome

/-- A field of the event is used. -/
def touch : EventProcessor :=
  { processor with dangling := processor.dangling || !processor.isAlive event }

/-- `delete`. -/
def delete : EventProcessor :=
  { processor.touch event with
    heap := processor.heap.free (· = event)
    held := processor.held.erase event }

def observe (observation : Observation) : EventProcessor :=
  { processor with log := observation :: processor.log }

def call (call : Call) : EventProcessor := { processor with calls := call :: processor.calls }

/-- The loop of `Update`, up to the next call of event code. -/
def drain (diff : UInt32) : EventProcessor :=
  match processor.events with
  | [] => processor.observe (.updated processor.time)
  | entry :: rest =>
    if entry.1 ≤ processor.time.toNat then
      let event := entry.2.event
      -- get and remove event from queue
      let removed := { processor.touch event with events := rest }
      if (processor.heap.get? event).any BasicEvent.toAbort then
        (removed.observe (.aborted entry)).call (.aborting entry diff)
      else
        ({ removed with held := event :: removed.held }.observe
          (.executed entry processor.time)).call (.executing entry diff)
    else processor.observe (.updated processor.time)

/-- `EventProcessor::Update`. -/
def update (diff : UInt32) : EventProcessor :=
  { processor with time := processor.time + diff.toUInt64 }.drain diff

/-- The iterator behind that of an entry. -/
def successor (entry : Entry) : Option Entry :=
  (processor.events.dropWhile (· ≠ entry)).tail.head?

/-- `KillAllEvents` reads the node of an entry and uses its event. -/
def visit (entry : Entry) : EventProcessor :=
  { processor.touch entry.2.event with
    dangling := (processor.touch entry.2.event).dangling || entry ∉ processor.events }

/-- The loop of `KillAllEvents` from an iterator on, up to the next call of event code. -/
def sweep (force : Bool) : Option Entry → EventProcessor
  | none => if force then { processor with events := [] } else processor
  | some entry =>
    let marked :=
      { processor.visit entry with
        heap := processor.heap.modify entry.2.event fun event => { event with toAbort := true } }
    (marked.observe (.aborted entry)).call (.killing entry force (processor.successor entry))

/-- `EventProcessor::KillAllEvents`. -/
def killAllEvents (force : Bool) : EventProcessor :=
  -- prevent event insertions
  { processor with aborting := true }.sweep force processor.events.head?

/-- `EventProcessor::AddEvent`. -/
def addEvent (execTime : UInt64) (setAddTime : Bool) : EventProcessor :=
  let entry : Entry := (execTime.toNat, ⟨event, processor.serial⟩)
  { (processor.touch event).observe (.added entry) with
    heap := processor.heap.modify event fun object =>
      { object with
        addTime := if setAddTime then processor.time else object.addTime
        execTime := execTime }
    events := processor.events.schedule entry.1 entry.2
    held := processor.held.erase event
    serial := processor.serial + 1 }

/-- The event code that was called last returns, and the processor goes on. -/
def returns (value : Bool) : EventProcessor :=
  match processor.calls with
  | [] => processor
  | .executing entry diff :: calls =>
    let returned := { processor with calls := calls }
    if value then ((returned.delete entry.2.event).observe (.completed entry)).drain diff
    else (returned.observe (.kept entry)).drain diff
  | .aborting entry diff :: calls =>
    let returned := { processor with calls := calls }
    ((returned.delete entry.2.event).observe (.discarded entry)).drain diff
  | .killing entry force next :: calls =>
    -- `i_old` and its event are used again, to ask `IsDeletable` or to delete it
    let returned := { processor.visit entry with calls := calls }
    if force || value then
      let deleted := (returned.delete entry.2.event).observe (.discarded entry)
      if force then deleted.sweep force next
      else { deleted with events := deleted.events.filter (· ≠ entry) }.sweep force next
    else (returned.observe (.spared entry)).sweep force next

def step : Action → EventProcessor
  | .make event =>
    { processor with
      heap := processor.heap.alloc event
      held := processor.heap.next :: processor.held }
  | .setToAbort event =>
    { processor.touch event with
      heap := processor.heap.modify event fun event => { event with toAbort := true } }
  | .addEvent event execTime setAddTime => processor.addEvent event execTime setAddTime
  | .update diff => processor.update diff
  | .killAllEvents force => processor.killAllEvents force
  | .returns value => processor.returns value

end EventProcessor

end MopServer.Utilities
