import MopServer.Utilities.EventBooks

/-! # What becomes of events

Every entry is taken from the queue once, to be executed or aborted, and every event is deleted at
most once.  An event that cannot be deleted yet is aborted more than once, and one that is added
while the events are killed can be lost.
-/

namespace MopServer.Utilities

open MopServer.Foundation

namespace EventProcessor

/-! ## Runs -/

variable (actions : List Action) (processor : EventProcessor)

theorem spared_drain (diff : UInt32) :
    spared (processor.drain diff).log = spared processor.log := by
  unfold EventProcessor.drain
  cases processor.events with
  | nil => rfl
  | cons entry rest =>
    dsimp only
    split
    · split
      · rfl
      · rfl
    · rfl

theorem spared_sweep (force : Bool) (next : Option Entry) :
    spared (processor.sweep force next).log = spared processor.log := by
  cases next with
  | none => cases force <;> rfl
  | some entry => rfl

theorem spared_step {processor : EventProcessor} {action : Action}
    (hdeletable : processor.Deletable action) :
    spared (processor.step action).log = spared processor.log := by
  cases action with
  | make object => rfl
  | setToAbort event => rfl
  | addEvent event execTime setAddTime => rfl
  | update diff => exact spared_drain _ diff
  | killAllEvents force => exact spared_sweep _ force _
  | returns value =>
    unfold EventProcessor.step EventProcessor.returns
    cases hcalls : processor.calls with
    | nil => rfl
    | cons call calls =>
      cases call with
      | executing entry diff => cases value <;> exact spared_drain _ diff
      | aborting entry diff => exact spared_drain _ diff
      | killing entry force next =>
        cases force with
        | true => exact spared_sweep _ true next
        | false =>
          obtain rfl := hdeletable entry next calls hcalls
          exact spared_sweep _ false next

theorem Sound.delivered {processor : EventProcessor} (hsound : Sound processor)
    (hspared : spared processor.log = []) : Delivered processor := by
  obtain ⟨pending, haccounts, hstage⟩ := hsound
  have howned : (processor.owned pending).Perm (processor.owned (waiting processor.log)) :=
    ((haccounts.waiting.append_right _).map fun entry => entry.2.event).append_right _
  have hadded {entry : Entry} (hentry : entry ∈ added processor.log) :
      (waiting processor.log).count entry + (executed processor.log).count entry +
        (aborted processor.log).count entry = 1 := by
    rw [count_waiting haccounts.timely entry, hspared, List.count_nil,
      List.count_eq_one_of_mem (nodup_added haccounts.timely) hentry]
  refine ⟨haccounts.timely, fun entry => hadded, fun entry hentry => ?_, fun entry hentry => ?_,
    fun event => ?_, howned.nodup_iff.mp haccounts.nodup, haccounts.sound⟩
  · have honce := hadded hentry
    have hbalanced := haccounts.balanced entry
    rw [hspared, List.count_nil] at hbalanced
    omega
  · exact hstage.subset entry (haccounts.waiting.mem_iff.mpr hentry)
  · rw [haccounts.alive, howned.mem_iff]

/-- As long as `KillAllEvents` is not disturbed and finds only events that can be deleted, events
are executed in time, once, and deleted once. -/
theorem delivered_along (halong : Along step (fun processor action => processor.Promised action ∧
      processor.Undisturbed action ∧ processor.Deletable action) new actions) :
    ∀ reached ∈ visited step new actions, Delivered reached := by
  have hkeep (processor : EventProcessor) (action : Action)
      (hsound : Sound processor ∧ spared processor.log = [])
      (hallowed : processor.Promised action ∧ processor.Undisturbed action ∧
        processor.Deletable action) :
      Sound (processor.step action) ∧ spared (processor.step action).log = [] := by
    obtain ⟨hpromised, hundisturbed, hdeletable⟩ := hallowed
    exact ⟨hsound.1.step hpromised hundisturbed, (spared_step hdeletable).trans hsound.2⟩
  intro reached hreached
  obtain ⟨hsound, hspared⟩ := invariant_of_along step
    (fun processor => Sound processor ∧ spared processor.log = []) _ hkeep new actions
    ⟨sound_new, rfl⟩ halong reached hreached
  exact hsound.delivered hspared

/-- An event adds another one for a time that is over, which is executed by the same `Update`, adds
itself again and is killed. -/
def nested : List Action :=
  [.make ⟨false, 0, 0⟩, .make ⟨false, 0, 0⟩, .addEvent 0 5 true, .update 10, .addEvent 1 3 true,
    .returns true, .addEvent 1 30 false, .returns false, .killAllEvents false, .returns true]

theorem delivered_along_nested : Delivered (nested.foldl step new) := by
  apply delivered_along nested ?_ _ (foldl_mem_visited step new nested)
  refine ⟨⟨trivial, trivial, trivial⟩, ⟨trivial, trivial, trivial⟩, ⟨?_, nofun, trivial⟩,
    ⟨trivial, nofun, trivial⟩, ⟨?_, nofun, trivial⟩, ⟨?_, trivial, nofun⟩, ⟨?_, nofun, trivial⟩,
    ⟨nofun, trivial, nofun⟩, ⟨trivial, ?_, trivial⟩, ⟨nofun, trivial, ?_⟩, trivial⟩
  · show 0 ∈ held _
    decide
  · show 1 ∈ held _
    decide
  · intro entry diff calls hcalls _
    cases hcalls
    decide
  · show 1 ∈ held _
    decide
  · intro call hcall
    cases hcall
  · intro _ _ _ _
    rfl

def lost : List Action :=
  [.make ⟨false, 0, 0⟩, .make ⟨false, 0, 0⟩, .addEvent 0 5 true, .killAllEvents true,
    .addEvent 1 1 true, .returns true]

/-- An event that is killed cannot be deleted yet. -/
def abortedTwice : List Action :=
  [.make ⟨false, 0, 0⟩, .addEvent 0 5 true, .killAllEvents false, .returns false, .update 10]

/-- The added event is neither executed nor aborted nor deleted, and the other one is aborted twice.
-/
theorem not_delivered :
    (Along step Promised new lost ∧ ¬ Delivered (lost.foldl step new)) ∧
      (Along step Promised new abortedTwice ∧ ¬ Delivered (abortedTwice.foldl step new)) := by
  refine ⟨⟨⟨trivial, trivial, ?_, trivial, ?_, nofun, trivial⟩, fun hdelivered => ?_⟩,
    ⟨⟨trivial, ?_, trivial, nofun, trivial, trivial⟩, fun hdelivered => ?_⟩⟩
  · show 0 ∈ held _
    decide
  · show 1 ∈ held _
    decide
  · have hqueued := hdelivered.queued (1, ⟨1, 1⟩) (by decide)
    cases hqueued
  · show 0 ∈ held _
    decide
  · have honce := hdelivered.once (5, ⟨0, 0⟩) (by decide)
    exact absurd honce (by decide)

/-- No deleted event and no stale iterator is used, whatever the killed events answer. -/
theorem safe_along (halong : Along step (fun processor action => processor.Promised action ∧
      processor.Undisturbed action) new actions) :
    ∀ reached ∈ visited step new actions, reached.dangling = false := by
  intro reached hreached
  obtain ⟨_, haccounts, -⟩ := invariant_of_along step Sound _
    (fun _ _ hsound hallowed => hsound.step hallowed.1 hallowed.2) new actions sound_new halong
    reached hreached
  exact haccounts.sound

theorem safe_along_abortedTwice : (abortedTwice.foldl step new).dangling = false := by
  apply safe_along abortedTwice ?_ _ (foldl_mem_visited step new abortedTwice)
  refine ⟨⟨trivial, trivial⟩, ⟨?_, nofun⟩, ⟨trivial, nofun⟩, ⟨nofun, trivial⟩, ⟨trivial, nofun⟩,
    trivial⟩
  show 0 ∈ held _
  decide

end EventProcessor

end MopServer.Utilities
