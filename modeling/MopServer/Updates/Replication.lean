import MopServer.Updates.Client

/-! # Replication of the fields

Whatever a setter changes is marked, and an object in the world with a mark from a setter is
registered.  So after an update a client has the values of all fields it may see.
-/

namespace MopServer.Updates

open MopServer.Foundation

/-- A call of a setter. -/
inductive Setter where
  | setUInt32Value (index : UInt16) (value : UInt32) (forced : Bool)
  | setInt32Value (index : UInt16) (value : Int32)
  | setUInt64Value (index : UInt16) (value : UInt64)
  | addUInt64Value (index : UInt16) (value : UInt64)
  | removeUInt64Value (index : UInt16) (value : UInt64)
  | setByteValue (index : UInt16) (offset value : UInt8)
  | setUInt16Value (index : UInt16) (offset : UInt8) (value : UInt16) (forced : Bool)
  | setFlag (index : UInt16) (newFlag : UInt32)
  | removeFlag (index : UInt16) (oldFlag : UInt32)
  | setByteFlag (index : UInt16) (offset newFlag : UInt8)
  | removeByteFlag (index : UInt16) (offset oldFlag : UInt8)
  | setDynamicUInt32Value (tab : UInt32) (index : UInt16) (value : UInt32) (forced : Bool)

section

variable {valuesCount dynamicTabCount : Nat}

def Setter.run (object : Object valuesCount dynamicTabCount) :
    Setter → Option (Object valuesCount dynamicTabCount)
  | .setUInt32Value index value forced => object.setUInt32Value index value forced
  | .setInt32Value index value => object.setInt32Value index value
  | .setUInt64Value index value => object.setUInt64Value index value
  | .addUInt64Value index value => (object.addUInt64Value index value).map Prod.fst
  | .removeUInt64Value index value => (object.removeUInt64Value index value).map Prod.fst
  | .setByteValue index offset value => object.setByteValue index offset value
  | .setUInt16Value index offset value forced => object.setUInt16Value index offset value forced
  | .setFlag index newFlag => object.setFlag index newFlag
  | .removeFlag index oldFlag => object.removeFlag index oldFlag
  | .setByteFlag index offset newFlag => object.setByteFlag index offset newFlag
  | .removeByteFlag index offset oldFlag => object.removeByteFlag index offset oldFlag
  | .setDynamicUInt32Value tab index value forced =>
    object.setDynamicUInt32Value tab index value forced

/-! ## What a setter does -/

/-- Fields have been written, and marked. -/
structure Written (object after : Object valuesCount dynamicTabCount) : Prop where
  inWorld : after.inWorld = object.inWorld
  objectUpdated : after.objectUpdated = object.objectUpdated
  fields : ∀ index, after.changedFields index = true ∨
    after.uint32Values index = object.uint32Values index ∧
      after.changedFields index = object.changedFields index
  dynamics : ∀ tab index, (after.dynamicFields tab).changed index = true ∨
    (after.dynamicFields tab).values index = (object.dynamicFields tab).values index ∧
      (after.dynamicFields tab).changed index = (object.dynamicFields tab).changed index

/-- What is no longer as it was is marked, and the object registered. -/
structure Marked (object after : Object valuesCount dynamicTabCount) : Prop where
  inWorld : after.inWorld = true
  objectUpdated : object.objectUpdated = true → after.objectUpdated = true
  fields : ∀ index, after.changedFields index = true ∧ after.objectUpdated = true ∨
    after.uint32Values index = object.uint32Values index ∧
      after.changedFields index = object.changedFields index
  dynamics : ∀ tab index,
    (after.dynamicFields tab).changed index = true ∧ after.objectUpdated = true ∨
      (after.dynamicFields tab).values index = (object.dynamicFields tab).values index ∧
        (after.dynamicFields tab).changed index = (object.dynamicFields tab).changed index

variable {object middle after : Object valuesCount dynamicTabCount} {index : UInt16}
  (hworld : object.inWorld = true)

include hworld in
theorem Marked.refl : Marked object object :=
  ⟨hworld, id, fun _ => .inr ⟨rfl, rfl⟩, fun _ _ => .inr ⟨rfl, rfl⟩⟩

theorem Written.trans (hfirst : Written object middle) (hsecond : Written middle after) :
    Written object after where
  inWorld := hsecond.inWorld.trans hfirst.inWorld
  objectUpdated := hsecond.objectUpdated.trans hfirst.objectUpdated
  fields := by
    intro index
    rcases hsecond.fields index with hchanged | ⟨hvalue, hmark⟩
    · exact .inl hchanged
    · rw [hvalue, hmark]
      exact hfirst.fields index
  dynamics := by
    intro tab index
    rcases hsecond.dynamics tab index with hchanged | ⟨hvalue, hmark⟩
    · exact .inl hchanged
    · rw [hvalue, hmark]
      exact hfirst.dynamics tab index

/-- A value that is written is marked as changed. -/
theorem write_written (object : Object valuesCount dynamicTabCount) (index : Fin valuesCount)
    (value : UInt32) : Written object (object.write index value) where
  inWorld := rfl
  objectUpdated := rfl
  fields := by
    intro other
    by_cases hsame : other = index
    · subst hsame
      exact .inl (Function.update_self _ _ _)
    · exact .inr ⟨Function.update_of_ne hsame _ _, Function.update_of_ne hsame _ _⟩
  dynamics := fun _ _ => .inr ⟨rfl, rfl⟩

/-- An object in the world is registered for an update once something is written. -/
theorem Written.marked (hwritten : Written object after) (hworld : object.inWorld = true) :
    Marked object after.addToObjectUpdateIfNeeded := by
  have hafter : after.inWorld = true := hwritten.inWorld.trans hworld
  have hregistered : after.addToObjectUpdateIfNeeded.objectUpdated = true := by
    unfold Object.addToObjectUpdateIfNeeded
    rw [hafter, Bool.true_and]
    split
    · rfl
    next hupdated => simpa using hupdated
  have hrest : after.addToObjectUpdateIfNeeded.inWorld = after.inWorld ∧
      after.addToObjectUpdateIfNeeded.changedFields = after.changedFields ∧
      after.addToObjectUpdateIfNeeded.uint32Values = after.uint32Values ∧
      after.addToObjectUpdateIfNeeded.dynamicFields = after.dynamicFields := by
    unfold Object.addToObjectUpdateIfNeeded
    split
    · exact ⟨rfl, rfl, rfl, rfl⟩
    · exact ⟨rfl, rfl, rfl, rfl⟩
  obtain ⟨hsameWorld, hchanged, hvalues, hdynamics⟩ := hrest
  refine ⟨hsameWorld.trans hafter, fun _ => hregistered, fun index => ?_, fun tab index => ?_⟩
  · rw [hchanged, hvalues]
    exact (hwritten.fields index).imp_left fun hmark => ⟨hmark, hregistered⟩
  · rw [hdynamics]
    exact (hwritten.dynamics tab index).imp_left fun hmark => ⟨hmark, hregistered⟩

include hworld in
theorem setField_marked {replaced : UInt32 → Bool} {value : UInt32 → UInt32}
    (hset : object.setField index replaced value = some after) : Marked object after := by
  unfold Object.setField at hset
  split at hset
  · obtain rfl := Option.some.inj hset
    split
    · exact (write_written _ _ _).marked hworld
    · exact .refl hworld
  · cases hset

include hworld in
theorem setFieldPair_marked {replaced : UInt64 → Bool} {value : UInt64}
    (hset : (object.setFieldPair index replaced value).map Prod.fst = some after) :
    Marked object after := by
  unfold Object.setFieldPair at hset
  split at hset
  · obtain rfl := Option.some.inj hset
    split
    · exact ((write_written _ _ _).trans (write_written _ _ _)).marked hworld
    · exact .refl hworld
  · cases hset

include hworld in
theorem setDynamicUInt32Value_marked {tab : UInt32} {value : UInt32} {forced : Bool}
    (hset : object.setDynamicUInt32Value tab index value forced = some after) :
    Marked object after := by
  unfold Object.setDynamicUInt32Value at hset
  split at hset
  next htab =>
    split at hset
    next hindex =>
      obtain rfl := Option.some.inj hset
      split
      · refine Written.marked ⟨rfl, rfl, fun _ => .inr ⟨rfl, rfl⟩, fun other field => ?_⟩ hworld
        dsimp only
        by_cases hsame : other = ⟨tab.toNat, htab⟩
        · subst hsame
          rw [Function.update_self]
          by_cases hfield : field = ⟨index.toNat, hindex⟩
          · subst hfield
            exact .inl (Function.update_self _ _ _)
          · exact .inr ⟨Function.update_of_ne hfield _ _, Function.update_of_ne hfield _ _⟩
        · rw [Function.update_of_ne hsame]
          exact .inr ⟨rfl, rfl⟩
      · exact .refl hworld
    · cases hset
  · cases hset

include hworld in
/-- Every setter marks what it changes. -/
theorem Setter.run_marked {setter : Setter} (hset : setter.run object = some after) :
    Marked object after := by
  cases setter with
  | setUInt64Value | addUInt64Value | removeUInt64Value => exact setFieldPair_marked hworld hset
  | setDynamicUInt32Value => exact setDynamicUInt32Value_marked hworld hset
  | _ =>
    simp only [run, Object.setUInt32Value, Object.setInt32Value, Object.setByteValue,
      Object.setUInt16Value, Object.setFlag, Object.removeFlag, Object.setByteFlag,
      Object.removeByteFlag] at hset
    exact setField_marked hworld hset

/-! ## A client -/

/-- An object with the fields of a client; the server stops when an assertion fails, and a block
that is not read to its end is garbled. -/
inductive Session (valuesCount dynamicTabCount : Nat) where
  | aborted
  | garbled
  | running (object : Object valuesCount dynamicTabCount) (fields : Nat → UInt32)

inductive Event where
  | set (setter : Setter)
  | tick

namespace Session

variable (flags : Fin valuesCount → UInt32) (visibleFlag : UInt32)

/-- The client decodes a block. -/
def receive (object : Object valuesCount dynamicTabCount) (fields : Nat → UInt32)
    (block : List UInt8) : Session valuesCount dynamicTabCount :=
  match decodeValues fields block with
  | some (after, []) => .running object after
  | _ => .garbled

/-- The object is in the world, and the client decodes the block of its creation. -/
def start (object : Object valuesCount dynamicTabCount) (second : Bool) :
    Session valuesCount dynamicTabCount :=
  match object.addToWorld with
  | none => .aborted
  | some object =>
    receive object (fun _ => 0) (object.buildValuesUpdate flags visibleFlag
      (if second then .createObject2 else .createObject))

/-- A registered object is sent in a tick, and its marks are cleared. -/
def step : Session valuesCount dynamicTabCount → Event → Session valuesCount dynamicTabCount
  | .running object fields, .set setter =>
    match setter.run object with
    | none => .aborted
    | some object => .running object fields
  | .running object fields, .tick =>
    if object.objectUpdated then
      receive object.clearUpdateMask fields
        (object.buildValuesUpdate flags visibleFlag .values)
    else .running object fields
  | session, _ => session

def Synced : Session valuesCount dynamicTabCount → Prop
  | .aborted => True
  | .garbled => False
  | .running object fields => ∀ index, flags index &&& visibleFlag ≠ 0 →
      fields index = object.uint32Values index

/-- What the client does not have is marked, and the object registered. -/
def Tracked : Session valuesCount dynamicTabCount → Prop
  | .aborted => True
  | .garbled => False
  | .running object fields => object.inWorld = true ∧
      ∀ index, flags index &&& visibleFlag ≠ 0 → fields index = object.uint32Values index ∨
        object.changedFields index = true ∧ object.objectUpdated = true

section

variable {flags visibleFlag} {session : Session valuesCount dynamicTabCount}

/-- The viewer takes the values of a block and keeps his others. -/
theorem receive_block (hcount : valuesCount < 8160) (object after : Object valuesCount dynamicTabCount)
    (fields : Nat → UInt32) (updateType : ObjectUpdateType) :
    ∃ read, receive after fields (object.buildValuesUpdate flags visibleFlag updateType) =
        .running after read ∧
      ∀ index : Fin valuesCount, read index =
        if object.isSent flags visibleFlag updateType index then object.uint32Values index
        else fields index := by
  obtain ⟨read, hread, hfields⟩ :=
    object.decodeValues_buildValuesUpdate hcount flags visibleFlag updateType fields []
  rw [List.append_nil] at hread
  refine ⟨read, ?_, hfields⟩
  unfold receive
  rw [hread]

theorem addToWorld_inWorld {object after : Object valuesCount dynamicTabCount}
    (hworld : object.addToWorld = some after) : after.inWorld = true := by
  unfold Object.addToWorld at hworld
  split at hworld
  next hin => exact Option.some.inj hworld ▸ hin
  · split at hworld
    · cases hworld
    · exact Option.some.inj hworld ▸ rfl

/-- A viewer starts with all the values he may see. -/
theorem start_tracked (hcount : valuesCount < 8160) (object : Object valuesCount dynamicTabCount)
    (second : Bool) :
    (start flags visibleFlag object second).Synced flags visibleFlag ∧
      (start flags visibleFlag object second).Tracked flags visibleFlag := by
  unfold start
  have hcreate : (if second then ObjectUpdateType.createObject2
      else ObjectUpdateType.createObject) ≠ .values := by
    cases second <;> decide
  generalize (if second then ObjectUpdateType.createObject2
    else ObjectUpdateType.createObject) = updateType at hcreate
  split
  · exact ⟨trivial, trivial⟩
  next after hworld =>
    obtain ⟨read, hread, hfields⟩ := receive_block hcount after after (fun _ => 0) updateType
    rw [hread]
    have hsynced : ∀ index, flags index &&& visibleFlag ≠ 0 →
        read index = after.uint32Values index := by
      intro index hvisible
      rw [hfields index]
      split
      · rfl
      next hunsent =>
        by_contra hvalue
        refine hunsent ?_
        unfold Object.isSent
        rw [if_neg hcreate, decide_eq_true (Ne.symm hvalue), decide_eq_true hvisible]
        exact Bool.or_true _
    exact ⟨hsynced, addToWorld_inWorld hworld, fun index hvisible => .inl (hsynced index hvisible)⟩

/-- What a setter changes for the viewer is marked and registered. -/
theorem set_tracked (htracked : session.Tracked flags visibleFlag) (setter : Setter) :
    (step flags visibleFlag session (.set setter)).Tracked flags visibleFlag := by
  cases session with
  | aborted => trivial
  | garbled => exact htracked
  | running object fields =>
    obtain ⟨hworld, hfields⟩ := htracked
    unfold step
    dsimp only
    split
    · trivial
    next after hset =>
      have hmarked := Setter.run_marked hworld hset
      refine ⟨hmarked.inWorld, fun index hvisible => ?_⟩
      rcases hmarked.fields index with hchanged | ⟨hvalue, hmark⟩
      · exact .inr hchanged
      · rw [hvalue, hmark]
        exact (hfields index hvisible).imp_right fun hpending =>
          ⟨hpending.1, hmarked.objectUpdated hpending.2⟩

/-- After a tick the viewer has all the values he may see. -/
theorem tick_tracked (hcount : valuesCount < 8160) (htracked : session.Tracked flags visibleFlag) :
    (step flags visibleFlag session .tick).Synced flags visibleFlag ∧
      (step flags visibleFlag session .tick).Tracked flags visibleFlag := by
  cases session with
  | aborted => exact ⟨trivial, trivial⟩
  | garbled => exact ⟨htracked, htracked⟩
  | running object fields =>
    obtain ⟨hworld, hfields⟩ := htracked
    unfold step
    dsimp only
    split
    · obtain ⟨read, hread, hsent⟩ :=
        receive_block hcount object object.clearUpdateMask fields .values
      rw [hread]
      have hsynced : ∀ index, flags index &&& visibleFlag ≠ 0 →
          read index = object.uint32Values index := by
        intro index hvisible
        rw [hsent index]
        split
        · rfl
        next hunsent =>
          refine (hfields index hvisible).resolve_right fun hpending => hunsent ?_
          unfold Object.isSent
          rw [if_pos rfl, hpending.1, decide_eq_true hvisible]
          exact Bool.or_true _
      exact ⟨hsynced, hworld, fun index hvisible => .inl (hsynced index hvisible)⟩
    next hidle =>
      have hsynced : ∀ index, flags index &&& visibleFlag ≠ 0 →
          fields index = object.uint32Values index := fun index hvisible =>
        (hfields index hvisible).resolve_right fun hpending => hidle hpending.2
      exact ⟨hsynced, hworld, hfields⟩

theorem step_tracked (hcount : valuesCount < 8160) (htracked : session.Tracked flags visibleFlag)
    (event : Event) : (step flags visibleFlag session event).Tracked flags visibleFlag := by
  cases event with
  | set setter => exact set_tracked htracked setter
  | tick => exact (tick_tracked hcount htracked).2

end

/-- Every block is read to its end, and after the creation and after every tick the client has the
values of the fields that are visible to it. -/
theorem replicated (hcount : valuesCount < 8160) (object : Object valuesCount dynamicTabCount)
    (second : Bool) (events : List Event) :
    (start flags visibleFlag object second).Synced flags visibleFlag ∧
      (∀ reached ∈ visited (step flags visibleFlag) (start flags visibleFlag object second) events,
        reached ≠ .garbled) ∧
      Along (step flags visibleFlag) (fun session event => event = .tick →
        (step flags visibleFlag session event).Synced flags visibleFlag)
          (start flags visibleFlag object second) events := by
  have hstart : (start flags visibleFlag object second).Synced flags visibleFlag ∧
      (start flags visibleFlag object second).Tracked flags visibleFlag :=
    start_tracked hcount object second
  obtain ⟨hsynced, htracked⟩ := hstart
  have halong : Along (step flags visibleFlag) (fun _ _ => True)
      (start flags visibleFlag object second) events := along_of_forall _ (fun _ _ => trivial) _ _
  refine ⟨hsynced, fun reached hreached => ?_, ?_⟩
  · have hinvariant := invariant_of_along (step flags visibleFlag) (Tracked flags visibleFlag)
      (fun _ _ => True) (fun _ event hsession _ => step_tracked hcount hsession event) _ events
      htracked halong reached hreached
    rintro rfl
    exact hinvariant
  · refine along_of_invariant (step flags visibleFlag) (Tracked flags visibleFlag)
      (fun _ event hsession _ => step_tracked hcount hsession event)
      (fun session event hsession _ htick => ?_) _ events htracked halong
    subst htick
    exact (tick_tracked hcount hsession).1

end Session

end

/-- An object outside the world with two fields, the first of them set. -/
def twoFields : Object 2 0 :=
  { uint32Values := fun index => if index = 0 then 7 else 0, changedFields := fun _ => false
    dynamicFields := fun tab => tab.elim0, fieldNotifyFlags := 0, inWorld := false
    objectUpdated := false }

theorem Session.replicated_twoFields :
    (start (fun _ => 1) 1 twoFields false).Synced (fun _ => 1) 1 ∧
      (∀ reached ∈ visited (step (fun _ => 1) 1) (start (fun _ => 1) 1 twoFields false)
        [.set (.setByteFlag 1 2 3), .tick, .tick], reached ≠ .garbled) ∧
      Along (step (fun _ => 1) 1) (fun session event => event = .tick →
        (step (fun _ => 1) 1 session event).Synced (fun _ => 1) 1)
          (start (fun _ => 1) 1 twoFields false) [.set (.setByteFlag 1 2 3), .tick, .tick] :=
  replicated (fun _ => 1) 1 (by decide) twoFields false [.set (.setByteFlag 1 2 3), .tick, .tick]

end MopServer.Updates
