import MopServer.Updates.Replication

/-! # Replication of the dynamic fields

The creation of an object is told with the marks of its dynamic fields, as every update.  A viewer
who joins after a mark has been cleared does not learn of the field until it changes again.
-/

namespace MopServer.Updates

open MopServer.Foundation

/-- A viewer with the dynamic fields he has decoded. -/
structure Viewer where
  tabs : Nat → Nat → UInt32
  /-- He has joined since the last tick. -/
  joining : Bool

inductive Broadcast (valuesCount dynamicTabCount : Nat) where
  | aborted
  | garbled
  | running (object : Object valuesCount dynamicTabCount) (viewers : List Viewer)

inductive BroadcastEvent where
  | set (setter : Setter)
  | tick
  | join

namespace Broadcast

section

variable {valuesCount dynamicTabCount : Nat}

def decoded (block : List UInt8) (tabs : Nat → Nat → UInt32) : Option (Nat → Nat → UInt32) :=
  match decodeDynamicValues tabs block with
  | some (after, []) => some after
  | _ => none

/-- All viewers decode a block, and none of them is new any more. -/
def updateViewers (block : List UInt8) (viewers : List Viewer) : Option (List Viewer) :=
  viewers.mapM fun viewer =>
    (decoded block viewer.tabs).map fun tabs => { tabs := tabs, joining := false }

variable (object : Object valuesCount dynamicTabCount)

def start : Broadcast valuesCount dynamicTabCount :=
  match object.addToWorld with
  | none => .aborted
  | some object => .running object []

def step : Broadcast valuesCount dynamicTabCount → BroadcastEvent →
    Broadcast valuesCount dynamicTabCount
  | .running object viewers, .set setter =>
    match setter.run object with
    | none => .aborted
    | some object => .running object viewers
  | .running object viewers, .tick =>
    if object.objectUpdated then
      match updateViewers object.buildDynamicValuesUpdate viewers with
      | none => .garbled
      | some viewers => .running object.clearUpdateMask viewers
    else .running object (viewers.map fun viewer => { viewer with joining := false })
  | .running object viewers, .join =>
    match decoded object.buildDynamicValuesUpdate fun _ _ => 0 with
    | none => .garbled
    | some tabs => .running object ({ tabs := tabs, joining := true } :: viewers)
  | broadcast, _ => broadcast

variable (viewer : Viewer)

/-- A viewer has the dynamic values of the object. -/
def Informed : Prop :=
  ∀ (tab : Fin dynamicTabCount) (index : Fin 32),
    viewer.tabs tab index = (object.dynamicFields tab).values index

/-- All viewers have the dynamic values of the object. -/
def AllInformed : Broadcast valuesCount dynamicTabCount → Prop
  | .aborted => True
  | .garbled => False
  | .running object viewers => ∀ viewer ∈ viewers, Informed object viewer

/-- When a viewer has joined since the last tick, every dynamic field other than 0 is marked. -/
def NewcomersServed : Broadcast valuesCount dynamicTabCount → Prop
  | .running object viewers => (∃ viewer ∈ viewers, viewer.joining = true) →
      ∀ tab index, (object.dynamicFields tab).values index ≠ 0 →
        (object.dynamicFields tab).changed index = true
  | _ => True

/-- What a new viewer has is what is marked; what another one does not have is marked, and the
object registered. -/
def Keeps : Prop :=
  ∀ (tab : Fin dynamicTabCount) (index : Fin 32),
    if viewer.joining then
      (object.dynamicFields tab).changed index = true ∧ (object.objectUpdated = true ∨
          viewer.tabs tab index = (object.dynamicFields tab).values index) ∨
        (object.dynamicFields tab).changed index = false ∧ viewer.tabs tab index = 0
    else
      viewer.tabs tab index = (object.dynamicFields tab).values index ∨
        (object.dynamicFields tab).changed index = true ∧ object.objectUpdated = true

def Tracked : Broadcast valuesCount dynamicTabCount → Prop
  | .aborted => True
  | .garbled => False
  | .running object viewers => object.inWorld = true ∧ ∀ viewer ∈ viewers, Keeps object viewer

/-- What a viewer has after he has been told what is marked. -/
def Told (updated : Viewer) : Prop :=
  updated.joining = false ∧ ∀ (tab : Fin dynamicTabCount) (index : Fin 32),
    updated.tabs tab index =
      if (object.dynamicFields tab).changed index then (object.dynamicFields tab).values index
      else viewer.tabs tab index

/-- All viewers have been told what is marked. -/
structure AllTold (object : Object valuesCount dynamicTabCount) (viewers updated : List Viewer) :
    Prop where
  forward : ∀ viewer ∈ viewers, ∃ after ∈ updated, Told object viewer after
  backward : ∀ after ∈ updated, ∃ viewer ∈ viewers, Told object viewer after

/-! ## Blocks -/

variable (htabs : dynamicTabCount ≤ 32) (object : Object valuesCount dynamicTabCount)

include htabs in
theorem decoded_block (tabs : Nat → Nat → UInt32) :
    ∃ after, decoded object.buildDynamicValuesUpdate tabs = some after ∧
      ∀ (tab : Fin dynamicTabCount) (index : Fin 32), after tab index =
        if (object.dynamicFields tab).changed index then (object.dynamicFields tab).values index
        else tabs tab index := by
  obtain ⟨after, hread, hfields⟩ := object.decodeDynamicValues_block htabs tabs []
  rw [List.append_nil] at hread
  refine ⟨after, ?_, hfields⟩
  unfold decoded
  rw [hread]

include htabs in
theorem updateViewers_block (viewers : List Viewer) :
    ∃ updated, updateViewers object.buildDynamicValuesUpdate viewers = some updated ∧
      AllTold object viewers updated := by
  induction viewers with
  | nil => exact ⟨[], rfl, by simp, by simp⟩
  | cons viewer viewers ih =>
    obtain ⟨rest, hrest, hall⟩ := ih
    obtain ⟨tabs, htabsRead, hfields⟩ := decoded_block htabs object viewer.tabs
    have hfirst : Told object viewer { tabs := tabs, joining := false } := ⟨rfl, hfields⟩
    refine ⟨{ tabs := tabs, joining := false } :: rest, ?_, ?_, ?_⟩
    · unfold updateViewers at hrest ⊢
      rw [List.mapM_cons, htabsRead, Option.map_some, hrest]
      rfl
    · refine List.forall_mem_cons.mpr ⟨⟨_, List.mem_cons_self, hfirst⟩, fun other hother => ?_⟩
      obtain ⟨after, hafter, htold⟩ := hall.forward other hother
      exact ⟨after, List.mem_cons_of_mem _ hafter, htold⟩
    · refine List.forall_mem_cons.mpr ⟨⟨_, List.mem_cons_self, hfirst⟩, fun after hafter => ?_⟩
      obtain ⟨other, hother, htold⟩ := hall.backward after hafter
      exact ⟨other, List.mem_cons_of_mem _ hother, htold⟩

/-! ## Steps -/

variable {object : Object valuesCount dynamicTabCount}
  {broadcast : Broadcast valuesCount dynamicTabCount}

theorem start_tracked (object : Object valuesCount dynamicTabCount) :
    (start object).Tracked := by
  unfold start
  split
  · trivial
  next after hworld => exact ⟨Session.addToWorld_inWorld hworld, by simp⟩

theorem Keeps.of_marked {after : Object valuesCount dynamicTabCount} {viewer : Viewer}
    (hkeeps : Keeps object viewer) (hmarked : Marked object after) : Keeps after viewer := by
  intro tab index
  have hfield := hkeeps tab index
  rcases hmarked.dynamics tab index with ⟨hchanged, hupdated⟩ | ⟨hvalue, hmark⟩
  · split
    · exact .inl ⟨hchanged, .inl hupdated⟩
    · exact .inr ⟨hchanged, hupdated⟩
  · rw [hvalue, hmark]
    split at hfield
    next hjoining =>
      rw [if_pos hjoining]
      exact hfield.imp_left fun hmarkedField =>
        ⟨hmarkedField.1, hmarkedField.2.imp_left hmarked.objectUpdated⟩
    next hstaying =>
      rw [if_neg hstaying]
      exact hfield.imp_right fun hpending => ⟨hpending.1, hmarked.objectUpdated hpending.2⟩

variable (htracked : broadcast.Tracked)

include htracked in
theorem set_tracked (setter : Setter) : (broadcast.step (.set setter)).Tracked := by
  cases broadcast with
  | aborted => trivial
  | garbled => exact htracked
  | running object viewers =>
    obtain ⟨hworld, hviewers⟩ := htracked
    unfold step
    dsimp only
    split
    · trivial
    next after hset =>
      have hmarked := Setter.run_marked hworld hset
      exact ⟨hmarked.inWorld, fun viewer hviewer => (hviewers viewer hviewer).of_marked hmarked⟩

include htabs htracked in
theorem join_tracked : (broadcast.step .join).Tracked := by
  cases broadcast with
  | aborted => trivial
  | garbled => exact htracked
  | running object viewers =>
    obtain ⟨hworld, hviewers⟩ := htracked
    obtain ⟨tabs, hread, hfields⟩ := decoded_block htabs object fun _ _ => 0
    unfold step
    dsimp only
    rw [hread]
    refine ⟨hworld, List.forall_mem_cons.mpr ⟨fun tab index => ?_, hviewers⟩⟩
    rw [if_pos rfl]
    dsimp only
    rw [hfields tab index]
    cases (object.dynamicFields tab).changed index with
    | true => exact .inl ⟨rfl, .inr (if_pos rfl)⟩
    | false => exact .inr ⟨rfl, if_neg Bool.false_ne_true⟩

include htabs in
theorem tick_spec {viewers : List Viewer} (hkeeps : ∀ viewer ∈ viewers, Keeps object viewer) :
    ∃ (after : Object valuesCount dynamicTabCount) (updated : List Viewer),
      (running object viewers).step .tick = .running after updated ∧
      after.inWorld = object.inWorld ∧
      (∀ tab, (after.dynamicFields tab).values = (object.dynamicFields tab).values) ∧
      AllTold object viewers updated := by
  unfold step
  dsimp only
  split
  next hupdated =>
    obtain ⟨updated, hread, hall⟩ := updateViewers_block htabs object viewers
    rw [hread]
    refine ⟨object.clearUpdateMask, updated, rfl, rfl, fun tab => ?_, hall⟩
    unfold Object.clearUpdateMask
    rw [if_pos hupdated]
    rfl
  next hidle =>
    -- nothing is pending, so what is marked has been told already
    have htold : ∀ viewer ∈ viewers, Told object viewer { viewer with joining := false } := by
      refine fun viewer hviewer => ⟨rfl, fun tab index => ?_⟩
      have hfield := hkeeps viewer hviewer tab index
      cases hmark : (object.dynamicFields tab).changed index with
      | false => exact (if_neg Bool.false_ne_true).symm
      | true =>
        rw [if_pos rfl]
        split at hfield
        · rcases hfield with ⟨-, hsaid⟩ | ⟨hunmarked, -⟩
          · exact hsaid.resolve_left hidle
          · rw [hmark] at hunmarked
            cases hunmarked
        · exact hfield.resolve_right fun hpending => hidle hpending.2
    refine ⟨object, _, rfl, rfl, fun tab => rfl, fun viewer hviewer =>
      ⟨_, List.mem_map_of_mem hviewer, htold viewer hviewer⟩, fun after hafter => ?_⟩
    obtain ⟨viewer, hviewer, rfl⟩ := List.mem_map.mp hafter
    exact ⟨viewer, hviewer, htold viewer hviewer⟩

include htabs htracked in
theorem tick_informed_iff : (broadcast.step .tick).AllInformed ↔ broadcast.NewcomersServed := by
  cases broadcast with
  | aborted => exact iff_of_true trivial trivial
  | garbled => exact htracked.elim
  | running object viewers =>
    obtain ⟨-, hkeeps⟩ := htracked
    obtain ⟨after, updated, hstep, -, hvalues, hall⟩ := tick_spec htabs hkeeps
    rw [hstep]
    constructor
    · rintro hinformed ⟨viewer, hviewer, hjoining⟩ tab index hvalue
      by_contra hmark
      obtain ⟨told, htold, -, hfields⟩ := hall.forward viewer hviewer
      have hhas := hinformed told htold tab index
      rw [hfields, if_neg hmark, hvalues] at hhas
      -- he has kept the 0 he started with
      have hfield := hkeeps viewer hviewer tab index
      rw [if_pos hjoining] at hfield
      rcases hfield with ⟨hmarked, -⟩ | ⟨-, hzero⟩
      · exact hmark hmarked
      · exact hvalue (hhas.symm.trans hzero)
    · intro hserved told htold tab index
      obtain ⟨viewer, hviewer, -, hfields⟩ := hall.backward told htold
      rw [hfields, hvalues]
      split
      · rfl
      next hmark =>
        have hfield := hkeeps viewer hviewer tab index
        split at hfield
        next hjoining =>
          rcases hfield with ⟨hmarked, -⟩ | ⟨-, hzero⟩
          · exact absurd hmarked hmark
          · by_contra hvalue
            refine hmark (hserved ⟨viewer, hviewer, hjoining⟩ tab index fun hnone => ?_)
            exact hvalue (hzero.trans hnone.symm)
        · exact hfield.resolve_right fun hpending => hmark hpending.1

include htabs htracked in
theorem tick_tracked (hserved : broadcast.NewcomersServed) : (broadcast.step .tick).Tracked := by
  have hinformed := (tick_informed_iff htabs htracked).mpr hserved
  cases broadcast with
  | aborted => trivial
  | garbled => exact htracked
  | running object viewers =>
    obtain ⟨hworld, hkeeps⟩ := htracked
    obtain ⟨after, updated, hstep, hsameWorld, -, hall⟩ := tick_spec htabs hkeeps
    rw [hstep] at hinformed ⊢
    refine ⟨hsameWorld.trans hworld, fun told htold tab index => ?_⟩
    obtain ⟨-, -, hstaying, -⟩ := hall.backward told htold
    rw [if_neg (by rw [hstaying]; exact Bool.false_ne_true)]
    exact .inl (hinformed told htold tab index)

/-- What an event must be for the viewers to keep up. -/
def Served (broadcast : Broadcast valuesCount dynamicTabCount) (event : BroadcastEvent) : Prop :=
  event = .tick → broadcast.NewcomersServed

include htabs htracked in
theorem step_tracked {event : BroadcastEvent} (hserved : broadcast.Served event) :
    (broadcast.step event).Tracked := by
  cases event with
  | set setter => exact set_tracked htracked setter
  | tick => exact tick_tracked htabs htracked (hserved rfl)
  | join => exact join_tracked htabs htracked

/-- Every viewer has all dynamic values after every tick, from the first one after he has joined,
exactly if at that one all dynamic fields other than 0 are marked. -/
theorem dynamic_replicated (htabs : dynamicTabCount ≤ 32)
    (object : Object valuesCount dynamicTabCount) (events : List BroadcastEvent) :
    Along step (fun broadcast event => event = .tick → (broadcast.step event).AllInformed)
        (start object) events ↔
      Along step Served (start object) events := by
  refine along_iff_of_invariant step Tracked (fun broadcast event htracked hserved =>
    step_tracked htabs htracked hserved) (fun broadcast event htracked => ?_) _ events
    (start_tracked object)
  refine forall_congr' fun htick => ?_
  subst htick
  exact tick_informed_iff htabs htracked

end

def oneTab : Object 0 1 :=
  { uint32Values := fun index => index.elim0, changedFields := fun index => index.elim0
    dynamicFields := fun _ => { values := fun _ => 0, changed := fun _ => false }
    fieldNotifyFlags := 0, inWorld := false, objectUpdated := false }

theorem dynamic_replicated_oneTab :
    Along step (fun broadcast event => event = .tick → (broadcast.step event).AllInformed)
        (start oneTab) [.join, .set (.setDynamicUInt32Value 0 3 5 false), .tick] ↔
      Along step Served (start oneTab) [.join, .set (.setDynamicUInt32Value 0 3 5 false), .tick] :=
  dynamic_replicated (by decide) oneTab [.join, .set (.setDynamicUInt32Value 0 3 5 false), .tick]

/-- A viewer who joins after the tick that has told of a field does not have it after the next. -/
theorem dynamic_missed :
    ¬ Along step (fun broadcast event => event = .tick → (broadcast.step event).AllInformed)
      (start oneTab) [.set (.setDynamicUInt32Value 0 3 5 false), .tick, .join, .tick] := by
  rintro ⟨-, -, -, hinformed, -⟩
  have hviewer := hinformed rfl _ List.mem_cons_self 0 3
  revert hviewer
  decide

end Broadcast

end MopServer.Updates
