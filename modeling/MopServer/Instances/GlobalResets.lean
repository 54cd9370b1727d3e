import Mathlib.Logic.Function.Iterate
import MopServer.Foundation.Run
import MopServer.Instances.ResetTimes

/-! # Resets of whole maps

A map and difficulty with a reset period has one pending event.  It passes through the warnings to
the reset, which starts over one period later.
-/

namespace MopServer.Instances

open MopServer.Foundation

variable {mapid : UInt16} {difficulty : UInt8}

/-- What follows an event of a map and difficulty: the next warning or the reset, and after the
reset the first warning of the reset one period later. -/
def eventAfter (period : Nat) (event : Fin 5 × Nat) : Fin 5 × Nat :=
  if event.1 = 4 then (1, event.2 + period) else (event.1 + 1, event.2)

/-- A number of events that follow each other. -/
def chain (period : Nat) : Nat → Fin 5 × Nat → List (Fin 5 × Nat)
  | 0, _ => []
  | count + 1, event => event :: chain period count (eventAfter period event)

theorem chain_append (period first second : Nat) (event : Fin 5 × Nat) :
    chain period (first + second) event =
      chain period first event ++ chain period second ((eventAfter period)^[first] event) := by
  induction first generalizing event with
  | zero => rw [Nat.zero_add]; rfl
  | succ first ih =>
    rw [Nat.succ_add, chain, chain, ih, List.cons_append, Function.iterate_succ_apply]

/-- The warnings and resets of a map and difficulty, with the reset times. -/
def globalsOf (mapid : UInt16) (difficulty : UInt8) (actions : List ResetAction) :
    List (Fin 5 × Nat) :=
  actions.filterMap fun action =>
    match action with
    | .instance .. => none
    | .global otherMap otherDifficulty type resetTime =>
      if otherMap = mapid ∧ otherDifficulty = difficulty then some (type, resetTime) else none

theorem globalsOf_append (mapid : UInt16) (difficulty : UInt8) (first second : List ResetAction) :
    globalsOf mapid difficulty (first ++ second) =
      globalsOf mapid difficulty first ++ globalsOf mapid difficulty second :=
  List.filterMap_append

theorem globalsOf_other {otherMap : UInt16} {otherDifficulty : UInt8}
    (hother : ¬(otherMap = mapid ∧ otherDifficulty = difficulty)) (type : Fin 5) (resetTime : Nat) :
    globalsOf mapid difficulty [.global otherMap otherDifficulty type resetTime] = [] := by
  simp [globalsOf, hother]

theorem globalsOf_own (mapid : UInt16) (difficulty : UInt8) (type : Fin 5) (resetTime : Nat) :
    globalsOf mapid difficulty [.global mapid difficulty type resetTime] = [(type, resetTime)] := by
  simp [globalsOf]

namespace InstanceSaveManager

/-- One event of a map and difficulty is pending, at its time before the stored reset time. -/
def Pending (manager : InstanceSaveManager) (mapid : UInt16) (difficulty : UInt8)
    (event : Fin 5 × Nat) : Prop :=
  manager.resetTime mapid difficulty = event.2 ∧
    manager.resetTimeQueue.filter (globalOf mapid difficulty) =
      [((event.2 : Int) - resetTimeDelay event.1,
        { type := event.1, mapid := mapid, difficulty := difficulty, instanceId := 0 })]

/-- A warning or reset at the hour of the resets. -/
def OnTheHour (realm : Realm) (event : Fin 5 × Nat) : Prop :=
  event.1 ≠ 0 ∧ event.2 % day = realm.diff

section

variable {realm : Realm} {manager : InstanceSaveManager} {now : Nat} {time : Int}
  {event : InstResetEvent} {rest : ResetTimeQueue} {mapid : UInt16} {difficulty : UInt8}
  {length : Nat} {pending : Fin 5 × Nat}

theorem OnTheHour.after (hevent : OnTheHour realm pending) (hlength : day ∣ length) :
    OnTheHour realm (eventAfter length pending) := by
  unfold eventAfter
  split
  · refine ⟨(by decide : (1 : Fin 5) ≠ 0), ?_⟩
    obtain ⟨days, rfl⟩ := hlength
    rw [Nat.add_mul_mod_self_left]
    exact hevent.2
  next hwarn =>
    refine ⟨?_, hevent.2⟩
    have htype := hevent.1
    show pending.1 + 1 ≠ 0
    revert htype hwarn
    generalize pending.1 = type
    revert type
    decide

theorem nextReset_onTheHour {resetTime : Nat}
    (hdiff : realm.diff < day) (hlength : day ≤ length) (haligned : resetTime % day = realm.diff)
    (hroom : resetTime + (length + realm.diff + minute) < 2 ^ 32) :
    nextReset realm resetTime length = resetTime + length := by
  obtain ⟨hexact, -, -, -⟩ := nextReset_spec hlength hroom
  rw [hexact]
  unfold Realm.diff hour at hdiff haligned ⊢
  unfold day at hdiff haligned ⊢
  unfold minute
  omega

theorem filter_schedule_own {queue : ResetTimeQueue} (hordered : queue.Ordered)
    (time : Int) (event : InstResetEvent)
    (hnone : queue.filter (globalOf event.mapid event.difficulty) = [])
    (htype : event.type ≠ 0) :
    (queue.schedule time event).filter (globalOf event.mapid event.difficulty) =
      [(time, event)] := by
  have hown : globalOf event.mapid event.difficulty (time, event) = true :=
    globalOf_iff.mpr ⟨htype, rfl, rfl⟩
  rw [hordered.filter_schedule hown, hnone]
  rfl

/-! ## After the start -/

variable {tables : ResetTables}

theorem loadGlobal_pending (hsome : realm.period mapid difficulty = some length)
    (hnone : manager.resetTimeQueue.filter (globalOf mapid difficulty) = [])
    (hordered : manager.resetTimeQueue.Ordered)
    (hrows : ∀ row ∈ tables.resettable, ¬(row.map = mapid ∧ row.difficulty = difficulty)) :
    (manager.loadGlobal realm tables now (mapid, difficulty)).Pending mapid difficulty
      (firstType now (currentResetTime realm.diff now length (manager.resetTime mapid difficulty)),
        currentResetTime realm.diff now length (manager.resetTime mapid difficulty)) := by
  have hids : eventIds tables (mapid, difficulty) = [0] := by
    unfold eventIds
    rw [List.filter_eq_nil_iff.mpr fun row hrow hpair => hrows row hrow (by simpa using hpair)]
    rfl
  rw [loadGlobal_some (mapid, difficulty) hsome tables rfl, hids]
  refine ⟨if_pos ⟨rfl, rfl⟩, ?_⟩
  exact filter_schedule_own hordered _ ⟨firstType now _, mapid, difficulty, 0⟩ hnone
    (firstType_ne_zero now _)

theorem Pending.foldl_loadGlobal (hpending : manager.Pending mapid difficulty pending)
    (tables : ResetTables) (keys : List (UInt16 × UInt8)) (hnotMem : (mapid, difficulty) ∉ keys) :
    (keys.foldl (loadGlobal realm tables now) manager).Pending mapid difficulty pending := by
  induction keys generalizing manager with
  | nil => exact hpending
  | cons key rest ih =>
    have hother : (mapid, difficulty) ≠ key := fun heq => hnotMem (heq ▸ List.mem_cons_self)
    obtain ⟨htime, hqueue⟩ := loadGlobal_other manager now realm hother tables
    refine ih ⟨htime.trans hpending.1, hqueue.trans hpending.2⟩ fun hmem => ?_
    exact hnotMem (List.mem_cons_of_mem _ hmem)

theorem foldl_loadGlobal_pending (hdiff : realm.diff < day)
    (hsome : realm.period mapid difficulty = some length) (hlength : day ∣ length)
    (hrows : ∀ row ∈ tables.resettable, ¬(row.map = mapid ∧ row.difficulty = difficulty))
    (keys : List (UInt16 × UInt8)) (hnodup : keys.Nodup) (hpunctual : manager.Punctual)
    (hfresh : ∀ entry ∈ manager.resetTimeQueue, entry.2.type ≠ 0 →
      (entry.2.mapid, entry.2.difficulty) ∉ keys)
    (haligned : manager.resetTime mapid difficulty = 0 ∨
      manager.resetTime mapid difficulty % day = realm.diff) (hmem : (mapid, difficulty) ∈ keys) :
    ∃ resetTime, resetTime % day = realm.diff ∧
      (keys.foldl (loadGlobal realm tables now) manager).Pending mapid difficulty
        (firstType now resetTime, resetTime) := by
  induction keys generalizing manager with
  | nil => exact absurd hmem List.not_mem_nil
  | cons key rest ih =>
    obtain ⟨hnotMem, hrest⟩ := List.nodup_cons.mp hnodup
    rw [List.foldl_cons]
    by_cases hkey : (mapid, difficulty) = key
    · subst hkey
      have hnone : manager.resetTimeQueue.filter (globalOf mapid difficulty) = [] := by
        refine List.filter_eq_nil_iff.mpr fun entry hentry hglobal => ?_
        obtain ⟨htype, rfl, rfl⟩ := globalOf_iff.mp hglobal
        exact hfresh entry hentry htype List.mem_cons_self
      exact ⟨_, currentResetTime_mod hdiff hlength haligned,
        (loadGlobal_pending hsome hnone hpunctual.ordered hrows).foldl_loadGlobal tables rest
          hnotMem⟩
    · obtain ⟨htime, -⟩ := loadGlobal_other manager now realm hkey tables
      refine ih hrest (loadGlobal_punctual hpunctual (fun entry hentry htype heq => ?_) tables)
        (loadGlobal_fresh hnotMem hfresh tables) (htime ▸ haligned)
        ((List.mem_cons.mp hmem).resolve_left hkey)
      exact hfresh entry hentry htype (heq ▸ List.mem_cons_self)

/-! ## In an update -/

variable {done : InstanceSaveManager × List ResetAction}

theorem Pending.of_globalOf (hpending : manager.Pending mapid difficulty pending)
    (hqueue : manager.resetTimeQueue = (time, event) :: rest)
    (hown : globalOf mapid difficulty (time, event) = true) :
    time = (pending.2 : Int) - resetTimeDelay pending.1 ∧
      event = { type := pending.1, mapid := mapid, difficulty := difficulty, instanceId := 0 } ∧
      rest.filter (globalOf mapid difficulty) = [] := by
  have hfilter := hpending.2
  rw [hqueue, List.filter_cons_of_pos hown] at hfilter
  obtain ⟨hfirst, hrest⟩ := List.cons.inj hfilter
  exact ⟨congrArg Prod.fst hfirst, congrArg Prod.snd hfirst, hrest⟩

theorem Outcome.pending_of_not (houtcome : Outcome realm manager time event rest done)
    (hqueue : manager.resetTimeQueue = (time, event) :: rest)
    (hother : ¬globalOf mapid difficulty (time, event) = true)
    (hpending : manager.Pending mapid difficulty pending) :
    globalsOf mapid difficulty done.2 = [] ∧ done.1.Pending mapid difficulty pending := by
  obtain ⟨htime, hfilter⟩ := hpending
  rw [hqueue, List.filter_cons_of_neg hother] at hfilter
  have hpair : event.type ≠ 0 → ¬(event.mapid = mapid ∧ event.difficulty = difficulty) :=
    fun htype hsame => hother (globalOf_iff.mpr ⟨htype, hsame.1, hsame.2⟩)
  have hnext : event.type ≠ 0 → ∀ (time : Int) (other : InstResetEvent),
      other.mapid = event.mapid → other.difficulty = event.difficulty →
        (rest.schedule time other).filter (globalOf mapid difficulty) =
          rest.filter (globalOf mapid difficulty) := by
    intro htype time other hmap hdifficulty
    refine TimedQueue.filter_schedule_of_not (Bool.eq_false_iff.mpr fun hglobal => ?_)
    obtain ⟨-, hsame⟩ := globalOf_iff.mp hglobal
    exact hpair htype ⟨hmap ▸ hsame.1, hdifficulty ▸ hsame.2⟩
  have hmoved : event.type ≠ 0 → ∀ resetTime : Nat,
      (manager.setResetTimeFor event.mapid event.difficulty resetTime).resetTime mapid difficulty =
        pending.2 := by
    intro htype resetTime
    refine (if_neg fun hsame => ?_).trans htime
    exact hpair htype ⟨hsame.1.symm, hsame.2.symm⟩
  have hfour : event.type = 4 → event.type ≠ 0 := fun htype => by rw [htype]; decide
  cases houtcome with
  | single htype =>
    refine ⟨?_, htime, hfilter⟩
    unfold resetInstance
    split <;> rfl
  | dropped htype => exact ⟨rfl, htime, hfilter⟩
  | warning htype hwarn =>
    refine ⟨?_, htime, (hnext htype _ { event with type := event.type + 1 } rfl rfl).trans hfilter⟩
    split
    · exact globalsOf_other (hpair htype) _ _
    · rfl
  | reset htype hinstanceable hperiod hlater =>
    exact ⟨globalsOf_other (hpair (hfour htype)) _ _, hmoved (hfour htype) _,
      (hnext (hfour htype) _ ⟨1, event.mapid, event.difficulty, 0⟩ rfl rfl).trans hfilter⟩
  | again htype hinstanceable hperiod hearlier =>
    exact ⟨globalsOf_other (hpair (hfour htype)) _ _, hmoved (hfour htype) _,
      (List.filter_cons_of_neg hother).trans hfilter⟩

theorem Outcome.pending_of_own (houtcome : Outcome realm manager time event rest done)
    (hpunctual : manager.Punctual) (hroom : Headroom realm now manager)
    (hqueue : manager.resetTimeQueue = (time, event) :: rest)
    (hown : globalOf mapid difficulty (time, event) = true)
    (hinstanceable : realm.instanceable mapid = true)
    (hsome : realm.period mapid difficulty = some length) (hlength : day ∣ length)
    (hdiff : realm.diff < day) (hevent : OnTheHour realm pending)
    (hpending : manager.Pending mapid difficulty pending) :
    globalsOf mapid difficulty done.2 = [pending] ∧
      done.1.Pending mapid difficulty (eventAfter length pending) := by
  obtain ⟨rfl, rfl, hrest⟩ := hpending.of_globalOf hqueue hown
  have hordered : rest.Ordered := by
    have hall := hpunctual.ordered
    rw [hqueue] at hall
    exact (List.pairwise_cons.mp hall).2
  have hstored : manager.getResetTimeFor ⟨pending.1, mapid, difficulty, 0⟩ = pending.2 := hpending.1
  have hnext : pending.1 = 4 → nextReset realm pending.2 length = pending.2 + length := by
    intro htype
    have hlt : manager.getResetTimeFor ⟨pending.1, mapid, difficulty, 0⟩ +
        (length + realm.diff + minute) < 2 ^ 32 := hroom.room hsome
    rw [hstored] at hlt
    exact nextReset_onTheHour hdiff (realm.day_le mapid difficulty length hsome) hevent.2 hlt
  cases houtcome with
  | single htype => exact absurd htype hevent.1
  | dropped htype hnone =>
    rcases hnone with hfalse | hnone
    · exact absurd hinstanceable (by rw [hfalse]; exact Bool.false_ne_true)
    · exact absurd hsome (by rw [hnone]; exact Option.some_ne_none _ ∘ Eq.symm)
  | warning htype hwarn =>
    have hafter : eventAfter length pending = (pending.1 + 1, pending.2) := if_neg hwarn
    have hsucc := (hevent.after hlength).1
    rw [hafter] at hsucc ⊢
    refine ⟨?_, hpending.1, ?_⟩
    · dsimp only
      rw [if_pos hinstanceable, hstored]
      exact globalsOf_own mapid difficulty pending.1 pending.2
    · dsimp only
      rw [hstored]
      exact filter_schedule_own hordered _ ⟨pending.1 + 1, mapid, difficulty, 0⟩ hrest hsucc
  | @reset own htype hinstanceable hperiod hlater =>
    have hsame : own = length := Option.some.inj (hperiod.symm.trans hsome)
    subst hsame
    have hafter : eventAfter own pending = (1, pending.2 + own) := if_pos htype
    rw [hafter]
    rw [hstored, hnext htype]
    refine ⟨globalsOf_own mapid difficulty pending.1 pending.2, if_pos ⟨rfl, rfl⟩, ?_⟩
    exact filter_schedule_own hordered _ ⟨1, mapid, difficulty, 0⟩ hrest
      (by decide : (1 : Fin 5) ≠ 0)
  | @again own htype hinstanceable hperiod hearlier =>
    have hsame : own = length := Option.some.inj (hperiod.symm.trans hsome)
    subst hsame
    have hlong := realm.day_le mapid difficulty own hsome
    have hdelay : resetTimeDelay pending.1 = 60 := by
      rw [show pending.1 = 4 from htype]
      rfl
    rw [hstored, hnext htype, hdelay] at hearlier
    unfold day at hlong
    unfold hour at hearlier
    omega

/-- An update takes the pending event of a map and difficulty through a part of its chain. -/
def Follows (mapid : UInt16) (difficulty : UInt8) (length : Nat) (realm : Realm)
    (manager : InstanceSaveManager) (last : InstanceSaveManager × List ResetAction) : Prop :=
  ∀ pending, OnTheHour realm pending → manager.Pending mapid difficulty pending →
    ∃ count, globalsOf mapid difficulty last.2 = chain length count pending ∧
      last.1.Pending mapid difficulty ((eventAfter length)^[count] pending)

theorem follows_handled {last : InstanceSaveManager × List ResetAction}
    (hinstanceable : realm.instanceable mapid = true)
    (hsome : realm.period mapid difficulty = some length) (hlength : day ∣ length)
    (hdiff : realm.diff < day) (hpunctual : manager.Punctual) (hroom : Headroom realm now manager)
    (hqueue : manager.resetTimeQueue = (time, event) :: rest)
    (houtcome : Outcome realm manager time event rest done)
    (hlast : Follows mapid difficulty length realm done.1 last) :
    Follows mapid difficulty length realm manager (last.1, done.2 ++ last.2) := by
  intro pending hevent hpending
  rw [globalsOf_append]
  by_cases hown : globalOf mapid difficulty (time, event) = true
  · obtain ⟨hdone, hnext⟩ := houtcome.pending_of_own hpunctual hroom hqueue hown hinstanceable
      hsome hlength hdiff hevent hpending
    obtain ⟨count, hactions, hleft⟩ := hlast _ (hevent.after hlength) hnext
    exact ⟨count + 1, by rw [hdone, hactions]; rfl, hleft⟩
  · obtain ⟨hdone, hnext⟩ := houtcome.pending_of_not hqueue hown hpending
    obtain ⟨count, hactions, hleft⟩ := hlast pending hevent hnext
    exact ⟨count, by rw [hdone, hactions]; rfl, hleft⟩

/-- An update ends, in order and in time, after a part of the chain. -/
theorem update_follows (hinstanceable : realm.instanceable mapid = true)
    (hsome : realm.period mapid difficulty = some length) (hlength : day ∣ length)
    (hdiff : realm.diff < day) (hpunctual : manager.Punctual)
    (hroom : Headroom realm now manager) :
    ∃ last, manager.update realm now (manager.remaining now + 1) = some last ∧
      last.1.Punctual ∧ Follows mapid difficulty length realm manager last :=
  update_induction
    (fun _ _ _ _ _ hpending => ⟨0, rfl, hpending⟩)
    (fun _ _ _ _ _ _ hordered hspace hqueue _ houtcome hlast =>
      follows_handled hinstanceable hsome hlength hdiff hordered hspace hqueue houtcome hlast)
    hpunctual hroom (Nat.lt_succ_self _)

end

end InstanceSaveManager

/-- The manager and what its updates have done so far. -/
structure Timeline where
  manager : InstanceSaveManager
  actions : List ResetAction

namespace Timeline

/-- `Update`, with fuel for what there is to do. -/
def update (realm : Realm) (timeline : Timeline) (now : Nat) :
    Option (InstanceSaveManager × List ResetAction) :=
  timeline.manager.update realm now (timeline.manager.remaining now + 1)

variable (realm : Realm)

def step (timeline : Timeline) (now : Nat) : Timeline :=
  match timeline.update realm now with
  | none => timeline
  | some last => { manager := last.1, actions := timeline.actions ++ last.2 }

/-- `LoadResetTimes`. -/
def load (difficulties : MapDifficulties) (tables : ResetTables) (now : Nat) : Timeline :=
  { manager := InstanceSaveManager.loadResetTimes difficulties tables now, actions := [] }

def firstEvent (start : Timeline) (now : Nat) (mapid : UInt16) (difficulty : UInt8) :
    Fin 5 × Nat :=
  (firstType now (start.manager.resetTime mapid difficulty),
    start.manager.resetTime mapid difficulty)

/-- Every map and difficulty with a period has gone through a part of its chain of warnings and
resets, and the next event of the chain is pending, alone. -/
def OnePerPeriod (first : UInt16 → UInt8 → Fin 5 × Nat) (timeline : Timeline) : Prop :=
  ∀ mapid difficulty length, realm.period mapid difficulty = some length →
    ∃ count,
      globalsOf mapid difficulty timeline.actions = chain length count (first mapid difficulty) ∧
      timeline.manager.Pending mapid difficulty
        ((eventAfter length)^[count] (first mapid difficulty))

/-- The reset times of all maps and difficulties that an update may reach fit into 32 bits. -/
def Roomy (timeline : Timeline) (now : Nat) : Prop :=
  timeline.manager.Headroom realm now

/-- What a run keeps. -/
structure Sound (realm : Realm) (first : UInt16 → UInt8 → Fin 5 × Nat) (timeline : Timeline) :
    Prop where
  punctual : timeline.manager.Punctual
  onePerPeriod : timeline.OnePerPeriod realm first

section

variable {difficulties : MapDifficulties} {realm : Realm} {timeline : Timeline}
  {first : UInt16 → UInt8 → Fin 5 × Nat} {now length : Nat}

theorem iterate_onTheHour (hlength : day ∣ length) {event : Fin 5 × Nat}
    (hevent : InstanceSaveManager.OnTheHour realm event) (count : Nat) :
    InstanceSaveManager.OnTheHour realm ((eventAfter length)^[count] event) := by
  induction count generalizing event with
  | zero => exact hevent
  | succ count ih =>
    rw [Function.iterate_succ_apply]
    exact ih (hevent.after hlength)

theorem update_returns (hpunctual : timeline.manager.Punctual)
    (hroom : timeline.Roomy realm now) :
    ∃ last, timeline.update realm now = some last ∧ last.1.Punctual ∧
      ∀ entry ∈ last.1.resetTimeQueue, (now : Int) ≤ entry.1 :=
  InstanceSaveManager.update_induction
    (motive := fun _ last => ∀ entry ∈ last.1.resetTimeQueue, (now : Int) ≤ entry.1)
    (fun _ _ hlater => hlater) (fun _ _ _ _ _ _ _ _ _ _ _ hlater => hlater) hpunctual hroom
    (Nat.lt_succ_self _)

theorem Sound.step (hsound : timeline.Sound realm first) (hdiff : realm.diff < day)
    (hlength : ∀ mapid difficulty length,
      realm.period mapid difficulty = some length → day ∣ length)
    (hinstanceable : ∀ mapid difficulty length,
      realm.period mapid difficulty = some length → realm.instanceable mapid = true)
    (hfirst : ∀ mapid difficulty length, realm.period mapid difficulty = some length →
      InstanceSaveManager.OnTheHour realm (first mapid difficulty))
    (hroom : timeline.Roomy realm now) : (timeline.step realm now).Sound realm first := by
  obtain ⟨last, hlast, hafter, -⟩ := update_returns hsound.punctual hroom
  have hstep : timeline.step realm now =
      { manager := last.1, actions := timeline.actions ++ last.2 } := by
    unfold Timeline.step
    rw [hlast]
  rw [hstep]
  refine ⟨hafter, fun mapid difficulty length hsome => ?_⟩
  obtain ⟨count, hactions, hpending⟩ := hsound.onePerPeriod mapid difficulty length hsome
  have hdays := hlength mapid difficulty length hsome
  obtain ⟨other, hother, -, hfollows⟩ := InstanceSaveManager.update_follows
    (hinstanceable mapid difficulty length hsome) hsome hdays hdiff hsound.punctual hroom
  have hsame : other = last := Option.some.inj (hother.symm.trans hlast)
  rw [hsame] at hfollows
  obtain ⟨more, hmore, hnext⟩ := hfollows _
    (iterate_onTheHour hdays (hfirst mapid difficulty length hsome) count) hpending
  refine ⟨count + more, ?_, ?_⟩
  · rw [globalsOf_append, hactions, hmore, chain_append]
  · rw [Nat.add_comm, Function.iterate_add_apply]
    exact hnext

theorem load_pending (hdiff : difficulties.realm.diff < day)
    (hsome : difficulties.realm.period mapid difficulty = some length) (hlength : day ∣ length)
    (tables : ResetTables) (now : Nat)
    (hrows : ∀ row ∈ tables.resettable, difficulties.realm.period row.map row.difficulty = none) :
    InstanceSaveManager.OnTheHour difficulties.realm
        ((load difficulties tables now).firstEvent now mapid difficulty) ∧
      (load difficulties tables now).manager.Pending mapid difficulty
        ((load difficulties tables now).firstEvent now mapid difficulty) := by
  obtain ⟨hpunctual, hsingle⟩ := InstanceSaveManager.loaded_before difficulties tables now
  have haligned := InstanceSaveManager.aligned_before hdiff tables now
  have hnoRow : ∀ row ∈ tables.resettable, ¬(row.map = mapid ∧ row.difficulty = difficulty) := by
    rintro row hrow ⟨rfl, rfl⟩
    exact absurd hsome (by rw [hrows row hrow]; exact Option.some_ne_none _ ∘ Eq.symm)
  obtain ⟨resetTime, hhour, hpending⟩ := InstanceSaveManager.foldl_loadGlobal_pending hdiff hsome
    hlength hnoRow difficulties.keys difficulties.nodup hpunctual
    (fun entry hentry htype => absurd (hsingle entry hentry) htype) (haligned mapid difficulty)
    (difficulties.complete mapid difficulty (by rw [hsome]; rfl))
  have hstored : (load difficulties tables now).manager.resetTime mapid difficulty = resetTime :=
    hpending.1
  unfold firstEvent
  rw [hstored]
  exact ⟨⟨InstanceSaveManager.firstType_ne_zero now _, hhour⟩, hpending⟩

/-- When no instance of a map and difficulty with a period has a reset time of its own, such maps
are instanceable and the times fit into 32 bits, every update ends and every such map and
difficulty keeps to one chain: one pending event, the warnings in order, one reset for each stored
reset time, and the next reset one period later. -/
theorem globalResets_onePerPeriod (difficulties : MapDifficulties)
    (hdiff : difficulties.realm.diff < day)
    (hlength : ∀ mapid difficulty length,
      difficulties.realm.period mapid difficulty = some length → day ∣ length)
    (hinstanceable : ∀ mapid difficulty length,
      difficulties.realm.period mapid difficulty = some length →
        difficulties.realm.instanceable mapid = true)
    (tables : ResetTables) (now : Nat)
    (hrows : ∀ row ∈ tables.resettable, difficulties.realm.period row.map row.difficulty = none)
    (times : List Nat)
    (hroom : Along (step difficulties.realm) (Roomy difficulties.realm)
      (load difficulties tables now) times) :
    (∀ reached ∈ visited (step difficulties.realm) (load difficulties tables now) times,
        reached.OnePerPeriod difficulties.realm ((load difficulties tables now).firstEvent now)) ∧
      Along (step difficulties.realm)
        (fun timeline time => (timeline.update difficulties.realm time).isSome = true)
        (load difficulties tables now) times := by
  have hfirst := fun mapid difficulty length hsome => (load_pending hdiff hsome
    (hlength mapid difficulty length hsome) tables now hrows).1
  have hstart : (load difficulties tables now).Sound difficulties.realm
      ((load difficulties tables now).firstEvent now) :=
    { punctual := InstanceSaveManager.loadResetTimes_punctual difficulties tables now
      onePerPeriod := fun mapid difficulty length hsome => ⟨0, rfl, (load_pending hdiff hsome
        (hlength mapid difficulty length hsome) tables now hrows).2⟩ }
  constructor
  · intro reached hreached
    exact (invariant_of_along (step difficulties.realm) _ (Roomy difficulties.realm)
      (fun _ _ hsound hspace => hsound.step hdiff hlength hinstanceable hfirst hspace) _ times
      hstart hroom reached hreached).onePerPeriod
  · refine along_of_invariant (step difficulties.realm) _
      (fun _ _ hsound hspace => hsound.step hdiff hlength hinstanceable hfirst hspace)
      (fun _ _ hsound hspace => ?_) _ times hstart hroom
    obtain ⟨last, hlast, -⟩ := update_returns hsound.punctual hspace
    rw [hlast]
    rfl

def weeklyDifficulties : MapDifficulties where
  realm :=
    { instanceable := fun _ => true
      period := fun mapid difficulty =>
        if mapid = 249 ∧ difficulty = 3 then some 604800 else none
      resetHour := 4
      day_le := by
        intro mapid difficulty length hlength
        split at hlength
        · cases hlength
          decide
        · cases hlength }
  keys := [(249, 3), (36, 1)]
  nodup := by decide
  complete := by
    intro mapid difficulty hsome
    dsimp only at hsome
    split at hsome
    next hpair => rw [hpair.1, hpair.2]; exact List.mem_cons_self
    · exact absurd hsome Bool.false_ne_true

theorem weeklyDifficulties_period
    (hlength : weeklyDifficulties.realm.period mapid difficulty = some length) :
    mapid = 249 ∧ difficulty = 3 ∧ length = 604800 := by
  have hperiod : (if mapid = 249 ∧ difficulty = 3 then some 604800 else none) = some length :=
    hlength
  split at hperiod
  next hpair =>
    cases hperiod
    exact ⟨hpair.1, hpair.2, rfl⟩
  · cases hperiod

theorem globalResets_onePerPeriod_weekly :
    let tables : ResetTables :=
      { instances := [⟨7, 36, 1, 1205000⟩], respawns := [], resets := [⟨249, 3, 1209600⟩] }
    let start := load weeklyDifficulties tables 1200000
    let times := [1221000, 1300000]
    (∀ reached ∈ visited (step weeklyDifficulties.realm) start times,
        reached.OnePerPeriod weeklyDifficulties.realm (start.firstEvent 1200000)) ∧
      Along (step weeklyDifficulties.realm)
        (fun timeline time => (timeline.update weeklyDifficulties.realm time).isSome = true)
        start times := by
  refine globalResets_onePerPeriod weeklyDifficulties (by decide)
    (fun mapid difficulty length hsome => ?_) (fun _ _ _ _ => rfl) _ _ (by decide) _
    ⟨?_, ?_, trivial⟩
  · rw [(weeklyDifficulties_period hsome).2.2]
    decide
  · intro mapid difficulty length hsome
    obtain ⟨rfl, rfl, rfl⟩ := weeklyDifficulties_period hsome
    decide
  · intro mapid difficulty length hsome
    obtain ⟨rfl, rfl, rfl⟩ := weeklyDifficulties_period hsome
    decide

/-- The update ends, and nothing is due any more. -/
def LeavesNothingDue (realm : Realm) (timeline : Timeline) (now : Nat) : Prop :=
  ∃ last, timeline.update realm now = some last ∧
    ∀ entry ∈ last.1.resetTimeQueue, (now : Int) ≤ entry.1

/-- Whatever the tables hold, every update of a run ends and leaves nothing that is due. -/
theorem updates_leaveNothingDue (difficulties : MapDifficulties) (tables : ResetTables)
    (now : Nat) (times : List Nat)
    (hroom : Along (step difficulties.realm) (Roomy difficulties.realm)
      (load difficulties tables now) times) :
    Along (step difficulties.realm) (LeavesNothingDue difficulties.realm)
      (load difficulties tables now) times := by
  refine along_of_invariant (step difficulties.realm) (fun timeline => timeline.manager.Punctual)
    (fun timeline time hpunctual hspace => ?_) (fun timeline time hpunctual hspace => ?_) _ times
    (InstanceSaveManager.loadResetTimes_punctual difficulties tables now) hroom
  all_goals obtain ⟨last, hlast, hafter, hlater⟩ := update_returns hpunctual hspace
  · unfold Timeline.step
    rw [hlast]
    exact hafter
  · exact ⟨last, hlast, hlater⟩

theorem updates_leaveNothingDue_weekly :
    Along (step weeklyDifficulties.realm) (LeavesNothingDue weeklyDifficulties.realm)
      (load weeklyDifficulties ⟨[⟨7, 249, 3, 1224000⟩], [], [⟨249, 3, 1209600⟩]⟩ 1200000)
      [1300000] := by
  refine updates_leaveNothingDue weeklyDifficulties _ _ _
    ⟨fun _ _ _ hsome => ?_, trivial⟩
  obtain ⟨rfl, rfl, rfl⟩ := weeklyDifficulties_period hsome
  decide

/-- An instance of map 249 with a reset time of its own: the map has two pending events. -/
theorem globalResets_twice :
    ¬∃ first, (load weeklyDifficulties
        { instances := [⟨7, 249, 3, 1224000⟩], respawns := [], resets := [⟨249, 3, 1209600⟩] }
        1200000).OnePerPeriod weeklyDifficulties.realm first := by
  rintro ⟨first, hone⟩
  obtain ⟨count, -, -, hpending⟩ := hone 249 3 604800 (by decide)
  have htwo : ((load weeklyDifficulties
      { instances := [⟨7, 249, 3, 1224000⟩], respawns := [], resets := [⟨249, 3, 1209600⟩] }
      1200000).manager.resetTimeQueue.filter (InstanceSaveManager.globalOf 249 3)).length = 2 := by
    decide
  rw [hpending] at htwo
  cases htwo

end

end Timeline

end MopServer.Instances
