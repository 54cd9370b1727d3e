import MopServer.Instances.ResetUpdate
import Mathlib.Tactic.Ring

/-! # Loading the reset times

At the start of the server the reset times are read from the tables `instance`, `creature_respawn`
and `instance_reset`, brought up to date and scheduled.
-/

namespace MopServer.Instances

open MopServer.Foundation

/-- A row of `instance`. -/
structure InstanceRow where
  id : UInt32
  map : UInt16
  difficulty : UInt8
  resettime : UInt32
  deriving DecidableEq, Repr

/-- The last respawn of an instance in `creature_respawn`. -/
structure RespawnRow where
  respawnTime : UInt32
  instanceId : UInt32
  deriving DecidableEq, Repr

/-- A row of `instance_reset`. -/
structure ResetRow where
  mapid : UInt16
  difficulty : UInt8
  resettime : UInt32
  deriving DecidableEq, Repr

/-- The tables, with the rows of `instance` in ascending order of the id. -/
structure ResetTables where
  instances : List InstanceRow
  respawns : List RespawnRow
  resets : List ResetRow

/-- `sMapDifficultyMap`: the maps and difficulties, with and without a reset period. -/
structure MapDifficulties where
  realm : Realm
  keys : List (UInt16 × UInt8)
  nodup : keys.Nodup
  complete : ∀ mapid difficulty, (realm.period mapid difficulty).isSome = true →
    (mapid, difficulty) ∈ keys

variable (tables : ResetTables)

/-- The rows of `instance` with a reset time. -/
def ResetTables.resettable : List InstanceRow :=
  tables.instances.filter fun row => row.resettime ≠ 0

/-- `instResetTime`: reset times of instances, moved to two hours after their last respawn.  The
loop over the respawns asks the exhausted result of the instances for its next row, and so ends
after the first. -/
def instResetTime : List (InstanceRow × Nat) :=
  let times := tables.resettable.map fun row => (row, row.resettime.toNat)
  match tables.respawns with
  | [] => times
  | respawn :: _ =>
    times.map fun entry =>
      if entry.1.id = respawn.instanceId then (entry.1, (respawn.respawnTime + 7200).toNat)
      else entry

/-- The instance ids under which a map and difficulty is scheduled: once for the map and once more
for every instance of it with a reset time. -/
def eventIds (key : UInt16 × UInt8) : List UInt16 :=
  0 :: (tables.resettable.filter fun row => row.map = key.1 && row.difficulty = key.2).map
    fun row => row.id.toUInt16

/-- `today`. -/
def midnight (time : Nat) : Nat := time / day * day

/-- The type of the first event that is still to come: a warning, or else the reset. -/
def firstType (now resetTime : Nat) : Fin 5 :=
  if now < (resetTime : Int) - resetTimeDelay 1 then 1
  else if now < (resetTime : Int) - resetTimeDelay 2 then 2
  else if now < (resetTime : Int) - resetTimeDelay 3 then 3
  else 4

/-- A reset time of a map and difficulty for the time after the start: a new one where there is
none, and the next one where it has expired. -/
def currentResetTime (diff now period resetTime : Nat) : Nat :=
  let time := if resetTime = 0 then midnight now + period + diff else resetTime
  if time < now then
    midnight time + ((midnight now - midnight time) / period + 1) * period + diff
  else time

namespace InstanceSaveManager

/-- Schedule the resets of single instances that are to come. -/
def loadInstances (tables : ResetTables) (now : Nat) (manager : InstanceSaveManager) :
    InstanceSaveManager :=
  (instResetTime tables).foldl
    (fun manager entry =>
      if now < entry.2 then
        manager.addReset entry.2
          { type := 0, mapid := entry.1.map, difficulty := entry.1.difficulty
            instanceId := entry.1.id.toUInt16 }
      else manager)
    manager

variable (difficulties : MapDifficulties)

/-- Take the reset times of maps and difficulties from the table, at the hour of the resets. -/
def loadResets (tables : ResetTables) (manager : InstanceSaveManager) : InstanceSaveManager :=
  tables.resets.foldl
    (fun manager row =>
      if (row.mapid, row.difficulty) ∈ difficulties.keys then
        manager.setResetTimeFor row.mapid row.difficulty
          (midnight row.resettime.toNat + difficulties.realm.diff)
      else manager)
    manager

/-- Bring the reset time of a map and difficulty up to date and schedule the warning or reset that
is next. -/
def loadGlobal (realm : Realm) (tables : ResetTables) (now : Nat) (manager : InstanceSaveManager)
    (key : UInt16 × UInt8) : InstanceSaveManager :=
  match realm.period key.1 key.2 with
  | none => manager
  | some period =>
    let resetTime := currentResetTime realm.diff now period (manager.resetTime key.1 key.2)
    let type := firstType now resetTime
    (eventIds tables key).foldl
      (fun manager instanceId =>
        manager.addReset (resetTime - resetTimeDelay type)
          { type := type, mapid := key.1, difficulty := key.2, instanceId := instanceId })
      (manager.setResetTimeFor key.1 key.2 resetTime)

/-- `LoadResetTimes`. -/
def loadResetTimes (tables : ResetTables) (now : Nat) : InstanceSaveManager :=
  let empty : InstanceSaveManager := { resetTimeQueue := [], resetTime := fun _ _ => 0 }
  difficulties.keys.foldl (loadGlobal difficulties.realm tables now)
    ((empty.loadInstances tables now).loadResets difficulties tables)

section

variable {manager : InstanceSaveManager} {now : Nat} {Row : Type}

theorem Punctual.addReset (hpunctual : manager.Punctual) {time : Int} {event : InstResetEvent}
    (htime : event.type ≠ 0 →
      time + resetTimeDelay event.type ≤ manager.getResetTimeFor event) :
    (manager.addReset time event).Punctual := by
  refine ⟨hpunctual.ordered.schedule _ _, fun entry hentry htype => ?_⟩
  rcases TimedQueue.mem_schedule.mp hentry with rfl | hold
  · exact htime htype
  · exact hpunctual.inTime entry hold htype

variable (time : Row → Int) (event : Row → InstResetEvent) (rows : List Row)

/-- Scheduling leaves the stored reset times. -/
theorem foldl_addReset_resetTime (manager : InstanceSaveManager) :
    (rows.foldl (fun manager row => manager.addReset (time row) (event row)) manager).resetTime =
      manager.resetTime := by
  induction rows generalizing manager with
  | nil => rfl
  | cons row rest ih => exact ih (manager.addReset (time row) (event row))

theorem Punctual.foldl_addReset (hpunctual : manager.Punctual)
    (htime : ∀ row ∈ rows, (event row).type ≠ 0 →
      time row + resetTimeDelay (event row).type ≤ manager.getResetTimeFor (event row)) :
    (rows.foldl (fun manager row => manager.addReset (time row) (event row)) manager).Punctual := by
  induction rows generalizing manager with
  | nil => exact hpunctual
  | cons row rest ih =>
    refine ih (hpunctual.addReset (htime row List.mem_cons_self)) fun other hother => ?_
    exact htime other (List.mem_cons_of_mem _ hother)

theorem mem_foldl_addReset (manager : InstanceSaveManager) (entry : Int × InstResetEvent) :
    entry ∈ (rows.foldl (fun manager row => manager.addReset (time row) (event row))
        manager).resetTimeQueue ↔
      entry ∈ manager.resetTimeQueue ∨ ∃ row ∈ rows, entry = (time row, event row) := by
  induction rows generalizing manager with
  | nil => simp
  | cons row rest ih =>
    rw [List.foldl_cons, ih]
    show entry ∈ TimedQueue.schedule manager.resetTimeQueue (time row) (event row) ∨ _ ↔ _
    rw [TimedQueue.mem_schedule]
    simp only [List.mem_cons, exists_eq_or_imp]
    tauto

/-! ## The reset times of single instances -/

variable (tables : ResetTables)

theorem loadInstances_resetTime :
    (manager.loadInstances tables now).resetTime = manager.resetTime := by
  refine List.foldlRecOn (motive := fun after : InstanceSaveManager =>
    after.resetTime = manager.resetTime) _ _ rfl ?_
  intro after hafter entry _
  split
  · exact hafter
  · exact hafter

/-- Only single instances are scheduled, and they keep the queue in order. -/
theorem loadInstances_punctual (now : Nat) (hpunctual : manager.Punctual)
    (hsingle : ∀ entry ∈ manager.resetTimeQueue, entry.2.type = 0) :
    (manager.loadInstances tables now).Punctual ∧
      ∀ entry ∈ (manager.loadInstances tables now).resetTimeQueue, entry.2.type = 0 := by
  refine List.foldlRecOn (motive := fun after : InstanceSaveManager => after.Punctual ∧
    ∀ entry ∈ after.resetTimeQueue, entry.2.type = 0) _ _ ⟨hpunctual, hsingle⟩ ?_
  rintro after ⟨hafter, hzero⟩ entry -
  split
  · refine ⟨hafter.addReset fun htype => absurd rfl htype, fun other hother => ?_⟩
    rcases TimedQueue.mem_schedule.mp hother with rfl | hold
    · rfl
    · exact hzero other hold
  · exact ⟨hafter, hzero⟩

/-! ## The stored reset times -/

variable {diff : Nat} {mapid : UInt16} {difficulty : UInt8} {difficulties : MapDifficulties}

/-- The reset times are at the hour of the resets. -/
def Aligned (diff : Nat) (manager : InstanceSaveManager) : Prop :=
  ∀ mapid difficulty, manager.resetTime mapid difficulty = 0 ∨
    manager.resetTime mapid difficulty % day = diff

theorem midnight_add_mod (hdiff : diff < day) (time : Nat) :
    (midnight time + diff) % day = diff := by
  unfold midnight
  rw [Nat.mul_comm, Nat.mul_add_mod, Nat.mod_eq_of_lt hdiff]

theorem Aligned.setResetTimeFor (haligned : manager.Aligned diff) {time : Nat}
    (htime : time % day = diff) : (manager.setResetTimeFor mapid difficulty time).Aligned diff := by
  intro otherMap otherDifficulty
  unfold InstanceSaveManager.setResetTimeFor
  dsimp only
  split
  · exact Or.inr htime
  · exact haligned otherMap otherDifficulty

theorem loadResets_resetTimeQueue (tables : ResetTables) :
    (manager.loadResets difficulties tables).resetTimeQueue = manager.resetTimeQueue := by
  refine List.foldlRecOn (motive := fun after : InstanceSaveManager =>
    after.resetTimeQueue = manager.resetTimeQueue) _ _ rfl ?_
  intro after hqueue row _
  split
  · exact hqueue
  · exact hqueue

theorem Aligned.loadResets (hdiff : difficulties.realm.diff < day)
    (haligned : manager.Aligned difficulties.realm.diff) (tables : ResetTables) :
    (manager.loadResets difficulties tables).Aligned difficulties.realm.diff := by
  refine List.foldlRecOn (motive := fun after : InstanceSaveManager =>
    after.Aligned difficulties.realm.diff) _ _ haligned ?_
  intro after hafter row _
  split
  · exact hafter.setResetTimeFor (midnight_add_mod hdiff _)
  · exact hafter

theorem currentResetTime_mod {period resetTime : Nat} (hdiff : diff < day) (hperiod : day ∣ period)
    (haligned : resetTime = 0 ∨ resetTime % day = diff) :
    currentResetTime diff now period resetTime % day = diff := by
  obtain ⟨days, rfl⟩ := hperiod
  have hshift : ∀ time count : Nat, (midnight time + count * (day * days) + diff) % day = diff := by
    intro time count
    have hsum : midnight time + count * (day * days) + diff =
        day * (time / day + count * days) + diff := by
      unfold midnight
      ring
    rw [hsum, Nat.mul_add_mod, Nat.mod_eq_of_lt hdiff]
  unfold currentResetTime
  have htime : (if resetTime = 0 then midnight now + day * days + diff else resetTime) % day =
      diff := by
    split
    · have hone := hshift now 1
      rwa [Nat.one_mul] at hone
    next hset => exact haligned.resolve_left hset
  dsimp only
  generalize (if resetTime = 0 then midnight now + day * days + diff else resetTime) = time
    at htime ⊢
  split
  · exact hshift _ _
  · exact htime

/-! ## The events of maps and difficulties -/

variable {entry : Int × InstResetEvent} {key : UInt16 × UInt8} {realm : Realm}

def globalOf (mapid : UInt16) (difficulty : UInt8) (entry : Int × InstResetEvent) : Bool :=
  entry.2.type ≠ 0 && entry.2.mapid = mapid && entry.2.difficulty = difficulty

theorem globalOf_iff :
    globalOf mapid difficulty entry = true ↔
      entry.2.type ≠ 0 ∧ entry.2.mapid = mapid ∧ entry.2.difficulty = difficulty := by
  unfold globalOf
  simp [and_assoc]

theorem firstType_ne_zero (now resetTime : Nat) : firstType now resetTime ≠ 0 := by
  unfold firstType
  split
  · decide
  · split
    · decide
    · split <;> decide

theorem loadGlobal_none (hnone : realm.period key.1 key.2 = none) (tables : ResetTables) :
    manager.loadGlobal realm tables now key = manager := by
  unfold loadGlobal
  rw [hnone]

theorem loadGlobal_some (key : UInt16 × UInt8) {period resetTime : Nat}
    (hsome : realm.period key.1 key.2 = some period) (tables : ResetTables)
    (hresetTime : resetTime =
      currentResetTime realm.diff now period (manager.resetTime key.1 key.2)) :
    manager.loadGlobal realm tables now key =
      (eventIds tables key).foldl
        (fun manager instanceId =>
          manager.addReset (resetTime - resetTimeDelay (firstType now resetTime))
            ⟨firstType now resetTime, key.1, key.2, instanceId⟩)
        (manager.setResetTimeFor key.1 key.2 resetTime) := by
  subst hresetTime
  unfold loadGlobal
  rw [hsome]

/-- A map and difficulty is scheduled on its own: what is stored and queued for others stays. -/
theorem loadGlobal_other (manager : InstanceSaveManager) (now : Nat) (realm : Realm)
    (hother : (mapid, difficulty) ≠ key) (tables : ResetTables) :
    (manager.loadGlobal realm tables now key).resetTime mapid difficulty =
        manager.resetTime mapid difficulty ∧
      (manager.loadGlobal realm tables now key).resetTimeQueue.filter (globalOf mapid difficulty) =
        manager.resetTimeQueue.filter (globalOf mapid difficulty) := by
  cases hperiod : realm.period key.1 key.2 with
  | none => rw [loadGlobal_none hperiod]; exact ⟨rfl, rfl⟩
  | some period =>
    rw [loadGlobal_some key hperiod tables rfl]
    refine List.foldlRecOn (motive := fun after : InstanceSaveManager =>
      after.resetTime mapid difficulty = manager.resetTime mapid difficulty ∧
        after.resetTimeQueue.filter (globalOf mapid difficulty) =
          manager.resetTimeQueue.filter (globalOf mapid difficulty)) _ _ ⟨?_, rfl⟩ ?_
    · exact if_neg fun hsame => hother (Prod.ext hsame.1 hsame.2)
    · rintro after ⟨htime, hqueue⟩ instanceId -
      refine ⟨htime, (TimedQueue.filter_schedule_of_not ?_).trans hqueue⟩
      rw [Bool.eq_false_iff, ne_eq, globalOf_iff]
      rintro ⟨-, hmap, hdifficulty⟩
      exact hother (Prod.ext hmap.symm hdifficulty.symm)

/-- The events of a map and difficulty are in time where it had none before. -/
theorem loadGlobal_punctual (hpunctual : manager.Punctual)
    (hfresh : ∀ entry ∈ manager.resetTimeQueue, entry.2.type ≠ 0 →
      (entry.2.mapid, entry.2.difficulty) ≠ key) (tables : ResetTables) :
    (manager.loadGlobal realm tables now key).Punctual := by
  cases hperiod : realm.period key.1 key.2 with
  | none => rw [loadGlobal_none hperiod]; exact hpunctual
  | some period =>
    rw [loadGlobal_some key hperiod tables rfl]
    have hset : (manager.setResetTimeFor key.1 key.2 (currentResetTime realm.diff now period
        (manager.resetTime key.1 key.2))).Punctual := by
      refine ⟨hpunctual.ordered, fun entry hentry htype => ?_⟩
      rw [getResetTimeFor_setResetTimeFor, if_neg fun hsame =>
        hfresh entry hentry htype (Prod.ext hsame.1 hsame.2)]
      exact hpunctual.inTime entry hentry htype
    refine hset.foldl_addReset _ _ _ fun instanceId _ _ => ?_
    rw [getResetTimeFor_setResetTimeFor, if_pos ⟨rfl, rfl⟩]
    exact (Int.sub_add_cancel _ _).le

/-- Every global event is of a map and difficulty that has been scheduled. -/
theorem mem_loadGlobal {tables : ResetTables}
    (hentry : entry ∈ (manager.loadGlobal realm tables now key).resetTimeQueue) :
    entry ∈ manager.resetTimeQueue ∨
      (entry.2.mapid, entry.2.difficulty) = key ∧ (realm.period key.1 key.2).isSome = true := by
  cases hperiod : realm.period key.1 key.2 with
  | none =>
    rw [loadGlobal_none hperiod] at hentry
    exact Or.inl hentry
  | some period =>
    rw [loadGlobal_some key hperiod tables rfl] at hentry
    rcases (mem_foldl_addReset _ _ _ _ _).mp hentry with hold | ⟨instanceId, -, rfl⟩
    · exact Or.inl hold
    · exact Or.inr ⟨rfl, rfl⟩

/-- The maps and difficulties that are still to be scheduled have no events. -/
theorem loadGlobal_fresh {rest : List (UInt16 × UInt8)} (hnotMem : key ∉ rest)
    (hfresh : ∀ entry ∈ manager.resetTimeQueue, entry.2.type ≠ 0 →
      (entry.2.mapid, entry.2.difficulty) ∉ key :: rest) (tables : ResetTables) :
    ∀ entry ∈ (manager.loadGlobal realm tables now key).resetTimeQueue, entry.2.type ≠ 0 →
      (entry.2.mapid, entry.2.difficulty) ∉ rest := by
  intro entry hentry htype hmem
  rcases mem_loadGlobal hentry with hold | ⟨heq, -⟩
  · exact hfresh entry hold htype (List.mem_cons_of_mem _ hmem)
  · exact hnotMem (heq ▸ hmem)

theorem foldl_loadGlobal_punctual (keys : List (UInt16 × UInt8)) (hnodup : keys.Nodup)
    (hpunctual : manager.Punctual) (hfresh : ∀ entry ∈ manager.resetTimeQueue, entry.2.type ≠ 0 →
      (entry.2.mapid, entry.2.difficulty) ∉ keys) :
    (keys.foldl (loadGlobal realm tables now) manager).Punctual := by
  induction keys generalizing manager with
  | nil => exact hpunctual
  | cons key rest ih =>
    obtain ⟨hnotMem, hrest⟩ := List.nodup_cons.mp hnodup
    refine ih hrest (loadGlobal_punctual hpunctual (fun entry hentry htype heq => ?_) tables)
      (loadGlobal_fresh hnotMem hfresh tables)
    exact hfresh entry hentry htype (heq ▸ List.mem_cons_self)

/-! ## After the start -/

/-- Before maps and difficulties are scheduled: the queue holds single instances alone. -/
theorem loaded_before (difficulties : MapDifficulties) (tables : ResetTables) (now : Nat) :
    let empty : InstanceSaveManager := { resetTimeQueue := [], resetTime := fun _ _ => 0 }
    let before := (empty.loadInstances tables now).loadResets difficulties tables
    before.Punctual ∧ ∀ entry ∈ before.resetTimeQueue, entry.2.type = 0 := by
  intro empty before
  have hempty : empty.Punctual :=
    ⟨List.Pairwise.nil, fun entry hentry => absurd hentry List.not_mem_nil⟩
  obtain ⟨hpunctual, hsingle⟩ := loadInstances_punctual tables now hempty
    fun entry hentry => absurd hentry List.not_mem_nil
  have hqueue : before.resetTimeQueue = _ := loadResets_resetTimeQueue tables
  have hzero : ∀ entry ∈ before.resetTimeQueue, entry.2.type = 0 := fun entry hentry =>
    hsingle entry (hqueue ▸ hentry)
  refine ⟨⟨?_, fun entry hentry htype => absurd (hzero entry hentry) htype⟩, hzero⟩
  rw [hqueue]
  exact hpunctual.ordered

theorem aligned_before (hdiff : difficulties.realm.diff < day) (tables : ResetTables) (now : Nat) :
    let empty : InstanceSaveManager := { resetTimeQueue := [], resetTime := fun _ _ => 0 }
    ((empty.loadInstances tables now).loadResets difficulties tables).Aligned
      difficulties.realm.diff := by
  apply Aligned.loadResets hdiff
  intro mapid difficulty
  rw [loadInstances_resetTime]
  exact Or.inl rfl

/-- Whatever the tables hold, the queue of a started server is in order and in time. -/
theorem loadResetTimes_punctual (difficulties : MapDifficulties) (tables : ResetTables)
    (now : Nat) : (loadResetTimes difficulties tables now).Punctual := by
  obtain ⟨hpunctual, hsingle⟩ := loaded_before difficulties tables now
  exact foldl_loadGlobal_punctual tables difficulties.keys difficulties.nodup hpunctual
    fun entry hentry htype => absurd (hsingle entry hentry) htype

end

end InstanceSaveManager

end MopServer.Instances
