import MopServer.Instances.ResetTimes

/-! # The reset times of a started server

Single instances are meant to be reset two hours after their last respawn, and maps and
difficulties with a period at the hour of the resets, at most one period ahead.
-/

namespace MopServer.Instances

open MopServer.Foundation

namespace InstanceSaveManager

/-- The reset of a single instance waits in the queue. -/
def Scheduled (manager : InstanceSaveManager) (row : InstanceRow) (time : Nat) : Prop :=
  ∃ entry ∈ manager.resetTimeQueue, entry.1 = time ∧ entry.2.type = 0 ∧
    entry.2.mapid = row.map ∧ entry.2.difficulty = row.difficulty ∧
    entry.2.instanceId.toNat = row.id.toNat

/-- Every instance with a reset time and respawns is scheduled for two hours after the last of
them, if that is to come. -/
def InstancesScheduled (tables : ResetTables) (now : Nat) (manager : InstanceSaveManager) :
    Prop :=
  ∀ row ∈ tables.instances, row.resettime ≠ 0 →
    ∀ respawn ∈ tables.respawns, respawn.instanceId = row.id →
      now < respawn.respawnTime.toNat + 7200 →
        manager.Scheduled row (respawn.respawnTime.toNat + 7200)

/-- A map and difficulty has a reset time to come, at the hour of the resets; a new one is at
most one period after that hour of today. -/
structure Current (realm : Realm) (tables : ResetTables) (now : Nat)
    (manager : InstanceSaveManager) (mapid : UInt16) (difficulty : UInt8) (period : Nat) :
    Prop where
  notBefore : now ≤ manager.resetTime mapid difficulty
  onTheHour : manager.resetTime mapid difficulty % day = realm.diff % day
  notFar : (∀ row ∈ tables.resets, row.mapid = mapid → row.difficulty = difficulty →
      row.resettime.toNat < now) →
    manager.resetTime mapid difficulty ≤ midnight now + realm.diff + period

/-- Every map and difficulty with a period has a current reset time. -/
def GlobalsCurrent (realm : Realm) (tables : ResetTables) (now : Nat)
    (manager : InstanceSaveManager) : Prop :=
  ∀ mapid difficulty period, realm.period mapid difficulty = some period →
    manager.Current realm tables now mapid difficulty period

end InstanceSaveManager

/-- The time an instance is scheduled for: only the first respawn is taken into account, and in
32 bits. -/
def ResetTables.loadedTime (tables : ResetTables) (row : InstanceRow) : Nat :=
  match tables.respawns.head? with
  | none => row.resettime.toNat
  | some respawn =>
    if row.id = respawn.instanceId then (respawn.respawnTime + 7200).toNat
    else row.resettime.toNat

/-- The event under which an instance is scheduled on its own. -/
def InstanceRow.resetEvent (row : InstanceRow) : InstResetEvent :=
  ⟨0, row.map, row.difficulty, row.id.toUInt16⟩

/-- When single instances are scheduled as they should be: their ids fit into 16 bits, and they
are the first with respawns or stored with the right time already.  An instance of the same map
and difficulty may stand in for one with the same 16 bits. -/
def RespawnsHandled (tables : ResetTables) (now : Nat) : Prop :=
  ∀ row ∈ tables.resettable, ∀ respawn ∈ tables.respawns, respawn.instanceId = row.id →
    now < respawn.respawnTime.toNat + 7200 →
      row.id.toNat < 2 ^ 16 ∧ ∃ other ∈ tables.resettable,
        other.map = row.map ∧ other.difficulty = row.difficulty ∧
        other.id.toNat % 2 ^ 16 = row.id.toNat ∧
        tables.loadedTime other = respawn.respawnTime.toNat + 7200

section

variable {manager : InstanceSaveManager} {tables : ResetTables} {now : Nat} {realm : Realm}

open InstanceSaveManager

/-! ## Single instances -/

variable {entry : Int × InstResetEvent} (difficulties : MapDifficulties)

theorem mem_instResetTime {entry : InstanceRow × Nat} :
    entry ∈ instResetTime tables ↔
      entry.1 ∈ tables.resettable ∧ entry.2 = tables.loadedTime entry.1 := by
  obtain ⟨row, time⟩ := entry
  have hstored : (row, time) ∈ tables.resettable.map (fun row => (row, row.resettime.toNat)) ↔
      row ∈ tables.resettable ∧ time = row.resettime.toNat := by
    simp only [List.mem_map, Prod.mk.injEq]
    constructor
    · rintro ⟨_, hrow, rfl, rfl⟩
      exact ⟨hrow, rfl⟩
    · rintro ⟨hrow, rfl⟩
      exact ⟨row, hrow, rfl, rfl⟩
  unfold instResetTime ResetTables.loadedTime
  cases tables.respawns with
  | nil => exact hstored
  | cons respawn rest =>
    simp only [List.head?_cons, List.map_map, List.mem_map, Function.comp_apply]
    constructor
    · rintro ⟨other, hother, heq⟩
      split at heq
      next hid =>
        cases heq
        exact ⟨hother, by rw [if_pos hid]⟩
      next hid =>
        cases heq
        exact ⟨hother, by rw [if_neg hid]⟩
    · rintro ⟨hrow, rfl⟩
      refine ⟨row, hrow, ?_⟩
      split <;> rfl

theorem mem_loadInstances :
    entry ∈ (manager.loadInstances tables now).resetTimeQueue ↔
      entry ∈ manager.resetTimeQueue ∨ ∃ row ∈ tables.resettable,
        now < tables.loadedTime row ∧
          entry = ((tables.loadedTime row : Int), row.resetEvent) := by
  have hfold : ∀ (times : List (InstanceRow × Nat)) (manager : InstanceSaveManager),
      entry ∈ (times.foldl (fun manager timed =>
          if now < timed.2 then
            manager.addReset timed.2 timed.1.resetEvent
          else manager) manager).resetTimeQueue ↔
        entry ∈ manager.resetTimeQueue ∨ ∃ timed ∈ times, now < timed.2 ∧
          entry = ((timed.2 : Int), timed.1.resetEvent) := by
    intro times
    induction times with
    | nil => simp
    | cons timed rest ih =>
      intro manager
      rw [List.foldl_cons, ih]
      simp only [List.mem_cons, exists_eq_or_imp]
      split
      next hlater =>
        have hmem : entry ∈ (manager.addReset timed.2 timed.1.resetEvent).resetTimeQueue ↔
            _ := TimedQueue.mem_schedule
        rw [hmem, and_iff_right hlater, or_right_comm]
        exact or_comm
      next hpast => simp [hpast]
  refine (hfold (instResetTime tables) manager).trans (or_congr_right ?_)
  constructor
  · rintro ⟨⟨row, time⟩, htimed, hlater, rfl⟩
    obtain ⟨hrow, htime⟩ := mem_instResetTime.mp htimed
    exact ⟨row, hrow, htime ▸ hlater, by rw [htime]⟩
  · rintro ⟨row, hrow, hlater, rfl⟩
    exact ⟨(row, tables.loadedTime row), mem_instResetTime.mpr ⟨hrow, rfl⟩, hlater, rfl⟩

/-- Maps and difficulties leave the events of single instances. -/
theorem mem_loadGlobal_of_single {key : UInt16 × UInt8} (hsingle : entry.2.type = 0) :
    entry ∈ (manager.loadGlobal realm tables now key).resetTimeQueue ↔
      entry ∈ manager.resetTimeQueue := by
  cases hperiod : realm.period key.1 key.2 with
  | none => rw [loadGlobal_none hperiod]
  | some period =>
    rw [loadGlobal_some key hperiod tables rfl, mem_foldl_addReset]
    refine or_iff_left ?_
    rintro ⟨instanceId, -, rfl⟩
    exact firstType_ne_zero _ _ hsingle

theorem mem_foldl_loadGlobal_of_single (keys : List (UInt16 × UInt8)) (hsingle : entry.2.type = 0) :
    entry ∈ (keys.foldl (loadGlobal realm tables now) manager).resetTimeQueue ↔
      entry ∈ manager.resetTimeQueue := by
  induction keys generalizing manager with
  | nil => exact Iff.rfl
  | cons key rest ih => rw [List.foldl_cons, ih, mem_loadGlobal_of_single hsingle]

theorem mem_loadResetTimes_of_single {difficulties : MapDifficulties} (hsingle : entry.2.type = 0) :
    entry ∈ (loadResetTimes difficulties tables now).resetTimeQueue ↔
      ∃ row ∈ tables.resettable, now < tables.loadedTime row ∧
        entry = ((tables.loadedTime row : Int), row.resetEvent) := by
  unfold loadResetTimes
  rw [mem_foldl_loadGlobal_of_single difficulties.keys hsingle, loadResets_resetTimeQueue,
    mem_loadInstances]
  exact or_iff_right List.not_mem_nil

theorem mem_resettable {row : InstanceRow} :
    row ∈ tables.resettable ↔ row ∈ tables.instances ∧ row.resettime ≠ 0 := by
  unfold ResetTables.resettable
  rw [List.mem_filter, decide_eq_true_iff]

/-- An instance is scheduled for a time to come if its id is narrow enough and some row is
loaded under it with that time. -/
theorem scheduled_iff {difficulties : MapDifficulties} {row : InstanceRow} {time : Nat}
    (hlater : now < time) :
    (loadResetTimes difficulties tables now).Scheduled row time ↔
      row.id.toNat < 2 ^ 16 ∧ ∃ other ∈ tables.resettable,
        other.map = row.map ∧ other.difficulty = row.difficulty ∧
        other.id.toNat % 2 ^ 16 = row.id.toNat ∧ tables.loadedTime other = time := by
  constructor
  · rintro ⟨entry, hentry, htime, hsingle, hmap, hdifficulty, hid⟩
    obtain ⟨other, hother, -, rfl⟩ := (mem_loadResetTimes_of_single hsingle).mp hentry
    dsimp only [InstanceRow.resetEvent] at htime hmap hdifficulty hid
    rw [UInt32.toNat_toUInt16] at hid
    refine ⟨?_, other, hother, hmap, hdifficulty, hid, by exact_mod_cast htime⟩
    rw [← hid]
    exact Nat.mod_lt _ (by decide)
  · rintro ⟨-, other, hother, hmap, hdifficulty, hid, htime⟩
    refine ⟨((tables.loadedTime other : Int), other.resetEvent),
      (mem_loadResetTimes_of_single rfl).mpr ⟨other, hother, htime ▸ hlater, rfl⟩, ?_, rfl, hmap,
      hdifficulty, ?_⟩
    · show ((tables.loadedTime other : Nat) : Int) = time
      rw [htime]
    · show other.id.toUInt16.toNat = _
      rw [UInt32.toNat_toUInt16]
      exact hid

theorem instancesScheduled_iff {difficulties : MapDifficulties} :
    InstancesScheduled tables now (loadResetTimes difficulties tables now) ↔
      RespawnsHandled tables now := by
  unfold InstancesScheduled RespawnsHandled
  simp only [mem_resettable, and_imp]
  refine forall₄_congr fun row _ _ respawn => forall₃_congr fun _ _ hlater => ?_
  rw [scheduled_iff hlater]
  simp only [mem_resettable]

/-! ## Maps and difficulties -/

variable {period : Nat}

theorem lt_midnight_add_day (time : Nat) : time < midnight time + day := by
  unfold midnight day
  omega

theorem midnight_mono {first second : Nat} (hle : first ≤ second) :
    midnight first ≤ midnight second :=
  Nat.mul_le_mul_right day (Nat.div_le_div_right hle)

theorem day_dvd_midnight (time : Nat) : day ∣ midnight time := Nat.dvd_mul_left day _

/-- The next multiple of a period behind some days is at least a day further, and at most a
period. -/
theorem nextPeriod_spec {passed : Nat} (hpassed : day ∣ passed) (hperiod : day ∣ period)
    (hpos : 0 < period) :
    passed + day ≤ (passed / period + 1) * period ∧
      (passed / period + 1) * period ≤ passed + period := by
  have hsplit := Nat.div_add_mod passed period
  have hrest := Nat.mod_lt passed hpos
  rw [Nat.add_mul, Nat.one_mul, Nat.mul_comm (passed / period) period]
  obtain ⟨days, hdays⟩ : day ∣ (period - passed % period) :=
    Nat.dvd_sub hperiod ((Nat.dvd_mod_iff hperiod).mpr hpassed)
  have hdaysPos : 0 < days := by
    by_contra hzero
    rw [Nat.eq_zero_of_not_pos hzero, Nat.mul_zero] at hdays
    omega
  have hday : day ≤ period - passed % period := hdays ▸ Nat.le_mul_of_pos_right day hdaysPos
  omega

variable (now) in
/-- A reset time brought up to date is to come, and on the hour if it was; it is new or at most a
period ahead. -/
theorem currentResetTime_spec {diff resetTime : Nat} (hperiod : day ∣ period) (hpos : 0 < period)
    (haligned : resetTime = 0 ∨ resetTime % day = diff % day) :
    now ≤ currentResetTime diff now period resetTime ∧
      currentResetTime diff now period resetTime % day = diff % day ∧
      (resetTime ≤ midnight now + diff →
        currentResetTime diff now period resetTime ≤ midnight now + diff + period) := by
  have hdayLe : day ≤ period := Nat.le_of_dvd hpos hperiod
  have hnow := lt_midnight_add_day now
  have hmod : ∀ days : Nat, day ∣ days → (days + diff) % day = diff % day := by
    rintro _ ⟨count, rfl⟩
    exact Nat.mul_add_mod day count diff
  unfold currentResetTime
  dsimp only
  split
  next hzero =>
    rw [if_neg (by omega)]
    refine ⟨by omega, ?_, fun _ => by omega⟩
    exact hmod _ (Nat.dvd_add (day_dvd_midnight now) hperiod)
  next hset =>
    have hhour := haligned.resolve_left hset
    split
    next hexpired =>
      have hle : midnight resetTime ≤ midnight now := midnight_mono hexpired.le
      -- the next multiple of the period since the day of the old time
      obtain ⟨hlower, hupper⟩ := nextPeriod_spec
        (Nat.dvd_sub (day_dvd_midnight now) (day_dvd_midnight resetTime)) hperiod hpos
      refine ⟨by omega, ?_, fun _ => by omega⟩
      exact hmod _ (Nat.dvd_add (day_dvd_midnight resetTime) (Nat.dvd_mul_left_of_dvd hperiod _))
    next hcoming => exact ⟨Nat.not_lt.mp hcoming, hhour, fun hle => by omega⟩

variable (manager) (tables) in
/-- What is taken from the table is a row of it at the hour of the resets. -/
theorem loadResets_resetTime (mapid : UInt16) (difficulty : UInt8) :
    (manager.loadResets difficulties tables).resetTime mapid difficulty =
        manager.resetTime mapid difficulty ∨
      ∃ row ∈ tables.resets, row.mapid = mapid ∧ row.difficulty = difficulty ∧
        (manager.loadResets difficulties tables).resetTime mapid difficulty =
          midnight row.resettime.toNat + difficulties.realm.diff := by
  refine List.foldlRecOn (motive := fun after : InstanceSaveManager =>
    after.resetTime mapid difficulty = manager.resetTime mapid difficulty ∨
      ∃ row ∈ tables.resets, row.mapid = mapid ∧ row.difficulty = difficulty ∧
        after.resetTime mapid difficulty =
          midnight row.resettime.toNat + difficulties.realm.diff) _ _ (Or.inl rfl) ?_
  intro after hafter row hrow
  split
  · by_cases hkey : mapid = row.mapid ∧ difficulty = row.difficulty
    · exact Or.inr ⟨row, hrow, hkey.1.symm, hkey.2.symm, if_pos hkey⟩
    · have hsame : (after.setResetTimeFor row.mapid row.difficulty
          (midnight row.resettime.toNat + difficulties.realm.diff)).resetTime mapid difficulty =
            after.resetTime mapid difficulty := if_neg hkey
      rw [hsame]
      exact hafter
  · exact hafter

variable (manager) (tables) (now) in
theorem foldl_loadGlobal_resetTime {keys : List (UInt16 × UInt8)} (hnodup : keys.Nodup)
    {mapid : UInt16} {difficulty : UInt8} (hkey : (mapid, difficulty) ∈ keys)
    (hperiod : realm.period mapid difficulty = some period) :
    (keys.foldl (loadGlobal realm tables now) manager).resetTime mapid difficulty =
      currentResetTime realm.diff now period (manager.resetTime mapid difficulty) := by
  induction keys generalizing manager with
  | nil => cases hkey
  | cons key rest ih =>
    obtain ⟨hnotMem, hrest⟩ := List.nodup_cons.mp hnodup
    rw [List.foldl_cons]
    rcases List.mem_cons.mp hkey with rfl | hlater
    · -- the keys behind this one leave its time alone
      have hothers : ∀ (others : List (UInt16 × UInt8)) (manager : InstanceSaveManager),
          (mapid, difficulty) ∉ others →
            (others.foldl (loadGlobal realm tables now) manager).resetTime mapid difficulty =
              manager.resetTime mapid difficulty := by
        intro others
        induction others with
        | nil => exact fun _ _ => rfl
        | cons other others ih =>
          intro manager hmem
          rw [List.mem_cons, not_or] at hmem
          rw [List.foldl_cons, ih _ hmem.2, (loadGlobal_other _ now realm hmem.1 tables).1]
      rw [hothers rest _ hnotMem, loadGlobal_some (mapid, difficulty) hperiod tables rfl,
        foldl_addReset_resetTime]
      exact if_pos ⟨rfl, rfl⟩
    · rw [ih _ hrest hlater]
      have hne : (mapid, difficulty) ≠ key := fun heq => hnotMem (heq ▸ hlater)
      rw [(loadGlobal_other manager now realm hne tables).1]

theorem globalsCurrent (hperiods : ∀ mapid difficulty period,
      difficulties.realm.period mapid difficulty = some period → day ∣ period)
    (tables : ResetTables) (now : Nat) :
    GlobalsCurrent difficulties.realm tables now (loadResetTimes difficulties tables now) := by
  intro mapid difficulty period hperiod
  have hkey := difficulties.complete mapid difficulty (Option.isSome_of_mem hperiod)
  have hpos : 0 < period :=
    (show 0 < day by decide).trans_le (difficulties.realm.day_le _ _ _ hperiod)
  unfold loadResetTimes
  dsimp only
  generalize hmanager : InstanceSaveManager.loadInstances tables now
    { resetTimeQueue := [], resetTime := fun _ _ => 0 } = manager
  have hempty : manager.resetTime mapid difficulty = 0 := by
    rw [← hmanager, loadInstances_resetTime]
  have hstored := loadResets_resetTime manager tables difficulties mapid difficulty
  rw [hempty] at hstored
  have hfinal := foldl_loadGlobal_resetTime (manager.loadResets difficulties tables) tables now
    difficulties.nodup hkey hperiod
  generalize (manager.loadResets difficulties tables).resetTime mapid difficulty = resetTime
    at hstored hfinal
  have haligned : resetTime = 0 ∨ resetTime % day = difficulties.realm.diff % day := by
    rcases hstored with hzero | ⟨row, -, -, -, rfl⟩
    · exact Or.inl hzero
    · obtain ⟨days, hdays⟩ := day_dvd_midnight row.resettime.toNat
      rw [hdays]
      exact Or.inr (Nat.mul_add_mod day days _)
  obtain ⟨hcoming, hhour, hnear⟩ := currentResetTime_spec now (hperiods _ _ _ hperiod) hpos haligned
  refine ⟨hfinal ▸ hcoming, hfinal ▸ hhour, fun hexpired => hfinal ▸ hnear ?_⟩
  -- a stored time that has expired is not ahead of today's
  rcases hstored with rfl | ⟨row, hrow, hmap, hdifficulty, rfl⟩
  · exact Nat.zero_le _
  · exact Nat.add_le_add_right (midnight_mono (hexpired row hrow hmap hdifficulty).le) _

/-- After the start every map and difficulty has a current reset time; single instances are
scheduled as they should be exactly if their respawns are handled. -/
theorem loadResetTimes_iff (difficulties : MapDifficulties)
    (hperiods : ∀ mapid difficulty period,
      difficulties.realm.period mapid difficulty = some period → day ∣ period)
    (tables : ResetTables) (now : Nat) :
    InstancesScheduled tables now (loadResetTimes difficulties tables now) ∧
        GlobalsCurrent difficulties.realm tables now (loadResetTimes difficulties tables now) ↔
      RespawnsHandled tables now :=
  (and_iff_left (globalsCurrent difficulties hperiods tables now)).trans instancesScheduled_iff

end

/-- Maps without reset periods. -/
def unscheduled : MapDifficulties where
  realm := ⟨fun _ => true, fun _ _ => none, 4, fun _ _ _ hnone => nomatch hnone⟩
  keys := []
  nodup := List.nodup_nil
  complete := fun _ _ hsome => nomatch hsome

def twoInstances : ResetTables where
  instances := [⟨1, 36, 1, 5000⟩, ⟨2, 36, 1, 5000⟩]
  respawns := [⟨10000, 1⟩, ⟨20000, 2⟩]
  resets := []

/-- An instance of a map with a creature that respawns later. -/
def oneInstance : ResetTables where
  instances := [⟨1, 36, 1, 5000⟩]
  respawns := [⟨10000, 1⟩]
  resets := []

open InstanceSaveManager in
/-- The second of two instances keeps its old time although its creatures respawn later. -/
theorem not_loadResetTimes :
    ¬ ∀ (difficulties : MapDifficulties), (∀ mapid difficulty period,
        difficulties.realm.period mapid difficulty = some period → day ∣ period) →
      ∀ (tables : ResetTables) (now : Nat),
        InstancesScheduled tables now (loadResetTimes difficulties tables now) ∧
          GlobalsCurrent difficulties.realm tables now
            (loadResetTimes difficulties tables now) := by
  intro hall
  have hscheduled := (hall unscheduled (fun _ _ _ hnone => nomatch hnone) twoInstances 6000).1
  have hsecond := hscheduled ⟨2, 36, 1, 5000⟩ (by decide) (by decide) ⟨20000, 2⟩ (by decide) rfl
    (by decide)
  obtain ⟨-, other, hother, -, -, -, htime⟩ := (scheduled_iff (by decide)).mp hsecond
  have hnone : ∀ other ∈ twoInstances.resettable, twoInstances.loadedTime other ≠ 27200 := by
    decide
  exact hnone other hother htime

open InstanceSaveManager in
/-- An instance that has respawned once, and nothing else. -/
theorem loadResetTimes_one :
    InstancesScheduled oneInstance 6000 (loadResetTimes unscheduled oneInstance 6000) ∧
      GlobalsCurrent unscheduled.realm oneInstance 6000
        (loadResetTimes unscheduled oneInstance 6000) := by
  refine (loadResetTimes_iff unscheduled (fun _ _ _ hnone => nomatch hnone) _ _).mpr ?_
  intro row hrow respawn hrespawn _ _
  obtain rfl := List.mem_singleton.mp hrow
  obtain rfl := List.mem_singleton.mp hrespawn
  exact ⟨by decide, _, hrow, rfl, rfl, by decide, by decide⟩

end MopServer.Instances
