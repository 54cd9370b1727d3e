import MopServer.DungeonFinder.GroupRoles
import MopServer.DungeonFinder.WaitTimes

/-! # The roles that an entry of the queue still needs

What a dungeon needs is counted down in bytes, once for each player, whether or not it needs the
role that the player is counted as.
-/

namespace MopServer.DungeonFinder

open MopServer.Foundation

/-- `LFGDungeonEntry`. -/
structure LFGDungeonEntry where
  tankNeeded : UInt32
  healerNeeded : UInt32
  dpsNeeded : UInt32
  category : LfgCategory

/-- What a queue info still needs. -/
structure QueueCounters where
  tanks : UInt8
  healers : UInt8
  dps : UInt8
  deriving DecidableEq

namespace QueueCounters

/-- `LfgQueueInfo::LfgQueueInfo`, and then what the dungeon needs. -/
def ofEntry : Option LFGDungeonEntry → QueueCounters
  | none => ⟨1, 1, 3⟩
  | some entry => ⟨entry.tankNeeded.toUInt8, entry.healerNeeded.toUInt8, entry.dpsNeeded.toUInt8⟩

/-- A player is counted as one of his roles. -/
def take (counters : QueueCounters) (roles : UInt8) : QueueCounters :=
  if roles &&& roleTank ≠ 0 then { counters with tanks := counters.tanks - 1 }
  else if roles &&& roleHealer ≠ 0 then { counters with healers := counters.healers - 1 }
  else { counters with dps := counters.dps - 1 }

/-- `Join` of a player who is in no group. -/
def join (entry : Option LFGDungeonEntry) (roles : UInt8) : QueueCounters :=
  (ofEntry entry).take roles

/-- `UpdateRoleCheck`, once all members have chosen: nothing if they do not fit together. -/
def updateRoleCheck (test : Bool) (entry : LFGDungeonEntry) (roles : List LfgRole) :
    Option QueueCounters :=
  (checkGroupRoles (rolesNeeded test entry.category) roles).map fun checkRoles =>
    (checkRoles.map LfgRole.roles).foldl take (ofEntry (some entry))

end QueueCounters

def counted (roles : List UInt8) : RoleCounts where
  tank := roles.countP fun roles => roles &&& roleTank ≠ 0
  healer := roles.countP fun roles => roles &&& roleTank = 0 ∧ roles &&& roleHealer ≠ 0
  damage := roles.countP fun roles => roles &&& roleTank = 0 ∧ roles &&& roleHealer = 0

/-- What the dungeon needs. -/
def maxima : Option LFGDungeonEntry → RoleCounts
  | none => ⟨1, 1, 3⟩
  | some entry => ⟨entry.tankNeeded.toNat, entry.healerNeeded.toNat, entry.dpsNeeded.toNat⟩

/-- The dungeon needs those who are counted as a role, and not so many more that a byte is too
small. -/
def Needs (needed count : Nat) : Prop := count ≤ needed ∧ needed < count + 256

variable (entry : Option LFGDungeonEntry)

/-- The dungeon needs the players as what they are counted as. -/
def NeedsAll (roles : List UInt8) : Prop :=
  Needs (maxima entry).tank (counted roles).tank ∧
    Needs (maxima entry).healer (counted roles).healer ∧
    Needs (maxima entry).damage (counted roles).damage

/-- The counters are what the dungeon needs, less the players that are counted as each role. -/
def Remaining (roles : List UInt8) (counters : QueueCounters) : Prop :=
  counters.tanks.toNat + (counted roles).tank = (maxima entry).tank ∧
    counters.healers.toNat + (counted roles).healer = (maxima entry).healer ∧
    counters.dps.toNat + (counted roles).damage = (maxima entry).damage

theorem counted_cons (first : UInt8) (rest : List UInt8) :
    counted (first :: rest) =
      if first &&& roleTank ≠ 0 then { counted rest with tank := (counted rest).tank + 1 }
      else if first &&& roleHealer ≠ 0 then
        { counted rest with healer := (counted rest).healer + 1 }
      else { counted rest with damage := (counted rest).damage + 1 } := by
  by_cases htank : first &&& roleTank = 0
  · by_cases hhealer : first &&& roleHealer = 0
    · simp [counted, htank, hhealer]
    · simp [counted, htank, hhealer]
  · simp [counted, htank]

theorem toNat_sub_one (counter : UInt8) :
    ((counter - 1).toNat + 1) % 256 = counter.toNat % 256 := by
  rw [UInt8.toNat_sub, UInt8.toNat_one]
  omega

namespace QueueCounters

variable {roles checkRoles : List LfgRole} (entry : Option LFGDungeonEntry)

theorem foldl_take (counters : QueueCounters) (roles : List UInt8) :
    ((roles.foldl take counters).tanks.toNat + (counted roles).tank) % 256 =
        counters.tanks.toNat % 256 ∧
      ((roles.foldl take counters).healers.toNat + (counted roles).healer) % 256 =
        counters.healers.toNat % 256 ∧
      ((roles.foldl take counters).dps.toNat + (counted roles).damage) % 256 =
        counters.dps.toNat % 256 := by
  induction roles generalizing counters with
  | nil => exact ⟨rfl, rfl, rfl⟩
  | cons first rest ih =>
    have hrest := ih (counters.take first)
    rw [List.foldl_cons, counted_cons]
    unfold take at hrest ⊢
    split at hrest
    next htank =>
      rw [if_pos htank, if_pos htank]
      have hone := toNat_sub_one counters.tanks
      refine ⟨?_, hrest.2⟩
      have htanks := hrest.1
      dsimp only at htanks hone ⊢
      omega
    next htank =>
      rw [if_neg htank, if_neg htank]
      split at hrest
      next hhealer =>
        rw [if_pos hhealer, if_pos hhealer]
        have hone := toNat_sub_one counters.healers
        refine ⟨hrest.1, ?_, hrest.2.2⟩
        have hhealers := hrest.2.1
        dsimp only at hhealers hone ⊢
        omega
      next hhealer =>
        rw [if_neg hhealer, if_neg hhealer]
        have hone := toNat_sub_one counters.dps
        refine ⟨hrest.1, hrest.2.1, ?_⟩
        have hdps := hrest.2.2
        dsimp only at hdps hone ⊢
        omega

theorem ofEntry_toNat :
    (ofEntry entry).tanks.toNat = (maxima entry).tank % 256 ∧
      (ofEntry entry).healers.toNat = (maxima entry).healer % 256 ∧
      (ofEntry entry).dps.toNat = (maxima entry).damage % 256 := by
  cases entry with
  | none => exact ⟨rfl, rfl, rfl⟩
  | some entry => exact ⟨rfl, rfl, rfl⟩

/-- The counters are right exactly if the dungeon needs everybody. -/
theorem remaining_iff (roles : List UInt8) :
    Remaining entry roles (roles.foldl take (ofEntry entry)) ↔ NeedsAll entry roles := by
  obtain ⟨htanks, hhealers, hdps⟩ := foldl_take (ofEntry entry) roles
  obtain ⟨htank, hhealer, hdamage⟩ := ofEntry_toNat entry
  rw [htank] at htanks
  rw [hhealer] at hhealers
  rw [hdamage] at hdps
  have hbyte {counter : UInt8} {count needed : Nat}
      (hcount : (counter.toNat + count) % 256 = needed % 256 % 256) :
      counter.toNat + count = needed ↔ Needs needed count := by
    have hlt := counter.toNat_lt
    unfold Needs
    omega
  exact and_congr (hbyte htanks) (and_congr (hbyte hhealers) (hbyte hdps))

theorem counted_of_assigns {needed : RoleCounts} (hassigns : Assigns needed roles checkRoles) :
    (counted (checkRoles.map LfgRole.roles)).tank ≤ needed.tank ∧
      (counted (checkRoles.map LfgRole.roles)).healer ≤ needed.healer ∧
      (counted (checkRoles.map LfgRole.roles)).damage ≤ needed.damage := by
  have hcount (role : UInt8) {counts : UInt8 → Bool}
      (hsame : ∀ other, IsRole other → (counts other = true ↔ other = role)) :
      (checkRoles.map LfgRole.roles).countP counts =
        checkRoles.countP fun player => player.roles = role := by
    rw [List.countP_map]
    apply List.countP_congr
    intro player hplayer
    rw [decide_eq_true_eq]
    exact hsame player.roles (hassigns.one player hplayer)
  refine ⟨?_, ?_, ?_⟩
  · refine (hcount roleTank ?_).le.trans hassigns.tank
    rintro _ (rfl | rfl | rfl) <;> decide
  · refine (hcount roleHealer ?_).le.trans hassigns.healer
    rintro _ (rfl | rfl | rfl) <;> decide
  · refine (hcount roleDamage ?_).le.trans hassigns.damage
    rintro _ (rfl | rfl | rfl) <;> decide

/-- The counters of a group are right if the dungeon needs what the role check allows. -/
theorem remaining_of_updateRoleCheck (test : Bool) (entry : LFGDungeonEntry) (roles : List LfgRole)
    {counters : QueueCounters} (hlength : roles.length < 256)
    (hmaxima : maxima (some entry) = rolesNeeded test entry.category)
    (hupdate : updateRoleCheck test entry roles = some counters) :
    ∃ checkRoles, checkGroupRoles (rolesNeeded test entry.category) roles = some checkRoles ∧
      Remaining (some entry) (checkRoles.map LfgRole.roles) counters := by
  obtain ⟨checkRoles, hchecked, rfl⟩ := Option.map_eq_some_iff.mp hupdate
  refine ⟨checkRoles, hchecked, (remaining_iff (some entry) _).mpr ?_⟩
  obtain ⟨htank, hhealer, hdamage⟩ := counted_of_assigns (checkGroupRoles_spec hlength hchecked)
  have hsmall (test category) : (rolesNeeded test category).tank < 256 ∧
      (rolesNeeded test category).healer < 256 ∧ (rolesNeeded test category).damage < 256 := by
    cases test <;> cases category <;> decide
  obtain ⟨htankSmall, hhealerSmall, hdamageSmall⟩ := hsmall test entry.category
  unfold NeedsAll
  rw [hmaxima]
  exact ⟨⟨htank, by omega⟩, ⟨hhealer, by omega⟩, hdamage, by omega⟩

theorem remaining_of_updateRoleCheck_pair : ∃ checkRoles : List LfgRole,
    Remaining (some ⟨1, 1, 3, .dungeon⟩) (checkRoles.map LfgRole.roles) ⟨0, 0, 3⟩ :=
  (remaining_of_updateRoleCheck false ⟨1, 1, 3, .dungeon⟩ [⟨1, roleTank⟩, ⟨2, roleHealer⟩]
    (by decide) rfl (by decide)).imp fun _ => And.right

/-- The counters of an entry of the queue are right exactly if the dungeon needs its players as what
they are counted as.  Averages lie between the least and the greatest wait time along proposals
whose wait times fit them. -/
theorem countersAndAverages (roles : UInt8) (test : Bool) (dungeon : LFGDungeonEntry)
    (group checkRoles : List LfgRole) (proposals : List CompletedProposal) :
    (Remaining entry [roles] (join entry roles) ↔ NeedsAll entry [roles]) ∧
    (checkGroupRoles (rolesNeeded test dungeon.category) group = some checkRoles →
      ∃ counters, updateRoleCheck test dungeon group = some counters ∧
        (Remaining (some dungeon) (checkRoles.map LfgRole.roles) counters ↔
          NeedsAll (some dungeon) (checkRoles.map LfgRole.roles))) ∧
    (Along WaitTimes.updateProposal WaitTimes.Fits .new proposals →
      ∀ reached ∈ visited WaitTimes.updateProposal .new proposals,
        reached.All fun timer => timer.included ≠ [] → timer.Between) := by
  refine ⟨remaining_iff entry [roles], ?_, WaitTimes.between_along proposals⟩
  intro hchecked
  refine ⟨_, ?_, remaining_iff (some dungeon) (checkRoles.map LfgRole.roles)⟩
  rw [updateRoleCheck, hchecked, Option.map_some]

/-- A tank and a healer of a dungeon, and two healers who found groups. -/
theorem countersAndAverages_healers :
    (∃ counters, updateRoleCheck false ⟨1, 1, 3, .dungeon⟩ [⟨1, roleTank⟩, ⟨2, roleHealer⟩] =
      some counters) ∧
    (WaitTimes.new.updateProposal
      ⟨100, [⟨roleHealer, some 60⟩, ⟨roleHealer, some 70⟩]⟩).healer.Between := by
  obtain ⟨-, hroleCheck, haverages⟩ := countersAndAverages none roleTank false ⟨1, 1, 3, .dungeon⟩
    [⟨1, roleTank⟩, ⟨2, roleHealer⟩] [⟨1, roleTank⟩, ⟨2, roleHealer⟩]
    [⟨100, [⟨roleHealer, some 60⟩, ⟨roleHealer, some 70⟩]⟩]
  constructor
  · obtain ⟨counters, hcounters, -⟩ := hroleCheck (by decide)
    exact ⟨counters, hcounters⟩
  · have hreached := haverages
      ⟨⟨⟨by decide, .inl rfl⟩, ⟨by decide, .inr ⟨by decide, by decide⟩⟩, trivial⟩, trivial⟩ _
      (foldl_mem_visited _ _ _)
    exact hreached.2.2.1 (by decide)

def scenario : LFGDungeonEntry := ⟨0, 0, 3, .scenario⟩

/-- A tank who joins a scenario leaves 255 tanks to be found, and an average of 0 and -1 seconds is
more than 68 years. -/
theorem not_countersAndAverages :
    ¬ Remaining (some scenario) [roleTank] (join (some scenario) roleTank) ∧
      ¬ (WaitTimes.new.updateProposal
        ⟨100, [⟨roleDamage, some 100⟩, ⟨roleDamage, none⟩]⟩).dps.Between := by
  constructor
  · rintro ⟨htanks, -⟩
    exact absurd htanks (by decide)
  · rintro ⟨-, wait, hwait, hle⟩
    rcases List.mem_cons.mp hwait with rfl | hwait
    · exact absurd hle (by decide)
    · obtain rfl := List.mem_singleton.mp hwait
      exact absurd hle (by decide)

end QueueCounters

end MopServer.DungeonFinder
