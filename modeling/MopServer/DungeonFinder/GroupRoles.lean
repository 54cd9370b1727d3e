import Mathlib.Data.List.Forall2
import MopServer.DungeonFinder.LFGMgr

/-! # One role for each player

A player may be ready for several roles.  The check of a group takes a role from the first player
who has more than one and starts again with what is left, until each player has one role and no
role is taken too often.
-/

namespace MopServer.DungeonFinder

/-- How many players of each role a group has, or needs. -/
structure RoleCounts where
  tank : Nat
  healer : Nat
  damage : Nat
  deriving DecidableEq, Repr

def rolesNeeded (test : Bool) (category : LfgCategory) : RoleCounts :=
  if test then ⟨0, 0, 2⟩
  else
    match category with
    | .dungeon => ⟨1, 1, 3⟩
    | .raid => ⟨2, 6, 17⟩
    | .scenario => ⟨0, 0, 3⟩
    | _ => ⟨1, 1, 3⟩

/-- What becomes of the check at one role of a player. -/
inductive RoleStep where
  | assigned (groles : List LfgRole)
  | full
  | next (count : Nat)

def checkRole (retry : List LfgRole → Option (List LfgRole)) (before after : List LfgRole)
    (player : LfgRole) (role : UInt8) (needed count : Nat) : RoleStep :=
  if player.roles &&& role = 0 then .next count
  else if player.roles ≠ role then
    match retry (before ++ { player with roles := player.roles - role } :: after) with
    | some groles => .assigned groles
    | none => .next count
  else if count = needed then .full
  else .next (count + 1)

/-- The loop over the players. -/
def checkRoles (retry : List LfgRole → Option (List LfgRole)) (needed : RoleCounts) :
    List LfgRole → List LfgRole → RoleCounts → Option (List LfgRole)
  | before, [], counts =>
    if counts.tank + counts.healer + counts.damage = before.length % 256 then some before
    else none
  | before, player :: after, counts =>
    if player.roles = 0 then none
    else
      match checkRole retry before after player roleTank needed.tank counts.tank with
      | .assigned groles => some groles
      | .full => none
      | .next tank =>
        match checkRole retry before after player roleHealer needed.healer counts.healer with
        | .assigned groles => some groles
        | .full => none
        | .next healer =>
          match checkRole retry before after player roleDamage needed.damage
            counts.damage with
          | .assigned groles => some groles
          | .full => none
          | .next damage =>
            checkRoles retry needed (before ++ [player]) after ⟨tank, healer, damage⟩

/-- `CheckGroupRoles` without the flag of the leader.  Each role that is taken from a player costs
one unit of fuel. -/
def checkGroupRolesFrom (needed : RoleCounts) : Nat → List LfgRole → Option (List LfgRole)
  | 0, _ => none
  | fuel + 1, groles =>
    if groles.isEmpty then none
    else checkRoles (checkGroupRolesFrom needed fuel) needed [] groles ⟨0, 0, 0⟩

/-- The roles that are left to take. -/
def rolesWeight (groles : List LfgRole) : Nat := (groles.map fun player => player.roles.toNat).sum

/-- `CheckGroupRoles`: the roles it leaves in the map, if it says yes. -/
def checkGroupRoles (needed : RoleCounts) (groles : List LfgRole) : Option (List LfgRole) :=
  let withoutLeader := groles.map fun player =>
    { player with roles := player.roles &&& ~~~roleLeader }
  checkGroupRolesFrom needed (rolesWeight withoutLeader + 1) withoutLeader

/-- A player has kept some of his roles. -/
def LfgRole.Narrows (before after : LfgRole) : Prop :=
  after.guid = before.guid ∧ after.roles &&& before.roles = after.roles

/-- Each player has one role, one of those he chose, and no role is taken too often. -/
structure Assigns (needed : RoleCounts) (before after : List LfgRole) : Prop where
  narrows : List.Forall₂ LfgRole.Narrows before after
  one : ∀ player ∈ after,
    player.roles = roleTank ∨ player.roles = roleHealer ∨ player.roles = roleDamage
  tank : after.countP (fun player => player.roles = roleTank) ≤ needed.tank
  healer : after.countP (fun player => player.roles = roleHealer) ≤ needed.healer
  damage : after.countP (fun player => player.roles = roleDamage) ≤ needed.damage

section

variable {needed : RoleCounts} {retry : List LfgRole → Option (List LfgRole)}
  {before after groles assigned : List LfgRole} {player : LfgRole} {role : UInt8} {count cap : Nat}
  {counts : RoleCounts}

theorem LfgRole.Narrows.refl (player : LfgRole) : player.Narrows player :=
  ⟨rfl, UInt8.and_self⟩

theorem LfgRole.Narrows.trans {first second third : LfgRole} (hfirst : first.Narrows second)
    (hsecond : second.Narrows third) : first.Narrows third := by
  refine ⟨hsecond.1.trans hfirst.1, ?_⟩
  rw [← hsecond.2, UInt8.and_assoc, hfirst.2]

theorem forall₂_narrows_trans {first second third : List LfgRole}
    (hfirst : List.Forall₂ LfgRole.Narrows first second)
    (hsecond : List.Forall₂ LfgRole.Narrows second third) :
    List.Forall₂ LfgRole.Narrows first third := by
  induction hfirst generalizing third with
  | nil => exact hsecond
  | cons hhead _ ih =>
    cases hsecond with
    | cons hnext htail => exact .cons (hhead.trans hnext) (ih htail)

/-- One of the three roles. -/
def IsRole (role : UInt8) : Prop := role = roleTank ∨ role = roleHealer ∨ role = roleDamage

theorem isRole_tank : IsRole roleTank := Or.inl rfl

theorem isRole_healer : IsRole roleHealer := Or.inr (Or.inl rfl)

theorem isRole_damage : IsRole roleDamage := Or.inr (Or.inr rfl)

theorem sub_role {roles : UInt8} (hrole : IsRole role) (hhas : roles &&& role ≠ 0) :
    (roles - role) &&& roles = roles - role ∧ (roles - role).toNat < roles.toNat := by
  have hall : ∀ value < 256, ∀ role ∈ [roleTank, roleHealer, roleDamage],
      UInt8.ofNat value &&& role ≠ 0 →
        (UInt8.ofNat value - role) &&& UInt8.ofNat value = UInt8.ofNat value - role ∧
          (UInt8.ofNat value - role).toNat < (UInt8.ofNat value).toNat := by
    decide +kernel
  have hmem : role ∈ [roleTank, roleHealer, roleDamage] := by
    rcases hrole with rfl | rfl | rfl <;> decide
  have hvalue := hall roles.toNat roles.toNat_lt role hmem
  rw [UInt8.ofNat_toNat] at hvalue
  exact hvalue hhas

theorem self_and_role (hrole : IsRole role) : role &&& role ≠ 0 := by
  rcases hrole with rfl | rfl | rfl <;> decide

/-- An assignment that a role check finds comes from taking the role away. -/
theorem checkRole_assigned
    (hchecked : checkRole retry before after player role cap count = .assigned assigned) :
    player.roles &&& role ≠ 0 ∧
      retry (before ++ { player with roles := player.roles - role } :: after) = some assigned := by
  unfold checkRole at hchecked
  split at hchecked
  · cases hchecked
  next hhas =>
    split at hchecked
    · split at hchecked
      next hretry =>
        cases hchecked
        exact ⟨hhas, hretry⟩
      · cases hchecked
    · split at hchecked <;> cases hchecked

/-- A role check that passes counts who has this role alone, within the limit. -/
theorem checkRole_next {next : Nat} (hrole : IsRole role) (hcount : count ≤ cap)
    (hchecked : checkRole retry before after player role cap count = .next next) :
    next = count + (if player.roles = role then 1 else 0) ∧ next ≤ cap := by
  unfold checkRole at hchecked
  split at hchecked
  next hlacks =>
    cases hchecked
    have hne : player.roles ≠ role := fun heq => self_and_role hrole (heq ▸ hlacks)
    rw [if_neg hne]
    exact ⟨rfl, hcount⟩
  · split at hchecked
    next hne =>
      split at hchecked
      · cases hchecked
      · cases hchecked
        rw [if_neg hne]
        exact ⟨rfl, hcount⟩
    next heq =>
      split at hchecked
      · cases hchecked
      next hroom =>
        cases hchecked
        rw [if_pos (not_not.mp heq)]
        exact ⟨rfl, by omega⟩

/-- The players before are counted by their roles, within the bounds. -/
structure Counts (needed : RoleCounts) (before : List LfgRole) (counts : RoleCounts) : Prop where
  tank : counts.tank = before.countP fun player => player.roles = roleTank
  healer : counts.healer = before.countP fun player => player.roles = roleHealer
  damage : counts.damage = before.countP fun player => player.roles = roleDamage
  tank_le : counts.tank ≤ needed.tank
  healer_le : counts.healer ≤ needed.healer
  damage_le : counts.damage ≤ needed.damage

theorem countP_role_concat (before : List LfgRole) (player : LfgRole) (role : UInt8) :
    (before ++ [player]).countP (fun player => player.roles = role) =
      before.countP (fun player => player.roles = role) +
        if player.roles = role then 1 else 0 := by
  rw [List.countP_append, List.countP_singleton]
  simp

theorem countP_roles (players : List LfgRole) :
    players.countP (fun player => player.roles = roleTank) +
      players.countP (fun player => player.roles = roleHealer) +
        players.countP (fun player => player.roles = roleDamage) =
      players.countP fun player => player.roles = roleTank ∨ player.roles = roleHealer ∨
        player.roles = roleDamage := by
  induction players with
  | nil => rfl
  | cons player rest ih =>
    simp only [List.countP_cons, ← ih]
    have htankHealer : roleTank ≠ roleHealer := by decide
    have htankDamage : roleTank ≠ roleDamage := by decide
    have hhealerDamage : roleHealer ≠ roleDamage := by decide
    by_cases htank : player.roles = roleTank
    · simp [htank, htankHealer, htankDamage]
      omega
    · by_cases hhealer : player.roles = roleHealer
      · simp [hhealer, htankHealer.symm, hhealerDamage]
        omega
      · by_cases hdamage : player.roles = roleDamage
        · simp [hdamage, htankDamage.symm, hhealerDamage.symm]
          omega
        · simp [htank, hhealer, hdamage]

/-- The three counters add up to the size exactly when each player has one role. -/
theorem countP_eq_length_iff {players : List LfgRole} :
    players.countP (fun player => player.roles = roleTank) +
      players.countP (fun player => player.roles = roleHealer) +
        players.countP (fun player => player.roles = roleDamage) = players.length ↔
      ∀ player ∈ players, IsRole player.roles := by
  rw [countP_roles, List.countP_eq_length]
  simp only [decide_eq_true_eq]
  exact Iff.rfl

/-- One role is taken from a player. -/
def TakesRole (groles narrowed : List LfgRole) : Prop :=
  ∃ before player after role, groles = before ++ player :: after ∧ IsRole role ∧
    player.roles &&& role ≠ 0 ∧
    narrowed = before ++ { player with roles := player.roles - role } :: after

theorem TakesRole.narrows {narrowed : List LfgRole} (htakes : TakesRole groles narrowed) :
    List.Forall₂ LfgRole.Narrows groles narrowed := by
  obtain ⟨before, player, after, role, rfl, hrole, hhas, rfl⟩ := htakes
  exact List.rel_append (List.forall₂_same.mpr fun player _ => .refl player)
    (.cons ⟨rfl, (sub_role hrole hhas).1⟩ (List.forall₂_same.mpr fun player _ => .refl player))

/-- The loop finds one role for each player, or some role is taken and it starts again. -/
theorem checkRoles_cases (hcounts : Counts needed before counts)
    (hlength : (before ++ after).length < 256)
    (hchecked : checkRoles retry needed before after counts = some assigned) :
    (∀ player ∈ before ++ after, IsRole player.roles) ∧ assigned = before ++ after ∧
        (∃ counts, Counts needed (before ++ after) counts) ∨
      ∃ narrowed, TakesRole (before ++ after) narrowed ∧ retry narrowed = some assigned := by
  induction after generalizing before counts with
  | nil =>
    unfold checkRoles at hchecked
    rw [List.append_nil] at *
    split at hchecked
    next hsum =>
      cases hchecked
      rw [Nat.mod_eq_of_lt hlength, hcounts.tank, hcounts.healer, hcounts.damage] at hsum
      exact Or.inl ⟨countP_eq_length_iff.mp hsum, rfl, counts, hcounts⟩
    · cases hchecked
  | cons player after ih =>
    have hagain : ∀ role, IsRole role → ∀ cap count,
        checkRole retry before after player role cap count = .assigned assigned →
        ∃ narrowed, TakesRole (before ++ player :: after) narrowed ∧
          retry narrowed = some assigned := by
      intro role hrole cap count hassigned
      obtain ⟨hhas, hretry⟩ := checkRole_assigned hassigned
      exact ⟨_, ⟨before, player, after, role, rfl, hrole, hhas, rfl⟩, hretry⟩
    unfold checkRoles at hchecked
    split at hchecked
    · cases hchecked
    · split at hchecked
      next htank =>
        cases hchecked
        exact Or.inr (hagain _ isRole_tank _ _ htank)
      · cases hchecked
      next tank htank =>
        obtain ⟨htankCount, htankLe⟩ := checkRole_next isRole_tank hcounts.tank_le htank
        split at hchecked
        next hhealer =>
          cases hchecked
          exact Or.inr (hagain _ isRole_healer _ _ hhealer)
        · cases hchecked
        next healer hhealer =>
          obtain ⟨hhealerCount, hhealerLe⟩ := checkRole_next isRole_healer hcounts.healer_le hhealer
          split at hchecked
          next hdamage =>
            cases hchecked
            exact Or.inr (hagain _ isRole_damage _ _ hdamage)
          · cases hchecked
          next damage hdamage =>
            obtain ⟨hdamageCount, hdamageLe⟩ :=
              checkRole_next isRole_damage hcounts.damage_le hdamage
            rw [← List.concat_append, List.concat_eq_append] at hlength ⊢
            refine ih ?_ hlength hchecked
            refine ⟨?_, ?_, ?_, htankLe, hhealerLe, hdamageLe⟩
            · rw [countP_role_concat, ← hcounts.tank]
              exact htankCount
            · rw [countP_role_concat, ← hcounts.healer]
              exact hhealerCount
            · rw [countP_role_concat, ← hcounts.damage]
              exact hdamageCount

theorem counts_nil (needed : RoleCounts) : Counts needed [] ⟨0, 0, 0⟩ :=
  ⟨rfl, rfl, rfl, Nat.zero_le _, Nat.zero_le _, Nat.zero_le _⟩

/-- Whatever the check assigns is an assignment within the limits. -/
theorem checkGroupRolesFrom_spec {fuel : Nat} (hlength : groles.length < 256)
    (hchecked : checkGroupRolesFrom needed fuel groles = some assigned) :
    Assigns needed groles assigned := by
  induction fuel generalizing groles with
  | zero => cases hchecked
  | succ fuel ih =>
    unfold checkGroupRolesFrom at hchecked
    split at hchecked
    · cases hchecked
    · rcases checkRoles_cases (counts_nil needed) hlength hchecked with
        ⟨hone, rfl, counts, hcounts⟩ | ⟨narrowed, htakes, hretry⟩
      · rw [List.nil_append] at *
        refine ⟨List.forall₂_same.mpr fun player _ => .refl player, hone, ?_, ?_, ?_⟩
        · exact hcounts.tank ▸ hcounts.tank_le
        · exact hcounts.healer ▸ hcounts.healer_le
        · exact hcounts.damage ▸ hcounts.damage_le
      · have hrest := ih (htakes.narrows.length_eq ▸ hlength) hretry
        exact { hrest with narrows := forall₂_narrows_trans htakes.narrows hrest.narrows }

theorem forall₂_withoutLeader (groles : List LfgRole) :
    List.Forall₂ LfgRole.Narrows groles
      (groles.map fun player => { player with roles := player.roles &&& ~~~roleLeader }) := by
  rw [List.forall₂_map_right_iff, List.forall₂_same]
  intro player _
  refine ⟨rfl, ?_⟩
  rw [UInt8.and_comm, ← UInt8.and_assoc, UInt8.and_self]

/-- If the check says yes, each player has one of his roles, and none is taken too often. -/
theorem checkGroupRoles_spec (hlength : groles.length < 256)
    (hchecked : checkGroupRoles needed groles = some assigned) :
    Assigns needed groles assigned := by
  have hwithout := forall₂_withoutLeader groles
  have hassigns := checkGroupRolesFrom_spec (hwithout.length_eq ▸ hlength) hchecked
  exact { hassigns with narrows := forall₂_narrows_trans hwithout hassigns.narrows }

theorem rolesWeight_between (before after : List LfgRole) (player : LfgRole) :
    rolesWeight (before ++ player :: after) =
      rolesWeight before + player.roles.toNat + rolesWeight after := by
  unfold rolesWeight
  simp only [List.map_append, List.map_cons, List.sum_append, List.sum_cons]
  omega

end

end MopServer.DungeonFinder
