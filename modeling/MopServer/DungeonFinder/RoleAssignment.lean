import MopServer.DungeonFinder.GroupRoles

/-! # The check of the roles is exact

The check works on the map itself: it takes a role from a player, calls itself, and gives the role
back if that fails.  So a failed check leaves the map as it was, up to the flags of the leaders, and
if there is a choice of one role for each player, some branch of the search finds one.
-/

namespace MopServer.DungeonFinder

/-! ## The check on the map -/

variable (groles : List LfgRole)

/-- `it->second` of an entry. -/
def rolesAt (i : Nat) : UInt8 :=
  match groles[i]? with
  | some player => player.roles
  | none => 0

/-- `it->second = f(it->second)`. -/
def modifyRoles (f : UInt8 → UInt8) (groles : List LfgRole) (i : Nat) : List LfgRole :=
  groles.modify i fun player => { player with roles := f player.roles }

/-- What becomes of the loop at one role of an entry. -/
inductive MapStep where
  | returned (compatible : Bool) (groles : List LfgRole)
  | next (count : Nat) (groles : List LfgRole)

/-- One role of an entry, with the recursive call. -/
def checkRoleInMap (retry : List LfgRole → Bool × List LfgRole) (i : Nat) (role : UInt8)
    (needed count : Nat) (groles : List LfgRole) : MapStep :=
  if rolesAt groles i &&& role = 0 then .next count groles
  else if rolesAt groles i ≠ role then
    match retry (modifyRoles (· - role) groles i) with
    | (true, groles) => .returned true groles
    | (false, groles) => .next count (modifyRoles (· + role) groles i)
  else if count = needed then .returned false groles
  else .next (count + 1) groles

/-- The loop over the entries. -/
def checkRolesInMap (retry : List LfgRole → Bool × List LfgRole) (needed : RoleCounts) :
    List Nat → RoleCounts → List LfgRole → Bool × List LfgRole
  | [], counts, groles =>
    (counts.tank + counts.healer + counts.damage = groles.length % 256, groles)
  | i :: rest, counts, groles =>
    if rolesAt groles i = 0 then (false, groles)
    else
      match checkRoleInMap retry i roleTank needed.tank counts.tank groles with
      | .returned compatible groles => (compatible, groles)
      | .next tank groles =>
        match checkRoleInMap retry i roleHealer needed.healer counts.healer groles with
        | .returned compatible groles => (compatible, groles)
        | .next healer groles =>
          match checkRoleInMap retry i roleDamage needed.damage counts.damage groles with
          | .returned compatible groles => (compatible, groles)
          | .next damage groles =>
            checkRolesInMap retry needed rest ⟨tank, healer, damage⟩ groles

def withoutLeader : List LfgRole :=
  groles.map fun player => { player with roles := player.roles &&& ~~~roleLeader }

/-- `CheckGroupRoles`, and the map it leaves.  Each recursive call costs one unit of fuel. -/
def checkGroupRolesInMap (needed : RoleCounts) : Nat → Bool → List LfgRole → Bool × List LfgRole
  | 0, _, groles => (false, groles)
  | fuel + 1, removeLeaderFlag, groles =>
    if groles.isEmpty then (false, groles)
    else
      let groles := if removeLeaderFlag then withoutLeader groles else groles
      checkRolesInMap (checkGroupRolesInMap needed fuel false) needed (List.range groles.length)
        ⟨0, 0, 0⟩ groles

/-! ## A failed branch is taken back -/

/-- The answer, and the map: changed by a success only. -/
def answer : Option (List LfgRole) → Bool × List LfgRole
  | some assigned => (true, assigned)
  | none => (false, groles)

def RoleStep.inMap : RoleStep → MapStep
  | .assigned changed => .returned true changed
  | .full => .returned false groles
  | .next count => .next count groles

section

variable {needed : RoleCounts} {retry : List LfgRole → Option (List LfgRole)}
  {retryInMap : List LfgRole → Bool × List LfgRole} {before after groles assigned : List LfgRole}
  {player : LfgRole} {role : UInt8} {count cap : Nat}

theorem rolesAt_between (before after : List LfgRole) (player : LfgRole) :
    rolesAt (before ++ player :: after) before.length = player.roles := by
  simp [rolesAt]

theorem modifyRoles_between (f : UInt8 → UInt8) (before after : List LfgRole) (player : LfgRole) :
    modifyRoles f (before ++ player :: after) before.length =
      before ++ { player with roles := f player.roles } :: after := by
  induction before with
  | nil => rfl
  | cons first before ih => exact congrArg (first :: ·) ih

variable (hretry : ∀ groles, retryInMap groles = answer groles (retry groles))

include hretry in
theorem checkRoleInMap_eq (before after : List LfgRole) (player : LfgRole) (role : UInt8)
    (cap count : Nat) :
    checkRoleInMap retryInMap before.length role cap count (before ++ player :: after) =
      (checkRole retry before after player role cap count).inMap (before ++ player :: after) := by
  unfold checkRoleInMap checkRole
  rw [rolesAt_between]
  split
  · rfl
  · split
    · rw [modifyRoles_between, hretry]
      cases retry (before ++ { player with roles := player.roles - role } :: after) with
      | some groles => rfl
      | none =>
        -- What has been taken is given back.
        simp only [answer, RoleStep.inMap, modifyRoles_between, UInt8.sub_add_cancel]
    · split <;> rfl

include hretry in
theorem checkRolesInMap_eq (before after : List LfgRole) (counts : RoleCounts) :
    checkRolesInMap retryInMap needed (List.range' before.length after.length) counts
        (before ++ after) =
      answer (before ++ after) (checkRoles retry needed before after counts) := by
  induction after generalizing before counts with
  | nil =>
    simp only [List.append_nil, List.length_nil, List.range'_zero, checkRolesInMap, checkRoles]
    split
    next hsum => simp [hsum, answer]
    next hsum => simp [hsum, answer]
  | cons player after ih =>
    rw [List.length_cons, List.range'_succ, checkRolesInMap, checkRoles, rolesAt_between,
      checkRoleInMap_eq hretry]
    split
    · rfl
    · cases checkRole retry before after player roleTank needed.tank counts.tank with
      | assigned changed => rfl
      | full => rfl
      | next tank =>
        simp only [RoleStep.inMap]
        rw [checkRoleInMap_eq hretry]
        cases checkRole retry before after player roleHealer needed.healer counts.healer with
        | assigned changed => rfl
        | full => rfl
        | next healer =>
          simp only [RoleStep.inMap]
          rw [checkRoleInMap_eq hretry]
          cases checkRole retry before after player roleDamage needed.damage
              counts.damage with
          | assigned changed => rfl
          | full => rfl
          | next damage =>
            have hnext := ih (before ++ [player]) ⟨tank, healer, damage⟩
            rw [List.append_assoc, List.singleton_append, List.length_append,
              List.length_singleton] at hnext
            exact hnext

theorem checkGroupRolesInMap_false (needed : RoleCounts) (fuel : Nat) (groles : List LfgRole) :
    checkGroupRolesInMap needed fuel false groles =
      answer groles (checkGroupRolesFrom needed fuel groles) := by
  induction fuel generalizing groles with
  | zero => rfl
  | succ fuel ih =>
    unfold checkGroupRolesInMap checkGroupRolesFrom
    split
    · rfl
    · simp only [Bool.false_eq_true, if_false, List.range_eq_range']
      exact checkRolesInMap_eq ih [] groles ⟨0, 0, 0⟩

/-- The first call differs by the flags of the leaders only. -/
theorem checkGroupRolesInMap_true (needed : RoleCounts) (fuel : Nat) (groles : List LfgRole) :
    checkGroupRolesInMap needed (fuel + 1) true groles =
      answer (withoutLeader groles)
        (checkGroupRolesFrom needed (fuel + 1) (withoutLeader groles)) := by
  have hfalse := checkGroupRolesInMap_false needed (fuel + 1) (withoutLeader groles)
  rw [← hfalse]
  unfold checkGroupRolesInMap
  have hempty : (withoutLeader groles).isEmpty = groles.isEmpty := by
    cases groles <;> rfl
  rw [hempty]
  split
  next hnil =>
    rw [List.isEmpty_iff.mp hnil]
    rfl
  · rfl

/-! ## Some branch finds a choice -/

variable {roles chosen : UInt8}

def roleAny : UInt8 := roleTank ||| roleHealer ||| roleDamage

/-- A mask without bits beside the three roles and the flag of the leader. -/
def HasKnownRoles (player : LfgRole) : Prop :=
  player.roles &&& ~~~(roleAny ||| roleLeader) = 0

/-- A role is one of those of a player. -/
def Selects (player : LfgRole) (role : UInt8) : Prop := IsRole role ∧ player.roles &&& role ≠ 0

/-- No role is chosen too often. -/
structure WithinLimits (needed : RoleCounts) (choice : List UInt8) : Prop where
  tank : choice.count roleTank ≤ needed.tank
  healer : choice.count roleHealer ≤ needed.healer
  damage : choice.count roleDamage ≤ needed.damage

/-- One role of each player is chosen, none too often. -/
def Chooses (needed : RoleCounts) (groles : List LfgRole) (choice : List UInt8) : Prop :=
  List.Forall₂ Selects groles choice ∧ WithinLimits needed choice

/-- The three roles. -/
def roleList : List UInt8 := [roleTank, roleHealer, roleDamage]

theorem mem_roleList_iff : role ∈ roleList ↔ IsRole role := by
  simp [roleList, IsRole]

theorem IsRole.mem_roleList (hrole : IsRole role) : role ∈ roleList :=
  mem_roleList_iff.mpr hrole

theorem sub_role_and (hrole : IsRole role) (hchosen : IsRole chosen) (hne : role ≠ chosen)
    (hhas : roles &&& role ≠ 0) (hkeep : roles &&& chosen ≠ 0) : (roles - role) &&& chosen ≠ 0 := by
  have hall : ∀ value < 256, ∀ chosen ∈ roleList, role = chosen ∨
      UInt8.ofNat value &&& role = 0 ∨ UInt8.ofNat value &&& chosen = 0 ∨
        (UInt8.ofNat value - role) &&& chosen ≠ 0 := by
    rcases hrole with rfl | rfl | rfl <;> decide +kernel
  have hvalue := hall roles.toNat roles.toNat_lt chosen hchosen.mem_roleList
  rw [UInt8.ofNat_toNat] at hvalue
  exact ((hvalue.resolve_left hne).resolve_left hhas).resolve_left hkeep

/-- Taking a role does not touch the other bits. -/
theorem sub_role_unknown (hrole : IsRole role) (hhas : roles &&& role ≠ 0) :
    (roles - role) &&& ~~~roleAny = roles &&& ~~~roleAny := by
  have hall : ∀ value < 256, ∀ role ∈ roleList, UInt8.ofNat value &&& role ≠ 0 →
      (UInt8.ofNat value - role) &&& ~~~roleAny = UInt8.ofNat value &&& ~~~roleAny := by
    decide +kernel
  have hvalue := hall roles.toNat roles.toNat_lt role hrole.mem_roleList
  rw [UInt8.ofNat_toNat] at hvalue
  exact hvalue hhas

/-- Who has several roles, and no unknown bits, has one beside the chosen one. -/
theorem exists_other_role (hchosen : IsRole chosen) (hknown : roles &&& ~~~roleAny = 0)
    (hhas : roles &&& chosen ≠ 0) (hne : roles ≠ chosen) :
    ∃ role ∈ roleList, role ≠ chosen ∧ roles &&& role ≠ 0 := by
  have hall : ∀ value < 256, ∀ chosen ∈ roleList, UInt8.ofNat value &&& ~~~roleAny ≠ 0 ∨
      UInt8.ofNat value &&& chosen = 0 ∨ UInt8.ofNat value = chosen ∨
        ∃ role ∈ roleList, role ≠ chosen ∧ UInt8.ofNat value &&& role ≠ 0 := by
    decide +kernel
  have hvalue := hall roles.toNat roles.toNat_lt chosen hchosen.mem_roleList
  rw [UInt8.ofNat_toNat] at hvalue
  exact ((hvalue.resolve_left (not_not.mpr hknown)).resolve_left hhas).resolve_left hne

theorem isRole_and {other : UInt8} (hrole : IsRole role) (hother : IsRole other) :
    role &&& other = 0 ↔ role ≠ other := by
  rcases hrole with rfl | rfl | rfl <;> rcases hother with rfl | rfl | rfl <;> decide

/-! ## One role of one player -/

variable {counts : RoleCounts}

theorem checkRole_single (hplayer : player.roles = chosen) (hchosen : IsRole chosen)
    (hrole : IsRole role) (hroom : chosen = role → count < cap) :
    checkRole retry before after player role cap count =
      .next (count + if player.roles = role then 1 else 0) := by
  unfold checkRole
  rw [hplayer]
  by_cases hsame : chosen = role
  · have hand : ¬ chosen &&& role = 0 := fun hand => (isRole_and hchosen hrole).mp hand hsame
    have hcount := hroom hsame
    rw [if_neg hand, if_neg (not_not.mpr hsame), if_neg (by omega), if_pos hsame]
  · rw [if_pos ((isRole_and hchosen hrole).mpr hsame), if_neg hsame, Nat.add_zero]

theorem checkRole_several (hne : player.roles ≠ role) :
    (∃ assigned, checkRole retry before after player role cap count = .assigned assigned) ∨
      checkRole retry before after player role cap count = .next count := by
  unfold checkRole
  by_cases hlacks : player.roles &&& role = 0
  · exact .inr (if_pos hlacks)
  · rw [if_neg hlacks, if_pos hne]
    cases retry (before ++ { player with roles := player.roles - role } :: after) with
    | some groles => exact .inl ⟨groles, rfl⟩
    | none => exact .inr rfl

theorem checkRole_of_retry (hhas : player.roles &&& role ≠ 0) (hne : player.roles ≠ role)
    (hretry : retry (before ++ { player with roles := player.roles - role } :: after) =
      some assigned) :
    checkRole retry before after player role cap count = .assigned assigned := by
  unfold checkRole
  rw [if_neg hhas, if_pos hne, hretry]

/-- If one of the branches for a player with several roles succeeds, the check says yes. -/
theorem checkRoles_of_retry (hnone : player.roles ≠ 0)
    (hseveral : ∀ role ∈ roleList, player.roles ≠ role) {other : UInt8} (hother : other ∈ roleList)
    (hhas : player.roles &&& other ≠ 0)
    (hretry : retry (before ++ { player with roles := player.roles - other } :: after) =
      some assigned) :
    ∃ found, checkRoles retry needed before (player :: after) counts = some found := by
  unfold checkRoles
  rw [if_neg hnone]
  have hbranch : ∀ cap count,
      checkRole retry before after player other cap count = .assigned assigned :=
    fun cap count => checkRole_of_retry hhas (hseveral other hother) hretry
  rcases checkRole_several (hseveral roleTank (by decide)) with ⟨found, htank⟩ | htank
  · exact ⟨found, by rw [htank]⟩
  rcases checkRole_several (hseveral roleHealer (by decide)) with ⟨found, hhealer⟩ | hhealer
  · exact ⟨found, by rw [htank, hhealer]⟩
  rcases checkRole_several (hseveral roleDamage (by decide)) with ⟨found, hdamage⟩ | hdamage
  · exact ⟨found, by rw [htank, hhealer, hdamage]⟩
  -- The branch of the other role is one of the three.
  exfalso
  simp only [roleList, List.mem_cons, List.not_mem_nil, or_false] at hother
  rcases hother with rfl | rfl | rfl
  · rw [hbranch] at htank
    cases htank
  · rw [hbranch] at hhealer
    cases hhealer
  · rw [hbranch] at hdamage
    cases hdamage

/-! ## The search -/

variable {choice : List UInt8} {narrowed : List LfgRole} {fuel : Nat}

theorem count_roles_before (before : List LfgRole) (role : UInt8) :
    (before.map LfgRole.roles).count role = before.countP fun player => player.roles = role := by
  rw [List.count_eq_countP, List.countP_map]
  apply List.countP_congr
  intro player _
  simp

theorem countP_before_le (hchosen : player.roles = role)
    (hlimit : (before.map LfgRole.roles ++ player.roles :: choice).count role ≤ cap) :
    before.countP (fun player => player.roles = role) < cap := by
  rw [List.count_append, count_roles_before, hchosen, List.count_cons_self] at hlimit
  omega

theorem counts_concat (hcounts : Counts needed before counts)
    (hlimits : WithinLimits needed (before.map LfgRole.roles ++ player.roles :: choice)) :
    Counts needed (before ++ [player])
      ⟨counts.tank + if player.roles = roleTank then 1 else 0,
        counts.healer + if player.roles = roleHealer then 1 else 0,
        counts.damage + if player.roles = roleDamage then 1 else 0⟩ := by
  have hle : ∀ role cap, (before.map LfgRole.roles ++ player.roles :: choice).count role ≤ cap →
      before.countP (fun player => player.roles = role) +
        (if player.roles = role then 1 else 0) ≤ cap := by
    intro role cap hlimit
    split
    next hchosen => exact countP_before_le hchosen hlimit
    · rw [List.count_append, count_roles_before] at hlimit
      omega
  refine ⟨?_, ?_, ?_, ?_, ?_, ?_⟩
  · rw [countP_role_concat, hcounts.tank]
  · rw [countP_role_concat, hcounts.healer]
  · rw [countP_role_concat, hcounts.damage]
  · rw [hcounts.tank]
    exact hle _ _ hlimits.tank
  · rw [hcounts.healer]
    exact hle _ _ hlimits.healer
  · rw [hcounts.damage]
    exact hle _ _ hlimits.damage

/-- If the players before have their chosen role alone, and any branch that keeps to the choice
succeeds, the loop succeeds. -/
theorem checkRoles_complete (hcounts : Counts needed before counts)
    (hlength : (before ++ after).length < 256) (hbefore : ∀ player ∈ before, IsRole player.roles)
    (hselected : List.Forall₂ Selects after choice)
    (hlimits : WithinLimits needed (before.map LfgRole.roles ++ choice))
    (hknown : ∀ player ∈ after, player.roles &&& ~~~roleAny = 0)
    (hretry : ∀ narrowed, TakesRole (before ++ after) narrowed →
      List.Forall₂ Selects narrowed (before.map LfgRole.roles ++ choice) →
        ∃ assigned, retry narrowed = some assigned) :
    ∃ assigned, checkRoles retry needed before after counts = some assigned := by
  induction hselected generalizing before counts with
  | nil =>
    rw [List.append_nil] at hlength
    have hsum := countP_eq_length_iff.mpr hbefore
    refine ⟨before, ?_⟩
    rw [checkRoles, Nat.mod_eq_of_lt hlength, hcounts.tank, hcounts.healer, hcounts.damage,
      if_pos hsum]
  | @cons player chosen after choice hplayer hrest ih =>
    obtain ⟨hchosen, hhas⟩ := hplayer
    have hnone : player.roles ≠ 0 := by
      intro hzero
      rw [hzero, UInt8.zero_and] at hhas
      exact hhas rfl
    by_cases hsingle : player.roles = chosen
    · subst hsingle
      have htank : player.roles = roleTank → counts.tank < needed.tank := fun heq =>
        hcounts.tank ▸ countP_before_le heq hlimits.tank
      have hhealer : player.roles = roleHealer → counts.healer < needed.healer := fun heq =>
        hcounts.healer ▸ countP_before_le heq hlimits.healer
      have hdamage : player.roles = roleDamage → counts.damage < needed.damage := fun heq =>
        hcounts.damage ▸ countP_before_le heq hlimits.damage
      rw [checkRoles, if_neg hnone, checkRole_single rfl hchosen isRole_tank htank]
      rw [checkRole_single rfl hchosen isRole_healer hhealer]
      rw [checkRole_single rfl hchosen isRole_damage hdamage]
      have hlist : before ++ [player] ++ after = before ++ player :: after := by simp
      have hroles : (before ++ [player]).map LfgRole.roles ++ choice =
          before.map LfgRole.roles ++ player.roles :: choice := by simp
      refine ih (counts_concat hcounts hlimits) (hlist ▸ hlength) ?_ (hroles ▸ hlimits)
        (fun other hother => hknown other (List.mem_cons_of_mem _ hother)) ?_
      · intro other hother
        rcases List.mem_append.mp hother with hmem | hmem
        · exact hbefore other hmem
        · exact List.mem_singleton.mp hmem ▸ hchosen
      · rw [hlist, hroles]
        exact hretry
    · obtain ⟨other, hother, hne, hhasOther⟩ :=
        exists_other_role hchosen (hknown player List.mem_cons_self) hhas hsingle
      have hotherRole := mem_roleList_iff.mp hother
      have hseveral : ∀ role ∈ roleList, player.roles ≠ role := by
        intro role hrole heq
        have hdistinct : role ≠ chosen := fun hsame => hsingle (heq.trans hsame)
        exact hhas (heq ▸ (isRole_and (mem_roleList_iff.mp hrole) hchosen).mpr hdistinct)
      have hkept : Selects { player with roles := player.roles - other } chosen :=
        ⟨hchosen, sub_role_and hotherRole hchosen hne hhasOther hhas⟩
      have hself : List.Forall₂ Selects before (before.map LfgRole.roles) := by
        rw [List.forall₂_map_right_iff, List.forall₂_same]
        exact fun first hfirst => ⟨hbefore first hfirst, self_and_role (hbefore first hfirst)⟩
      obtain ⟨assigned, hassigned⟩ := hretry _
        ⟨before, player, after, other, rfl, hotherRole, hhasOther, rfl⟩
        (List.rel_append hself (.cons hkept hrest))
      exact checkRoles_of_retry hnone hseveral hother hhasOther hassigned

theorem TakesRole.rolesWeight_lt (htakes : TakesRole groles narrowed) :
    rolesWeight narrowed < rolesWeight groles := by
  obtain ⟨before, player, after, role, rfl, hrole, hhas, rfl⟩ := htakes
  obtain ⟨-, hless⟩ := sub_role hrole hhas
  rw [rolesWeight_between, rolesWeight_between]
  dsimp only
  omega

/-- The unknown bits stay where a role is taken. -/
theorem TakesRole.known_iff (htakes : TakesRole groles narrowed) :
    (∀ player ∈ narrowed, player.roles &&& ~~~roleAny = 0) ↔
      ∀ player ∈ groles, player.roles &&& ~~~roleAny = 0 := by
  obtain ⟨before, player, after, role, rfl, hrole, hhas, rfl⟩ := htakes
  simp only [List.forall_mem_append, List.forall_mem_cons, sub_role_unknown hrole hhas]

theorem checkGroupRolesFrom_complete (henough : rolesWeight groles < fuel) (hsome : groles ≠ [])
    (hlength : groles.length < 256) (hknown : ∀ player ∈ groles, player.roles &&& ~~~roleAny = 0)
    (hchooses : Chooses needed groles choice) :
    ∃ assigned, checkGroupRolesFrom needed fuel groles = some assigned := by
  induction fuel generalizing groles with
  | zero => exact absurd henough (Nat.not_lt_zero _)
  | succ fuel ih =>
    have hempty : ¬ groles.isEmpty = true := fun hnil => hsome (List.isEmpty_iff.mp hnil)
    rw [checkGroupRolesFrom, if_neg hempty]
    refine checkRoles_complete (counts_nil needed) hlength (fun player hplayer => nomatch hplayer)
      hchooses.1 hchooses.2 hknown fun narrowed htakes hselected => ?_
    have hless := htakes.rolesWeight_lt
    have hsame := htakes.narrows.length_eq
    rw [List.nil_append] at hless hsame
    refine ih (by omega) ?_ (hsame ▸ hlength) (htakes.known_iff.mpr hknown) ⟨hselected, hchooses.2⟩
    rintro rfl
    exact hsome (List.length_eq_zero_iff.mp hsame)

theorem isRole_known (hrole : IsRole role) : role &&& ~~~roleAny = 0 := by
  rcases hrole with rfl | rfl | rfl <;> decide

theorem checkGroupRolesFrom_known (hlength : groles.length < 256)
    (hchecked : checkGroupRolesFrom needed fuel groles = some assigned) :
    groles ≠ [] ∧ ∀ player ∈ groles, player.roles &&& ~~~roleAny = 0 := by
  induction fuel generalizing groles with
  | zero => cases hchecked
  | succ fuel ih =>
    unfold checkGroupRolesFrom at hchecked
    split at hchecked
    · cases hchecked
    next hsome =>
      refine ⟨fun hnil => hsome (List.isEmpty_iff.mpr hnil), ?_⟩
      rcases checkRoles_cases (counts_nil needed) hlength hchecked with
        ⟨hone, -, -⟩ | ⟨narrowed, htakes, hretry⟩
      · exact fun player hplayer => isRole_known (hone player hplayer)
      · exact htakes.known_iff.mp (ih (htakes.narrows.length_eq ▸ hlength) hretry).2

/-! ## The flag of the leader -/

variable {choices : List LfgRole}

theorem withoutLeader_known_iff :
    (∀ player ∈ withoutLeader groles, player.roles &&& ~~~roleAny = 0) ↔
      ∀ player ∈ groles, HasKnownRoles player := by
  have hmask : ~~~roleLeader &&& ~~~roleAny = ~~~(roleAny ||| roleLeader) := by decide
  simp only [withoutLeader, List.forall_mem_map, HasKnownRoles, UInt8.and_assoc, hmask]

theorem selects_withoutLeader :
    List.Forall₂ Selects (withoutLeader groles) choice ↔ List.Forall₂ Selects groles choice := by
  have hselects : ∀ (player : LfgRole) (role : UInt8),
      Selects { player with roles := player.roles &&& ~~~roleLeader } role ↔ Selects player role := by
    intro player role
    refine and_congr_right fun hrole => ?_
    have hmask : ~~~roleLeader &&& role = role := by
      rcases hrole with rfl | rfl | rfl <;> decide
    rw [UInt8.and_assoc, hmask]
  rw [withoutLeader, List.forall₂_map_left_iff]
  exact ⟨List.Forall₂.imp fun player role => (hselects player role).mp,
    List.Forall₂.imp fun player role => (hselects player role).mpr⟩

theorem rolesWeight_withoutLeader_le (groles : List LfgRole) :
    rolesWeight (withoutLeader groles) ≤ rolesWeight groles := by
  induction groles with
  | nil => exact le_rfl
  | cons player rest ih =>
    have hplayer : (player.roles &&& ~~~roleLeader).toNat ≤ player.roles.toNat := by
      rw [UInt8.toNat_and]
      exact Nat.and_le_left
    exact Nat.add_le_add hplayer ih

theorem Assigns.selects (hassigns : Assigns needed groles choices) :
    List.Forall₂ Selects groles (choices.map LfgRole.roles) := by
  have hone := hassigns.one
  have hnarrows := hassigns.narrows
  clear hassigns
  rw [List.forall₂_map_right_iff]
  induction hnarrows with
  | nil => exact .nil
  | @cons player narrowed _ _ hhead _ ih =>
    rw [List.forall_mem_cons] at hone
    refine .cons ⟨hone.1, ?_⟩ (ih hone.2)
    rw [UInt8.and_comm, hhead.2]
    exact fun hzero => self_and_role hone.1 (by rw [hzero]; rfl)

theorem Assigns.withinLimits (hassigns : Assigns needed groles choices) :
    WithinLimits needed (choices.map LfgRole.roles) := by
  refine ⟨?_, ?_, ?_⟩
  · rw [count_roles_before]
    exact hassigns.tank
  · rw [count_roles_before]
    exact hassigns.healer
  · rw [count_roles_before]
    exact hassigns.damage

/-- The search succeeds exactly if there is somebody, there are no unknown bits, and there is a
choice. -/
theorem checkGroupRolesFrom_isSome_iff (henough : rolesWeight groles < fuel)
    (hlength : groles.length < 256) :
    (∃ assigned, checkGroupRolesFrom needed fuel (withoutLeader groles) = some assigned) ↔
      groles ≠ [] ∧ (∀ player ∈ groles, HasKnownRoles player) ∧
        ∃ choice, Chooses needed groles choice := by
  have hsame : (withoutLeader groles).length = groles.length := List.length_map ..
  have hnil : withoutLeader groles = [] ↔ groles = [] := List.map_eq_nil_iff
  have hless := (rolesWeight_withoutLeader_le groles).trans_lt henough
  constructor
  · rintro ⟨assigned, hassigned⟩
    obtain ⟨hsome, hknown⟩ := checkGroupRolesFrom_known (hsame ▸ hlength) hassigned
    have hassigns := checkGroupRolesFrom_spec (hsame ▸ hlength) hassigned
    refine ⟨mt hnil.mpr hsome, withoutLeader_known_iff.mp hknown,
      assigned.map LfgRole.roles, selects_withoutLeader.mp hassigns.selects, ?_⟩
    exact hassigns.withinLimits
  · rintro ⟨hsome, hknown, choice, hselected, hlimits⟩
    exact checkGroupRolesFrom_complete hless (mt hnil.mp hsome) (hsame ▸ hlength)
      (withoutLeader_known_iff.mpr hknown) ⟨selects_withoutLeader.mpr hselected, hlimits⟩

end

/-- The check finds an assignment exactly when there is one. -/
structure ChecksExactly (needed : RoleCounts) (groles : List LfgRole)
    (result : Bool × List LfgRole) : Prop where
  compatible_iff : result.1 = true ↔ groles ≠ [] ∧ (∀ player ∈ groles, HasKnownRoles player) ∧
    ∃ choice, Chooses needed groles choice
  assigns : result.1 = true → Assigns needed groles result.2
  restores : result.1 = false → result.2 = withoutLeader groles

/-- The check says yes exactly if one role of each player can be chosen within the limits, the
map then holds such an assignment without the flags of the leaders, and otherwise it holds the
masks it was given, without these flags. -/
theorem checkGroupRoles_exact (test : Bool) (category : LfgCategory) (groles : List LfgRole)
    (fuel : Nat) (hlength : groles.length ≤ 255) (henough : rolesWeight groles < fuel) :
    ChecksExactly (rolesNeeded test category) groles
      (checkGroupRolesInMap (rolesNeeded test category) fuel true groles) := by
  obtain ⟨fuel, rfl⟩ := Nat.exists_eq_succ_of_ne_zero (Nat.ne_zero_of_lt henough)
  obtain ⟨needed, hneeded⟩ : ∃ needed, needed = rolesNeeded test category := ⟨_, rfl⟩
  have hshort : groles.length < 256 := by omega
  have hiff : (∃ assigned, checkGroupRolesFrom needed (fuel + 1) (withoutLeader groles) =
      some assigned) ↔ _ := checkGroupRolesFrom_isSome_iff henough hshort
  rw [← hneeded, checkGroupRolesInMap_true]
  cases hchecked : checkGroupRolesFrom needed (fuel + 1) (withoutLeader groles) with
  | some assigned =>
    have hwithout := forall₂_withoutLeader groles
    have hassigns := checkGroupRolesFrom_spec (hwithout.length_eq ▸ hshort) hchecked
    exact ⟨iff_of_true rfl (hiff.mp ⟨assigned, hchecked⟩),
      fun _ => { hassigns with narrows := forall₂_narrows_trans hwithout hassigns.narrows },
      fun hfalse => Bool.noConfusion hfalse⟩
  | none =>
    have hnone : ¬ ∃ assigned, checkGroupRolesFrom needed (fuel + 1) (withoutLeader groles) =
        some assigned := by
      rw [hchecked]
      exact fun ⟨assigned, hassigned⟩ => nomatch hassigned
    exact ⟨iff_of_false Bool.false_ne_true fun hchoice => hnone (hiff.mpr hchoice),
      fun htrue => (Bool.false_ne_true htrue).elim, fun _ => rfl⟩

/-- A leader who tanks or deals damage, and somebody who tanks only. -/
theorem checkGroupRoles_exact_pair :
    ChecksExactly (rolesNeeded false .dungeon) [⟨1, 11⟩, ⟨2, 2⟩]
      (checkGroupRolesInMap (rolesNeeded false .dungeon) 14 true [⟨1, 11⟩, ⟨2, 2⟩]) :=
  checkGroupRoles_exact false .dungeon [⟨1, 11⟩, ⟨2, 2⟩] 14 (by decide) (by decide)

/-- A leader whose group has one tank too many is no leader any more. -/
theorem not_restores_leader :
    ¬ ∀ test category groles fuel, groles.length ≤ 255 → rolesWeight groles < fuel →
      let result := checkGroupRolesInMap (rolesNeeded test category) fuel true groles
      (result.1 = true ↔ ∃ choice, Chooses (rolesNeeded test category) groles choice) ∧
        (result.1 = true → Assigns (rolesNeeded test category) groles result.2) ∧
        (result.1 = false → result.2 = groles) := by
  intro hall
  have hrestores := (hall false .dungeon [⟨1, 3⟩, ⟨2, 2⟩] 6 (by decide) (by decide)).2.2
  exact absurd (hrestores (by decide)) (by decide)

end MopServer.DungeonFinder
