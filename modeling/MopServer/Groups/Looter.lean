import MopServer.Groups.Group
import MopServer.Loots.Loot

/-! # Looting in turns

In most loot methods the members of a group take turns.  The turn goes to the next member who is
near the looted object.
-/

namespace MopServer.Groups

open MopServer.Loots (LootMethod)

/-- A group with what looting in turns knows; nobody has the guid 0. -/
structure LootingGroup extends Group where
  lootMethod : LootMethod
  looterGuid : UInt64

namespace LootingGroup

variable (group : LootingGroup)

/-- Where the looter is, or the end of the members. -/
def looterSlot : Nat := group.memberSlots.findIdx fun slot => slot.guid = group.looterGuid

def hasLooter : Bool := group.looterSlot < group.memberSlots.length

/-- The search starts behind the looter, and is continued from the first member. -/
def searchStart : Nat := if group.hasLooter then group.looterSlot + 1 else group.looterSlot

variable (near : UInt64 → Bool)

def newLooter : Option MemberSlot :=
  match (group.memberSlots.drop group.searchStart).find? fun slot => near slot.guid with
  | some slot => some slot
  | none => (group.memberSlots.take group.searchStart).find? fun slot => near slot.guid

variable (ifneed : Bool)

/-- `UpdateLooterGuid`; a player who is not online is not near. -/
def updateLooterGuid : LootingGroup :=
  match group.lootMethod with
  | .masterLoot => group
  | .freeForAll => group
  | _ =>
    if group.hasLooter && ifneed && near group.looterGuid then group
    else
      match group.newLooter near with
      | some slot =>
        if group.looterGuid ≠ slot.guid then { group with looterGuid := slot.guid } else group
      | none => { group with looterGuid := 0 }

/-- Who may loot a killed creature. -/
def turnOf : UInt64 := (group.updateLooterGuid near true).looterGuid

/-- A kill: whoever has the turn may loot, and the next one gets it. -/
def kill : LootingGroup :=
  (group.updateLooterGuid near true).updateLooterGuid near false

def turns : LootingGroup → List (UInt64 → Bool) → List UInt64
  | _, [] => []
  | group, near :: rest => group.turnOf near :: turns (group.kill near) rest

/-- Who gets the turn in a run of updates. -/
def looters : LootingGroup → List (UInt64 → Bool) → List UInt64
  | _, [] => []
  | group, near :: rest =>
    let next := group.updateLooterGuid near false
    next.looterGuid :: looters next rest

def guids : List UInt64 := group.memberSlots.map MemberSlot.guid

/-- The members in the order in which they come after the looter, who is the last of them. -/
def afterLooter : List MemberSlot :=
  match group.memberSlots.findIdx? fun slot => slot.guid = group.looterGuid with
  | some index => group.memberSlots.rotate (index + 1)
  | none => group.memberSlots

/-- The loot method is one of those with turns. -/
def TakesTurns : Prop := group.lootMethod ≠ .masterLoot ∧ group.lootMethod ≠ .freeForAll

/-- The turn goes to the first member near who comes after the looter. -/
structure NextTurn (near : UInt64 → Bool) (after : UInt64) : Prop where
  first : after = (group.afterLooter.find? fun slot => near slot.guid).elim 0 MemberSlot.guid
  looter_last : group.guids.Nodup → group.looterGuid ∈ group.guids → after = group.looterGuid →
    ∀ guid ∈ group.guids, near guid = true → guid = group.looterGuid
  nobody : (∀ guid ∈ group.guids, near guid = false) → after = 0

/-- In any stretch of as many turns as there are members, everybody has one. -/
def OncePerCycle (turns : List UInt64) : Prop :=
  ∀ start, start + group.guids.length ≤ turns.length →
    ((turns.drop start).take group.guids.length).Perm group.guids

variable {group}

/-! ## One update -/

/-- The search starts behind the looter and goes round once. -/
theorem afterLooter_eq :
    group.afterLooter =
      group.memberSlots.drop group.searchStart ++ group.memberSlots.take group.searchStart := by
  unfold afterLooter searchStart hasLooter looterSlot
  cases hindex : group.memberSlots.findIdx? fun slot => slot.guid = group.looterGuid with
  | none =>
    rw [List.findIdx?_eq_none_iff_findIdx_eq.mp hindex]
    simp
  | some index =>
    obtain ⟨hlt, hfind⟩ := List.findIdx?_eq_some_iff_findIdx_eq.mp hindex
    rw [hfind, decide_eq_true hlt, if_pos rfl]
    exact List.rotate_eq_drop_append_take hlt

theorem newLooter_eq :
    group.newLooter near = group.afterLooter.find? fun slot => near slot.guid := by
  rw [afterLooter_eq, List.find?_append]
  unfold newLooter
  cases (group.memberSlots.drop group.searchStart).find? fun slot => near slot.guid <;> rfl

/-- The looter stays if that is enough; else it is the first near member of the search. -/
theorem updateLooterGuid_eq (hturns : group.TakesTurns) (near : UInt64 → Bool) (ifneed : Bool) :
    group.updateLooterGuid near ifneed =
      if group.hasLooter && ifneed && near group.looterGuid then group
      else { group with
        looterGuid :=
          (group.afterLooter.find? fun slot => near slot.guid).elim 0 MemberSlot.guid } := by
  have hsame : ∀ guid, group.looterGuid = guid → { group with looterGuid := guid } = group := by
    rintro _ rfl
    rfl
  have hupdate : group.updateLooterGuid near ifneed =
      if group.hasLooter && ifneed && near group.looterGuid then group
      else
        match group.newLooter near with
        | some slot =>
          if group.looterGuid ≠ slot.guid then { group with looterGuid := slot.guid } else group
        | none => { group with looterGuid := 0 } := by
    unfold updateLooterGuid
    split
    next hmethod => exact absurd hmethod hturns.1
    next hmethod => exact absurd hmethod hturns.2
    · rfl
  rw [hupdate, newLooter_eq]
  congr 1
  cases group.afterLooter.find? fun slot => near slot.guid with
  | none => rfl
  | some slot =>
    dsimp only [Option.elim_some]
    split
    · rfl
    next heq => exact (hsame _ (not_not.mp heq)).symm

theorem mem_guids_iff {guid : UInt64} :
    guid ∈ group.guids ↔ ∃ slot ∈ group.memberSlots, slot.guid = guid := List.mem_map

theorem mem_afterLooter {slot : MemberSlot} :
    slot ∈ group.afterLooter ↔ slot ∈ group.memberSlots := by
  rw [afterLooter_eq, List.mem_append, or_comm, ← List.mem_append, List.take_append_drop]

theorem hasLooter_iff : group.hasLooter = true ↔ group.looterGuid ∈ group.guids := by
  unfold hasLooter looterSlot
  rw [decide_eq_true_eq, List.findIdx_lt_length, mem_guids_iff]
  simp

/-- The search goes through the members from the place behind the looter. -/
theorem afterLooter_of_getElem (hnodup : group.guids.Nodup) {index : Nat}
    (hindex : group.guids[index]? = some group.looterGuid) :
    group.afterLooter = group.memberSlots.rotate (index + 1) := by
  obtain ⟨hlt, hlooter⟩ := List.getElem?_eq_some_iff.mp hindex
  have hfind : group.memberSlots.findIdx? (fun slot => slot.guid = group.looterGuid) =
      some index := by
    have hslots : index < group.memberSlots.length := by rwa [guids, List.length_map] at hlt
    refine List.findIdx?_eq_some_iff_getElem.mpr ⟨hslots, ?_, fun other hother => ?_⟩
    · rw [← hlooter]
      simp [guids]
    · simp only [decide_eq_true_eq]
      intro heq
      have hguid : group.guids[other] = group.guids[index] := by
        rw [hlooter, ← heq]
        simp [guids]
      exact hother.ne ((hnodup.getElem_inj_iff).mp hguid)
  unfold afterLooter
  rw [hfind]

theorem afterLooter_nodup (hnodup : group.guids.Nodup) :
    (group.afterLooter.map MemberSlot.guid).Nodup := by
  have hperm : group.afterLooter.Perm group.memberSlots := by
    rw [afterLooter_eq]
    exact List.perm_append_comm.trans (List.Perm.of_eq (List.take_append_drop _ _))
  exact (hperm.map MemberSlot.guid).nodup_iff.mpr hnodup

/-- The looter is the last one in the search. -/
theorem afterLooter_last (hnodup : group.guids.Nodup) (hmem : group.looterGuid ∈ group.guids) :
    ∃ others slot, group.afterLooter = others ++ [slot] ∧ slot.guid = group.looterGuid ∧
      ∀ other ∈ others, other.guid ≠ group.looterGuid := by
  obtain ⟨index, hlt, hindex⟩ := List.getElem_of_mem hmem
  have hslots : index < group.memberSlots.length := by rwa [guids, List.length_map] at hlt
  have hguid : group.memberSlots[index].guid = group.looterGuid := by
    rw [← hindex]
    simp [guids]
  have hafter : group.afterLooter =
      (group.memberSlots.drop (index + 1) ++ group.memberSlots.take index) ++
        [group.memberSlots[index]] := by
    rw [afterLooter_of_getElem hnodup (List.getElem?_eq_some_iff.mpr ⟨hlt, hindex⟩),
      List.rotate_eq_drop_append_take hslots, List.take_succ_eq_append_getElem hslots,
      List.append_assoc]
  refine ⟨_, _, hafter, hguid, fun other hother heq => ?_⟩
  have hdistinct := afterLooter_nodup hnodup
  rw [hafter, List.map_append, List.nodup_append] at hdistinct
  refine hdistinct.2.2 other.guid (List.mem_map_of_mem hother) group.memberSlots[index].guid ?_ ?_
  · exact List.mem_singleton_self _
  · exact heq.trans hguid.symm

/-- An update gives the turn to the next member who is near. -/
theorem updateLooterGuid_nextTurn (hturns : group.TakesTurns) (near : UInt64 → Bool) :
    group.NextTurn near (group.updateLooterGuid near false).looterGuid := by
  have hafter : (group.updateLooterGuid near false).looterGuid =
      (group.afterLooter.find? fun slot => near slot.guid).elim 0 MemberSlot.guid := by
    rw [updateLooterGuid_eq hturns, Bool.and_false, Bool.false_and, if_neg Bool.false_ne_true]
  rw [hafter]
  refine ⟨rfl, fun hnodup hmem hsame guid hguid hnear => ?_, fun hnobody => ?_⟩
  · obtain ⟨others, last, hafter, hlast, hothers⟩ := afterLooter_last hnodup hmem
    rw [hafter, List.find?_append] at hsame
    obtain ⟨slot, hslot, rfl⟩ := mem_guids_iff.mp hguid
    have hplace : slot ∈ others ∨ slot = last := by
      have hmem := mem_afterLooter.mpr hslot
      rwa [hafter, List.mem_append, List.mem_singleton] at hmem
    refine hplace.elim (fun hother => ?_) fun heq => heq ▸ hlast
    -- Somebody else is near, so the turn does not stay where it is.
    cases hfound : others.find? fun slot => near slot.guid with
    | none => exact absurd hnear (List.find?_eq_none.mp hfound slot hother)
    | some found =>
      rw [hfound, Option.some_or, Option.elim_some] at hsame
      exact absurd hsame (hothers found (List.mem_of_find?_eq_some hfound))
  · have hnone : (group.afterLooter.find? fun slot => near slot.guid) = none := by
      refine List.find?_eq_none.mpr fun slot hslot => ?_
      rw [hnobody slot.guid (mem_guids_iff.mpr ⟨slot, mem_afterLooter.mp hslot, rfl⟩)]
      exact Bool.false_ne_true
    rw [hnone]
    rfl

/-! ## Runs -/

theorem updateLooterGuid_memberSlots :
    (group.updateLooterGuid near ifneed).memberSlots = group.memberSlots := by
  unfold updateLooterGuid
  split
  · rfl
  · rfl
  split
  · rfl
  split
  · split <;> rfl
  · rfl

theorem updateLooterGuid_guids : (group.updateLooterGuid near ifneed).guids = group.guids :=
  congrArg (List.map MemberSlot.guid) (updateLooterGuid_memberSlots near ifneed)

theorem updateLooterGuid_lootMethod :
    (group.updateLooterGuid near ifneed).lootMethod = group.lootMethod := by
  unfold updateLooterGuid
  split
  · rfl
  · rfl
  split
  · rfl
  split
  · split <;> rfl
  · rfl

/-- A group with turns whose members are all different. -/
structure Turning (group : LootingGroup) : Prop where
  turns : group.TakesTurns
  nodup : group.guids.Nodup

theorem Turning.update (hturning : group.Turning) (near : UInt64 → Bool) (ifneed : Bool) :
    (group.updateLooterGuid near ifneed).Turning := by
  refine ⟨?_, ?_⟩
  · unfold TakesTurns
    rw [updateLooterGuid_lootMethod]
    exact hturning.turns
  · rw [updateLooterGuid_guids]
    exact hturning.nodup

variable (group) in
/-- All members are near. -/
def AllNear : Prop := ∀ guid ∈ group.guids, near guid = true

variable (group) in
/-- The member who has the turn, by his place. -/
def AtTurn (place : Nat) : Prop := group.guids[place % group.guids.length]? = some group.looterGuid

theorem find?_afterLooter {near : UInt64 → Bool} (hnear : group.AllNear near) :
    (group.afterLooter.find? fun slot => near slot.guid) = group.afterLooter.head? := by
  cases hslots : group.afterLooter with
  | nil => rfl
  | cons slot rest =>
    have hslot : slot ∈ group.memberSlots := mem_afterLooter.mp (hslots ▸ List.mem_cons_self)
    exact List.find?_cons_of_pos (hnear _ (mem_guids_iff.mpr ⟨slot, hslot, rfl⟩))

/-- With everybody near, the turn goes one place on. -/
theorem AtTurn.next (hturning : group.Turning) {near : UInt64 → Bool} (hnear : group.AllNear near)
    {place : Nat} (hat : group.AtTurn place) :
    (group.updateLooterGuid near false).AtTurn (place + 1) := by
  obtain ⟨hlt, -⟩ := List.getElem?_eq_some_iff.mp hat
  have hslots : group.memberSlots.length = group.guids.length := (List.length_map _).symm
  have hlooter : (group.updateLooterGuid near false).looterGuid =
      (group.afterLooter.head?).elim 0 MemberSlot.guid := by
    rw [updateLooterGuid_eq hturning.turns, Bool.and_false, Bool.false_and,
      if_neg Bool.false_ne_true, find?_afterLooter hnear]
  have hplace : (place + 1) % group.guids.length < group.memberSlots.length := by
    rw [hslots]
    exact Nat.mod_lt _ (by omega)
  have hhead : group.afterLooter.head? =
      some group.memberSlots[(place + 1) % group.guids.length] := by
    rw [afterLooter_of_getElem hturning.nodup hat, List.head?_eq_getElem?,
      List.getElem?_rotate (by omega), hslots, zero_add, Nat.mod_add_mod,
      List.getElem?_eq_getElem hplace]
  unfold AtTurn
  rw [hlooter, hhead, updateLooterGuid_guids]
  exact List.getElem?_map.trans (congrArg _ (List.getElem?_eq_getElem hplace))

/-- Where an update is made only if needed, a looter who is near keeps the turn. -/
theorem AtTurn.keeps (hturning : group.Turning) {near : UInt64 → Bool} (hnear : group.AllNear near)
    {place : Nat} (hat : group.AtTurn place) : group.updateLooterGuid near true = group := by
  have hmem : group.looterGuid ∈ group.guids := List.mem_of_getElem? hat
  rw [updateLooterGuid_eq hturning.turns, hasLooter_iff.mpr hmem, hnear _ hmem]
  rfl

/-- When the looter has left the group, the first member has the turn. -/
theorem atTurn_first (hturning : group.Turning) {near : UInt64 → Bool} (hnear : group.AllNear near)
    (hsome : group.guids ≠ []) (hmem : group.looterGuid ∉ group.guids) (ifneed : Bool) :
    (group.updateLooterGuid near ifneed).AtTurn 0 := by
  have hlooter : group.hasLooter = false :=
    Bool.eq_false_iff.mpr fun hlooter => hmem (hasLooter_iff.mp hlooter)
  have hafter : group.afterLooter = group.memberSlots := by
    rw [afterLooter_eq]
    unfold searchStart
    have hend : group.memberSlots.length ≤ group.looterSlot :=
      Nat.le_of_not_lt (of_decide_eq_false hlooter)
    rw [hlooter, if_neg Bool.false_ne_true, List.drop_eq_nil_of_le hend, List.take_of_length_le hend,
      List.nil_append]
  unfold AtTurn
  rw [updateLooterGuid_guids, updateLooterGuid_eq hturning.turns, hlooter, Bool.false_and,
    Bool.false_and, if_neg Bool.false_ne_true, find?_afterLooter hnear, hafter, Nat.zero_mod]
  unfold guids at hsome ⊢
  cases hslots : group.memberSlots with
  | nil =>
    rw [hslots] at hsome
    exact absurd rfl hsome
  | cons slot rest => rfl

/-- A run of turns goes through the members from some place on. -/
def InOrder (guids turns : List UInt64) : Prop :=
  ∃ place, ∀ step < turns.length, turns[step]? = guids[(place + step) % guids.length]?

/-- Turns in the order of the list give each member one a cycle. -/
theorem inOrder_oncePerCycle {turns : List UInt64} (hturns : InOrder group.guids turns) :
    group.OncePerCycle turns := by
  obtain ⟨place, hplace⟩ := hturns
  intro start hstart
  have hrotate : (turns.drop start).take group.guids.length = group.guids.rotate (place + start) := by
    refine List.ext_getElem? fun step => ?_
    by_cases hstep : step < group.guids.length
    · rw [List.getElem?_take_of_lt hstep, List.getElem?_drop, hplace _ (by omega),
        List.getElem?_rotate hstep]
      congr 2
      omega
    · rw [List.getElem?_eq_none (by simp; omega), List.getElem?_eq_none (by simp; omega)]
  rw [hrotate]
  exact List.rotate_perm _ _

theorem AllNear.update {near other : UInt64 → Bool} {ifneed : Bool} (hnear : group.AllNear near) :
    (group.updateLooterGuid other ifneed).AllNear near := by
  unfold AllNear
  rwa [updateLooterGuid_guids]

/-- Each kill takes the turn and passes it on, so that the turns go round. -/
theorem turns_getElem? (hturning : group.Turning) (kills : List (UInt64 → Bool))
    (hnear : ∀ near ∈ kills, group.AllNear near) (place : Nat)
    (hfirst : ∀ near ∈ kills.head?, (group.updateLooterGuid near true).AtTurn place) :
    ∀ step < (group.turns kills).length,
      (group.turns kills)[step]? = group.guids[(place + step) % group.guids.length]? := by
  induction kills generalizing group place with
  | nil => exact fun step hstep => absurd hstep (Nat.not_lt_zero _)
  | cons near rest ih =>
    rintro (_ | step) hstep
    · have hat := hfirst near rfl
      unfold AtTurn at hat
      rw [updateLooterGuid_guids] at hat
      exact hat.symm
    · have hkill : (group.kill near).guids = group.guids := by
        unfold kill
        rw [updateLooterGuid_guids, updateLooterGuid_guids]
      have hturning' : (group.kill near).Turning := (hturning.update near true).update near false
      have hnear' : ∀ other ∈ rest, (group.kill near).AllNear other := fun other hother =>
        (hnear other (List.mem_cons_of_mem _ hother)).update.update
      have hat : (group.kill near).AtTurn (place + 1) :=
        (hfirst near rfl).next (hturning.update near true) (hnear near List.mem_cons_self).update
      have hrest := ih hturning' hnear' (place + 1) (fun other hother => ?_) step
        (Nat.lt_of_succ_lt_succ hstep)
      · rw [hkill] at hrest
        rw [Nat.add_assoc, Nat.add_comm 1 step] at hrest
        exact hrest
      · rw [hat.keeps hturning' (hnear' other (List.mem_of_mem_head? hother))]
        exact hat

theorem looters_getElem? (hturning : group.Turning) (nears : List (UInt64 → Bool))
    (hnear : ∀ near ∈ nears, group.AllNear near) (place : Nat)
    (hfirst : ∀ near ∈ nears.head?, (group.updateLooterGuid near false).AtTurn place) :
    ∀ step < (group.looters nears).length,
      (group.looters nears)[step]? = group.guids[(place + step) % group.guids.length]? := by
  induction nears generalizing group place with
  | nil => exact fun step hstep => absurd hstep (Nat.not_lt_zero _)
  | cons near rest ih =>
    have hat := hfirst near rfl
    rintro (_ | step) hstep
    · unfold AtTurn at hat
      rw [updateLooterGuid_guids] at hat
      exact hat.symm
    · have hnear' : ∀ other ∈ rest, (group.updateLooterGuid near false).AllNear other :=
        fun other hother => (hnear other (List.mem_cons_of_mem _ hother)).update
      have hrest := ih (hturning.update near false) hnear' (place + 1) (fun other hother =>
        hat.next (hturning.update near false) (hnear' other (List.mem_of_mem_head? hother))) step
        (Nat.lt_of_succ_lt_succ hstep)
      rw [updateLooterGuid_guids, Nat.add_assoc, Nat.add_comm 1 step] at hrest
      exact hrest

/-- Wherever the turn is, an update with everybody near gives it to a member whose place depends on
nothing else. -/
theorem exists_atTurn (hturning : group.Turning) (hsome : group.guids ≠ []) (ifneed : Bool) :
    ∃ place, ∀ near, group.AllNear near → (group.updateLooterGuid near ifneed).AtTurn place := by
  by_cases hmem : group.looterGuid ∈ group.guids
  · obtain ⟨place, hlt, hplace⟩ := List.getElem_of_mem hmem
    have hat : group.AtTurn place := by
      unfold AtTurn
      rw [Nat.mod_eq_of_lt hlt]
      exact List.getElem?_eq_some_iff.mpr ⟨hlt, hplace⟩
    cases ifneed with
    | true => exact ⟨place, fun near hnear => (hat.keeps hturning hnear).symm ▸ hat⟩
    | false => exact ⟨place + 1, fun near hnear => hat.next hturning hnear⟩
  · exact ⟨0, fun near hnear => atTurn_first hturning hnear hsome hmem ifneed⟩

theorem oncePerCycle_of_nil {turns : List UInt64} (hnone : group.guids = []) :
    group.OncePerCycle turns := by
  intro start _
  rw [hnone, List.length_nil, List.take_zero]

variable (group) in
/-- Loot is taken in turns: an update passes the turn on as it should, and with everybody near, all
members have their turn once per cycle. -/
structure RoundRobin : Prop where
  next : ∀ near, group.NextTurn near (group.updateLooterGuid near false).looterGuid
  updates : group.guids.Nodup → ∀ nears, (∀ near ∈ nears, group.AllNear near) →
    group.OncePerCycle (group.looters nears)
  kills : group.guids.Nodup → ∀ kills, (∀ near ∈ kills, group.AllNear near) →
    group.OncePerCycle (group.turns kills)

theorem roundRobin_of_takesTurns (hturns : group.TakesTurns) : group.RoundRobin := by
  refine ⟨updateLooterGuid_nextTurn hturns, fun hnodup nears hnear => ?_,
    fun hnodup kills hnear => ?_⟩
  · by_cases hnone : group.guids = []
    · exact oncePerCycle_of_nil hnone
    · obtain ⟨place, hplace⟩ := exists_atTurn ⟨hturns, hnodup⟩ hnone false
      exact inOrder_oncePerCycle ⟨place, looters_getElem? ⟨hturns, hnodup⟩ nears hnear place
        fun near hfirst => hplace near (hnear near (List.mem_of_mem_head? hfirst))⟩
  · by_cases hnone : group.guids = []
    · exact oncePerCycle_of_nil hnone
    · obtain ⟨place, hplace⟩ := exists_atTurn ⟨hturns, hnodup⟩ hnone true
      exact inOrder_oncePerCycle ⟨place, turns_getElem? ⟨hturns, hnodup⟩ kills hnear place
        fun near hfirst => hplace near (hnear near (List.mem_of_mem_head? hfirst))⟩

/-- Three members, the second of whom has the turn. -/
def trio : LootingGroup where
  toGroup := { Group.blank .normal 1 with memberSlots := [⟨1, 0, 0⟩, ⟨2, 0, 0⟩, ⟨3, 0, 0⟩] }
  lootMethod := .groupLoot
  looterGuid := 2

theorem roundRobin_of_takesTurns_trio : trio.RoundRobin :=
  roundRobin_of_takesTurns ⟨by decide, by decide⟩

end LootingGroup

end MopServer.Groups
