import MopServer.Battlegrounds.Queue
import MopServer.Foundation.Placement

/-! # What the structure of a battleground queue is

A queue is looked at as four maps: the lists, the faction of each live group, its players, and
the group of each queued player.  Whatever a call does to these maps is to enlist a group, to
withdraw a player, to dissolve a group that has become empty, or to transfer a group from one
list to another together with its faction.
-/

namespace MopServer.Battlegrounds

open Foundation

@[simp]
theorem teamIndex_normal (index : TeamIndex) : (QueueGroupType.normal index).teamIndex = index := by
  cases index <;> rfl

@[simp]
theorem teamIndex_premade (index : TeamIndex) :
    (QueueGroupType.premade index).teamIndex = index := by
  cases index <;> rfl

/-- What the structure of a queue is about. -/
@[ext]
structure View where
  lists : Slot → List Nat
  faction : Nat → Option TeamIndex
  players : Nat → Option (List UInt64)
  owner : UInt64 → Option Nat
  fresh : Nat

def BattlegroundQueue.view (queue : BattlegroundQueue) : View where
  lists := queue.queuedGroups
  faction := fun id => (queue.groups.get? id).map fun row => row.info.team.index
  players := fun id => (queue.groups.get? id).map fun row => row.info.players
  owner := fun guid => (queue.queuedPlayers.get? guid).map PlayerQueueInfo.groupInfo
  fresh := queue.nextGroup

namespace View

variable {index : TeamIndex} {id : Nat}

/-- Every live group is in one list, a list of its faction, and a player is queued with a group
exactly when he is one of its players. -/
structure Structured (view : View) : Prop where
  placed : ∃ place : Nat → Option Slot, Places place view.lists ∧
    ∀ id, (place id).map (fun slot => slot.type.teamIndex) = view.faction id
  live : ∀ id, view.faction id = none ↔ view.players id = none
  fresh : ∀ id, view.fresh ≤ id → view.players id = none
  nonempty : ∀ id players, view.players id = some players → players ≠ []
  nodup : ∀ id players, view.players id = some players → players.Nodup
  owner_iff : ∀ guid id, view.owner guid = some id ↔
    ∃ players, view.players id = some players ∧ guid ∈ players

variable (view : View)

/-- A new group waits at the end of a list. -/
def enlist (slot : Slot) (members : List UInt64) : View where
  lists := Function.update view.lists slot (view.lists slot ++ [view.fresh])
  faction := Function.update view.faction view.fresh (some slot.type.teamIndex)
  players := Function.update view.players view.fresh (some members)
  owner := fun guid => if guid ∈ members then some view.fresh else view.owner guid
  fresh := view.fresh + 1

/-- A player leaves his group. -/
def withdraw (id : Nat) (guid : UInt64) : View where
  lists := view.lists
  faction := view.faction
  players := Function.update view.players id ((view.players id).map (List.erase · guid))
  owner := Function.update view.owner guid none
  fresh := view.fresh

/-- A group is no more. -/
def dissolve (slot : Slot) (id : Nat) : View where
  lists := Function.update view.lists slot ((view.lists slot).erase id)
  faction := Function.update view.faction id none
  players := Function.update view.players id none
  owner := view.owner
  fresh := view.fresh

/-- A group goes over to the front of another list. -/
def relist (source target : Slot) (id : Nat) : View :=
  { view with
    lists := Function.update (Function.update view.lists target (id :: view.lists target)) source
      ((view.lists source).erase id) }

/-- A group plays for a faction. -/
def enter (id : Nat) (index : TeamIndex) : View :=
  { view with faction := Function.update view.faction id (some index) }

/-- A group goes over to another list and to the faction of that list. -/
def transfer (source target : Slot) (id : Nat) : View :=
  (view.relist source target id).enter id target.type.teamIndex

/-- A group already of a faction enters it. -/
theorem enter_of_faction {view : View} (hfaction : view.faction id = some index) :
    view.enter id index = view := by
  unfold enter
  rw [← hfaction, Function.update_eq_self]

/-- A rated group is seated in the list of a side. -/
def seat (view : View) (bracket : Bracket) (id : Nat) (side : TeamIndex) : View :=
  if view.faction id = some side then view
  else view.transfer ⟨bracket, .premade side.other⟩ ⟨bracket, .premade side⟩ id

namespace Structured

variable {view : View} {slot : Slot} (hview : view.Structured)

include hview in
theorem mem_lists_iff :
    ∃ place : Nat → Option Slot, Places place view.lists ∧
      ∀ id slot, id ∈ view.lists slot → place id = some slot ∧
        view.faction id = some slot.type.teamIndex := by
  obtain ⟨place, hplaces, hfaction⟩ := hview.placed
  refine ⟨place, hplaces, ?_⟩
  intro id slot hmem
  have hplace := (hplaces.mem_iff slot id).mp hmem
  exact ⟨hplace, by rw [← hfaction, hplace]; rfl⟩

include hview in
theorem faction_of_mem (hmem : id ∈ view.lists slot) :
    view.faction id = some slot.type.teamIndex := by
  obtain ⟨_, _, hmem_lists⟩ := hview.mem_lists_iff
  exact (hmem_lists id slot hmem).2

include hview in
theorem nodup_lists (slot : Slot) : (view.lists slot).Nodup := by
  obtain ⟨_, hplaces, _⟩ := hview.placed
  exact hplaces.nodup slot

include hview in
theorem exists_mem_lists (hfaction : view.faction id = some index) :
    ∃ slot, id ∈ view.lists slot ∧ slot.type.teamIndex = index := by
  obtain ⟨place, hplaces, hplace⟩ := hview.placed
  have hid := hplace id
  rw [hfaction] at hid
  obtain ⟨slot, hslot, hindex⟩ := Option.map_eq_some_iff.mp hid
  exact ⟨slot, (hplaces.mem_iff slot id).mpr hslot, hindex⟩

include hview in
theorem enlist (slot : Slot) {members : List UInt64} (hnonempty : members ≠ [])
    (hnodup : members.Nodup) (hnew : ∀ guid ∈ members, view.owner guid = none) :
    (view.enlist slot members).Structured := by
  have hfresh : view.players view.fresh = none := hview.fresh _ le_rfl
  have hfaction : view.faction view.fresh = none := (hview.live _).mpr hfresh
  have hmine : (view.enlist slot members).players view.fresh = some members := by
    simp [View.enlist]
  have hother : ∀ {id}, id ≠ view.fresh → (view.enlist slot members).players id =
      view.players id := by
    intro id hid
    simp [View.enlist, Function.update_of_ne hid]
  constructor
  · obtain ⟨place, hplaces, hplace⟩ := hview.placed
    have hunplaced : place view.fresh = none := by
      have hid := hplace view.fresh
      rw [hfaction] at hid
      exact Option.map_eq_none_iff.mp hid
    refine ⟨_, hplaces.append hunplaced slot, ?_⟩
    intro id
    rcases eq_or_ne id view.fresh with rfl | hid
    · simp [View.enlist]
    · simp [View.enlist, Function.update_of_ne hid, hplace]
  · intro id
    rcases eq_or_ne id view.fresh with rfl | hid
    · simp [View.enlist]
    · simp [View.enlist, Function.update_of_ne hid, hview.live]
  · intro id hle
    simp only [View.enlist] at hle
    rw [hother (by omega)]
    exact hview.fresh id (by omega)
  · intro id players hplayers
    rcases eq_or_ne id view.fresh with rfl | hid
    · rw [hmine] at hplayers
      exact Option.some.inj hplayers ▸ hnonempty
    · rw [hother hid] at hplayers
      exact hview.nonempty id players hplayers
  · intro id players hplayers
    rcases eq_or_ne id view.fresh with rfl | hid
    · rw [hmine] at hplayers
      exact Option.some.inj hplayers ▸ hnodup
    · rw [hother hid] at hplayers
      exact hview.nodup id players hplayers
  · intro guid id
    have hold := hview.owner_iff guid id
    have howner : (view.enlist slot members).owner guid =
        if guid ∈ members then some view.fresh else view.owner guid := rfl
    rw [howner]
    rcases eq_or_ne id view.fresh with rfl | hid
    · rw [hmine]
      by_cases hguid : guid ∈ members
      · simp [hguid]
      · -- an old entry does not point to the address that has just been handed out
        simp [hguid, hold, hfresh]
    · rw [hother hid]
      by_cases hguid : guid ∈ members
      · rw [hnew guid hguid] at hold
        rw [← hold]
        simp [hguid, Ne.symm hid]
      · simp [hguid, hold]

include hview in
/-- The player who leaves is not the last one of his group. -/
theorem withdraw {guid : UInt64} {players : List UInt64} (hplayers : view.players id = some players)
    (hguid : guid ∈ players) (hrest : players.erase guid ≠ []) :
    (view.withdraw id guid).Structured := by
  have hnodup := hview.nodup id players hplayers
  have hnew : (view.withdraw id guid).players id = some (players.erase guid) := by
    simp [View.withdraw, hplayers]
  have hother : ∀ {other}, other ≠ id → (view.withdraw id guid).players other =
      view.players other := by
    intro other hne
    simp [View.withdraw, Function.update_of_ne hne]
  constructor
  · exact hview.placed
  · intro other
    rcases eq_or_ne other id with rfl | hne
    · rw [hnew, show (view.withdraw other guid).faction = view.faction from rfl,
        hview.live, hplayers]
      simp
    · rw [hother hne]
      exact hview.live other
  · intro other hle
    have hnone := hview.fresh other hle
    have hne : other ≠ id := by
      rintro rfl
      rw [hplayers] at hnone
      exact absurd hnone nofun
    rw [hother hne]
    exact hnone
  · intro other rest hsome
    rcases eq_or_ne other id with rfl | hne
    · rw [hnew] at hsome
      exact Option.some.inj hsome ▸ hrest
    · rw [hother hne] at hsome
      exact hview.nonempty other rest hsome
  · intro other rest hsome
    rcases eq_or_ne other id with rfl | hne
    · rw [hnew] at hsome
      exact Option.some.inj hsome ▸ hnodup.erase guid
    · rw [hother hne] at hsome
      exact hview.nodup other rest hsome
  · intro someone other
    have hold := hview.owner_iff someone other
    have howner : (view.withdraw id guid).owner someone =
        if someone = guid then none else view.owner someone := by
      simp [View.withdraw, Function.update_apply]
    rw [howner]
    rcases eq_or_ne other id with rfl | hne
    · rw [hnew]
      rcases eq_or_ne someone guid with rfl | hsomeone
      · simp [hnodup.mem_erase_iff]
      · simp [hsomeone, hold, hplayers, List.mem_erase_of_ne hsomeone]
    · rw [hother hne]
      rcases eq_or_ne someone guid with rfl | hsomeone
      · -- he was queued with this group and with no other
        have hmine := (hview.owner_iff someone id).mpr ⟨players, hplayers, hguid⟩
        rw [hmine] at hold
        rw [← hold]
        simp [Ne.symm hne]
      · simp [hsomeone, hold]

include hview in
/-- The last player leaves and his group with him. -/
theorem dissolve {guid : UInt64} (hplayers : view.players id = some [guid])
    (hmem : id ∈ view.lists slot) : ((view.withdraw id guid).dissolve slot id).Structured := by
  have hgone : ((view.withdraw id guid).dissolve slot id).players id = none := by
    simp [View.dissolve]
  have hother : ∀ {other}, other ≠ id → ((view.withdraw id guid).dissolve slot id).players other =
      view.players other := by
    intro other hne
    simp [View.dissolve, View.withdraw, Function.update_of_ne hne]
  constructor
  · obtain ⟨place, hplaces, hplace⟩ := hview.placed
    refine ⟨_, hplaces.erase ((hplaces.mem_iff slot id).mp hmem), ?_⟩
    intro other
    rcases eq_or_ne other id with rfl | hne
    · simp [View.dissolve]
    · simp [View.dissolve, View.withdraw, Function.update_of_ne hne, hplace]
  · intro other
    rcases eq_or_ne other id with rfl | hne
    · simp [View.dissolve]
    · rw [hother hne]
      simp [View.dissolve, View.withdraw, Function.update_of_ne hne, hview.live]
  · intro other hle
    rcases eq_or_ne other id with rfl | hne
    · exact hgone
    · rw [hother hne]
      exact hview.fresh other hle
  · intro other rest hsome
    rcases eq_or_ne other id with rfl | hne
    · rw [hgone] at hsome
      exact absurd hsome nofun
    · rw [hother hne] at hsome
      exact hview.nonempty other rest hsome
  · intro other rest hsome
    rcases eq_or_ne other id with rfl | hne
    · rw [hgone] at hsome
      exact absurd hsome nofun
    · rw [hother hne] at hsome
      exact hview.nodup other rest hsome
  · intro someone other
    have hold := hview.owner_iff someone other
    have hmine := hview.owner_iff someone id
    have howner : ((view.withdraw id guid).dissolve slot id).owner someone =
        if someone = guid then none else view.owner someone := by
      simp [View.dissolve, View.withdraw, Function.update_apply]
    rw [howner]
    simp only [hplayers, Option.some.injEq, exists_eq_left', List.mem_singleton] at hmine
    rcases eq_or_ne other id with rfl | hne
    · rw [hgone]
      rcases eq_or_ne someone guid with rfl | hsomeone
      · simp
      · simp [hsomeone, hmine]
    · rw [hother hne]
      rcases eq_or_ne someone guid with rfl | hsomeone
      · rw [hmine.mpr rfl] at hold
        rw [← hold]
        simp [Ne.symm hne]
      · simp [hsomeone, hold]

include hview in
theorem transfer {source target : Slot} (hmem : id ∈ view.lists source) (hne : target ≠ source) :
    (view.transfer source target id).Structured where
  placed := by
    obtain ⟨place, hplaces, hplace⟩ := hview.placed
    refine ⟨_, hplaces.move ((hplaces.mem_iff source id).mp hmem) hne, ?_⟩
    intro other
    rcases eq_or_ne other id with rfl | hother
    · simp [View.transfer, View.enter]
    · simp [View.transfer, View.relist, View.enter, Function.update_of_ne hother, hplace]
  live := by
    intro other
    rcases eq_or_ne other id with rfl | hother
    · have hlive := hview.live other
      rw [hview.faction_of_mem hmem] at hlive
      simpa [View.transfer, View.relist, View.enter] using hlive
    · simp [View.transfer, View.relist, View.enter, Function.update_of_ne hother, hview.live]
  fresh := hview.fresh
  nonempty := hview.nonempty
  nodup := hview.nodup
  owner_iff := hview.owner_iff

variable {bracket : Bracket}

include hview in
theorem seat (hmem : id ∈ view.lists ⟨bracket, .premade index⟩) (side : TeamIndex) :
    (view.seat bracket id side).Structured := by
  have hfaction := hview.faction_of_mem hmem
  rw [teamIndex_premade] at hfaction
  unfold View.seat
  split
  · exact hview
  next hother =>
    have hindex : index = side.other := by
      rw [hfaction] at hother
      cases index <;> cases side <;> simp_all [TeamIndex.other]
    subst hindex
    apply hview.transfer hmem
    cases side <;> simp [QueueGroupType.premade, TeamIndex.other]

/-- Another group stays where it is when one is seated. -/
theorem mem_seat {other : Nat} {side : TeamIndex} (hmem : other ∈ view.lists slot)
    (hne : other ≠ id) : other ∈ (view.seat bracket id side).lists slot := by
  unfold View.seat
  split
  · exact hmem
  · simp only [View.transfer, View.relist, View.enter, Function.update_apply]
    split
    next heq => exact (List.mem_erase_of_ne hne).mpr (heq ▸ hmem)
    · split
      next heq => exact List.mem_cons_of_mem _ (heq ▸ hmem)
      · exact hmem

end Structured

end View

end MopServer.Battlegrounds
