import Mathlib.Data.List.Nodup
import Mathlib.Data.List.Count
import Mathlib.Logic.Function.Basic

/-! # Items spread over lists

A family of lists places its items when every item is in the list of its place, exactly once,
and in no other.
-/

namespace MopServer.Foundation

variable {Place Item : Type*} {place : Item → Option Place} {lists : Place → List Item}

/-- Each list holds the items of its place, without repetition. -/
structure Places (place : Item → Option Place) (lists : Place → List Item) : Prop where
  nodup : ∀ p, (lists p).Nodup
  mem_iff : ∀ p item, item ∈ lists p ↔ place item = some p

namespace Places

variable {p : Place} {item : Item} (hplaces : Places place lists)

include hplaces in
theorem notMem_of_ne {other : Place} (hmem : item ∈ lists p) (hne : other ≠ p) :
    item ∉ lists other := by
  rw [hplaces.mem_iff] at hmem ⊢
  rw [hmem]
  exact fun heq => hne (Option.some.inj heq).symm

variable [DecidableEq Item] (hitem : place item = some p)

include hplaces hitem in
theorem count_eq_one : (lists p).count item = 1 :=
  List.count_eq_one_of_mem (hplaces.nodup p) ((hplaces.mem_iff p item).mpr hitem)

variable [DecidableEq Place]

include hplaces in
theorem append (hitem : place item = none) (p : Place) :
    Places (Function.update place item (some p))
      (Function.update lists p (lists p ++ [item])) := by
  have hnot : ∀ q, item ∉ lists q := by
    intro q hmem
    rw [hplaces.mem_iff, hitem] at hmem
    exact absurd hmem nofun
  constructor
  · intro q
    rcases eq_or_ne q p with rfl | hq
    · rw [Function.update_self]
      exact List.nodup_append.mpr ⟨hplaces.nodup q, List.nodup_singleton item,
        fun x hx y hy heq => hnot q (by rwa [← List.mem_singleton.mp hy, ← heq])⟩
    · rw [Function.update_of_ne hq]
      exact hplaces.nodup q
  · intro q x
    have hold := hplaces.mem_iff q x
    rcases eq_or_ne x item with rfl | hx <;> rcases eq_or_ne q p with rfl | hq
    · simp
    · simp [Function.update_of_ne hq, hnot q, Ne.symm hq]
    · simp [hold, hx]
    · simp [Function.update_of_ne hq, Function.update_of_ne hx, hold]

include hplaces hitem in
theorem erase :
    Places (Function.update place item none)
      (Function.update lists p ((lists p).erase item)) := by
  constructor
  · intro q
    rcases eq_or_ne q p with rfl | hq
    · rw [Function.update_self]
      exact (hplaces.nodup q).erase item
    · rw [Function.update_of_ne hq]
      exact hplaces.nodup q
  · intro q x
    have hold := hplaces.mem_iff q x
    have hself := hplaces.mem_iff q item
    rcases eq_or_ne x item with rfl | hx <;> rcases eq_or_ne q p with rfl | hq
    · simp [(hplaces.nodup q).mem_erase_iff]
    · simp [Function.update_of_ne hq, hself, hitem, Ne.symm hq]
    · simp [Function.update_of_ne hx, List.mem_erase_of_ne hx, hold]
    · simp [Function.update_of_ne hq, Function.update_of_ne hx, hold]

include hplaces hitem in
/-- An item is put in front of another list and erased from its own. -/
theorem move {q : Place} (hne : q ≠ p) :
    Places (Function.update place item (some q))
      (Function.update (Function.update lists q (item :: lists q)) p
        ((lists p).erase item)) := by
  have hnot : item ∉ lists q := hplaces.notMem_of_ne ((hplaces.mem_iff p item).mpr hitem) hne
  constructor
  · intro r
    rcases eq_or_ne r p with rfl | hr
    · rw [Function.update_self]
      exact (hplaces.nodup r).erase item
    · rw [Function.update_of_ne hr]
      rcases eq_or_ne r q with rfl | hr'
      · rw [Function.update_self]
        exact List.nodup_cons.mpr ⟨hnot, hplaces.nodup r⟩
      · rw [Function.update_of_ne hr']
        exact hplaces.nodup r
  · intro r x
    have hold := hplaces.mem_iff r x
    rcases eq_or_ne r p with rfl | hr
    · rcases eq_or_ne x item with rfl | hx
      · simp [(hplaces.nodup r).mem_erase_iff, hne]
      · simp [Function.update_of_ne hx, List.mem_erase_of_ne hx, hold]
    · rcases eq_or_ne r q with rfl | hr'
      · rcases eq_or_ne x item with rfl | hx
        · simp [Function.update_of_ne hr]
        · simp [Function.update_of_ne hr, hx, hold]
      · rcases eq_or_ne x item with rfl | hx
        · simp [Function.update_of_ne hr, Function.update_of_ne hr', hold, hitem, Ne.symm hr,
            Ne.symm hr']
        · simp [Function.update_of_ne hr, Function.update_of_ne hr', Function.update_of_ne hx, hold]

end Places

end MopServer.Foundation
