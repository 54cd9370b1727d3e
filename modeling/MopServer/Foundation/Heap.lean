import Mathlib.Logic.Basic

/-! # A heap of objects

Objects are made and deleted, and are known by their addresses.  An address is not used again.
-/

namespace MopServer.Foundation

/-- The objects that have been made and not deleted. -/
structure Heap (Object : Type*) where
  get? : Nat → Option Object
  next : Nat
  /-- Nothing has been made yet beyond the next address. -/
  unused : ∀ address, next ≤ address → get? address = none

namespace Heap

variable {Object : Type*} (heap : Heap Object)

def empty : Heap Object := ⟨fun _ => none, 0, fun _ _ => rfl⟩

/-- `new`, at the next address. -/
def alloc (object : Object) : Heap Object where
  get? address := if address = heap.next then some object else heap.get? address
  next := heap.next + 1
  unused address haddress := by
    rw [if_neg (Nat.ne_of_gt haddress), heap.unused address (Nat.le_of_succ_le haddress)]

/-- A write to the fields of an object. -/
def modify (target : Nat) (change : Object → Object) : Heap Object where
  get? address := if address = target then (heap.get? address).map change else heap.get? address
  next := heap.next
  unused address haddress := by
    rw [heap.unused address haddress, Option.map_none, ite_self]

/-- `delete` of all the objects that are chosen. -/
def free (chosen : Nat → Bool) : Heap Object where
  get? address := if chosen address then none else heap.get? address
  next := heap.next
  unused address haddress := by rw [heap.unused address haddress, ite_self]

variable {heap} {address target : Nat} {change : Object → Object} {chosen : Nat → Bool}

theorem get?_next : heap.get? heap.next = none := heap.unused heap.next (Nat.le_refl _)

theorem get?_alloc_next (object : Object) : (heap.alloc object).get? heap.next = some object :=
  if_pos rfl

theorem get?_alloc {object : Object} (hne : address ≠ heap.next) :
    (heap.alloc object).get? address = heap.get? address := if_neg hne

theorem get?_modify_self :
    (heap.modify target change).get? target = (heap.get? target).map change := if_pos rfl

theorem get?_modify (hne : address ≠ target) :
    (heap.modify target change).get? address = heap.get? address := if_neg hne

/-- A write changes no field that it keeps. -/
theorem map_get?_modify {Field : Type*} {field : Object → Field}
    (hkeep : ∀ object, field (change object) = field object) (address : Nat) :
    ((heap.modify target change).get? address).map field = (heap.get? address).map field := by
  by_cases heq : address = target
  · subst heq
    rw [get?_modify_self, Option.map_map]
    exact congrArg (fun read => (heap.get? address).map read) (funext hkeep)
  · rw [get?_modify heq]

theorem get?_free_of_chosen (hchosen : chosen address) :
    (heap.free chosen).get? address = none := if_pos hchosen

theorem get?_free (hchosen : chosen address = false) :
    (heap.free chosen).get? address = heap.get? address :=
  if_neg (Bool.eq_false_iff.mp hchosen)

end Heap

end MopServer.Foundation
