import MopServer.Foundation.Table

/-! # Shelves

A shelf has things at finitely many of its places, at most one at each.  A tally adds up
an amount over all things; tags tell things apart.
-/

namespace MopServer.Foundation

variable {Place Thing Tag : Type*}

/-- A thing at its place. -/
structure Placed (Place Thing : Type*) where
  place : Place
  thing : Thing
  deriving DecidableEq

instance : Keyed (Placed Place Thing) Place := ⟨Placed.place⟩

@[simp] theorem key_placed (placed : Placed Place Thing) : Keyed.key placed = placed.place := rfl

def Shelf (Place Thing : Type*) := Table (Placed Place Thing)

namespace Shelf

def tally (shelf : Shelf Place Thing) (amount : Thing → Nat) : Nat :=
  Table.sum shelf fun placed => amount placed.thing

def bare : Shelf Place Thing := Table.empty

variable [DecidableEq Place] (shelf : Shelf Place Thing) (place : Place)

def at? (shelf : Shelf Place Thing) (place : Place) : Option Thing :=
  (Table.get? shelf place).map Placed.thing

def put (shelf : Shelf Place Thing) (place : Place) : Option Thing → Shelf Place Thing
  | none => Table.erase shelf place
  | some thing => Table.insert shelf ⟨place, thing⟩ (Rearrangement.keep _)

theorem get?_eq_map : Table.get? shelf place = (shelf.at? place).map (Placed.mk place) := by
  unfold at?
  cases hget : Table.get? shelf place with
  | none => rfl
  | some placed =>
    have hplace : placed.place = place := (Table.get?_eq_some_iff.mp hget).2
    rw [Option.map_some, Option.map_some, ← hplace]

variable (held : Option Thing)

/-- A change is seen at its place alone. -/
theorem at?_put : (shelf.put place held).at? = Function.update shelf.at? place held := by
  funext other
  unfold at?
  cases held with
  | none =>
    by_cases hother : other = place
    · subst hother
      rw [Function.update_self]
      have hget : Table.get? (shelf.put other none) other = none :=
        Table.get?_eq_none_iff.mpr fun row hrow => (Table.mem_erase.mp hrow).2
      rw [hget]
      rfl
    · rw [Function.update_of_ne hother]
      exact congrArg (Option.map Placed.thing) (Table.get?_erase_of_ne shelf hother)
  | some thing =>
    have hget : Table.get? (shelf.put place (some thing)) other =
        if other = place then some ⟨place, thing⟩ else Table.get? shelf other :=
      Table.get?_insert shelf ⟨place, thing⟩ (Rearrangement.keep _) other
    rw [hget]
    by_cases hother : other = place
    · rw [if_pos hother, hother, Function.update_self]
      rfl
    · rw [if_neg hother, Function.update_of_ne hother]

theorem tally_put (amount : Thing → Nat) :
    (shelf.put place held).tally amount + (shelf.at? place).elim 0 amount =
      shelf.tally amount + held.elim 0 amount := by
  have herase : Table.sum (Table.erase shelf place) (fun placed => amount placed.thing) +
      (shelf.at? place).elim 0 amount = shelf.tally amount := by
    cases hat : shelf.at? place with
    | none =>
      have hget : Table.get? shelf place = none := by rw [get?_eq_map, hat]; rfl
      unfold tally Table.sum
      rw [Table.erase_eq_self hget]
      rfl
    | some thing =>
      have hget : Table.get? shelf place = some ⟨place, thing⟩ := by rw [get?_eq_map, hat]; rfl
      exact Table.sum_erase (Table.get?_eq_some_iff.mp hget).1 _
  cases held with
  | none => exact herase
  | some thing =>
    have hperm : (Table.insert shelf ⟨place, thing⟩ (Rearrangement.keep _)).rows =
      ⟨place, thing⟩ :: (Table.erase shelf place).rows := rfl
    have hsum : (shelf.put place (some thing)).tally amount =
        amount thing + Table.sum (Table.erase shelf place) fun placed => amount placed.thing := by
      unfold tally Table.sum put
      rw [hperm, List.map_cons, List.sum_cons]
    rw [hsum, ← herase, Option.elim_some]
    omega

end Shelf

/-! ## Tags -/

/-- No two places hold things with the same tag. -/
def Distinct (tag : Thing → Tag) (held : Place → Option Thing) : Prop :=
  ∀ ⦃first second a b⦄, held first = some a → held second = some b → tag a = tag b →
    first = second

/-- A tag that is nowhere on a shelf. -/
def Absent (tag : Thing → Tag) (held : Place → Option Thing) (t : Tag) : Prop :=
  ∀ ⦃place a⦄, held place = some a → tag a ≠ t

variable [DecidableEq Place] {tag : Thing → Tag} {held : Place → Option Thing} {place : Place}
  {thing old : Thing}

theorem update_eq_some_iff {new : Option Thing} {other : Place} :
    Function.update held place new other = some thing ↔
      (other = place ∧ new = some thing) ∨ (other ≠ place ∧ held other = some thing) := by
  by_cases hother : other = place
  · subst hother
    simp
  · simp [hother]

theorem Distinct.clear (hdistinct : Distinct tag held) (place : Place) :
    Distinct tag (Function.update held place none) := by
  intro first second a b hfirst hsecond htag
  rw [update_eq_some_iff] at hfirst hsecond
  rcases hfirst with ⟨-, ⟨⟩⟩ | ⟨-, hfirst⟩
  rcases hsecond with ⟨-, ⟨⟩⟩ | ⟨-, hsecond⟩
  exact hdistinct hfirst hsecond htag

/-- What holds of every thing on a shelf, and of the one that is put on it, holds afterwards. -/
theorem forall_update {property : Thing → Prop}
    (hheld : ∀ other found, held other = some found → property found) (hthing : property thing) :
    ∀ other found, Function.update held place (some thing) other = some found → property found := by
  intro other found hfound
  rcases update_eq_some_iff.mp hfound with ⟨-, hnew⟩ | ⟨-, hold⟩
  · exact Option.some.inj hnew ▸ hthing
  · exact hheld other found hold

/-- What has been taken off a shelf is absent from it. -/
theorem Distinct.absent_clear (hdistinct : Distinct tag held) (hold : held place = some old) :
    Absent tag (Function.update held place none) (tag old) := by
  intro other a ha htag
  rw [update_eq_some_iff] at ha
  rcases ha with ⟨-, ⟨⟩⟩ | ⟨hne, ha⟩
  exact hne (hdistinct ha hold htag)

theorem Absent.clear {t : Tag} (habsent : Absent tag held t) (place : Place) :
    Absent tag (Function.update held place none) t := by
  intro other a ha
  rw [update_eq_some_iff] at ha
  rcases ha with ⟨-, ⟨⟩⟩ | ⟨-, ha⟩
  exact habsent ha

theorem Distinct.put (hdistinct : Distinct tag held) (habsent : Absent tag held (tag thing)) :
    Distinct tag (Function.update held place (some thing)) := by
  intro first second a b hfirst hsecond htag
  rw [update_eq_some_iff] at hfirst hsecond
  rcases hfirst with ⟨rfl, ha⟩ | ⟨-, hfirst⟩ <;> rcases hsecond with ⟨rfl, hb⟩ | ⟨-, hsecond⟩
  · rfl
  · obtain rfl := Option.some.inj ha
    exact absurd htag.symm (habsent hsecond)
  · obtain rfl := Option.some.inj hb
    exact absurd htag (habsent hfirst)
  · exact hdistinct hfirst hsecond htag

theorem Distinct.modify (hdistinct : Distinct tag held) (hold : held place = some old)
    (htag : tag thing = tag old) : Distinct tag (Function.update held place (some thing)) := by
  have hclear : Distinct tag (Function.update (Function.update held place none) place
      (some thing)) :=
    (hdistinct.clear place).put (htag ▸ hdistinct.absent_clear hold)
  rwa [Function.update_idem] at hclear

theorem Absent.put {t : Tag} (habsent : Absent tag held t) (hne : tag thing ≠ t) :
    Absent tag (Function.update held place (some thing)) t := by
  intro other a ha
  rw [update_eq_some_iff] at ha
  rcases ha with ⟨-, ha⟩ | ⟨-, ha⟩
  · obtain rfl := Option.some.inj ha
    exact hne
  · exact habsent ha

end MopServer.Foundation
