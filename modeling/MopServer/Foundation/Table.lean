import Mathlib.Data.List.Basic
import Mathlib.Data.List.Nodup
import Mathlib.Data.List.Perm.Basic
import Mathlib.Data.List.Rotate
import Mathlib.Data.List.Sort
import Mathlib.Algebra.BigOperators.Group.List.Basic
import Mathlib.Algebra.BigOperators.Group.Finset.Basic
import Mathlib.Algebra.Ring.Nat

/-! # Tables of keyed rows

A table is a finite list of rows with pairwise distinct keys.  The list order is
the order in which a traversal visits the rows; lookups do not depend on it.
-/

namespace MopServer.Foundation

/-- Rows that carry their own key. -/
class Keyed (Row : Type*) (Key : outParam Type*) where
  key : Row → Key

/-- Rows with pairwise distinct keys, in iteration order. -/
structure Table (Row : Type*) {Key : Type*} [Keyed Row Key] where
  rows : List Row
  nodup : (rows.map Keyed.key).Nodup

/-- A rearrangement of rows that neither drops nor repeats one, such as the
effect of a rehash on the iteration order of a hash table. -/
structure Rearrangement (Row : Type*) where
  reorder : List Row → List Row
  perm : ∀ rows, (reorder rows).Perm rows

/-- The rearrangement that leaves every order as it is. -/
def Rearrangement.keep (Row : Type*) : Rearrangement Row :=
  ⟨id, fun rows => List.Perm.refl rows⟩

def Rearrangement.back (Row : Type*) : Rearrangement Row :=
  ⟨fun rows => rows.rotate 1, fun rows => List.rotate_perm rows 1⟩

/-- The order of a map. -/
def Rearrangement.sorted (Row : Type*) [Keyed Row Nat] : Rearrangement Row :=
  ⟨List.insertionSort fun first second => Keyed.key first ≤ Keyed.key second,
    fun rows => List.perm_insertionSort _ rows⟩

namespace Table

variable {Row Key : Type*} [Keyed Row Key] {table : Table Row} {row : Row} {f : Row → Row}
  {keep : Row → Bool}

instance : Membership Row (Table Row) := ⟨fun table row => row ∈ table.rows⟩

theorem mem_def : row ∈ table ↔ row ∈ table.rows := Iff.rfl

theorem eq_of_rows_eq {first second : Table Row} (hrows : first.rows = second.rows) :
    first = second := by
  cases first
  cases hrows
  rfl

def empty : Table Row := ⟨[], List.nodup_nil⟩

/-- Rewrite every row in place; the rewriting keeps the keys. -/
def map (table : Table Row) (f : Row → Row)
    (hf : ∀ row, Keyed.key (f row) = Keyed.key row := by intro; rfl) : Table Row where
  rows := table.rows.map f
  nodup := by
    have hkeys : (Keyed.key ∘ f : Row → Key) = Keyed.key := funext hf
    rw [List.map_map, hkeys]
    exact table.nodup

def filter (table : Table Row) (keep : Row → Bool) : Table Row where
  rows := table.rows.filter keep
  nodup := table.nodup.sublist (List.filter_sublist.map Keyed.key)

variable (hf : ∀ row, Keyed.key (f row) = Keyed.key row)

include hf in
theorem mem_map : row ∈ table.map f hf ↔ ∃ old ∈ table, f old = row := by
  simp [mem_def, map]

theorem mem_filter : row ∈ table.filter keep ↔ row ∈ table ∧ keep row = true := by
  simp [mem_def, filter]

theorem eq_of_key_eq {first second : Row} (hfirst : first ∈ table) (hsecond : second ∈ table)
    (hkey : Keyed.key first = Keyed.key second) : first = second :=
  List.inj_on_of_nodup_map table.nodup hfirst hsecond hkey

/-- A property that changes for one row alone changes its count by that row. -/
theorem countP_change (table : Table Row) (hrow : row ∈ table) {before after : Row → Bool}
    (hothers : ∀ other ∈ table, other ≠ row → before other = after other) :
    table.rows.countP after + (if before row then 1 else 0) =
      table.rows.countP before + if after row then 1 else 0 := by
  obtain ⟨left, right, hrows⟩ := List.append_of_mem (mem_def.mp hrow)
  have hnodup : (left ++ row :: right).Nodup := hrows ▸ List.Nodup.of_map _ table.nodup
  obtain ⟨-, hright, hdisjoint⟩ := List.nodup_append.mp hnodup
  have hsame : ∀ part : List Row, (∀ other ∈ part, other ∈ table ∧ other ≠ row) →
      part.countP after = part.countP before := fun part hpart =>
    List.countP_congr fun other hother => by
      rw [hothers other (hpart other hother).1 (hpart other hother).2]
  have hleftSame := hsame left fun other hother =>
    ⟨mem_def.mpr (hrows ▸ List.mem_append_left _ hother), hdisjoint other hother row
      List.mem_cons_self⟩
  have hrightSame := hsame right fun other hother =>
    ⟨mem_def.mpr (hrows ▸ List.mem_append_right _ (List.mem_cons_of_mem _ hother)),
      fun heq => (List.nodup_cons.mp hright).1 (heq ▸ hother)⟩
  rw [hrows, List.countP_append, List.countP_append, List.countP_cons, List.countP_cons,
    hleftSame, hrightSame]
  omega

variable [DecidableEq Key] {key : Key}

def get? (table : Table Row) (key : Key) : Option Row :=
  table.rows.find? fun row => Keyed.key row = key

/-- Rewrite the row stored under a key in place; the rewriting keeps the key. -/
def modify (table : Table Row) (key : Key) (f : Row → Row)
    (hf : ∀ row, Keyed.key (f row) = Keyed.key row := by intro; rfl) : Table Row where
  rows := table.rows.map fun row => if Keyed.key row = key then f row else row
  nodup := by
    have hkeys : (table.rows.map fun row => if Keyed.key row = key then f row else row).map
        Keyed.key = table.rows.map fun row => Keyed.key row := by
      rw [List.map_map]
      apply List.map_congr_left
      intro row _
      simp only [Function.comp_apply]
      split
      · exact hf row
      · rfl
    rw [hkeys]
    exact table.nodup

/-- Drop the row stored under a key. -/
def erase (table : Table Row) (key : Key) : Table Row where
  rows := table.rows.filter fun row => Keyed.key row ≠ key
  nodup := table.nodup.sublist (List.filter_sublist.map Keyed.key)

/-- Bring the rows into another order. -/
def rearrange (table : Table Row) (rearrangement : Rearrangement Row) : Table Row where
  rows := rearrangement.reorder table.rows
  nodup := ((rearrangement.perm table.rows).map Keyed.key).nodup_iff.mpr table.nodup

/-- Store a row under its key, replacing an earlier one, and rearrange. -/
def insert (table : Table Row) (row : Row) (rearrangement : Rearrangement Row) :
    Table Row where
  rows := rearrangement.reorder (row :: (table.erase (Keyed.key row)).rows)
  nodup := by
    have hperm := (rearrangement.perm (row :: (table.erase (Keyed.key row)).rows)).map
      fun row => Keyed.key row
    rw [hperm.nodup_iff, List.map_cons, List.nodup_cons]
    refine ⟨?_, (table.erase _).nodup⟩
    intro hmem
    obtain ⟨other, hother, hkey⟩ := List.mem_map.mp hmem
    simp only [erase, List.mem_filter, ne_eq, decide_not, Bool.not_eq_true',
      decide_eq_false_iff_not] at hother
    exact hother.2 hkey

theorem get?_eq_some_iff : table.get? key = some row ↔ row ∈ table ∧ Keyed.key row = key := by
  constructor
  · intro hget
    have hkey : Keyed.key row = key := by simpa using List.find?_some hget
    exact ⟨List.mem_of_find?_eq_some hget, hkey⟩
  · rintro ⟨hmem, rfl⟩
    cases hget : table.get? (Keyed.key row) with
    | none =>
      have habsent := List.find?_eq_none.mp hget row hmem
      simp at habsent
    | some other =>
      have hother : other ∈ table := List.mem_of_find?_eq_some hget
      have hkey : Keyed.key other = Keyed.key row := by simpa using List.find?_some hget
      rw [eq_of_key_eq hother hmem hkey]

theorem get?_eq_none_iff : table.get? key = none ↔ ∀ row ∈ table, Keyed.key row ≠ key := by
  simp [get?, List.find?_eq_none, mem_def]

theorem get?_rearrange (table : Table Row) (rearrangement : Rearrangement Row) (key : Key) :
    (table.rearrange rearrangement).get? key = table.get? key := by
  ext row
  rw [get?_eq_some_iff, get?_eq_some_iff, mem_def, mem_def, rearrange,
    (rearrangement.perm table.rows).mem_iff]

theorem get?_map (table : Table Row) (f : Row → Row)
    (hf : ∀ row, Keyed.key (f row) = Keyed.key row) (key : Key) :
    (table.map f hf).get? key = (table.get? key).map f := by
  simp only [get?, map, List.find?_map, Function.comp_def, hf]

theorem get?_key (hrow : row ∈ table) : table.get? (Keyed.key row) = some row :=
  get?_eq_some_iff.mpr ⟨hrow, rfl⟩

include hf in
theorem mem_modify :
    row ∈ table.modify key f hf ↔
      ∃ old ∈ table, (if Keyed.key old = key then f old else old) = row := by
  simp [mem_def, modify]

/-- Only the row of the key is modified. -/
theorem get?_modify (table : Table Row) (key other : Key) (f : Row → Row)
    (hf : ∀ row, Keyed.key (f row) = Keyed.key row) :
    (table.modify key f hf).get? other =
      if other = key then (table.get? key).map f else table.get? other := by
  have hmap : ∀ row, (decide (Keyed.key (if Keyed.key row = key then f row else row) = other)) =
      decide (Keyed.key row = other) := by
    intro row
    by_cases hkey : Keyed.key row = key <;> simp [hkey, hf]
  simp only [get?, modify, List.find?_map, Function.comp_def, hmap]
  split
  next heq =>
    subst heq
    cases hfind : table.rows.find? (fun row => Keyed.key row = other) with
    | none => rfl
    | some row =>
      have hkey : Keyed.key row = other := by simpa using List.find?_some hfind
      simp [hkey]
  next hne =>
    cases hfind : table.rows.find? (fun row => Keyed.key row = other) with
    | none => rfl
    | some row =>
      have hkey : Keyed.key row = other := by simpa using List.find?_some hfind
      have hrow : Keyed.key row ≠ key := fun heq => hne (hkey.symm.trans heq)
      simp [hrow]

/-- A loop that rewrites some rows in place, one after another. -/
theorem foldl_modify (table : Table Row) (keep : Row → Bool) (f : Row → Row)
    (hf : ∀ row, Keyed.key (f row) = Keyed.key row) :
    table.rows.foldl
        (fun table row => if keep row then table.modify (Keyed.key row) f hf else table) table =
      table.map (fun row => if keep row then f row else row) fun row => by
        split
        · exact hf row
        · rfl := by
  -- The rows already visited are rewritten, and the others are still as they were.
  have hloop : ∀ (todo done : List Row) (current : Table Row),
      table.rows = done ++ todo →
      current.rows = done.map (fun row => if keep row then f row else row) ++ todo →
      (todo.foldl (fun table row => if keep row then table.modify (Keyed.key row) f hf else table)
        current).rows = table.rows.map fun row => if keep row then f row else row := by
    intro todo
    induction todo with
    | nil =>
      intro done current hrows hcurrent
      rw [List.foldl_nil, hcurrent, hrows, List.append_nil, List.append_nil]
    | cons row rest ih =>
      intro done current hrows hcurrent
      rw [List.foldl_cons]
      refine ih (done ++ [row]) _ (by simpa using hrows) ?_
      have hnodup := current.nodup
      rw [hcurrent, List.map_append, List.map_cons, List.nodup_append] at hnodup
      obtain ⟨-, hrest, hdisjoint⟩ := hnodup
      split
      next hkeep =>
        have hdone : ∀ other ∈ done.map (fun row => if keep row then f row else row),
            Keyed.key other ≠ Keyed.key row := fun other hother =>
          hdisjoint _ (List.mem_map_of_mem hother) _ List.mem_cons_self
        have htail : ∀ other ∈ rest, Keyed.key other ≠ Keyed.key row := fun other hother heq =>
          (List.nodup_cons.mp hrest).1 (heq ▸ List.mem_map_of_mem hother)
        have hsame : ∀ part : List Row, (∀ other ∈ part, Keyed.key other ≠ Keyed.key row) →
            part.map (fun other => if Keyed.key other = Keyed.key row then f other else other) =
              part := fun part hpart =>
          (List.map_congr_left fun other hother => if_neg (hpart other hother)).trans
            (List.map_id part)
        show List.map _ current.rows = _
        rw [hcurrent, List.map_append, List.map_cons, if_pos rfl, hsame _ hdone, hsame _ htail,
          List.map_append, List.map_singleton, if_pos hkeep, List.append_assoc,
          List.singleton_append]
      next hkeep =>
        rw [hcurrent, List.map_append, List.map_singleton, if_neg hkeep, List.append_assoc,
          List.singleton_append]
  exact eq_of_rows_eq (hloop table.rows [] table rfl rfl)

/-- Put a changed row in the place of the one with its key, if there is one. -/
def replace (table : Table Row) (row : Row) : Table Row :=
  table.modify (Keyed.key row) (fun other => if Keyed.key other = Keyed.key row then row else other)
    fun other => by
      split
      next heq => exact heq.symm
      · rfl

theorem get?_replace (table : Table Row) (row : Row) (key : Key) :
    (table.replace row).get? key =
      if key = Keyed.key row then (table.get? key).map fun _ => row else table.get? key := by
  unfold replace
  rw [get?_modify]
  split
  next heq =>
    subst heq
    cases hget : table.get? (Keyed.key row) with
    | none => rfl
    | some other =>
      rw [Option.map_some, Option.map_some, if_pos (get?_eq_some_iff.mp hget).2]
  · rfl

theorem mem_erase : row ∈ table.erase key ↔ row ∈ table ∧ Keyed.key row ≠ key := by
  simp [mem_def, erase]

theorem get?_erase_of_ne (table : Table Row) {other : Key} (hne : other ≠ key) :
    (table.erase key).get? other = table.get? other := by
  ext row
  rw [get?_eq_some_iff, get?_eq_some_iff, mem_erase]
  constructor
  · exact fun hrow => ⟨hrow.1.1, hrow.2⟩
  · exact fun hrow => ⟨⟨hrow.1, hrow.2 ▸ hne⟩, hrow.2⟩

theorem get?_erase (table : Table Row) (key other : Key) :
    (table.erase key).get? other = if other = key then none else table.get? other := by
  split
  next heq =>
    rw [get?_eq_none_iff]
    intro row hrow
    exact heq ▸ (mem_erase.mp hrow).2
  next hne => exact get?_erase_of_ne table hne

theorem mem_insert {other : Row} {rearrangement : Rearrangement Row} :
    other ∈ table.insert row rearrangement ↔
      other = row ∨ other ∈ table ∧ Keyed.key other ≠ Keyed.key row := by
  simp only [mem_def, insert, (rearrangement.perm _).mem_iff, List.mem_cons]
  have herase : other ∈ (table.erase (Keyed.key row)).rows ↔
      other ∈ table.rows ∧ Keyed.key other ≠ Keyed.key row := mem_erase
  rw [herase]

theorem get?_insert (table : Table Row) (row : Row) (rearrangement : Rearrangement Row)
    (key : Key) :
    (table.insert row rearrangement).get? key =
      if key = Keyed.key row then some row else table.get? key := by
  ext other
  rw [get?_eq_some_iff, mem_insert]
  split
  next heq =>
    rw [heq, Option.some.injEq]
    constructor
    · rintro ⟨rfl | ⟨-, hne⟩, hkey⟩
      · rfl
      · exact absurd hkey hne
    · rintro rfl
      exact ⟨Or.inl rfl, rfl⟩
  next hne =>
    rw [get?_eq_some_iff]
    constructor
    · rintro ⟨rfl | ⟨hmem, -⟩, hkey⟩
      · exact absurd hkey.symm hne
      · exact ⟨hmem, hkey⟩
    · rintro ⟨hmem, hkey⟩
      exact ⟨Or.inr ⟨hmem, hkey ▸ hne⟩, hkey⟩

/-! ## Sums over a table -/

variable {amount : Row → Nat}

def sum (table : Table Row) (amount : Row → Nat) : Nat := (table.rows.map amount).sum

/-- A row and what is left when it is erased are the whole table. -/
theorem perm_cons_erase (hrow : row ∈ table) :
    table.rows.Perm (row :: (table.erase (Keyed.key row)).rows) := by
  have hkeep : table.rows.filter (fun other => Keyed.key other = Keyed.key row) = [row] := by
    have hnodup : table.rows.Nodup := table.nodup.of_map
    refine List.perm_singleton.mp ((List.perm_ext_iff_of_nodup (hnodup.filter _)
      (List.nodup_singleton row)).mpr fun other => ?_)
    simp only [List.mem_filter, decide_eq_true_eq, List.mem_singleton]
    constructor
    · exact fun hother => eq_of_key_eq hother.1 hrow hother.2
    · rintro rfl
      exact ⟨hrow, rfl⟩
  have hsplit := List.filter_append_perm
    (fun other => decide (Keyed.key other = Keyed.key row)) table.rows
  rw [hkeep] at hsplit
  have herase : (table.erase (Keyed.key row)).rows =
      table.rows.filter fun other => !decide (Keyed.key other = Keyed.key row) := by
    simp [erase]
  rw [herase]
  exact hsplit.symm

theorem sum_erase (hrow : row ∈ table) (amount : Row → Nat) :
    (table.erase (Keyed.key row)).sum amount + amount row = table.sum amount := by
  have hsum := ((perm_cons_erase hrow).map amount).sum_eq
  simp only [List.map_cons, List.sum_cons] at hsum
  unfold sum
  omega

theorem erase_eq_self (hkey : table.get? key = none) : (table.erase key).rows = table.rows := by
  simp only [erase, List.filter_eq_self]
  intro row hrow
  simpa using get?_eq_none_iff.mp hkey row hrow

theorem rows_insert_perm (hkey : table.get? (Keyed.key row) = none)
    (rearrangement : Rearrangement Row) :
    (table.insert row rearrangement).rows.Perm (row :: table.rows) := by
  have hrest : row :: (table.erase (Keyed.key row)).rows = row :: table.rows := by
    rw [erase_eq_self hkey]
  exact (rearrangement.perm _).trans (List.Perm.of_eq hrest)

/-- A new row adds its amount. -/
theorem sum_insert (hkey : table.get? (Keyed.key row) = none) (rearrangement : Rearrangement Row)
    (amount : Row → Nat) :
    (table.insert row rearrangement).sum amount = table.sum amount + amount row := by
  have hsum := ((rows_insert_perm hkey rearrangement).map amount).sum_eq
  rw [List.map_cons, List.sum_cons] at hsum
  unfold sum
  omega

/-- A modified row gives up its old amount for the new one. -/
theorem sum_modify (hrow : row ∈ table) (f : Row → Row)
    (hf : ∀ row, Keyed.key (f row) = Keyed.key row) (amount : Row → Nat) :
    (table.modify (Keyed.key row) f hf).sum amount + amount row =
      table.sum amount + amount (f row) := by
  have hmodified : ((table.modify (Keyed.key row) f hf).rows).Perm
      (f row :: (table.erase (Keyed.key row)).rows) := by
    have hmap := (perm_cons_erase hrow).map
      fun other => if Keyed.key other = Keyed.key row then f other else other
    rw [List.map_cons, if_pos rfl] at hmap
    have hrest : (table.erase (Keyed.key row)).rows.map
        (fun other => if Keyed.key other = Keyed.key row then f other else other) =
          (table.erase (Keyed.key row)).rows := by
      conv_rhs => rw [← List.map_id (table.erase (Keyed.key row)).rows]
      apply List.map_congr_left
      intro other hother
      exact if_neg (mem_erase.mp hother).2
    rw [hrest] at hmap
    exact hmap
  have hsum := (hmodified.map amount).sum_eq
  have herase := sum_erase hrow amount
  simp only [List.map_cons, List.sum_cons] at hsum
  unfold sum at *
  omega

omit [DecidableEq Key] in
theorem sum_congr {f g : Row → Nat} (heq : ∀ row ∈ table, f row = g row) :
    table.sum f = table.sum g :=
  congrArg List.sum (List.map_congr_left heq)

omit [DecidableEq Key] in
theorem sum_add (table : Table Row) (f g : Row → Nat) :
    table.sum (fun row => f row + g row) = table.sum f + table.sum g :=
  List.sum_map_add

omit [DecidableEq Key] in
theorem sum_eq_zero_iff {f : Row → Nat} : table.sum f = 0 ↔ ∀ row ∈ table, f row = 0 := by
  unfold sum
  rw [List.sum_eq_zero_iff_forall_eq_nat]
  simp [mem_def]

theorem length_erase (hrow : row ∈ table) :
    (table.erase (Keyed.key row)).rows.length + 1 = table.rows.length := by
  rw [(perm_cons_erase hrow).length_eq, List.length_cons]

theorem length_insert (table : Table Row) (row : Row) (rearrangement : Rearrangement Row) :
    (table.insert row rearrangement).rows.length =
      (table.erase (Keyed.key row)).rows.length + 1 :=
  (rearrangement.perm _).length_eq

include hf in
theorem sum_modify_of_eq
    (hamount : ∀ row ∈ table, Keyed.key row = key → amount (f row) = amount row) :
    (table.modify key f hf).sum amount = table.sum amount := by
  unfold sum modify
  rw [List.map_map]
  refine congrArg List.sum (List.map_congr_left fun row hrow => ?_)
  simp only [Function.comp_apply]
  split
  next hkey => exact hamount row hrow hkey
  · rfl

omit [DecidableEq Key] in
theorem sum_map {hf : ∀ row, Keyed.key (f row) = Keyed.key row}
    (hamount : ∀ row, amount (f row) = amount row) :
    (table.map f hf).sum amount = table.sum amount := by
  unfold sum map
  rw [List.map_map]
  exact congrArg List.sum (List.map_congr_left fun row _ => hamount row)

theorem sum_map_filter_of_zero {rows : List Row}
    (hzero : ∀ row ∈ rows, keep row = false → amount row = 0) :
    ((rows.filter keep).map amount).sum = (rows.map amount).sum := by
  induction rows with
  | nil => rfl
  | cons row rest ih =>
    have hrest := ih fun other hother => hzero other (List.mem_cons_of_mem row hother)
    cases hkeep : keep row with
    | true => simp [hkeep, hrest]
    | false => simp [hkeep, hrest, hzero row List.mem_cons_self hkeep]

theorem sum_erase_of_zero (hzero : ∀ row ∈ table, Keyed.key row = key → amount row = 0) :
    (table.erase key).sum amount = table.sum amount := by
  refine sum_map_filter_of_zero fun row hrow hkeep => hzero row hrow ?_
  simpa using hkeep

end Table

/-! ## Sums over all indices -/

section

variable {Index : Type*} [Fintype Index] [DecidableEq Index] {f g : Index → Nat}

/-- A sum changes by the difference at the one index where the amounts differ. -/
theorem sum_add_of_eq_off {i : Index} (hoff : ∀ x, x ≠ i → f x = g x) :
    ∑ x, f x + g i = ∑ x, g x + f i := by
  have hrest : ∑ x ∈ Finset.univ.erase i, f x = ∑ x ∈ Finset.univ.erase i, g x :=
    Finset.sum_congr rfl fun x hx => hoff x (Finset.ne_of_mem_erase hx)
  have hf := Finset.sum_erase_add Finset.univ f (Finset.mem_univ i)
  have hg := Finset.sum_erase_add Finset.univ g (Finset.mem_univ i)
  omega

end

end MopServer.Foundation
