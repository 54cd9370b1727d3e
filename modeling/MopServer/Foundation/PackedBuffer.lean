import Mathlib.Algebra.BigOperators.Group.List.Basic
import Mathlib.Algebra.Ring.Nat

/-! # Packed buffers

Fields lie in a buffer one after another.  A pass walks over items and overwrites the next places of
the buffer for each of them; whatever it touches outside of the buffer makes it fail.
-/

namespace MopServer.Foundation

variable {Byte Item Cursor : Type}

def readAt (buffer : List Byte) (position width : Nat) : Option (List Byte) :=
  if position + width ≤ buffer.length then some ((buffer.drop position).take width) else none

def writeAt (buffer : List Byte) (position : Nat) (bytes : List Byte) : Option (List Byte) :=
  if position + bytes.length ≤ buffer.length then
    some (buffer.take position ++ (bytes ++ buffer.drop (position + bytes.length)))
  else none

theorem readAt_middle (before part after : List Byte) {position width : Nat}
    (hwithin : position + width ≤ part.length) :
    readAt (before ++ (part ++ after)) (before.length + position) width =
      readAt part position width := by
  have hlength : before.length + position + width ≤ (before ++ (part ++ after)).length := by
    simp only [List.length_append]
    omega
  unfold readAt
  rw [if_pos hlength, if_pos hwithin, List.drop_length_add_append,
    List.drop_append_of_le_length (by omega),
    List.take_append_of_le_length (by rw [List.length_drop]; omega)]

theorem readAt_self (part : List Byte) : readAt part 0 part.length = some part := by
  simp [readAt]

theorem writeAt_append (done : List Byte) {rest part : List Byte}
    (hroom : part.length ≤ rest.length) :
    writeAt (done ++ rest) done.length part = some (done ++ (part ++ rest.drop part.length)) := by
  have hlength : done.length + part.length ≤ (done ++ rest).length := by
    rw [List.length_append]
    omega
  unfold writeAt
  rw [if_pos hlength, List.take_left, List.drop_length_add_append]

/-! ## Layouts -/

/-- Where the item of an index begins if the items lie one after another. -/
def offset (size : Item → Nat) (items : List Item) (index : Nat) : Nat :=
  ((items.take index).map size).sum

variable {size : Item → Nat} {items : List Item} {item : Item} {index : Nat}

theorem offset_succ (hitem : items[index]? = some item) :
    offset size items (index + 1) = offset size items index + size item := by
  obtain ⟨hindex, rfl⟩ := List.getElem?_eq_some_iff.mp hitem
  unfold offset
  rw [List.take_succ_eq_append_getElem hindex, List.map_append, List.sum_append]
  simp

theorem offset_le (size : Item → Nat) (items : List Item) (index : Nat) :
    offset size items index ≤ (items.map size).sum := by
  have hsplit := congrArg (fun items => (items.map size).sum) (List.take_append_drop index items)
  simp only [List.map_append, List.sum_append] at hsplit
  unfold offset
  omega

theorem offset_add_le (size : Item → Nat) (hitem : items[index]? = some item) :
    offset size items index + size item ≤ (items.map size).sum := by
  rw [← offset_succ hitem]
  exact offset_le size items (index + 1)

/-- The item of an index is found at its offset. -/
theorem readAt_flatMap {part : Item → List Byte} (hlength : ∀ item ∈ items, (part item).length =
    size item) (hitem : items[index]? = some item) (before after : List Byte) {position width : Nat}
    (hwithin : position + width ≤ size item) :
    readAt (before ++ (items.flatMap part ++ after))
      (before.length + (offset size items index + position)) width =
        readAt (part item) position width := by
  obtain ⟨hindex, rfl⟩ := List.getElem?_eq_some_iff.mp hitem
  have hbefore : ((items.take index).flatMap part).length = offset size items index := by
    rw [List.length_flatMap, offset]
    exact congrArg List.sum (List.map_congr_left fun item hmem =>
      hlength item (List.mem_of_mem_take hmem))
  have hsplit : items.flatMap part = (items.take index).flatMap part ++
      (part items[index] ++ (items.drop (index + 1)).flatMap part) := by
    rw [← List.flatMap_cons, ← List.flatMap_append, ← List.drop_eq_getElem_cons hindex,
      List.take_append_drop]
  have hmiddle := readAt_middle (before ++ (items.take index).flatMap part) (part items[index])
    ((items.drop (index + 1)).flatMap part ++ after)
    (hwithin.trans_eq (hlength _ (List.getElem_mem hindex)).symm)
  rw [List.length_append, hbefore] at hmiddle
  rw [hsplit, ← hmiddle]
  simp only [List.append_assoc, Nat.add_assoc]

/-! ## Passes -/

section Passes

variable {step : List Byte × Cursor → Item → Option (List Byte × Cursor)}
  {part : Item → List Byte} {next : Cursor → Item → Cursor} {total : Nat}
  (stands : Cursor → Nat → Prop) (ready : Item → List Byte → Prop)

/-- Each step overwrites the place of an item that it finds ready. -/
def Overwrites (step : List Byte × Cursor → Item → Option (List Byte × Cursor))
    (part : Item → List Byte) (next : Cursor → Item → Cursor) (total : Nat) (item : Item) : Prop :=
  ∀ done rest cursor, (done ++ rest).length = total → stands cursor done.length →
    (part item).length ≤ rest.length → ready item rest →
    step (done ++ rest, cursor) item =
        some (done ++ (part item ++ rest.drop (part item).length), next cursor item) ∧
      stands (next cursor item) (done.length + (part item).length)

variable {stands ready} (hstep : ∀ item ∈ items, Overwrites stands ready step part next total item)

include hstep in
/-- A pass that finds every item ready overwrites the places of all items. -/
theorem foldlM_overwrite {done rest : List Byte} {cursor : Cursor}
    (htotal : (done ++ rest).length = total) (hstands : stands cursor done.length)
    (hroom : (items.flatMap part).length ≤ rest.length)
    (hready : ∀ before item after, items = before ++ item :: after →
      ready item (rest.drop (before.flatMap part).length)) :
    items.foldlM step (done ++ rest, cursor) =
        some (done ++ (items.flatMap part ++ rest.drop (items.flatMap part).length),
          items.foldl next cursor) ∧
      stands (items.foldl next cursor) (done.length + (items.flatMap part).length) := by
  induction items generalizing done rest cursor with
  | nil => exact ⟨rfl, hstands⟩
  | cons item items ih =>
    rw [List.flatMap_cons, List.length_append] at hroom
    obtain ⟨hrun, hnext⟩ := hstep item List.mem_cons_self done rest cursor htotal hstands
      (by omega) (hready [] item items rfl)
    rw [← List.length_append] at hnext
    have htotalNext : (done ++ part item ++ rest.drop (part item).length).length = total := by
      simp only [List.length_append, List.length_drop] at htotal ⊢
      omega
    have hreadyNext (before : List Item) (other : Item) (after : List Item)
        (hitems : items = before ++ other :: after) :
        ready other ((rest.drop (part item).length).drop (before.flatMap part).length) := by
      rw [List.drop_drop, ← List.length_append, ← List.flatMap_cons]
      exact hready (item :: before) other after (congrArg (item :: ·) hitems)
    have hrest := ih (fun other hother => hstep other (List.mem_cons_of_mem _ hother)) htotalNext
      hnext (by rw [List.length_drop]; omega) hreadyNext
    rw [List.foldlM_cons, hrun, List.foldl_cons, List.flatMap_cons]
    simpa [Nat.add_assoc] using hrest

include hstep in
/-- A pass from the start of the buffer. -/
theorem foldlM_overwrite_start (cursor : Cursor) {rest : List Byte} (htotal : rest.length = total)
    (hstands : stands cursor 0) (hroom : (items.flatMap part).length ≤ rest.length)
    (hready : ∀ before item after, items = before ++ item :: after →
      ready item (rest.drop (before.flatMap part).length)) :
    items.foldlM step (rest, cursor) =
        some (items.flatMap part ++ rest.drop (items.flatMap part).length,
          items.foldl next cursor) ∧
      stands (items.foldl next cursor) (items.flatMap part).length := by
  have hstart : ([] ++ rest).length = total := htotal
  have hrun := foldlM_overwrite hstep hstart hstands hroom hready
  rwa [List.length_nil, Nat.zero_add] at hrun

end Passes

end MopServer.Foundation
