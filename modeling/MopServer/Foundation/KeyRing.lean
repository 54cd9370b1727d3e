import Mathlib.Data.List.Chain
import Mathlib.Data.List.Nodup

/-! # Rings of keys

Keys below a size follow each other if each one is the successor of the one before it, and zero
follows the largest.  As many keys as the size are pairwise distinct, and the key after them is the
first of them again.
-/

namespace MopServer.Foundation

/-- The keys are below the size, and each follows the one before it. -/
structure InRing (size : Nat) (keys : List Nat) : Prop where
  below : ∀ key ∈ keys, key < size
  follow : keys.IsChain fun key next => next = (key + 1) % size

namespace InRing

variable {size : Nat} {keys : List Nat}

theorem nil (size : Nat) : InRing size [] :=
  ⟨fun _ hkey => absurd hkey List.not_mem_nil, List.isChain_nil⟩

theorem getElem_succ (hring : InRing size keys) {i : Nat} (hi : i + 1 < keys.length) :
    keys[i + 1] = (keys[i] + 1) % size :=
  List.isChain_iff_getElem.mp hring.follow i hi

/-- A later key, counted from an earlier one. -/
theorem getElem_add (hring : InRing size keys) (i n : Nat) (hi : i + n < keys.length) :
    keys[i + n] = (keys[i] + n) % size := by
  induction n with
  | zero => exact (Nat.mod_eq_of_lt (hring.below _ (List.getElem_mem _))).symm
  | succ n ih =>
    have hstep := hring.getElem_succ (i := i + n) hi
    rw [ih (by omega), Nat.mod_add_mod] at hstep
    exact hstep

theorem drop (hring : InRing size keys) (n : Nat) : InRing size (keys.drop n) :=
  ⟨fun key hkey => hring.below key (List.mem_of_mem_drop hkey), hring.follow.drop n⟩

theorem append_singleton (hring : InRing size keys) {key : Nat} (hkey : key < size)
    (hlast : ∀ last ∈ keys.getLast?, key = (last + 1) % size) : InRing size (keys ++ [key]) := by
  constructor
  · intro other hother
    rcases List.mem_append.mp hother with hother | hother
    · exact hring.below other hother
    · rwa [List.mem_singleton.mp hother]
  · refine hring.follow.append (List.isChain_singleton key) fun last hmem next hnext => ?_
    obtain rfl : key = next := by simpa using hnext
    exact hlast last hmem

/-- Fewer than a full turn of keys, and one full turn, have no key twice. -/
theorem nodup (hring : InRing size keys) (hlength : keys.length ≤ size) : keys.Nodup := by
  apply List.pairwise_iff_getElem.mpr
  intro i j hi hj hlt heq
  obtain ⟨n, rfl⟩ := Nat.exists_eq_add_of_lt hlt
  have hbelow := hring.below _ (List.getElem_mem hi)
  have hlater := hring.getElem_add i (n + 1) hj
  have hsame : keys[i] = (keys[i] + (n + 1)) % size := heq.trans hlater
  rcases Nat.lt_or_ge (keys[i] + (n + 1)) size with hsmall | hlarge
  · rw [Nat.mod_eq_of_lt hsmall] at hsame
    omega
  · rw [Nat.mod_eq_sub_mod hlarge, Nat.mod_eq_of_lt (by omega)] at hsame
    omega

/-- After a full turn the first key comes again. -/
theorem last_eq_first {first last : Nat} {rest : List Nat}
    (hring : InRing size (first :: rest ++ [last])) (hlength : rest.length + 1 = size) :
    last = first := by
  subst hlength
  have hlast := hring.getElem_add 0 (rest.length + 1) (by simp)
  have hfirst : (first :: rest ++ [last])[0] = first := rfl
  have hget : (first :: rest ++ [last])[0 + (rest.length + 1)] = last := by simp
  rw [hget, hfirst, Nat.add_mod_right, Nat.mod_eq_of_lt (hring.below first (by simp))] at hlast
  exact hlast

end InRing

end MopServer.Foundation
