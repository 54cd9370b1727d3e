import Mathlib.Algebra.Group.Nat.Defs
import Mathlib.Algebra.Ring.Int.Defs
import Mathlib.Data.List.TakeWhile
import Mathlib.Logic.Basic
import Mathlib.Tactic.Use

/-! # Tokens

A string is cut at every separator.  The copy that is cut ends with a zero, and the tokens end with
the first zero of it, be it the one at the end or one of the string.
-/

namespace MopServer.Utilities

def nul : Char := Char.ofNat 0

/-- The loop of the constructor over its copy; `piece` is what is between `posold` and `posnew`.
It is undefined past the end of the copy. -/
def tokenizeFrom (sep : Char) (piece : List Char) : List Char → Option (List (List Char))
  | [] => none
  | char :: rest =>
    if char = sep then (tokenizeFrom sep [] rest).map (piece :: ·)
    else if char = nul then some (if piece ≠ [] then [piece] else [])
    else tokenizeFrom sep (piece ++ [char]) rest

/-- `Tokenizer::Tokenizer`. -/
def tokenizer (src : List Char) (sep : Char) : Option (List (List Char)) :=
  tokenizeFrom sep [] (src ++ [nul])

variable (text : List Char)

/-- The string from a pointer to its characters. -/
def cString : List Char := text.takeWhile (· ≠ nul)

def isSpace (char : Char) : Bool := (9 ≤ char.toNat ∧ char.toNat ≤ 13) ∨ char.toNat = 32

def leadingNumber : Int := Nat.ofDigitChars 10 (text.takeWhile Char.isDigit) 0

/-- `atol`, which stops at the bounds of a `long` of 64 bits. -/
def atol : Int :=
  let rest := text.dropWhile isSpace
  let value :=
    if rest.head? = some '-' then -leadingNumber rest.tail
    else if rest.head? = some '+' then leadingNumber rest.tail
    else leadingNumber rest
  max (-2 ^ 63) (min value (2 ^ 63 - 1))

/-! ## Pieces -/

variable (src : List Char)

def dropEmptyLast (pieces : List (List Char)) : List (List Char) :=
  if pieces.getLast? = some [] then pieces.dropLast else pieces

theorem dropEmptyLast_cons (piece : List Char) {pieces : List (List Char)} (hne : pieces ≠ []) :
    dropEmptyLast (piece :: pieces) = piece :: dropEmptyLast pieces := by
  have hlast : (piece :: pieces).getLast? = pieces.getLast? := by
    cases pieces with
    | nil => exact absurd rfl hne
    | cons second rest => rw [List.getLast?_cons_cons]
  rw [dropEmptyLast, dropEmptyLast, hlast]
  split
  · rw [List.dropLast_cons_of_ne_nil hne]
  · rfl

theorem tokenizeFrom_eq {sep : Char} (hsep : sep ≠ nul) {text : List Char} (htext : nul ∉ text)
    {piece : List Char} (hpiece : sep ∉ piece) (rest : List Char) :
    tokenizeFrom sep piece (text ++ nul :: rest) =
      some (dropEmptyLast ((piece ++ text).splitOn sep)) := by
  induction text generalizing piece with
  | nil =>
    rw [List.nil_append, List.append_nil, tokenizeFrom, if_neg hsep.symm, if_pos rfl,
      List.splitOn_eq_singleton hpiece]
    by_cases hempty : piece = []
    · simp [dropEmptyLast, hempty]
    · simp [dropEmptyLast, hempty]
  | cons char text ih =>
    have hrest : nul ∉ text := fun hmem => htext (List.mem_cons_of_mem _ hmem)
    rw [List.cons_append, tokenizeFrom]
    split
    next hchar =>
      rw [hchar, List.splitOn_append_cons_self_of_not_mem hpiece,
        dropEmptyLast_cons _ (List.splitOn_ne_nil _ _), ih hrest List.not_mem_nil]
      rfl
    next hchar =>
      have hnul : char ≠ nul := fun heq => htext (heq ▸ List.mem_cons_self)
      have happend : sep ∉ piece ++ [char] := by
        simp [hpiece, Ne.symm hchar]
      rw [if_neg hnul, ih hrest happend, List.append_assoc, List.singleton_append]

theorem nul_notMem_cString : nul ∉ cString src := by
  induction src with
  | nil => exact List.not_mem_nil
  | cons char rest ih =>
    rw [cString, List.takeWhile_cons]
    split
    next hchar =>
      rw [List.mem_cons, not_or]
      have hne : char ≠ nul := by simpa using hchar
      exact ⟨hne.symm, ih⟩
    · exact List.not_mem_nil

theorem exists_append_nul : ∃ rest, src ++ [nul] = cString src ++ nul :: rest := by
  induction src with
  | nil => exact ⟨[], rfl⟩
  | cons char rest ih =>
    rw [cString, List.takeWhile_cons]
    split
    next hchar =>
      obtain ⟨others, hothers⟩ := ih
      use others
      rw [List.cons_append, hothers]
      rfl
    next hchar =>
      use rest ++ [nul]
      obtain rfl : char = nul := by simpa using hchar
      rfl

/-- The tokens are the pieces of the characters up to the first zero. -/
theorem tokenizer_eq {sep : Char} (hsep : sep ≠ nul) :
    tokenizer src sep = some (dropEmptyLast ((cString src).splitOn sep)) := by
  obtain ⟨rest, hrest⟩ := exists_append_nul src
  rw [tokenizer, hrest, tokenizeFrom_eq hsep (nul_notMem_cString src) List.not_mem_nil,
    List.nil_append]

theorem cString_eq_self {text : List Char} (htext : nul ∉ text) : cString text = text := by
  rw [cString, List.takeWhile_eq_self_iff]
  intro char hchar
  have hne : char ≠ nul := fun heq => htext (heq ▸ hchar)
  simpa using hne

/-! ## Printed numbers -/

theorem leadingNumber_toDigits (number : ℕ) :
    leadingNumber (Nat.toDigits 10 number) = number := by
  have hdigits : (Nat.toDigits 10 number).takeWhile Char.isDigit = Nat.toDigits 10 number := by
    rw [List.takeWhile_eq_self_iff]
    exact fun char hchar => Nat.isDigit_of_mem_toDigits (by decide) (by decide) hchar
  rw [leadingNumber, hdigits, Nat.ofDigitChars_ten_toDigits]

theorem atol_toDigits {number : ℕ} (hnumber : number < 2 ^ 63) :
    atol (Nat.toDigits 10 number) = number := by
  have hread := leadingNumber_toDigits number
  have hdigit {char : Char} (hchar : char ∈ Nat.toDigits 10 number) : char.isDigit :=
    Nat.isDigit_of_mem_toDigits (by decide) (by decide) hchar
  cases hdigits : Nat.toDigits 10 number with
  | nil => exact absurd hdigits Nat.toDigits_ne_nil
  | cons first rest =>
    have hfirst : first.isDigit := hdigit (hdigits ▸ List.mem_cons_self)
    have hspace : isSpace first = false := by
      have hnum := Char.isDigit_iff_toNat.mp hfirst
      have hzero : '0'.toNat = 48 := rfl
      simp [isSpace]
      omega
    have hminus : first ≠ '-' := by
      intro heq
      simp [heq] at hfirst
    have hplus : first ≠ '+' := by
      intro heq
      simp [heq] at hfirst
    rw [hdigits] at hread
    simp [atol, hspace, hminus, hplus, hread]
    omega

end MopServer.Utilities
