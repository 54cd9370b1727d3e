import MopServer.DungeonFinder.RememberedAnswers

/-! # The search for a group

The search tries the queued entries one after the other behind those it has.  The list of the
entries left is shared by all calls, so when a call fails whose entries fit, none are left for its
caller: an entry that fits is kept for good.
-/

namespace MopServer.DungeonFinder

namespace Finder

variable (finder : Finder)

mutual

/-- `FindNewGroups`, with a bound on the calls.  The list `all` is shared with the caller. -/
def searchGroups (category : LfgCategory) :
    Nat → List UInt64 → List UInt64 → LFGMgr → Option LfgProposal × List UInt64 × LFGMgr
  | 0, _, all, mgr => (none, all, mgr)
  | fuel + 1, check, all, mgr =>
    if check = [] ∨ finder.maxGroupSize category < check.length then (none, all, mgr)
    else
      match finder.checkCompatibility category check mgr none with
      | (false, mgr, _) => (none, all, mgr)
      | (true, mgr, some proposal) => (some proposal, all, mgr)
      | (true, mgr, none) => tryQueued category fuel check all mgr
  termination_by structural fuel => fuel

/-- The loop of `FindNewGroups`. -/
def tryQueued (category : LfgCategory) :
    Nat → List UInt64 → List UInt64 → LFGMgr → Option LfgProposal × List UInt64 × LFGMgr
  | 0, _, all, mgr => (none, all, mgr)
  | _ + 1, _, [], mgr => (none, [], mgr)
  | fuel + 1, check, front :: rest, mgr =>
    match searchGroups category fuel (check ++ [front]) rest mgr with
    | (some proposal, all, mgr) => (some proposal, all, mgr)
    | (none, all, mgr) => tryQueued category fuel check all mgr
  termination_by structural fuel => fuel

end

variable (category : LfgCategory) (check all : List UInt64) (mgr : LFGMgr)

/-- `FindNewGroups`: every call but the first has taken an entry from `all`. -/
def findNewGroups : Option LfgProposal × List UInt64 × LFGMgr :=
  finder.searchGroups category (2 * all.length + 1) check all mgr

/-- The same search without calls: an entry that fits is kept. -/
def takeFitting (category : LfgCategory) :
    List UInt64 → List UInt64 → LFGMgr → Option LfgProposal × List UInt64 × LFGMgr
  | _, [], mgr => (none, [], mgr)
  | check, front :: rest, mgr =>
    match finder.checkCompatibility category (check ++ [front]) mgr none with
    | (false, mgr, _) => takeFitting category check rest mgr
    | (true, mgr, some proposal) => (some proposal, rest, mgr)
    | (true, mgr, none) => takeFitting category (check ++ [front]) rest mgr

/-- A search that may also pass over an entry that fits finds a group. -/
def completable (category : LfgCategory) : List UInt64 → List UInt64 → LFGMgr → Bool
  | _, [], _ => false
  | check, front :: rest, mgr =>
    match finder.checkCompatibility category (check ++ [front]) mgr none with
    | (false, mgr, _) => completable category check rest mgr
    | (true, _, some _) => true
    | (true, mgr, none) =>
      completable category check rest mgr || completable category (check ++ [front]) rest mgr

/-- No entry is kept in vain: if the group can be completed without one that fits, then it can be
completed with it. -/
def KeepsChances (category : LfgCategory) : List UInt64 → List UInt64 → LFGMgr → Prop
  | _, [], _ => True
  | check, front :: rest, mgr =>
    match finder.checkCompatibility category (check ++ [front]) mgr none with
    | (false, mgr, _) => KeepsChances category check rest mgr
    | (true, _, some _) => True
    | (true, mgr, none) =>
      (finder.completable category check rest mgr = true →
        finder.completable category (check ++ [front]) rest mgr = true) ∧
      KeepsChances category (check ++ [front]) rest mgr

/-- `completable`, when the entries of `check` have not been checked yet. -/
def choicesFind : Bool :=
  match finder.checkCompatibility category check mgr none with
  | (false, _, _) => false
  | (true, _, some _) => true
  | (true, mgr, none) => finder.completable category check all mgr

/-- `KeepsChances`, when the entries of `check` have not been checked yet. -/
def SearchKeepsChances : Prop :=
  match finder.checkCompatibility category check mgr none with
  | (true, mgr, none) => finder.KeepsChances category check all mgr
  | _ => True

/-- The chosen entries complete the group: all of them are accepted as a full group, and whatever
is taken of them on the way is compatible. -/
structure Completes (category : LfgCategory) (check chosen : List UInt64) (mgr : LFGMgr) :
    Prop where
  compatible : ∀ taken < chosen.length,
    (finder.checkCompatibility category (check ++ chosen.take taken) mgr none).1 = true
  accepted : (finder.checkCompatibility category (check ++ chosen) mgr none).1 = true
  full : (finder.checkCompatibility category (check ++ chosen) mgr none).2.2.isSome = true

/-- Some of the queued entries, in their order, complete the group. -/
def HasGroup : Prop :=
  ∃ chosen, chosen.Sublist all ∧ finder.Completes category check chosen mgr

/-- What is expected of the search: it finds a group whenever there is one. -/
def FindsGroup : Prop :=
  finder.HasGroup category check all mgr →
    (finder.findNewGroups category check all mgr).1.isSome = true

section

variable {finder : Finder} {category : LfgCategory} {mgr : LFGMgr}

/-! ## An entry that fits is kept -/

variable (check all : List UInt64)

/-- The entries do not fit, are a full group, or fit and are still too few. -/
theorem checked_cases (result : Bool × LFGMgr × Option LfgProposal) :
    (∃ after proposal, result = (false, after, proposal)) ∨
      (∃ after proposal, result = (true, after, some proposal)) ∨
      ∃ after, result = (true, after, none) := by
  obtain ⟨answer, after, proposal⟩ := result
  cases answer with
  | false => exact Or.inl ⟨after, proposal, rfl⟩
  | true =>
    cases proposal with
    | some proposal => exact Or.inr (Or.inl ⟨after, proposal, rfl⟩)
    | none => exact Or.inr (Or.inr ⟨after, rfl⟩)

theorem checkCompatibility_of_size {check : List UInt64}
    (hsize : check = [] ∨ finder.maxGroupSize category < check.length) :
    finder.checkCompatibility category check mgr none = (false, mgr, none) := by
  rcases hsize with rfl | hlong
  · rfl
  · cases check with
    | nil => rfl
    | cons frontGuid rest =>
      rw [checkCompatibility, Option.isSome_none, if_neg Bool.false_ne_true, if_pos hlong]

/-- A search that fails has used up the entries. -/
theorem takeFitting_none {check all rest : List UInt64} {after : LFGMgr}
    (hnone : finder.takeFitting category check all mgr = (none, rest, after)) : rest = [] := by
  induction all generalizing check mgr with
  | nil =>
    cases hnone
    rfl
  | cons front queued ih =>
    unfold takeFitting at hnone
    split at hnone
    · exact ih hnone
    · cases hnone
    · exact ih hnone

theorem searchGroups_succ (fuel : Nat) :
    finder.searchGroups category (fuel + 1) check all mgr =
      match finder.checkCompatibility category check mgr none with
      | (false, mgr, _) => (none, all, mgr)
      | (true, mgr, some proposal) => (some proposal, all, mgr)
      | (true, mgr, none) => finder.tryQueued category fuel check all mgr := by
  rw [searchGroups]
  split
  next hsize => rw [checkCompatibility_of_size hsize]
  · rfl

/-- With enough fuel the loop is the search that keeps what fits: the calls share the list. -/
theorem tryQueued_eq_takeFitting {fuel : Nat} {check all : List UInt64}
    (hfuel : 2 * all.length ≤ fuel) :
    finder.tryQueued category fuel check all mgr =
      finder.takeFitting category check all mgr := by
  induction all generalizing fuel check mgr with
  | nil => cases fuel <;> rfl
  | cons front rest ih =>
    obtain ⟨fuel, rfl⟩ : ∃ less, fuel = less + 2 :=
      ⟨fuel - 2, by rw [List.length_cons] at hfuel; omega⟩
    rw [List.length_cons] at hfuel
    rw [tryQueued, searchGroups_succ, takeFitting]
    rcases checked_cases (finder.checkCompatibility category (check ++ [front]) mgr none) with
      ⟨after, proposal, hcheck⟩ | ⟨after, proposal, hcheck⟩ | ⟨after, hcheck⟩
    · rw [hcheck]
      exact ih (by omega)
    · rw [hcheck]
    · rw [hcheck]
      dsimp only
      rw [ih (by omega)]
      -- if the call fails, the loop has nothing left to try
      cases hkept : finder.takeFitting category (check ++ [front]) rest after with
      | mk found result =>
        obtain ⟨left, after⟩ := result
        cases found with
        | some proposal => rfl
        | none =>
          rw [takeFitting_none hkept]
          rfl

theorem findNewGroups_eq :
    finder.findNewGroups category check all mgr =
      match finder.checkCompatibility category check mgr none with
      | (false, mgr, _) => (none, all, mgr)
      | (true, mgr, some proposal) => (some proposal, all, mgr)
      | (true, mgr, none) => finder.takeFitting category check all mgr := by
  unfold findNewGroups
  rw [searchGroups_succ]
  simp only [tryQueued_eq_takeFitting le_rfl]

/-! ## When a group is found -/

theorem takeFitting_isSome :
    (finder.takeFitting category check all mgr).1.isSome = true ↔
      finder.completable category check all mgr = true ∧
        finder.KeepsChances category check all mgr := by
  induction all generalizing check mgr with
  | nil => simp [takeFitting, completable]
  | cons front rest ih =>
    unfold takeFitting completable KeepsChances
    rcases checked_cases (finder.checkCompatibility category (check ++ [front]) mgr none) with
      ⟨after, proposal, hcheck⟩ | ⟨after, proposal, hcheck⟩ | ⟨after, hcheck⟩
    · rw [hcheck]
      exact ih check
    · rw [hcheck]
      simp
    · rw [hcheck]
      rw [ih, Bool.or_eq_true]
      constructor
      · rintro ⟨hwith, hkeeps⟩
        exact ⟨Or.inr hwith, fun _ => hwith, hkeeps⟩
      · rintro ⟨hwithout | hwith, hchance, hkeeps⟩
        · exact ⟨hchance hwithout, hkeeps⟩
        · exact ⟨hwith, hkeeps⟩

theorem findNewGroups_isSome :
    (finder.findNewGroups category check all mgr).1.isSome = true ↔
      finder.choicesFind category check all mgr = true ∧
        finder.SearchKeepsChances category check all mgr := by
  rw [findNewGroups_eq]
  unfold choicesFind SearchKeepsChances
  rcases checked_cases (finder.checkCompatibility category check mgr none) with
    ⟨after, proposal, hcheck⟩ | ⟨after, proposal, hcheck⟩ | ⟨after, hcheck⟩
  · simp [hcheck]
  · simp [hcheck]
  · rw [hcheck]
    exact takeFitting_isSome check all

/-- Where no group can be completed, no chance is lost. -/
theorem keepsChances_of_not_completable {check all : List UInt64}
    (hnone : finder.completable category check all mgr = false) :
    finder.KeepsChances category check all mgr := by
  induction all generalizing check mgr with
  | nil => trivial
  | cons front rest ih =>
    unfold completable at hnone
    unfold KeepsChances
    rcases checked_cases (finder.checkCompatibility category (check ++ [front]) mgr none) with
      ⟨after, proposal, hcheck⟩ | ⟨after, proposal, hcheck⟩ | ⟨after, hcheck⟩
    · rw [hcheck] at hnone ⊢
      exact ih hnone
    · rw [hcheck]
      trivial
    · rw [hcheck] at hnone ⊢
      obtain ⟨hwithout, hwith⟩ := Bool.or_eq_false_iff.mp hnone
      refine ⟨fun hchance => ?_, ih hwith⟩
      rw [hwithout] at hchance
      cases hchance

theorem searchKeepsChances_of_not_choicesFind {check all : List UInt64}
    (hnone : finder.choicesFind category check all mgr = false) :
    finder.SearchKeepsChances category check all mgr := by
  unfold choicesFind at hnone
  unfold SearchKeepsChances
  split
  next hcheck =>
    rw [hcheck] at hnone
    exact keepsChances_of_not_completable hnone
  · trivial

/-! ## Regular searches -/

variable (finder category) in
/-- What is remembered is true, the search has not yet found any of its groups before, and no entry
is in it twice. -/
structure Regular (check all : List UInt64) (mgr : LFGMgr) : Prop where
  truthful : finder.Truthful category mgr
  fresh : ∀ chosen, chosen.Sublist all → finder.fills category mgr (check ++ chosen) = true →
    mgr.compatibleMap (LFGMgr.concatenateGuids (check ++ chosen)) = none
  distinct : (check ++ all).Nodup

theorem checkCompatibility_of_known {check : List UInt64} {known : Bool}
    (hknown : mgr.compatibleMap (LFGMgr.concatenateGuids check) = some known) :
    (finder.checkCompatibility category check mgr none).2.2 = none := by
  cases check with
  | nil => rfl
  | cons frontGuid rest =>
    rw [checkCompatibility, Option.isSome_none, if_neg Bool.false_ne_true, hknown]
    split
    · rfl
    split
    · rfl
    · rfl

/-- A search is regular if nothing is remembered yet. -/
theorem regular_of_forgotten {check all : List UInt64}
    (hforgotten : ∀ key, mgr.compatibleMap key = none) (hdistinct : (check ++ all).Nodup) :
    finder.Regular category check all mgr :=
  ⟨truthful_of_forgotten hforgotten, fun _ _ _ => hforgotten _, hdistinct⟩

/-- In a regular search the answers are those that are given when nothing is remembered. -/
theorem Regular.asked {check all chosen : List UInt64}
    (hregular : finder.Regular category check all mgr) (hchosen : chosen.Sublist all) :
    ((finder.checkCompatibility category (check ++ chosen) mgr none).1 &&
        (finder.checkCompatibility category (check ++ chosen) mgr none).2.2.isSome) =
      finder.fills category mgr (check ++ chosen) := by
  have hanswered := checkCompatibility_answered hregular.truthful (check ++ chosen)
  cases hknown : mgr.compatibleMap (LFGMgr.concatenateGuids (check ++ chosen)) with
  | none => exact hanswered.full hknown
  | some known =>
    rw [checkCompatibility_of_known hknown, Option.isSome_none, Bool.and_false]
    by_contra hfills
    have hfresh := hregular.fresh chosen hchosen ((Bool.not_eq_false _).mp (Ne.symm hfills))
    rw [hfresh] at hknown
    cases hknown

/-- A list that begins with all of `check` does not come after the beginning of another. -/
theorem eq_of_suffix_append {check taken chosen : List UInt64} (hcheck : check ≠ [])
    (hnodup : (check ++ taken).Nodup) (hsuffix : check ++ chosen <:+ check ++ taken) :
    check ++ chosen = check ++ taken := by
  obtain ⟨before, hbefore⟩ := hsuffix
  cases before with
  | nil => exact hbefore
  | cons first before =>
    cases check with
    | nil => exact (hcheck rfl).elim
    | cons frontGuid rest =>
      have hfirst := (List.cons.inj hbefore).1
      rw [← hbefore, hfirst, List.cons_append, List.nodup_cons] at hnodup
      exact (hnodup.1 (by simp)).elim

/-- The groups that are still looked for are not remembered after a list that is none. -/
theorem Regular.fresh_asked {check all taken chosen : List UInt64}
    (hregular : finder.Regular category check all mgr) (hcheck : check ≠ [])
    (htaken : taken.Sublist all) (hopen : finder.fills category mgr (check ++ taken) = false)
    (hchosen : chosen.Sublist all)
    (hfills : finder.fills category mgr (check ++ chosen) = true) :
    (finder.checkCompatibility category (check ++ taken) mgr none).2.1.compatibleMap
      (LFGMgr.concatenateGuids (check ++ chosen)) = none := by
  have hanswered := checkCompatibility_answered hregular.truthful (check ++ taken)
  refine hanswered.forgotten (fun hsuffix => ?_) (hregular.fresh chosen hchosen hfills)
  have hnodup : (check ++ taken).Nodup := hregular.distinct.sublist (htaken.append_left check)
  rw [eq_of_suffix_append hcheck hnodup hsuffix, hopen] at hfills
  cases hfills

/-- The search goes on regularly with whatever it takes and leaves. -/
theorem Regular.next {check all taken next rest : List UInt64}
    (hregular : finder.Regular category check all mgr) (hcheck : check ≠ [])
    (htaken : taken.Sublist all) (hopen : finder.fills category mgr (check ++ taken) = false)
    (hnext : (next ++ rest).Sublist all) :
    finder.Regular category (check ++ next) rest
      (finder.checkCompatibility category (check ++ taken) mgr none).2.1 := by
  have hanswered := checkCompatibility_answered hregular.truthful (check ++ taken)
  refine ⟨hanswered.truthful hregular.truthful, fun chosen hchosen hfills => ?_, ?_⟩
  · rw [fills_congr hanswered.sameQueued] at hfills
    rw [List.append_assoc] at hfills ⊢
    exact hregular.fresh_asked hcheck htaken hopen ((hchosen.append_left next).trans hnext) hfills
  · rw [List.append_assoc]
    exact hregular.distinct.sublist (hnext.append_left check)

variable (finder category mgr) in
/-- `Completes`, by the answers that are given when nothing is remembered. -/
def FillsWith (check chosen : List UInt64) : Prop :=
  (∀ taken < chosen.length, finder.fits category mgr (check ++ chosen.take taken) = true) ∧
    finder.fills category mgr (check ++ chosen) = true

variable {check : List UInt64}

theorem fits_of_fills (hfills : finder.fills category mgr check = true) :
    finder.fits category mgr check = true := by
  unfold fills at hfills
  rw [Bool.and_assoc, Bool.and_eq_true] at hfills
  exact hfills.1

theorem FillsWith.fits {chosen : List UInt64} (hfills : finder.FillsWith category mgr check chosen)
    : finder.fits category mgr check = true := by
  cases chosen with
  | nil => simpa only [List.append_nil] using fits_of_fills hfills.2
  | cons front rest =>
    simpa only [List.take_zero, List.append_nil] using hfills.1 0 (Nat.succ_pos _)

theorem fillsWith_cons {rest : List UInt64} {front : UInt64} :
    finder.FillsWith category mgr check (front :: rest) ↔
      finder.fits category mgr check = true ∧
        finder.FillsWith category mgr (check ++ [front]) rest := by
  constructor
  · intro hfills
    refine ⟨hfills.fits, fun taken htaken => ?_, ?_⟩
    · simpa only [List.take_succ_cons, List.append_assoc, List.singleton_append] using
        hfills.1 (taken + 1) (Nat.succ_lt_succ htaken)
    · simpa only [List.append_assoc, List.singleton_append] using hfills.2
  · rintro ⟨hfits, hfills⟩
    refine ⟨fun taken htaken => ?_, ?_⟩
    · cases taken with
      | zero => simpa only [List.take_zero, List.append_nil] using hfits
      | succ taken =>
        simpa only [List.take_succ_cons, List.append_assoc, List.singleton_append] using
          hfills.1 taken (Nat.lt_of_succ_lt_succ htaken)
    · simpa only [List.append_assoc, List.singleton_append] using hfills.2

/-- The next entry is left, or taken. -/
theorem exists_fillsWith_cons {rest : List UInt64} {front : UInt64}
    (hfits : finder.fits category mgr check = true) :
    (∃ chosen, chosen.Sublist (front :: rest) ∧ finder.FillsWith category mgr check chosen) ↔
      (∃ chosen, chosen.Sublist rest ∧ finder.FillsWith category mgr check chosen) ∨
        ∃ chosen, chosen.Sublist rest ∧
          finder.FillsWith category mgr (check ++ [front]) chosen := by
  constructor
  · rintro ⟨chosen, hchosen, hfills⟩
    rcases List.sublist_cons_iff.mp hchosen with hleft | ⟨others, rfl, hothers⟩
    · exact Or.inl ⟨chosen, hleft, hfills⟩
    · exact Or.inr ⟨others, hothers, (fillsWith_cons.mp hfills).2⟩
  · rintro (⟨chosen, hchosen, hfills⟩ | ⟨others, hothers, hfills⟩)
    · exact ⟨chosen, hchosen.cons front, hfills⟩
    · exact ⟨front :: others, hothers.cons_cons front, fillsWith_cons.mpr ⟨hfits, hfills⟩⟩

theorem fillsWith_congr {after : LFGMgr} (hsame : LFGMgr.SameQueued mgr after)
    (check chosen : List UInt64) :
    finder.FillsWith category after check chosen ↔ finder.FillsWith category mgr check chosen := by
  unfold FillsWith
  simp only [fits_congr hsame, fills_congr hsame]

variable {check : List UInt64}

theorem Regular.completes_iff {all chosen : List UInt64}
    (hregular : finder.Regular category check all mgr) (hchosen : chosen.Sublist all) :
    finder.Completes category check chosen mgr ↔ finder.FillsWith category mgr check chosen := by
  have hanswer : ∀ asked, (finder.checkCompatibility category asked mgr none).1 =
      finder.fits category mgr asked := fun asked =>
    (checkCompatibility_answered hregular.truthful asked).answer
  have hfull := hregular.asked hchosen
  constructor
  · rintro ⟨hcompatible, haccepted, hsome⟩
    refine ⟨fun taken htaken => hanswer _ ▸ hcompatible taken htaken, ?_⟩
    rw [← hfull, haccepted, hsome]
    rfl
  · rintro ⟨hfits, hfills⟩
    rw [← hfull, Bool.and_eq_true] at hfills
    exact ⟨fun taken htaken => (hanswer _).trans (hfits taken htaken), hfills.1, hfills.2⟩

/-- In a regular search there is a group among the entries just if the search with choices finds
one. -/
theorem Regular.completable_iff {all : List UInt64}
    (hregular : finder.Regular category check all mgr) (hcheck : check ≠ [])
    (hfits : finder.fits category mgr check = true)
    (hopen : finder.fills category mgr check = false) :
    finder.completable category check all mgr = true ↔
      ∃ chosen, chosen.Sublist all ∧ finder.FillsWith category mgr check chosen := by
  induction all generalizing check mgr with
  | nil =>
    refine ⟨fun hfalse => (Bool.false_ne_true hfalse).elim, ?_⟩
    rintro ⟨chosen, hchosen, -, hfills⟩
    rw [List.sublist_nil.mp hchosen, List.append_nil, hopen] at hfills
    cases hfills
  | cons front rest ih =>
    have htaken : [front].Sublist (front :: rest) := List.singleton_sublist.mpr (by simp)
    have hanswered := checkCompatibility_answered hregular.truthful (check ++ [front])
    have hasked := hregular.asked htaken
    have hskip : finder.fills category mgr (check ++ [front]) = false →
        finder.Regular category (check ++ []) rest
          (finder.checkCompatibility category (check ++ [front]) mgr none).2.1 :=
      fun hnone => hregular.next hcheck htaken hnone (List.sublist_cons_self front rest)
    have hkeep : finder.fills category mgr (check ++ [front]) = false →
        finder.Regular category (check ++ [front]) rest
          (finder.checkCompatibility category (check ++ [front]) mgr none).2.1 :=
      fun hnone => hregular.next hcheck htaken hnone (List.Sublist.refl _)
    rw [List.append_nil] at hskip
    obtain ⟨hanswer, hsame, -, -, -⟩ := hanswered
    rw [exists_fillsWith_cons hfits]
    unfold completable
    rcases checked_cases (finder.checkCompatibility category (check ++ [front]) mgr none) with
      ⟨after, proposal, hresult⟩ | ⟨after, proposal, hresult⟩ | ⟨after, hresult⟩ <;>
      rw [hresult] at hanswer hsame hasked hskip hkeep ⊢ <;>
      dsimp only at hanswer hsame hasked hskip hkeep ⊢
    · rw [ih (hskip hasked.symm) hcheck ((fits_congr hsame _).trans hfits)
        ((fills_congr hsame _).trans hopen)]
      simp only [fillsWith_congr hsame]
      refine ⟨Or.inl, fun hchance => hchance.resolve_right ?_⟩
      rintro ⟨others, -, hfills⟩
      rw [hfills.fits] at hanswer
      cases hanswer
    · refine iff_of_true rfl (Or.inr ⟨[], List.nil_sublist rest, nofun, ?_⟩)
      rw [List.append_nil]
      exact hasked.symm
    · rw [Bool.or_eq_true, ih (hskip hasked.symm) hcheck ((fits_congr hsame _).trans hfits)
          ((fills_congr hsame _).trans hopen),
        ih (hkeep hasked.symm) (by simp) ((fits_congr hsame _).trans hanswer.symm)
          ((fills_congr hsame _).trans hasked.symm)]
      simp only [fillsWith_congr hsame]

theorem Regular.choicesFind_iff {all : List UInt64}
    (hregular : finder.Regular category check all mgr) :
    finder.choicesFind category check all mgr = true ↔
      finder.HasGroup category check all mgr := by
  have hgroups : finder.HasGroup category check all mgr ↔
      ∃ chosen, chosen.Sublist all ∧ finder.FillsWith category mgr check chosen := by
    constructor
    · rintro ⟨chosen, hchosen, hcompletes⟩
      exact ⟨chosen, hchosen, (hregular.completes_iff hchosen).mp hcompletes⟩
    · rintro ⟨chosen, hchosen, hfills⟩
      exact ⟨chosen, hchosen, (hregular.completes_iff hchosen).mpr hfills⟩
  have hanswered := checkCompatibility_answered hregular.truthful check
  have hasked := hregular.asked (List.nil_sublist all)
  rw [List.append_nil] at hasked
  have hkeep : check ≠ [] → finder.fills category mgr check = false →
      finder.Regular category (check ++ []) all
        (finder.checkCompatibility category (check ++ []) mgr none).2.1 := fun hcheck hnone =>
    hregular.next hcheck (List.nil_sublist all) ((List.append_nil check).symm ▸ hnone)
      (List.Sublist.refl all)
  rw [List.append_nil] at hkeep
  obtain ⟨hanswer, hsame, -, -, -⟩ := hanswered
  rw [hgroups]
  unfold choicesFind
  rcases checked_cases (finder.checkCompatibility category check mgr none) with
    ⟨after, proposal, hresult⟩ | ⟨after, proposal, hresult⟩ | ⟨after, hresult⟩ <;>
    rw [hresult] at hanswer hsame hasked hkeep ⊢ <;>
    dsimp only at hanswer hsame hasked hkeep ⊢
  · refine iff_of_false Bool.false_ne_true ?_
    rintro ⟨chosen, -, hfills⟩
    rw [hfills.fits] at hanswer
    cases hanswer
  · refine iff_of_true rfl ⟨[], List.nil_sublist all, nofun, ?_⟩
    rw [List.append_nil]
    exact hasked.symm
  · have hcheck : check ≠ [] := by
      rintro rfl
      cases hanswer
    rw [(hkeep hcheck hasked.symm).completable_iff hcheck
      ((fits_congr hsame _).trans hanswer.symm) ((fills_congr hsame _).trans hasked.symm)]
    simp only [fillsWith_congr hsame]

/-! ## The search -/

/-- The search finds a group whenever there is one just if, wherever there is one, a search with
choices finds one and no chance is lost.  In a regular search a search with choices always does,
and so it is enough that no chance is lost; a search is regular when nothing is remembered. -/
theorem findsGroup_iff_keepsChances (finder : Finder) (category : LfgCategory)
    (check all : List UInt64) (mgr : LFGMgr) :
    (finder.FindsGroup category check all mgr ↔
      (finder.HasGroup category check all mgr →
        finder.choicesFind category check all mgr = true ∧
          finder.SearchKeepsChances category check all mgr)) ∧
      (finder.Regular category check all mgr →
        (finder.FindsGroup category check all mgr ↔
          finder.SearchKeepsChances category check all mgr)) ∧
      ((∀ key, mgr.compatibleMap key = none) → (check ++ all).Nodup →
        finder.Regular category check all mgr) := by
  unfold FindsGroup
  rw [findNewGroups_isSome]
  refine ⟨Iff.rfl, fun hregular => ?_, regular_of_forgotten⟩
  rw [← hregular.choicesFind_iff]
  constructor
  · intro hfinds
    cases hchoices : finder.choicesFind category check all mgr with
    | false => exact searchKeepsChances_of_not_choicesFind hchoices
    | true => exact (hfinds hchoices).2
  · exact fun hkeeps hchoices => ⟨hchoices, hkeeps⟩

end

end Finder

def queuedPlayer (low : UInt64) : UInt64 := makeNewGuid low 0 HighGuid.player

/-- A finder for players who are all there; the second ignores those after him. -/
def scenarioFinder : Finder where
  findPlayer := fun _ => some ⟨67, none⟩
  twoSide := false
  hasIgnore := fun guid other => guid = queuedPlayer 2 && 2 < other
  isLFGGroup := fun _ => false
  lockedDungeons := fun _ => []
  test := false
  coin := fun _ => true
  randomPlayer := fun max => ⟨0, Nat.succ_pos max⟩
  randomDungeon := fun max => ⟨0, Nat.succ_pos max⟩

def scenarioMgr : LFGMgr :=
  { queuedMgr with
    queueInfoMap := fun guid =>
      some ⟨[5], ⟨[⟨guid, roleDamage⟩], nodup_damage guid⟩, .scenario⟩ }

namespace Finder

/-- The second player fits with the first and is kept, so the third and the fourth, who make a
group with the first, come too late. -/
theorem not_always_findsGroup : ¬scenarioFinder.FindsGroup .scenario [queuedPlayer 1]
    [queuedPlayer 2, queuedPlayer 3, queuedPlayer 4] scenarioMgr := by
  intro hfinds
  have hfound := hfinds ⟨[queuedPlayer 3, queuedPlayer 4], List.sublist_cons_self _ _,
    by decide +kernel, by decide +kernel, by decide +kernel⟩
  have hnone : (scenarioFinder.findNewGroups .scenario [queuedPlayer 1]
      [queuedPlayer 2, queuedPlayer 3, queuedPlayer 4] scenarioMgr).1 = none := by
    decide +kernel
  rw [hnone] at hfound
  cases hfound

end Finder

end MopServer.DungeonFinder
