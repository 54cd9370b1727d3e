import MopServer.DungeonFinder.Compatibility

/-! # Answers that are remembered

The check remembers its answers under the numbers of the entries.  As long as the same entries are
queued, with the same choices, what it remembers is what it would answer again.
-/

namespace MopServer.DungeonFinder

open MopServer.Foundation

/-! ## The numbers of the entries -/

theorem bar_not_mem_toString (number : Nat) : '|' ∉ (toString number).toList := by
  intro hbar
  rw [Nat.toString_eq_repr, Nat.toList_repr] at hbar
  exact absurd (Nat.isDigit_of_mem_toDigits (by decide) (by decide) hbar) (by decide)

theorem toString_toNat_injective :
    Function.Injective fun guid : UInt64 => (toString guid.toNat).toList := by
  intro first second hsame
  have hdigits : Nat.toDigits 10 first.toNat = Nat.toDigits 10 second.toNat := by
    simpa only [Nat.toString_eq_repr, Nat.toList_repr] using hsame
  have hnumber := congrArg (fun digits => Nat.ofDigitChars 10 digits 0) hdigits
  simp only [Nat.ofDigitChars_ten_toDigits] at hnumber
  exact UInt64.toNat_inj.mp hnumber

variable {check : List UInt64}

/-- The numbers can be read back. -/
theorem splitOn_concatenateGuids (hcheck : check ≠ []) :
    (LFGMgr.concatenateGuids check).toList.splitOn '|' =
      check.map fun guid => (toString guid.toNat).toList := by
  unfold LFGMgr.concatenateGuids
  rw [String.toList_intercalate, List.map_map]
  refine List.splitOn_intercalate '|' ?_ (List.map_eq_nil_iff.not.mpr hcheck)
  intro digits hdigits
  obtain ⟨guid, -, rfl⟩ := List.mem_map.mp hdigits
  exact bar_not_mem_toString guid.toNat

theorem concatenateGuids_ne_empty (hcheck : check ≠ []) :
    LFGMgr.concatenateGuids check ≠ LFGMgr.concatenateGuids [] := by
  intro hempty
  have hread := splitOn_concatenateGuids hcheck
  rw [hempty] at hread
  cases check with
  | nil => exact hcheck rfl
  | cons guid rest =>
    have hdigits : [] = (toString guid.toNat).toList := (List.cons.inj hread).1
    rw [Nat.toString_eq_repr, Nat.toList_repr] at hdigits
    exact Nat.toDigits_ne_nil hdigits.symm

theorem concatenateGuids_injective : Function.Injective LFGMgr.concatenateGuids := by
  intro first second hsame
  by_cases hfirst : first = []
  · by_contra hne
    rw [hfirst] at hsame hne
    exact concatenateGuids_ne_empty (Ne.symm hne) hsame.symm
  by_cases hsecond : second = []
  · rw [hsecond] at hsame
    exact (concatenateGuids_ne_empty hfirst hsame).elim
  apply List.map_injective_iff.mpr toString_toNat_injective
  rw [← splitOn_concatenateGuids hfirst, hsame, splitOn_concatenateGuids hsecond]

/-! ## What the answers depend on -/

namespace LFGMgr

/-- The choices of an entry that is queued. -/
def queuedInfo (mgr : LFGMgr) (guid : UInt64) : Option LfgQueueInfo :=
  if mgr.getState guid = .queued then mgr.queueInfoMap guid else none

/-- The same entries are queued, with the same choices. -/
def SameQueued (before after : LFGMgr) : Prop := after.queuedInfo = before.queuedInfo

theorem sameQueued_removeFromQueue {mgr : LFGMgr} {guid : UInt64}
    (hguid : mgr.queuedInfo guid = none) : SameQueued mgr (mgr.removeFromQueue guid) := by
  funext other
  by_cases hother : other = guid
  · rw [hother, hguid]
    unfold queuedInfo removeFromQueue
    dsimp only
    rw [Function.update_self, ite_self]
  · unfold queuedInfo removeFromQueue
    dsimp only
    rw [Function.update_of_ne hother]
    rfl

end LFGMgr

namespace Finder

variable {finder : Finder} {mgr after : LFGMgr} {category : LfgCategory}

theorem gather_cons (max : Nat) (guid : UInt64) (rest : List UInt64) (gathered : Gathered) :
    finder.gather mgr max (guid :: rest) gathered =
      if gathered.numLfgGroups < 2 && gathered.numPlayers.toNat ≤ max then
        match mgr.queuedInfo guid with
        | none => .error guid
        | some info => finder.gather mgr max rest (finder.gatherEntry gathered guid info)
      else .ok gathered := by
  unfold LFGMgr.queuedInfo
  rw [gather]
  by_cases hqueued : mgr.getState guid = .queued
  · cases mgr.queueInfoMap guid <;> simp [hqueued]
  · cases mgr.queueInfoMap guid <;> simp [hqueued]

theorem gather_congr (hsame : LFGMgr.SameQueued mgr after) (max : Nat) (check : List UInt64)
    (gathered : Gathered) :
    finder.gather after max check gathered = finder.gather mgr max check gathered := by
  induction check generalizing gathered with
  | nil => rfl
  | cons guid rest ih =>
    rw [gather_cons, gather_cons, hsame]
    simp only [ih]

theorem queuedInfo_of_gather_error {max : Nat} {check : List UInt64} {gathered : Gathered}
    {guid : UInt64} (herror : finder.gather mgr max check gathered = .error guid) :
    mgr.queuedInfo guid = none := by
  induction check generalizing gathered with
  | nil => cases herror
  | cons first rest ih =>
    rw [gather_cons] at herror
    split at herror
    · split at herror
      next hnone =>
        cases herror
        exact hnone
      · exact ih herror
    · cases herror

/-- What the check of all entries may do to the dungeon finder: nothing, to remember its answer,
or to remove an entry that is not queued. -/
inductive Effect (mgr : LFGMgr) (check : List UInt64) (answer : Bool) :
    (LFGMgr → LFGMgr) → Prop
  | unchanged : Effect mgr check answer id
  | remembered : Effect mgr check answer
      fun after => after.setCompatibles (LFGMgr.concatenateGuids check) answer
  | removed {guid : UInt64} (hguid : mgr.queuedInfo guid = none) :
      Effect mgr check answer fun after => after.removeFromQueue guid

variable (finder mgr category) in
/-- The entries are a part of one group, with a role for everybody, or all of it. -/
def Gathers (check : List UInt64) (formed : Option LfgProposal) : Prop :=
  ∃ gathered, finder.gather mgr (finder.maxGroupSize category) check ⟨0, 0, 0, Table.empty⟩ =
      .ok gathered ∧
    gathered.numLfgGroups ≤ 1 ∧ gathered.numPlayers.toNat ≤ finder.maxGroupSize category ∧
    (collectRoles gathered.infos.rows).rows.length = gathered.numPlayers.toNat ∧
    (formed.isSome = true ↔ gathered.numPlayers.toNat = finder.maxGroupSize category)

variable (finder mgr category) in
/-- What is known of the entries if the check of them all answers yes. -/
def Passed (check : List UInt64) (formed : Option LfgProposal) : Prop :=
  check.length = 1 ∧ formed = none ∨ finder.Gathers mgr category check formed

variable (finder mgr category) in
/-- What the check of all entries does wherever the same entries are queued. -/
structure Outcome (check : List UInt64) (answer : Bool) (formed : Option LfgProposal)
    (effect : LFGMgr → LFGMgr) : Prop where
  permitted : Effect mgr check answer effect
  passed : answer = true → finder.Passed mgr category check formed
  failed : answer = false → formed = none
  run : ∀ after proposal, LFGMgr.SameQueued mgr after →
    finder.checkAll category check after proposal = (answer, effect after, formed.or proposal)

variable {check : List UInt64}

theorem Outcome.denied {effect : LFGMgr → LFGMgr} (hpermitted : Effect mgr check false effect)
    (hrun : ∀ after proposal, LFGMgr.SameQueued mgr after →
      finder.checkAll category check after proposal = (false, effect after, proposal)) :
    finder.Outcome mgr category check false none effect where
  permitted := hpermitted
  passed := nofun
  failed := fun _ => rfl
  run := hrun

variable {formed : Option LfgProposal}

theorem Outcome.accepted {effect : LFGMgr → LFGMgr} (hpermitted : Effect mgr check true effect)
    (hpassed : finder.Passed mgr category check formed)
    (hrun : ∀ after proposal, LFGMgr.SameQueued mgr after →
      finder.checkAll category check after proposal = (true, effect after, formed.or proposal)) :
    finder.Outcome mgr category check true formed effect where
  permitted := hpermitted
  passed := fun _ => hpassed
  failed := nofun
  run := hrun

variable (finder mgr category) in
/-- The check of all entries depends only on what is queued. -/
theorem exists_outcome (check : List UInt64) :
    ∃ answer formed effect, finder.Outcome mgr category check answer formed effect := by
  cases hgather : finder.gather mgr (finder.maxGroupSize category) check
    ⟨0, 0, 0, Table.empty⟩ with
  | error guid =>
    have hremoved : Effect mgr check false fun after => after.removeFromQueue guid :=
      .removed (queuedInfo_of_gather_error hgather)
    refine ⟨false, none, _, .denied hremoved fun after proposal hsame => ?_⟩
    simp only [checkAll, (gather_congr hsame _ _ _).trans hgather]
  | ok gathered =>
    have hfor : ∀ after, LFGMgr.SameQueued mgr after →
        finder.gather after (finder.maxGroupSize category) check ⟨0, 0, 0, Table.empty⟩ =
          .ok gathered := fun after hsame => (gather_congr hsame _ _ _).trans hgather
    by_cases hsingle : check.length = 1 ∧
        gathered.numPlayers.toNat ≠ finder.maxGroupSize category
    · refine ⟨true, none, _, .accepted .unchanged (Or.inl ⟨hsingle.1, rfl⟩)
        fun after proposal hsame => ?_⟩
      simp only [checkAll, hfor after hsame, if_pos hsingle]
      rfl
    by_cases hroom : 1 < gathered.numLfgGroups ∨
        finder.maxGroupSize category < gathered.numPlayers.toNat
    · refine ⟨false, none, _, .denied .remembered fun after proposal hsame => ?_⟩
      simp only [checkAll, hfor after hsame, if_neg hsingle, if_pos hroom]
    by_cases hroles : (collectRoles gathered.infos.rows).rows.length ≠
        gathered.numPlayers.toNat
    · refine ⟨false, none, _, .denied .unchanged fun after proposal hsame => ?_⟩
      simp only [checkAll, hfor after hsame, if_neg hsingle, if_neg hroom, if_pos hroles]
      rfl
    by_cases hplayers : (finder.choosePlayers [] (collectRoles gathered.infos.rows).rows).length ≠
        gathered.numPlayers.toNat
    · refine ⟨false, none, _, .denied .remembered fun after proposal hsame => ?_⟩
      simp only [checkAll, hfor after hsame, if_neg hsingle, if_neg hroom, if_neg hroles,
        if_pos hplayers]
    -- from here on it is known that there are neither too many players nor too many groups
    have hpassed : ∀ formed : Option LfgProposal, (formed.isSome = true ↔
        gathered.numPlayers.toNat = finder.maxGroupSize category) →
          finder.Passed mgr category check formed := fun formed hformed =>
      Or.inr ⟨gathered, hgather, by omega, by omega, not_not.mp hroles, hformed⟩
    cases hassigned : checkGroupRoles (rolesNeeded finder.test category)
        (collectRoles gathered.infos.rows).rows with
    | none =>
      refine ⟨false, none, _, .denied .remembered fun after proposal hsame => ?_⟩
      simp only [checkAll, hfor after hsame, if_neg hsingle, if_neg hroom, if_neg hroles,
        if_neg hplayers, hassigned]
    | some assigned =>
      cases hdungeons : finder.getCompatibleDungeons
          (commonDungeons category gathered.infos.rows)
          (finder.choosePlayers [] (collectRoles gathered.infos.rows).rows) with
      | nil =>
        refine ⟨false, none, _, .denied .remembered fun after proposal hsame => ?_⟩
        simp only [checkAll, hfor after hsame, if_neg hsingle, if_neg hroom, if_neg hroles,
          if_neg hplayers, hassigned, hdungeons]
      | cons dungeon dungeons =>
        by_cases hsize : gathered.numPlayers.toNat ≠ finder.maxGroupSize category
        · have hnone := hpassed none (iff_of_false Bool.false_ne_true hsize)
          refine ⟨true, none, _, .accepted .remembered hnone fun after proposal hsame => ?_⟩
          simp only [checkAll, hfor after hsame, if_neg hsingle, if_neg hroom,
            if_neg hroles, if_neg hplayers, hassigned, hdungeons, if_pos hsize]
          rfl
        · have hsome := hpassed (some (finder.formProposal category check gathered
            (finder.choosePlayers [] (collectRoles gathered.infos.rows).rows) assigned
            ((dungeon :: dungeons).get (finder.randomDungeon dungeons.length))))
            (iff_of_true rfl (not_not.mp hsize))
          refine ⟨true, _, _, .accepted .remembered hsome fun after proposal hsame => ?_⟩
          simp only [checkAll, hfor after hsame, if_neg hsingle, if_neg hroom,
            if_neg hroles, if_neg hplayers, hassigned, hdungeons, if_neg hsize]
          rfl

theorem Effect.sameQueued {answer : Bool} {effect : LFGMgr → LFGMgr}
    (heffect : Effect mgr check answer effect) (hsame : LFGMgr.SameQueued mgr after) :
    LFGMgr.SameQueued mgr (effect after) := by
  cases heffect with
  | unchanged => exact hsame
  | remembered => exact hsame
  | removed hguid =>
    exact (LFGMgr.sameQueued_removeFromQueue ((congrFun hsame _).trans hguid)).trans hsame

theorem Effect.compatibleMap {answer : Bool} {effect : LFGMgr → LFGMgr}
    (heffect : Effect mgr check answer effect) {key : String} {known : Bool}
    (hknown : (effect after).compatibleMap key = some known) :
    after.compatibleMap key = some known ∨
      key = LFGMgr.concatenateGuids check ∧ known = answer := by
  cases heffect with
  | unchanged => exact Or.inl hknown
  | remembered =>
    by_cases hkey : key = LFGMgr.concatenateGuids check
    · right
      unfold LFGMgr.setCompatibles at hknown
      dsimp only at hknown
      rw [hkey, Function.update_self, Option.some.injEq] at hknown
      exact ⟨hkey, hknown.symm⟩
    · left
      unfold LFGMgr.setCompatibles at hknown
      dsimp only at hknown
      rwa [Function.update_of_ne hkey] at hknown
  | removed hguid =>
    left
    unfold LFGMgr.removeFromQueue LFGMgr.removeFromCompatibles at hknown
    dsimp only at hknown
    split at hknown
    · cases hknown
    · exact hknown

theorem collectRoles_length_le {fewer more : List QueueEntry}
    (hsub : ∀ entry ∈ fewer, entry ∈ more) :
    (collectRoles fewer).rows.length ≤ (collectRoles more).rows.length := by
  obtain ⟨-, hfewer⟩ := collectRoles_spec fewer
  obtain ⟨-, hmore⟩ := collectRoles_spec more
  have hguids : (collectRoles fewer).rows.map LfgRole.guid ⊆
      (collectRoles more).rows.map LfgRole.guid := by
    intro guid hguid
    obtain ⟨entry, hentry, hchosen⟩ := (hfewer guid).mp (List.mem_map.mp hguid)
    exact List.mem_map.mpr ((hmore guid).mpr ⟨entry, hsub entry hentry, hchosen⟩)
  simpa only [List.length_map] using
    (List.subperm_of_subset (collectRoles fewer).nodup hguids).length_le

theorem Passed.gathered (hpassed : finder.Passed mgr category check formed)
    (hmany : check.length = 1 → formed.isSome = true) :
    finder.Gathers mgr category check formed := by
  rcases hpassed with ⟨hone, rfl⟩ | hgathered
  · cases hmany hone
  · exact hgathered

/-- If some of the entries are a group for themselves, more of them do not fit, unless they add
no player. -/
theorem Passed.isSome_of_subset {some all : List UInt64} {formed other : Option LfgProposal}
    (hsub : ∀ guid ∈ some, guid ∈ all) (hmany : all.length ≠ 1)
    (hsome : finder.Passed mgr category some formed) (hformed : formed.isSome = true)
    (hall : finder.Passed mgr category all other) : other.isSome = true := by
  have hempty : Agrees mgr ⟨0, 0, 0, Table.empty⟩ :=
    fun entry hentry => absurd hentry List.not_mem_nil
  obtain ⟨fewer, hfewer, hfewerGroups, hfewerPlayers, hfewerRoles, hfewerSize⟩ :=
    hsome.gathered fun _ => hformed
  obtain ⟨more, hmore, hmoreGroups, hmorePlayers, hmoreRoles, hmoreSize⟩ :=
    hall.gathered fun hone => absurd hone hmany
  obtain ⟨-, -, hfewerEntries, -⟩ := gather_spec hempty hfewer hfewerGroups hfewerPlayers
  obtain ⟨-, -, hmoreEntries, -⟩ := gather_spec hempty hmore hmoreGroups hmorePlayers
  have hentries : ∀ entry ∈ fewer.infos.rows, entry ∈ more.infos.rows := by
    intro entry hentry
    obtain ⟨hguid, hinfo⟩ := ((hfewerEntries entry).mp hentry).resolve_left List.not_mem_nil
    exact (hmoreEntries entry).mpr (Or.inr ⟨hsub entry.guid hguid, hinfo⟩)
  have hroles := collectRoles_length_le hentries
  have hsize := hfewerSize.mp hformed
  apply hmoreSize.mpr
  omega

/-! ## The answers -/

/-- The answer of the check when nothing is remembered. -/
def fits (finder : Finder) (category : LfgCategory) (mgr : LFGMgr) : List UInt64 → Bool
  | [] => false
  | frontGuid :: rest =>
    let check := frontGuid :: rest
    if finder.maxGroupSize category < check.length then false
    else if check.length = 1 ∧ isPlayerGuid frontGuid then true
    else
      (decide (check.length ≤ 2) || fits finder category mgr rest) &&
        (finder.checkAll category check mgr none).1

/-- The entries fit, and are a full group. -/
def fills (finder : Finder) (category : LfgCategory) (mgr : LFGMgr) (check : List UInt64) : Bool :=
  finder.fits category mgr check && !(check.length = 1 && check.all isPlayerGuid) &&
    (finder.checkAll category check mgr none).2.2.isSome

theorem checkAll_congr (hsame : LFGMgr.SameQueued mgr after) (check : List UInt64) :
    (finder.checkAll category check after none).1 = (finder.checkAll category check mgr none).1 ∧
      (finder.checkAll category check after none).2.2 =
        (finder.checkAll category check mgr none).2.2 := by
  obtain ⟨answer, formed, effect, houtcome⟩ := exists_outcome finder mgr category check
  rw [houtcome.run after none hsame, houtcome.run mgr none rfl]
  exact ⟨rfl, rfl⟩

theorem fits_congr (hsame : LFGMgr.SameQueued mgr after) (check : List UInt64) :
    finder.fits category after check = finder.fits category mgr check := by
  induction check with
  | nil => rfl
  | cons frontGuid rest ih =>
    simp only [fits, ih, (checkAll_congr hsame (frontGuid :: rest)).1]

theorem fills_congr (hsame : LFGMgr.SameQueued mgr after) (check : List UInt64) :
    finder.fills category after check = finder.fills category mgr check := by
  unfold fills
  rw [fits_congr hsame, (checkAll_congr hsame check).2]

variable (finder category) in
/-- Whatever is remembered is what would be answered if it were not. -/
def Truthful (mgr : LFGMgr) : Prop :=
  ∀ check known, mgr.compatibleMap (LFGMgr.concatenateGuids check) = some known →
    finder.fits category mgr check = known

variable (finder category mgr) in
/-- What is expected of the check of some entries when what is remembered is true. -/
structure Answered (check : List UInt64) (result : Bool × LFGMgr × Option LfgProposal) :
    Prop where
  answer : result.1 = finder.fits category mgr check
  sameQueued : LFGMgr.SameQueued mgr result.2.1
  known : ∀ key known, result.2.1.compatibleMap key = some known →
    mgr.compatibleMap key = some known ∨
      ∃ asked, asked <:+ check ∧ key = LFGMgr.concatenateGuids asked ∧
        known = finder.fits category mgr asked
  formed : result.2.2.isSome = true → ∃ asked formed, asked <:+ check ∧
    finder.Passed mgr category asked formed ∧ formed.isSome = true
  full : mgr.compatibleMap (LFGMgr.concatenateGuids check) = none →
    (result.1 && result.2.2.isSome) = finder.fills category mgr check

/-- The last step of the check, after the entries but the first have been checked. -/
theorem answered_checkAll {proposal : Option LfgProposal}
    (hfits : finder.fits category mgr check = (finder.checkAll category check mgr none).1)
    (hsingle : ¬(check.length = 1 ∧ check.all isPlayerGuid = true))
    (hsame : LFGMgr.SameQueued mgr after)
    (hknown : ∀ key known, after.compatibleMap key = some known →
      mgr.compatibleMap key = some known ∨
        ∃ asked, asked <:+ check ∧ key = LFGMgr.concatenateGuids asked ∧
          known = finder.fits category mgr asked)
    (hproposal : proposal.isSome = true → check.length ≠ 1 ∧ ∃ asked formed, asked <:+ check ∧
      finder.Passed mgr category asked formed ∧ formed.isSome = true) :
    finder.Answered mgr category check (finder.checkAll category check after proposal) := by
  obtain ⟨answer, formed, effect, houtcome⟩ := exists_outcome finder mgr category check
  have hanswer : finder.fits category mgr check = answer := by
    rw [hfits, houtcome.run mgr none rfl]
  rw [houtcome.run after proposal hsame]
  refine ⟨hanswer.symm, houtcome.permitted.sameQueued hsame, fun key known hmap => ?_,
    fun hsome => ?_, fun _ => ?_⟩
  · rcases houtcome.permitted.compatibleMap hmap with hbefore | ⟨rfl, rfl⟩
    · exact hknown key known hbefore
    · exact Or.inr ⟨check, List.suffix_rfl, rfl, hanswer.symm⟩
  · cases formed with
    | none => exact (hproposal hsome).2
    | some proposal =>
      cases answer with
      | false => cases houtcome.failed rfl
      | true => exact ⟨check, _, List.suffix_rfl, houtcome.passed rfl, rfl⟩
  · unfold fills
    rw [hanswer, houtcome.run mgr none rfl]
    have hmany : (!(decide (check.length = 1) && check.all isPlayerGuid)) = true := by
      simpa only [Bool.not_eq_true', Bool.and_eq_false_iff, decide_eq_false_iff_not,
        Bool.not_eq_true, not_and_or] using hsingle
    rw [hmany, Bool.and_true, Option.or_none]
    cases answer with
    | false => rfl
    | true =>
      cases formed with
      | some proposal => rfl
      | none =>
        -- a proposal for some of them would have been one for all
        rw [Option.none_or]
        cases hsome : proposal.isSome with
        | false => rfl
        | true =>
          obtain ⟨hlength, asked, other, hasked, hpassed, hother⟩ := hproposal hsome
          cases hpassed.isSome_of_subset hasked.subset hlength hother (houtcome.passed rfl)

/-- As long as what is remembered is true, the check answers as if nothing were remembered. -/
theorem checkCompatibility_answered (htruthful : finder.Truthful category mgr)
    (check : List UInt64) :
    finder.Answered mgr category check (finder.checkCompatibility category check mgr none) := by
  induction check with
  | nil => exact ⟨rfl, rfl, fun _ _ => Or.inl, nofun, fun _ => rfl⟩
  | cons frontGuid rest ih =>
    rw [checkCompatibility, Option.isSome_none, if_neg Bool.false_ne_true]
    by_cases hlong : finder.maxGroupSize category < (frontGuid :: rest).length
    · rw [if_pos hlong]
      have hfits : finder.fits category mgr (frontGuid :: rest) = false := by
        rw [fits, if_pos hlong]
      exact ⟨hfits.symm, rfl, fun _ _ => Or.inl, nofun, fun _ => by rw [fills, hfits]; rfl⟩
    rw [if_neg hlong]
    by_cases hsingle : (frontGuid :: rest).length = 1 ∧ isPlayerGuid frontGuid = true
    · rw [if_pos hsingle]
      have hfits : finder.fits category mgr (frontGuid :: rest) = true := by
        rw [fits, if_neg hlong, if_pos hsingle]
      refine ⟨hfits.symm, rfl, fun _ _ => Or.inl, nofun, fun _ => ?_⟩
      rw [List.length_cons, Nat.succ_inj, List.length_eq_zero_iff] at hsingle
      obtain ⟨rfl, hplayer⟩ := hsingle
      rw [fills, List.all_cons, hplayer]
      simp
    rw [if_neg hsingle]
    have hfits : finder.fits category mgr (frontGuid :: rest) =
        ((decide ((frontGuid :: rest).length ≤ 2) || finder.fits category mgr rest) &&
          (finder.checkAll category (frontGuid :: rest) mgr none).1) := by
      rw [fits, if_neg hlong, if_neg hsingle]
    have hnotSingle : ¬((frontGuid :: rest).length = 1 ∧
        (frontGuid :: rest).all isPlayerGuid = true) := by
      rintro ⟨hone, hall⟩
      rw [List.all_cons, Bool.and_eq_true] at hall
      exact hsingle ⟨hone, hall.1⟩
    cases hanswer : mgr.compatibleMap (LFGMgr.concatenateGuids (frontGuid :: rest)) with
    | some known =>
      refine ⟨(htruthful _ known hanswer).symm, rfl, fun _ _ => Or.inl, nofun, fun hnone => ?_⟩
      rw [hanswer] at hnone
      cases hnone
    | none =>
      by_cases hlength : 2 < (frontGuid :: rest).length
      case neg =>
        rw [if_neg hlength]
        rw [decide_eq_true (Nat.not_lt.mp hlength), Bool.true_or, Bool.true_and] at hfits
        exact answered_checkAll hfits hnotSingle rfl (fun _ _ => Or.inl) nofun
      -- the others first
      rw [if_pos hlength]
      rw [decide_eq_false (Nat.not_le.mpr hlength), Bool.false_or] at hfits
      have hbehind := List.suffix_cons frontGuid rest
      have hknown : ∀ key known,
          (finder.checkCompatibility category rest mgr none).2.1.compatibleMap key =
            some known →
          mgr.compatibleMap key = some known ∨
            ∃ asked, asked <:+ frontGuid :: rest ∧ key = LFGMgr.concatenateGuids asked ∧
              known = finder.fits category mgr asked := by
        intro key known hmap
        rcases ih.known key known hmap with hbefore | ⟨asked, hasked, hsame⟩
        · exact Or.inl hbefore
        · exact Or.inr ⟨asked, hasked.trans hbehind, hsame⟩
      have hformed : (finder.checkCompatibility category rest mgr none).2.2.isSome = true →
          ∃ asked formed, asked <:+ frontGuid :: rest ∧
            finder.Passed mgr category asked formed ∧ formed.isSome = true := by
        intro hsome
        obtain ⟨asked, formed, hasked, hpassed⟩ := ih.formed hsome
        exact ⟨asked, formed, hasked.trans hbehind, hpassed⟩
      have hothers := ih.answer
      have hsame := ih.sameQueued
      cases hresult : finder.checkCompatibility category rest mgr none with
      | mk answer result =>
        obtain ⟨after, proposal⟩ := result
        rw [hresult] at hknown hformed hothers hsame
        rw [← hothers] at hfits
        cases answer with
        | false =>
          rw [Bool.false_and] at hfits
          refine ⟨hfits.symm, hsame, fun key known hmap => ?_, hformed, fun _ => ?_⟩
          · have hremembered : Effect mgr (frontGuid :: rest) false _ := .remembered
            rcases hremembered.compatibleMap hmap with hbefore | ⟨rfl, rfl⟩
            · exact hknown key known hbefore
            · exact Or.inr ⟨_, List.suffix_rfl, rfl, hfits.symm⟩
          · rw [fills, hfits]
            rfl
        | true =>
          rw [Bool.true_and] at hfits
          exact answered_checkAll hfits hnotSingle hsame hknown
            fun hsome => ⟨by omega, hformed hsome⟩

theorem truthful_of_forgotten (hforgotten : ∀ key, mgr.compatibleMap key = none) :
    finder.Truthful category mgr := by
  intro check known hknown
  rw [hforgotten] at hknown
  cases hknown

/-- What is remembered stays true. -/
theorem Answered.truthful {result : Bool × LFGMgr × Option LfgProposal}
    (hanswered : finder.Answered mgr category check result)
    (htruthful : finder.Truthful category mgr) : finder.Truthful category result.2.1 := by
  intro other known hknown
  rw [fits_congr hanswered.sameQueued]
  rcases hanswered.known _ known hknown with hbefore | ⟨asked, -, hsame, hanswer⟩
  · exact htruthful other known hbefore
  · rw [concatenateGuids_injective hsame, hanswer]

/-- Only what has been asked is remembered. -/
theorem Answered.forgotten {other : List UInt64} {result : Bool × LFGMgr × Option LfgProposal}
    (hanswered : finder.Answered mgr category check result) (hother : ¬other <:+ check)
    (hforgotten : mgr.compatibleMap (LFGMgr.concatenateGuids other) = none) :
    result.2.1.compatibleMap (LFGMgr.concatenateGuids other) = none := by
  cases hknown : result.2.1.compatibleMap (LFGMgr.concatenateGuids other) with
  | none => rfl
  | some known =>
    rcases hanswered.known _ known hknown with hbefore | ⟨asked, hasked, hsame, -⟩
    · rw [hforgotten] at hbefore
      cases hbefore
    · exact (hother (concatenateGuids_injective hsame ▸ hasked)).elim

end Finder

end MopServer.DungeonFinder
