import MopServer.Foundation.Run
import MopServer.Instances.InstanceBinds

/-! # Binds point both ways

A holder is in the list of a save once when its bind for the map and difficulty of the save points
to the save, and else not at all.  So the loops of a reset end, and no bind outlives its save.
-/

namespace MopServer.Instances

open MopServer.Foundation

variable {kind : HolderKind}

namespace InstanceSave

variable {save : InstanceSave} {holder : Holder}

theorem list_add_self :
    (save.add holder).list holder.kind = save.list holder.kind ++ [holder.guid] :=
  Function.update_self _ _ _

theorem list_add_of_ne (hkind : kind ≠ holder.kind) :
    (save.add holder).list kind = save.list kind := Function.update_of_ne hkind _ _

theorem list_remove_self :
    (save.remove holder).list holder.kind =
      (save.list holder.kind).filter fun guid => guid ≠ holder.guid :=
  Function.update_self _ _ _

theorem list_remove_of_ne (hkind : kind ≠ holder.kind) :
    (save.remove holder).list kind = save.list kind := Function.update_of_ne hkind _ _

def count (save : InstanceSave) (holder : Holder) : Nat := (save.list holder.kind).count holder.guid

theorem count_add (save : InstanceSave) (holder other : Holder) :
    (save.add holder).count other = save.count other + if other = holder then 1 else 0 := by
  unfold count
  by_cases hkind : other.kind = holder.kind
  · rw [hkind, list_add_self, List.count_append, List.count_singleton]
    congr 1
    by_cases hguid : other.guid = holder.guid
    · have hsame : other = holder := Holder.ext hkind hguid
      simp [hsame]
    · have hother : other ≠ holder := fun heq => hguid (heq ▸ rfl)
      simp [hother, Ne.symm hguid]
  · have hother : other ≠ holder := fun heq => hkind (heq ▸ rfl)
    rw [list_add_of_ne hkind, if_neg hother, Nat.add_zero]

theorem count_remove (save : InstanceSave) (holder other : Holder) :
    (save.remove holder).count other = if other = holder then 0 else save.count other := by
  unfold count
  by_cases hkind : other.kind = holder.kind
  · rw [hkind, list_remove_self]
    by_cases hguid : other.guid = holder.guid
    · have hsame : other = holder := Holder.ext hkind hguid
      rw [if_pos hsame, List.count_eq_zero]
      intro hmem
      have hne := List.of_mem_filter hmem
      simp [hguid] at hne
    · have hother : other ≠ holder := fun heq => hguid (heq ▸ rfl)
      rw [if_neg hother, List.count_filter (by simpa using hguid)]
  · have hother : other ≠ holder := fun heq => hkind (heq ▸ rfl)
    rw [list_remove_of_ne hkind, if_neg hother]

theorem count_of_isEmpty (hempty : save.isEmpty = true) (holder : Holder) :
    save.count holder = 0 := by
  unfold isEmpty at hempty
  rw [Bool.and_eq_true, List.isEmpty_iff, List.isEmpty_iff] at hempty
  unfold count
  cases hkind : holder.kind with
  | player => rw [hempty.1]; rfl
  | group => rw [hempty.2]; rfl

end InstanceSave

namespace Bindings

def PointsTo (bindings : Bindings) (holder : Holder) (save : InstanceSave) (address : Nat) :
    Prop :=
  (bindings.bound holder save.difficulty save.mapid).map InstanceBind.save = some address

instance (bindings : Bindings) (holder : Holder) (save : InstanceSave) (address : Nat) :
    Decidable (bindings.PointsTo holder save address) :=
  inferInstanceAs (Decidable (_ = _))

/-- What holds of saves and binds between events, and in a reset too. -/
structure Linked (bindings : Bindings) : Prop where
  nodup : (bindings.instanceSaveById.map Prod.fst).Nodup
  registered : ∀ instanceId address, (instanceId, address) ∈ bindings.instanceSaveById ↔
    ∃ save, bindings.saves address = some save ∧ save.instanceid = instanceId
  fresh : ∀ address, bindings.nextSave ≤ address → bindings.saves address = none
  kept : ∀ address save, bindings.saves address = some save → save.toDelete = false
  bound : ∀ holder difficulty mapid bind, bindings.bound holder difficulty mapid = some bind →
    ∃ save, bindings.saves bind.save = some save ∧ save.difficulty = difficulty ∧
      save.mapid = mapid
  linked : ∀ address save holder, bindings.saves address = some save →
    save.count holder = if bindings.PointsTo holder save address then 1 else 0

section

variable {bindings : Bindings} {address other : Nat} {save : InstanceSave}

theorem saves_putSave_self (bindings : Bindings) (address : Nat) (save : Option InstanceSave) :
    (bindings.putSave address save).saves address = save := Function.update_self _ _ _

theorem saves_putSave_of_ne (hother : other ≠ address) (save : Option InstanceSave) :
    (bindings.putSave address save).saves other = bindings.saves other :=
  Function.update_of_ne hother _ _

theorem putSave_putSave (bindings : Bindings) (address : Nat) (first second : Option InstanceSave) :
    (bindings.putSave address first).putSave address second = bindings.putSave address second := by
  unfold putSave
  rw [Function.update_idem]

theorem getInstanceSave_eq_some {instanceId : UInt32}
    (hget : bindings.getInstanceSave instanceId = some address) :
    (instanceId, address) ∈ bindings.instanceSaveById := by
  obtain ⟨entry, hentry, rfl⟩ := Option.map_eq_some_iff.mp hget
  have hid : entry.1 = instanceId := by simpa using List.find?_some hentry
  rw [← hid]
  exact List.mem_of_find?_eq_some hentry

theorem Linked.getInstanceSave (hlinked : bindings.Linked)
    (hsave : bindings.saves address = some save) :
    bindings.getInstanceSave save.instanceid = some address := by
  have hmem := (hlinked.registered save.instanceid address).mpr ⟨save, hsave, rfl⟩
  cases hget : bindings.getInstanceSave save.instanceid with
  | none =>
    unfold Bindings.getInstanceSave at hget
    rw [Option.map_eq_none_iff, List.find?_eq_none] at hget
    exact absurd (decide_eq_true rfl) (hget _ hmem)
  | some other =>
    have hother := getInstanceSave_eq_some hget
    have hsame := List.inj_on_of_nodup_map hlinked.nodup hother hmem rfl
    exact congrArg some (Prod.ext_iff.mp hsame).2

theorem Linked.address_ne (hlinked : bindings.Linked) {otherSave : InstanceSave}
    (hsave : bindings.saves address = some save) (hother : bindings.saves other = some otherSave)
    (hne : other ≠ address) : otherSave.instanceid ≠ save.instanceid := by
  intro hsame
  have hget := hlinked.getInstanceSave hother
  rw [hsame, hlinked.getInstanceSave hsave] at hget
  exact hne (Option.some.inj hget).symm

/-! ## Taking a holder out of a save -/

/-- A save that loses a holder stays, or is unloaded with its last one. -/
theorem Linked.removeHolder_cases (hlinked : bindings.Linked)
    (hsave : bindings.saves address = some save) (havePlayers : UInt32 → UInt32 → Bool)
    (holder : Holder) :
    ∃ after, bindings.removeHolder havePlayers address holder = some after ∧
      (after = bindings.putSave address (some (save.remove holder)) ∨
        bindings.lockInstLists = false ∧ (save.remove holder).isEmpty = true ∧
          after = (bindings.putSave address none).eraseId save.instanceid) := by
  have hkept := hlinked.kept address save hsave
  have hget := hlinked.getInstanceSave hsave
  unfold removeHolder
  rw [hsave, Option.bind_eq_bind, Option.bind_some]
  unfold unloadIfEmpty
  split
  next hunload =>
    rw [Bool.and_eq_true, Bool.and_eq_true, Bool.not_eq_true'] at hunload
    have hget' : (bindings.putSave address (some (save.remove holder))).getInstanceSave
        (save.remove holder).instanceid = some address := hget
    unfold removeInstanceSave
    rw [hget']
    dsimp only
    rw [saves_putSave_self, Option.map_some, Option.bind_eq_bind, Option.bind_some]
    have hunlocked : bindings.lockInstLists = false := by
      cases hlock : bindings.lockInstLists with
      | false => rfl
      | true =>
        have hlocked : (bindings.putSave address (some (save.remove holder))).lockInstLists =
            true := hlock
        rw [hlocked] at hunload
        exact absurd hunload.2 Bool.false_ne_true
    refine ⟨_, ?_, Or.inr ⟨hunlocked, hunload.1.1, rfl⟩⟩
    rw [putSave_putSave]
    have hdeleted : ((bindings.putSave address (some { save.remove holder with
        toDelete := true })).eraseId (save.remove holder).instanceid).saves address =
          some { save.remove holder with toDelete := true } := saves_putSave_self _ _ _
    rw [hdeleted, Option.bind_some, if_pos rfl]
    exact congrArg (fun after => some (after.eraseId save.instanceid))
      (putSave_putSave bindings address _ none)
  · refine ⟨_, ?_, Or.inl rfl⟩
    have hremoved : (save.remove holder).toDelete = false := hkept
    rw [Option.bind_eq_bind, Option.bind_some, saves_putSave_self, Option.bind_some, hremoved,
      if_neg Bool.false_ne_true]

theorem bound_putBind (bindings : Bindings) (holder other : Holder)
    (difficulty otherDifficulty : Fin 15) (mapid otherMap : UInt32) (bind : Option InstanceBind) :
    (bindings.putBind holder difficulty mapid bind).bound other otherDifficulty otherMap =
      if other = holder ∧ otherDifficulty = difficulty ∧ otherMap = mapid then bind
      else bindings.bound other otherDifficulty otherMap := rfl

theorem putBind_putBind (bindings : Bindings) (holder : Holder) (difficulty : Fin 15)
    (mapid : UInt32) (first second : Option InstanceBind) :
    (bindings.putBind holder difficulty mapid first).putBind holder difficulty mapid second =
      bindings.putBind holder difficulty mapid second := by
  unfold putBind
  congr 1
  funext other otherDifficulty otherMap
  dsimp only
  split
  · rfl
  · rfl

variable {address : Nat} {save : InstanceSave} {holder : Holder} {bind : InstanceBind}

theorem saves_putSave_eq_some {new found : InstanceSave}
    (hfound : (bindings.putSave address (some new)).saves other = some found) :
    other = address ∧ found = new ∨ other ≠ address ∧ bindings.saves other = some found := by
  by_cases hother : other = address
  · subst hother
    rw [saves_putSave_self] at hfound
    exact Or.inl ⟨rfl, (Option.some.inj hfound).symm⟩
  · rw [saves_putSave_of_ne hother] at hfound
    exact Or.inr ⟨hother, hfound⟩

/-- The list of a save and the bind of a holder change together: before and after, the bind points
to the save or nowhere. -/
theorem Linked.relink (hlinked : bindings.Linked) (hsave : bindings.saves address = some save)
    (new : InstanceSave) (newBind : Option InstanceBind)
    (hid : new.instanceid = save.instanceid) (hdelete : new.toDelete = save.toDelete)
    (hdifficulty : new.difficulty = save.difficulty) (hmap : new.mapid = save.mapid)
    (hold : ∀ bind, bindings.bound holder save.difficulty save.mapid = some bind →
      bind.save = address)
    (hnew : ∀ bind, newBind = some bind → bind.save = address)
    (hcount : ∀ other, new.count other =
      if other = holder then if newBind.isSome then 1 else 0 else save.count other) :
    ((bindings.putSave address (some new)).putBind holder save.difficulty save.mapid
      newBind).Linked where
  nodup := hlinked.nodup
  registered instanceId other := by
    refine (hlinked.registered instanceId other).trans ?_
    show _ ↔ ∃ found, (bindings.putSave address _).saves other = some found ∧ _
    by_cases hother : other = address
    · subst hother
      rw [saves_putSave_self, hsave]
      simp only [Option.some.injEq, exists_eq_left', hid]
    · rw [saves_putSave_of_ne hother]
  fresh other hother := by
    have hnone := hlinked.fresh other hother
    have hne : other ≠ address := fun heq => by
      rw [heq, hsave] at hnone
      cases hnone
    exact (saves_putSave_of_ne hne _).trans hnone
  kept other found hfound := by
    rcases saves_putSave_eq_some hfound with ⟨-, rfl⟩ | ⟨-, hbefore⟩
    · exact hdelete.trans (hlinked.kept address save hsave)
    · exact hlinked.kept other found hbefore
  bound other difficulty mapid otherBind hother := by
    show ∃ found, (bindings.putSave address _).saves otherBind.save = some found ∧ _
    rw [bound_putBind] at hother
    split at hother
    next hsame =>
      refine ⟨new, by rw [hnew otherBind hother, saves_putSave_self], ?_, ?_⟩
      · rw [hdifficulty, hsame.2.1]
      · rw [hmap, hsame.2.2]
    · obtain ⟨found, hfound, hfoundDifficulty, hfoundMap⟩ :=
        hlinked.bound other difficulty mapid otherBind hother
      by_cases hsame : otherBind.save = address
      · rw [hsame, hsave] at hfound
        cases hfound
        exact ⟨new, by rw [hsame, saves_putSave_self], hdifficulty.trans hfoundDifficulty,
          hmap.trans hfoundMap⟩
      · exact ⟨found, (saves_putSave_of_ne hsame _).trans hfound, hfoundDifficulty, hfoundMap⟩
  linked other found otherHolder hfound := by
    rcases saves_putSave_eq_some hfound with ⟨rfl, rfl⟩ | ⟨hother, hbefore⟩
    · rw [hcount]
      by_cases hholder : otherHolder = holder
      · have hbound : ((bindings.putSave other (some found)).putBind holder save.difficulty
            save.mapid newBind).bound otherHolder found.difficulty found.mapid = newBind :=
          if_pos ⟨hholder, hdifficulty, hmap⟩
        rw [if_pos hholder]
        refine if_congr ?_ rfl rfl
        unfold PointsTo
        rw [hbound]
        cases newBind with
        | none => exact ⟨fun hsome => absurd hsome Bool.false_ne_true, fun hnone => by cases hnone⟩
        | some bind => exact ⟨fun _ => congrArg some (hnew bind rfl), fun _ => rfl⟩
      · have hbound : ((bindings.putSave other (some found)).putBind holder save.difficulty
            save.mapid newBind).bound otherHolder found.difficulty found.mapid =
              bindings.bound otherHolder save.difficulty save.mapid := by
          rw [hdifficulty, hmap]
          exact if_neg fun hsame => hholder hsame.1
        rw [if_neg hholder, hlinked.linked other save otherHolder hsave]
        refine if_congr ?_ rfl rfl
        unfold PointsTo
        rw [hbound]
    · rw [hlinked.linked other found otherHolder hbefore]
      refine if_congr ?_ rfl rfl
      unfold PointsTo
      rw [bound_putBind]
      split
      next hsame =>
        rw [hsame.1, hsame.2.1, hsame.2.2]
        constructor
        · intro hpoints
          obtain ⟨bind, hbind, haddress⟩ := Option.map_eq_some_iff.mp hpoints
          exact absurd (haddress.symm.trans (hold bind hbind)) hother
        · intro hpoints
          obtain ⟨bind, hbind, haddress⟩ := Option.map_eq_some_iff.mp hpoints
          exact absurd (haddress.symm.trans (hnew bind hbind)) hother
      · exact Iff.rfl

/-- A bind and the entry of its holder go together. -/
theorem Linked.unlink (hlinked : bindings.Linked) (hsave : bindings.saves address = some save)
    (hbind : bindings.bound holder save.difficulty save.mapid = some bind)
    (haddress : bind.save = address) :
    ((bindings.putSave address (some (save.remove holder))).putBind holder save.difficulty
      save.mapid none).Linked := by
  refine hlinked.relink hsave (save.remove holder) none rfl rfl rfl rfl
    (fun other hother => ?_) (fun other hother => ?_) fun other => save.count_remove holder other
  · rw [hbind] at hother
    cases hother
    exact haddress
  · cases hother

/-- A save without holders is freed. -/
theorem Linked.free (hlinked : bindings.Linked) (hsave : bindings.saves address = some save)
    (hempty : save.isEmpty = true) :
    ((bindings.putSave address none).eraseId save.instanceid).Linked := by
  have hfound : ∀ other found,
      ((bindings.putSave address none).eraseId save.instanceid).saves other = some found →
        other ≠ address ∧ bindings.saves other = some found := by
    intro other found hother
    have hother : (bindings.putSave address none).saves other = some found := hother
    by_cases hsame : other = address
    · rw [hsame, saves_putSave_self] at hother
      cases hother
    · exact ⟨hsame, (saves_putSave_of_ne hsame _).symm.trans hother⟩
  have hkeeps : ∀ other, other ≠ address →
      ((bindings.putSave address none).eraseId save.instanceid).saves other =
        bindings.saves other := fun other hother => saves_putSave_of_ne hother _
  refine
    { nodup := hlinked.nodup.sublist (List.filter_sublist.map Prod.fst)
      registered := fun instanceId other => ?_
      fresh := fun other hother => ?_
      kept := fun other found hother => hlinked.kept other found (hfound other found hother).2
      bound := fun other difficulty mapid otherBind hother => ?_
      linked := fun other found otherHolder hother =>
        hlinked.linked other found otherHolder (hfound other found hother).2 }
  · show (instanceId, other) ∈ bindings.instanceSaveById.filter _ ↔ _
    rw [List.mem_filter, hlinked.registered instanceId other]
    constructor
    · rintro ⟨⟨found, hother, rfl⟩, hid⟩
      have hne : other ≠ address := by
        rintro rfl
        rw [hsave] at hother
        cases hother
        simp at hid
      exact ⟨found, (hkeeps other hne).trans hother, rfl⟩
    · rintro ⟨found, hother, rfl⟩
      obtain ⟨hne, hold⟩ := hfound other found hother
      exact ⟨⟨found, hold, rfl⟩, by simpa using hlinked.address_ne hsave hold hne⟩
  · have hnone := hlinked.fresh other hother
    have hne : other ≠ address := fun heq => by
      rw [heq, hsave] at hnone
      cases hnone
    exact (hkeeps other hne).trans hnone
  · obtain ⟨found, hold, hdifficulty, hmap⟩ := hlinked.bound other difficulty mapid otherBind hother
    refine ⟨found, (hkeeps _ ?_).trans hold, hdifficulty, hmap⟩
    -- a bind to the save would have its holder in a list
    intro hsame
    rw [hsame, hsave] at hold
    cases hold
    have hcount := hlinked.linked address save other hsave
    have hbound : bindings.bound other difficulty mapid = some otherBind := hother
    have hpoints : bindings.PointsTo other save address := by
      unfold PointsTo
      rw [hdifficulty, hmap, hbound, Option.map_some, hsame]
    rw [InstanceSave.count_of_isEmpty hempty, if_pos hpoints] at hcount
    cases hcount

/-- A save without holders is unloaded. -/
theorem Linked.unload (hlinked : bindings.Linked) (hsave : bindings.saves address = some save)
    (hbind : bindings.bound holder save.difficulty save.mapid = some bind)
    (haddress : bind.save = address) (hempty : (save.remove holder).isEmpty = true) :
    (((bindings.putSave address none).eraseId save.instanceid).putBind holder save.difficulty
      save.mapid none).Linked := by
  have hfreed := (hlinked.unlink hsave hbind haddress).free (saves_putSave_self _ _ _) hempty
  have hsame : (((bindings.putSave address (some (save.remove holder))).putBind holder
      save.difficulty save.mapid none).putSave address none).eraseId
        (save.remove holder).instanceid =
      ((bindings.putSave address none).eraseId save.instanceid).putBind holder save.difficulty
        save.mapid none :=
    congrArg (fun after => (after.eraseId save.instanceid).putBind holder save.difficulty
      save.mapid none) (putSave_putSave bindings address _ none)
  rwa [hsame] at hfreed

theorem Linked.removeHolder_spec (hlinked : bindings.Linked) {difficulty : Fin 15}
    {mapid : UInt32} (hbind : bindings.bound holder difficulty mapid = some bind)
    (havePlayers : UInt32 → UInt32 → Bool) :
    ∃ save removed, bindings.saves bind.save = some save ∧
      bindings.removeHolder havePlayers bind.save holder = some removed ∧
      (removed.putBind holder difficulty mapid none).Linked ∧
      removed.lockInstLists = bindings.lockInstLists ∧
      (∀ other, other ≠ bind.save → removed.saves other = bindings.saves other) ∧
      (bindings.lockInstLists = true →
        removed = bindings.putSave bind.save (some (save.remove holder))) := by
  obtain ⟨save, hsave, rfl, rfl⟩ := hlinked.bound holder difficulty mapid bind hbind
  obtain ⟨removed, hremoved, hcases⟩ := hlinked.removeHolder_cases hsave havePlayers holder
  refine ⟨save, removed, hsave, hremoved, ?_⟩
  rcases hcases with rfl | ⟨hunlocked, hempty, rfl⟩
  · exact ⟨hlinked.unlink hsave hbind rfl, rfl, fun other hother => saves_putSave_of_ne hother _,
      fun _ => rfl⟩
  · refine ⟨hlinked.unload hsave hbind rfl hempty, rfl,
      fun other hother => saves_putSave_of_ne hother _, fun hlocked => ?_⟩
    rw [hunlocked] at hlocked
    cases hlocked

/-- `UnbindInstance` keeps binds and saves linked. -/
theorem Linked.unbindInstance (hlinked : bindings.Linked) (havePlayers : UInt32 → UInt32 → Bool)
    (holder : Holder) (mapid : UInt32) (difficulty : Fin 15) :
    ∃ after, bindings.unbindInstance havePlayers holder mapid difficulty = some after ∧
      after.Linked ∧ after.lockInstLists = bindings.lockInstLists := by
  unfold Bindings.unbindInstance
  cases hbind : bindings.bound holder difficulty mapid with
  | none => exact ⟨bindings, rfl, hlinked, rfl⟩
  | some bind =>
    obtain ⟨save, removed, -, hremoved, hafter, hlock, -⟩ :=
      hlinked.removeHolder_spec hbind havePlayers
    dsimp only
    rw [hremoved]
    exact ⟨_, rfl, hafter, hlock⟩

/-! ## Binding -/

/-- A holder without a bind is bound to a save. -/
theorem Linked.link (hlinked : bindings.Linked) (hsave : bindings.saves address = some save)
    (hnone : bindings.bound holder save.difficulty save.mapid = none)
    (haddress : bind.save = address) (canReset : Bool) :
    ((bindings.putSave address (some { save.add holder with canReset := canReset })).putBind holder
      save.difficulty save.mapid (some bind)).Linked := by
  refine hlinked.relink hsave { save.add holder with canReset := canReset } (some bind) rfl rfl rfl
    rfl (fun other hother => ?_) (fun other hother => ?_) fun other => ?_
  · rw [hnone] at hother
    cases hother
  · cases hother
    exact haddress
  · refine (save.count_add holder other).trans ?_
    split
    next hholder =>
      rw [hlinked.linked address save other hsave, if_neg]
      · rfl
      · unfold PointsTo
        rw [hholder, hnone]
        exact Option.some_ne_none _ ∘ Eq.symm
    · rfl

/-- A holder who is bound to the save already may get another bind to it. -/
theorem Linked.rebind (hlinked : bindings.Linked) (hsave : bindings.saves address = some save)
    (hpoints : bindings.PointsTo holder save address) (haddress : bind.save = address)
    (canReset : Bool) :
    ((bindings.putSave address (some { save with canReset := canReset })).putBind holder
      save.difficulty save.mapid (some bind)).Linked := by
  refine hlinked.relink hsave { save with canReset := canReset } (some bind) rfl rfl rfl rfl
    (fun other hother => ?_) (fun other hother => ?_) fun other => ?_
  · unfold PointsTo at hpoints
    rw [hother] at hpoints
    exact Option.some.inj hpoints
  · cases hother
    exact haddress
  · show save.count other = _
    split
    next hholder =>
      rw [hlinked.linked address save other hsave, hholder, if_pos hpoints]
      rfl
    · rfl

/-- A holder is moved to a save from wherever he is bound. -/
theorem Linked.moveTo_spec (hlinked : bindings.Linked) (hsave : bindings.saves address = some save)
    (havePlayers : UInt32 → UInt32 → Bool) (holder : Holder) :
    ∃ moved new, bindings.moveTo havePlayers holder address = some moved ∧
      moved.saves address = some new ∧ new.difficulty = save.difficulty ∧
      new.mapid = save.mapid ∧ moved.lockInstLists = bindings.lockInstLists ∧
      ∀ (canReset : Bool) (bind : InstanceBind), bind.save = address →
        ((moved.putSave address (some { new with canReset := canReset })).putBind holder
          save.difficulty save.mapid (some bind)).Linked := by
  unfold moveTo
  rw [hsave, Option.bind_eq_bind, Option.bind_some]
  by_cases hpoints : bindings.PointsTo holder save address
  · unfold PointsTo at hpoints
    rw [if_pos hpoints]
    exact ⟨bindings, save, rfl, hsave, rfl, rfl, rfl, fun canReset bind haddress =>
      hlinked.rebind hsave hpoints haddress canReset⟩
  · have hnot := hpoints
    unfold PointsTo at hnot
    rw [if_neg hnot]
    cases hold : bindings.bound holder save.difficulty save.mapid with
    | none =>
      dsimp only
      rw [Option.bind_eq_bind, Option.bind_some, hsave, Option.bind_some]
      refine ⟨_, save.add holder, rfl, saves_putSave_self _ _ _, rfl, rfl, rfl,
        fun canReset bind haddress => ?_⟩
      rw [putSave_putSave]
      exact hlinked.link hsave hold haddress canReset
    | some old =>
      have hother : address ≠ old.save := by
        rintro rfl
        exact hnot (by rw [hold]; rfl)
      obtain ⟨-, removed, -, hremoved, hbase, hlock, hkeeps, -⟩ :=
        hlinked.removeHolder_spec hold havePlayers
      have hkept : removed.saves address = some save := (hkeeps address hother).trans hsave
      dsimp only
      rw [hremoved, Option.bind_eq_bind, Option.bind_some, hkept, Option.bind_some]
      refine ⟨_, save.add holder, rfl, saves_putSave_self _ _ _, rfl, rfl, hlock,
        fun canReset bind haddress => ?_⟩
      have hbare : (removed.putBind holder save.difficulty save.mapid none).bound holder
          save.difficulty save.mapid = none := if_pos ⟨rfl, rfl, rfl⟩
      have hlinkedAfter := hbase.link hkept hbare haddress canReset
      have hsame : ((removed.putBind holder save.difficulty save.mapid none).putSave address
            (some { save.add holder with canReset := canReset })).putBind holder save.difficulty
              save.mapid (some bind) =
          ((removed.putSave address (some (save.add holder))).putSave address
            (some { save.add holder with canReset := canReset })).putBind holder save.difficulty
              save.mapid (some bind) := by
        rw [putSave_putSave]
        exact putBind_putBind (removed.putSave address _) holder save.difficulty save.mapid none
          (some bind)
      rwa [hsame] at hlinkedAfter

theorem putSave_self (hsave : bindings.saves address = some save) :
    bindings.putSave address (some save) = bindings := by
  unfold putSave
  rw [← hsave, Function.update_eq_self]

theorem Linked.bindPlayer (hlinked : bindings.Linked) (hsave : bindings.saves address = some save)
    (havePlayers : UInt32 → UInt32 → Bool) (guid : UInt64) (permanent : Bool) :
    ∃ after, bindings.bindPlayer havePlayers guid address permanent = some after ∧
      after.Linked ∧ after.lockInstLists = bindings.lockInstLists := by
  obtain ⟨moved, new, hmoved, hnew, hdifficulty, hmap, hlock, hafter⟩ :=
    hlinked.moveTo_spec hsave havePlayers ⟨.player, guid⟩
  rw [← hdifficulty, ← hmap] at hafter
  unfold Bindings.bindPlayer
  rw [hmoved, Option.bind_eq_bind, Option.bind_some, hnew, Option.bind_eq_bind, Option.bind_some]
  cases permanent with
  | true => exact ⟨_, rfl, hafter false ⟨address, true⟩ rfl, hlock⟩
  | false => exact ⟨_, rfl, hafter new.canReset ⟨address, false⟩ rfl, hlock⟩

theorem Linked.bindGroup (hlinked : bindings.Linked) (hsave : bindings.saves address = some save)
    (havePlayers : UInt32 → UInt32 → Bool) (guid : UInt64) (permanent isBGGroup : Bool) :
    ∃ after, bindings.bindGroup havePlayers guid address permanent isBGGroup = some after ∧
      after.Linked ∧ after.lockInstLists = bindings.lockInstLists := by
  unfold Bindings.bindGroup
  cases isBGGroup with
  | true => exact ⟨bindings, rfl, hlinked, rfl⟩
  | false =>
    obtain ⟨moved, new, hmoved, hnew, hdifficulty, hmap, hlock, hafter⟩ :=
      hlinked.moveTo_spec hsave havePlayers ⟨.group, guid⟩
    rw [if_neg Bool.false_ne_true, hmoved, Option.bind_eq_bind, Option.bind_some, hnew,
      Option.bind_eq_bind, Option.bind_some, hdifficulty, hmap]
    refine ⟨_, rfl, ?_, hlock⟩
    have hlinkedAfter := hafter new.canReset ⟨address, permanent⟩ rfl
    have hsame : moved.putSave address (some { new with canReset := new.canReset }) = moved :=
      putSave_self hnew
    rwa [hsame] at hlinkedAfter

/-! ## Adding a save -/

theorem Linked.register (hlinked : bindings.Linked) (hnew : save.toDelete = false)
    (hempty : ∀ holder, save.count holder = 0)
    (hget : bindings.getInstanceSave save.instanceid = none) : (bindings.register save).Linked := by
  have hnext : bindings.saves bindings.nextSave = none := hlinked.fresh bindings.nextSave le_rfl
  have hold : ∀ other found, bindings.saves other = some found →
      (bindings.register save).saves other = some found := by
    intro other found hfound
    refine (saves_putSave_of_ne ?_ _).trans hfound
    rintro rfl
    rw [hnext] at hfound
    cases hfound
  have hnotMem : ∀ address, (save.instanceid, address) ∉ bindings.instanceSaveById := by
    intro address hmem
    obtain ⟨found, hfound, hid⟩ := (hlinked.registered _ _).mp hmem
    have hsome := hlinked.getInstanceSave hfound
    rw [hid, hget] at hsome
    cases hsome
  refine
    { nodup := ?_
      registered := fun instanceId other => ?_
      fresh := fun other hother => ?_
      kept := fun other found hfound => ?_
      bound := fun holder difficulty mapid bind hbind => ?_
      linked := fun other found holder hfound => ?_ }
  · refine List.nodup_cons.mpr ⟨fun hmem => ?_, hlinked.nodup⟩
    obtain ⟨⟨instanceId, address⟩, hentry, rfl⟩ := List.mem_map.mp hmem
    exact hnotMem address hentry
  · show (instanceId, other) ∈ (save.instanceid, bindings.nextSave) :: bindings.instanceSaveById ↔ _
    rw [List.mem_cons, hlinked.registered]
    constructor
    · rintro (hsame | ⟨found, hfound, hid⟩)
      · cases hsame
        exact ⟨save, saves_putSave_self _ _ _, rfl⟩
      · exact ⟨found, hold other found hfound, hid⟩
    · rintro ⟨found, hfound, hid⟩
      rcases saves_putSave_eq_some hfound with ⟨rfl, rfl⟩ | ⟨-, hbefore⟩
      · exact Or.inl (by rw [hid])
      · exact Or.inr ⟨found, hbefore, hid⟩
  · have hother : bindings.nextSave + 1 ≤ other := hother
    exact (saves_putSave_of_ne (by omega) _).trans (hlinked.fresh other (by omega))
  · rcases saves_putSave_eq_some hfound with ⟨-, rfl⟩ | ⟨-, hbefore⟩
    · exact hnew
    · exact hlinked.kept other found hbefore
  · obtain ⟨found, hfound, hmatch⟩ := hlinked.bound holder difficulty mapid bind hbind
    exact ⟨found, hold _ found hfound, hmatch⟩
  · rcases saves_putSave_eq_some hfound with ⟨rfl, rfl⟩ | ⟨-, hbefore⟩
    · rw [hempty, if_neg]
      intro hpoints
      obtain ⟨bind, hbind, haddress⟩ := Option.map_eq_some_iff.mp hpoints
      obtain ⟨known, hknown, -⟩ := hlinked.bound _ _ _ bind hbind
      rw [haddress, hnext] at hknown
      cases hknown
    · exact hlinked.linked other found holder hbefore

theorem Linked.addInstanceSave (hlinked : bindings.Linked) (maps : MapStore)
    (mapId instanceId : UInt32) (difficulty : Fin 15) (canReset : Bool) :
    (bindings.addInstanceSave maps mapId instanceId difficulty canReset).Linked := by
  unfold Bindings.addInstanceSave
  split
  · exact hlinked
  · exact hlinked
  next entry hget hentry =>
    split
    · exact hlinked
    · split
      · exact hlinked
      · exact hlinked.register rfl (fun _ => List.count_nil) hget

/-! ## Resetting -/

theorem Linked.withLock (hlinked : bindings.Linked) (lock : Bool) :
    { bindings with lockInstLists := lock }.Linked :=
  ⟨hlinked.nodup, hlinked.registered, hlinked.fresh, hlinked.kept, hlinked.bound, hlinked.linked⟩

theorem Linked.bound_of_mem (hlinked : bindings.Linked) (hsave : bindings.saves address = some save)
    {guid : UInt64} (hmem : guid ∈ save.list kind) :
    ∃ bind, bindings.bound ⟨kind, guid⟩ save.difficulty save.mapid = some bind ∧
      bind.save = address := by
  have hcount := hlinked.linked address save ⟨kind, guid⟩ hsave
  have hpos : 0 < save.count ⟨kind, guid⟩ := List.count_pos_iff.mpr hmem
  by_cases hpoints : bindings.PointsTo ⟨kind, guid⟩ save address
  · exact Option.map_eq_some_iff.mp hpoints
  · rw [if_neg hpoints] at hcount
    omega

/-- The loop over a list of a save ends, because unbinding its first holder makes it shorter, and
leaves it empty. -/
theorem Linked.unbindAll (hlinked : bindings.Linked) (hlock : bindings.lockInstLists = true)
    (hsave : bindings.saves address = some save) (havePlayers : UInt32 → UInt32 → Bool)
    (kind : HolderKind) (fuel : Nat) (hfuel : (save.list kind).length < fuel) :
    ∃ after emptied, Bindings.unbindAll havePlayers address kind fuel bindings = some after ∧
      after.Linked ∧ after.lockInstLists = true ∧ after.saves address = some emptied ∧
      emptied.instanceid = save.instanceid ∧ emptied.list kind = [] ∧
      (∀ other, other ≠ kind → emptied.list other = save.list other) ∧
      ∀ other, other ≠ address → after.saves other = bindings.saves other := by
  induction fuel generalizing bindings save with
  | zero => exact absurd hfuel (Nat.not_lt_zero _)
  | succ fuel ih =>
    unfold Bindings.unbindAll
    rw [hsave]
    dsimp only
    split
    next hempty =>
      exact ⟨bindings, save, rfl, hlinked, hlock, hsave, rfl, hempty, fun _ _ => rfl,
        fun _ _ => rfl⟩
    next guid rest hlist =>
      have hmem : guid ∈ save.list kind := by rw [hlist]; exact List.mem_cons_self
      obtain ⟨bind, hbind, haddress⟩ := hlinked.bound_of_mem hsave hmem
      obtain ⟨known, removed, hknown, hremoved, hafter, hlocked, hkeeps, hlast⟩ :=
        hlinked.removeHolder_spec hbind havePlayers
      rw [haddress, hsave] at hknown
      cases hknown
      have hunbind : bindings.unbindInstance havePlayers ⟨kind, guid⟩ save.mapid
          save.difficulty =
            some (removed.putBind ⟨kind, guid⟩ save.difficulty save.mapid none) := by
        unfold Bindings.unbindInstance
        rw [hbind]
        dsimp only
        rw [hremoved, Option.map_some]
      have hshorter : removed.saves address = some (save.remove ⟨kind, guid⟩) := by
        rw [hlast hlock, haddress, saves_putSave_self]
      have hlength : ((save.remove ⟨kind, guid⟩).list kind).length < fuel := by
        have hless : ((save.remove ⟨kind, guid⟩).list kind).length <
            (save.list kind).length := by
          have hself : (save.remove ⟨kind, guid⟩).list kind =
              (save.list kind).filter fun other => other ≠ guid :=
            InstanceSave.list_remove_self
          rw [hself]
          refine List.length_filter_lt_length_iff_exists.mpr ⟨guid, hmem, ?_⟩
          simp
        omega
      obtain ⟨after, emptied, hrun, hdone, hstill, hfound, hid, hnone, hothers, hframe⟩ :=
        ih hafter (hlocked.trans hlock) hshorter hlength
      refine ⟨after, emptied, ?_, hdone, hstill, hfound, hid, hnone, fun other hother => ?_,
        fun other hother => ?_⟩
      · rw [hunbind, Option.bind_some, hrun]
      · exact (hothers other hother).trans (InstanceSave.list_remove_of_ne hother)
      · exact (hframe other hother).trans (hkeeps other (haddress ▸ hother))

/-- A reset unbinds all holders of a save, with the fuel to do so, and deletes it. -/
theorem Linked.resetSave (hlinked : bindings.Linked) (hsave : bindings.saves address = some save)
    (havePlayers : UInt32 → UInt32 → Bool) :
    ∃ after, bindings.resetSave havePlayers (bindings.holders address + 1) save.instanceid
        address = some after ∧
      after.Linked ∧ after.saves address = none ∧
      ∀ other, other ≠ address → after.saves other = bindings.saves other := by
  have hholders : bindings.holders address =
      (save.list .player).length + (save.list .group).length := by
    unfold holders
    rw [hsave]
  obtain ⟨first, players, hfirst, hlinkedFirst, hlockFirst, hsaveFirst, hidFirst, hplayers,
      hgroups, hframeFirst⟩ :=
    (hlinked.withLock true).unbindAll rfl hsave havePlayers .player (bindings.holders address + 1)
      (by omega)
  have hsameGroups : players.list .group = save.list .group := hgroups .group (by decide)
  obtain ⟨second, groups, hsecond, hlinkedSecond, hlockSecond, hsaveSecond, hidSecond, hnoGroups,
      hstill, hframeSecond⟩ :=
    hlinkedFirst.unbindAll hlockFirst hsaveFirst havePlayers .group (bindings.holders address + 1)
      (by rw [hsameGroups]; omega)
  have hnoPlayers : groups.list .player = [] := (hstill .player (by decide)).trans hplayers
  have hempty : groups.isEmpty = true := by
    unfold InstanceSave.isEmpty
    rw [hnoPlayers, hnoGroups]
    rfl
  have hfreed := (hlinkedSecond.free hsaveSecond hempty).withLock false
  rw [hidSecond, hidFirst] at hfreed
  unfold Bindings.resetSave
  rw [hfirst, Option.bind_eq_bind, Option.bind_some, hsecond, Option.bind_eq_bind,
    Option.bind_some, hsaveSecond, Option.bind_some, if_pos hempty]
  refine ⟨_, rfl, hfreed, saves_putSave_self _ _ _, fun other hother => ?_⟩
  exact (saves_putSave_of_ne hother _).trans
    ((hframeSecond other hother).trans (hframeFirst other hother))

theorem Linked.resetSaves (hlinked : bindings.Linked) (havePlayers : UInt32 → UInt32 → Bool)
    (mapid : UInt32) (difficulty : Fin 15) (entries : List (UInt32 × Nat))
    (hentries : ∀ entry ∈ entries, ∃ save, bindings.saves entry.2 = some save ∧
      save.instanceid = entry.1)
    (hnodup : (entries.map Prod.snd).Nodup) :
    ∃ after, Bindings.resetSaves havePlayers mapid difficulty entries bindings = some after ∧
      after.Linked ∧
      (∀ entry ∈ entries, bindings.isOf mapid difficulty entry.2 = true →
        after.saves entry.2 = none) ∧
      ∀ other, other ∉ entries.map Prod.snd → after.saves other = bindings.saves other := by
  induction entries generalizing bindings with
  | nil =>
    exact ⟨bindings, rfl, hlinked, fun entry hentry => absurd hentry List.not_mem_nil,
      fun _ _ => rfl⟩
  | cons entry rest ih =>
    obtain ⟨save, hsave, hid⟩ := hentries entry List.mem_cons_self
    obtain ⟨hnotMem, hrest⟩ := List.nodup_cons.mp hnodup
    have hothers : ∀ other ∈ rest, other.2 ≠ entry.2 := fun other hother heq =>
      hnotMem (heq ▸ List.mem_map_of_mem hother)
    -- one turn of the loop, whether the save is of the map or not
    obtain ⟨next, hnext, hlinkedNext, hfreed, hkeeps⟩ : ∃ next,
        (if bindings.isOf mapid difficulty entry.2 then
          bindings.resetSave havePlayers (bindings.holders entry.2 + 1) entry.1 entry.2
        else some bindings) = some next ∧ next.Linked ∧
          (bindings.isOf mapid difficulty entry.2 = true → next.saves entry.2 = none) ∧
          ∀ other, other ≠ entry.2 → next.saves other = bindings.saves other := by
      split
      · obtain ⟨next, hnext, hlinkedNext, hnone, hkeeps⟩ :=
          hlinked.resetSave hsave havePlayers
        exact ⟨next, hid ▸ hnext, hlinkedNext, fun _ => hnone, hkeeps⟩
      next hnot =>
        exact ⟨bindings, rfl, hlinked, fun hsome => absurd hsome hnot, fun _ _ => rfl⟩
    obtain ⟨after, hafter, hlinkedAfter, hgone, hframe⟩ := ih hlinkedNext
      (fun other hother => by
        rw [hkeeps other.2 (hothers other hother)]
        exact hentries other (List.mem_cons_of_mem _ hother)) hrest
    refine ⟨after, ?_, hlinkedAfter, fun other hother hof => ?_, fun other hother => ?_⟩
    · unfold Bindings.resetSaves
      rw [hnext, Option.bind_some, hafter]
    · rcases List.mem_cons.mp hother with rfl | hmem
      · rw [hframe other.2 hnotMem]
        exact hfreed hof
      · refine hgone other hmem ?_
        unfold isOf
        rw [hkeeps other.2 (hothers other hmem)]
        exact hof
    · rw [List.map_cons, List.mem_cons, not_or] at hother
      exact (hframe other hother.2).trans (hkeeps other hother.1)

theorem Linked.nodup_addresses (hlinked : bindings.Linked) :
    (bindings.instanceSaveById.map Prod.snd).Nodup := by
  refine List.Nodup.map_on (fun first hfirst second hsecond hsame => ?_)
    (List.Nodup.of_map Prod.fst hlinked.nodup)
  obtain ⟨save, hsave, hid⟩ := (hlinked.registered first.1 first.2).mp hfirst
  obtain ⟨other, hother, hotherId⟩ := (hlinked.registered second.1 second.2).mp hsecond
  rw [hsame, hother] at hsave
  cases hsave
  exact Prod.ext (hid.symm.trans hotherId) hsame

/-- Every event ends, and keeps binds and saves linked. -/
theorem Linked.handle (hlinked : bindings.Linked) (maps : MapStore) (event : BindEvent) :
    ∃ after, bindings.handle maps event = some after ∧ after.Linked := by
  cases event with
  | addInstanceSave mapId instanceId difficulty canReset =>
    exact ⟨_, rfl, hlinked.addInstanceSave maps mapId instanceId difficulty canReset⟩
  | bindPlayer havePlayers guid instanceId permanent =>
    unfold Bindings.handle
    dsimp only
    split
    · exact ⟨bindings, rfl, hlinked⟩
    next address hget =>
      obtain ⟨save, hsave, -⟩ :=
        (hlinked.registered instanceId address).mp (getInstanceSave_eq_some hget)
      obtain ⟨after, hafter, hdone, -⟩ := hlinked.bindPlayer hsave havePlayers guid permanent
      exact ⟨after, hafter, hdone⟩
  | bindGroup havePlayers guid instanceId permanent isBGGroup =>
    unfold Bindings.handle
    dsimp only
    split
    · exact ⟨bindings, rfl, hlinked⟩
    next address hget =>
      obtain ⟨save, hsave, -⟩ :=
        (hlinked.registered instanceId address).mp (getInstanceSave_eq_some hget)
      obtain ⟨after, hafter, hdone, -⟩ :=
        hlinked.bindGroup hsave havePlayers guid permanent isBGGroup
      exact ⟨after, hafter, hdone⟩
  | unbind havePlayers holder mapid difficulty =>
    obtain ⟨after, hafter, hdone, -⟩ := hlinked.unbindInstance havePlayers holder mapid difficulty
    exact ⟨after, hafter, hdone⟩
  | resetInstance havePlayers mapid instanceId =>
    unfold Bindings.handle Bindings.resetInstance
    dsimp only
    split
    · split
      · exact ⟨bindings, rfl, hlinked⟩
      next address hget =>
        obtain ⟨save, hsave, rfl⟩ :=
          (hlinked.registered instanceId address).mp (getInstanceSave_eq_some hget)
        obtain ⟨after, hafter, hdone, -⟩ := hlinked.resetSave hsave havePlayers
        exact ⟨after, hafter, hdone⟩
    · exact ⟨bindings, rfl, hlinked⟩
  | resetAll havePlayers mapid difficulty =>
    unfold Bindings.handle Bindings.resetAll
    dsimp only
    split
    · obtain ⟨after, hafter, hdone, -⟩ := hlinked.resetSaves havePlayers mapid difficulty
        bindings.instanceSaveById (fun entry hentry => (hlinked.registered _ _).mp hentry)
        hlinked.nodup_addresses
      exact ⟨after, hafter, hdone⟩
    · exact ⟨bindings, rfl, hlinked⟩

def Resets (maps : MapStore) (bindings : Bindings) (address : Nat) : BindEvent → Prop
  | .resetInstance _ mapid instanceId =>
    (maps.entry mapid).any MapEntry.instanceable = true ∧
      bindings.getInstanceSave instanceId = some address
  | .resetAll _ mapid difficulty =>
    (maps.entry mapid).any MapEntry.instanceable = true ∧
      maps.resetTime mapid difficulty = true ∧ bindings.isOf mapid difficulty address = true
  | _ => False

/-- A save that is reset is gone. -/
theorem Linked.freed_of_resets (hlinked : bindings.Linked) {maps : MapStore} {event : BindEvent}
    (hresets : bindings.Resets maps address event) {after : Bindings}
    (hafter : bindings.handle maps event = some after) : after.saves address = none := by
  cases event with
  | resetInstance havePlayers mapid instanceId =>
    obtain ⟨hinstanceable, hget⟩ := hresets
    obtain ⟨save, hsave, rfl⟩ :=
      (hlinked.registered instanceId address).mp (getInstanceSave_eq_some hget)
    obtain ⟨done, hdone, -, hnone, -⟩ := hlinked.resetSave hsave havePlayers
    unfold Bindings.handle Bindings.resetInstance at hafter
    dsimp only at hafter
    rw [if_pos hinstanceable, hget] at hafter
    dsimp only at hafter
    rw [hdone] at hafter
    cases hafter
    exact hnone
  | resetAll havePlayers mapid difficulty =>
    obtain ⟨hinstanceable, htime, hof⟩ := hresets
    obtain ⟨done, hdone, -, hgone, -⟩ := hlinked.resetSaves havePlayers mapid difficulty
      bindings.instanceSaveById (fun entry hentry => (hlinked.registered _ _).mp hentry)
      hlinked.nodup_addresses
    unfold Bindings.handle Bindings.resetAll at hafter
    dsimp only at hafter
    rw [if_pos (by rw [hinstanceable, htime]; rfl), hdone] at hafter
    cases hafter
    obtain ⟨save, hsave⟩ : ∃ save, bindings.saves address = some save := by
      unfold isOf at hof
      cases hsave : bindings.saves address with
      | none =>
        rw [hsave] at hof
        cases hof
      | some save => exact ⟨save, rfl⟩
    exact hgone (save.instanceid, address) ((hlinked.registered _ _).mpr ⟨save, hsave, rfl⟩) hof
  | addInstanceSave | bindPlayer | bindGroup | unbind => exact hresets.elim

end

def step (maps : MapStore) (state : Option Bindings) (event : BindEvent) : Option Bindings :=
  state.bind fun bindings => bindings.handle maps event

/-- Every save in memory is found by its id and has those in its lists, once each, whose binds
point to it; every bind points to a save found by an id. -/
structure Symmetric (bindings : Bindings) : Prop where
  found : ∀ address save, bindings.saves address = some save →
    (save.instanceid, address) ∈ bindings.instanceSaveById
  listed : ∀ address save holder, bindings.saves address = some save →
    (save.list holder.kind).count holder.guid =
      if bindings.PointsTo holder save address then 1 else 0
  pointed : ∀ holder difficulty mapid bind, bindings.bound holder difficulty mapid = some bind →
    ∃ instanceId, (instanceId, bind.save) ∈ bindings.instanceSaveById

theorem Linked.symmetric {bindings : Bindings} (hlinked : bindings.Linked) :
    bindings.Symmetric where
  found address save hsave := (hlinked.registered _ _).mpr ⟨save, hsave, rfl⟩
  listed := hlinked.linked
  pointed holder difficulty mapid bind hbind := by
    obtain ⟨save, hsave, -⟩ := hlinked.bound holder difficulty mapid bind hbind
    exact ⟨save.instanceid, (hlinked.registered _ _).mpr ⟨save, hsave, rfl⟩⟩

theorem empty_linked : empty.Linked where
  nodup := List.nodup_nil
  registered _ _ := ⟨fun hmem => absurd hmem List.not_mem_nil, fun ⟨_, hsave, _⟩ => by cases hsave⟩
  fresh _ _ := rfl
  kept _ _ hsave := by cases hsave
  bound _ _ _ _ hbind := by cases hbind
  linked _ _ _ hsave := by cases hsave

/-- In every run from an empty server every event has a result, binds and lists agree after every
event, and a reset leaves neither the save nor a bind to it. -/
theorem binds_symmetric (maps : MapStore) (events : List BindEvent) :
    (∀ reached ∈ visited (step maps) (some empty) events,
        ∃ bindings, reached = some bindings ∧ bindings.Symmetric) ∧
      Along (step maps)
        (fun state event => ∃ bindings after, state = some bindings ∧
          bindings.handle maps event = some after ∧
          ∀ address, bindings.Resets maps address event →
            after.saves address = none ∧
              ∀ holder difficulty mapid bind, after.bound holder difficulty mapid = some bind →
                bind.save ≠ address)
        (some empty) events := by
  have hstart : ∃ bindings, some empty = some bindings ∧ bindings.Linked :=
    ⟨empty, rfl, empty_linked⟩
  have hkept : ∀ (state : Option Bindings) (event : BindEvent),
      (∃ bindings, state = some bindings ∧ bindings.Linked) → True →
        ∃ bindings, step maps state event = some bindings ∧ bindings.Linked := by
    rintro - event ⟨bindings, rfl, hlinked⟩ -
    exact hlinked.handle maps event
  have hall : Along (step maps) (fun _ _ => True) (some empty) events :=
    along_of_forall (step maps) (fun _ _ => trivial) (some empty) events
  constructor
  · intro reached hreached
    obtain ⟨bindings, hbindings, hlinked⟩ := invariant_of_along (step maps)
      (fun state => ∃ bindings, state = some bindings ∧ bindings.Linked) (fun _ _ => True) hkept
      (some empty) events hstart hall reached hreached
    exact ⟨bindings, hbindings, hlinked.symmetric⟩
  · refine along_of_invariant (step maps)
      (fun state => ∃ bindings, state = some bindings ∧ bindings.Linked) hkept ?_ (some empty)
      events hstart hall
    rintro - event ⟨bindings, rfl, hlinked⟩ -
    obtain ⟨after, hafter, hlinkedAfter⟩ := hlinked.handle maps event
    refine ⟨bindings, after, rfl, hafter, fun address hresets => ?_⟩
    have hfreed := hlinked.freed_of_resets hresets hafter
    refine ⟨hfreed, fun holder difficulty mapid bind hbind heq => ?_⟩
    obtain ⟨save, hsave, -⟩ := hlinkedAfter.bound holder difficulty mapid bind hbind
    rw [heq, hfreed] at hsave
    cases hsave

end Bindings

end MopServer.Instances
