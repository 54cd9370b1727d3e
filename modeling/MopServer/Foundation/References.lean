import Mathlib.Data.Fintype.Order
import Mathlib.Data.UInt
import Mathlib.Logic.Relation
import Mathlib.Order.WellFounded

/-! # References between entries

Entries refer to each other by their ids, and an evaluation follows the references, one unit of
fuel for each of them.  It returns exactly if no endless chain of references begins where it
starts; among finitely many entries that is to say that it meets no cycle.
-/

namespace MopServer.Foundation

/-- There are finitely many ids. -/
instance finiteUInt32 : Finite UInt32 :=
  Finite.of_injective UInt32.toFin fun _ _ heq => UInt32.toFin_inj.mp heq

variable {Id : Type*} (refers : Id → Id → Prop)

/-- No entry refers to itself, directly or through others. -/
def CycleFree : Prop := ∀ id, ¬ Relation.TransGen refers id id

/-- Every chain of references that begins with the entry ends. -/
def Ends (id : Id) : Prop := Acc (flip refers) id

/-- No cycle is met on the way from the entry. -/
def MeetsNoCycle (id : Id) : Prop :=
  ∀ next, Relation.ReflTransGen refers id next → ¬ Relation.TransGen refers next next

/-- An evaluation returns for an entry, with enough fuel. -/
def Returns (returned : Nat → Id → Prop) (id : Id) : Prop :=
  ∃ enough, ∀ fuel ≥ enough, returned fuel id

section

variable {refers} {id : Id}

/-- An entry on a cycle begins an endless chain. -/
theorem Ends.not_cycle (hends : Ends refers id) : ¬ Relation.TransGen refers id id := by
  induction hends with
  | intro id _ ih =>
    intro hcycle
    obtain ⟨next, hrefers, hback⟩ := Relation.TransGen.head'_iff.mp hcycle
    exact ih next hrefers (Relation.TransGen.tail' hback hrefers)

theorem Ends.next {next : Id} (hends : Ends refers id) (hrefers : refers id next) :
    Ends refers next := hends.inv hrefers

/-- Among finitely many entries without a cycle every chain ends. -/
theorem CycleFree.wellFounded [Finite Id] (hacyclic : CycleFree refers) :
    WellFounded (flip refers) := by
  have htrans : IsTrans Id (flip (Relation.TransGen refers)) :=
    ⟨fun _ _ _ hfirst hsecond => hsecond.trans hfirst⟩
  have hirrefl : Std.Irrefl (flip (Relation.TransGen refers)) := ⟨hacyclic⟩
  have hwf : WellFounded (flip (Relation.TransGen refers)) :=
    Finite.wellFounded_of_trans_of_irrefl _
  have hstep : ∀ {first second}, flip refers first second →
      flip (Relation.TransGen refers) first second :=
    fun hrefers => Relation.TransGen.single hrefers
  exact Subrelation.wf hstep hwf

theorem cycleFree_iff_forall_ends [Finite Id] : CycleFree refers ↔ ∀ id, Ends refers id :=
  ⟨fun hacyclic id => hacyclic.wellFounded.apply id, fun hends id => (hends id).not_cycle⟩

/-- References from finitely many entries without a cycle go up in a rank. -/
theorem CycleFree.exists_rank (hacyclic : CycleFree refers) (sources : Finset Id)
    (hsources : ∀ id next, refers id next → id ∈ sources) :
    ∃ rank : Id → Nat, ∀ id next, refers id next → rank id < rank next := by
  classical
  refine ⟨fun id => (sources.filter fun first => Relation.TransGen refers first id).card, ?_⟩
  intro id next hrefers
  apply Finset.card_lt_card
  refine Finset.ssubset_iff_subset_ne.mpr ⟨fun first hfirst => ?_, fun heq => ?_⟩
  · rw [Finset.mem_filter] at hfirst ⊢
    exact ⟨hfirst.1, hfirst.2.tail hrefers⟩
  · -- The entry itself comes before the next one, but not before itself.
    have hself : id ∈ sources.filter fun first => Relation.TransGen refers first next :=
      Finset.mem_filter.mpr ⟨hsources id next hrefers, .single hrefers⟩
    rw [← heq, Finset.mem_filter] at hself
    exact hacyclic id hself.2

theorem MeetsNoCycle.next {next : Id} (hmeets : MeetsNoCycle refers id) (hrefers : refers id next) :
    MeetsNoCycle refers next :=
  fun last hreached => hmeets last (Relation.ReflTransGen.head hrefers hreached)

/-- From one entry: if no cycle is met, every chain ends, and the other way round. -/
theorem meetsNoCycle_iff_ends [Finite Id] : MeetsNoCycle refers id ↔ Ends refers id := by
  constructor
  · intro hmeets
    -- The references between entries that are reached have no cycle at all.
    let reached : Id → Id → Prop := fun first second =>
      Relation.ReflTransGen refers id first ∧ refers first second
    have hfree : CycleFree reached := by
      intro first hcycle
      obtain ⟨second, hreached, -⟩ := Relation.TransGen.head'_iff.mp hcycle
      exact hmeets first hreached.1 (Relation.TransGen.mono (fun _ _ hboth => hboth.2) _ _ hcycle)
    have hends : ∀ first, Ends reached first → Relation.ReflTransGen refers id first →
        Ends refers first := by
      intro first hends
      induction hends with
      | intro first _ ih =>
        intro hreached
        exact Acc.intro first fun second hrefers =>
          ih second ⟨hreached, hrefers⟩ (hreached.tail hrefers)
    exact hends id (cycleFree_iff_forall_ends.mp hfree id) .refl
  · intro hends next hreached
    induction hreached using Relation.ReflTransGen.head_induction_on with
    | refl => exact hends.not_cycle
    | head hrefers _ ih => exact ih (hends.next hrefers)

/-! ## Enough fuel -/

theorem enough_succ {reached : Nat → Prop}
    (hreached : ∃ enough, ∀ fuel ≥ enough, reached (fuel + 1)) :
    ∃ enough, ∀ fuel ≥ enough, reached fuel := by
  obtain ⟨enough, hreached⟩ := hreached
  refine ⟨enough + 1, fun fuel hfuel => ?_⟩
  obtain ⟨rest, rfl⟩ := Nat.exists_eq_add_of_le' hfuel
  exact hreached (rest + enough) (Nat.le_add_left _ _)

theorem enough_forall {Item : Type*} {items : List Item} {reached : Item → Nat → Prop}
    (hreached : ∀ item ∈ items, ∃ enough, ∀ fuel ≥ enough, reached item fuel) :
    ∃ enough, ∀ fuel ≥ enough, ∀ item ∈ items, reached item fuel := by
  induction items with
  | nil => exact ⟨0, fun _ _ _ hitem => nomatch hitem⟩
  | cons first rest ih =>
    rw [List.forall_mem_cons] at hreached
    obtain ⟨enoughFirst, hfirst⟩ := hreached.1
    obtain ⟨enoughRest, hrest⟩ := ih hreached.2
    refine ⟨max enoughFirst enoughRest, fun fuel hfuel => ?_⟩
    rw [List.forall_mem_cons]
    exact ⟨hfirst fuel (le_of_max_le_left hfuel), hrest fuel (le_of_max_le_right hfuel)⟩

variable {returned : Nat → Id → Prop}

theorem Ends.returns (hends : Ends refers id)
    (hstep : ∀ id, (∀ next, refers id next → Returns returned next) → Returns returned id) :
    Returns returned id := by
  induction hends with
  | intro id _ ih => exact hstep id ih

/-- What is stuck without fuel, and with any of its references, is stuck on an endless chain. -/
theorem stuck_of_not_ends (stuck : Nat → Id → Prop) (hzero : ∀ id, stuck 0 id)
    (hstep : ∀ fuel id next, refers id next → stuck fuel next → stuck (fuel + 1) id) (fuel : Nat)
    (hendless : ¬ Ends refers id) : stuck fuel id := by
  induction fuel generalizing id with
  | zero => exact hzero id
  | succ fuel ih =>
    have hnext : ∃ next, refers id next ∧ ¬ Ends refers next := by
      by_contra hnone
      refine hendless (Acc.intro id fun next hrefers => ?_)
      by_contra hendlessNext
      exact hnone ⟨next, hrefers, hendlessNext⟩
    obtain ⟨next, hrefers, hendlessNext⟩ := hnext
    exact hstep fuel id next hrefers (ih hendlessNext)

/-- An evaluation that needs exactly its references returns exactly where every chain ends. -/
theorem returns_iff_ends (hzero : ∀ id, ¬ returned 0 id)
    (hstuck : ∀ fuel id next, refers id next → ¬ returned fuel next → ¬ returned (fuel + 1) id)
    (hstep : ∀ id, (∀ next, refers id next → Returns returned next) → Returns returned id) :
    Returns returned id ↔ Ends refers id := by
  constructor
  · rintro ⟨enough, hreturned⟩
    by_contra hendless
    exact stuck_of_not_ends (fun fuel id => ¬ returned fuel id) hzero hstuck enough hendless
      (hreturned enough (le_refl enough))
  · exact fun hends => hends.returns hstep

/-- Among finitely many entries it returns everywhere exactly if there is no cycle. -/
theorem forall_returns_iff [Finite Id] (hzero : ∀ id, ¬ returned 0 id)
    (hstuck : ∀ fuel id next, refers id next → ¬ returned fuel next → ¬ returned (fuel + 1) id)
    (hstep : ∀ id, (∀ next, refers id next → Returns returned next) → Returns returned id) :
    (∀ id, Returns returned id) ↔ CycleFree refers := by
  rw [cycleFree_iff_forall_ends]
  exact forall_congr' fun id => returns_iff_ends hzero hstuck hstep

end

end MopServer.Foundation
