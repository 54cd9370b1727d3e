import MopServer.Reputations.RankCounters

/-! # Runs of reputation changes

A call changes factions one after the other, each from the standing it has then.  The counters
stay right, but a change is exact only while its sum fits into 32 bits.
-/

namespace MopServer.Reputations

open MopServer.Foundation

/-! ## Exact sums -/

theorem toInt_clamp (standing : Int32) :
    (ReputationMgr.clamp standing).toInt = max (-42000) (min 42999 standing.toInt) := by
  have hcap : Reputation_Cap.toInt = 42999 := by decide
  have hbottom : Reputation_Bottom.toInt = -42000 := by decide
  unfold ReputationMgr.clamp
  split
  next hover =>
    rw [Int32.lt_iff_toInt_lt, hcap] at hover
    omega
  next hcapped =>
    rw [Int32.lt_iff_toInt_lt, hcap] at hcapped
    split
    next hunder =>
      rw [Int32.lt_iff_toInt_lt, hbottom] at hunder
      omega
    next hkept =>
      rw [Int32.lt_iff_toInt_lt, hbottom] at hkept
      omega

theorem clamp_bounds (standing : Int32) :
    Reputation_Bottom ≤ ReputationMgr.clamp standing ∧
      ReputationMgr.clamp standing ≤ Reputation_Cap := by
  have hcap : Reputation_Cap.toInt = 42999 := by decide
  have hbottom : Reputation_Bottom.toInt = -42000 := by decide
  rw [Int32.le_iff_toInt_le, Int32.le_iff_toInt_le, toInt_clamp, hcap, hbottom]
  omega

/-- A sum of two numbers of 32 bits is clamped right exactly when it fits into 32 bits. -/
theorem clamp_add_iff (first second : Int32) :
    (ReputationMgr.clamp (first + second)).toInt =
        max (-42000) (min 42999 (first.toInt + second.toInt)) ↔
      -2 ^ 31 ≤ first.toInt + second.toInt ∧ first.toInt + second.toInt < 2 ^ 31 := by
  have hfirst := first.toInt_lt
  have hfirst' := first.le_toInt
  have hsecond := second.toInt_lt
  have hsecond' := second.le_toInt
  rw [toInt_clamp, Int32.toInt_add, Int.bmod_def]
  omega

namespace Change

variable (rates : Rates) (change : Change)

/-- What a faction would have without a cap. -/
def sum : Int :=
  if change.incremental then change.before.toInt + (rates.gain change.standing).toInt
  else change.standing.toInt

/-- The standing is the exact sum, kept between the bottom and the cap. -/
def Exact : Prop :=
  change.after.toInt =
    max Reputation_Bottom.toInt (min Reputation_Cap.toInt (change.sum rates))

/-- The sum is one of 32 bits. -/
def Fits : Prop :=
  -2 ^ 31 ≤ change.sum rates ∧ change.sum rates < 2 ^ 31

/-- The standing is a sum of 32 bits, kept between the bottom and the cap. -/
def Clamped : Prop :=
  change.after = ReputationMgr.clamp
    (if change.incremental then rates.gain change.standing + change.before else change.standing)

instance instDecidableFits (rates : Rates) (change : Change) : Decidable (change.Fits rates) :=
  inferInstanceAs (Decidable (_ ∧ _))

theorem Clamped.exact_iff {rates : Rates} {change : Change} (hclamped : change.Clamped rates) :
    change.Exact rates ↔ change.Fits rates := by
  have hcap : Reputation_Cap.toInt = 42999 := by decide
  have hbottom : Reputation_Bottom.toInt = -42000 := by decide
  unfold Exact Fits sum
  rw [hclamped, hcap, hbottom]
  split
  · rw [add_comm change.before.toInt]
    exact clamp_add_iff _ _
  · have hlt := change.standing.toInt_lt
    have hle := change.standing.le_toInt
    exact iff_of_true (toInt_clamp _) ⟨hle, hlt⟩

end Change

variable {entry : FactionEntry}

def FactionStore.listedCount (store : FactionStore) : Nat :=
  store.entries.rows.countP FactionEntry.canHaveReputation

/-- The standing of a faction goes from one value to another by changes in order. -/
def Chained (entry : FactionEntry) : Int32 → List Change → Int32 → Prop
  | before, [], after => after = before
  | before, change :: rest, after =>
    if change.entry = entry then
      change.before = before ∧ Chained entry change.after rest after
    else Chained entry before rest after

theorem Chained.append {before middle after : Int32} {first second : List Change}
    (hfirst : Chained entry before first middle) (hsecond : Chained entry middle second after) :
    Chained entry before (first ++ second) after := by
  induction first generalizing before with
  | nil =>
    exact hfirst ▸ hsecond
  | cons change rest ih =>
    unfold Chained at hfirst
    rw [List.cons_append]
    unfold Chained
    split
    next hown =>
      rw [if_pos hown] at hfirst
      exact ⟨hfirst.1, ih hfirst.2⟩
    next hother =>
      rw [if_neg hother] at hfirst
      exact ih hfirst

namespace ReputationMgr

variable (store : FactionStore) (player : Player)

/-- What the changes of a call amount to, whatever they are. -/
structure Sound (rates : Rates) (mgr : ReputationMgr) (result : ReputationMgr × List Change) :
    Prop where
  tallied : result.1.Tallied store player
  clamped : ∀ change ∈ result.2, change.Clamped rates
  chained : ∀ entry ∈ store.entries, Chained entry (mgr.getReputation player entry) result.2
    (result.1.getReputation player entry)

section

variable {store player} {rates : Rates} {mgr : ReputationMgr} (htallied : mgr.Tallied store player)

include htallied in
theorem Sound.refl : Sound store player rates mgr (mgr, []) :=
  ⟨htallied, by simp, fun _ _ => rfl⟩

theorem Sound.andThen {first : ReputationMgr × List Change}
    {second : ReputationMgr → ReputationMgr × List Change}
    (hfirst : Sound store player rates mgr first)
    (hsecond : Sound store player rates first.1 (second first.1)) :
    Sound store player rates mgr (andThen first second) := by
  refine ⟨hsecond.tallied, fun change hchange => ?_, fun entry hentry =>
    (hfirst.chained entry hentry).append (hsecond.chained entry hentry)⟩
  rcases List.mem_append.mp hchange with hchange | hchange
  · exact hfirst.clamped change hchange
  · exact hsecond.clamped change hchange

theorem getReputation_of_some {faction : FactionState} (hstate : mgr.getState entry = some faction)
    : mgr.getReputation player entry = entry.baseReputation player + faction.Standing := by
  unfold getReputation
  rw [hstate]

include htallied in
theorem setOneFactionReputation_sound (hentry : entry ∈ store.entries) (standing : Int32)
    (incremental : Bool) :
    Sound store player rates mgr
      (mgr.setOneFactionReputation player rates entry standing incremental) := by
  unfold setOneFactionReputation
  split
  · exact .refl htallied
  next faction hfaction =>
    have hcan := htallied.canHaveReputation hfaction
    have hstate : mgr.getState entry = some faction := by
      unfold getState
      rwa [if_pos hcan]
    have hbefore : mgr.getReputation player entry =
        faction.Standing + entry.baseReputation player :=
      (getReputation_of_some hstate).trans (Int32.add_comm _ _)
    extract_lets base total oldRank newRank shown faction' after
    have hshown := FactionState.setVisible_spec
      { faction with Standing := total - base, needSend := true, needSave := true }
      mgr.visibleFactionCount
    have hatWar : faction'.CountsAs shown.1 := by
      unfold faction'
      split
      · exact FactionState.setAtWar_countsAs shown.1 true
      · exact .refl shown.1
    have hstanding : base + faction'.Standing = total := by
      rw [hatWar.1, show shown.1.Standing = total - base from hshown.1, Int32.add_comm,
        Int32.sub_add_cancel]
    have hafter : after.getReputation player entry = total :=
      (getReputation_of_some (getState_putState_self _ _ hcan)).trans hstanding
    refine ⟨htallied.change hentry hcan ?_ (fun rank _ => ?_) ?_, ?_, fun other hother => ?_⟩
    · rw [isVisible_of_some hstate, hatWar.2]
      exact hshown.2
    · rw [getRank_of_some hstate, Int32.add_comm]
    · rw [show entry.baseReputation player + faction'.Standing = total from hstanding]
    · rw [List.forall_mem_singleton]
      unfold Change.Clamped
      rw [hafter, hbefore]
    · unfold Chained
      split
      next hsame =>
        subst hsame
        exact ⟨rfl, rfl⟩
      next hne =>
        unfold Chained ReputationMgr.getReputation
        rw [getState_putState_of_ne _ _
          (repListID_ne hentry hother hcan fun hsame => hne hsame.symm)]
        rfl

/-- A call with all its spillover makes the changes of its steps. -/
theorem composes_sound : Composes player rates (· ∈ store.entries)
    (fun mgr result => mgr.Tallied store player → Sound store player rates mgr result) where
  refl _ := .refl
  andThen hfirst hsecond htallied :=
    (hfirst htallied).andThen (hsecond (hfirst htallied).tallied)
  change hentry _ standing incremental htallied :=
    setOneFactionReputation_sound htallied hentry standing incremental

end

/-! ## Runs -/

/-- A call of `SetReputation` for a faction of the store. -/
structure Call where
  faction : UInt32
  standing : Int32
  incremental : Bool
  rates : Rates

variable (mgr : ReputationMgr) (call : Call)

/-- A call with its changes; an unknown faction changes nothing. -/
def called : ReputationMgr × List Change :=
  match store.entries.get? call.faction with
  | none => (mgr, [])
  | some entry =>
    mgr.setReputation store player call.rates entry call.standing call.incremental

def step : ReputationMgr := (mgr.called store player call).1

/-- The counters are the numbers of factions. -/
structure Counted (mgr : ReputationMgr) : Prop where
  honored : mgr.honoredFactionCount.toNat = mgr.ranked store player .honored
  revered : mgr.reveredFactionCount.toNat = mgr.ranked store player .revered
  exalted : mgr.exaltedFactionCount.toNat = mgr.ranked store player .exalted
  visible : mgr.visibleFactionCount.toNat = mgr.visible store

/-- The standings of a call: each faction goes from its standing before the call to the one after
by changes that are exact and stay between the bottom and the cap. -/
structure ExactCall (mgr : ReputationMgr) (call : Call) : Prop where
  chained : ∀ entry ∈ store.entries, Chained entry (mgr.getReputation player entry)
    (mgr.called store player call).2 ((mgr.step store player call).getReputation player entry)
  bounded : ∀ change ∈ (mgr.called store player call).2,
    Reputation_Bottom ≤ change.after ∧ change.after ≤ Reputation_Cap
  exact : ∀ change ∈ (mgr.called store player call).2, change.Exact call.rates

/-- No sum of a call leaves the range of 32 bits. -/
def FittingCall : Prop :=
  ∀ change ∈ (mgr.called store player call).2, change.Fits call.rates

section

variable {store player} {mgr : ReputationMgr}

theorem called_sound (htallied : mgr.Tallied store player) (call : Call) :
    Sound store player call.rates mgr (mgr.called store player call) := by
  unfold called
  split
  · exact .refl htallied
  next entry hget =>
    exact composes_sound.setReputation (fun _ => id) (Table.get?_eq_some_iff.mp hget).1 mgr _ _
      htallied

theorem exactCall_iff (htallied : mgr.Tallied store player) (call : Call) :
    mgr.ExactCall store player call ↔ mgr.FittingCall store player call := by
  have hsound := called_sound htallied call
  constructor
  · intro hexact change hchange
    exact (hsound.clamped change hchange).exact_iff.mp (hexact.exact change hchange)
  · intro hfits
    refine ⟨hsound.chained, fun change hchange => ?_, fun change hchange =>
      (hsound.clamped change hchange).exact_iff.mpr (hfits change hchange)⟩
    rw [hsound.clamped change hchange]
    exact clamp_bounds _

theorem ranked_le_listedCount {rank : ReputationRank} (hrank : ReputationRank.honored ≤ rank) :
    mgr.ranked store player rank ≤ store.listedCount := by
  refine List.countP_mono_left fun entry _ hranked => ?_
  by_contra hcan
  have hstate : mgr.getState entry = none := by
    exact if_neg hcan
  unfold hasRank at hranked
  rw [getRank_of_none hstate, decide_eq_true_eq] at hranked
  exact absurd (hrank.trans hranked) (by decide)

theorem visible_le_listedCount : mgr.visible store ≤ store.listedCount := by
  refine List.countP_mono_left fun entry _ hvisible => ?_
  by_contra hcan
  have hstate : mgr.getState entry = none := by
    exact if_neg hcan
  unfold isVisible at hvisible
  rw [hstate] at hvisible
  exact Bool.false_ne_true hvisible

theorem Tallied.counted (htallied : mgr.Tallied store player)
    (hlisted : store.listedCount < 256) : mgr.Counted store player := by
  have hexact : ∀ {count : UInt8} {number : Nat}, count = UInt8.ofNat number →
      number ≤ store.listedCount → count.toNat = number := by
    intro count number hcount hnumber
    rw [hcount]
    exact UInt8.toNat_ofNat_of_lt' (lt_of_le_of_lt hnumber hlisted)
  exact
    { honored := hexact htallied.honored (ranked_le_listedCount le_rfl)
      revered := hexact htallied.revered (ranked_le_listedCount (by decide))
      exalted := hexact htallied.exalted (ranked_le_listedCount (by decide))
      visible := hexact htallied.visible visible_le_listedCount }

end

/-- In every run after loading the counters are the numbers of factions, and its calls change
standings exactly as long as no sum leaves the range of 32 bits. -/
theorem setReputation_exact (store : FactionStore) (player : Player) (rows : List ReputationRow)
    (calls : List Call) (hrows : (rows.map ReputationRow.faction).Nodup)
    (hlisted : store.listedCount < 256) :
    (∀ reached ∈ visited (step store player) (loadFromDB store player rows) calls,
        reached.Counted store player) ∧
      (Along (step store player) (ExactCall store player) (loadFromDB store player rows) calls ↔
        Along (step store player) (FittingCall store player) (loadFromDB store player rows)
          calls) := by
  have hstart : (loadFromDB store player rows).Tallied store player := loadFromDB_tallied hrows
  have hstep : ∀ mgr call, Tallied store player mgr →
      Tallied store player (step store player mgr call) :=
    fun mgr call htallied => (called_sound htallied call).tallied
  constructor
  · intro reached hreached
    refine Tallied.counted ?_ hlisted
    exact invariant_of_along (step store player) (Tallied store player) (fun _ _ => True)
      (fun mgr call htallied _ => hstep mgr call htallied) _ _ hstart
      (along_of_forall _ (fun _ _ => trivial) _ _) reached hreached
  · exact along_iff_of_invariant (step store player) (Tallied store player)
      (fun mgr call htallied _ => hstep mgr call htallied)
      (fun mgr call htallied => exactCall_iff htallied call) _ _ hstart

/-- A faction of the reputation list, visible and at 500 from the start. -/
def bootyBay : FactionEntry :=
  { ID := 21, reputationListID := 1, team := 0, spillsOut := false, spilloverMaxRankIn := 0
    baseReps := [{ raceMask := 1, classMask := 0, value := 500, flags := 1 }] }

def bootyBayStore : FactionStore where
  entries := { rows := [bootyBay], nodup := by decide }
  templates := fun _ => none
  id_ne_zero := by simp [Table.mem_def, bootyBay]
  listID_inj := by simp [Table.mem_def]

def human : Player := { raceMask := 1, classMask := 1 }

def plainRates : Rates :=
  { script := fun _ standing _ => standing, gain := id, toParent := fun _ standing => standing
    toSister := fun _ _ _ standing => standing }

/-- Half of what Booty Bay gets goes to Ratchet as well. -/
def cartelStore : FactionStore where
  entries :=
    { rows := [bootyBay, { bootyBay with ID := 470, reputationListID := 2 }], nodup := by decide }
  templates := fun faction =>
    if faction = 21 then some [{ faction := 470, rate := fun standing => standing / 2, rank := 7 }]
    else none
  id_ne_zero := by simp [Table.mem_def, bootyBay]
  listID_inj := by simp [Table.mem_def, bootyBay]

/-- A gain that spills over, and a loss that makes both factions hated. -/
def cartelCalls : List Call :=
  [⟨21, 5000, true, plainRates⟩, ⟨21, -2000000000, true, plainRates⟩]

theorem setReputation_exact_cartel :
    (∀ reached ∈ visited (step cartelStore human)
        (loadFromDB cartelStore human [⟨21, 1000, 1⟩]) cartelCalls,
      reached.Counted cartelStore human) ∧
    Along (step cartelStore human) (ExactCall cartelStore human)
      (loadFromDB cartelStore human [⟨21, 1000, 1⟩]) cartelCalls := by
  obtain ⟨hcounted, hexact⟩ :=
    setReputation_exact cartelStore human [⟨21, 1000, 1⟩] cartelCalls (by decide) (by decide)
  refine ⟨hcounted, hexact.mpr ⟨?_, ?_, trivial⟩⟩ <;> unfold FittingCall <;> decide

/-- A gain close to the largest number of 32 bits leaves a friendly faction hated. -/
theorem setReputation_wraps :
    ¬ Along (step bootyBayStore human) (ExactCall bootyBayStore human)
        (loadFromDB bootyBayStore human [⟨21, 1000, 1⟩]) [⟨21, 2147483008, true, plainRates⟩] ∧
      (step bootyBayStore human (loadFromDB bootyBayStore human [⟨21, 1000, 1⟩])
        ⟨21, 2147483008, true, plainRates⟩).getReputation human bootyBay = Reputation_Bottom := by
  have htallied : (loadFromDB bootyBayStore human [⟨21, 1000, 1⟩]).Tallied bootyBayStore human :=
    loadFromDB_tallied (by decide)
  refine ⟨fun halong => ?_, by decide⟩
  have hfits := (exactCall_iff htallied _).mp halong.1
  unfold FittingCall at hfits
  revert hfits
  decide

end ReputationMgr

end MopServer.Reputations
