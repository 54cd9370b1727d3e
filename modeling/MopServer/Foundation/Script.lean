import MopServer.Foundation.Run

/-! # Scripts

A script reads a state and lists the operations that a piece of code performs from it.  Calls,
loops and recursion only build scripts; what changes the state is the operations.
-/

namespace MopServer.Foundation

/-- The operations performed from a state, or none if the code does not return. -/
abbrev Script (State Op : Type*) := State → Option (List Op)

namespace Script

variable {State Op : Type*}

def done : Script State Op := fun _ => some []

/-- A failed assertion, or a recursion that is too deep. -/
def fail : Script State Op := fun _ => none

def op (op : Op) : Script State Op := fun _ => some [op]

def read (body : State → Script State Op) : Script State Op := fun state => body state state

variable (perform : State → Op → State)

def seq : List (Script State Op) → Script State Op
  | [] => done
  | script :: rest => fun state =>
    (script state).bind fun ops =>
      (seq rest (ops.foldl perform state)).map fun later => ops ++ later

def run (script : Script State Op) (state : State) : Option State :=
  (script state).map fun ops => ops.foldl perform state

variable (allowed : State → Op → Prop)

/-- What the script does from a state is a run of allowed operations. -/
def EmitsAt (script : Script State Op) (state : State) : Prop :=
  ∀ ops, script state = some ops → Along perform allowed state ops

/-- What the script does is a run of allowed operations. -/
def Emits (script : Script State Op) : Prop :=
  ∀ state, EmitsAt perform allowed script state

def RunsAlong (script : Script State Op) (state after : State) : Prop :=
  script.run perform state = some after ∧ EmitsAt perform allowed script state

variable {perform} {allowed careful : State → Op → Prop} {state after : State}
  {body : State → Script State Op} {script : Script State Op}
  {rest scripts : List (Script State Op)}

theorem emits_done : Emits perform allowed done := by
  rintro state ops ⟨⟩
  trivial

theorem emits_fail : Emits perform allowed fail := by
  rintro state ops ⟨⟩

variable {op : Op}

theorem emitsAt_op (hop : allowed state op) : EmitsAt perform allowed (Script.op op) state := by
  rintro ops ⟨⟩
  exact ⟨hop, trivial⟩

theorem emits_op (hop : ∀ state, allowed state op) :
    Emits perform allowed (Script.op op) := fun state => emitsAt_op (hop state)

theorem emits_read (hbody : ∀ state, EmitsAt perform allowed (body state) state) :
    Emits perform allowed (read body) := hbody

theorem emitsAt_seq_cons (hscript : EmitsAt perform allowed script state)
    (hrest : Emits perform allowed (seq perform rest)) :
    EmitsAt perform allowed (seq perform (script :: rest)) state := by
  intro ops hops
  obtain ⟨first, hfirst, hmap⟩ := Option.bind_eq_some_iff.mp hops
  obtain ⟨later, hlater, rfl⟩ := Option.map_eq_some_iff.mp hmap
  refine (along_append perform allowed state first later).mpr ⟨hscript first hfirst, ?_⟩
  exact hrest _ later hlater

theorem emits_seq (hscripts : ∀ script ∈ scripts, Emits perform allowed script) :
    Emits perform allowed (seq perform scripts) := by
  induction scripts with
  | nil => exact emits_done
  | cons script rest ih =>
    exact fun state => emitsAt_seq_cons (hscripts script List.mem_cons_self state)
      (ih fun other hother => hscripts other (List.mem_cons_of_mem _ hother))

/-- What every operation keeps that is allowed and careful, a careful run of the script keeps. -/
theorem Emits.keepsAlong (hemits : Emits perform allowed script) (invariant : State → Prop)
    (hstep : ∀ state op, invariant state → allowed state op → careful state op →
      invariant (perform state op)) (hstate : invariant state)
    (hrun : RunsAlong perform careful script state after) : invariant after := by
  obtain ⟨hrun, hall⟩ := hrun
  obtain ⟨ops, hops, rfl⟩ := Option.map_eq_some_iff.mp hrun
  have halong := hemits state ops hops
  have hcareful := hall ops hops
  clear hops hrun hall
  induction ops generalizing state with
  | nil => exact hstate
  | cons op rest ih =>
    exact ih (hstep state op hstate halong.1 hcareful.1) halong.2 hcareful.2

theorem Emits.keeps (hemits : Emits perform allowed script) (invariant : State → Prop)
    (hstep : ∀ state op, invariant state → allowed state op → invariant (perform state op))
    (hstate : invariant state) (hrun : script.run perform state = some after) :
    invariant after :=
  hemits.keepsAlong invariant (fun state op hinvariant hop _ => hstep state op hinvariant hop)
    hstate ⟨hrun, fun ops _ => along_of_forall perform (fun _ _ => trivial) state ops⟩

theorem runsAlong_seq_cons
    (hrun : RunsAlong perform careful (seq perform (script :: rest)) state after) :
    ∃ mid, RunsAlong perform careful script state mid ∧
      RunsAlong perform careful (seq perform rest) mid after := by
  obtain ⟨hrun, hcareful⟩ := hrun
  obtain ⟨ops, hops, rfl⟩ := Option.map_eq_some_iff.mp hrun
  have hcareful := hcareful ops hops
  obtain ⟨first, hfirst, hmap⟩ := Option.bind_eq_some_iff.mp hops
  obtain ⟨later, hlater, rfl⟩ := Option.map_eq_some_iff.mp hmap
  obtain ⟨hone, htwo⟩ := (along_append perform careful state first later).mp hcareful
  refine ⟨first.foldl perform state, ⟨?_, ?_⟩, ?_, ?_⟩
  · exact Option.map_eq_some_iff.mpr ⟨first, hfirst, rfl⟩
  · rintro _ hops
    rw [hfirst] at hops
    cases hops
    exact hone
  · refine Option.map_eq_some_iff.mpr ⟨later, hlater, ?_⟩
    rw [List.foldl_append]
  · rintro _ hops
    rw [hlater] at hops
    cases hops
    exact htwo

theorem runsAlong_read :
    RunsAlong perform careful (read body) state after ↔
      RunsAlong perform careful (body state) state after := Iff.rfl

theorem run_read (body : State → Script State Op) (state : State) :
    (read body).run perform state = (body state).run perform state := rfl

theorem run_seq_cons (hrun : (seq perform (script :: rest)).run perform state = some after) :
    ∃ mid, script.run perform state = some mid ∧ (seq perform rest).run perform mid = some after := by
  obtain ⟨ops, hops, rfl⟩ := Option.map_eq_some_iff.mp hrun
  obtain ⟨first, hfirst, hrest⟩ := Option.bind_eq_some_iff.mp hops
  obtain ⟨later, hlater, rfl⟩ := Option.map_eq_some_iff.mp hrest
  refine ⟨first.foldl perform state, ?_, ?_⟩
  · exact Option.map_eq_some_iff.mpr ⟨first, hfirst, rfl⟩
  · refine Option.map_eq_some_iff.mpr ⟨later, hlater, ?_⟩
    rw [List.foldl_append]

theorem isSome_seq (hscripts : ∀ script ∈ scripts, ∀ state, (script state).isSome = true)
    (state : State) : (seq perform scripts state).isSome = true := by
  induction scripts generalizing state with
  | nil => rfl
  | cons script rest ih =>
    rw [List.forall_mem_cons] at hscripts
    obtain ⟨ops, hops⟩ := Option.isSome_iff_exists.mp (hscripts.1 state)
    obtain ⟨later, hlater⟩ := Option.isSome_iff_exists.mp (ih hscripts.2 (ops.foldl perform state))
    unfold seq
    rw [hops, Option.bind_some, hlater]
    rfl

/-- One script that never returns is enough. -/
theorem seq_eq_none (hmem : script ∈ scripts) (hnone : ∀ state, script state = none) (state : State)
    : seq perform scripts state = none := by
  induction scripts generalizing state with
  | nil => cases hmem
  | cons first rest ih =>
    unfold seq
    rcases List.mem_cons.mp hmem with rfl | hrest
    · rw [hnone]
      rfl
    · cases first state with
      | none => rfl
      | some ops =>
        rw [Option.bind_some, ih hrest]
        rfl

/-- An operation before a script changes where it starts. -/
theorem seq_op (op : Op) (script : Script State Op) (state : State) :
    seq perform [Script.op op, script] state =
      (script (perform state op)).map fun ops => op :: ops := by
  simp only [seq, done, Script.op, Option.bind_some, Option.map_some, List.foldl_cons,
    List.foldl_nil]
  cases script (perform state op) with
  | none => rfl
  | some ops => simp

theorem seq_singleton (script : Script State Op) : seq perform [script] = script := by
  funext state
  cases hscript : script state with
  | none => simp [seq, hscript]
  | some ops => simp [seq, done, hscript]

theorem run_seq_nil (hrun : (seq perform []).run perform state = some after) : after = state := by
  cases hrun
  rfl

theorem run_done (hrun : done.run perform state = some after) : after = state := by
  cases hrun
  rfl

theorem run_op (hrun : (Script.op op).run perform state = some after) :
    after = perform state op := by
  cases hrun
  rfl

end Script

end MopServer.Foundation
