import Mathlib.Data.List.Basic

/-!
# Event machines and their runs

A machine answers an event with a new state and a list of outputs, or does not
survive it.  A run over a list of events collects the outputs; what each step
preserves the run preserves, and a property of every output is a property of
every step taken.
-/

namespace NasaCpp.General

universe u v w

structure Machine (σ : Type u) (ε : Type v) (ο : Type w) where
  step : σ → ε → Option (σ × List ο)

namespace Machine

variable {σ : Type u} {ε : Type v} {ο : Type w} (machine : Machine σ ε ο)

def run : σ → List ε → Option (σ × List ο)
  | state, [] => some (state, [])
  | state, event :: events =>
      (machine.step state event).bind fun first =>
        (run first.1 events).map fun second => (second.1, first.2 ++ second.2)

@[simp] theorem run_nil (state : σ) : machine.run state [] = some (state, []) := rfl

theorem run_cons_eq_some {state last : σ} {event : ε} {events : List ε} {outs : List ο} :
    machine.run state (event :: events) = some (last, outs) ↔
      ∃ next first rest, machine.step state event = some (next, first) ∧
        machine.run next events = some (last, rest) ∧ outs = first ++ rest := by
  simp only [run, Option.bind_eq_some_iff, Option.map_eq_some_iff, Prod.mk.injEq, Prod.exists]
  constructor
  · rintro ⟨next, first, hstep, final, rest, hrun, rfl, rfl⟩
    exact ⟨next, first, rest, hstep, hrun, rfl⟩
  · rintro ⟨next, first, rest, hstep, hrun, rfl⟩
    exact ⟨next, first, hstep, last, rest, hrun, rfl, rfl⟩

theorem run_append_eq_some {state last : σ} {before after : List ε} {outs : List ο} :
    machine.run state (before ++ after) = some (last, outs) ↔
      ∃ middle first second, machine.run state before = some (middle, first) ∧
        machine.run middle after = some (last, second) ∧ outs = first ++ second := by
  induction before generalizing state outs with
  | nil => simp
  | cons event before ih =>
      rw [List.cons_append, run_cons_eq_some]
      constructor
      · rintro ⟨next, first, rest, hstep, hrun, rfl⟩
        obtain ⟨middle, second, third, hbefore, hafter, rfl⟩ := ih.mp hrun
        exact ⟨middle, first ++ second, third,
          machine.run_cons_eq_some.mpr ⟨next, first, second, hstep, hbefore, rfl⟩, hafter,
          (List.append_assoc _ _ _).symm⟩
      · rintro ⟨middle, firsts, third, hbefore, hafter, rfl⟩
        obtain ⟨next, first, second, hstep, hrun, rfl⟩ := machine.run_cons_eq_some.mp hbefore
        exact ⟨next, first, second ++ third, hstep,
          ih.mpr ⟨middle, second, third, hrun, hafter, rfl⟩, List.append_assoc _ _ _⟩

/-- A run goes on as long as the run behind its first step does. -/
theorem exists_run_cons_iff {state next : σ} {event : ε} {events : List ε} {first : List ο}
    (hstep : machine.step state event = some (next, first)) :
    (∃ last outs, machine.run state (event :: events) = some (last, outs)) ↔
      ∃ last outs, machine.run next events = some (last, outs) := by
  constructor
  · rintro ⟨last, outs, hrun⟩
    obtain ⟨other, out, rest, hother, hrest, -⟩ := machine.run_cons_eq_some.mp hrun
    cases hstep.symm.trans hother
    exact ⟨last, rest, hrest⟩
  · rintro ⟨last, rest, hrest⟩
    exact ⟨last, first ++ rest,
      machine.run_cons_eq_some.mpr ⟨next, first, rest, hstep, hrest, rfl⟩⟩

theorem not_exists_run_cons {state : σ} {event : ε} {events : List ε}
    (refused : machine.step state event = none) :
    ¬ ∃ last outs, machine.run state (event :: events) = some (last, outs) := by
  rintro ⟨last, outs, hrun⟩
  obtain ⟨next, first, rest, hstep, -, -⟩ := machine.run_cons_eq_some.mp hrun
  cases refused.symm.trans hstep

/-! ## Conditions along a run -/

/-- Every step the run takes meets a condition on its event and the state before it. -/
def Along (condition : σ → ε → Prop) : σ → List ε → Prop
  | _, [] => True
  | state, event :: events =>
      condition state event ∧
        ∀ next outs, machine.step state event = some (next, outs) → Along condition next events

theorem along_cons_iff {condition : σ → ε → Prop} {state next : σ} {event : ε} {events : List ε}
    {outs : List ο} (hstep : machine.step state event = some (next, outs)) :
    machine.Along condition state (event :: events) ↔
      condition state event ∧ machine.Along condition next events := by
  refine and_congr_right fun _ =>
    ⟨fun later => later next outs hstep, fun later other _ hother => ?_⟩
  rw [hstep] at hother
  cases hother
  exact later

instance decidableAlong {condition : σ → ε → Prop}
    [∀ state event, Decidable (condition state event)] :
    ∀ (state : σ) (events : List ε), Decidable (machine.Along condition state events)
  | _, [] => isTrue trivial
  | state, event :: events =>
      match hstep : machine.step state event with
      | none =>
          decidable_of_iff (condition state event)
            ⟨fun here => ⟨here, fun _ _ hsome => by rw [hstep] at hsome; cases hsome⟩, And.left⟩
      | some (next, _) =>
          have : Decidable (machine.Along condition next events) := decidableAlong next events
          decidable_of_iff _ (machine.along_cons_iff hstep).symm

/-- Conditions that hold of the events whatever the state hold along every run. -/
theorem Along.and_events {machine : Machine σ ε ο} {condition : σ → ε → Prop}
    {property : ε → Prop} {state : σ} {events : List ε}
    (along : machine.Along condition state events)
    (all : ∀ event ∈ events, property event) :
    machine.Along (fun state event => condition state event ∧ property event) state events := by
  induction events generalizing state with
  | nil => trivial
  | cons event events ih =>
      refine ⟨⟨along.1, all event List.mem_cons_self⟩, fun next outs hstep => ?_⟩
      exact ih (along.2 next outs hstep) fun other hmem => all other (List.mem_cons_of_mem _ hmem)

theorem Along.left {machine : Machine σ ε ο} {condition : σ → ε → Prop} {state : σ}
    {before after : List ε} (along : machine.Along condition state (before ++ after)) :
    machine.Along condition state before := by
  induction before generalizing state with
  | nil => trivial
  | cons event before ih => exact ⟨along.1, fun next outs hstep => ih (along.2 next outs hstep)⟩

theorem Along.right {machine : Machine σ ε ο} {condition : σ → ε → Prop} {state middle : σ}
    {before after : List ε} {outs : List ο}
    (along : machine.Along condition state (before ++ after))
    (hrun : machine.run state before = some (middle, outs)) :
    machine.Along condition middle after := by
  induction before generalizing state outs with
  | nil =>
      cases hrun
      exact along
  | cons event before ih =>
      obtain ⟨next, first, rest, hstep, hrest, -⟩ := machine.run_cons_eq_some.mp hrun
      exact ih (along.2 next first hstep) hrest

/-! ## Invariants -/

/-- A relation between the events so far, the state and the outputs so far that every
step meeting the condition maintains holds at the end of a run of such steps. -/
theorem run_history_along {condition : σ → ε → Prop} (inv : List ε → σ → List ο → Prop)
    (maintained : ∀ {past state outs event next new}, inv past state outs → condition state event →
      machine.step state event = some (next, new) → inv (past ++ [event]) next (outs ++ new))
    {state last : σ} {events : List ε} {outs : List ο} (start : inv [] state [])
    (along : machine.Along condition state events)
    (hrun : machine.run state events = some (last, outs)) : inv events last outs := by
  suffices general : ∀ past before, inv past state before →
      inv (past ++ events) last (before ++ outs) from general [] [] start
  intro past before here
  clear start
  induction events generalizing state outs past before with
  | nil =>
      cases hrun
      simpa using here
  | cons event events ih =>
      obtain ⟨next, first, rest, hstep, hrest, rfl⟩ := machine.run_cons_eq_some.mp hrun
      rw [List.append_cons, ← List.append_assoc]
      exact ih (along.2 next first hstep) hrest _ _ (maintained here along.1 hstep)

/-- What holds of the events in every state holds along every run. -/
theorem along_of_events {condition : σ → ε → Prop} {state : σ} {events : List ε}
    (all : ∀ event ∈ events, ∀ state, condition state event) :
    machine.Along condition state events := by
  induction events generalizing state with
  | nil => trivial
  | cons event events ih =>
      refine ⟨all event List.mem_cons_self state, fun next _ _ => ?_⟩
      exact ih fun other hmem => all other (List.mem_cons_of_mem _ hmem)

/-- The same where every step maintains the relation. -/
theorem run_history (inv : List ε → σ → List ο → Prop)
    (maintained : ∀ {past state outs event next new}, inv past state outs →
      machine.step state event = some (next, new) → inv (past ++ [event]) next (outs ++ new))
    {state last : σ} {events : List ε} {outs : List ο} (start : inv [] state [])
    (hrun : machine.run state events = some (last, outs)) : inv events last outs :=
  machine.run_history_along inv (fun here _ hstep => maintained here hstep) start
    (machine.along_of_events fun _ _ _ => trivial) hrun

/-- A run that repeats a block of events, where each block takes a counted property on. -/
theorem run_repeat (property : ℕ → σ → Prop) {block : List ε} {limit : ℕ}
    (advance : ∀ count < limit, ∀ state, property count state →
      ∃ next outs, machine.run state block = some (next, outs) ∧ property (count + 1) next) :
    ∀ count ≤ limit, ∀ state, property 0 state →
      ∃ last outs, machine.run state (List.replicate count block).flatten = some (last, outs) ∧
        property count last := by
  intro count
  induction count with
  | zero => exact fun _ state here => ⟨state, [], rfl, here⟩
  | succ count ih =>
      intro below state here
      obtain ⟨middle, first, hfirst, there⟩ := ih (Nat.le_of_succ_le below) state here
      obtain ⟨last, second, hsecond, done⟩ := advance count below middle there
      refine ⟨last, first ++ second, ?_, done⟩
      rw [List.replicate_succ', List.flatten_concat]
      exact machine.run_append_eq_some.mpr ⟨middle, first, second, hfirst, hsecond, rfl⟩

/-- All outputs of a run are good exactly when each of its steps emits good ones,
where the invariant lets a condition on the state before the step decide that. -/
theorem outputs_iff_along {inv : σ → Prop} {good : ο → Prop} {condition : σ → ε → Prop}
    (preserved : ∀ {state event next outs}, inv state →
      machine.step state event = some (next, outs) →
      inv next ∧ ((∀ out ∈ outs, good out) ↔ condition state event))
    {state last : σ} {events : List ε} {outs : List ο} (start : inv state)
    (hrun : machine.run state events = some (last, outs)) :
    (∀ out ∈ outs, good out) ↔ machine.Along condition state events := by
  induction events generalizing state outs with
  | nil =>
      cases hrun
      simp [Along]
  | cons event events ih =>
      obtain ⟨next, first, rest, hstep, hrest, rfl⟩ := machine.run_cons_eq_some.mp hrun
      obtain ⟨hnext, hfirst⟩ := preserved start hstep
      rw [List.forall_mem_append, hfirst, ih hnext hrest, machine.along_cons_iff hstep]

end Machine

end NasaCpp.General
