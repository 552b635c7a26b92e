import NasaCpp.General.Machine

/-!
# Parts of a system

The outputs of a system of several threads record the calls its parts answer.  When each
step of the system is a run of a part, so is each of its runs: what holds of the runs of
the part holds in the system, in whatever order the threads take their steps.
-/

namespace NasaCpp.General

universe u v w x y z

variable {σ : Type u} {ε : Type v} {ο : Type w} {τ : Type x} {δ : Type y} {π : Type z}

/-- A part of a system: its share of the state, and the events and outputs of its own that
an output of the system records. -/
structure Part (system : Machine σ ε ο) (part : Machine τ δ π) where
  state : σ → τ
  events : ο → List δ
  outputs : ο → List π
  step_run : ∀ {before next event outs}, system.step before event = some (next, outs) →
    part.run (state before) (outs.flatMap events) = some (state next, outs.flatMap outputs)

/-- In every run of the system the part makes a run. -/
theorem Part.run {system : Machine σ ε ο} {part : Machine τ δ π} (embedded : Part system part)
    {first last : σ} {events : List ε} {outs : List ο}
    (hrun : system.run first events = some (last, outs)) :
    part.run (embedded.state first) (outs.flatMap embedded.events) =
      some (embedded.state last, outs.flatMap embedded.outputs) := by
  induction events generalizing first outs with
  | nil =>
      cases hrun
      rfl
  | cons event events ih =>
      obtain ⟨next, new, rest, hstep, hrest, rfl⟩ := system.run_cons_eq_some.mp hrun
      rw [List.flatMap_append, List.flatMap_append]
      exact part.run_append_eq_some.mpr
        ⟨_, _, _, embedded.step_run hstep, ih hrest, rfl⟩

namespace Machine

variable (machine : Machine σ ε ο)

theorem run_singleton {state next : σ} {event : ε} {outs : List ο}
    (hstep : machine.step state event = some (next, outs)) :
    machine.run state [event] = some (next, outs) :=
  machine.run_cons_eq_some.mpr
    ⟨next, outs, [], hstep, rfl, (List.append_nil outs).symm⟩

/-! ## Recorded runs -/

/-- The machine that puts out each event with the outputs it has caused. -/
def recorded : Machine σ ε (ε × List ο) where
  step state event :=
    (machine.step state event).map fun (next, outs) => (next, [(event, outs)])

theorem recorded_step {state next : σ} {event : ε} {trace : List (ε × List ο)}
    (hrecord : machine.recorded.step state event = some (next, trace)) :
    ∃ outs, machine.step state event = some (next, outs) ∧ trace = [(event, outs)] := by
  obtain ⟨⟨middle, outs⟩, hstep, hresult⟩ := Option.map_eq_some_iff.mp hrecord
  cases hresult
  exact ⟨outs, hstep, rfl⟩

/-- Every entry of a record is a step from the state that the entries before it have led to. -/
theorem recorded_split {state last : σ} {events : List ε} {earlier later : List (ε × List ο)}
    {entry : ε × List ο}
    (hrun : machine.recorded.run state events = some (last, earlier ++ entry :: later)) :
    ∃ past middle next, machine.recorded.run state past = some (middle, earlier) ∧
      machine.step middle entry.1 = some (next, entry.2) := by
  induction earlier generalizing state events with
  | nil =>
      cases events with
      | nil => cases hrun
      | cons event events =>
          obtain ⟨next, first, rest, hfirst, -, hparts⟩ :=
            machine.recorded.run_cons_eq_some.mp hrun
          obtain ⟨outs, hstep, rfl⟩ := machine.recorded_step hfirst
          cases hparts
          exact ⟨[], state, next, rfl, hstep⟩
  | cons head earlier ih =>
      cases events with
      | nil => cases hrun
      | cons event events =>
          obtain ⟨next, first, rest, hfirst, hrest, hparts⟩ :=
            machine.recorded.run_cons_eq_some.mp hrun
          obtain ⟨outs, -, rfl⟩ := machine.recorded_step hfirst
          obtain ⟨rfl, rfl⟩ := List.cons.inj hparts
          obtain ⟨past, middle, after, hpast, hstep⟩ := ih hrest
          exact ⟨event :: past, middle, after,
            machine.recorded.run_cons_eq_some.mpr ⟨next, _, earlier, hfirst, hpast, rfl⟩, hstep⟩

end Machine

/-! ## Mailboxes

A vector behind a mutex: one thread appends, another takes all there is. -/

namespace Mailbox

inductive Event (α : Type u) where
  | append (items : List α)
  | takeAll
  deriving DecidableEq, Repr

variable {α : Type u}

def step (held : List α) : Event α → Option (List α × List α)
  | .append items => some (held ++ items, [])
  | .takeAll => some ([], held)

def machine : Machine (List α) (Event α) α := ⟨step⟩

def appended (events : List (Event α)) : List α :=
  events.flatMap fun
    | .append items => items
    | .takeAll => []

/-- What was taken, then what is held, is what was held at the start, then what was appended. -/
theorem run_eq {held last taken : List α} {events : List (Event α)}
    (hrun : machine.run held events = some (last, taken)) :
    taken ++ last = held ++ appended events := by
  induction events generalizing held taken with
  | nil =>
      cases hrun
      exact (List.append_nil _).symm
  | cons event events ih =>
      obtain ⟨next, first, rest, hstep, hrest, rfl⟩ := machine.run_cons_eq_some.mp hrun
      rw [List.append_assoc, ih hrest, ← List.append_assoc]
      cases event with
      | append items | takeAll =>
          cases hstep
          simp [appended]

end Mailbox

end NasaCpp.General
