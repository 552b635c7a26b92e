import Mathlib.Data.Rat.Floor
import NasaCpp.General.Maps
import NasaCpp.General.Machine

/-!
# The stepper

A click on the stepper of a number changes a pending value and starts a timer anew; after
700 ms without a click the value is sent.  `controls.js` shows the pending value until the
bridge confirms it or 15 s have passed since the request.  A timer runs after those that
were started before it with the same delay or a shorter one.  Numbers are exact here.
-/

namespace NasaCpp.Web

open General

/-- `Math.round(number * 100) / 100`. -/
def roundCents (number : ℚ) : ℚ := (⌊number * 100 + 1 / 2⌋ : ℚ) / 100

/-- What the stepper reads of an entity; `none` is `null`. -/
structure Stepped where
  min : Option ℚ := none
  max : Option ℚ := none
  step : Option ℚ := none
  deriving DecidableEq, Repr

namespace Stepped

/-- `e.step || 1`. -/
def stepSize (fields : Stepped) : ℚ :=
  match fields.step with
  | some step => if step = 0 then 1 else step
  | none => 1

def atLeast (fields : Stepped) (number : ℚ) : ℚ :=
  fields.min.elim number fun low => low ⊔ number

def atMost (fields : Stepped) (number : ℚ) : ℚ :=
  fields.max.elim number fun high => high ⊓ number

def next (fields : Stepped) (current : ℚ) (up : Bool) : ℚ :=
  fields.atMost (fields.atLeast
    (roundCents (current + fields.stepSize * (if up then 1 else -1))))

def Holds (fields : Stepped) (value : ℚ) : Prop :=
  (∀ low ∈ fields.min, low ≤ value) ∧ ∀ high ∈ fields.max, value ≤ high

def Proper (fields : Stepped) : Prop :=
  ∀ low ∈ fields.min, ∀ high ∈ fields.max, low ≤ high

theorem holds_next {fields : Stepped} (proper : fields.Proper) (current : ℚ) (up : Bool) :
    fields.Holds (fields.next current up) := by
  unfold next
  generalize roundCents _ = number
  refine ⟨fun low hlow => ?_, fun high hhigh => ?_⟩
  · have above : low ≤ fields.atLeast number := by
      rw [atLeast, Option.mem_def.mp hlow]
      exact le_sup_left
    cases hhigh : fields.max with
    | none =>
        rw [atMost, hhigh]
        exact above
    | some high =>
        rw [atMost, hhigh]
        exact le_inf (proper low hlow high hhigh) above
  · rw [atMost, Option.mem_def.mp hhigh]
    exact inf_le_left

end Stepped

/-! ## The page -/

structure Pending where
  value : ℚ
  timer : ℕ
  deriving DecidableEq, Repr

namespace Stepper

/-- What a timer does: it sends a value, or drops the entry of the timer that has sent one. -/
inductive Task where
  | send (value : ℚ)
  | expire (timer : ℕ)
  deriving DecidableEq, Repr

def Task.delay : Task → ℤ
  | .send _ => 700
  | .expire _ => 15000

structure Timer where
  ref : ℕ
  entityId : String
  started : ℤ
  task : Task
  deriving DecidableEq, Repr

/-- `timers` are those not run yet, in the order of their start; `sending` are the timers whose
request has not been answered. -/
structure State where
  now : ℤ := 0
  values : Std.TreeMap String ℚ := {}
  pendingNumbers : Std.TreeMap String Pending := {}
  timers : List Timer := []
  sending : List (ℕ × String) := []
  nextTimer : ℕ := 0

inductive Event where
  | click (entityId : String) (up : Bool) (now : ℤ)
  /-- a timer runs -/
  | run (index : ℕ) (now : ℤ)
  /-- a request is answered -/
  | answered (index : ℕ) (now : ℤ)
  /-- a state arrives; it confirms a pending value if a view with controls is shown -/
  | state (entityId : String) (value : Option ℚ) (shown : Bool)
  | snapshot (values : List (String × ℚ))
  deriving DecidableEq, Repr

inductive Output where
  | rerender (entityId : String) (pending : Option ℚ)
  | command (entityId : String) (value : ℚ) (now : ℤ)
  deriving DecidableEq, Repr

def current (fields : Stepped) (state : State) (entityId : String) : ℚ :=
  match state.pendingNumbers[entityId]? with
  | some pending => pending.value
  | none => state.values[entityId]?.getD (fields.min.getD 0)

def clearTimeout (timers : List Timer) (ref : ℕ) : List Timer :=
  timers.filter fun timer => timer.ref ≠ ref

/-- The timers after `if (prev) clearTimeout(prev.timer)`. -/
def cleared (state : State) (entityId : String) : List Timer :=
  match state.pendingNumbers[entityId]? with
  | some prev => clearTimeout state.timers prev.timer
  | none => state.timers

def click (fields : Stepped) (state : State) (entityId : String) (up : Bool) (now : ℤ) :
    State × List Output :=
  let next := fields.next (current fields state entityId) up
  ({ state with
      now
      pendingNumbers := state.pendingNumbers.insert entityId ⟨next, state.nextTimer⟩
      timers := cleared state entityId ++ [⟨state.nextTimer, entityId, now, .send next⟩]
      nextTimer := state.nextTimer + 1 },
    [.rerender entityId (some next)])

/-- The callback of a timer that is no longer in the list. -/
def runTimer (state : State) (timer : Timer) : State × List Output :=
  match timer.task with
  | .send value =>
      ({ state with sending := state.sending ++ [(timer.ref, timer.entityId)] },
        [.command timer.entityId value state.now])
  | .expire sent =>
      if (state.pendingNumbers[timer.entityId]?.map Pending.timer) = some sent then
        ({ state with pendingNumbers := state.pendingNumbers.erase timer.entityId },
          [.rerender timer.entityId none])
      else (state, [])

def confirmState (state : State) (entityId : String) (value : Option ℚ) : State :=
  match state.pendingNumbers[entityId]?, value with
  | some pending, some value =>
      if |value - pending.value| < 1 / 1000000 then
        { state with pendingNumbers := state.pendingNumbers.erase entityId }
      else state
  | _, _ => state

/-- The timer may run: it is due, and none before it has to run first. -/
def Ready (state : State) (index : ℕ) (timer : Timer) (now : ℤ) : Prop :=
  timer.started + timer.task.delay ≤ now ∧
    ∀ other ∈ state.timers.take index, timer.task.delay < other.task.delay

instance (state : State) (index : ℕ) (timer : Timer) (now : ℤ) :
    Decidable (Ready state index timer now) :=
  inferInstanceAs (Decidable (_ ∧ _))

def step (fields : String → Stepped) (state : State) : Event → Option (State × List Output)
  | .click entityId up now =>
      if state.now ≤ now then some (click (fields entityId) state entityId up now) else none
  | .run index now =>
      match state.timers[index]? with
      | some timer =>
          if state.now ≤ now ∧ Ready state index timer now then
            some (runTimer { state with now, timers := state.timers.eraseIdx index } timer)
          else none
      | none => none
  | .answered index now =>
      match state.sending[index]? with
      | some (sent, entityId) =>
          if state.now ≤ now then
            some ({ state with
              now
              sending := state.sending.eraseIdx index
              timers := state.timers ++ [⟨state.nextTimer, entityId, now, .expire sent⟩]
              nextTimer := state.nextTimer + 1 }, [])
          else none
      | none => none
  | .state entityId value shown =>
      let values :=
        match value with
        | some value => state.values.insert entityId value
        | none => state.values.erase entityId
      let state := { state with values }
      some (if shown then confirmState state entityId value else state, [])
  | .snapshot values => some ({ state with values := .ofList values }, [])

def machine (fields : String → Stepped) : Machine State Event Output := ⟨step fields⟩

/-! ## The values sent -/

def clickedBy (entityId : String) : Output → Option ℚ
  | .rerender other (some value) => if other = entityId then some value else none
  | _ => none

def sentBy (entityId : String) : Output → Option ℚ
  | .command other value _ => if other = entityId then some value else none
  | _ => none

def waitingBy (entityId : String) (timer : Timer) : Option ℚ :=
  match timer.task with
  | .send value => if timer.entityId = entityId then some value else none
  | .expire _ => none

def clicked (entityId : String) (outs : List Output) : List ℚ :=
  outs.filterMap (clickedBy entityId)

def sent (entityId : String) (outs : List Output) : List ℚ :=
  outs.filterMap (sentBy entityId)

def waiting (entityId : String) (timers : List Timer) : List ℚ :=
  timers.filterMap (waitingBy entityId)

theorem clicked_append (entityId : String) (first second : List Output) :
    clicked entityId (first ++ second) = clicked entityId first ++ clicked entityId second :=
  List.filterMap_append

theorem sent_append (entityId : String) (first second : List Output) :
    sent entityId (first ++ second) = sent entityId first ++ sent entityId second :=
  List.filterMap_append

theorem waiting_append (entityId : String) (first second : List Timer) :
    waiting entityId (first ++ second) = waiting entityId first ++ waiting entityId second :=
  List.filterMap_append

theorem clicked_rerender (entityId other : String) (value : ℚ) :
    clicked entityId [.rerender other (some value)] = if other = entityId then [value] else [] := by
  by_cases own : other = entityId
  · rw [if_pos own]
    exact List.filterMap_cons_some (if_pos own)
  · rw [if_neg own]
    exact List.filterMap_cons_none (if_neg own)

theorem sent_command (entityId other : String) (value : ℚ) (now : ℤ) :
    sent entityId [.command other value now] = if other = entityId then [value] else [] := by
  by_cases own : other = entityId
  · rw [if_pos own]
    exact List.filterMap_cons_some (if_pos own)
  · rw [if_neg own]
    exact List.filterMap_cons_none (if_neg own)

theorem waitingBy_send {timer : Timer} {value : ℚ} (task : timer.task = .send value)
    (entityId : String) :
    waitingBy entityId timer = if timer.entityId = entityId then some value else none := by
  rw [waitingBy, task]

theorem waitingBy_expire {timer : Timer} {spent : ℕ} (task : timer.task = .expire spent)
    (entityId : String) : waitingBy entityId timer = none := by
  rw [waitingBy, task]

theorem waitingBy_eq_some {entityId : String} {timer : Timer} {value : ℚ} :
    waitingBy entityId timer = some value ↔
      timer.entityId = entityId ∧ timer.task = .send value := by
  cases task : timer.task with
  | send sent =>
      rw [waitingBy_send task, Option.ite_none_right_eq_some, Option.some.injEq,
        Task.send.injEq]
  | expire spent =>
      rw [waitingBy_expire task]
      exact ⟨nofun, fun both => nomatch both.2⟩

theorem waiting_singleton (entityId : String) (timer : Timer) :
    waiting entityId [timer] = (waitingBy entityId timer).toList := by
  unfold waiting
  rw [List.filterMap_cons, List.filterMap_nil]
  cases waitingBy entityId timer <;> rfl

theorem timers_split {timers : List Timer} {index : ℕ} {timer : Timer}
    (here : timers[index]? = some timer) :
    timers = timers.take index ++ timer :: timers.drop (index + 1) := by
  obtain ⟨below, rfl⟩ := List.getElem?_eq_some_iff.mp here
  conv_lhs => rw [← List.take_append_drop index timers, List.drop_eq_getElem_cons below]

theorem waiting_split {timers : List Timer} {index : ℕ} {timer : Timer}
    (here : timers[index]? = some timer) (entityId : String) :
    waiting entityId timers = waiting entityId (timers.take index) ++
      ((waitingBy entityId timer).toList ++ waiting entityId (timers.drop (index + 1))) := by
  conv_lhs => rw [timers_split here]
  rw [waiting_append, ← List.singleton_append, waiting_append, waiting_singleton]

theorem waiting_eraseIdx (timers : List Timer) (index : ℕ) (entityId : String) :
    waiting entityId (timers.eraseIdx index) =
      waiting entityId (timers.take index) ++ waiting entityId (timers.drop (index + 1)) := by
  rw [List.eraseIdx_eq_take_drop_succ, waiting_append]

/-- No timer before one that may run waits with a value. -/
theorem waiting_take {state : State} {index : ℕ} {timer : Timer} {now : ℤ}
    (ready : Ready state index timer now) {value : ℚ} (task : timer.task = .send value)
    (entityId : String) : waiting entityId (state.timers.take index) = [] := by
  refine List.filterMap_eq_nil_iff.mpr fun other member => ?_
  have longer := ready.2 other member
  rw [task] at longer
  cases hother : other.task with
  | send _ =>
      rw [hother] at longer
      exact absurd longer (lt_irrefl _)
  | expire _ => rw [waitingBy, hother]

/-- Timers belong to the entities whose entries name them. -/
structure Owned (state : State) : Prop where
  fresh : ∀ timer ∈ state.timers, timer.ref < state.nextTimer
  known : ∀ (entityId : String) (pending : Pending),
    state.pendingNumbers[entityId]? = some pending → pending.timer < state.nextTimer
  own : ∀ (entityId : String) (pending : Pending),
    state.pendingNumbers[entityId]? = some pending →
      ∀ timer ∈ state.timers, timer.ref = pending.timer → timer.entityId = entityId

namespace Owned

theorem initial : Owned {} where
  fresh := nofun
  known entityId pending here := by simp at here
  own entityId pending here := by simp at here

/-- Fewer timers and fewer entries are owned too. -/
theorem mono {state next : State} (owned : Owned state)
    (timers : next.timers ⊆ state.timers)
    (entries : ∀ (entityId : String) (pending : Pending),
      next.pendingNumbers[entityId]? = some pending →
        state.pendingNumbers[entityId]? = some pending)
    (counter : next.nextTimer = state.nextTimer) : Owned next where
  fresh timer member := counter ▸ owned.fresh timer (timers member)
  known entityId pending here := counter ▸ owned.known entityId pending (entries _ _ here)
  own entityId pending here timer member :=
    owned.own entityId pending (entries _ _ here) timer (timers member)

end Owned

theorem cleared_sublist (state : State) (entityId : String) :
    List.Sublist (cleared state entityId) state.timers := by
  unfold cleared
  split
  · exact List.filter_sublist
  · exact List.Sublist.refl _

/-- The timer of a stepper is cleared, and none of another. -/
theorem waiting_cleared {state : State} (owned : Owned state) {entityId other : String}
    (different : other ≠ entityId) :
    waiting other (cleared state entityId) = waiting other state.timers := by
  unfold cleared
  cases here : state.pendingNumbers[entityId]? with
  | none => rfl
  | some prev =>
      refine (List.filterMap_filter).trans (List.filterMap_congr fun timer member => ?_)
      split
      · rfl
      · rename_i same
        have ref : timer.ref = prev.timer := by simpa using same
        have owner := owned.own entityId prev here timer member ref
        unfold waitingBy
        split
        · exact (if_neg fun equal => different (equal.symm.trans owner)).symm
        · rfl

/-! ## What a step changes -/

/-- A state confirms no value that waits to be sent. -/
def Unconfirmed (state : State) : Event → Prop
  | .state entityId value true =>
      waiting entityId state.timers = [] ∨
        (confirmState state entityId value).pendingNumbers[entityId]? =
          state.pendingNumbers[entityId]?
  | _ => True

instance (state : State) : ∀ event, Decidable (Unconfirmed state event)
  | .state _ _ true => inferInstanceAs (Decidable (_ ∨ _))
  | .state _ _ false | .click .. | .run .. | .answered .. | .snapshot _ => isTrue trivial

inductive Change (fields : String → Stepped) (state : State) (event : Event) :
    State → List Output → Prop where
  | click (entityId : String) (up : Bool) (now : ℤ) (later : state.now ≤ now) :
      Change fields state event (click (fields entityId) state entityId up now).1
        [.rerender entityId (some ((fields entityId).next
          (current (fields entityId) state entityId) up))]
  | send (index : ℕ) (timer : Timer) (value : ℚ) (now : ℤ)
      (here : state.timers[index]? = some timer) (task : timer.task = .send value)
      (later : state.now ≤ now) (due : timer.started + 700 ≤ now)
      (first : ∀ entityId, waiting entityId (state.timers.take index) = []) :
      Change fields state event
        { state with
          now
          timers := state.timers.eraseIdx index
          sending := state.sending ++ [(timer.ref, timer.entityId)] }
        [.command timer.entityId value now]
  | expire (index : ℕ) (timer : Timer) (spent : ℕ) (now : ℤ)
      (pendingNumbers : Std.TreeMap String Pending) (rerendered : Bool)
      (here : state.timers[index]? = some timer) (task : timer.task = .expire spent)
      (later : state.now ≤ now)
      (fewer : ∀ (entityId : String) (pending : Pending),
        pendingNumbers[entityId]? = some pending → state.pendingNumbers[entityId]? = some pending)
      (same : ∀ (entityId : String) (pending : Pending),
        state.pendingNumbers[entityId]? = some pending → pending.timer ≠ spent →
          pendingNumbers[entityId]? = some pending) :
      Change fields state event
        { state with now, timers := state.timers.eraseIdx index, pendingNumbers }
        (if rerendered then [.rerender timer.entityId none] else [])
  | answered (index : ℕ) (spent : ℕ) (entityId : String) (now : ℤ)
      (here : state.sending[index]? = some (spent, entityId)) (later : state.now ≤ now) :
      Change fields state event
        { state with
          now
          sending := state.sending.eraseIdx index
          timers := state.timers ++ [⟨state.nextTimer, entityId, now, .expire spent⟩]
          nextTimer := state.nextTimer + 1 }
        []
  | told (values : Std.TreeMap String ℚ) (pendingNumbers : Std.TreeMap String Pending)
      (fewer : ∀ (entityId : String) (pending : Pending),
        pendingNumbers[entityId]? = some pending → state.pendingNumbers[entityId]? = some pending)
      (same : Unconfirmed state event → ∀ entityId, waiting entityId state.timers ≠ [] →
        pendingNumbers[entityId]? = state.pendingNumbers[entityId]?) :
      Change fields state event { state with values, pendingNumbers } []

/-- An entry is dropped or not. -/
theorem getElem?_erase_of_some {entries : Std.TreeMap String Pending} {entityId other : String}
    {pending : Pending} (here : (entries.erase entityId)[other]? = some pending) :
    entries[other]? = some pending := by
  rw [Std.TreeMap.getElem?_erase] at here
  split at here
  · cases here
  · exact here

theorem change_runTimer (fields : String → Stepped) {state : State} {event : Event} {index : ℕ}
    {timer : Timer} {now : ℤ} (here : state.timers[index]? = some timer)
    (later : state.now ≤ now) (ready : Ready state index timer now) {next : State}
    {outs : List Output} (hrun : runTimer
      { state with now, timers := state.timers.eraseIdx index } timer = (next, outs)) :
    Change fields state event next outs := by
  unfold runTimer at hrun
  split at hrun
  · rename_i value task
    cases hrun
    have due := ready.1
    rw [task] at due
    exact .send index timer value now here task later due (waiting_take ready task)
  · rename_i spent task
    split at hrun
    · rename_i named
      cases hrun
      refine .expire index timer spent now _ true here task later
        (fun _ _ => getElem?_erase_of_some) fun other pending found different => ?_
      rw [Std.TreeMap.getElem?_erase, if_neg, found]
      intro equal
      rw [Std.LawfulEqCmp.eq_of_compare equal, found] at named
      exact different (Option.some.inj named)
    · cases hrun
      exact .expire index timer spent now _ false here task later (fun _ _ here => here)
        fun _ _ found _ => found

theorem confirmState_eq (state : State) (entityId : String) (value : Option ℚ) :
    confirmState state entityId value =
      { state with pendingNumbers := (confirmState state entityId value).pendingNumbers } := by
  unfold confirmState
  repeat' split
  all_goals rfl

theorem pending_confirmState_values (state : State) (values : Std.TreeMap String ℚ)
    (entityId : String) (value : Option ℚ) :
    (confirmState { state with values } entityId value).pendingNumbers =
      (confirmState state entityId value).pendingNumbers := by
  unfold confirmState
  dsimp only
  repeat' split
  all_goals rfl

/-- The entry of the confirmed entity is dropped, if any. -/
theorem pending_confirmState (state : State) (entityId : String) (value : Option ℚ) :
    (confirmState state entityId value).pendingNumbers = state.pendingNumbers ∨
      (confirmState state entityId value).pendingNumbers =
        state.pendingNumbers.erase entityId := by
  unfold confirmState
  split
  · split
    · exact .inr rfl
    · exact .inl rfl
  · exact .inl rfl

theorem change_confirmState (fields : String → Stepped) (state : State)
    (values : Std.TreeMap String ℚ) (entityId : String) (value : Option ℚ) :
    Change fields state (.state entityId value true)
      (confirmState { state with values } entityId value) [] := by
  rw [confirmState_eq, pending_confirmState_values]
  refine .told _ _ (fun other pending here => ?_) fun unconfirmed other waits => ?_
  · rcases pending_confirmState state entityId value with kept | dropped
    · rwa [kept] at here
    · rw [dropped] at here
      exact getElem?_erase_of_some here
  · rcases pending_confirmState state entityId value with kept | dropped
    · rw [kept]
    · by_cases equal : entityId = other
      · subst equal
        exact unconfirmed.resolve_left waits
      · rw [dropped, Std.TreeMap.getElem?_erase,
          if_neg fun found => equal (Std.LawfulEqCmp.eq_of_compare found)]

theorem change_of_step {fields : String → Stepped} {state next : State} {event : Event}
    {outs : List Output} (hstep : step fields state event = some (next, outs)) :
    Change fields state event next outs := by
  cases event with
  | click entityId up now =>
      obtain ⟨later, hclick⟩ := Option.ite_none_right_eq_some.mp hstep
      cases hclick
      exact .click entityId up now later
  | run index now =>
      rw [step] at hstep
      split at hstep
      · rename_i timer here
        obtain ⟨⟨later, ready⟩, hrun⟩ := Option.ite_none_right_eq_some.mp hstep
        exact change_runTimer fields here later ready (Option.some.inj hrun)
      · cases hstep
  | answered index now =>
      rw [step] at hstep
      split at hstep
      · rename_i spent entityId here
        obtain ⟨later, hdone⟩ := Option.ite_none_right_eq_some.mp hstep
        cases hdone
        exact .answered index spent entityId now here later
      · cases hstep
  | state entityId value shown =>
      cases hstep
      cases shown with
      | false => exact .told _ _ (fun _ _ here => here) fun _ _ _ => rfl
      | true => exact change_confirmState fields state _ entityId value
  | snapshot values =>
      cases hstep
      exact .told _ _ (fun _ _ here => here) fun _ _ _ => rfl

namespace Owned

/-- A timer with a new number is owned by the entity of its entry, if it has one. -/
theorem start {state : State} (owned : Owned state) {timers : List Timer}
    (fewer : timers ⊆ state.timers) (timer : Timer) (ref : timer.ref = state.nextTimer)
    {pendingNumbers : Std.TreeMap String Pending}
    (entries : ∀ (entityId : String) (pending : Pending),
      pendingNumbers[entityId]? = some pending →
        state.pendingNumbers[entityId]? = some pending ∨
          entityId = timer.entityId ∧ pending.timer = timer.ref)
    (now : ℤ) (sending : List (ℕ × String)) :
    Owned { state with
      now, sending, pendingNumbers
      timers := timers ++ [timer]
      nextTimer := state.nextTimer + 1 } where
  fresh other member := by
    rcases List.mem_append.mp member with old | new
    · exact (owned.fresh other (fewer old)).trans (Nat.lt_succ_self _)
    · rw [List.mem_singleton.mp new, ref]
      exact Nat.lt_succ_self _
  known entityId pending here := by
    rcases entries entityId pending here with old | ⟨-, new⟩
    · exact (owned.known entityId pending old).trans (Nat.lt_succ_self _)
    · rw [new, ref]
      exact Nat.lt_succ_self _
  own entityId pending here other member same := by
    rcases entries entityId pending here with old | ⟨rfl, new⟩
    · rcases List.mem_append.mp member with before | last
      · exact owned.own entityId pending old other (fewer before) same
      · have below := owned.known entityId pending old
        rw [← same, List.mem_singleton.mp last, ref] at below
        exact absurd below (lt_irrefl _)
    · rcases List.mem_append.mp member with before | last
      · have below := owned.fresh other (fewer before)
        rw [same, new, ref] at below
        exact absurd below (lt_irrefl _)
      · rw [List.mem_singleton.mp last]

theorem change {fields : String → Stepped} {state next : State} {event : Event}
    {outs : List Output} (owned : Owned state) (changed : Change fields state event next outs) :
    Owned next := by
  cases changed with
  | click entityId up now later =>
      refine owned.start (cleared_sublist state entityId).subset _ rfl
        (fun other pending here => ?_) now state.sending
      rw [Std.TreeMap.getElem?_insert] at here
      split at here
      · rename_i equal
        cases here
        exact .inr ⟨(Std.LawfulEqCmp.eq_of_compare equal).symm, rfl⟩
      · exact .inl here
  | send index timer value now here task later due first =>
      exact owned.mono List.eraseIdx_subset (fun _ _ found => found) rfl
  | expire index timer spent now pendingNumbers rerendered here task later fewer same =>
      exact owned.mono List.eraseIdx_subset fewer rfl
  | answered index spent entityId now here later =>
      exact owned.start (List.Subset.refl _) _ rfl (fun _ _ found => .inl found) now _
  | told values pendingNumbers fewer same =>
      exact owned.mono (List.Subset.refl _) fewer rfl

end Owned

/-! ## Every run -/

/-- What is sent or waits is some of what was clicked, and the last of it. -/
structure Follows (entityId : String) (state : State) (outs : List Output) : Prop where
  within : List.Sublist (sent entityId outs ++ waiting entityId state.timers)
    (clicked entityId outs)
  last : (sent entityId outs ++ waiting entityId state.timers).getLast? =
    (clicked entityId outs).getLast?
  shown : ∀ pending, state.pendingNumbers[entityId]? = some pending →
    (clicked entityId outs).getLast? = some pending.value

namespace Follows

theorem initial (entityId : String) : Follows entityId {} [] where
  within := List.Sublist.refl _
  last := rfl
  shown pending here := by simp at here

/-- Neither a click nor a command: only entries may go. -/
theorem quiet {entityId : String} {state next : State} {outs new : List Output}
    (follows : Follows entityId state outs) (unclicked : clicked entityId new = [])
    (unsent : sent entityId new = [])
    (same : waiting entityId next.timers = waiting entityId state.timers)
    (fewer : ∀ pending, next.pendingNumbers[entityId]? = some pending →
      state.pendingNumbers[entityId]? = some pending) : Follows entityId next (outs ++ new) := by
  have click : clicked entityId (outs ++ new) = clicked entityId outs := by
    rw [clicked_append, unclicked, List.append_nil]
  have send : sent entityId (outs ++ new) = sent entityId outs := by
    rw [sent_append, unsent, List.append_nil]
  exact ⟨by rw [click, send, same]; exact follows.within,
    by rw [click, send, same]; exact follows.last,
    fun pending here => by rw [click]; exact follows.shown pending (fewer pending here)⟩

/-- A click replaces the value that waits. -/
theorem clicking {entityId : String} {state next : State} {outs : List Output}
    (follows : Follows entityId state outs) {timers : List Timer} {value : ℚ} {ref : ℕ}
    {now : ℤ} (fewer : List.Sublist timers state.timers)
    (started : next.timers = timers ++ [⟨ref, entityId, now, .send value⟩])
    (entry : next.pendingNumbers[entityId]? = some ⟨value, ref⟩) :
    Follows entityId next (outs ++ [.rerender entityId (some value)]) := by
  have click : clicked entityId (outs ++ [.rerender entityId (some value)]) =
      clicked entityId outs ++ [value] := by
    rw [clicked_append, clicked_rerender, if_pos rfl]
  have send : sent entityId (outs ++ [.rerender entityId (some value)]) =
      sent entityId outs := by
    rw [sent_append]
    exact List.append_nil _
  have waits : waiting entityId next.timers = waiting entityId timers ++ [value] := by
    rw [started, waiting_append, waiting_singleton, waitingBy_send rfl, if_pos rfl]
    rfl
  refine ⟨?_, ?_, fun pending here => ?_⟩
  · rw [click, send, waits, ← List.append_assoc]
    refine List.Sublist.append ?_ (List.Sublist.refl _)
    exact ((List.Sublist.refl _).append (fewer.filterMap _)).trans follows.within
  · rw [click, send, waits, ← List.append_assoc, List.getLast?_concat, List.getLast?_concat]
  · rw [entry] at here
    cases here
    rw [click, List.getLast?_concat]

theorem change {fields : String → Stepped} {state next : State} {event : Event}
    {outs new : List Output} {entityId : String} (owned : Owned state)
    (follows : Follows entityId state outs) (changed : Change fields state event next new) :
    Follows entityId next (outs ++ new) := by
  cases changed with
  | click clickedId up now later =>
      by_cases own : clickedId = entityId
      · subst own
        exact follows.clicking (cleared_sublist state clickedId) rfl
          Std.TreeMap.getElem?_insert_self
      · refine follows.quiet ((clicked_rerender _ _ _).trans (if_neg own)) rfl ?_
          fun pending here => ?_
        · refine (waiting_append _ _ _).trans ?_
          rw [waiting_cleared owned (Ne.symm own), waiting_singleton, waitingBy_send rfl,
            if_neg own]
          exact List.append_nil _
        · replace here : (state.pendingNumbers.insert clickedId _)[entityId]? = some pending :=
            here
          rwa [Std.TreeMap.getElem?_insert,
            if_neg fun equal => own (Std.LawfulEqCmp.eq_of_compare equal)] at here
  | send index timer value now here task later due first =>
      have whole := waiting_split here entityId
      have rest := waiting_eraseIdx state.timers index entityId
      rw [first entityId, List.nil_append] at whole rest
      by_cases own : timer.entityId = entityId
      · have send : sent entityId (outs ++ [.command timer.entityId value now]) ++
            waiting entityId (state.timers.eraseIdx index) =
              sent entityId outs ++ waiting entityId state.timers := by
          rw [sent_append, sent_command, whole, rest, waitingBy_send task, if_pos own, if_pos own,
            List.append_assoc]
          rfl
        have click : clicked entityId (outs ++ [.command timer.entityId value now]) =
            clicked entityId outs := by
          rw [clicked_append]
          exact List.append_nil _
        exact ⟨by rw [send, click]; exact follows.within, by rw [send, click]; exact follows.last,
          fun pending found => by rw [click]; exact follows.shown pending found⟩
      · refine follows.quiet rfl ((sent_command _ _ _ _).trans (if_neg own)) ?_
          fun _ found => found
        rw [whole, waitingBy_send task, if_neg own]
        exact rest
  | expire index timer spent now pendingNumbers rerendered here task later fewer same =>
      have whole := waiting_split here entityId
      have rest := waiting_eraseIdx state.timers index entityId
      refine follows.quiet ?_ ?_ ?_ (fewer entityId)
      · cases rerendered <;> rfl
      · cases rerendered <;> rfl
      · rw [whole, waitingBy_expire task]
        exact rest
  | answered index spent answeredId now here later =>
      refine follows.quiet rfl rfl ?_ fun _ found => found
      exact (waiting_append _ _ _).trans (List.append_nil _)
  | told values pendingNumbers fewer same => exact follows.quiet rfl rfl rfl (fewer entityId)

end Follows

theorem mem_clicked {entityId : String} {value : ℚ} {outs : List Output} :
    value ∈ clicked entityId outs ↔ .rerender entityId (some value) ∈ outs := by
  unfold clicked
  rw [List.mem_filterMap]
  constructor
  · rintro ⟨out, member, here⟩
    cases out with
    | command other sent now => cases here
    | rerender other pending =>
        cases pending with
        | none => cases here
        | some shown =>
            obtain ⟨rfl, hvalue⟩ := Option.ite_none_right_eq_some.mp here
            cases hvalue
            exact member
  · exact fun member => ⟨_, member, if_pos rfl⟩

/-- A click shows a value that the number can have. -/
theorem holds_change {fields : String → Stepped} {state next : State} {event : Event}
    {new : List Output} (changed : Change fields state event next new) {entityId : String}
    (proper : (fields entityId).Proper) {value : ℚ} (shown : value ∈ clicked entityId new) :
    (fields entityId).Holds value := by
  have member := mem_clicked.mp shown
  cases changed with
  | click clickedId up now later =>
      cases List.mem_singleton.mp member
      exact Stepped.holds_next proper _ _
  | send | answered | told => simp at member
  | expire index timer spent now pendingNumbers rerendered here task later fewer same =>
      cases rerendered <;> simp at member

/-- What holds of the state and the outputs of every run. -/
theorem run_clicks {fields : String → Stepped} {events : List Event} {last : State}
    {outs : List Output} (hrun : (machine fields).run {} events = some (last, outs))
    (entityId : String) :
    Owned last ∧ Follows entityId last outs ∧ ((fields entityId).Proper →
      ∀ value ∈ clicked entityId outs, (fields entityId).Holds value) := by
  refine (machine fields).run_history (fun _ state outs => Owned state ∧
    Follows entityId state outs ∧ ((fields entityId).Proper →
      ∀ value ∈ clicked entityId outs, (fields entityId).Holds value)) ?_
    ⟨Owned.initial, Follows.initial entityId, fun _ _ => nofun⟩ hrun
  rintro past state outs event next new ⟨owned, follows, holds⟩ hstep
  have changed := change_of_step hstep
  refine ⟨owned.change changed, follows.change owned changed, fun proper value member => ?_⟩
  rw [clicked_append] at member
  rcases List.mem_append.mp member with before | now
  · exact holds proper value before
  · exact holds_change changed proper now

/-- Whatever is sent to an entity was clicked, in that order, and the last click is sent or
waits to be; a pending value is the one clicked last. -/
theorem clicks_sent {fields : String → Stepped} {events : List Event} {last : State}
    {outs : List Output} (hrun : (machine fields).run {} events = some (last, outs))
    (entityId : String) :
    List.Sublist (sent entityId outs ++ waiting entityId last.timers) (clicked entityId outs) ∧
      (sent entityId outs ++ waiting entityId last.timers).getLast? =
        (clicked entityId outs).getLast? ∧
      ∀ pending, last.pendingNumbers[entityId]? = some pending →
        (clicked entityId outs).getLast? = some pending.value := by
  obtain ⟨-, follows, -⟩ := run_clicks hrun entityId
  exact ⟨follows.within, follows.last, follows.shown⟩

/-- Two clicks within 700 ms with a state that is not the pending one behind them, the command,
the state that confirms it and the answer, and a click later. -/
def somePresses : List Event :=
  [.click "target" true 0, .click "target" true 100, .state "target" (some 26) true, .run 0 800,
    .state "target" (some 27) true, .answered 0 900, .click "target" false 1000, .run 1 1700]

def targetFields (_ : String) : Stepped := { min := some 25, max := some 65, step := some 1 }

theorem clicks_sent_presses : ∃ last outs,
    (machine targetFields).run {} somePresses = some (last, outs) ∧
      sent "target" outs = [27, 26] ∧
      List.Sublist (sent "target" outs ++ waiting "target" last.timers)
        (clicked "target" outs) := by
  have runs : ((machine targetFields).run {} somePresses).map
      (fun result => sent "target" result.2) = some [27, 26] := by
    decide +kernel
  obtain ⟨⟨last, outs⟩, hrun, values⟩ := Option.map_eq_some_iff.mp runs
  exact ⟨last, outs, hrun, values, (clicks_sent hrun "target").1⟩

end Stepper

end NasaCpp.Web
