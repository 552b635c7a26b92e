import NasaCpp.Web.Server
import NasaCpp.Web.Stepper

/-!
# The stepper and the server

Several clicks on a stepper send a single command: while no state confirms a value that waits
to be sent, the timer of the pending value is the only one that sends, and a click starts it
anew.  The values sent pass the checks of `api_command`.
-/

namespace NasaCpp.Web.Stepper

open General

/-! ## One command for several clicks -/

def sendTimes (entityId : String) (outs : List Output) : List ℤ :=
  outs.filterMap fun
    | .command other _ now => if other = entityId then some now else none
    | _ => none

def Task.Sends (task : Task) : Prop := ∃ value, task = .send value

/-- The number of a timer, once it has run, is not that of one that will send a value. -/
structure Numbered (state : State) : Prop where
  fresh : ∀ timer ∈ state.timers, timer.ref < state.nextTimer
  distinct : (state.timers.map Timer.ref).Nodup
  spent : ∀ timer ∈ state.timers, ∀ spent, timer.task = .expire spent →
    spent < state.nextTimer ∧ ∀ other ∈ state.timers, other.task.Sends → other.ref ≠ spent
  sending : ∀ request ∈ state.sending, request.1 < state.nextTimer ∧
    ∀ other ∈ state.timers, other.task.Sends → other.ref ≠ request.1

namespace Numbered

theorem initial : Numbered {} := ⟨nofun, List.nodup_nil, nofun, nofun⟩

theorem ref_ne_of_mem_eraseIdx {state : State} (numbered : Numbered state) {index : ℕ}
    {timer other : Timer} (here : state.timers[index]? = some timer)
    (member : other ∈ state.timers.eraseIdx index) : other.ref ≠ timer.ref := by
  have distinct := numbered.distinct
  rw [timers_split here, List.map_append, List.map_cons, List.nodup_middle,
    List.nodup_cons, ← List.map_append] at distinct
  rw [List.eraseIdx_eq_take_drop_succ] at member
  exact fun same => distinct.1 (List.mem_map.mpr ⟨other, member, same⟩)

/-- Fewer timers are numbered too. -/
theorem mono {state next : State} (numbered : Numbered state)
    (timers : List.Sublist next.timers state.timers)
    (counter : next.nextTimer = state.nextTimer)
    (requests : ∀ request ∈ next.sending, request ∈ state.sending ∨
      request.1 < state.nextTimer ∧
        ∀ other ∈ next.timers, other.task.Sends → other.ref ≠ request.1) : Numbered next where
  fresh timer member := counter ▸ numbered.fresh timer (timers.subset member)
  distinct := numbered.distinct.sublist (timers.map _)
  spent timer member spent task := by
    obtain ⟨below, never⟩ := numbered.spent timer (timers.subset member) spent task
    exact ⟨counter ▸ below, fun other here => never other (timers.subset here)⟩
  sending request member := by
    rw [counter]
    rcases requests request member with old | new
    · obtain ⟨below, never⟩ := numbered.sending request old
      exact ⟨below, fun other here => never other (timers.subset here)⟩
    · exact new

/-- A timer with a new number. -/
theorem start {state next : State} (numbered : Numbered state) {timers : List Timer}
    (fewer : List.Sublist timers state.timers) {timer : Timer}
    (ref : timer.ref = state.nextTimer) (started : next.timers = timers ++ [timer])
    (counter : next.nextTimer = state.nextTimer + 1)
    (requests : next.sending ⊆ state.sending)
    (task : timer.task.Sends ∨ ∃ request ∈ state.sending, timer.task = .expire request.1) :
    Numbered next := by
  have fresh (other : Timer) (member : other ∈ next.timers) :
      other ∈ state.timers ∨ other = timer := by
    rw [started] at member
    exact (List.mem_append.mp member).imp (fun here => fewer.subset here) List.mem_singleton.mp
  have never (spent : ℕ) (below : spent < state.nextTimer)
      (unsent : ∀ other ∈ state.timers, other.task.Sends → other.ref ≠ spent) :
      spent < next.nextTimer ∧ ∀ other ∈ next.timers, other.task.Sends → other.ref ≠ spent := by
    refine ⟨counter ▸ below.trans (Nat.lt_succ_self _), fun other member sends => ?_⟩
    rcases fresh other member with old | rfl
    · exact unsent other old sends
    · exact ref ▸ below.ne'
  refine ⟨fun other member => ?_, ?_, fun other member spent expires => ?_,
    fun request member => ?_⟩
  · rw [counter]
    rcases fresh other member with old | rfl
    · exact (numbered.fresh other old).trans (Nat.lt_succ_self _)
    · exact ref ▸ Nat.lt_succ_self _
  · rw [started, List.map_append, List.map_singleton, List.nodup_append]
    refine ⟨numbered.distinct.sublist (fewer.map _), List.nodup_singleton _, ?_⟩
    intro old hold new hnew
    obtain ⟨other, member, rfl⟩ := List.mem_map.mp hold
    rw [List.mem_singleton.mp hnew, ref]
    exact (numbered.fresh other (fewer.subset member)).ne
  · rcases fresh other member with old | rfl
    · obtain ⟨below, unsent⟩ := numbered.spent other old spent expires
      exact never spent below unsent
    · rcases task with ⟨value, sends⟩ | ⟨request, asked, hrequest⟩
      · rw [sends] at expires
        cases expires
      · rw [hrequest] at expires
        cases expires
        obtain ⟨below, unsent⟩ := numbered.sending request asked
        exact never request.1 below unsent
  · obtain ⟨below, unsent⟩ := numbered.sending request (requests member)
    exact never request.1 below unsent

theorem change {fields : String → Stepped} {state next : State} {event : Event}
    {outs : List Output} (numbered : Numbered state)
    (changed : Change fields state event next outs) : Numbered next := by
  cases changed with
  | click entityId up now later =>
      exact numbered.start (cleared_sublist state entityId) rfl rfl rfl (List.Subset.refl _)
        (.inl ⟨_, rfl⟩)
  | send index timer value now here task later due first =>
      refine numbered.mono (List.eraseIdx_sublist _ _) rfl fun request member => ?_
      refine (List.mem_append.mp member).imp id fun new => ?_
      rw [List.mem_singleton.mp new]
      exact ⟨numbered.fresh timer (List.mem_of_getElem? here),
        fun other remains _ => numbered.ref_ne_of_mem_eraseIdx here remains⟩
  | expire index timer spent now pendingNumbers rerendered here task later fewer same =>
      exact numbered.mono (List.eraseIdx_sublist _ _) rfl fun _ member => .inl member
  | answered index spent entityId now here later =>
      exact numbered.start (List.Sublist.refl _) rfl rfl rfl List.eraseIdx_subset
        (.inr ⟨_, List.mem_of_getElem? here, rfl⟩)
  | told values pendingNumbers fewer same =>
      exact numbered.mono (List.Sublist.refl _) rfl fun _ member => .inl member

end Numbered

/-- The only value that waits is the pending one, and was clicked after the last command. -/
structure Apart (entityId : String) (state : State) (outs : List Output) : Prop where
  named : ∀ timer ∈ state.timers, timer.entityId = entityId → timer.task.Sends →
    (state.pendingNumbers[entityId]?).map Pending.timer = some timer.ref
  started : ∀ timer ∈ state.timers, timer.entityId = entityId → timer.task.Sends →
    ∀ time ∈ sendTimes entityId outs, time ≤ timer.started
  past : ∀ time ∈ sendTimes entityId outs, time ≤ state.now
  apart : (sendTimes entityId outs).Pairwise fun earlier later => earlier + 700 ≤ later

theorem sendTimes_append (entityId : String) (first second : List Output) :
    sendTimes entityId (first ++ second) =
      sendTimes entityId first ++ sendTimes entityId second :=
  List.filterMap_append

/-- A timer that will send a value to an entity has a value that waits. -/
theorem waiting_ne_nil {timers : List Timer} {timer : Timer} (member : timer ∈ timers)
    (sends : timer.task.Sends) : waiting timer.entityId timers ≠ [] := by
  obtain ⟨value, task⟩ := sends
  have waits : value ∈ waiting timer.entityId timers :=
    List.mem_filterMap.mpr ⟨timer, member, waitingBy_eq_some.mpr ⟨rfl, task⟩⟩
  exact List.ne_nil_of_mem waits

namespace Apart

theorem initial (entityId : String) : Apart entityId {} [] :=
  ⟨nofun, nofun, nofun, List.Pairwise.nil⟩

/-- No command: the timers that will send were there before, with their entries. -/
theorem quiet {entityId : String} {state next : State} {outs new : List Output}
    (apart : Apart entityId state outs) (unsent : sendTimes entityId new = [])
    (later : state.now ≤ next.now)
    (timers : ∀ timer ∈ next.timers, timer.entityId = entityId → timer.task.Sends →
      timer ∈ state.timers)
    (entries : ∀ timer ∈ next.timers, timer.entityId = entityId → timer.task.Sends →
      (state.pendingNumbers[entityId]?).map Pending.timer = some timer.ref →
        (next.pendingNumbers[entityId]?).map Pending.timer = some timer.ref) :
    Apart entityId next (outs ++ new) := by
  have same : sendTimes entityId (outs ++ new) = sendTimes entityId outs := by
    rw [sendTimes_append, unsent, List.append_nil]
  refine ⟨fun timer member own sends => ?_, fun timer member own sends => ?_,
    fun time member => ?_, ?_⟩
  · exact entries timer member own sends
      (apart.named timer (timers timer member own sends) own sends)
  · rw [same]
    exact apart.started timer (timers timer member own sends) own sends
  · rw [same] at member
    exact (apart.past time member).trans later
  · rw [same]
    exact apart.apart

/-- A click clears the timer of the entry, which is the only one that would send. -/
theorem not_sends_of_cleared {state : State} {entityId : String} {outs : List Output}
    (apart : Apart entityId state outs) {timer : Timer}
    (member : timer ∈ cleared state entityId) (own : timer.entityId = entityId) :
    ¬ timer.task.Sends := by
  intro sends
  have named := apart.named timer ((cleared_sublist state entityId).subset member) own sends
  unfold cleared at member
  cases here : state.pendingNumbers[entityId]? with
  | none =>
      rw [here] at named
      cases named
  | some prev =>
      rw [here] at named member
      have kept := (List.mem_filter.mp member).2
      exact of_decide_eq_true kept (Option.some.inj named).symm

/-- A click leaves the timer it starts as the only one that will send. -/
theorem clicked {state : State} {entityId : String} {outs : List Output}
    (apart : Apart entityId state outs) (stepped : Stepped) (up : Bool) {now : ℤ}
    (later : state.now ≤ now) (shown : Option ℚ) :
    Apart entityId (click stepped state entityId up now).1
      (outs ++ [.rerender entityId shown]) := by
  have only (timer : Timer) (member : timer ∈ cleared state entityId ++ [_])
      (mine : timer.entityId = entityId) (sends : timer.task.Sends) :
      timer = ⟨state.nextTimer, entityId, now, .send
        (stepped.next (current stepped state entityId) up)⟩ :=
    (List.mem_append.mp member).elim
      (fun old => absurd sends (apart.not_sends_of_cleared old mine))
      List.mem_singleton.mp
  have same : sendTimes entityId (outs ++ [.rerender entityId shown]) = sendTimes entityId outs :=
    (sendTimes_append _ _ _).trans (List.append_nil _)
  refine ⟨fun timer member mine sends => ?_, fun timer member mine sends => ?_,
    fun time member => ?_, same.symm ▸ apart.apart⟩
  · rw [only timer member mine sends]
    exact congrArg _ Std.TreeMap.getElem?_insert_self
  · rw [only timer member mine sends, same]
    exact fun time before => (apart.past time before).trans later
  · rw [same] at member
    exact (apart.past time member).trans later

/-- A click on another entity starts no timer for this one and leaves its entry. -/
theorem clicked_elsewhere {state : State} {entityId clickedId : String} {outs : List Output}
    (apart : Apart entityId state outs) (other : clickedId ≠ entityId) (stepped : Stepped)
    (up : Bool) {now : ℤ} (later : state.now ≤ now) (shown : Option ℚ) :
    Apart entityId (click stepped state clickedId up now).1
      (outs ++ [.rerender clickedId shown]) := by
  refine apart.quiet rfl later (fun timer member mine sends => ?_)
    fun timer member mine sends named => ?_
  · rcases List.mem_append.mp member with old | new
    · exact (cleared_sublist state clickedId).subset old
    · rw [List.mem_singleton.mp new] at mine
      exact absurd mine other
  · refine (congrArg (Option.map Pending.timer) ?_).trans named
    exact Std.TreeMap.getElem?_insert.trans
      (if_neg fun equal => other (Std.LawfulEqCmp.eq_of_compare equal))

/-- A command goes out 700 ms after the click it is for, which came after the one before;
then no timer is left that will send. -/
theorem commanded {state : State} {timer : Timer} {outs : List Output} {index : ℕ} {value : ℚ}
    {now : ℤ} (numbered : Numbered state) (apart : Apart timer.entityId state outs)
    (here : state.timers[index]? = some timer) (task : timer.task = .send value)
    (later : state.now ≤ now) (due : timer.started + 700 ≤ now) :
    Apart timer.entityId
      { state with
        now
        timers := state.timers.eraseIdx index
        sending := state.sending ++ [(timer.ref, timer.entityId)] }
      (outs ++ [.command timer.entityId value now]) := by
  have before := List.mem_of_getElem? here
  have named := apart.named timer before rfl ⟨value, task⟩
  have times : sendTimes timer.entityId (outs ++ [.command timer.entityId value now]) =
      sendTimes timer.entityId outs ++ [now] := by
    rw [sendTimes_append]
    exact congrArg _ (List.filterMap_cons_some (if_pos rfl))
  have earlier (time : ℤ) (member : time ∈ sendTimes timer.entityId outs) : time + 700 ≤ now :=
    (Int.add_le_add_right (apart.started timer before rfl ⟨value, task⟩ time member) 700).trans due
  have none (other : Timer) (member : other ∈ state.timers.eraseIdx index)
      (mine : other.entityId = timer.entityId) : ¬ other.task.Sends := fun sends =>
    numbered.ref_ne_of_mem_eraseIdx here member (Option.some.inj
      ((apart.named other (List.eraseIdx_subset member) mine sends).symm.trans named))
  refine ⟨fun other member mine sends => absurd sends (none other member mine),
    fun other member mine sends => absurd sends (none other member mine),
    fun time member => ?_, ?_⟩
  · rw [times] at member
    rcases List.mem_append.mp member with old | new
    · exact (apart.past time old).trans later
    · exact (List.mem_singleton.mp new).le
  · rw [times]
    refine List.pairwise_append.mpr ⟨apart.apart, List.pairwise_singleton _ _, ?_⟩
    intro time member last hlast
    rw [List.mem_singleton.mp hlast]
    exact earlier time member

theorem change {fields : String → Stepped} {state next : State} {event : Event}
    {outs new : List Output} {entityId : String} (numbered : Numbered state)
    (apart : Apart entityId state outs) (unconfirmed : Unconfirmed state event)
    (changed : Change fields state event next new) : Apart entityId next (outs ++ new) := by
  cases changed with
  | click clickedId up now later =>
      by_cases own : clickedId = entityId
      · subst own
        exact apart.clicked _ up later _
      · exact apart.clicked_elsewhere own _ up later _
  | send index timer value now here task later due first =>
      by_cases own : timer.entityId = entityId
      · subst own
        exact commanded numbered apart here task later due
      · exact apart.quiet (List.filterMap_cons_none (if_neg own)) later
          (fun other member _ _ => List.eraseIdx_subset member) fun _ _ _ _ named => named
  | expire index timer spent now pendingNumbers rerendered here task later fewer same =>
      refine apart.quiet ?_ later (fun other member _ _ => List.eraseIdx_subset member)
        fun other member mine sends named => ?_
      · cases rerendered <;> rfl
      · obtain ⟨pending, found, ref⟩ := Option.map_eq_some_iff.mp named
        have unspent := (numbered.spent timer (List.mem_of_getElem? here) spent task).2 other
          (List.eraseIdx_subset member) sends
        rw [same entityId pending found (ref ▸ unspent), Option.map_some, ref]
  | answered index spent answeredId now here later =>
      refine apart.quiet rfl later (fun timer member mine sends => ?_) fun _ _ _ _ named => named
      refine (List.mem_append.mp member).resolve_right fun new => ?_
      obtain ⟨value, task⟩ := sends
      rw [List.mem_singleton.mp new] at task
      cases task
  | told values pendingNumbers fewer same =>
      refine apart.quiet rfl le_rfl (fun _ member _ _ => member)
        fun timer member mine sends named => ?_
      rw [same unconfirmed entityId (mine ▸ waiting_ne_nil member sends)]
      exact named

theorem waiting_length {entityId : String} {state : State} {outs : List Output}
    (numbered : Numbered state) (apart : Apart entityId state outs) :
    (waiting entityId state.timers).length ≤ 1 := by
  unfold waiting
  rw [List.length_filterMap_eq_countP, List.countP_eq_length_filter]
  generalize hwaits : state.timers.filter (fun timer => (waitingBy entityId timer).isSome) = waits
  have named (timer : Timer) (member : timer ∈ waits) :
      (state.pendingNumbers[entityId]?).map Pending.timer = some timer.ref := by
    rw [← hwaits] at member
    obtain ⟨before, waits⟩ := List.mem_filter.mp member
    obtain ⟨value, hvalue⟩ := Option.isSome_iff_exists.mp waits
    obtain ⟨own, task⟩ := waitingBy_eq_some.mp hvalue
    exact apart.named timer before own ⟨value, task⟩
  have distinct : (waits.map Timer.ref).Nodup :=
    numbered.distinct.sublist (hwaits ▸ List.filter_sublist.map _)
  cases waits with
  | nil => exact Nat.zero_le _
  | cons first rest =>
      have same : (first :: rest).map Timer.ref =
          List.replicate (first :: rest).length first.ref := by
        refine List.eq_replicate_iff.mpr ⟨List.length_map _, fun ref member => ?_⟩
        obtain ⟨timer, here, rfl⟩ := List.mem_map.mp member
        exact Option.some.inj ((named timer here).symm.trans (named first List.mem_cons_self))
      rw [same] at distinct
      exact List.nodup_replicate.mp distinct

end Apart

/-- While no state confirms a value before it is sent, the commands of an entity are at least
700 ms apart, and the only value that waits is the pending one. -/
theorem commands_apart {fields : String → Stepped} {events : List Event} {last : State}
    {outs : List Output} (unconfirmed : (machine fields).Along Unconfirmed {} events)
    (hrun : (machine fields).run {} events = some (last, outs)) (entityId : String) :
    ((sendTimes entityId outs).Pairwise fun earlier later => earlier + 700 ≤ later) ∧
      (waiting entityId last.timers = [] ∨ ∃ pending,
        last.pendingNumbers[entityId]? = some pending ∧
          waiting entityId last.timers = [pending.value]) := by
  have invariant : Numbered last ∧ Apart entityId last outs :=
    (machine fields).run_history_along
      (fun _ state outs => Numbered state ∧ Apart entityId state outs)
      (fun ⟨numbered, apart⟩ here hstep =>
        have changed := change_of_step hstep
        ⟨numbered.change changed, apart.change numbered here changed⟩)
      ⟨Numbered.initial, Apart.initial entityId⟩ unconfirmed hrun
  obtain ⟨numbered, apart⟩ := invariant
  refine ⟨apart.apart, ?_⟩
  cases waits : waiting entityId last.timers with
  | nil => exact .inl rfl
  | cons value rest =>
      have alone : rest = [] := by
        have short := apart.waiting_length numbered
        rw [waits] at short
        exact List.eq_nil_of_length_eq_zero (Nat.le_zero.mp (Nat.le_of_succ_le_succ short))
      have member : value ∈ waiting entityId last.timers := waits ▸ List.mem_cons_self
      obtain ⟨timer, here, hvalue⟩ := List.mem_filterMap.mp member
      obtain ⟨own, task⟩ := waitingBy_eq_some.mp hvalue
      obtain ⟨pending, found, -⟩ := Option.map_eq_some_iff.mp
        (apart.named timer here own ⟨value, task⟩)
      obtain ⟨-, follows, -⟩ := run_clicks hrun entityId
      have last := follows.last
      rw [waits, alone, List.getLast?_concat, follows.shown pending found] at last
      rw [alone, Option.some.inj last]
      exact .inr ⟨pending, found, rfl⟩

theorem commands_apart_presses : ∃ last outs,
    (machine targetFields).run {} somePresses = some (last, outs) ∧
      sendTimes "target" outs = [800, 1700] ∧
      (sendTimes "target" outs).Pairwise fun earlier later => earlier + 700 ≤ later := by
  have runs : ((machine targetFields).run {} somePresses).map
      (fun result => sendTimes "target" result.2) = some [800, 1700] := by
    decide +kernel
  have unconfirmed : (machine targetFields).Along Unconfirmed {} somePresses := by
    decide +kernel
  obtain ⟨⟨last, outs⟩, hrun, times⟩ := Option.map_eq_some_iff.mp runs
  exact ⟨last, outs, hrun, times, (commands_apart unconfirmed hrun "target").1⟩

/-! ## The server -/

/-- The server publishes every value that a stepper with the range of the entity sends. -/
theorem clicks_published {fields : String → Stepped} {events : List Event} {last : State}
    {outs : List Output} (hrun : (machine fields).run {} events = some (last, outs))
    {settings : Settings} {bridge : MqttBridge} {entityId topic : String} {live : LiveEntity}
    (registered : bridge.registry.get entityId = some live)
    (writable : settings.readOnly = false) (connected : bridge.connected = true)
    (commanded : live.entity.commandTopic = some topic) (numeric : live.entity.kind = .numeric)
    (least : (fields entityId).min = live.entity.min)
    (greatest : (fields entityId).max = live.entity.max) (proper : (fields entityId).Proper) :
    ∀ value ∈ sent entityId outs,
      Server.apiCommand settings bridge entityId (.number value) true =
        [.publish topic
            (toString (Rounding.roundHalfEven (live.entity.commandTf.apply value))),
          .answer (.ok
            (toString (Rounding.roundHalfEven (live.entity.commandTf.apply value))))] := by
  intro value member
  obtain ⟨-, follows, holds⟩ := run_clicks hrun entityId
  obtain ⟨above, below⟩ :=
    holds proper value (follows.within.subset (List.mem_append_left _ member))
  rw [least] at above
  rw [greatest] at below
  have within : live.entity.outside value = false := by
    rw [Entity.outside, Bool.or_eq_false_iff, Option.any_eq_false, Option.any_eq_false]
    exact ⟨fun low hlow => decide_eq_false (not_lt.mpr (above low hlow)),
      fun high hhigh => decide_eq_false (not_lt.mpr (below high hhigh))⟩
  have built : live.entity.buildCommand settings.str (.number value) =
      some (toString (Rounding.roundHalfEven (live.entity.commandTf.apply value))) := by
    unfold Entity.buildCommand
    rw [numeric]
    exact if_neg (within ▸ Bool.false_ne_true)
  rw [Server.apiCommand, writable, if_neg Bool.false_ne_true, registered]
  dsimp only
  rw [connected, if_neg Bool.true_eq_false.mp, Server.sendCommand, commanded]
  dsimp only
  rw [built]
  rfl

def targetEntity : Entity where
  id := "target"
  name := "Target"
  platform := "number"
  stateTopic := "t"
  commandTopic := some "set"
  min := some 25
  max := some 65
  commandTf := { factor := 10 }

def targetSettings : Settings where
  setup := { loads _ := none, parseState := Entity.readState }
  str _ := ""
  accepts _ := true

def targetBridge : MqttBridge where
  registry := ({} : Registry).upsert targetEntity
  storage := .init {} 300 30
  connected := true

theorem clicks_published_presses : ∃ last outs,
    (machine targetFields).run {} somePresses = some (last, outs) ∧
      27 ∈ sent "target" outs ∧
      Server.apiCommand targetSettings targetBridge "target" (.number 27) true =
        [.publish "set" "270", .answer (.ok "270")] := by
  have runs : ((machine targetFields).run {} somePresses).map
      (fun result => sent "target" result.2) = some [27, 26] := by
    decide +kernel
  obtain ⟨⟨last, outs⟩, hrun, values⟩ := Option.map_eq_some_iff.mp runs
  have sends : 27 ∈ sent "target" outs := values ▸ List.mem_cons_self
  have registered : targetBridge.registry.get "target" = some { entity := targetEntity } :=
    (Registry.get_upsert Registry.sound_empty targetEntity "target").trans (if_pos rfl)
  have text : toString (Rounding.roundHalfEven (targetEntity.commandTf.apply 27)) = "270" := by
    decide +kernel
  have proper : (targetFields "target").Proper := by
    intro low hlow high hhigh
    cases hlow
    cases hhigh
    decide
  refine ⟨last, outs, hrun, sends, ?_⟩
  rw [← text]
  exact clicks_published hrun registered rfl rfl rfl rfl rfl rfl
    proper 27 sends

end NasaCpp.Web.Stepper
