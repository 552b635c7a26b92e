import NasaCpp.Handler.WireHeader

/-!
# The life of a command

A command is a value stored in `val_new_` and a counter back at zero.  It ends when
the value is received or the retries are used up, but only the first clears
`val_new_`: giving up leaves a copy of the current value there, and so does a
command that equals the current value.  Such a leftover is sent as a command as
soon as the heat pump's value changes.  In runs where no other value is received
while there is a leftover every command ends as it should.
-/

namespace NasaCpp.Handler

open General Protocol

/-! ## What should hold -/

/-- `NasaHassBridge::loop` on a command: both calls under one lock. -/
def command (val : Int32) : List Event := [.updateValueNew val, .resetRetryCounter]

/-- The calls that happen between two commands. -/
def Event.IsBetween : Event → Prop
  | .updateValue _ | .getPacket _ => True
  | .updateValueNew _ | .resetRetryCounter => False

instance : ∀ event : Event, Decidable event.IsBetween
  | .updateValue _ | .getPacket _ => isTrue trivial
  | .updateValueNew _ | .resetRetryCounter => isFalse not_false

/-- The packets that carry commands and not requests for a value. -/
def commandsOf (packets : List Packet) : List Packet :=
  packets.filter fun packet => packet.command.dataType ≠ .read

def IsCommanded (config : Config) (dataType : DataType) : Prop :=
  dataType = .request ∨ dataType = .write ∧ config.disableWriteSend = false

theorem IsCommanded.ne_read {config : Config} {dataType : DataType}
    (commanded : IsCommanded config dataType) : dataType ≠ .read := by
  rcases commanded with rfl | ⟨rfl, -⟩ <;> decide

theorem IsCommanded.enabled {config : Config} {handler : MsgHandler}
    (commanded : IsCommanded config handler.dataType) : ¬ handler.IsDisabled config := by
  rintro ⟨write, disabled⟩
  rcases commanded with request | ⟨-, enabled⟩
  · exact absurd (write.symm.trans request) (by decide)
  · exact Bool.noConfusion (disabled.symm.trans enabled)

/-- The calls since the command have brought its value, or the last of them gave it up. -/
def Finished (config : Config) (handler : MsgHandler) (val : Int32) (calls : List Event) : Prop :=
  (∃ last packets, (machine config).run handler calls = some (last, packets) ∧ last.valIs = val) ∨
    ∃ front pktCounter last packets, calls = front ++ [.getPacket pktCounter] ∧
      (machine config).run handler front = some (last, packets) ∧ last.GivesUp config

/-- What becomes of the command `val` in a handler that has just got it. -/
structure LifeCycle (config : Config) (handler : MsgHandler) (val : Int32) (calls : List Event) :
    Prop where
  attempts : ∀ {last packets}, (machine config).run handler calls = some (last, packets) →
    (commandsOf packets).length ≤ 11
  values : ∀ {last packets}, (machine config).run handler calls = some (last, packets) →
    ∀ packet ∈ commandsOf packets,
      packet.messages = [.create handler.messageNumber val.toInt64]
  quiet : ∀ {before after middle last earlier later}, calls = before ++ after →
    (machine config).run handler before = some (middle, earlier) →
    Finished config handler val before →
    (machine config).run middle after = some (last, later) → commandsOf later = []

/-- Every command among the events ends before the next one. -/
def CommandsEnd (config : Config) (handler : MsgHandler) (events : List Event) : Prop :=
  ∀ before val calls rest start earlier, events = before ++ command val ++ calls ++ rest →
    (∀ event ∈ calls, event.IsBetween) →
    (machine config).run handler (before ++ command val) = some (start, earlier) →
    LifeCycle config start val calls

/-- No value but the current one is received while `val_new_` holds a leftover. -/
def Undisturbed (handler : MsgHandler) : Event → Prop
  | .updateValue msg =>
      msg.messageNumber = handler.messageNumber → handler.valNew ≠ intMax →
        handler.valIs = handler.valNew → handler.received msg = handler.valIs
  | _ => True

instance (handler : MsgHandler) : ∀ event : Event, Decidable (Undisturbed handler event)
  | .updateValue _ => inferInstanceAs (Decidable (_ → _))
  | .updateValueNew _ | .resetRetryCounter | .getPacket _ => isTrue trivial

/-! ## The phases of a command -/

namespace MsgHandler

/-- The command `val` waits for its value after `sent` attempts. -/
structure Pending (val : Int32) (sent : Nat) (handler : MsgHandler) : Prop where
  valNew : handler.valNew = val
  set : val ≠ intMax
  missing : handler.valIs ≠ val
  counter : handler.CounterAt sent

/-- There is no command: `val_new_` is cleared or a leftover. -/
def Done (handler : MsgHandler) : Prop :=
  handler.valNew = intMax ∨ handler.valIs = handler.valNew

theorem Done.hasNothingToSend {handler : MsgHandler} (done : handler.Done) :
    handler.HasNothingToSend :=
  done.imp_right .inl

theorem restore_done (handler : MsgHandler) : handler.restore.Done := .inr rfl

end MsgHandler

theorem commandsOf_append (first second : List Packet) :
    commandsOf (first ++ second) = commandsOf first ++ commandsOf second :=
  List.filter_append first second

/-- A request for the value is no command. -/
theorem commandsOf_read (handler : MsgHandler) (pktCounter : UInt8) :
    commandsOf
      [(Packet.createToBroadcastSelf handler.sa .read handler.messageNumber 1 pktCounter).1] = [] :=
  rfl

theorem commandsOf_commandPacket {handler : MsgHandler} (pktCounter : UInt8)
    (other : handler.dataType ≠ .read) :
    commandsOf [handler.commandPacket pktCounter] = [handler.commandPacket pktCounter] := by
  have keep : (handler.commandPacket pktCounter).command.dataType ≠ .read := other
  simp [commandsOf, keep]

/-- Without a command nothing is sent, and a leftover that is not disturbed stays one
or is cleared. -/
theorem done_step {config : Config} {handler next : MsgHandler} {event : Event}
    {packets : List Packet} (done : handler.Done) (undisturbed : Undisturbed handler event)
    (between : event.IsBetween)
    (hstep : (machine config).step handler event = some (next, packets)) :
    next.Done ∧ commandsOf packets = [] := by
  cases event with
  | updateValueNew val => exact between.elim
  | resetRetryCounter => exact between.elim
  | updateValue msg =>
      cases hstep
      refine ⟨?_, rfl⟩
      rcases handler.updateValue_cases msg with
        ⟨-, hnext⟩ | ⟨-, -, hnext⟩ | ⟨same, other, hnext⟩ <;>
        rw [hnext]
      · exact done
      · exact .inl rfl
      · rcases done with cleared | leftover
        · exact .inl cleared
        · by_cases cleared : handler.valNew = intMax
          · exact .inl cleared
          · exact absurd ((undisturbed same cleared leftover).trans leftover) other
  | getPacket pktCounter =>
      rcases step_getPacket hstep with
        ⟨-, rfl, rfl⟩ | ⟨-, -, rfl, rfl⟩ | ⟨gives, -, -⟩ | ⟨sends, -, -⟩
      · exact ⟨done, commandsOf_read next pktCounter⟩
      · exact ⟨done, rfl⟩
      · exact absurd done.hasNothingToSend gives.pending
      · exact absurd done.hasNothingToSend sends.pending

/-- A waiting command sends its value or nothing, and waits on or is done. -/
theorem pending_step {config : Config} {handler next : MsgHandler} {event : Event}
    {packets : List Packet} {val : Int32} {sent : Nat} (pending : handler.Pending val sent)
    (commanded : IsCommanded config handler.dataType) (between : event.IsBetween)
    (hstep : (machine config).step handler event = some (next, packets)) :
    (commandsOf packets = [] ∧ (next.Done ∨ next.Pending val sent)) ∨
      ∃ packet, commandsOf packets = [packet] ∧
        packet.messages = [.create handler.messageNumber val.toInt64] ∧
        next.Pending val (sent + 1) := by
  have waiting : handler.dataType ≠ .read → ¬ handler.HasNothingToSend := by
    rintro commandable (cleared | reached | reading)
    · exact pending.set (pending.valNew.symm.trans cleared)
    · exact pending.missing (reached.trans pending.valNew)
    · exact commandable reading
  have commandable := commanded.ne_read
  cases event with
  | updateValueNew val => exact between.elim
  | resetRetryCounter => exact between.elim
  | updateValue msg =>
      cases hstep
      refine .inl ⟨rfl, ?_⟩
      rcases handler.updateValue_cases msg with ⟨-, hnext⟩ | ⟨-, -, hnext⟩ | ⟨-, other, hnext⟩ <;>
        rw [hnext]
      · exact .inr pending
      · exact .inl (.inl rfl)
      · rw [pending.valNew] at other
        exact .inr ⟨pending.valNew, pending.set, other, pending.counter.1, pending.counter.2⟩
  | getPacket pktCounter =>
      rcases step_getPacket hstep with
        ⟨-, rfl, rfl⟩ | ⟨-, nothing, -, -⟩ | ⟨-, rfl, rfl⟩ | ⟨sends, rfl, rfl⟩
      · exact .inl ⟨commandsOf_read next pktCounter, .inr pending⟩
      · exact absurd nothing (waiting commandable)
      · exact .inl ⟨rfl, .inl handler.restore_done⟩
      · refine .inr ⟨_, commandsOf_commandPacket pktCounter commandable, ?_, pending.valNew,
          pending.set, pending.missing, pending.counter.send sends.retries⟩
        rw [← pending.valNew]
        rfl

/-! ## Runs -/

/-- A command in the course of the calls that follow it. -/
structure Living (number : MessageNumber) (dataType : DataType) (val : Int32)
    (handler : MsgHandler) (packets : List Packet) : Prop where
  messageNumber : handler.messageNumber = number
  dataType : handler.dataType = dataType
  values : ∀ packet ∈ commandsOf packets, packet.messages = [.create number val.toInt64]
  phase : handler.Done ∧ (commandsOf packets).length ≤ 11 ∨
    handler.Pending val (commandsOf packets).length

theorem Living.attempts {number : MessageNumber} {dataType : DataType} {val : Int32}
    {handler : MsgHandler} {packets : List Packet}
    (living : Living number dataType val handler packets) : (commandsOf packets).length ≤ 11 := by
  rcases living.phase with ⟨-, bound⟩ | pending
  · exact bound
  · exact pending.counter.bound

/-- Every call between commands keeps the command living. -/
theorem Living.step {config : Config} {number : MessageNumber} {dataType : DataType} {val : Int32}
    {handler next : MsgHandler} {packets new : List Packet} {event : Event}
    (living : Living number dataType val handler packets)
    (commanded : IsCommanded config dataType)
    (condition : Undisturbed handler event ∧ event.IsBetween)
    (hstep : (machine config).step handler event = some (next, new)) :
    Living number dataType val next (packets ++ new) := by
  obtain ⟨undisturbed, between⟩ := condition
  obtain ⟨sameNumber, -, sameType⟩ := sameHandler_step hstep
  obtain ⟨rfl, rfl, values, phase⟩ := living
  have silent : commandsOf new = [] → commandsOf (packets ++ new) = commandsOf packets := by
    intro hnew
    rw [commandsOf_append, hnew, List.append_nil]
  rcases phase with ⟨done, bound⟩ | pending
  · obtain ⟨hdone, hnew⟩ := done_step done undisturbed between hstep
    refine ⟨sameNumber, sameType, ?_, .inl ⟨hdone, ?_⟩⟩ <;> rw [silent hnew]
    · exact values
    · exact bound
  · have bound := pending.counter.bound
    rcases pending_step pending commanded between hstep with
      ⟨hnew, hdone | hpending⟩ | ⟨packet, hnew, hmessages, hpending⟩
    · refine ⟨sameNumber, sameType, ?_, .inl ⟨hdone, ?_⟩⟩ <;> rw [silent hnew]
      · exact values
      · exact bound
    · refine ⟨sameNumber, sameType, ?_, .inr ?_⟩ <;> rw [silent hnew]
      · exact values
      · exact hpending
    · refine ⟨sameNumber, sameType, ?_, .inr ?_⟩
      · rw [commandsOf_append, hnew, List.forall_mem_append, List.forall_mem_singleton]
        exact ⟨values, hmessages⟩
      · rw [commandsOf_append, hnew, List.length_append, List.length_singleton]
        exact hpending

/-- A handler right after the command. -/
theorem Living.start {handler : MsgHandler} {val : Int32} (stored : handler.valNew = val)
    (fresh : handler.retryCtr = 0) :
    Living handler.messageNumber handler.dataType val handler [] := by
  have none : ∀ packet ∈ commandsOf [],
      packet.messages = [.create handler.messageNumber val.toInt64] :=
    fun _ hmem => nomatch hmem
  refine ⟨rfl, rfl, none, ?_⟩
  by_cases cleared : val = intMax
  · exact .inl ⟨.inl (stored.trans cleared), Nat.zero_le 11⟩
  by_cases reached : handler.valIs = val
  · exact .inl ⟨.inr (reached.trans stored.symm), Nat.zero_le 11⟩
  · exact .inr ⟨stored, cleared, reached, fresh, Nat.zero_le 11⟩

theorem Living.run {config : Config} {handler last : MsgHandler} {val : Int32}
    {calls : List Event} {packets : List Packet} (stored : handler.valNew = val)
    (fresh : handler.retryCtr = 0) (commanded : IsCommanded config handler.dataType)
    (between : ∀ event ∈ calls, event.IsBetween)
    (along : (machine config).Along Undisturbed handler calls)
    (hrun : (machine config).run handler calls = some (last, packets)) :
    Living handler.messageNumber handler.dataType val last packets := by
  refine (machine config).run_history_along
    (fun _ state outs => Living handler.messageNumber handler.dataType val state outs) ?_
    (.start stored fresh) (along.and_events between) hrun
  intro _ _ _ _ _ _ living condition hstep
  exact living.step commanded condition hstep

/-- Once done, a handler that is left undisturbed sends no command. -/
theorem done_run {config : Config} {handler last : MsgHandler} {calls : List Event}
    {packets : List Packet} (done : handler.Done) (between : ∀ event ∈ calls, event.IsBetween)
    (along : (machine config).Along Undisturbed handler calls)
    (hrun : (machine config).run handler calls = some (last, packets)) :
    commandsOf packets = [] := by
  suffices quiet : last.Done ∧ commandsOf packets = [] from quiet.2
  refine (machine config).run_history_along
    (fun _ state outs => state.Done ∧ commandsOf outs = []) ?_ ⟨done, rfl⟩
    (along.and_events between) hrun
  rintro _ _ _ _ _ _ ⟨here, hnone⟩ ⟨undisturbed, isBetween⟩ hstep
  obtain ⟨hnext, hnew⟩ := done_step here undisturbed isBetween hstep
  exact ⟨hnext, by rw [commandsOf_append, hnone, hnew, List.append_nil]⟩

/-- A finished command leaves the handler without one. -/
theorem done_of_finished {config : Config} {handler last : MsgHandler} {val : Int32}
    {calls : List Event} {packets : List Packet}
    (living : Living handler.messageNumber handler.dataType val last packets)
    (hrun : (machine config).run handler calls = some (last, packets))
    (finished : Finished config handler val calls) : last.Done := by
  rcases finished with
    ⟨other, outs, hother, reached⟩ | ⟨front, pktCounter, start, outs, rfl, hfront, gives⟩
  · rw [hrun] at hother
    cases hother
    rcases living.phase with ⟨done, -⟩ | pending
    · exact done
    · exact absurd reached pending.missing
  · obtain ⟨middle, first, second, hfirst, hlast, -⟩ := (machine config).run_append_eq_some.mp hrun
    rw [hfront] at hfirst
    cases hfirst
    obtain ⟨next, third, rest, hstep, hnil, -⟩ := (machine config).run_cons_eq_some.mp hlast
    cases hnil
    rcases step_getPacket hstep with
      ⟨asks, -, -⟩ | ⟨-, nothing, -, -⟩ | ⟨-, rfl, -⟩ | ⟨sends, -, -⟩
    · exact absurd asks gives.known
    · exact absurd nothing gives.pending
    · exact start.restore_done
    · exact absurd gives.stopped (not_or_intro sends.enabled sends.retries)

/-- The life cycle of a command in a handler that is left undisturbed. -/
theorem lifeCycle_of_undisturbed {config : Config} {handler : MsgHandler} {val : Int32}
    {calls : List Event} (stored : handler.valNew = val) (fresh : handler.retryCtr = 0)
    (commanded : IsCommanded config handler.dataType)
    (between : ∀ event ∈ calls, event.IsBetween)
    (along : (machine config).Along Undisturbed handler calls) :
    LifeCycle config handler val calls where
  attempts hrun := (Living.run stored fresh commanded between along hrun).attempts
  values hrun := (Living.run stored fresh commanded between along hrun).values
  quiet := by
    rintro before after middle last earlier later rfl hbefore finished hafter
    have between := List.forall_mem_append.mp between
    have living := Living.run stored fresh commanded between.1 along.left hbefore
    exact done_run (done_of_finished living hbefore finished) between.2 (along.right hbefore) hafter

/-- The handler after `updateValueNew` and `resetRetryCounter`. -/
theorem run_command {config : Config} {handler start : MsgHandler} {val : Int32}
    {before : List Event} {earlier : List Packet}
    (hstart : (machine config).run handler (before ++ command val) = some (start, earlier)) :
    start.valNew = val ∧ start.retryCtr = 0 := by
  obtain ⟨middle, first, second, -, hcommand, -⟩ := (machine config).run_append_eq_some.mp hstart
  have hresult : (machine config).run middle (command val) =
      some ((middle.updateValueNew val).resetRetryCounter, []) := rfl
  rw [hresult] at hcommand
  cases hcommand
  exact ⟨rfl, rfl⟩

theorem run_dataType {config : Config} {handler last : MsgHandler} {events : List Event}
    {packets : List Packet} (hrun : (machine config).run handler events = some (last, packets)) :
    last.dataType = handler.dataType := by
  refine (machine config).run_history
    (fun _ state _ => state.dataType = handler.dataType) ?_ rfl hrun
  intro _ _ _ _ _ _ same hstep
  exact (sameHandler_step hstep).dataType.trans same

/-- In every run in which no leftover is disturbed every command ends: at most eleven
packets, all with its value, and none once its value was there or it was given up. -/
theorem commandsEnd_of_undisturbed {config : Config} {number : MessageNumber} {sa : Address}
    {dataType : DataType} {events : List Event} (commanded : IsCommanded config dataType)
    (along : (machine config).Along Undisturbed (.create number sa dataType) events) :
    CommandsEnd config (.create number sa dataType) events := by
  rintro before val calls rest start earlier rfl between hstart
  obtain ⟨stored, fresh⟩ := run_command hstart
  have sameType : start.dataType = dataType := run_dataType hstart
  rw [← sameType] at commanded
  exact lifeCycle_of_undisturbed stored fresh commanded between (along.left.right hstart)

/-- A switch that is turned on and confirms it, then is turned off by hand. -/
theorem commandsEnd_confirmed_switch :
    CommandsEnd {} (.create ⟨0x4065⟩ ⟨.jigTester, 0, 0⟩ .request)
      ([.updateValue (.create ⟨0x4065⟩ 0)] ++ command 1 ++
        [.getPacket 0, .getPacket 1, .updateValue (.create ⟨0x4065⟩ 1), .getPacket 2,
          .updateValue (.create ⟨0x4065⟩ 0), .getPacket 2]) :=
  commandsEnd_of_undisturbed (.inl rfl) (by decide)

/-- A disturbed leftover is sent to the heat pump as if it were a command. -/
theorem sends_leftover {config : Config} {handler : MsgHandler} {msg : MessageSet}
    (commanded : IsCommanded config handler.dataType) (fresh : handler.retryCtr = 0)
    (leftover : handler.valNew ≠ intMax ∧ handler.valIs = handler.valNew)
    (same : msg.messageNumber = handler.messageNumber)
    (other : handler.received msg ≠ handler.valIs) (known : handler.received msg ≠ intMax) :
    (handler.updateValue msg).Sends config ∧
      (handler.updateValue msg).valNew = handler.valIs := by
  obtain ⟨set, copy⟩ := leftover
  rcases handler.updateValue_cases msg with ⟨differs, -⟩ | ⟨-, reached, -⟩ | ⟨-, differs, hnext⟩
  · exact absurd same differs
  · exact absurd (reached.trans copy.symm) other
  rw [hnext]
  refine ⟨⟨fun asks => known asks.1, ?_, commanded.enabled, ?_⟩, copy.symm⟩
  · rintro (cleared | reached | reading)
    · exact set cleared
    · exact differs reached
    · exact commanded.ne_read reading
  · change ¬ handler.retryCtr > 10
    rw [fresh]
    decide

/-- The eleven attempts for a value 1 are given up at the value 0.  When the heat pump
then reports 2, the value 0 is sent. -/
theorem stale_value_after_giving_up :
    ¬ ∀ (config : Config) (number : MessageNumber) (sa : Address) (dataType : DataType)
      (events : List Event), IsCommanded config dataType →
      CommandsEnd config (.create number sa dataType) events := by
  intro all
  have between : ∀ event ∈ List.replicate 12 (Event.getPacket 0) ++
      [.updateValue (.create ⟨0x4065⟩ 2), .getPacket 0], event.IsBetween := by decide
  have living := all {} ⟨0x4065⟩ ⟨.jigTester, 0, 0⟩ .request _ (.inl rfl)
    [.updateValue (.create ⟨0x4065⟩ 0)] 1 _ [] _ _ rfl between rfl
  have stale := living.values rfl
    { sa := ⟨.jigTester, 0, 0⟩, da := Packet.broadcastSelf
      command := { dataType := .request, retryCount := 0, packetNumber := 0 }
      messages := [.create ⟨0x4065⟩ 0] } (by decide)
  exact absurd stale (by decide)

end NasaCpp.Handler
