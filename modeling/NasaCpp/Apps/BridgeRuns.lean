import NasaCpp.Apps.BridgeThreads
import NasaCpp.Bridge.Publications

/-!
# Runs of the bridge

Whatever the order in which the threads take their steps, the bridge itself makes a run: it
is told the messages of one decoding of all bytes received, in order, and the commands in
the order of their arrival.
-/

namespace NasaCpp.Apps.TcpHassBridge.Threads

open General Protocol

variable {overread : Overread} {config : Config}

/-! ## The parts -/

def clientEvents : Output → List TcpClient.Event
  | .client event _ => [event]
  | .main _ | .hass _ _ | .mqtt _ _ => []

def clientOutputs : Output → List TcpClient.Output
  | .client _ outs => outs
  | .main _ | .hass _ _ | .mqtt _ _ => []

def hassEvents : Output → List Bridge.Event
  | .hass event _ => [event]
  | .client _ _ | .main _ | .mqtt _ _ => []

def hassOutputs : Output → List Bridge.Output
  | .hass _ outs => outs
  | .client _ _ | .main _ | .mqtt _ _ => []

def mqttEvents : Output → List (Mailbox.Event Command)
  | .mqtt event _ => [event]
  | .client _ _ | .main _ | .hass _ _ => []

def mqttTaken : Output → List Command
  | .mqtt _ taken => taken
  | .client _ _ | .main _ | .hass _ _ => []

theorem flatMap_main {α : Type} {part : Output → List α} (done : List Apps.Output)
    (other : ∀ out, part (.main out) = []) : (done.map Output.main).flatMap part = [] := by
  rw [List.flatMap_map]
  exact List.flatMap_eq_nil_iff.mpr fun out _ => other out

theorem flatMap_write {α : Type} {part : Output → List α} (pktsTx : List Packet)
    (other : ∀ out, part (.main out) = []) : (write pktsTx).flatMap part = [] := by
  unfold write
  split
  · rfl
  · exact (List.flatMap_singleton _ _).trans (other _)

def tcpClient (overread : Overread) (config : Config) :
    Part (machine overread config) TcpClient.machine where
  state state := state.client
  events := clientEvents
  outputs := clientOutputs
  step_run := by
    intro state next event outs hstep
    cases change_of_step hstep with
    | client _ hclient =>
        rw [List.flatMap_singleton, List.flatMap_singleton]
        exact TcpClient.machine.run_singleton hclient
    | fetch done =>
        rw [List.flatMap_cons, List.flatMap_cons, flatMap_main done fun _ => rfl,
          flatMap_main done fun _ => rfl]
        exact TcpClient.machine.run_singleton rfl
    | publish => rfl
    | collect pktsTx =>
        rw [List.flatMap_cons, List.flatMap_cons, flatMap_write pktsTx fun _ => rfl,
          flatMap_write pktsTx fun _ => rfl]
        rfl
    | skip | check => rfl
    | force =>
        refine (TcpClient.machine.run_singleton rfl).trans ?_
        cases state.client.connected <;> rfl
    | messageArrived | getData | handle => rfl

def hassBridge (overread : Overread) (config : Config) :
    Part (machine overread config) (Bridge.machine config.handlers) where
  state state := state.hass
  events := hassEvents
  outputs := hassOutputs
  step_run := by
    intro state next event outs hstep
    cases change_of_step hstep with
    | client => rfl
    | fetch done =>
        rw [List.flatMap_cons, List.flatMap_cons, flatMap_main done fun _ => rfl,
          flatMap_main done fun _ => rfl]
        rfl
    | publish =>
        rw [List.flatMap_singleton, List.flatMap_singleton]
        exact (Bridge.machine config.handlers).run_singleton rfl
    | collect pktsTx _ _ hget =>
        rw [List.flatMap_cons, List.flatMap_cons, flatMap_write pktsTx fun _ => rfl,
          flatMap_write pktsTx fun _ => rfl]
        refine (Bridge.machine config.handlers).run_singleton ?_
        change some ((state.hass.getNasaPackets config.handlers).1,
          [Bridge.Output.packets (state.hass.getNasaPackets config.handlers).2]) = _
        rw [hget]
        rfl
    | skip | check | force | messageArrived | getData => rfl
    | handle topic payload _ hcommand =>
        rw [List.flatMap_singleton, List.flatMap_singleton]
        refine (Bridge.machine config.handlers).run_singleton ?_
        change (state.hass.handleCommand topic payload).toOption.map (·, []) = _
        rw [hcommand]
        rfl

def mqttData (overread : Overread) (config : Config) :
    Part (machine overread config) (Mailbox.machine (α := Command)) where
  state state := state.data
  events := mqttEvents
  outputs := mqttTaken
  step_run := by
    intro state next event outs hstep
    cases change_of_step hstep with
    | client => rfl
    | fetch done =>
        rw [List.flatMap_cons, List.flatMap_cons, flatMap_main done fun _ => rfl,
          flatMap_main done fun _ => rfl]
        rfl
    | publish => rfl
    | collect pktsTx =>
        rw [List.flatMap_cons, List.flatMap_cons, flatMap_write pktsTx fun _ => rfl,
          flatMap_write pktsTx fun _ => rfl]
        rfl
    | skip | check | force => rfl
    | messageArrived => exact Mailbox.machine.run_singleton rfl
    | getData => exact (Mailbox.machine.run_singleton rfl).trans (by simp [mqttTaken])
    | handle => rfl

/-! ## Bytes, messages and commands -/

def fetched (outs : List Output) : List UInt8 := TcpClient.handedOut (outs.flatMap clientOutputs)

def decoded (outs : List Output) : List Packet :=
  outs.flatMap fun
    | .main (.decode pkts) => pkts
    | _ => []

def told (outs : List Output) : List MessageSet := Bridge.messagesTold (outs.flatMap hassEvents)

def handled (outs : List Output) : List Command :=
  (outs.flatMap hassEvents).filterMap fun
    | .command topic payload => some (topic, payload)
    | _ => none

def MainAt.unpublished : MainAt → List MessageSet
  | .publishing _ msgs => msgs
  | .receiving | .checking | .forcing => []

def arrived (events : List Event) : List Command :=
  events.filterMap fun
    | .messageArrived command => some command
    | _ => none

def received (events : List Event) : List UInt8 :=
  TcpClient.received (events.filterMap fun
    | .client called => some called
    | _ => none)

section Append

variable (first second : List Output)

@[simp] theorem fetched_append : fetched (first ++ second) = fetched first ++ fetched second := by
  rw [fetched, List.flatMap_append, TcpClient.handedOut, List.flatMap_append]
  rfl

@[simp] theorem decoded_append : decoded (first ++ second) = decoded first ++ decoded second :=
  List.flatMap_append

@[simp] theorem told_append : told (first ++ second) = told first ++ told second := by
  rw [told, List.flatMap_append, Bridge.messagesTold, List.filterMap_append]
  rfl

@[simp] theorem handled_append : handled (first ++ second) = handled first ++ handled second := by
  rw [handled, List.flatMap_append, List.filterMap_append]
  rfl

end Append

/-- The messages told and the commands handled are those fetched and taken. -/
structure InStep (overread : Overread) (state : State) (outs : List Output) : Prop where
  bounded : state.loop.Bounded
  decoding : NasaProtocol.decodeWith overread (fetched outs) =
    some (decoded outs, state.loop.buffer)
  messages : told outs ++ state.main.unpublished = (decoded outs).flatMap Packet.messages
  commands : handled outs ++ state.recvMsgs = outs.flatMap mqttTaken

/-- A round of the main loop continues the decoding of all bytes before it. -/
theorem receive_decoded {settings : Settings} {loop next : Loop} {received : List UInt8} {now : ℤ}
    {pkts : List Packet} {done : List Apps.Output} (large : 1501 ≤ settings.limit)
    (bounded : loop.Bounded)
    (hreceive : receive overread settings loop received now = some (next, pkts, done)) :
    NasaProtocol.decodeWith overread (loop.buffer ++ received) = some (pkts, next.buffer) ∧
      decoded (done.map .main) = pkts := by
  obtain ⟨⟨found, rest⟩, hdecode, hresult⟩ := Option.map_eq_some_iff.mp hreceive
  rw [if_neg (not_lt.mpr (bounded.trans large))] at hdecode
  cases hresult
  refine ⟨hdecode, ?_⟩
  split <;> split <;> split <;> simp_all [decoded]

/-- The thread of the client hands nothing out. -/
theorem handedOut_thread {client next : TcpClient} {called : TcpClient.Event}
    {results : List TcpClient.Output} (thread : ofThread called = true)
    (hclient : TcpClient.step client called = some (next, results)) :
    TcpClient.handedOut results = [] := by
  rcases TcpClient.step_cases hclient with ⟨result, rfl, -, -, rfl⟩ | ⟨rfl, -, -, rfl⟩ |
    ⟨nRead, buffer, rfl, -, -, rfl⟩ | ⟨data, rfl, -, -, rfl⟩ | ⟨rfl, -, -⟩ | ⟨rfl, -, -⟩
  · rfl
  · rfl
  · rfl
  · rfl
  · cases thread
  · cases thread

/-- Outputs that neither fetch nor decode, tell, handle or take anything. -/
theorem InStep.quiet {state next : State} {outs new : List Output}
    (inStep : InStep overread state outs) (loop : next.loop.buffer = state.loop.buffer)
    (main : next.main.unpublished = state.main.unpublished)
    (recvMsgs : next.recvMsgs = state.recvMsgs)
    (none : fetched new = [] ∧ decoded new = [] ∧ told new = [] ∧ handled new = [] ∧
      new.flatMap mqttTaken = []) : InStep overread next (outs ++ new) := by
  obtain ⟨noBytes, noPackets, noMessages, noCommands, nothing⟩ := none
  refine ⟨?_, ?_, ?_, ?_⟩
  · rw [Loop.Bounded, loop]
    exact inStep.bounded
  · rw [fetched_append, decoded_append, noBytes, noPackets, List.append_nil, List.append_nil, loop]
    exact inStep.decoding
  · rw [told_append, decoded_append, noMessages, noPackets, List.append_nil, List.append_nil, main]
    exact inStep.messages
  · rw [handled_append, List.flatMap_append, noCommands, nothing, List.append_nil,
      List.append_nil, recvMsgs]
    exact inStep.commands

/-- A fetch continues the decoding of all bytes fetched before. -/
theorem InStep.fetch {state : State} {outs : List Output} (large : 1501 ≤ config.limit)
    (inStep : InStep overread state outs) (place : state.main = .receiving) {now : ℤ}
    {loop : Loop} {pktsRx : List Packet} {done : List Apps.Output}
    (hreceive : receive overread config.toSettings state.loop state.client.recvData now =
      some (loop, pktsRx, done))
    {next : State} (hloop : next.loop = loop)
    (hmain : next.main = .publishing pktsRx (pktsRx.flatMap Packet.messages))
    (recvMsgs : next.recvMsgs = state.recvMsgs) :
    InStep overread next (outs ++
      .client .getRecvData [.handedOut state.client.recvData] :: done.map .main) := by
  obtain ⟨hdecode, hdone⟩ := receive_decoded large inStep.bounded hreceive
  have bytes : fetched (.client .getRecvData [.handedOut state.client.recvData] ::
      done.map .main) = state.client.recvData := by
    rw [fetched, List.flatMap_cons, flatMap_main done fun _ => rfl]
    simp [clientOutputs, TcpClient.handedOut, TcpClient.mailbox]
  have packets : decoded (.client .getRecvData [.handedOut state.client.recvData] ::
      done.map .main) = pktsRx := hdone
  have silent {α : Type} {part : Output → List α} (other : ∀ out, part (.main out) = [])
      (client : ∀ called results, part (.client called results) = []) :
      (Output.client .getRecvData [.handedOut state.client.recvData] ::
        done.map .main).flatMap part = [] := by
    rw [List.flatMap_cons, flatMap_main done other, client, List.append_nil]
  have noMessages : told (.client .getRecvData [.handedOut state.client.recvData] ::
      done.map .main) = [] := by
    rw [told, silent (fun _ => rfl) fun _ _ => rfl]
    rfl
  have noCommands : handled (.client .getRecvData [.handedOut state.client.recvData] ::
      done.map .main) = [] := by
    rw [handled, silent (fun _ => rfl) fun _ _ => rfl]
    rfl
  refine ⟨?_, ?_, ?_, ?_⟩
  · rw [hloop]
    exact (receive_bounded large inStep.bounded hreceive).1
  · rw [fetched_append, decoded_append, bytes, packets, NasaProtocol.decodeWith_append,
      inStep.decoding, Option.bind_some, hdecode, hloop]
    rfl
  · have before := inStep.messages
    rw [place] at before
    rw [told_append, decoded_append, packets, List.flatMap_append, ← before, noMessages, hmain]
    simp [MainAt.unpublished]
  · rw [handled_append, List.flatMap_append, silent (fun _ => rfl) fun _ _ => rfl, noCommands,
      recvMsgs]
    simpa using inStep.commands

/-- Every step keeps the messages told and the commands handled in step. -/
theorem InStep.step {state next : State} {event : Event} {outs new : List Output}
    (large : 1501 ≤ config.limit) (inStep : InStep overread state outs)
    (hstep : (machine overread config).step state event = some (next, new)) :
    InStep overread next (outs ++ new) := by
  cases change_of_step hstep with
  | client thread hclient =>
      refine inStep.quiet rfl rfl rfl ⟨?_, rfl, rfl, rfl, rfl⟩
      rw [fetched, List.flatMap_singleton]
      exact handedOut_thread thread hclient
  | fetch _ place hreceive => exact inStep.fetch large place hreceive rfl rfl rfl
  | publish place =>
      refine ⟨inStep.bounded, ?_, ?_, ?_⟩
      · simpa [fetched, decoded, clientOutputs, TcpClient.handedOut] using inStep.decoding
      · have before := inStep.messages
        rw [place] at before
        simpa [told, Bridge.messagesTold, hassEvents, decoded, MainAt.unpublished] using before
      · simpa [handled, hassEvents, mqttTaken] using inStep.commands
  | collect _ place =>
      refine inStep.quiet rfl (by rw [place]; rfl) rfl ?_
      unfold write
      split <;> exact ⟨rfl, rfl, rfl, rfl, rfl⟩
  | skip place => exact inStep.quiet rfl (by rw [place]; rfl) rfl ⟨rfl, rfl, rfl, rfl, rfl⟩
  | check place decided =>
      refine inStep.quiet rfl ?_ rfl ⟨rfl, rfl, rfl, rfl, rfl⟩
      rw [place]
      rcases decided with ⟨rfl, -⟩ | rfl <;> rfl
  | force place =>
      refine inStep.quiet rfl ?_ rfl ⟨?_, rfl, rfl, rfl, rfl⟩
      · rw [place]
        rfl
      · cases state.client.connected <;> rfl
  | messageArrived => exact inStep.quiet rfl rfl rfl ⟨rfl, rfl, rfl, rfl, rfl⟩
  | getData none =>
      refine ⟨inStep.bounded, ?_, ?_, ?_⟩
      · simpa [fetched, decoded, clientOutputs, TcpClient.handedOut] using inStep.decoding
      · simpa [told, Bridge.messagesTold, hassEvents, decoded] using inStep.messages
      · have before := inStep.commands
        rw [none, List.append_nil] at before
        simp [handled, hassEvents, mqttTaken, ← before]
  | handle _ _ place =>
      refine ⟨inStep.bounded, ?_, ?_, ?_⟩
      · simpa [fetched, decoded, clientOutputs, TcpClient.handedOut] using inStep.decoding
      · simpa [told, Bridge.messagesTold, hassEvents, decoded] using inStep.messages
      · have before := inStep.commands
        rw [place] at before
        simpa [handled, hassEvents, mqttTaken] using before

/-! ## What comes in -/

structure Recorded (past : List Event) (outs : List Output) : Prop where
  received : TcpClient.received (outs.flatMap clientEvents) = received past
  arrived : Mailbox.appended (outs.flatMap mqttEvents) = arrived past
  unloaded : ∀ event ∈ outs.flatMap hassEvents, event.Unloaded

theorem received_concat (past : List Event) (event : Event) :
    received (past ++ [event]) = received past ++ received [event] := by
  rw [received, List.filterMap_append, TcpClient.received, List.flatMap_append]
  rfl

theorem arrived_concat (past : List Event) (event : Event) :
    arrived (past ++ [event]) = arrived past ++ arrived [event] := List.filterMap_append

/-- An event with its own record. -/
theorem Recorded.concat {past : List Event} {event : Event} {outs new : List Output}
    (before : Recorded past outs) (here : Recorded [event] new) :
    Recorded (past ++ [event]) (outs ++ new) := by
  refine ⟨?_, ?_, ?_⟩
  · rw [List.flatMap_append, TcpClient.received, List.flatMap_append, received_concat,
      ← before.received, ← here.received]
    rfl
  · rw [List.flatMap_append, Mailbox.appended, List.flatMap_append, arrived_concat,
      ← before.arrived, ← here.arrived]
    rfl
  · rw [List.flatMap_append]
    exact List.forall_mem_append.mpr ⟨before.unloaded, here.unloaded⟩

theorem recorded_step {state next : State} {event : Event} {new : List Output}
    (hstep : (machine overread config).step state event = some (next, new)) :
    Recorded [event] new := by
  cases change_of_step hstep with
  | client => exact ⟨rfl, rfl, fun _ none => absurd none List.not_mem_nil⟩
  | fetch done =>
      refine ⟨?_, ?_, ?_⟩ <;> rw [List.flatMap_cons, flatMap_main done fun _ => rfl]
      · rfl
      · rfl
      · exact fun _ none => absurd none List.not_mem_nil
  | publish => exact ⟨rfl, rfl, by simp [hassEvents, Bridge.Event.Unloaded]⟩
  | collect pktsTx =>
      refine ⟨?_, ?_, ?_⟩ <;> rw [List.flatMap_cons, flatMap_write pktsTx fun _ => rfl]
      · rfl
      · rfl
      · simp [hassEvents, Bridge.Event.Unloaded]
  | skip | check | force | messageArrived =>
      exact ⟨rfl, rfl, fun _ none => absurd none List.not_mem_nil⟩
  | getData none => exact ⟨rfl, rfl, fun _ none => absurd none List.not_mem_nil⟩
  | handle => exact ⟨rfl, rfl, by simp [hassEvents, Bridge.Event.Unloaded]⟩

/-! ## The order of things -/

def start (hass : Bridge.HassBridge) (now : ℤ) : State :=
  { loop := { tpLastData := now }, hass }

variable {hass : Bridge.HassBridge} {now : ℤ} {events : List Event} {last : State}
  {outs : List Output}

theorem inStep_start (hass : Bridge.HassBridge) (now : ℤ) :
    InStep overread (start hass now) [] where
  bounded := Nat.zero_le _
  decoding := (NasaProtocol.framerWith overread).run_nil
  messages := rfl
  commands := rfl

theorem inStep_run (large : 1501 ≤ config.limit)
    (hrun : (machine overread config).run (start hass now) events = some (last, outs)) :
    InStep overread last outs :=
  (machine overread config).run_history (fun _ => InStep overread) (InStep.step large)
    (inStep_start hass now) hrun

theorem recorded_run
    (hrun : (machine overread config).run (start hass now) events = some (last, outs)) :
    Recorded events outs :=
  (machine overread config).run_history (fun past _ outs => Recorded past outs)
    (fun before hstep => before.concat (recorded_step hstep))
    ⟨rfl, rfl, fun _ none => absurd none List.not_mem_nil⟩ hrun

theorem hass_run
    (hrun : (machine overread config).run (start hass now) events = some (last, outs)) :
    (Bridge.machine config.handlers).run hass (outs.flatMap hassEvents) =
      some (last.hass, outs.flatMap hassOutputs) :=
  (hassBridge overread config).run hrun

theorem client_run
    (hrun : (machine overread config).run (start hass now) events = some (last, outs)) :
    TcpClient.machine.run {} (outs.flatMap clientEvents) =
      some (last.client, outs.flatMap clientOutputs) :=
  (tcpClient overread config).run hrun

/-- In every interleaving of the threads the critical sections of the bridge are a run of it;
the messages it is told are those of one decoding of the bytes fetched, and the commands it
handles those that have arrived, in order, with none lost or repeated: what is missing waits
in `recv_data_`, in the thread of the client, in the round, in `recv_msgs` or in `data`. -/
theorem threads_linearize (large : 1501 ≤ config.bufferLimit.toInt)
    (hrun : (machine overread config).run (start hass now) events = some (last, outs)) :
    (Bridge.machine config.handlers).run hass (outs.flatMap hassEvents) =
        some (last.hass, outs.flatMap hassOutputs) ∧
      NasaProtocol.decodeWith overread (fetched outs) = some (decoded outs, last.loop.buffer) ∧
      fetched outs ++ last.client.recvData ++ last.client.thread.inFlight = received events ∧
      told outs ++ last.main.unpublished = (decoded outs).flatMap Packet.messages ∧
      handled outs ++ last.recvMsgs ++ last.data = arrived events := by
  have inStep := inStep_run (Settings.le_limit large) hrun
  have recorded := recorded_run hrun
  refine ⟨hass_run hrun, inStep.decoding, ?_, inStep.messages, ?_⟩
  · rw [← recorded.received]
    exact TcpClient.run_bytes (client_run hrun)
  · rw [← recorded.arrived, inStep.commands]
    exact Mailbox.run_eq ((mqttData overread config).run hrun)

/-- A command that arrives between the bytes of a frame and is handled before its message. -/
theorem threads_linearize_switch :
    ∃ last outs, (machine (fun _ => .error .crcError) ⟨{}, false, {}⟩).run
        (start { sa := ⟨.jigTester, 0, 0⟩ } 0)
        [.client (.connect2server true), .client .check,
          .client (.recv 10 [50, 0, 17, 128, 0, 0, 176, 255, 32, 192]), .client .append,
          .client .check, .messageArrived ("set", "ON"), .fetch 1, .getData, .collect,
          .client (.recv 9 [19, 7, 1, 64, 101, 1, 65, 24, 52]), .client .append, .check 2,
          .fetch 3, .handle, .publish] = some (last, outs) ∧
      told outs ++ last.main.unpublished = (decoded outs).flatMap Packet.messages ∧
      handled outs ++ last.recvMsgs ++ last.data = [("set", "ON")] := by
  obtain ⟨⟨last, outs⟩, hrun⟩ := Option.isSome_iff_exists.mp
    (show ((machine (fun _ => .error .crcError) ⟨{}, false, {}⟩).run
      (start { sa := ⟨.jigTester, 0, 0⟩ } 0)
      [.client (.connect2server true), .client .check,
        .client (.recv 10 [50, 0, 17, 128, 0, 0, 176, 255, 32, 192]), .client .append,
        .client .check, .messageArrived ("set", "ON"), .fetch 1, .getData, .collect,
        .client (.recv 9 [19, 7, 1, 64, 101, 1, 65, 24, 52]), .client .append, .check 2,
        .fetch 3, .handle, .publish]).isSome = true by decide +kernel)
  obtain ⟨-, -, -, messages, commands⟩ := threads_linearize (by decide) hrun
  exact ⟨last, outs, hrun, messages, commands⟩

end NasaCpp.Apps.TcpHassBridge.Threads
