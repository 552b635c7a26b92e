import NasaCpp.Apps.BridgeRuns
import NasaCpp.Bridge.Collections

/-!
# The bridge as others see it

What the MQTT broker, the bus and the TCP connection see of the bridge in a run of its
threads: state topics that follow the bytes received, frames that follow the handlers, and
one new connection for every reconnect that is forced.
-/

namespace NasaCpp.Apps.TcpHassBridge.Threads

open General Protocol

variable {overread : Overread} {config : Config} {hass : Bridge.HassBridge} {now : ℤ}
  {events : List Event} {last : State} {outs : List Output}

/-! ## The broker -/

def published (outs : List Output) : List Bridge.Output :=
  (outs.flatMap hassOutputs).filter Bridge.Output.isPublish

def statesOf (entries : UInt16 → Option Bridge.Entry) (pkts : List Packet) :
    List Bridge.Output :=
  (pkts.flatMap Packet.messages).filterMap (Bridge.stateOf entries)

/-- After the lists are loaded, what is published is what the messages say. -/
theorem published_told {sa : Address} {loads : List Bridge.Event}
    {announced : List Bridge.Output}
    (loaded : ∀ event ∈ loads, ∃ cfg list, event = .addMsg cfg list)
    (hload : (Bridge.machine config.handlers).run { sa } loads = some (hass, announced))
    (hrun : (machine overread config).run (start hass now) events = some (last, outs)) :
    published outs = (told outs).filterMap (Bridge.stateOf (Bridge.firstEntry loads)) := by
  have whole := (Bridge.machine config.handlers).run_append_eq_some.mpr
    ⟨hass, announced, _, hload, hass_run hrun, rfl⟩
  have alone := Bridge.publications_run hload
  have all := Bridge.publications_run whole
  have told : loads.filter Bridge.Event.isTold = loads := by
    refine List.filter_eq_self.mpr fun event hmem => ?_
    obtain ⟨cfg, list, rfl⟩ := loaded event hmem
    rfl
  rw [told, Bridge.publications_loads loaded] at alone
  rw [List.filter_append, alone, List.nil_append, List.filter_append, told,
    Bridge.publications_append, Bridge.publications_loads loaded, List.nil_append,
    List.nil_append] at all
  exact all.trans (Bridge.publications_unloaded loads (recorded_run hrun).unloaded)

/-- The state topics follow the byte stream: in every interleaving of the threads the
publications are those about the first messages of one decoding of all bytes received, in
order and none twice, and about all of them once nothing is on its way; no command, no
collection of packets and no chunk of the stream makes a difference. -/
theorem published_follows {sa : Address} {loads : List Bridge.Event}
    {announced : List Bridge.Output} (large : 1501 ≤ config.bufferLimit.toInt)
    (loaded : ∀ event ∈ loads, ∃ cfg list, event = .addMsg cfg list)
    (hload : (Bridge.machine config.handlers).run { sa } loads = some (hass, announced))
    (hrun : (machine overread config).run (start hass now) events = some (last, outs)) :
    ∃ pkts rest, NasaProtocol.decodeWith overread (received events) = some (pkts, rest) ∧
      published outs <+: statesOf (Bridge.firstEntry loads) pkts ∧
      (last.main.unpublished = [] → last.client.recvData = [] →
        last.client.thread.inFlight = [] →
        published outs = statesOf (Bridge.firstEntry loads) pkts) := by
  have inStep := inStep_run (Settings.le_limit large) hrun
  have bytes : fetched outs ++ last.client.recvData ++ last.client.thread.inFlight =
      received events :=
    (TcpClient.run_bytes (client_run hrun)).trans (recorded_run hrun).received
  have states := published_told loaded hload hrun
  have messages := inStep.messages
  obtain ⟨more, rest, hmore, -, -⟩ := NasaProtocol.decodeWith_remainder overread
    (last.loop.buffer ++ (last.client.recvData ++ last.client.thread.inFlight))
  refine ⟨decoded outs ++ more, rest, ?_, ?_, fun toldAll noData noFlight => ?_⟩
  · rw [← bytes, List.append_assoc, NasaProtocol.decodeWith_append, inStep.decoding,
      Option.bind_some, hmore]
    rfl
  · rw [states, statesOf, List.flatMap_append, ← messages, List.append_assoc,
      List.filterMap_append]
    exact List.prefix_append _ _
  · rw [noData, noFlight, List.append_nil, List.append_nil] at hmore
    have settled := (NasaProtocol.framerWith overread).run_of_wait
      ((NasaProtocol.framerWith overread).settled_of_run inStep.decoding)
    cases hmore.symm.trans settled
    rw [states, statesOf, List.append_nil, ← messages, toldAll, List.append_nil]

/-- A switch whose only frame is read and fetched, but not yet published. -/
theorem published_follows_switch :
    ∃ hass announced last outs pkts rest,
      (Bridge.machine {}).run { sa := ⟨.jigTester, 0, 0⟩ }
          [.addMsg ⟨"DHW", "0x4065", { type := "switch" }⟩ .request] = some (hass, announced) ∧
        (machine (fun _ => .error .crcError) ⟨{}, true, {}⟩).run (start hass 0)
          [.client (.connect2server true), .client .check,
            .client (.recv 19
              [50, 0, 17, 128, 0, 0, 176, 255, 32, 192, 19, 7, 1, 64, 101, 1, 65, 24, 52]),
            .client .append, .fetch 1] = some (last, outs) ∧
        NasaProtocol.decodeWith (fun _ => .error .crcError)
          [50, 0, 17, 128, 0, 0, 176, 255, 32, 192, 19, 7, 1, 64, 101, 1, 65, 24, 52] =
          some (pkts, rest) ∧
        published outs <+: statesOf (Bridge.firstEntry
          [.addMsg ⟨"DHW", "0x4065", { type := "switch" }⟩ .request]) pkts := by
  obtain ⟨⟨last, outs⟩, hboth⟩ := Option.isSome_iff_exists.mp
    (show (((Bridge.machine {}).run { sa := ⟨.jigTester, 0, 0⟩ }
        [.addMsg ⟨"DHW", "0x4065", { type := "switch" }⟩ .request]).bind fun loaded =>
      (machine (fun _ => .error .crcError) ⟨{}, true, {}⟩).run (start loaded.1 0)
        [.client (.connect2server true), .client .check,
          .client (.recv 19
            [50, 0, 17, 128, 0, 0, 176, 255, 32, 192, 19, 7, 1, 64, 101, 1, 65, 24, 52]),
          .client .append, .fetch 1]).isSome = true by decide +kernel)
  obtain ⟨⟨hass, announced⟩, hload, hrun⟩ := Option.bind_eq_some_iff.mp hboth
  have loaded : ∀ event ∈ [Bridge.Event.addMsg ⟨"DHW", "0x4065", { type := "switch" }⟩ .request],
      ∃ cfg list, event = .addMsg cfg list :=
    fun event hmem => ⟨_, _, List.mem_singleton.mp hmem⟩
  obtain ⟨pkts, rest, hdecode, shown, -⟩ :=
    @published_follows _ ⟨{}, true, {}⟩ _ _ _ _ _ _ _ _ (by decide) loaded hload hrun
  exact ⟨hass, announced, last, outs, pkts, rest, hload, hrun, hdecode, shown⟩

/-! ## The bus -/

def sent (outs : List Output) : List UInt8 :=
  outs.flatMap fun
    | .main (.send data) => data
    | _ => []

def collected (outs : List Output) : List Packet := Bridge.collected (outs.flatMap hassOutputs)

def sends (outs : List Output) : Nat :=
  outs.countP fun
    | .main (.send _) => true
    | _ => false

def decodes (outs : List Output) : Nat :=
  outs.countP fun
    | .main (.decode _) => true
    | _ => false

/-- A round that has decoded packets may still send some. -/
def MainAt.credit : MainAt → Nat
  | .publishing pktsRx _ => if pktsRx = [] then 0 else 1
  | .receiving | .checking | .forcing => 0

/-- What the main loop writes is what the bridge has collected. -/
structure Sending (config : Config) (state : State) (outs : List Output) : Prop where
  sent : sent outs = NasaProtocol.encode (collected outs)
  readOnly : config.readOnly = true → collected outs = []
  credit : sends outs + state.main.credit ≤ decodes outs

theorem collected_append (first second : List Output) :
    collected (first ++ second) = collected first ++ collected second := by
  rw [collected, List.flatMap_append, Bridge.collected_append]
  rfl

/-- Outputs that neither collect nor write anything. -/
theorem Sending.quiet {state next : State} {outs new : List Output}
    (sending : Sending config state outs)
    (none : Threads.sent new = [] ∧ collected new = [] ∧ sends new = 0)
    (credit : next.main.credit ≤ state.main.credit + decodes new) :
    Sending config next (outs ++ new) := by
  obtain ⟨noBytes, noPackets, noSends⟩ := none
  refine ⟨?_, fun readOnly => ?_, ?_⟩
  · rw [Threads.sent, List.flatMap_append, ← Threads.sent, ← Threads.sent, noBytes,
      collected_append, noPackets, List.append_nil, List.append_nil]
    exact sending.sent
  · rw [collected_append, noPackets, List.append_nil]
    exact sending.readOnly readOnly
  · have before := sending.credit
    rw [sends, List.countP_append, ← sends, ← sends, noSends, decodes, List.countP_append,
      ← decodes, ← decodes]
    omega

theorem decodes_fetch {settings : Settings} {loop next : Loop} {received : List UInt8} {now : ℤ}
    {pktsRx : List Packet} {done : List Apps.Output}
    (hreceive : receive overread settings loop received now = some (next, pktsRx, done)) :
    Threads.sent (done.map .main) = [] ∧ collected (done.map .main) = [] ∧
      sends (done.map .main) = 0 ∧
      (MainAt.publishing pktsRx (pktsRx.flatMap Packet.messages)).credit =
        decodes (done.map .main) := by
  obtain ⟨result, -, hresult⟩ := Option.map_eq_some_iff.mp hreceive
  cases hresult
  by_cases nothing : result.1 = []
  · rw [MainAt.credit, if_pos nothing, if_pos nothing]
    split <;> split <;> exact ⟨rfl, rfl, rfl, rfl⟩
  · rw [MainAt.credit, if_neg nothing, if_neg nothing]
    split <;> split <;> exact ⟨rfl, rfl, rfl, rfl⟩

theorem Sending.collect {state next : State} {outs : List Output} {pktsRx pktsTx : List Packet}
    (sending : Sending config state outs) (place : state.main = .publishing pktsRx [])
    (sends : config.readOnly = false ∧ pktsRx ≠ []) (done : next.main = .checking) :
    Sending config next (outs ++ .hass .getNasaPackets [.packets pktsTx] :: write pktsTx) := by
  obtain ⟨writable, some⟩ := sends
  have credit := sending.credit
  rw [place, MainAt.credit, if_neg some] at credit
  have packets : collected (.hass .getNasaPackets [.packets pktsTx] :: write pktsTx) =
      pktsTx := by
    rw [collected, List.flatMap_cons, flatMap_write pktsTx fun _ => rfl]
    simp [hassOutputs, Bridge.collected]
  have bytes : Threads.sent (.hass .getNasaPackets [.packets pktsTx] :: write pktsTx) =
      NasaProtocol.encode pktsTx := by
    unfold write
    split
    · rename_i empty
      rw [empty]
      rfl
    · simp [Threads.sent]
  refine ⟨?_, fun readOnly => ?_, ?_⟩
  · rw [Threads.sent, List.flatMap_append, ← Threads.sent, ← Threads.sent, bytes,
      collected_append, packets, sending.sent, NasaProtocol.encode, NasaProtocol.encode,
      NasaProtocol.encode, List.flatMap_append]
  · cases readOnly.symm.trans writable
  · rw [done]
    simp only [Threads.sends, decodes, List.countP_append, MainAt.credit] at credit ⊢
    unfold write
    split <;> simp <;> omega

theorem Sending.step {state next : State} {event : Event} {outs new : List Output}
    (sending : Sending config state outs)
    (hstep : (machine overread config).step state event = some (next, new)) :
    Sending config next (outs ++ new) := by
  cases change_of_step hstep with
  | client => exact sending.quiet ⟨rfl, rfl, rfl⟩ (Nat.le_add_right _ _)
  | fetch _ _ hreceive =>
      obtain ⟨noBytes, noPackets, noSends, credit⟩ := decodes_fetch hreceive
      refine sending.quiet ⟨noBytes, noPackets, noSends⟩ ?_
      exact credit.le.trans (Nat.le_add_left _ _)
  | publish place =>
      refine sending.quiet ⟨rfl, ?_, rfl⟩ ?_
      · rw [collected, List.flatMap_singleton, hassOutputs, Bridge.HassBridge.publishToHass]
        split <;> rfl
      · rw [place]
        exact Nat.le_add_right _ _
  | collect _ place sends => exact sending.collect place sends rfl
  | skip => exact sending.quiet ⟨rfl, rfl, rfl⟩ (Nat.zero_le _)
  | check _ decided =>
      refine sending.quiet ⟨rfl, rfl, rfl⟩ ?_
      rcases decided with ⟨rfl, -⟩ | rfl <;> exact Nat.zero_le _
  | force => exact sending.quiet ⟨rfl, rfl, rfl⟩ (Nat.zero_le _)
  | messageArrived | getData | handle => exact sending.quiet ⟨rfl, rfl, rfl⟩ (Nat.le_add_right _ _)

def forced (outs : List Output) : Nat :=
  outs.countP fun
    | .main .forceReconnect => true
    | _ => false

theorem forced_append (first second : List Output) :
    forced (first ++ second) = forced first + forced second := List.countP_append

def opened (outs : List Output) : Nat :=
  (outs.flatMap clientOutputs).count (.connecting true)

/-- A reconnect is forced on an open connection only. -/
structure Forcing (state : State) (outs : List Output) : Prop where
  connecting : state.client.thread = .connecting → state.client.connected = false
  connected : state.main = .forcing → state.client.connected = true
  count : (outs.flatMap clientOutputs).count .reconnect = forced outs

/-- A step of the client's thread neither forces a reconnect nor ends a connection. -/
theorem thread_step {client next : TcpClient} {called : TcpClient.Event}
    {results : List TcpClient.Output} (thread : ofThread called = true)
    (connecting : client.thread = .connecting → client.connected = false)
    (hclient : TcpClient.step client called = some (next, results)) :
    (next.thread = .connecting → next.connected = false) ∧
      (client.connected = true → next.connected = true) ∧ results.count .reconnect = 0 := by
  rcases TcpClient.step_cases hclient with ⟨result, rfl, place, rfl, rfl⟩ |
    ⟨rfl, place, rfl, rfl⟩ | ⟨nRead, buffer, rfl, place, rfl, rfl⟩ |
    ⟨data, rfl, place, rfl, rfl⟩ | ⟨rfl, -, -⟩ | ⟨rfl, -, -⟩
  · refine ⟨nofun, fun opened => ?_, rfl⟩
    cases opened.symm.trans (connecting place)
  · refine ⟨fun again => ?_, id, rfl⟩
    cases closed : client.connected with
    | false => rfl
    | true =>
        rw [closed] at again
        cases again
  · refine ⟨fun again => ?_, id, rfl⟩
    split at again <;> cases again
  · exact ⟨nofun, id, rfl⟩
  · cases thread
  · cases thread

/-- Outputs that say nothing about the connection, and a main loop that does not force. -/
theorem Forcing.quiet {state next : State} {outs new : List Output}
    (forcing : Forcing state outs) (connected : next.client.connected = state.client.connected)
    (thread : next.client.thread = state.client.thread)
    (main : next.main = .forcing → state.main = .forcing ∨ state.client.connected = true)
    (none : (new.flatMap clientOutputs).count .reconnect = 0 ∧ forced new = 0) :
    Forcing next (outs ++ new) := by
  refine ⟨fun connecting => ?_, fun force => ?_, ?_⟩
  · rw [connected]
    exact forcing.connecting (thread ▸ connecting)
  · rw [connected]
    exact (main force).elim forcing.connected id
  · rw [List.flatMap_append, List.count_append, forcing.count, none.1, forced_append, none.2]

theorem Forcing.step {state next : State} {event : Event} {outs new : List Output}
    (forcing : Forcing state outs)
    (hstep : (machine overread config).step state event = some (next, new)) :
    Forcing next (outs ++ new) := by
  cases change_of_step hstep with
  | client thread hclient =>
      obtain ⟨connecting, connected, count⟩ := thread_step thread forcing.connecting hclient
      refine ⟨connecting, fun force => connected (forcing.connected force), ?_⟩
      rw [List.flatMap_append, List.count_append, forcing.count, forced_append,
        List.flatMap_singleton]
      exact congrArg (forced outs + ·) count
  | fetch done _ hreceive =>
      refine forcing.quiet rfl rfl nofun ⟨?_, ?_⟩
      · rw [List.flatMap_cons, flatMap_main done fun _ => rfl]
        rfl
      · obtain ⟨result, -, hresult⟩ := Option.map_eq_some_iff.mp hreceive
        cases hresult
        split <;> split <;> split <;> rfl
  | publish => exact forcing.quiet rfl rfl nofun ⟨rfl, rfl⟩
  | collect =>
      refine forcing.quiet rfl rfl nofun ?_
      unfold write
      split <;> exact ⟨rfl, rfl⟩
  | skip => exact forcing.quiet rfl rfl nofun ⟨rfl, rfl⟩
  | check _ decided =>
      refine forcing.quiet rfl rfl (fun force => .inr ?_) ⟨rfl, rfl⟩
      rcases decided with ⟨-, connected⟩ | rfl
      · exact connected
      · cases force
  | force place =>
      refine ⟨fun _ => rfl, nofun, ?_⟩
      rw [List.flatMap_append, List.count_append, forcing.count, forced_append,
        forcing.connected place]
      rfl
  | messageArrived | getData | handle => exact forcing.quiet rfl rfl .inl ⟨rfl, rfl⟩

/-- Every reconnect the watchdog decides on ends an open connection, however the threads take
turns between its look at `connected_` and the call, and no other connection ends: the client
opens one connection more than there were forced reconnects, or as many if it has none. -/
theorem connections_match
    (hrun : (machine overread config).run (start hass now) events = some (last, outs)) :
    (outs.flatMap clientOutputs).count .reconnect = forced outs ∧
      opened outs = forced outs + last.client.connected.toNat := by
  have beginning : Forcing (start hass now) [] := ⟨fun _ => rfl, (nomatch ·), rfl⟩
  have forcing := (machine overread config).run_history (fun _ => Forcing) Forcing.step
    beginning hrun
  refine ⟨forcing.count, ?_⟩
  rw [← forcing.count]
  exact (TcpClient.disciplined_run (client_run hrun)).count

/-- A reconnect after 31 s of silence, while the thread of the client reads. -/
theorem connections_match_silence :
    ∃ last outs, (machine (fun _ => .error .crcError) ⟨{}, false, {}⟩).run
        (start { sa := ⟨.jigTester, 0, 0⟩ } 0)
        [.client (.connect2server true), .client .check, .fetch 31000000000, .collect,
          .check 31000000000, .client (.recv 0 []), .force 31000000000, .client .check,
          .client (.connect2server true)] = some (last, outs) ∧
      opened outs = forced outs + last.client.connected.toNat := by
  obtain ⟨⟨last, outs⟩, hrun⟩ := Option.isSome_iff_exists.mp
    (show ((machine (fun _ => .error .crcError) ⟨{}, false, {}⟩).run
      (start { sa := ⟨.jigTester, 0, 0⟩ } 0)
      [.client (.connect2server true), .client .check, .fetch 31000000000, .collect,
        .check 31000000000, .client (.recv 0 []), .force 31000000000, .client .check,
        .client (.connect2server true)]).isSome = true by decide +kernel)
  exact ⟨last, outs, hrun, (connections_match hrun).2⟩

end NasaCpp.Apps.TcpHassBridge.Threads
