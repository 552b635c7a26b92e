import NasaCpp.Apps.TcpClient
import NasaCpp.Apps.Watchdog

/-!
# The threads of the bridge

`tcp_hass_bridge` runs the main loop, the thread of the TCP client, the loop of
`NasaHassBridge` and the callback of the MQTT client.  They share the bytes received, the
commands that have arrived and the handlers, each behind a mutex; every critical section
and every access to `connected_` is one step here, and the threads take them in any order.
-/

namespace NasaCpp.Apps.TcpHassBridge.Threads

open General Protocol

abbrev Command := String × String

/-- Where the main loop stands in its round. -/
inductive MainAt where
  | receiving
  | publishing (pktsRx : List Packet) (msgs : List MessageSet)
  | checking
  | forcing
  deriving DecidableEq, Repr

/-- `data` is that of the callback, `recvMsgs` what is left of `recv_msgs`. -/
structure State where
  client : TcpClient := {}
  loop : Loop
  main : MainAt := .receiving
  data : List Command := []
  recvMsgs : List Command := []
  hass : Bridge.HassBridge

inductive Event where
  /-- a step of the thread of the TCP client -/
  | client (event : TcpClient.Event)
  /-- the steps of the main loop -/
  | fetch (now : ℤ)
  | publish
  | collect
  | check (now : ℤ)
  | force (now : ℤ)
  /-- a call of the callback -/
  | messageArrived (command : Command)
  /-- the steps of the loop of `NasaHassBridge` -/
  | getData
  | handle
  deriving DecidableEq, Repr

inductive Output where
  | client (event : TcpClient.Event) (outs : List TcpClient.Output)
  | main (out : Apps.Output)
  | hass (event : Bridge.Event) (outs : List Bridge.Output)
  | mqtt (event : Mailbox.Event Command) (taken : List Command)

/-- The steps of `TcpClient::loop`; the other two are calls of the main loop. -/
def ofThread : TcpClient.Event → Bool
  | .connect2server _ | .check | .recv _ _ | .append => true
  | .getRecvData | .forceReconnect => false

def fetch (overread : Overread) (config : Config) (state : State) (now : ℤ) :
    Option (State × List Output) :=
  let (client, received) := state.client.getRecvData
  (receive overread config.toSettings state.loop received now).map
    fun (loop, pktsRx, outs) =>
      ({ state with
          client, loop, main := .publishing pktsRx (pktsRx.flatMap Packet.messages) },
        .client .getRecvData [.handedOut received] :: outs.map .main)

def write (pktsTx : List Packet) : List Output :=
  if pktsTx = [] then [] else [.main (.send (NasaProtocol.encode pktsTx))]

def collect (config : Config) (state : State) (pktsRx : List Packet) : State × List Output :=
  if config.readOnly = false ∧ pktsRx ≠ [] then
    let (hass, pktsTx) := state.hass.getNasaPackets config.handlers
    ({ state with hass, main := .checking },
      .hass .getNasaPackets [.packets pktsTx] :: write pktsTx)
  else ({ state with main := .checking }, [])

def step (overread : Overread) (config : Config) (state : State) :
    Event → Option (State × List Output)
  | .client event =>
      if ofThread event then
        (TcpClient.step state.client event).map fun (client, outs) =>
          ({ state with client }, [.client event outs])
      else none
  | .fetch now => if state.main = .receiving then fetch overread config state now else none
  | .publish =>
      match state.main with
      | .publishing pktsRx (msg :: msgs) =>
          let (hass, outs) := state.hass.publishToHass msg
          some ({ state with hass, main := .publishing pktsRx msgs },
            [.hass (.publishToHass msg) outs])
      | _ => none
  | .collect =>
      match state.main with
      | .publishing pktsRx [] => some (collect config state pktsRx)
      | _ => none
  | .check now =>
      if state.main = .checking then
        some ({ state with
          main :=
            if config.Expired state.loop.tpLastData now ∧ state.client.connected = true then
              .forcing
            else .receiving }, [])
      else none
  | .force now =>
      if state.main = .forcing then
        some ({ state with
            client := state.client.forceReconnect
            loop := { state.loop with tpLastData := now }
            main := .receiving },
          [.client .forceReconnect (if state.client.connected then [.reconnect] else []),
            .main .forceReconnect])
      else none
  | .messageArrived command =>
      some ({ state with data := state.data ++ [command] }, [.mqtt (.append [command]) []])
  | .getData =>
      if state.recvMsgs = [] then
        some ({ state with data := [], recvMsgs := state.data }, [.mqtt .takeAll state.data])
      else none
  | .handle =>
      match state.recvMsgs with
      | [] => none
      | (topic, payload) :: recvMsgs =>
          (state.hass.handleCommand topic payload).toOption.map fun hass =>
            ({ state with hass, recvMsgs }, [.hass (.command topic payload) []])

def machine (overread : Overread) (config : Config) : Machine State Event Output :=
  ⟨step overread config⟩

/-! ## What a step can do -/

inductive Change (overread : Overread) (config : Config) (state : State) :
    Event → State → List Output → Prop where
  | client {called : TcpClient.Event} {client : TcpClient} {results : List TcpClient.Output}
      (thread : ofThread called = true)
      (hclient : TcpClient.step state.client called = some (client, results)) :
      Change overread config state (.client called) { state with client }
        [.client called results]
  | fetch {now : ℤ} {loop : Loop} {pktsRx : List Packet} (done : List Apps.Output)
      (place : state.main = .receiving)
      (hreceive : receive overread config.toSettings state.loop state.client.recvData now =
        some (loop, pktsRx, done)) :
      Change overread config state (.fetch now)
        { state with
          client := { state.client with recvData := [] }
          loop := loop
          main := .publishing pktsRx (pktsRx.flatMap Packet.messages) }
        (.client .getRecvData [.handedOut state.client.recvData] :: done.map .main)
  | publish {pktsRx : List Packet} {msg : MessageSet} {msgs : List MessageSet}
      (place : state.main = .publishing pktsRx (msg :: msgs)) :
      Change overread config state .publish
        { state with
          hass := (state.hass.publishToHass msg).1, main := .publishing pktsRx msgs }
        [.hass (.publishToHass msg) (state.hass.publishToHass msg).2]
  | collect {pktsRx : List Packet} {hass : Bridge.HassBridge} (pktsTx : List Packet)
      (place : state.main = .publishing pktsRx [])
      (sends : config.readOnly = false ∧ pktsRx ≠ [])
      (hget : state.hass.getNasaPackets config.handlers = (hass, pktsTx)) :
      Change overread config state .collect { state with hass, main := .checking }
        (.hass .getNasaPackets [.packets pktsTx] :: write pktsTx)
  | skip {pktsRx : List Packet} (place : state.main = .publishing pktsRx []) :
      Change overread config state .collect { state with main := .checking } []
  | check {now : ℤ} {main : MainAt} (place : state.main = .checking)
      (decided : main = .forcing ∧ state.client.connected = true ∨ main = .receiving) :
      Change overread config state (.check now) { state with main } []
  | force {now : ℤ} (place : state.main = .forcing) :
      Change overread config state (.force now)
        { state with
          client := { state.client with connected := false }
          loop := { state.loop with tpLastData := now }
          main := .receiving }
        [.client .forceReconnect (if state.client.connected then [.reconnect] else []),
          .main .forceReconnect]
  | messageArrived {command : Command} :
      Change overread config state (.messageArrived command)
        { state with data := state.data ++ [command] } [.mqtt (.append [command]) []]
  | getData (none : state.recvMsgs = []) :
      Change overread config state .getData { state with data := [], recvMsgs := state.data }
        [.mqtt .takeAll state.data]
  | handle {recvMsgs : List Command} {hass : Bridge.HassBridge} (topic payload : String)
      (place : state.recvMsgs = (topic, payload) :: recvMsgs)
      (hcommand : state.hass.handleCommand topic payload = .ok hass) :
      Change overread config state .handle { state with hass, recvMsgs }
        [.hass (.command topic payload) []]

section Step

variable {overread : Overread} {config : Config} {state next : State} {outs : List Output}

theorem change_publish (hstep : step overread config state .publish = some (next, outs)) :
    Change overread config state .publish next outs := by
  simp only [step] at hstep
  split at hstep
  · rename_i pktsRx msg msgs place
    cases hstep
    exact .publish place
  · cases hstep

theorem change_collect (hstep : step overread config state .collect = some (next, outs)) :
    Change overread config state .collect next outs := by
  simp only [step] at hstep
  split at hstep
  · rename_i pktsRx place
    have hresult := Option.some.inj hstep
    unfold collect at hresult
    split at hresult
    · rename_i sends
      cases hget : state.hass.getNasaPackets config.handlers with
      | mk hass pktsTx =>
          rw [hget] at hresult
          cases hresult
          exact .collect pktsTx place sends hget
    · cases hresult
      exact .skip place
  · cases hstep

theorem change_handle (hstep : step overread config state .handle = some (next, outs)) :
    Change overread config state .handle next outs := by
  simp only [step] at hstep
  split at hstep
  · cases hstep
  · rename_i topic payload recvMsgs place
    obtain ⟨hass, hcommand, hresult⟩ := Option.map_eq_some_iff.mp hstep
    cases hresult
    cases hnext : state.hass.handleCommand topic payload with
    | error exception =>
        rw [hnext] at hcommand
        cases hcommand
    | ok other =>
        rw [hnext] at hcommand
        cases hcommand
        exact .handle topic payload place hnext

/-- What a step does to the parts of the state. -/
theorem change_of_step {event : Event}
    (hstep : (machine overread config).step state event = some (next, outs)) :
    Change overread config state event next outs := by
  change step overread config state event = some (next, outs) at hstep
  cases event with
  | client called =>
      obtain ⟨thread, hresult⟩ := Option.ite_none_right_eq_some.mp hstep
      obtain ⟨⟨client, results⟩, hclient, hnext⟩ := Option.map_eq_some_iff.mp hresult
      cases hnext
      exact .client thread hclient
  | fetch now =>
      obtain ⟨place, hresult⟩ := Option.ite_none_right_eq_some.mp hstep
      obtain ⟨⟨loop, pktsRx, done⟩, hreceive, hnext⟩ := Option.map_eq_some_iff.mp hresult
      cases hnext
      exact .fetch done place hreceive
  | publish => exact change_publish hstep
  | collect => exact change_collect hstep
  | check now =>
      obtain ⟨place, hresult⟩ := Option.ite_none_right_eq_some.mp hstep
      cases hresult
      refine .check place ?_
      split
      · rename_i expired
        exact .inl ⟨rfl, expired.2⟩
      · exact .inr rfl
  | force now =>
      obtain ⟨place, hresult⟩ := Option.ite_none_right_eq_some.mp hstep
      cases hresult
      exact .force place
  | messageArrived command =>
      cases hstep
      exact .messageArrived
  | getData =>
      obtain ⟨none, hresult⟩ := Option.ite_none_right_eq_some.mp hstep
      cases hresult
      exact .getData none
  | handle => exact change_handle hstep

end Step

end NasaCpp.Apps.TcpHassBridge.Threads
