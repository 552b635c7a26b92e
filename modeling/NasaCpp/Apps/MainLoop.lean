import NasaCpp.Bridge.HassBridge
import NasaCpp.Protocol.Remainder

/-!
# The main loops of the applications

`tcp_nasa_logger` and `tcp_hass_bridge` repeat one round for ever: clear a buffer beyond
its limit, append what the TCP client has received, decode it, handle the packets and
look at the connection.  The two differ in what they do with the packets.
-/

namespace NasaCpp.Apps

open General Protocol

/-! ## Receiving -/

structure Settings where
  timeout : Int32 := 30
  bufferLimit : Int32 := 10000
  deriving DecidableEq, Repr

/-- `buffer_limit` in the comparison with `buffer.size()`, which converts it to `size_t`. -/
def Settings.limit (settings : Settings) : Nat := settings.bufferLimit.toInt64.toUInt64.toNat

/-- The local variables of `main` that a round changes; times are nanoseconds. -/
structure Loop where
  buffer : List UInt8 := []
  tpLastData : ℤ
  deriving DecidableEq, Repr

/-- What a round finds: the bytes received since the last one, whether the client is connected,
and the clock behind `getRecvData`, in the check of the timeout and behind `forceReconnect`. -/
structure Input where
  received : List UInt8
  recvAt : ℤ
  connected : Bool
  checkAt : ℤ
  forceAt : ℤ
  deriving DecidableEq, Repr

inductive Output where
  | clearBuffer
  | recv (count : Nat)
  | decode (pkts : List Packet)
  | hass (out : Bridge.Output)
  | send (data : List UInt8)
  | forceReconnect
  deriving DecidableEq, Repr

def receive (overread : Overread) (settings : Settings) (loop : Loop) (received : List UInt8)
    (now : ℤ) : Option (Loop × List Packet × List Output) :=
  let full := settings.limit < loop.buffer.length
  let buffer := (if full then [] else loop.buffer) ++ received
  (NasaProtocol.decodeWith overread buffer).map fun result =>
    ({ buffer := result.2
       tpLastData := if received = [] then loop.tpLastData else now },
      result.1,
      (if full then [.clearBuffer] else []) ++
        (if received = [] then [] else [.recv received.length]) ++
        if result.1 = [] then [] else [.decode result.1])

/-- The end of a round: a silent connection is opened again. -/
def checkTimeout (settings : Settings) (loop : Loop) (input : Input) : Loop × List Output :=
  if settings.timeout.toInt < (input.checkAt - loop.tpLastData).tdiv 1000000000 ∧
      input.connected = true then
    ({ loop with tpLastData := input.forceAt }, [.forceReconnect])
  else (loop, [])

/-! ## The logger -/

namespace TcpNasaLogger

def step (overread : Overread) (settings : Settings) (loop : Loop) (input : Input) :
    Option (Loop × List Output) :=
  (receive overread settings loop input.received input.recvAt).map fun (loop, _, outs) =>
    let (loop, later) := checkTimeout settings loop input
    (loop, outs ++ later)

def machine (overread : Overread) (settings : Settings) : Machine Loop Input Output :=
  ⟨step overread settings⟩

end TcpNasaLogger

/-! ## The bridge -/

namespace TcpHassBridge

structure Config extends Settings where
  readOnly : Bool
  handlers : Handler.Config
  deriving DecidableEq, Repr

structure State extends Loop where
  hass : Bridge.HassBridge

/-- A round of the main loop, or an MQTT command that the loop of the bridge handles. -/
inductive Event where
  | round (input : Input)
  | command (topic payload : String)
  deriving DecidableEq, Repr

def publish (hass : Bridge.HassBridge) (msgs : List MessageSet) :
    Bridge.HassBridge × List Output :=
  msgs.foldl (fun state msg =>
    let (hass, outs) := state.1.publishToHass msg
    (hass, state.2 ++ outs.map .hass)) (hass, [])

/-- The packets to send are collected only in a round that has received some. -/
def transmit (config : Config) (hass : Bridge.HassBridge) (pktsRx : List Packet) :
    Bridge.HassBridge × List Output :=
  if config.readOnly = false ∧ pktsRx ≠ [] then
    let (hass, pktsTx) := hass.getNasaPackets config.handlers
    (hass, if pktsTx = [] then [] else [.send (NasaProtocol.encode pktsTx)])
  else (hass, [])

def round (overread : Overread) (config : Config) (state : State) (input : Input) :
    Option (State × List Output) :=
  (receive overread config.toSettings state.toLoop input.received input.recvAt).map
      fun (loop, pktsRx, outs) =>
    let (hass, published) := publish state.hass (pktsRx.flatMap Packet.messages)
    let (hass, sent) := transmit config hass pktsRx
    let (loop, later) := checkTimeout config.toSettings loop input
    ({ toLoop := loop, hass }, outs ++ published ++ sent ++ later)

def step (overread : Overread) (config : Config) (state : State) :
    Event → Option (State × List Output)
  | .round input => round overread config state input
  | .command topic payload =>
      (state.hass.handleCommand topic payload).toOption.map fun hass => ({ state with hass }, [])

def machine (overread : Overread) (config : Config) : Machine State Event Output :=
  ⟨step overread config⟩

end TcpHassBridge

/-! ## The limit -/

/-- A buffer as a round leaves it. -/
def Loop.Bounded (loop : Loop) : Prop := loop.buffer.length ≤ 1501

theorem Settings.le_limit {settings : Settings} (large : 1501 ≤ settings.bufferLimit.toInt) :
    1501 ≤ settings.limit := by
  have nonneg : (0 : Int64) ≤ settings.bufferLimit.toInt64 := by
    rw [Int64.le_iff_toInt_le, Int32.toInt_toInt64, Int64.toInt_zero]
    omega
  rw [Settings.limit, Int64.toNat_toUInt64_of_le nonneg]
  change 1501 ≤ settings.bufferLimit.toInt64.toInt.toNat
  rw [Int32.toInt_toInt64]
  omega

/-- A round that starts with a bounded buffer does not clear it and leaves a bounded one. -/
theorem receive_bounded {overread : Overread} {settings : Settings} {loop next : Loop}
    {received : List UInt8} {now : ℤ} {pkts : List Packet} {outs : List Output}
    (large : 1501 ≤ settings.limit) (bounded : loop.Bounded)
    (hreceive : receive overread settings loop received now = some (next, pkts, outs)) :
    next.Bounded ∧ .clearBuffer ∉ outs := by
  have room : ¬ settings.limit < loop.buffer.length := not_lt.mpr (bounded.trans large)
  unfold receive at hreceive
  obtain ⟨⟨decoded, rest⟩, hdecode, hresult⟩ := Option.map_eq_some_iff.mp hreceive
  obtain ⟨_, _, hrest, -, remainder⟩ := NasaProtocol.decodeWith_remainder overread
    ((if settings.limit < loop.buffer.length then [] else loop.buffer) ++ received)
  cases hrest.symm.trans hdecode
  rw [if_neg room, Prod.mk.injEq, Prod.mk.injEq] at hresult
  obtain ⟨rfl, rfl, rfl⟩ := hresult
  refine ⟨remainder.short, ?_⟩
  split <;> split <;> simp

/-- A round receives whatever comes in. -/
theorem exists_receive (overread : Overread) (settings : Settings) (loop : Loop)
    (received : List UInt8) (now : ℤ) :
    ∃ next pkts outs, receive overread settings loop received now = some (next, pkts, outs) := by
  obtain ⟨pkts, rest, hrest, -⟩ := NasaProtocol.decodeWith_remainder overread
    ((if settings.limit < loop.buffer.length then [] else loop.buffer) ++ received)
  unfold receive
  exact ⟨_, _, _, Option.map_eq_some_iff.mpr ⟨(pkts, rest), hrest, rfl⟩⟩

theorem checkTimeout_bounded (settings : Settings) {loop : Loop} (input : Input)
    (bounded : loop.Bounded) :
    (checkTimeout settings loop input).1.Bounded ∧
      .clearBuffer ∉ (checkTimeout settings loop input).2 := by
  unfold checkTimeout
  split
  · exact ⟨bounded, by simp⟩
  · exact ⟨bounded, List.not_mem_nil⟩

end NasaCpp.Apps
