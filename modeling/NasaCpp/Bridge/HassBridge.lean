import NasaCpp.Bridge.MqttHandler

/-!
# The Home Assistant bridge

`NasaHassBridge` registers a handler for every entry of its message lists, hands
received values and MQTT commands to them and collects their packets.  The two maps
share the handlers: `topic_handler_` is modelled by the message number of the handler
it points to.  Every event is one critical section under `mtx_handler_`; an exception
that leaves it ends the program.
-/

namespace NasaCpp.Bridge

open General Handler Protocol

structure MsgCfg where
  name : String
  messageNumber : String
  hass : HassCfg
  deriving DecidableEq, Repr

inductive MsgList where
  | read
  | request
  | write
  deriving DecidableEq, Repr

/-- The data type `loadMsgListRead`, `loadMsgListRequest` and `loadMsgListWrite` pass on. -/
def MsgList.dataType : MsgList → DataType
  | .read => .read
  | .request => .request
  | .write => .write

/-- The configuration message of an entity, as far as the web client reads it. -/
structure Discovery where
  name : String
  stateTopic : String
  commandTopic : Option String
  deviceClass : Option String
  options : Option Options
  min : Option ℚ
  max : Option ℚ
  valueTemplate : Option String
  commandTemplate : Option String
  deriving DecidableEq, Repr

inductive Output where
  | announce (topic : String) (payload : Discovery)
  | subscribe (topic : String)
  | publish (topic payload : String) (retained : Bool)
  | packets (pkts : List Packet)
  deriving DecidableEq, Repr

structure HassBridge where
  sa : Address
  msgnrHandler : Std.TreeMap UInt16 MqttHandler := {}
  topicHandler : Std.TreeMap String (Option UInt16) := {}
  pktCounter : UInt8 := 0

def deviceName : String := "Samsung EHS"

/-- `topic_name`: lower case, with underscores for blanks. -/
def topicName (name : String) : String :=
  ((deviceName ++ " " ++ name).map Char.toLower).map fun c => if c = ' ' then '_' else c

def topicOf (type name ending : String) : String :=
  "homeassistant/" ++ type ++ "/" ++ topicName name ++ ending

namespace HassBridge

/-- The command topic in the announcement: that of a writable type, or one the entry brings. -/
def commandTopicOf (cfg : MsgCfg) : Option String :=
  if cfg.hass.type = "switch" ∨ cfg.hass.type = "select" ∨ cfg.hass.type = "number" then
    some (topicOf cfg.hass.type cfg.name "/set")
  else cfg.hass.commandTopic

def discoveryOf (cfg : MsgCfg) (options : Option Options) : Discovery where
  name := cfg.name
  stateTopic := topicOf cfg.hass.type cfg.name "/state"
  commandTopic := commandTopicOf cfg
  deviceClass := cfg.hass.deviceClass
  options := options
  min := cfg.hass.min
  max := cfg.hass.max
  valueTemplate := cfg.hass.valueTemplate
  commandTemplate := cfg.hass.commandTemplate

/-- Both maps with a new handler under its number and its topics. -/
def register (bridge : HassBridge) (msgNr : UInt16) (handler : MqttHandler) (cfg : MsgCfg) :
    HassBridge :=
  let topicHandler := bridge.topicHandler.insert (topicOf cfg.hass.type cfg.name "/state") msgNr
  { bridge with
    msgnrHandler := bridge.msgnrHandler.insert msgNr handler
    topicHandler :=
      if (commandTopicOf cfg).isSome then
        topicHandler.insert (topicOf cfg.hass.type cfg.name "/set") msgNr
      else topicHandler }

def addMsg (bridge : HassBridge) (cfg : MsgCfg) (dataType : DataType) :
    Except StdException (HassBridge × List Output) := do
  let msgNr := (← stol cfg.messageNumber).toUInt64.toUInt16
  match createHandler cfg.hass.type (topicOf cfg.hass.type cfg.name "/state") ⟨msgNr⟩ bridge.sa
      dataType (cfg.hass.deviceClass.getD "") with
  | none => return (bridge, [])
  | some handler =>
      if bridge.msgnrHandler.contains msgNr then
        return (bridge, [])
      let (handler, options) := handler.init cfg.hass
      let subscription :=
        if (commandTopicOf cfg).isSome then
          [.subscribe (topicOf cfg.hass.type cfg.name "/set")]
        else []
      return (bridge.register msgNr handler cfg,
        .announce (topicOf cfg.hass.type cfg.name "/config") (discoveryOf cfg options) ::
          subscription)

def setHandler (bridge : HassBridge) (msgNr : UInt16) (handler : MqttHandler) : HassBridge :=
  { bridge with msgnrHandler := bridge.msgnrHandler.insert msgNr handler }

def publishToHass (bridge : HassBridge) (msg : MessageSet) : HassBridge × List Output :=
  match bridge.msgnrHandler[msg.messageNumber.code]? with
  | none => (bridge, [])
  | some handler =>
      let handler := handler.updateValue msg
      (bridge.setHandler msg.messageNumber.code handler,
        [.publish handler.topic handler.getMqttPayload
          (handler.base.dataType = .write ∨ handler.base.dataType = .request)])

def handlerOf (bridge : HassBridge) (topic : String) : Option (UInt16 × MqttHandler) := do
  let msgNr ← (← bridge.topicHandler[topic]?)
  let handler ← bridge.msgnrHandler[msgNr]?
  return (msgNr, handler)

/-- The body of the inner loop of `loop`; reading the map under an unknown topic adds an
entry without a handler. -/
def handleCommand (bridge : HassBridge) (topic payload : String) :
    Except StdException HassBridge :=
  match bridge.handlerOf topic with
  | none =>
      .ok { bridge with topicHandler := bridge.topicHandler.insertIfNew topic none }
  | some (msgNr, handler) =>
      (handler.updateValueNew payload).map fun handler =>
        bridge.setHandler msgNr handler.resetRetryCounter

def collect (config : Config) (state : HassBridge × List Packet) (entry : UInt16 × MqttHandler) :
    HassBridge × List Packet :=
  let (handler, pkts) := entry.2.getPacket config state.1.pktCounter
  ({ state.1.setHandler entry.1 handler with
      pktCounter := state.1.pktCounter + UInt8.ofNat pkts.length },
    state.2 ++ pkts)

/-- `getNasaPackets`, by ascending message number. -/
def getNasaPackets (config : Config) (bridge : HassBridge) : HassBridge × List Packet :=
  bridge.msgnrHandler.toList.foldl (collect config) (bridge, [])

end HassBridge

/-! ## Runs -/

/-- The critical sections: one entry of a message list, one received message, one MQTT
command, one collection of packets. -/
inductive Event where
  | addMsg (cfg : MsgCfg) (list : MsgList)
  | publishToHass (msg : MessageSet)
  | command (topic payload : String)
  | getNasaPackets
  deriving DecidableEq, Repr

def step (config : Config) (bridge : HassBridge) : Event → Option (HassBridge × List Output)
  | .addMsg cfg list => (bridge.addMsg cfg list.dataType).toOption
  | .publishToHass msg => some (bridge.publishToHass msg)
  | .command topic payload => (bridge.handleCommand topic payload).toOption.map (·, [])
  | .getNasaPackets =>
      let (bridge, pkts) := bridge.getNasaPackets config
      some (bridge, [.packets pkts])

def machine (config : Config) : Machine HassBridge Event Output := ⟨step config⟩

end NasaCpp.Bridge
