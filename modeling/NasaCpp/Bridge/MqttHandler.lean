import Mathlib.Data.Rat.Defs
import NasaCpp.General.Numeral
import NasaCpp.Handler.MsgHandler

/-!
# Handlers with an MQTT side

The three handlers of `nasa_mqtt_handler.hpp` differ in how a value is written into
an MQTT payload and how a command is read from one.  An `std::unordered_map` is an
association list with the latest entry first.
-/

namespace NasaCpp.Bridge

open General Handler Protocol

/-- What `std::stoi` and `std::stol` throw. -/
inductive StdException where
  | invalidArgument
  | outOfRange
  deriving DecidableEq, Repr

/-- `std::stoi(text, nullptr, 0)`. -/
def stoi (text : String) : Except StdException Int32 :=
  match Numeral.strtol 0 text.toList with
  | none => .error .invalidArgument
  | some val =>
      if Int32.minValue.toInt ≤ val ∧ val ≤ Int32.maxValue.toInt then .ok (Int32.ofInt val)
      else .error .outOfRange

/-- `std::stol(text, nullptr, 16)`. -/
def stol (text : String) : Except StdException Int64 :=
  match Numeral.strtol 16 text.toList with
  | none => .error .invalidArgument
  | some val =>
      if Int64.minValue.toInt ≤ val ∧ val ≤ Int64.maxValue.toInt then .ok (Int64.ofInt val)
      else .error .outOfRange

/-! ## Configuration -/

/-- The object `hass` of a message list entry, with the keys the bridge or the web
client look at.  `options` is an object with a number for every name. -/
structure HassCfg where
  type : String
  deviceClass : Option String := none
  options : Option (List (String × Int32)) := none
  commandTopic : Option String := none
  min : Option ℚ := none
  max : Option ℚ := none
  valueTemplate : Option String := none
  commandTemplate : Option String := none
  deriving DecidableEq, Repr

/-- `options` in an announcement: the object itself, or the list of names that an enum
handler puts in its place. -/
inductive Options where
  | table (items : List (String × Int32))
  | names (names : List String)
  deriving DecidableEq, Repr

/-! ## Handlers -/

/-- The class of a handler with the members it adds. -/
inductive Kind where
  | numeric
  | enum (iStr : List (Int32 × String)) (strI : List (String × Int32))
  | binary
  deriving DecidableEq, Repr

structure MqttHandler where
  base : MsgHandler
  topic : String
  kind : Kind
  deriving DecidableEq, Repr

/-- The class `createHandler` chooses, with nothing in its maps. -/
def kindOf (type deviceClass : String) : Option Kind :=
  if (type = "sensor" ∨ type = "number") ∧ deviceClass ≠ "enum" then some .numeric
  else if type = "switch" ∨ type = "binary_sensor" then some .binary
  else if type = "select" ∨ deviceClass = "enum" then some (.enum [] [])
  else none

def createHandler (type topicState : String) (msgNr : MessageNumber) (sa : Address)
    (dataType : DataType) (deviceClass : String) : Option MqttHandler :=
  (kindOf type deviceClass).map fun kind =>
    { base := .create msgNr sa dataType, topic := topicState, kind }

namespace MqttHandler

def addOptions (items : List (String × Int32)) (iStr : List (Int32 × String))
    (strI : List (String × Int32)) : Kind :=
  .enum (items.foldl (fun iStr item => (item.2, item.1) :: iStr) iStr)
    (items.foldl (fun strI item => item :: strI) strI)

/-- `init`: an enum handler takes the options over and announces their names. -/
def init (handler : MqttHandler) (cfg : HassCfg) : MqttHandler × Option Options :=
  match handler.kind, cfg.options with
  | .enum iStr strI, some items =>
      ({ handler with kind := addOptions items iStr strI }, some (.names (items.map Prod.fst)))
  | _, options => (handler, options.map .table)

def getMqttPayload (handler : MqttHandler) : String :=
  match handler.kind with
  | .numeric =>
      if handler.base.valIs = intMax then "" else toString handler.base.valIs.toInt
  | .enum iStr _ => (iStr.lookup handler.base.valIs).getD ""
  | .binary => if handler.base.valIs = 0 then "OFF" else "ON"

def withValNew (handler : MqttHandler) (val : Int32) : MqttHandler :=
  { handler with base := handler.base.updateValueNew val }

def resetRetryCounter (handler : MqttHandler) : MqttHandler :=
  { handler with base := handler.base.resetRetryCounter }

def updateValueNew (handler : MqttHandler) (mqttPayload : String) :
    Except StdException MqttHandler :=
  match handler.kind with
  | .numeric =>
      if handler.base.dataType = .request ∨ handler.base.dataType = .write then
        (stoi mqttPayload).map handler.withValNew
      else .ok handler
  | .enum _ strI =>
      match strI.lookup mqttPayload with
      | none => .ok handler
      | some val => .ok (handler.withValNew val).resetRetryCounter
  | .binary =>
      .ok (handler.withValNew (if mqttPayload = "ON" then 1 else 0)).resetRetryCounter

def updateValue (handler : MqttHandler) (msg : MessageSet) : MqttHandler :=
  { handler with base := handler.base.updateValue msg }

def getPacket (config : Config) (handler : MqttHandler) (pktCounter : UInt8) :
    MqttHandler × List Packet :=
  let (base, pkts) := handler.base.getPacket config pktCounter
  ({ handler with base }, pkts)

end MqttHandler

end NasaCpp.Bridge
