import NasaCpp.Web.Registry
import NasaCpp.Web.Storage

/-!
# The MQTT side of the web client

`MqttBridge` of `nasa_web/mqtt_bridge.py` turns the messages of the broker into changes of
the registry and the database and into events for its listeners.  An exception ends the
handling of a message, so one before the first change leaves everything as it was.
`client.subscribe` and the statements of `save_entity` and `delete_entity` are assumed not to
raise; `Server` follows what a refused subscription leaves undone.
-/

namespace NasaCpp.Web

open General

/-- The settings, and the two readers of payloads: `json.loads` with the keys that are
read of the result, and `Entity.parse_state`.  `none` is an exception. -/
structure Setup where
  discoveryPrefix : String := "homeassistant"
  deviceId : String := "samsung_nasa_cpp"
  loads : String → Option EntityConfig
  parseState : Entity → String → Option (Option PyFloat × Option String)

/-- `parse_state` where all numbers are finite. -/
def Entity.readState (entity : Entity) (payload : String) :
    Option (Option PyFloat × Option String) :=
  some ((entity.parseState payload).1.map .finite, (entity.parseState payload).2)

inductive HubEvent where
  | status (mqtt : Bool)
  | entities
  | state (id : String) (value : Option PyFloat) (text : Option String) (ts : ℚ)
  deriving DecidableEq, Repr

inductive Effect where
  | subscribe (topic : String)
  | emit (event : HubEvent)
  deriving DecidableEq, Repr

structure MqttBridge where
  registry : Registry := {}
  storage : Storage
  connected : Bool := false
  lastMessage : Option ℚ := none

/-- `topic.split("/")`. -/
def levels (topic : String) : List String := (topic.toList.splitOn '/').map String.ofList

/-- `not payload.strip()`. -/
def Blank (payload : String) : Prop := strip payload.toList = []

instance (payload : String) : Decidable (Blank payload) :=
  inferInstanceAs (Decidable (_ = _))

def EntityConfig.identifierList (cfg : EntityConfig) : List String :=
  match cfg.identifiers with
  | none => []
  | some (.one identifier) => [identifier]
  | some (.many identifiers) => identifiers

namespace Setup

/-- The configuration in a payload that is accepted, and its entity. -/
def discovered (setup : Setup) (platform objectId payload : String) :
    Option (EntityConfig × Entity) := do
  let cfg ← setup.loads payload
  guard (setup.deviceId = "" ∨ setup.deviceId ∈ cfg.identifierList)
  let entity ← cfg.entity objectId platform
  return (cfg, entity)

def IsConfigTopic (setup : Setup) (topic : String) : Prop :=
  "/config".toList <:+ topic.toList ∧ (setup.discoveryPrefix ++ "/").toList <+: topic.toList

instance (setup : Setup) (topic : String) : Decidable (setup.IsConfigTopic topic) :=
  inferInstanceAs (Decidable (_ ∧ _))

end Setup

namespace MqttBridge

def handleDiscovery (setup : Setup) (bridge : MqttBridge) (topic payload : String) :
    MqttBridge × List Effect :=
  match levels topic with
  | [_, platform, objectId, _] =>
      if Blank payload then
        if (bridge.registry.get objectId).isSome then
          ({ bridge with
              registry := bridge.registry.remove objectId
              storage := bridge.storage.deleteEntity objectId },
            [.emit .entities])
        else (bridge, [])
      else
        match setup.discovered platform objectId payload with
        | none => (bridge, [])
        | some (cfg, entity) =>
            ({ bridge with
                registry := bridge.registry.upsert entity
                storage := bridge.storage.saveEntity objectId platform cfg },
              [.subscribe entity.stateTopic, .emit .entities])
  | _ => (bridge, [])

/-- `_handle_state` of the object behind a reference; one reading of the clock stands for
the two. -/
def handleState (setup : Setup) (bridge : MqttBridge) (ref : Nat) (entity : Entity)
    (payload : String) (now : ℚ) : MqttBridge × List Effect :=
  match setup.parseState entity payload with
  | none => (bridge, [])
  | some (none, none) => (bridge, [])
  | some (value, text) =>
      ({ bridge with
          lastMessage := some now
          registry := bridge.registry.updateState ref value text now
          storage := (bridge.storage.record entity.id value text now).1 },
        [.emit (.state entity.id value text now)])

def onMessage (setup : Setup) (bridge : MqttBridge) (topic payload : String) (now : ℚ) :
    MqttBridge × List Effect :=
  if setup.IsConfigTopic topic then bridge.handleDiscovery setup topic payload
  else
    match bridge.registry.byTopic[topic]? with
    | none => (bridge, [])
    | some ref =>
        match bridge.registry.objects[ref]? with
        | none => (bridge, [])
        | some live => bridge.handleState setup ref live.entity payload now

theorem sound_handleDiscovery {setup : Setup} {bridge : MqttBridge}
    (sound : bridge.registry.Sound) (topic payload : String) :
    (bridge.handleDiscovery setup topic payload).1.registry.Sound := by
  unfold handleDiscovery
  split
  · split
    · split
      · exact sound.remove _
      · exact sound
    · split
      · exact sound
      · exact sound.upsert _
  · exact sound

theorem sound_onMessage (setup : Setup) {bridge : MqttBridge} (sound : bridge.registry.Sound)
    (topic payload : String) (now : ℚ) :
    (bridge.onMessage setup topic payload now).1.registry.Sound := by
  unfold onMessage
  split
  · exact sound_handleDiscovery sound topic payload
  · split
    · exact sound
    · split
      · exact sound
      · unfold handleState
        split
        · exact sound
        · exact sound
        · exact sound.setState _ _ _ _

def onConnect (setup : Setup) (bridge : MqttBridge) : MqttBridge × List Effect :=
  ({ bridge with connected := true },
    ((setup.discoveryPrefix ++ "/+/+/config") ::
        bridge.registry.all.map fun live => live.entity.stateTopic).map .subscribe ++
      [.emit (.status true)])

def onDisconnect (bridge : MqttBridge) : MqttBridge × List Effect :=
  ({ bridge with connected := false }, [.emit (.status false)])

end MqttBridge

def configText : String :=
  "\x7b\"device\": \x7b\"identifiers\": \"samsung_nasa_cpp\"\x7d, \"state_topic\": \"t\"\x7d"

def oneConfig : Setup where
  loads payload :=
    if payload = configText then
      some { identifiers := some (.one "samsung_nasa_cpp"), stateTopic := some "t" }
    else none
  parseState := Entity.readState

end NasaCpp.Web
