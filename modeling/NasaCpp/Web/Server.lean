import NasaCpp.Web.Discovery
import NasaCpp.Web.Retention
import NasaCpp.Web.SessionFeed

/-!
# The server over its life

The process of `nasa_web` on one database file: the callbacks of the MQTT client, the loops
that flush and purge, the commands of the interface and restarts of the process.  The
client opens a clean session each time it connects, so what the broker has subscribed it to
is what it has asked for since.  `subscribe` raises on a topic it does not accept, which ends
the callback; the statements of `save_entity` and `delete_entity` do not raise.
-/

namespace NasaCpp.Web

open General

/-- `Settings`, as far as the process depends on them.  `str` is the text Python prints for a
float, and `accepts` tells the topics that `subscribe` of the client accepts. -/
structure Settings where
  setup : Setup
  heartbeatSeconds : ℤ := 300
  minIntervalSeconds : ℤ := 30
  retentionDays : ℤ := 365
  readOnly : Bool := false
  str : ℚ → String
  accepts : String → Bool

/-- The settings by default, for values that are never turned into a text; the empty topic is
not accepted. -/
def Setup.settings (setup : Setup) : Settings where
  setup := setup
  str _ := ""
  accepts topic := topic ≠ ""

structure Server where
  bridge : MqttBridge
  subscriptions : List String := []

namespace Server

inductive Event where
  | connect (isFailure : Bool)
  | disconnect
  | message (topic payload : String) (now : ℚ)
  | flush (fault : Option Fault)
  | purge (now : ℚ)
  /-- a request to `api_command`; `sent` is the return code of `publish` -/
  | command (entityId : String) (value : Value) (sent : Bool)
  /-- a restart, on which SQLite returns the entities in the order of the ids -/
  | restart (order : List String)
  deriving DecidableEq, Repr

inductive Answer where
  | ok (payload : String)
  | error (code : ℕ)
  deriving DecidableEq, Repr

inductive Output where
  | effect (effect : Effect)
  | flushed (count : Option ℕ)
  | purged (removed : ℕ)
  | publish (topic payload : String)
  | answer (answer : Answer)
  deriving DecidableEq, Repr

def topics (effects : List Effect) : List String :=
  effects.filterMap fun
    | .subscribe topic => some topic
    | .emit _ => none

/-- The effects of a callback up to the call of `subscribe` that raises, if one does. -/
def performed (accepts : String → Bool) (effects : List Effect) : List Effect :=
  effects.takeWhile fun
    | .subscribe topic => accepts topic
    | .emit _ => true

def boot (settings : Settings) (file : Database) (order : List String) : Server where
  bridge := {
    registry := restoreEntities
      (order.filterMap fun entityId => file.entities[entityId]?.map fun row => (entityId, row))
    storage := .init file settings.heartbeatSeconds settings.minIntervalSeconds }

/-- `send_command` under the handlers of `api_command`, which do not catch a `TypeError`. -/
def sendCommand (settings : Settings) (entity : Entity) (value : Value) (sent : Bool) :
    List Output :=
  match entity.commandTopic with
  | none => [.answer (.error 400)]
  | some topic =>
      match entity.buildCommand settings.str value with
      | none =>
          [.answer (.error (if entity.kind = .numeric ∧ value.mistyped then 500 else 400))]
      | some payload =>
          [.publish topic payload, .answer (if sent then .ok payload else .error 503)]

def apiCommand (settings : Settings) (bridge : MqttBridge) (entityId : String) (value : Value)
    (sent : Bool) : List Output :=
  if settings.readOnly then [.answer (.error 403)]
  else
    match bridge.registry.get entityId with
    | none => [.answer (.error 404)]
    | some live =>
        if bridge.connected = false then [.answer (.error 503)]
        else sendCommand settings live.entity value sent

def step (settings : Settings) (server : Server) : Event → Option (Server × List Output)
  | .connect isFailure =>
      if isFailure then some (server, [])
      else
        let (bridge, effects) := server.bridge.onConnect settings.setup
        let effects := performed settings.accepts effects
        some ({ bridge, subscriptions := topics effects }, effects.map .effect)
  | .disconnect =>
      let (bridge, effects) := server.bridge.onDisconnect
      some ({ bridge }, effects.map .effect)
  | .message topic payload now =>
      let (bridge, effects) := server.bridge.onMessage settings.setup topic payload now
      let effects := performed settings.accepts effects
      some ({ bridge, subscriptions := server.subscriptions ++ topics effects },
        effects.map .effect)
  | .flush fault =>
      let (storage, count) := server.bridge.storage.flush fault
      some ({ server with bridge := { server.bridge with storage } }, [.flushed count])
  | .purge now =>
      let (storage, removed) := server.bridge.storage.purge settings.retentionDays now
      some ({ server with bridge := { server.bridge with storage } }, [.purged removed])
  | .command entityId value sent =>
      some (server, apiCommand settings server.bridge entityId value sent)
  | .restart order =>
      if order.Perm server.bridge.storage.close.entities.keys then
        some (boot settings server.bridge.storage.close order, [])
      else none

def machine (settings : Settings) : Machine Server Event Output := ⟨step settings⟩

end Server

/-- What a config message decides: the object id, and the platform, the configuration and the
entity that is announced under it, or that there is none any more. -/
def Setup.decision (setup : Setup) (topic payload : String) :
    Option (String × Option (String × EntityConfig × Entity)) :=
  if setup.IsConfigTopic topic then
    match levels topic with
    | [_, platform, objectId, _] =>
        if Blank payload then some (objectId, none)
        else
          (setup.discovered platform objectId payload).map fun found =>
            (objectId, some (platform, found))
    | _ => none
  else none

namespace MqttBridge

/-- What a message does: nothing, it withdraws an entity, announces one or tells its state. -/
inductive Reaction (setup : Setup) (bridge : MqttBridge) (topic payload : String) (now : ℚ) :
    MqttBridge × List Effect → Prop where
  | ignored (silent : setup.decision topic payload = none) :
      Reaction setup bridge topic payload now (bridge, [])
  | absent {objectId : String} (decided : setup.decision topic payload = some (objectId, none))
      (unregistered : bridge.registry.get objectId = none) :
      Reaction setup bridge topic payload now (bridge, [])
  | withdrawn {objectId : String}
      (decided : setup.decision topic payload = some (objectId, none)) :
      Reaction setup bridge topic payload now
        ({ bridge with
            registry := bridge.registry.remove objectId
            storage := bridge.storage.deleteEntity objectId }, [.emit .entities])
  | announced {platform objectId : String} {cfg : EntityConfig} {entity : Entity}
      (decided : setup.decision topic payload = some (objectId, some (platform, cfg, entity)))
      (built : cfg.entity objectId platform = some entity) :
      Reaction setup bridge topic payload now
        ({ bridge with
            registry := bridge.registry.upsert entity
            storage := bridge.storage.saveEntity objectId platform cfg },
          [.subscribe entity.stateTopic, .emit .entities])
  | told {ref : ℕ} {live : LiveEntity} {value : Option PyFloat} {text : Option String}
      (silent : setup.decision topic payload = none)
      (href : bridge.registry.byTopic[topic]? = some ref)
      (hlive : bridge.registry.objects[ref]? = some live)
      (parsed : setup.parseState live.entity payload = some (value, text)) :
      Reaction setup bridge topic payload now
        ({ bridge with
            lastMessage := some now
            registry := bridge.registry.updateState ref value text now
            storage := (bridge.storage.record live.entity.id value text now).1 },
          [.emit (.state live.entity.id value text now)])

theorem decision_of_levels {setup : Setup} {topic first platform objectId last : String}
    (config : setup.IsConfigTopic topic) (parts : levels topic = [first, platform, objectId, last])
    (payload : String) :
    setup.decision topic payload =
      if Blank payload then some (objectId, none)
      else (setup.discovered platform objectId payload).map fun found =>
        (objectId, some (platform, found)) := by
  rw [Setup.decision, if_pos config, parts]

theorem reaction_handleDiscovery {setup : Setup} (bridge : MqttBridge) {topic : String}
    (config : setup.IsConfigTopic topic) (payload : String) (now : ℚ) :
    Reaction setup bridge topic payload now (bridge.handleDiscovery setup topic payload) := by
  unfold handleDiscovery
  split
  · rename_i parts
    have decision := decision_of_levels config parts payload
    split
    · rename_i blank
      rw [if_pos blank] at decision
      split
      · exact .withdrawn decision
      · rename_i unregistered
        exact .absent decision (Option.not_isSome_iff_eq_none.mp unregistered)
    · rename_i filled
      rw [if_neg filled] at decision
      split
      · rename_i refused
        rw [refused] at decision
        exact .ignored decision
      · rename_i found
        rw [found] at decision
        exact .announced decision (entity_of_discovered found)
  · rename_i other
    refine .ignored ?_
    rw [Setup.decision, if_pos config]
    split
    · rename_i parts
      exact absurd parts (other _ _ _ _)
    · rfl

theorem reaction_handleState {setup : Setup} {bridge : MqttBridge} {topic payload : String}
    {ref : ℕ} {live : LiveEntity} (silent : setup.decision topic payload = none)
    (href : bridge.registry.byTopic[topic]? = some ref)
    (hlive : bridge.registry.objects[ref]? = some live) (now : ℚ) :
    Reaction setup bridge topic payload now
      (bridge.handleState setup ref live.entity payload now) := by
  unfold handleState
  split
  · exact .ignored silent
  · exact .ignored silent
  · rename_i parsed
    exact .told silent href hlive parsed

theorem reaction_onMessage (setup : Setup) (bridge : MqttBridge) (topic payload : String)
    (now : ℚ) :
    Reaction setup bridge topic payload now (bridge.onMessage setup topic payload now) := by
  unfold onMessage
  split
  · rename_i config
    exact bridge.reaction_handleDiscovery config payload now
  · rename_i plain
    have silent : setup.decision topic payload = none := if_neg plain
    split
    · exact .ignored silent
    · rename_i href
      split
      · exact .ignored silent
      · rename_i hlive
        exact reaction_handleState silent href hlive now

end MqttBridge

end NasaCpp.Web
