import NasaCpp.General.LastEntry
import NasaCpp.Web.MqttBridge

/-!
# Discovered entities

A config topic has four levels, but the registry and the table of entities are keyed by
the third one alone, the object id.  So what is discovered under an object id is what the
last message said that came on any of its config topics, whatever their platforms.
-/

namespace NasaCpp.Web

open General

/-! ## Messages -/

structure ConfigMessage where
  topic : String
  payload : String
  deriving DecidableEq, Repr

namespace ConfigMessage

def platform (message : ConfigMessage) : String := (levels message.topic)[1]?.getD ""

def objectId (message : ConfigMessage) : String := (levels message.topic)[2]?.getD ""

/-- What the message announces: nothing if it is empty. -/
def announced (setup : Setup) (message : ConfigMessage) : Option (EntityConfig × Entity) :=
  if Blank message.payload then none
  else setup.discovered message.platform message.objectId message.payload

/-- The row of the table that the message asks for, without the state. -/
def announcedRow (setup : Setup) (message : ConfigMessage) : Option (String × EntityConfig) :=
  (message.announced setup).map fun found => (message.platform, found.1)

/-- The topic is a config topic, and the payload empty or accepted. -/
def WellFormed (setup : Setup) (message : ConfigMessage) : Prop :=
  levels message.topic =
      [setup.discoveryPrefix, message.platform, message.objectId, "config"] ∧
    (Blank message.payload ∨ (message.announced setup).isSome)

instance (setup : Setup) (message : ConfigMessage) : Decidable (message.WellFormed setup) :=
  inferInstanceAs (Decidable (_ ∧ _))

end ConfigMessage

def EntityRow.discovered (row : EntityRow) : String × EntityConfig := (row.platform, row.config)

namespace MqttBridge

def discovery (setup : Setup) : Machine MqttBridge ConfigMessage Effect where
  step bridge message := some (bridge.handleDiscovery setup message.topic message.payload)

/-- The registered entity with an id and the row with that id, both without their state. -/
def known (bridge : MqttBridge) (entityId : String) :
    Option Entity × Option (String × EntityConfig) :=
  ((bridge.registry.get entityId).map LiveEntity.entity,
    bridge.storage.db.entities[entityId]?.map EntityRow.discovered)

/-! ## One message -/

theorem id_of_entity {cfg : EntityConfig} {objectId platform : String} {entity : Entity}
    (built : cfg.entity objectId platform = some entity) : entity.id = objectId := by
  unfold EntityConfig.entity entityFromDiscovery at built
  simp only [Option.bind_eq_bind, Option.bind_eq_some_iff, Option.pure_def, Option.some.injEq]
    at built
  obtain ⟨_, _, _, _, _, _, rfl⟩ := built
  rfl

theorem entity_of_discovered {setup : Setup} {platform objectId payload : String}
    {cfg : EntityConfig} {entity : Entity}
    (found : setup.discovered platform objectId payload = some (cfg, entity)) :
    cfg.entity objectId platform = some entity := by
  unfold Setup.discovered at found
  simp only [Option.bind_eq_bind, Option.bind_eq_some_iff, Option.pure_def, Option.some.injEq,
    Prod.mk.injEq] at found
  obtain ⟨_, _, _, _, _, built, rfl, rfl⟩ := found
  exact built

theorem discovered_id {setup : Setup} {platform objectId payload : String} {cfg : EntityConfig}
    {entity : Entity} (found : setup.discovered platform objectId payload = some (cfg, entity)) :
    entity.id = objectId := id_of_entity (entity_of_discovered found)

theorem entities_saveEntity (storage : Storage) (saved platform entityId : String)
    (cfg : EntityConfig) :
    (storage.saveEntity saved platform cfg).db.entities[entityId]?.map EntityRow.discovered =
      if saved = entityId then some (platform, cfg)
      else storage.db.entities[entityId]?.map EntityRow.discovered := by
  change (storage.db.entities.insert saved _)[entityId]?.map EntityRow.discovered = _
  rw [Maps.lookup_insert]
  split
  · cases storage.db.entities[saved]? <;> rfl
  · rfl

theorem entities_deleteEntity (storage : Storage) (deleted entityId : String) :
    (storage.deleteEntity deleted).db.entities[entityId]?.map EntityRow.discovered =
      if deleted = entityId then none
      else storage.db.entities[entityId]?.map EntityRow.discovered := by
  change (storage.db.entities.erase deleted)[entityId]?.map EntityRow.discovered = _
  rw [Maps.lookup_erase]
  split <;> rfl

/-- The references of the registry are sound, and no row is without a registered entity. -/
structure InStep (bridge : MqttBridge) : Prop where
  sound : bridge.registry.Sound
  unknown : ∀ entityId, (bridge.known entityId).1 = none → (bridge.known entityId).2 = none

/-- A message decides about its object id and about no other. -/
theorem known_handleDiscovery {setup : Setup} {bridge : MqttBridge} (inStep : bridge.InStep)
    {message : ConfigMessage} (wellFormed : message.WellFormed setup) (entityId : String) :
    (bridge.handleDiscovery setup message.topic message.payload).1.known entityId =
      if message.objectId = entityId then
        ((message.announced setup).map Prod.snd, message.announcedRow setup)
      else bridge.known entityId := by
  obtain ⟨hlevels, blank | accepted⟩ := wellFormed
  · have silent : message.announced setup = none := if_pos blank
    unfold handleDiscovery
    rw [hlevels]
    dsimp only
    rw [if_pos blank, ConfigMessage.announcedRow, silent]
    split
    · unfold known
      dsimp only
      rw [Registry.get_remove, entities_deleteEntity]
      split <;> rfl
    · rename_i unregistered
      have gone : bridge.registry.get message.objectId = none :=
        Option.not_isSome_iff_eq_none.mp unregistered
      have here : (bridge.known message.objectId).1 = none := by rw [known, gone, Option.map_none]
      split
      · rename_i same
        rw [← same]
        exact Prod.ext here (inStep.unknown _ here)
      · rfl
  · obtain ⟨⟨cfg, entity⟩, found⟩ := Option.isSome_iff_exists.mp accepted
    rw [ConfigMessage.announcedRow, found]
    unfold ConfigMessage.announced at found
    split at found
    · cases found
    · rename_i notBlank
      have hid := discovered_id found
      unfold handleDiscovery
      rw [hlevels]
      dsimp only
      rw [if_neg notBlank, found]
      dsimp only
      unfold known
      dsimp only
      rw [Registry.get_upsert inStep.sound, entities_saveEntity, hid]
      split <;> rfl

/-! ## Sequences of messages -/

def latest (setup : Setup) (messages : List ConfigMessage) (entityId : String) :
    Option Entity × Option (String × EntityConfig) :=
  let message := lastFor ConfigMessage.objectId messages entityId
  (message.bind fun message => (message.announced setup).map Prod.snd,
    message.bind fun message => message.announcedRow setup)

theorem latest_concat (setup : Setup) (messages : List ConfigMessage) (message : ConfigMessage)
    (entityId : String) :
    latest setup (messages ++ [message]) entityId =
      if message.objectId = entityId then
        ((message.announced setup).map Prod.snd, message.announcedRow setup)
      else latest setup messages entityId := by
  unfold latest
  rw [lastFor_concat]
  split <;> rfl

theorem latest_unknown {setup : Setup} {messages : List ConfigMessage} {entityId : String}
    (absent : (latest setup messages entityId).1 = none) :
    (latest setup messages entityId).2 = none := by
  unfold latest at absent ⊢
  dsimp only at absent ⊢
  cases hlast : lastFor ConfigMessage.objectId messages entityId with
  | none => rfl
  | some message =>
      rw [hlast, Option.bind_some, Option.map_eq_none_iff] at absent
      rw [Option.bind_some, ConfigMessage.announcedRow, absent, Option.map_none]

/-- The registry and the table hold what the messages so far say. -/
structure Tracks (setup : Setup) (messages : List ConfigMessage) (bridge : MqttBridge) : Prop where
  sound : bridge.registry.Sound
  known : ∀ entityId, bridge.known entityId = latest setup messages entityId

theorem Tracks.inStep {setup : Setup} {messages : List ConfigMessage} {bridge : MqttBridge}
    (tracks : Tracks setup messages bridge) : bridge.InStep where
  sound := tracks.sound
  unknown entityId absent := by
    rw [tracks.known] at absent ⊢
    exact latest_unknown absent

theorem Tracks.step {setup : Setup} {messages : List ConfigMessage} {bridge : MqttBridge}
    (tracks : Tracks setup messages bridge) {message : ConfigMessage}
    (wellFormed : message.WellFormed setup) :
    Tracks setup (messages ++ [message])
      (bridge.handleDiscovery setup message.topic message.payload).1 where
  sound := sound_handleDiscovery tracks.sound _ _
  known entityId := by
    rw [known_handleDiscovery tracks.inStep wellFormed, latest_concat, tracks.known]

/-- A client that knows no entity yet, whatever its database holds of samples. -/
def start (samples : SamplesTable PyFloat) : MqttBridge where
  storage := .init { samples }

theorem tracks_run {setup : Setup} {samples : SamplesTable PyFloat}
    {messages : List ConfigMessage} {last : MqttBridge} {outs : List Effect}
    (wellFormed : ∀ message ∈ messages, message.WellFormed setup)
    (hrun : (discovery setup).run (start samples) messages = some (last, outs)) :
    Tracks setup messages last := by
  refine (discovery setup).run_history_along
    (fun past bridge _ => Tracks setup past bridge) ?_ ⟨Registry.sound_empty, fun _ => rfl⟩
    ((discovery setup).along_of_events fun message hmem _ => wellFormed message hmem) hrun
  intro past bridge _ message next _ tracks here hstep
  have hnext : (bridge.handleDiscovery setup message.topic message.payload).1 = next :=
    congrArg Prod.fst (Option.some.inj hstep)
  rw [← hnext]
  exact tracks.step here

/-- After any well-formed discovery messages there is a registered entity and a row for exactly
the object ids whose last message was not empty, with its configuration, and no further
message changes what is known under another object id. -/
theorem discovery_determined {setup : Setup} {samples : SamplesTable PyFloat}
    {messages : List ConfigMessage} {last : MqttBridge} {outs : List Effect}
    (wellFormed : ∀ message ∈ messages, message.WellFormed setup)
    (hrun : (discovery setup).run (start samples) messages = some (last, outs)) :
    (∀ entityId, last.known entityId = latest setup messages entityId) ∧
      ∀ message : ConfigMessage, message.WellFormed setup →
        ∀ entityId, message.objectId ≠ entityId →
          (last.handleDiscovery setup message.topic message.payload).1.known entityId =
            last.known entityId := by
  have tracks := tracks_run wellFormed hrun
  refine ⟨tracks.known, fun message here entityId elsewhere => ?_⟩
  rw [known_handleDiscovery tracks.inStep here, if_neg elsewhere]

def announcement (topic : String) : ConfigMessage where
  topic := topic
  payload := configText

/-- A valve is announced as a sensor and withdrawn as a switch, a pump stays. -/
theorem discovery_determined_pump :
    ∃ last outs, (discovery oneConfig).run (start {})
        [announcement "homeassistant/sensor/valve/config",
          ⟨"homeassistant/switch/valve/config", ""⟩,
          announcement "homeassistant/sensor/pump/config"] = some (last, outs) ∧
      (last.known "valve").1 = none ∧
      (last.known "pump").1.map Entity.platform = some "sensor" := by
  have runs : ((discovery oneConfig).run (start {})
      [announcement "homeassistant/sensor/valve/config",
        ⟨"homeassistant/switch/valve/config", ""⟩,
        announcement "homeassistant/sensor/pump/config"]).isSome = true := rfl
  obtain ⟨⟨last, outs⟩, hrun⟩ := Option.isSome_iff_exists.mp runs
  have known := (discovery_determined (by decide +kernel) hrun).1
  refine ⟨last, outs, hrun, ?_, ?_⟩
  · rw [known]
    decide +kernel
  · rw [known]
    decide +kernel

/-- The empty message on the topic of a switch removes what a sensor topic had announced. -/
theorem not_determined_by_topic :
    ¬ ∀ (setup : Setup) (samples : SamplesTable PyFloat) (messages : List ConfigMessage)
      (last : MqttBridge) (outs : List Effect),
      (∀ message ∈ messages, message.WellFormed setup) →
      (discovery setup).run (start samples) messages = some (last, outs) →
      ∀ topic message found, lastFor ConfigMessage.topic messages topic = some message →
        message.announced setup = some found →
        ∃ entityId live, last.registry.get entityId = some live ∧ live.entity = found.2 := by
  intro all
  have wellFormed : ∀ message ∈ [announcement "homeassistant/sensor/valve/config",
      ⟨"homeassistant/switch/valve/config", ""⟩], message.WellFormed oneConfig := by
    decide +kernel
  have runs : ((discovery oneConfig).run (start {})
      [announcement "homeassistant/sensor/valve/config",
        ⟨"homeassistant/switch/valve/config", ""⟩]).isSome = true := rfl
  obtain ⟨⟨last, outs⟩, hrun⟩ := Option.isSome_iff_exists.mp runs
  have valve : (announcement "homeassistant/sensor/valve/config").objectId = "valve" ∧
      (⟨"homeassistant/switch/valve/config", ""⟩ : ConfigMessage).objectId = "valve" ∧
      ((⟨"homeassistant/switch/valve/config", ""⟩ : ConfigMessage).announced oneConfig).isNone := by
    decide +kernel
  have nothing (entityId : String) : last.registry.get entityId = none := by
    have known := congrArg Prod.fst ((tracks_run wellFormed hrun).known entityId)
    change _ = (latest oneConfig ([] ++ [_] ++ [_]) entityId).1 at known
    rw [latest_concat, latest_concat, valve.1, valve.2.1] at known
    refine Option.map_eq_none_iff.mp (known.trans ?_)
    split
    · rw [Option.isNone_iff_eq_none.mp valve.2.2, Option.map_none]
    · rfl
  have latest : lastFor ConfigMessage.topic [announcement "homeassistant/sensor/valve/config",
      ⟨"homeassistant/switch/valve/config", ""⟩] "homeassistant/sensor/valve/config" =
      some (announcement "homeassistant/sensor/valve/config") := by
    decide +kernel
  have announced : ((announcement "homeassistant/sensor/valve/config").announced
      oneConfig).isSome = true := by
    decide +kernel
  obtain ⟨found, hfound⟩ := Option.isSome_iff_exists.mp announced
  obtain ⟨entityId, live, hget, -⟩ :=
    all oneConfig {} _ last outs wellFormed hrun _ _ found latest hfound
  rw [nothing] at hget
  cases hget

end MqttBridge

end NasaCpp.Web
