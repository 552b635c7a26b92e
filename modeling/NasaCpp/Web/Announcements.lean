import NasaCpp.Web.Server

/-!
# Announcements and restarts

`_restore_entities` builds the entities anew from the rows of the database, in whatever
order SQLite returns them.  The rows are committed as the announcements arrive, so what is
registered is what the config messages so far have said, however often the process has been
restarted in between; and a command goes to the topic that the last of them has named.
-/

namespace NasaCpp.Web

open General

/-! ## Restored entities -/

namespace Registry

/-- A state is that of the registered entity behind the reference. -/
theorem get_setState {registry : Registry} (sound : registry.Sound) {ref : ℕ} {live : LiveEntity}
    (href : registry.byId[live.entity.id]? = some ref)
    (hlive : registry.objects[ref]? = some live) (value : Option PyFloat) (text : Option String)
    (updated : Option ℚ) (entityId : String) :
    (registry.setState ref value text updated).get entityId =
      if live.entity.id = entityId then some { live with value, text, updated }
      else registry.get entityId := by
  unfold get setState
  dsimp only
  split
  · rename_i here
    rw [← here, href, Option.bind_some, List.getElem?_modify_eq, hlive]
    rfl
  · rename_i elsewhere
    cases hother : registry.byId[entityId]? with
    | none => rfl
    | some other =>
        obtain ⟨there, hthere, hid⟩ := sound.object entityId other hother
        have different : ref ≠ other := by
          rintro rfl
          rw [hlive] at hthere
          cases hthere
          exact elsewhere hid
        rw [Option.bind_some, Option.bind_some, List.getElem?_modify_ne _ _ different]

/-- A restored entity has the state of its row. -/
theorem get_restored {registry : Registry} (sound : registry.Sound) (entity : Entity)
    (value : Option PyFloat) (text : Option String) (updated : Option ℚ) (entityId : String) :
    ((registry.upsert entity).setState registry.objects.length value text updated).get entityId =
      if entity.id = entityId then some { entity, value, text, updated }
      else registry.get entityId := by
  have index : (registry.upsert entity).byId[entity.id]? = some registry.objects.length :=
    Std.TreeMap.getElem?_insert_self
  refine (get_setState (sound.upsert entity) index List.getElem?_concat_length _ _ _ _).trans ?_
  dsimp only
  rw [get_upsert sound]
  split <;> rfl

end Registry

def EntityRow.live (row : EntityRow) (entityId : String) : Option LiveEntity :=
  (row.config.entity entityId row.platform).map fun entity =>
    { entity, value := row.value, text := row.text, updated := row.updated }

theorem restoreEntities_concat_none {rows : List (String × EntityRow)}
    {entry : String × EntityRow}
    (built : entry.2.config.entity entry.1 entry.2.platform = none) :
    restoreEntities (rows ++ [entry]) = restoreEntities rows := by
  simp only [restoreEntities, List.foldl_concat, built]

theorem restoreEntities_concat_some {rows : List (String × EntityRow)}
    {entry : String × EntityRow} {entity : Entity}
    (built : entry.2.config.entity entry.1 entry.2.platform = some entity) :
    restoreEntities (rows ++ [entry]) =
      ((restoreEntities rows).upsert entity).setState (restoreEntities rows).objects.length
        entry.2.value entry.2.text entry.2.updated := by
  simp only [restoreEntities, List.foldl_concat, built]

theorem get_restoreEntities {rows : List (String × EntityRow)}
    (distinct : (rows.map Prod.fst).Nodup) (entityId : String) :
    (restoreEntities rows).get entityId =
      (lastFor Prod.fst rows entityId).bind fun entry => entry.2.live entry.1 := by
  induction rows using List.reverseRecOn with
  | nil => rfl
  | append_singleton rows entry ih =>
      rw [List.map_append, List.nodup_append] at distinct
      have before := ih distinct.1
      rw [lastFor_concat]
      cases built : entry.2.config.entity entry.1 entry.2.platform with
      | none =>
          rw [restoreEntities_concat_none built]
          split
          · rename_i here
            have absent : lastFor Prod.fst rows entityId = none :=
              (lastFor_eq_none_iff Prod.fst).mpr fun other member same =>
                distinct.2.2 other.1 (List.mem_map_of_mem member) entry.1
                  (List.mem_singleton_self _) (same.trans here.symm)
            rw [before, absent, Option.bind_none, Option.bind_some, EntityRow.live, built,
              Option.map_none]
          · exact before
      | some entity =>
          rw [restoreEntities_concat_some built,
            Registry.get_restored (sound_restoreEntities rows), MqttBridge.id_of_entity built]
          split
          · rw [Option.bind_some, EntityRow.live, built, Option.map_some]
          · exact before

namespace Server

theorem map_fst_rows (file : Database) (order : List String) :
    (order.filterMap fun entityId =>
        file.entities[entityId]?.map fun row => (entityId, row)).map Prod.fst =
      order.filter fun entityId => file.entities[entityId]?.isSome := by
  induction order with
  | nil => rfl
  | cons entityId order ih =>
      rw [List.filterMap_cons, List.filter_cons]
      cases file.entities[entityId]? with
      | none => exact ih
      | some row => exact congrArg (entityId :: ·) ih

/-- Whatever the order of the rows, each entity is restored from its own. -/
theorem get_boot (settings : Settings) {file : Database} {order : List String}
    (all : order.Perm file.entities.keys) (entityId : String) :
    (boot settings file order).bridge.registry.get entityId =
      file.entities[entityId]?.bind fun row => row.live entityId := by
  generalize hrows : (order.filterMap fun entityId =>
    file.entities[entityId]?.map fun row => (entityId, row)) = rows
  have distinct : (rows.map Prod.fst).Nodup := by
    rw [← hrows, map_fst_rows]
    exact (all.nodup_iff.mpr Std.TreeMap.nodup_keys).filter _
  have member (other : String) (row : EntityRow) :
      (other, row) ∈ rows ↔ file.entities[other]? = some row := by
    rw [← hrows, List.mem_filterMap]
    constructor
    · rintro ⟨key, -, hkey⟩
      obtain ⟨found, hfound, hpair⟩ := Option.map_eq_some_iff.mp hkey
      cases hpair
      exact hfound
    · intro hrow
      refine ⟨other, all.mem_iff.mpr (Std.TreeMap.mem_keys.mpr ?_), by rw [hrow]; rfl⟩
      rw [Std.TreeMap.mem_iff_isSome_getElem?, hrow]
      rfl
  change (restoreEntities _).get entityId = _
  rw [hrows, get_restoreEntities distinct]
  cases hlast : lastFor Prod.fst rows entityId with
  | none =>
      cases hrow : file.entities[entityId]? with
      | none => rfl
      | some row =>
          exact absurd rfl ((lastFor_eq_none_iff Prod.fst).mp hlast _
            ((member entityId row).mpr hrow))
  | some entry =>
      obtain ⟨other, row⟩ := entry
      have same : other = entityId := key_of_lastFor Prod.fst hlast
      have hrow := (member other row).mp (mem_of_lastFor Prod.fst hlast)
      rw [same] at hrow
      rw [hrow, Option.bind_some, Option.bind_some, same]

/-! ## What the config messages have said -/

/-- An announced entity, with what its row says of it. -/
abbrev Announced := String × EntityConfig × Entity

def decision (setup : Setup) : Event → Option (String × Option Announced)
  | .message topic payload _ => setup.decision topic payload
  | _ => none

/-- The entity that is announced under the object id after the events. -/
def told (setup : Setup) (events : List Event) (entityId : String) : Option Announced :=
  (lastFor Prod.fst (events.filterMap (decision setup)) entityId).bind Prod.snd

theorem told_concat (setup : Setup) (events : List Event) (event : Event) (entityId : String) :
    told setup (events ++ [event]) entityId =
      match decision setup event with
      | none => told setup events entityId
      | some (objectId, found) =>
          if objectId = entityId then found else told setup events entityId := by
  unfold told
  rw [List.filterMap_append]
  cases hdecision : decision setup event with
  | none =>
      have silent : [event].filterMap (decision setup) = [] := by
        rw [List.filterMap_cons, hdecision]
        rfl
      rw [silent, List.append_nil]
  | some result =>
      have alone : [event].filterMap (decision setup) = [result] := by
        rw [List.filterMap_cons, hdecision]
        rfl
      rw [alone, lastFor_concat]
      dsimp only
      split <;> rfl

/-- The registry, the table of entities and what is committed of it say what was told. -/
structure Knows (said : String → Option Announced) (bridge : MqttBridge) : Prop where
  sound : bridge.registry.Sound
  registered : ∀ entityId, (bridge.registry.get entityId).map LiveEntity.entity =
    (said entityId).map fun found => found.2.2
  stored : ∀ entityId : String, bridge.storage.db.entities[entityId]?.map EntityRow.discovered =
    (said entityId).map fun found => (found.1, found.2.1)
  committed : ∀ entityId : String,
    bridge.storage.committed.entities[entityId]?.map EntityRow.discovered =
      bridge.storage.db.entities[entityId]?.map EntityRow.discovered
  built : ∀ entityId found, said entityId = some found →
    found.2.1.entity entityId found.1 = some found.2.2

/-- An entity that is not announced is not registered. -/
theorem Knows.registered_none {said : String → Option Announced} {bridge : MqttBridge}
    (knows : Knows said bridge) {entityId : String}
    (absent : bridge.registry.get entityId = none) : said entityId = none := by
  have registered := knows.registered entityId
  rw [absent, Option.map_none] at registered
  exact Option.map_eq_none_iff.mp registered.symm

theorem Knows.withdraw {said : String → Option Announced} {bridge : MqttBridge}
    (knows : Knows said bridge) (objectId : String) :
    Knows (fun entityId => if objectId = entityId then none else said entityId)
      { bridge with
        registry := bridge.registry.remove objectId
        storage := bridge.storage.deleteEntity objectId } where
  sound := knows.sound.remove objectId
  registered entityId := by
    dsimp only
    rw [Registry.get_remove]
    split
    · rfl
    · exact knows.registered entityId
  stored entityId := by
    dsimp only
    rw [MqttBridge.entities_deleteEntity]
    split
    · rfl
    · exact knows.stored entityId
  committed entityId := rfl
  built entityId found hfound := by
    split at hfound
    · cases hfound
    · exact knows.built entityId found hfound

theorem Knows.announce {said : String → Option Announced} {bridge : MqttBridge}
    (knows : Knows said bridge) {platform objectId : String} {cfg : EntityConfig}
    {entity : Entity} (built : cfg.entity objectId platform = some entity) :
    Knows (fun entityId =>
        if objectId = entityId then some (platform, cfg, entity) else said entityId)
      { bridge with
        registry := bridge.registry.upsert entity
        storage := bridge.storage.saveEntity objectId platform cfg } where
  sound := knows.sound.upsert entity
  registered entityId := by
    dsimp only
    rw [Registry.get_upsert knows.sound, MqttBridge.id_of_entity built]
    split
    · rfl
    · exact knows.registered entityId
  stored entityId := by
    dsimp only
    rw [MqttBridge.entities_saveEntity]
    split
    · rfl
    · exact knows.stored entityId
  committed entityId := rfl
  built entityId found hfound := by
    split at hfound
    · rename_i here
      cases hfound
      rw [← here]
      exact built
    · exact knows.built entityId found hfound

theorem record_databases (storage : Storage) (entityId : String) (value : Option PyFloat)
    (text : Option String) (now : ℚ) :
    (storage.record entityId value text now).1.db = storage.db ∧
      (storage.record entityId value text now).1.committed = storage.committed := by
  unfold Storage.record
  dsimp only
  split <;> exact ⟨rfl, rfl⟩

/-- A state changes neither the entities nor their rows. -/
theorem Knows.hear {said : String → Option Announced} {bridge : MqttBridge}
    (knows : Knows said bridge) {topic : String} {ref : ℕ} {live : LiveEntity}
    (href : bridge.registry.byTopic[topic]? = some ref)
    (hlive : bridge.registry.objects[ref]? = some live) (value : Option PyFloat)
    (text : Option String) (now : ℚ) :
    Knows said { bridge with
      lastMessage := some now
      registry := bridge.registry.updateState ref value text now
      storage := (bridge.storage.record live.entity.id value text now).1 } := by
  have same := record_databases bridge.storage live.entity.id value text now
  refine ⟨knows.sound.setState ref value text _, fun entityId => ?_, fun entityId => ?_,
    fun entityId => ?_, knows.built⟩
  · dsimp only
    rw [Registry.get_updateState knows.sound href hlive, ← knows.registered entityId]
    split
    · rename_i here
      rw [← here, Registry.get, (knows.sound.of_topic href hlive).2, Option.bind_some, hlive]
      rfl
    · rfl
  · dsimp only
    rw [same.1]
    exact knows.stored entityId
  · dsimp only
    rw [same.1, same.2]
    exact knows.committed entityId

theorem Knows.message {setup : Setup} {said : String → Option Announced} {bridge : MqttBridge}
    (knows : Knows said bridge) (topic payload : String) (now : ℚ) :
    Knows (fun entityId =>
        match setup.decision topic payload with
        | none => said entityId
        | some (objectId, found) => if objectId = entityId then found else said entityId)
      (bridge.onMessage setup topic payload now).1 := by
  have reaction := bridge.reaction_onMessage setup topic payload now
  generalize bridge.onMessage setup topic payload now = result at reaction ⊢
  cases reaction with
  | ignored silent =>
      rw [silent]
      exact knows
  | @absent objectId decided unregistered =>
      rw [decided]
      have unchanged : (fun entityId => if objectId = entityId then none else said entityId) =
          said := by
        funext entityId
        split
        · rename_i here
          rw [← here]
          exact (knows.registered_none unregistered).symm
        · rfl
      dsimp only
      rw [unchanged]
      exact knows
  | @withdrawn objectId decided =>
      rw [decided]
      exact knows.withdraw objectId
  | announced decided built =>
      rw [decided]
      exact knows.announce built
  | told silent href hlive =>
      rw [silent]
      exact knows.hear href hlive _ _ now

/-! ## The database file -/

theorem discovered_updateEntity (rows : List Sample) (db : Database) (entityId : String) :
    (rows.foldl Database.updateEntity db).entities[entityId]?.map EntityRow.discovered =
      db.entities[entityId]?.map EntityRow.discovered := by
  induction rows generalizing db with
  | nil => rfl
  | cons row rows ih =>
      rw [List.foldl_cons, ih]
      change (db.entities.modify row.1 _)[entityId]?.map EntityRow.discovered = _
      rw [Maps.lookup_modify]
      split
      · rw [Option.map_map]
        rfl
      · rfl

theorem entities_foldl_insertSample (db : Database) (samples : List Sample) :
    (samples.foldl Database.insertSample db).entities = db.entities := by
  induction samples generalizing db with
  | nil => rfl
  | cons sample samples ih => exact ih _

/-- A call of `flush` keeps what the rows say of the entities, wherever it raises. -/
theorem discovered_flush (storage : Storage) (fault : Option Fault) (entityId : String) :
    (storage.flush fault).1.db.entities[entityId]?.map EntityRow.discovered =
        storage.db.entities[entityId]?.map EntityRow.discovered ∧
      ((storage.flush fault).1.committed = storage.committed ∨
        (storage.flush fault).1.committed = (storage.flush fault).1.db) := by
  obtain ⟨inserts, inserted, hinsert⟩ :=
    Storage.executeMany_eq Database.insertSample (Fault.insertOf fault) storage.pending
  obtain ⟨updates, updated, hupdate⟩ :=
    Storage.executeMany_eq Database.updateEntity (Fault.updateOf fault)
      (storage.pending.foldl setLatest [])
  unfold Storage.flush
  simp only [hinsert, hupdate]
  split_ifs
  · exact ⟨rfl, .inl rfl⟩
  · exact ⟨by rw [entities_foldl_insertSample], .inl rfl⟩
  · exact ⟨by rw [discovered_updateEntity, entities_foldl_insertSample], .inl rfl⟩
  · exact ⟨by rw [discovered_updateEntity, entities_foldl_insertSample], .inl rfl⟩
  · exact ⟨by rw [discovered_updateEntity, entities_foldl_insertSample], .inr rfl⟩

theorem Knows.flush {said : String → Option Announced} {bridge : MqttBridge}
    (knows : Knows said bridge) (fault : Option Fault) :
    Knows said { bridge with storage := (bridge.storage.flush fault).1 } where
  sound := knows.sound
  registered := knows.registered
  stored entityId := (discovered_flush bridge.storage fault entityId).1.trans
    (knows.stored entityId)
  committed entityId := by
    obtain ⟨same, kept | done⟩ := discovered_flush bridge.storage fault entityId
    · dsimp only
      rw [same, kept]
      exact knows.committed entityId
    · dsimp only
      rw [done]
  built := knows.built

/-- The file that the process leaves restores what it knew. -/
theorem Knows.boot {said : String → Option Announced} {bridge : MqttBridge}
    (knows : Knows said bridge) (settings : Settings) {order : List String}
    (all : order.Perm bridge.storage.close.entities.keys) :
    Knows said (Server.boot settings bridge.storage.close order).bridge := by
  have closed := knows.flush none
  have stored (entityId : String) :
      bridge.storage.close.entities[entityId]?.map EntityRow.discovered =
        (said entityId).map fun found => (found.1, found.2.1) :=
    (closed.committed entityId).trans (closed.stored entityId)
  refine ⟨sound_restoreEntities _, fun entityId => ?_, stored, fun _ => rfl, knows.built⟩
  rw [get_boot settings all]
  have row := stored entityId
  cases hrow : bridge.storage.close.entities[entityId]? with
  | none =>
      rw [hrow, Option.map_none] at row
      rw [Option.map_eq_none_iff.mp row.symm]
      rfl
  | some row' =>
      rw [hrow, Option.map_some] at row
      obtain ⟨found, hfound, same⟩ := Option.map_eq_some_iff.mp row.symm
      have built := knows.built entityId found hfound
      obtain ⟨platform, config⟩ := Prod.mk.inj same
      rw [platform, config] at built
      rw [hfound, Option.bind_some, EntityRow.live, built]
      rfl

/-! ## Runs -/

theorem knows_start (settings : Settings) :
    Knows (fun _ => none) (Server.boot settings {} []).bridge where
  sound := Registry.sound_empty
  registered _ := rfl
  stored _ := by
    change ({} : Std.TreeMap String EntityRow)[_]?.map _ = _
    rw [Std.TreeMap.getElem?_emptyc]
    rfl
  committed _ := rfl
  built _ _ impossible := by cases impossible

theorem Knows.step {settings : Settings} {said : String → Option Announced}
    {server next : Server} {event : Event} {new : List Output} (knows : Knows said server.bridge)
    (hstep : (machine settings).step server event = some (next, new)) :
    Knows (fun entityId =>
      match decision settings.setup event with
      | none => said entityId
      | some (objectId, found) => if objectId = entityId then found else said entityId)
      next.bridge := by
  cases event with
  | connect isFailure =>
      cases isFailure <;> cases hstep
      · exact ⟨knows.sound, knows.registered, knows.stored, knows.committed, knows.built⟩
      · exact knows
  | disconnect =>
      cases hstep
      exact ⟨knows.sound, knows.registered, knows.stored, knows.committed, knows.built⟩
  | message topic payload now =>
      cases hstep
      exact knows.message topic payload now
  | flush fault =>
      cases hstep
      exact knows.flush fault
  | purge now =>
      cases hstep
      exact ⟨knows.sound, knows.registered, knows.stored, fun _ => rfl, knows.built⟩
  | command entityId value sent =>
      cases hstep
      exact knows
  | restart order =>
      obtain ⟨all, hresult⟩ := Option.ite_none_right_eq_some.mp hstep
      cases hresult
      exact knows.boot settings all

theorem knows_run {settings : Settings} {events : List Event} {last : Server}
    {outs : List Output}
    (hrun : (machine settings).run (boot settings {} []) events = some (last, outs)) :
    Knows (told settings.setup events) last.bridge := by
  refine (machine settings).run_history
    (fun past server _ => Knows (told settings.setup past) server.bridge) ?_
    (knows_start settings) hrun
  intro past server before event next new knows hstep
  have there := knows.step hstep
  have same : told settings.setup (past ++ [event]) = fun entityId =>
      match decision settings.setup event with
      | none => told settings.setup past entityId
      | some (objectId, found) =>
          if objectId = entityId then found else told settings.setup past entityId := by
    funext entityId
    exact told_concat settings.setup past event entityId
  rw [same]
  exact there

/-- In every run of the server, with statements that raise and restarts anywhere in it, exactly
the entities are registered, and in the table, that the last config message on their object id
has announced. -/
theorem registered_run {settings : Settings} {events : List Event} {last : Server}
    {outs : List Output}
    (hrun : (machine settings).run (boot settings {} []) events = some (last, outs))
    (entityId : String) :
    last.bridge.known entityId =
      ((told settings.setup events entityId).map fun found => found.2.2,
        (told settings.setup events entityId).map fun found => (found.1, found.2.1)) := by
  have knows := knows_run hrun
  exact Prod.ext (knows.registered entityId) (knows.stored entityId)

/-- A valve that was announced as a sensor and then as a switch is a switch after a restart. -/
theorem registered_run_restart :
    ∃ last outs, (machine oneConfig.settings).run (boot oneConfig.settings {} [])
        [.message "homeassistant/sensor/valve/config" configText 1,
          .message "homeassistant/switch/valve/config" configText 2,
          .restart ["valve"]] = some (last, outs) ∧
      (last.bridge.known "valve").1.map Entity.platform = some "switch" := by
  have runs : ((machine oneConfig.settings).run (boot oneConfig.settings {} [])
      [.message "homeassistant/sensor/valve/config" configText 1,
        .message "homeassistant/switch/valve/config" configText 2,
        .restart ["valve"]]).isSome = true := by
    decide +kernel
  obtain ⟨⟨last, outs⟩, hrun⟩ := Option.isSome_iff_exists.mp runs
  refine ⟨last, outs, hrun, ?_⟩
  rw [registered_run hrun]
  decide +kernel

/-! ## Commands -/

def Takes (entity : Entity) (payload : String) : Prop :=
  match entity.kind with
  | .binary => payload = "ON" ∨ payload = "OFF"
  | .enum => payload ∈ entity.options
  | .numeric =>
      ∃ number, (∀ low ∈ entity.min, low ≤ number) ∧ (∀ high ∈ entity.max, number ≤ high) ∧
        payload = toString (Rounding.roundHalfEven (entity.commandTf.apply number))

theorem inside_of_not_outside {entity : Entity} {number : ℚ}
    (inside : entity.outside number = false) :
    (∀ low ∈ entity.min, low ≤ number) ∧ ∀ high ∈ entity.max, number ≤ high := by
  unfold Entity.outside at inside
  obtain ⟨below, above⟩ := Bool.or_eq_false_iff.mp inside
  refine ⟨fun low hlow => ?_, fun high hhigh => ?_⟩
  · rw [Option.mem_def.mp hlow] at below
    exact not_lt.mp (of_decide_eq_false below)
  · rw [Option.mem_def.mp hhigh] at above
    exact not_lt.mp (of_decide_eq_false above)

theorem takes_buildCommand {str : ℚ → String} {entity : Entity} {value : Value} {payload : String}
    (built : entity.buildCommand str value = some payload) : Takes entity payload := by
  unfold Entity.buildCommand at built
  unfold Takes
  cases kind : entity.kind with
  | binary =>
      rw [kind] at built
      have switched (position : Prop) [Decidable position] :
          (if position then "ON" else "OFF") = "ON" ∨ (if position then "ON" else "OFF") = "OFF" :=
        (em position).imp (fun yes => if_pos yes) fun no => if_neg no
      cases value <;> cases built <;> exact switched _
  | enum =>
      rw [kind] at built
      obtain ⟨member, hpayload⟩ := Option.ite_none_right_eq_some.mp built
      cases hpayload
      exact member
  | numeric =>
      rw [kind] at built
      obtain ⟨number, -, hresult⟩ := Option.bind_eq_some_iff.mp built
      obtain ⟨inside, hpayload⟩ := Option.ite_none_left_eq_some.mp hresult
      obtain ⟨low, high⟩ := inside_of_not_outside (Bool.eq_false_of_not_eq_true inside)
      exact ⟨number, low, high, (Option.some.inj hpayload).symm⟩

theorem mem_sendCommand {settings : Settings} {entity : Entity} {value : Value} {sent : Bool}
    {topic payload : String}
    (published : .publish topic payload ∈ sendCommand settings entity value sent) :
    entity.commandTopic = some topic ∧
      entity.buildCommand settings.str value = some payload ∧
      (.answer (.ok payload) ∈ sendCommand settings entity value sent ↔ sent = true) := by
  unfold sendCommand at published ⊢
  cases commandTopic : entity.commandTopic with
  | none =>
      rw [commandTopic] at published
      simp at published
  | some named =>
      rw [commandTopic] at published
      cases built : entity.buildCommand settings.str value with
      | none =>
          rw [built] at published
          simp at published
      | some text =>
          rw [built] at published
          simp only [List.mem_cons, Output.publish.injEq, reduceCtorEq, List.not_mem_nil,
            or_false] at published
          obtain ⟨rfl, rfl⟩ := published
          refine ⟨rfl, rfl, ?_⟩
          cases sent <;> simp

/-- What the interface publishes goes, while the client is connected and the server is not read
only, to the command topic of the entity that was announced last under the object id, with a
payload that the entity takes. -/
theorem commands_published {settings : Settings} {events : List Event} {server next : Server}
    {outs new : List Output} {entityId topic payload : String} {value : Value} {sent : Bool}
    (hrun : (machine settings).run (boot settings {} []) events = some (server, outs))
    (hstep : (machine settings).step server (.command entityId value sent) = some (next, new))
    (published : .publish topic payload ∈ new) :
    settings.readOnly = false ∧ server.bridge.connected = true ∧
      ∃ found, told settings.setup events entityId = some found ∧
        found.2.2.commandTopic = some topic ∧ Takes found.2.2 payload ∧
        (.answer (.ok payload) ∈ new ↔ sent = true) := by
  cases hstep
  have registered := (knows_run hrun).registered entityId
  unfold apiCommand at published ⊢
  cases readOnly : settings.readOnly with
  | true =>
      rw [readOnly] at published
      simp at published
  | false =>
      rw [readOnly] at published
      cases hget : server.bridge.registry.get entityId with
      | none =>
          rw [hget] at published
          simp at published
      | some live =>
          rw [hget] at published registered
          obtain ⟨found, hfound, same⟩ := Option.map_eq_some_iff.mp registered.symm
          cases connected : server.bridge.connected with
          | false =>
              rw [connected] at published
              simp at published
          | true =>
              rw [connected] at published
              obtain ⟨commandTopic, built, told⟩ := mem_sendCommand published
              have entity : live.entity = found.2.2 := same.symm
              rw [entity] at commandTopic built
              exact ⟨rfl, rfl, found, hfound, commandTopic, takes_buildCommand built, told⟩

def oneTarget : Setup where
  deviceId := ""
  loads _ := some { stateTopic := some "t", commandTopic := some "set", min := some 30 }
  parseState := Entity.readState

/-- The announcement of a target is followed by a command for it. -/
theorem commands_published_target :
    ∃ server outs next new found,
      (machine oneTarget.settings).run (boot oneTarget.settings {} [])
        [.connect false, .message "homeassistant/number/target/config" "-" 1] =
          some (server, outs) ∧
      (machine oneTarget.settings).step server (.command "target" (.number 45) true) =
        some (next, new) ∧
      .publish "set" "45" ∈ new ∧
      told oneTarget [.connect false, .message "homeassistant/number/target/config" "-" 1]
        "target" = some found ∧ found.2.2.commandTopic = some "set" := by
  have runs : (((machine oneTarget.settings).run (boot oneTarget.settings {} [])
      [.connect false, .message "homeassistant/number/target/config" "-" 1]).bind fun first =>
        ((machine oneTarget.settings).step first.1 (.command "target" (.number 45) true)).map
          fun second => second.2) = some [.publish "set" "45", .answer (.ok "45")] := by
    decide +kernel
  obtain ⟨⟨server, outs⟩, hrun, hcommand⟩ := Option.bind_eq_some_iff.mp runs
  obtain ⟨⟨next, new⟩, hstep, hnew⟩ := Option.map_eq_some_iff.mp hcommand
  have published : .publish "set" "45" ∈ new := by
    change new = _ at hnew
    rw [hnew]
    exact List.mem_cons_self
  obtain ⟨-, -, found, hfound, commandTopic, -, -⟩ := commands_published hrun hstep published
  exact ⟨server, outs, next, new, found, hrun, hstep, published, hfound, commandTopic⟩

end Server

end NasaCpp.Web
