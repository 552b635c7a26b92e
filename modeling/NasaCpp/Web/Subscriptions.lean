import NasaCpp.Web.Announcements

/-!
# Subscriptions

What a connected client is subscribed to.  A state topic that `subscribe` does not accept
would end the callback before the entities behind it in the registry are subscribed to; with
topics that are all accepted the client hears every registered entity.
-/

namespace NasaCpp.Web

open General

/-- A registered entity that was restored has a row. -/
theorem exists_of_get_restoreEntities {rows : List (String × EntityRow)} {entityId : String}
    {live : LiveEntity} (hget : (restoreEntities rows).get entityId = some live) :
    ∃ row, (entityId, row) ∈ rows ∧ row.live entityId = some live := by
  induction rows using List.reverseRecOn with
  | nil => cases hget
  | append_singleton rows entry ih =>
      have earlier (before : (restoreEntities rows).get entityId = some live) :
          ∃ row, (entityId, row) ∈ rows ++ [entry] ∧ row.live entityId = some live := by
        obtain ⟨row, member, built⟩ := ih before
        exact ⟨row, List.mem_append_left _ member, built⟩
      cases built : entry.2.config.entity entry.1 entry.2.platform with
      | none =>
          rw [restoreEntities_concat_none built] at hget
          exact earlier hget
      | some entity =>
          rw [restoreEntities_concat_some built,
            Registry.get_restored (sound_restoreEntities rows), MqttBridge.id_of_entity built]
            at hget
          split at hget
          · rename_i here
            subst here
            refine ⟨entry.2, List.mem_append_right _ (List.mem_singleton_self _), ?_⟩
            rw [EntityRow.live, built, ← hget]
            rfl
          · exact earlier hget

namespace Server

/-- The table has no entity whose state topic is not accepted. -/
def Accepted (settings : Settings) (entities : Std.TreeMap String EntityRow) : Prop :=
  ∀ (entityId platform : String) (cfg : EntityConfig) (entity : Entity),
    entities[entityId]?.map EntityRow.discovered = some (platform, cfg) →
      cfg.entity entityId platform = some entity → settings.accepts entity.stateTopic = true

/-- The event announces no entity whose state topic is not accepted. -/
def Event.Accepted (settings : Settings) (event : Event) : Prop :=
  ∀ found ∈ (decision settings.setup event).bind Prod.snd,
    settings.accepts found.2.2.stateTopic = true

instance (settings : Settings) (event : Event) : Decidable (event.Accepted settings) :=
  inferInstanceAs (Decidable (∀ found ∈ _, _ = _))

theorem Accepted.of_same {settings : Settings} {entities others : Std.TreeMap String EntityRow}
    (accepted : Accepted settings entities)
    (same : ∀ entityId : String, others[entityId]?.map EntityRow.discovered =
      entities[entityId]?.map EntityRow.discovered) : Accepted settings others :=
  fun entityId platform cfg entity hrow => accepted entityId platform cfg entity
    ((same entityId).symm.trans hrow)

/-- The client has asked for the announcements and for the states of every registered entity
since it connected. -/
structure Subscribed (settings : Settings) (server : Server) : Prop where
  sound : server.bridge.registry.Sound
  configs : server.bridge.connected = true →
    settings.setup.discoveryPrefix ++ "/+/+/config" ∈ server.subscriptions
  states : server.bridge.connected = true → ∀ entityId live,
    server.bridge.registry.get entityId = some live →
      live.entity.stateTopic ∈ server.subscriptions
  registered : ∀ entityId live, server.bridge.registry.get entityId = some live →
    settings.accepts live.entity.stateTopic = true
  stored : Accepted settings server.bridge.storage.db.entities
  committed : Accepted settings server.bridge.storage.committed.entities

/-! ## A step -/

theorem subscribed_boot {settings : Settings} {file : Database}
    (accepted : Accepted settings file.entities) (order : List String) :
    (boot settings file order).Subscribed settings where
  sound := sound_restoreEntities _
  configs connected := by cases connected
  states connected := by cases connected
  registered entityId live hget := by
    obtain ⟨row, member, hlive⟩ := exists_of_get_restoreEntities hget
    obtain ⟨other, -, hrow⟩ := List.mem_filterMap.mp member
    obtain ⟨found, hfound, hpair⟩ := Option.map_eq_some_iff.mp hrow
    cases hpair
    obtain ⟨entity, built, rfl⟩ := Option.map_eq_some_iff.mp hlive
    exact accepted entityId row.platform row.config entity (by rw [hfound]; rfl) built
  stored := accepted
  committed := accepted

theorem topics_subscribe (subscribed : List String) (effects : List Effect) :
    topics (subscribed.map .subscribe ++ effects) = subscribed ++ topics effects := by
  induction subscribed with
  | nil => rfl
  | cons topic subscribed ih => exact congrArg (topic :: ·) ih

/-- Without a topic that is not accepted all effects are performed. -/
theorem performed_eq_self {accepts : String → Bool} {effects : List Effect}
    (all : ∀ topic, .subscribe topic ∈ effects → accepts topic = true) :
    performed accepts effects = effects := by
  refine List.takeWhile_eq_self_iff.mpr fun effect hmem => ?_
  cases effect with
  | subscribe topic => exact all topic hmem
  | emit event => rfl

theorem Subscribed.connect {settings : Settings} {server : Server}
    (valid : settings.accepts (settings.setup.discoveryPrefix ++ "/+/+/config") = true)
    (subscribed : server.Subscribed settings) :
    Subscribed settings ⟨(server.bridge.onConnect settings.setup).1,
      topics (performed settings.accepts (server.bridge.onConnect settings.setup).2)⟩ := by
  have hall {entityId : String} {live : LiveEntity}
      (hget : server.bridge.registry.get entityId = some live) :
      live ∈ server.bridge.registry.all := by
    have hid := subscribed.sound.id_of_get hget
    exact (Registry.mem_all_iff subscribed.sound live).mpr (hid.symm ▸ hget)
  have asked : topics (performed settings.accepts (server.bridge.onConnect settings.setup).2) =
      (settings.setup.discoveryPrefix ++ "/+/+/config") ::
        server.bridge.registry.all.map (fun live => live.entity.stateTopic) := by
    rw [performed_eq_self]
    · exact (topics_subscribe _ _).trans (List.append_nil _)
    · intro topic hmem
      simp only [MqttBridge.onConnect, List.mem_append, List.mem_map, Effect.subscribe.injEq,
        exists_eq_right, List.mem_cons, List.not_mem_nil, or_false, reduceCtorEq] at hmem
      rcases hmem with rfl | ⟨live, member, rfl⟩
      · exact valid
      · exact subscribed.registered _ live
          ((Registry.mem_all_iff subscribed.sound live).mp member)
  refine ⟨subscribed.sound, fun _ => ?_, fun _ entityId live hget => ?_, subscribed.registered,
    subscribed.stored, subscribed.committed⟩
  · rw [asked]
    exact List.mem_cons_self
  · rw [asked]
    exact List.mem_cons_of_mem _ (List.mem_map.mpr ⟨live, hall hget, rfl⟩)

/-- What is subscribed to stays so when the registry and the table keep what they say. -/
theorem Subscribed.of_keeps {settings : Settings} {server : Server} {bridge : MqttBridge}
    {subscriptions : List String} (subscribed : server.Subscribed settings)
    (sound : bridge.registry.Sound)
    (connected : bridge.connected = true → server.bridge.connected = true)
    (more : ∀ topic ∈ server.subscriptions, topic ∈ subscriptions)
    (entities : ∀ entityId live, bridge.registry.get entityId = some live →
      ∃ other, server.bridge.registry.get entityId = some other ∧ other.entity = live.entity)
    (stored : Accepted settings bridge.storage.db.entities)
    (committed : Accepted settings bridge.storage.committed.entities) :
    Subscribed settings ⟨bridge, subscriptions⟩ where
  sound := sound
  configs now := more _ (subscribed.configs (connected now))
  states now entityId live hget := by
    obtain ⟨other, hother, same⟩ := entities entityId live hget
    rw [← same]
    exact more _ (subscribed.states (connected now) entityId other hother)
  registered entityId live hget := by
    obtain ⟨other, hother, same⟩ := entities entityId live hget
    rw [← same]
    exact subscribed.registered entityId other hother
  stored := stored
  committed := committed

theorem Subscribed.withdraw {settings : Settings} {server : Server}
    (subscribed : server.Subscribed settings) (objectId : String) :
    Subscribed settings ⟨{ server.bridge with
      registry := server.bridge.registry.remove objectId
      storage := server.bridge.storage.deleteEntity objectId }, server.subscriptions⟩ := by
  have stored : Accepted settings (server.bridge.storage.deleteEntity objectId).db.entities := by
    intro entityId platform cfg entity hrow built
    rw [MqttBridge.entities_deleteEntity] at hrow
    split at hrow
    · cases hrow
    · exact subscribed.stored entityId platform cfg entity hrow built
  refine subscribed.of_keeps (subscribed.sound.remove objectId) id (fun _ => id) ?_ stored stored
  intro entityId live hget
  rw [Registry.get_remove] at hget
  split at hget
  · cases hget
  · exact ⟨live, hget, rfl⟩

theorem Subscribed.announce {settings : Settings} {server : Server}
    (subscribed : server.Subscribed settings) {platform objectId : String} {cfg : EntityConfig}
    {entity : Entity} (built : cfg.entity objectId platform = some entity)
    (valid : settings.accepts entity.stateTopic = true) :
    Subscribed settings ⟨{ server.bridge with
      registry := server.bridge.registry.upsert entity
      storage := server.bridge.storage.saveEntity objectId platform cfg },
      server.subscriptions ++ [entity.stateTopic]⟩ := by
  have stored :
      Accepted settings (server.bridge.storage.saveEntity objectId platform cfg).db.entities := by
    intro entityId otherPlatform otherCfg other hrow otherBuilt
    rw [MqttBridge.entities_saveEntity] at hrow
    split at hrow
    · rename_i here
      cases hrow
      rw [← here, built] at otherBuilt
      cases otherBuilt
      exact valid
    · exact subscribed.stored entityId otherPlatform otherCfg other hrow otherBuilt
  have hget := Registry.get_upsert subscribed.sound entity
  refine ⟨subscribed.sound.upsert entity, fun connected => ?_,
    fun connected entityId live here => ?_, fun entityId live here => ?_, stored, stored⟩
  · exact List.mem_append_left _ (subscribed.configs connected)
  · rw [hget] at here
    split at here
    · cases here
      exact List.mem_append_right _ (List.mem_singleton_self _)
    · exact List.mem_append_left _ (subscribed.states connected entityId live here)
  · rw [hget] at here
    split at here
    · cases here
      exact valid
    · exact subscribed.registered entityId live here

theorem Subscribed.hear {settings : Settings} {server : Server}
    (subscribed : server.Subscribed settings) {topic : String} {ref : ℕ} {live : LiveEntity}
    (href : server.bridge.registry.byTopic[topic]? = some ref)
    (hlive : server.bridge.registry.objects[ref]? = some live) (value : Option PyFloat)
    (text : Option String) (now : ℚ) :
    Subscribed settings ⟨{ server.bridge with
      lastMessage := some now
      registry := server.bridge.registry.updateState ref value text now
      storage := (server.bridge.storage.record live.entity.id value text now).1 },
      server.subscriptions⟩ := by
  have same := record_databases server.bridge.storage live.entity.id value text now
  refine subscribed.of_keeps (subscribed.sound.setState ref value text _) id (fun _ => id) ?_
    (by rw [same.1]; exact subscribed.stored) (by rw [same.2]; exact subscribed.committed)
  intro entityId other hget
  rw [Registry.get_updateState subscribed.sound href hlive] at hget
  split at hget
  · rename_i here
    cases hget
    refine ⟨live, ?_, rfl⟩
    rw [← here, Registry.get, (subscribed.sound.of_topic href hlive).2]
    exact hlive
  · exact ⟨other, hget, rfl⟩

theorem Subscribed.message {settings : Settings} {server : Server}
    (subscribed : server.Subscribed settings) {topic payload : String} {now : ℚ}
    (accepted : Event.Accepted settings (.message topic payload now)) :
    Subscribed settings ⟨(server.bridge.onMessage settings.setup topic payload now).1,
      server.subscriptions ++ topics (performed settings.accepts
        (server.bridge.onMessage settings.setup topic payload now).2)⟩ := by
  have reaction := server.bridge.reaction_onMessage settings.setup topic payload now
  generalize server.bridge.onMessage settings.setup topic payload now = result at reaction ⊢
  cases reaction with
  | ignored | absent => exact (List.append_nil server.subscriptions).symm ▸ subscribed
  | withdrawn decided =>
      exact (List.append_nil server.subscriptions).symm ▸ subscribed.withdraw _
  | announced decided built =>
      have valid : settings.accepts _ = true :=
        accepted _ (congrArg (·.bind Prod.snd) decided)
      rw [performed_eq_self]
      · exact subscribed.announce built valid
      · intro topic hmem
        simp only [List.mem_cons, Effect.subscribe.injEq, reduceCtorEq, List.not_mem_nil,
          or_false] at hmem
        rw [hmem]
        exact valid
  | told _ href hlive =>
      exact (List.append_nil server.subscriptions).symm ▸ subscribed.hear href hlive _ _ now

theorem Subscribed.flush {settings : Settings} {server : Server}
    (subscribed : server.Subscribed settings) (fault : Option Fault) :
    Subscribed settings { server with
      bridge := { server.bridge with storage := (server.bridge.storage.flush fault).1 } } := by
  have flushed := discovered_flush server.bridge.storage fault
  have stored := subscribed.stored.of_same fun entityId => (flushed entityId).1
  refine subscribed.of_keeps subscribed.sound id (fun _ => id)
    (fun _ live hget => ⟨live, hget, rfl⟩) stored ?_
  rcases (flushed "").2 with kept | done
  · dsimp only
    rw [kept]
    exact subscribed.committed
  · dsimp only
    rw [done]
    exact stored

theorem Subscribed.step {settings : Settings} {server next : Server} {event : Event}
    {new : List Output}
    (valid : settings.accepts (settings.setup.discoveryPrefix ++ "/+/+/config") = true)
    (accepted : event.Accepted settings) (subscribed : server.Subscribed settings)
    (hstep : (machine settings).step server event = some (next, new)) :
    next.Subscribed settings := by
  cases event with
  | connect isFailure =>
      cases isFailure with
      | true =>
          cases hstep
          exact subscribed
      | false =>
          cases hstep
          exact subscribed.connect valid
  | disconnect =>
      cases hstep
      exact ⟨subscribed.sound, nofun, nofun, subscribed.registered, subscribed.stored,
        subscribed.committed⟩
  | message topic payload now =>
      cases hstep
      exact subscribed.message accepted
  | flush fault =>
      cases hstep
      exact subscribed.flush fault
  | purge now =>
      cases hstep
      exact subscribed.of_keeps subscribed.sound id (fun _ => id)
        (fun _ live hget => ⟨live, hget, rfl⟩) subscribed.stored subscribed.stored
  | command entityId value sent =>
      cases hstep
      exact subscribed
  | restart order =>
      obtain ⟨-, hresult⟩ := Option.ite_none_right_eq_some.mp hstep
      cases hresult
      exact subscribed_boot (subscribed.flush none).committed order

/-! ## Runs -/

/-- In every run of the server in which `subscribe` accepts the topics of the announcements and
of every entity that is in the file or is announced, through all disconnections, discoveries and
restarts, a client that is connected is subscribed to the announcements and to the state of
every registered entity. -/
theorem subscribed_run {settings : Settings} {file : Database} {order : List String}
    {events : List Event} {last : Server} {outs : List Output}
    (valid : settings.accepts (settings.setup.discoveryPrefix ++ "/+/+/config") = true)
    (filed : Accepted settings file.entities)
    (accepted : ∀ event ∈ events, event.Accepted settings)
    (hrun : (machine settings).run (boot settings file order) events = some (last, outs))
    (connected : last.bridge.connected = true) :
    settings.setup.discoveryPrefix ++ "/+/+/config" ∈ last.subscriptions ∧
      ∀ entityId live, last.bridge.registry.get entityId = some live →
        live.entity.stateTopic ∈ last.subscriptions := by
  have subscribed : last.Subscribed settings :=
    (machine settings).run_history_along (fun _ server _ => server.Subscribed settings)
      (fun here event hstep => here.step valid event hstep) (subscribed_boot filed order)
      ((machine settings).along_of_events fun event hmem _ => accepted event hmem) hrun
  exact ⟨subscribed.configs connected, subscribed.states connected⟩

/-- An entity that was discovered before a restart is subscribed to after it. -/
theorem subscribed_run_restart :
    ∃ last outs, (machine oneConfig.settings).run (boot oneConfig.settings {} [])
        [.connect false, .message "homeassistant/sensor/valve/config" configText 1,
          .restart ["valve"], .connect false] = some (last, outs) ∧
      (last.bridge.registry.get "valve").isSome = true ∧ "t" ∈ last.subscriptions := by
  have runs : ((machine oneConfig.settings).run (boot oneConfig.settings {} [])
      [.connect false, .message "homeassistant/sensor/valve/config" configText 1,
        .restart ["valve"], .connect false]).map (fun result =>
        (result.1.bridge.connected,
          (result.1.bridge.registry.get "valve").map fun live => live.entity.stateTopic)) =
      some (true, some "t") := by
    decide +kernel
  obtain ⟨⟨last, outs⟩, hrun, found⟩ := Option.map_eq_some_iff.mp runs
  obtain ⟨connected, hget⟩ := Prod.mk.inj found
  obtain ⟨live, hlive, htopic⟩ := Option.map_eq_some_iff.mp hget
  refine ⟨last, outs, hrun, by rw [hlive]; rfl, ?_⟩
  rw [← htopic]
  have filed : Accepted oneConfig.settings ({} : Database).entities := by
    intro entityId platform cfg entity hrow
    rw [Std.TreeMap.getElem?_emptyc] at hrow
    cases hrow
  exact (subscribed_run (by decide +kernel) filed (by decide +kernel) hrun connected).2 "valve"
    live hlive

end Server

end NasaCpp.Web
