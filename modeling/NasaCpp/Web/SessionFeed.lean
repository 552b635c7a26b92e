import NasaCpp.General.LastEntry
import NasaCpp.Web.Hub

/-!
# Sessions are feeds

The registry publishes every state that it takes and asks for a snapshot after every other
change.  So a session is a feed of the values and texts, as long as no event is dropped
that no snapshot makes up for and the browser can read what it receives.
-/

namespace NasaCpp.Web

open General

/-! ## Views -/

def LiveEntity.state (live : LiveEntity) : Option PyFloat × Option String :=
  (live.value, live.text)

def Registry.view (registry : Registry) : View String (Option PyFloat × Option String) :=
  fun entityId => (registry.get entityId).map LiveEntity.state

def Store.view (store : Store) : View String (Option PyFloat × Option String) :=
  fun entityId => store.entities[entityId]?.map LiveEntity.state

def HubEvent.notice : HubEvent → Notice String (Option PyFloat × Option String)
  | .status _ => .signal
  | .entities => .refresh
  | .state id value text _ => .assign id (value, text)

def WsMessage.update : WsMessage → Update String (Option PyFloat × Option String)
  | .snapshot entities => .snapshot (Store.setEntities entities).view
  | .status => .signal
  | .state id value text _ => .assign id (value, text)

/-- The feed of a session: an event that the MQTT thread has yet to pass on counts as published. -/
def Session.feed (session : Session) : Feed String (Option PyFloat × Option String) where
  server := session.bridge.registry.view
  published := (session.callbacks ++ session.emitting).map HubEvent.notice
  queue := session.queue.map HubEvent.notice
  sender := session.sender
  wire := session.wire.map WsMessage.update
  client := session.store.view

theorem notices_concat (events : List HubEvent) (event : HubEvent) :
    (events ++ [event]).map HubEvent.notice = events.map HubEvent.notice ++ [event.notice] :=
  List.map_append

theorem updates_concat (messages : List WsMessage) (message : WsMessage) :
    (messages ++ [message]).map WsMessage.update =
      messages.map WsMessage.update ++ [message.update] :=
  List.map_append

/-! ## Snapshots -/

namespace Store

theorem overwrites :
    Overwrites (fun live : LiveEntity => live.entity.id)
      (fun byId live => byId.insert live.entity.id live)
      (fun (byId : Std.TreeMap String LiveEntity) entityId => byId[entityId]?) id where
  lookup_write byId live entityId := Maps.lookup_insert byId live.entity.id entityId live

theorem entities_setEntities (entities : List LiveEntity) (entityId : String) :
    (setEntities entities).entities[entityId]? =
      lastFor (fun live => live.entity.id) entities entityId := by
  refine (overwrites.lookup_foldl {} entities entityId).trans ?_
  rw [Option.map_id, Std.TreeMap.getElem?_emptyc, Option.or_none]
  rfl

end Store

theorem Registry.lastFor_all {registry : Registry} (sound : registry.Sound) (entityId : String) :
    lastFor (fun live => live.entity.id) registry.all entityId = registry.get entityId := by
  cases hlast : lastFor (fun live : LiveEntity => live.entity.id) registry.all entityId with
  | some live =>
      have hid := key_of_lastFor _ hlast
      rw [← hid]
      exact ((Registry.mem_all_iff sound live).mp (mem_of_lastFor _ hlast)).symm
  | none =>
      cases hget : registry.get entityId with
      | none => rfl
      | some live =>
          have hid := sound.id_of_get hget
          rw [← hid] at hget
          exact absurd hid
            ((lastFor_eq_none_iff _).mp hlast live ((Registry.mem_all_iff sound live).mpr hget))

/-- A snapshot of the registry shows the registry. -/
theorem view_setEntities_all {registry : Registry} (sound : registry.Sound) :
    (Store.setEntities registry.all).view = registry.view := by
  funext entityId
  unfold Store.view Registry.view
  rw [Store.entities_setEntities, Registry.lastFor_all sound]

theorem Store.view_onMessage (store : Store) {message : WsMessage} (json : message.HasJson) :
    (store.onMessage message).view = message.update.apply store.view := by
  unfold Store.onMessage
  rw [if_pos json]
  cases message with
  | snapshot entities => rfl
  | status => rfl
  | state id value text ts =>
      funext entityId
      change ((store.entities.modify id _)[entityId]?).map LiveEntity.state =
        store.view.assign id (value, text) entityId
      rw [Maps.lookup_modify]
      unfold View.assign Store.view
      by_cases here : entityId = id
      · rw [if_pos here, if_pos here.symm, Option.map_map, Option.map_map]
        rfl
      · rw [if_neg here, if_neg (Ne.symm here)]

/-- A message with a state shows no other one. -/
theorem Store.state_not_shown {store : Store} {id : String} {value : Option PyFloat}
    {text : Option String} {ts : ℚ} {other : Option PyFloat × Option String}
    (differs : (value, text) ≠ other) (absent : store.view id ≠ some other) :
    (store.onMessage (.state id value text ts)).view id ≠ some other := by
  by_cases json : (WsMessage.state id value text ts).HasJson
  · rw [Store.view_onMessage store json]
    intro shown
    have assigned : (store.view id).map (fun _ => (value, text)) = some other :=
      (if_pos rfl).symm.trans shown
    obtain ⟨_, -, same⟩ := Option.map_eq_some_iff.mp assigned
    exact differs same
  · rw [Store.onMessage, if_neg json]
    exact absent

/-! ## Messages of the broker -/

/-- The events of a callback tell what it has done to the registry. -/
def Tells (registry next : Registry) (events : List HubEvent) : Prop :=
  events = [] ∧ next.view = registry.view ∨
    (∃ up, events = [.status up]) ∧ next.view = registry.view ∨
    events = [.entities] ∨
    ∃ id value text now, events = [.state id value text now] ∧
      next.view = registry.view.assign id (value, text)

theorem tells_handleDiscovery (setup : Setup) (bridge : MqttBridge) (topic payload : String) :
    Tells bridge.registry (bridge.handleDiscovery setup topic payload).1.registry
      (emitted (bridge.handleDiscovery setup topic payload).2) := by
  unfold MqttBridge.handleDiscovery
  split
  · split
    · split
      · exact .inr (.inr (.inl rfl))
      · exact .inl ⟨rfl, rfl⟩
    · split
      · exact .inl ⟨rfl, rfl⟩
      · exact .inr (.inr (.inl rfl))
  · exact .inl ⟨rfl, rfl⟩

theorem view_updateState {registry : Registry} (sound : registry.Sound) {topic : String}
    {ref : Nat} {live : LiveEntity} (href : registry.byTopic[topic]? = some ref)
    (hlive : registry.objects[ref]? = some live) (value : Option PyFloat) (text : Option String)
    (now : ℚ) :
    (registry.updateState ref value text now).view =
      registry.view.assign live.entity.id (value, text) := by
  have hget : registry.get live.entity.id = some live := by
    rw [Registry.get, (sound.of_topic href hlive).2]
    exact hlive
  funext entityId
  unfold Registry.view View.assign
  rw [Registry.get_updateState sound href hlive]
  by_cases here : entityId = live.entity.id
  · rw [if_pos here, if_pos here.symm, here]
    dsimp only
    rw [hget]
    rfl
  · rw [if_neg here, if_neg (Ne.symm here)]

theorem tells_onMessage (setup : Setup) {bridge : MqttBridge} (sound : bridge.registry.Sound)
    (topic payload : String) (now : ℚ) :
    Tells bridge.registry (bridge.onMessage setup topic payload now).1.registry
      (emitted (bridge.onMessage setup topic payload now).2) := by
  unfold MqttBridge.onMessage
  split
  · exact tells_handleDiscovery setup bridge topic payload
  · cases href : bridge.registry.byTopic[topic]? with
    | none => exact .inl ⟨rfl, rfl⟩
    | some ref =>
        dsimp only
        cases hlive : bridge.registry.objects[ref]? with
        | none => exact .inl ⟨rfl, rfl⟩
        | some live =>
            dsimp only
            unfold MqttBridge.handleState
            split
            · exact .inl ⟨rfl, rfl⟩
            · exact .inl ⟨rfl, rfl⟩
            · rename_i value text _ _
              exact .inr (.inr (.inr ⟨_, value, text, now, rfl,
                view_updateState sound href hlive value text now⟩))

theorem sound_restoreEntities (rows : List (String × EntityRow)) :
    (restoreEntities rows).Sound := by
  unfold restoreEntities
  refine List.foldlRecOn rows _ Registry.sound_empty fun registry sound entry _ => ?_
  split
  · exact sound
  · exact (sound.upsert _).setState _ _ _ _

theorem emitted_subscribe (topics : List String) (effects : List Effect) :
    emitted (topics.map .subscribe ++ effects) = emitted effects := by
  induction topics with
  | nil => rfl
  | cons topic topics ih => exact ih

theorem tells_connection (setup : Setup) (bridge : MqttBridge) (up : Bool) :
    Tells bridge.registry
      (if up then bridge.onConnect setup else bridge.onDisconnect).1.registry
      (emitted (if up then bridge.onConnect setup else bridge.onDisconnect).2) := by
  cases up with
  | false => exact .inr (.inl ⟨⟨false, rfl⟩, rfl⟩)
  | true =>
      refine .inr (.inl ⟨⟨true, ?_⟩, rfl⟩)
      exact emitted_subscribe _ _

/-! ## Steps -/

namespace Session

/-- No event gets lost for good, and the browser can read what it receives. -/
def Undisturbed (session : Session) : SessionEvent → Prop
  | .fanOut =>
      session.sender = .waiting → session.queue.length < queueLimit ∨ .entities ∈ session.queue
  | .receive => ∀ message ∈ session.wire.head?, message.HasJson
  | _ => True

instance (session : Session) : ∀ event : SessionEvent, Decidable (session.Undisturbed event)
  | .fanOut => inferInstanceAs (Decidable (_ → _))
  | .receive => inferInstanceAs (Decidable (∀ _ ∈ _, _))
  | .message _ _ _ | .connection _ | .publish | .send | .snapshot | .connect | .disconnect =>
      isTrue trivial

/-- A callback is a step of the feed, or changes nothing. -/
theorem feed_callback {session next : Session} {result : MqttBridge × List Effect}
    {outs : List Effect}
    (tells : Tells session.bridge.registry result.1.registry (emitted result.2))
    (hstep : session.callback result = some (next, outs)) :
    Feed.Step session.feed next.feed ∨ session.feed = next.feed := by
  unfold callback at hstep
  split at hstep
  · rename_i idle
    cases hstep
    unfold feed
    dsimp only
    rw [idle, List.append_nil, List.map_append]
    rcases tells with
      ⟨none, same⟩ | ⟨⟨up, status⟩, same⟩ | refresh | ⟨id, value, text, now, state, assigned⟩
    · rw [none, same, List.map_nil, List.append_nil]
      exact .inr rfl
    · rw [status, same]
      exact .inl (.signal _)
    · rw [refresh]
      exact .inl (.change _ _)
    · rw [state, assigned]
      exact .inl (.assign _ id (value, text))
  · cases hstep

theorem feed_fanOut {session : Session} {event : HubEvent} {rest : List HubEvent}
    (hnext : session.callbacks = event :: rest) (undisturbed : session.Undisturbed .fanOut) :
    Feed.Step session.feed ({ session with callbacks := rest }.fanOut event).feed := by
  have published : session.feed.published =
      event.notice :: (rest ++ session.emitting).map HubEvent.notice := by
    unfold feed
    rw [hnext]
    rfl
  unfold fanOut
  dsimp only
  split
  · have delivered := Feed.Step.deliver session.feed published
    unfold feed at delivered ⊢
    rw [notices_concat]
    exact delivered
  · rename_i full
    refine Feed.Step.drop session.feed published ?_
    by_cases waiting : session.sender = .waiting
    · refine .inr ?_
      rcases undisturbed waiting with room | refresh
      · refine absurd ⟨?_, room⟩ full
        rw [waiting]
        nofun
      · exact List.mem_map_of_mem refresh
    · exact .inl waiting

theorem feed_handle {session : Session} {event : HubEvent} {rest : List HubEvent}
    (waiting : session.sender = .waiting) (hnext : session.queue = event :: rest) :
    Feed.Step session.feed ({ session with queue := rest }.handle event).feed := by
  have queue : session.feed.queue = event.notice :: rest.map HubEvent.notice := by
    unfold feed
    rw [hnext]
    rfl
  cases event with
  | entities => exact Feed.Step.coalesce session.feed queue
  | status up =>
      have sent := Feed.Step.send session.feed waiting queue rfl
      unfold feed at sent ⊢
      unfold handle
      rw [updates_concat]
      exact sent
  | state id value text ts =>
      have sent := Feed.Step.send session.feed waiting queue rfl
      unfold feed at sent ⊢
      unfold handle
      rw [updates_concat]
      exact sent

/-- The browser takes a message that it can read. -/
theorem feed_receive {session : Session} {message : WsMessage} {rest : List WsMessage}
    (hnext : session.wire = message :: rest) (json : message.HasJson) :
    Feed.Step session.feed
      { session with wire := rest, store := session.store.onMessage message }.feed := by
  have wire : session.feed.wire = message.update :: rest.map WsMessage.update := by
    unfold feed
    rw [hnext]
    rfl
  have received := Feed.Step.receive session.feed wire
  unfold feed at received ⊢
  rw [Store.view_onMessage _ json]
  exact received

theorem feed_sendSnapshot {session : Session} (sound : session.bridge.registry.Sound) :
    Feed.Step session.feed session.sendSnapshot.feed := by
  have sent := Feed.Step.snapshot session.feed
  unfold feed at sent ⊢
  unfold sendSnapshot
  dsimp only at sent ⊢
  rw [updates_concat, WsMessage.update, view_setEntities_all sound]
  exact sent

/-- Every step is one of the feed, or changes nothing that the feed shows. -/
theorem feed_step {setup : Setup} {session next : Session} {event : SessionEvent}
    {outs : List Effect} (sound : session.bridge.registry.Sound)
    (undisturbed : session.Undisturbed event)
    (hstep : session.step setup event = some (next, outs)) :
    Feed.Step session.feed next.feed ∨ session.feed = next.feed := by
  cases event with
  | message topic payload now =>
      exact feed_callback (tells_onMessage setup sound topic payload now) hstep
  | connection up => exact feed_callback (tells_connection setup session.bridge up) hstep
  | publish =>
      dsimp only [step] at hstep
      split at hstep
      · cases hstep
      · rename_i event rest hnext
        cases hstep
        right
        unfold feed
        rw [hnext, List.append_cons]
  | fanOut =>
      dsimp only [step] at hstep
      split at hstep
      · cases hstep
      · rename_i event rest hnext
        cases hstep
        exact .inl (feed_fanOut hnext undisturbed)
  | send =>
      dsimp only [step] at hstep
      split at hstep
      · rename_i event rest waiting hnext
        cases hstep
        exact .inl (feed_handle waiting hnext)
      · cases hstep
  | snapshot =>
      dsimp only [step] at hstep
      split at hstep
      · cases hstep
        exact .inl (feed_sendSnapshot sound)
      · cases hstep
  | receive =>
      dsimp only [step] at hstep
      split at hstep
      · cases hstep
      · rename_i message rest hnext
        cases hstep
        exact .inl (feed_receive hnext (undisturbed message (by rw [hnext]; rfl)))
  | connect =>
      dsimp only [step] at hstep
      split at hstep
      · cases hstep
        exact .inl (feed_sendSnapshot sound)
      · cases hstep
  | disconnect =>
      cases hstep
      exact .inl (.disconnect _)

@[simp] theorem bridge_fanOut (session : Session) (event : HubEvent) :
    (session.fanOut event).bridge = session.bridge := by
  unfold fanOut
  split <;> rfl

@[simp] theorem bridge_handle (session : Session) (event : HubEvent) :
    (session.handle event).bridge = session.bridge := by
  cases event <;> rfl

theorem bridge_callback {session next : Session} {result : MqttBridge × List Effect}
    {outs : List Effect} (hstep : session.callback result = some (next, outs)) :
    next.bridge = result.1 := by
  unfold callback at hstep
  split at hstep
  · cases hstep
    rfl
  · cases hstep

theorem sound_step {setup : Setup} {session next : Session} {event : SessionEvent}
    {outs : List Effect} (sound : session.bridge.registry.Sound)
    (hstep : session.step setup event = some (next, outs)) : next.bridge.registry.Sound := by
  cases event with
  | message topic payload now =>
      rw [bridge_callback hstep]
      exact MqttBridge.sound_onMessage setup sound topic payload now
  | connection up =>
      rw [bridge_callback hstep]
      cases up <;> exact sound
  | publish | fanOut | send | snapshot | receive | connect =>
      dsimp only [step] at hstep
      split at hstep <;> cases hstep
      first
        | exact sound
        | rw [bridge_fanOut]; exact sound
        | rw [bridge_handle]; exact sound
  | disconnect =>
      cases hstep
      exact sound

end Session

end NasaCpp.Web
