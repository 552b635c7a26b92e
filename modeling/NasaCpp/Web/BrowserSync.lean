import NasaCpp.Web.SessionFeed

/-!
# Browser and server agree

A browser to which nothing is under way shows the values and texts of the registry, and no
other entities, if its session was a feed all the time.  An event that is dropped from a
full queue without a snapshot to come is never made up for, and neither is a message with a
NaN, as long as no other state follows.
-/

namespace NasaCpp.Web

open General

namespace Session

/-! ## Runs -/

structure Valid (session : Session) : Prop where
  sound : session.bridge.registry.Sound
  feed : session.feed.Inv

theorem valid_start (file : Database) (rows : List (String × EntityRow))
    (heartbeat minInterval : ℤ) : (start file rows heartbeat minInterval).Valid where
  sound := sound_restoreEntities _
  feed := Feed.inv_start _ _

theorem Valid.step {setup : Setup} {session next : Session} {event : SessionEvent}
    {outs : List Effect} (valid : session.Valid) (undisturbed : session.Undisturbed event)
    (hstep : session.step setup event = some (next, outs)) : next.Valid where
  sound := sound_step valid.sound hstep
  feed := by
    rcases feed_step valid.sound undisturbed hstep with taken | same
    · exact valid.feed.step taken
    · rw [← same]
      exact valid.feed

theorem valid_run {setup : Setup} {file : Database} {rows : List (String × EntityRow)}
    {heartbeat minInterval : ℤ} {events : List SessionEvent} {last : Session}
    {outs : List Effect}
    (hrun : (machine setup).run (start file rows heartbeat minInterval) events = some (last, outs))
    (along : (machine setup).Along Undisturbed (start file rows heartbeat minInterval) events) :
    last.Valid :=
  (machine setup).run_history_along (fun _ session _ => session.Valid)
    (fun valid undisturbed hstep => valid.step undisturbed hstep)
    (valid_start file rows heartbeat minInterval) along hrun

/-- No event and no message is under way to the connected browser. -/
structure Quiet (session : Session) : Prop where
  emitting : session.emitting = []
  callbacks : session.callbacks = []
  queue : session.queue = []
  sender : session.sender = .waiting
  wire : session.wire = []

instance (session : Session) : Decidable session.Quiet :=
  decidable_of_iff
    (session.emitting = [] ∧ session.callbacks = [] ∧ session.queue = [] ∧
      session.sender = .waiting ∧ session.wire = [])
    ⟨fun ⟨idle, published, queued, waiting, sent⟩ => ⟨idle, published, queued, waiting, sent⟩,
      fun quiet => ⟨quiet.emitting, quiet.callbacks, quiet.queue, quiet.sender, quiet.wire⟩⟩

theorem Quiet.feed {session : Session} (quiet : session.Quiet) : session.feed.Quiet where
  published := by
    unfold Session.feed
    rw [quiet.emitting, quiet.callbacks]
    rfl
  queue := by
    unfold Session.feed
    rw [quiet.queue]
    rfl
  sender := quiet.sender
  wire := by
    unfold Session.feed
    rw [quiet.wire]
    rfl

/-- The browser has the entities of the registry, with their values and texts. -/
def Agrees (session : Session) : Prop :=
  ∀ entityId : String, session.store.entities[entityId]?.map LiveEntity.state =
    (session.bridge.registry.get entityId).map LiveEntity.state

/-- After any undisturbed run of all parties, a browser to which nothing is under way agrees
with the registry. -/
theorem browser_agrees {setup : Setup} {file : Database} {rows : List (String × EntityRow)}
    {heartbeat minInterval : ℤ} {events : List SessionEvent} {last : Session}
    {outs : List Effect}
    (hrun : (machine setup).run (start file rows heartbeat minInterval) events = some (last, outs))
    (along : (machine setup).Along Undisturbed (start file rows heartbeat minInterval) events)
    (quiet : last.Quiet) : last.Agrees := fun entityId =>
  congrFun ((valid_run hrun along).feed.agree quiet.feed) entityId

def opening : List SessionEvent :=
  [.message "homeassistant/sensor/valve/config" configText 0, .publish, .fanOut, .connect, .receive]

/-- A state is thrown away with the queue, and is in the snapshot. -/
theorem browser_agrees_coalesced :
    ∃ last outs, (machine oneConfig).run (start {} [] 300 0) (opening ++
        [.message "homeassistant/sensor/valve/config" configText 1, .publish, .fanOut, .send,
          .message "t" "5" 2, .publish, .fanOut, .snapshot, .receive]) = some (last, outs) ∧
      last.store.entities["valve"]?.map LiveEntity.state = some (some (.finite 5), none) := by
  have ran : ((machine oneConfig).run (start {} [] 300 0) (opening ++
      [.message "homeassistant/sensor/valve/config" configText 1, .publish, .fanOut, .send,
        .message "t" "5" 2, .publish, .fanOut, .snapshot, .receive])).any (fun result => decide
      (result.1.Quiet ∧
        (result.1.bridge.registry.get "valve").map LiveEntity.state =
          some (some (.finite 5), none))) = true := by
    decide +kernel
  obtain ⟨⟨last, outs⟩, hrun, facts⟩ := (Option.any_eq_true _ _).mp ran
  obtain ⟨quiet, state⟩ := of_decide_eq_true facts
  have agrees := browser_agrees hrun (by decide +kernel) quiet
  exact ⟨last, outs, hrun, (agrees "valve").trans state⟩

/-! ## Dropped events -/

def Hears (bridge : MqttBridge) (topic : String) (entity : Entity) : Prop :=
  ∃ (ref : Nat) (live : LiveEntity), bridge.registry.byTopic[topic]? = some ref ∧
    bridge.registry.byId[entity.id]? = some ref ∧ bridge.registry.objects[ref]? = some live ∧
      live.entity = entity

theorem onMessage_report {setup : Setup} {bridge : MqttBridge} {topic payload : String}
    {entity : Entity} {value : PyFloat} (hears : Hears bridge topic entity)
    (report : ¬ setup.IsConfigTopic topic)
    (reads : setup.parseState entity payload = some (some value, none)) (now : ℚ) :
    ∃ next, bridge.onMessage setup topic payload now =
        (next, [.emit (.state entity.id (some value) none now)]) ∧
      Hears next topic entity ∧
      (next.registry.get entity.id).map LiveEntity.state = some (some value, none) := by
  obtain ⟨ref, live, htopic, hid, hlive, rfl⟩ := hears
  let next : MqttBridge :=
    { bridge with
      lastMessage := some now
      registry := bridge.registry.updateState ref (some value) none now
      storage := (bridge.storage.record live.entity.id (some value) none now).1 }
  have object : next.registry.objects[ref]? =
      some { live with value := some value, text := none, updated := some now } := by
    change (bridge.registry.objects.modify ref _)[ref]? = _
    rw [List.getElem?_modify_eq, hlive]
    rfl
  refine ⟨next, ?_, ⟨ref, _, htopic, hid, object, rfl⟩, ?_⟩
  · unfold MqttBridge.onMessage
    rw [if_neg report, htopic]
    dsimp only
    rw [hlive]
    dsimp only
    unfold MqttBridge.handleState
    rw [reads]
  · have index : next.registry.byId[live.entity.id]? = some ref := hid
    rw [Registry.get, index, Option.bind_some, object]
    rfl

/-- A report on its way to the queue. -/
theorem run_report {setup : Setup} {session : Session} {topic payload : String}
    {entity : Entity} {value : PyFloat} (hears : Hears session.bridge topic entity)
    (report : ¬ setup.IsConfigTopic topic)
    (reads : setup.parseState entity payload = some (some value, none)) (now : ℚ)
    (idle : session.emitting = []) (done : session.callbacks = []) :
    ∃ bridge outs, (machine setup).run session [.message topic payload now, .publish, .fanOut] =
        some ({ session with bridge }.fanOut (.state entity.id (some value) none now), outs) ∧
      Hears bridge topic entity ∧
      (bridge.registry.get entity.id).map LiveEntity.state = some (some value, none) := by
  obtain ⟨bridge, emitting, callbacks, queue, sender, wire, store⟩ := session
  cases idle
  cases done
  obtain ⟨next, handled, hears', state⟩ := onMessage_report hears report reads now
  refine ⟨next, [.emit (.state entity.id (some value) none now)], ?_, hears', state⟩
  have first : (machine setup).step ⟨bridge, [], [], queue, sender, wire, store⟩
      (.message topic payload now) =
      some (⟨next, [.state entity.id (some value) none now], [], queue, sender, wire, store⟩,
        [.emit (.state entity.id (some value) none now)]) := by
    dsimp only [machine, step]
    rw [callback, if_pos rfl, handled]
    rfl
  exact (machine setup).run_cons_eq_some.mpr ⟨_, _, _, first,
    (machine setup).run_cons_eq_some.mpr ⟨_, _, _, rfl,
      (machine setup).run_cons_eq_some.mpr ⟨_, _, _, rfl, rfl, rfl⟩, rfl⟩, rfl⟩

/-- The queue holds one event a number of times, and nothing else is under way. -/
structure Backlog (event : HubEvent) (count : ℕ) (session : Session) : Prop where
  emitting : session.emitting = []
  callbacks : session.callbacks = []
  queue : session.queue = List.replicate count event
  sender : session.sender = .waiting
  wire : session.wire = []

theorem Backlog.quiet {event : HubEvent} {session : Session} (backlog : Backlog event 0 session) :
    session.Quiet :=
  ⟨backlog.emitting, backlog.callbacks, backlog.queue, backlog.sender, backlog.wire⟩

theorem Quiet.backlog {session : Session} (quiet : session.Quiet) (event : HubEvent) :
    Backlog event 0 session :=
  ⟨quiet.emitting, quiet.callbacks, quiet.queue, quiet.sender, quiet.wire⟩

theorem Backlog.with_bridge {event : HubEvent} {count : ℕ} {session : Session}
    (backlog : Backlog event count session) (bridge : MqttBridge) :
    Backlog event count { session with bridge } :=
  ⟨backlog.emitting, backlog.callbacks, backlog.queue, backlog.sender, backlog.wire⟩

theorem Backlog.fanOut {event : HubEvent} {count : ℕ} {session : Session}
    (backlog : Backlog event count session) (room : count < queueLimit) :
    Backlog event (count + 1) (session.fanOut event) := by
  have taken : session.fanOut event = { session with queue := session.queue ++ [event] } := by
    refine if_pos ⟨?_, ?_⟩
    · rw [backlog.sender]
      nofun
    · rw [backlog.queue, List.length_replicate]
      exact room
  rw [taken]
  refine ⟨backlog.emitting, backlog.callbacks, ?_, backlog.sender, backlog.wire⟩
  rw [List.replicate_succ', ← backlog.queue]

theorem Backlog.fanOut_full {event : HubEvent} {session : Session}
    (backlog : Backlog event queueLimit session) (other : HubEvent) :
    session.fanOut other = session := by
  refine if_neg fun room => ?_
  rw [backlog.queue, List.length_replicate] at room
  exact Nat.lt_irrefl _ room.2

/-- Reports of one value fill the queue while the sender does not get to run. -/
theorem run_flood {setup : Setup} {session : Session} {topic payload : String} {entity : Entity}
    {value : PyFloat} {now : ℚ} (report : ¬ setup.IsConfigTopic topic)
    (reads : setup.parseState entity payload = some (some value, none))
    (backlog : Backlog (.state entity.id (some value) none now) 0 session)
    (hears : Hears session.bridge topic entity) :
    ∃ last outs, (machine setup).run session
        (List.replicate queueLimit [.message topic payload now, .publish, .fanOut]).flatten =
          some (last, outs) ∧
      Backlog (.state entity.id (some value) none now) queueLimit last ∧
      Hears last.bridge topic entity ∧ last.store = session.store := by
  refine (machine setup).run_repeat (fun count state =>
    Backlog (.state entity.id (some value) none now) count state ∧
      Hears state.bridge topic entity ∧ state.store = session.store) ?_ queueLimit le_rfl session
    ⟨backlog, hears, rfl⟩
  rintro count room state ⟨backlog, hears, store⟩
  obtain ⟨bridge, outs, hrun, hears', -⟩ :=
    run_report hears report reads now backlog.emitting backlog.callbacks
  refine ⟨_, outs, hrun, (backlog.with_bridge bridge).fanOut room, ?_, ?_⟩
  · rw [bridge_fanOut]
    exact hears'
  · unfold Session.fanOut
    split <;> exact store

/-- The sender and the browser work off a queue of one value; another value does not appear. -/
theorem run_drain {setup : Setup} {session : Session} {id : String} {value : Option PyFloat}
    {text : Option String} {ts : ℚ} {other : Option PyFloat × Option String} {count : ℕ}
    (backlog : Backlog (.state id value text ts) count session) (differs : (value, text) ≠ other)
    (absent : session.store.view id ≠ some other) :
    ∃ last outs, (machine setup).run session (List.replicate count [.send, .receive]).flatten =
        some (last, outs) ∧
      Backlog (.state id value text ts) 0 last ∧ last.bridge = session.bridge ∧
      last.store.view id ≠ some other := by
  have advance : ∀ done < count, ∀ state : Session,
      (Backlog (.state id value text ts) (count - done) state ∧ state.bridge = session.bridge ∧
        state.store.view id ≠ some other) →
      ∃ next outs, (machine setup).run state [.send, .receive] = some (next, outs) ∧
        Backlog (.state id value text ts) (count - (done + 1)) next ∧
        next.bridge = session.bridge ∧ next.store.view id ≠ some other := by
    rintro done below ⟨bridge, emitting, callbacks, queue, sender, wire, store⟩
      ⟨⟨idle, published, queued, waiting, sent⟩, same, absent⟩
    cases idle
    cases published
    cases waiting
    cases sent
    have left : count - done = count - (done + 1) + 1 := by omega
    rw [left, List.replicate_succ] at queued
    cases queued
    exact ⟨⟨bridge, [], [], List.replicate (count - (done + 1)) (.state id value text ts),
      .waiting, [], store.onMessage (.state id value text ts)⟩, [], rfl,
      ⟨rfl, rfl, rfl, rfl, rfl⟩, same, Store.state_not_shown differs absent⟩
  have drained := (machine setup).run_repeat _ advance count le_rfl session
    ⟨backlog, rfl, absent⟩
  rwa [Nat.sub_self] at drained

def valve : Entity where
  id := "valve"
  name := "valve"
  platform := "sensor"
  stateTopic := "t"

theorem opening_run :
    ∃ session outs, (machine oneConfig).run (start {} [] 300 0) opening = some (session, outs) ∧
      Backlog (.state valve.id (some (.finite 1)) none 0) 0 session ∧
      Hears session.bridge "t" valve ∧ session.store.view valve.id = some (none, none) := by
  have opened : ((machine oneConfig).run (start {} [] 300 0) opening).any (fun result => decide
      (result.1.Quiet ∧
        (result.1.bridge.registry.byTopic["t"]? = some 0 ∧
          result.1.bridge.registry.byId["valve"]? = some 0 ∧
          result.1.bridge.registry.objects[0]?.map LiveEntity.entity = some valve) ∧
        result.1.store.view "valve" = some (none, none))) = true := by
    decide +kernel
  obtain ⟨⟨session, outs⟩, hrun, facts⟩ := (Option.any_eq_true _ _).mp opened
  obtain ⟨quiet, ⟨htopic, hid, hlive⟩, shown⟩ := of_decide_eq_true facts
  obtain ⟨live, hobject, hentity⟩ := Option.map_eq_some_iff.mp hlive
  exact ⟨session, outs, hrun, quiet.backlog _, ⟨0, live, htopic, hid, hobject, hentity⟩, shown⟩

/-- While the browser reads nothing, a thousand reports of one value and one of another come. -/
def flood : List SessionEvent :=
  opening ++
    ((List.replicate queueLimit [.message "t" "1" 0, .publish, .fanOut]).flatten ++
      ([.message "t" "2" 0, .publish, .fanOut] ++
        (List.replicate queueLimit [.send, .receive]).flatten))

/-- The last report is dropped, and no later message makes up for it. -/
theorem disagrees_after_flood :
    ∃ last outs, (machine oneConfig).run (start {} [] 300 0) flood = some (last, outs) ∧
      last.Quiet ∧ ¬ last.Agrees := by
  have report : ¬ oneConfig.IsConfigTopic "t" := by decide +kernel
  have one : oneConfig.parseState valve "1" = some (some (.finite 1), none) := by decide +kernel
  have two : oneConfig.parseState valve "2" = some (some (.finite 2), none) := by decide +kernel
  obtain ⟨opened, outs₁, hopening, empty, hears, shown⟩ := opening_run
  obtain ⟨flooded, outs₂, hflood, full, hears', store⟩ := run_flood report one empty hears
  obtain ⟨bridge, outs₃, hreport, -, current⟩ :=
    run_report hears' report two 0 full.emitting full.callbacks
  have full' := full.with_bridge bridge
  rw [full'.fanOut_full] at hreport
  have differs : ((some (.finite 1), none) : Option PyFloat × Option String) ≠
      (some (.finite 2), none) := by
    decide +kernel
  have absent : flooded.store.view valve.id ≠ some (some (.finite 2), none) := by
    rw [store, shown]
    decide +kernel
  obtain ⟨last, outs₄, hdrain, done, same, absent'⟩ := run_drain full' differs absent
  refine ⟨last, _, (machine oneConfig).run_append_eq_some.mpr ⟨_, _, _, hopening,
    (machine oneConfig).run_append_eq_some.mpr ⟨_, _, _, hflood,
      (machine oneConfig).run_append_eq_some.mpr ⟨_, _, _, hreport, hdrain, rfl⟩, rfl⟩, rfl⟩,
    done.quiet, fun agrees => absent' ?_⟩
  have there := agrees valve.id
  rw [same] at there
  exact there.trans current

/-! ## Unreadable messages -/

def readsNan : Setup :=
  { oneConfig with
    parseState entity payload :=
      if payload = "nan" then some (some .nan, none) else entity.readState payload }

/-- The message with a NaN is no JSON, so the browser keeps the state before it. -/
theorem disagrees_after_nan :
    ∃ last outs, (machine readsNan).run (start {} [] 300 0) (opening ++
        [.message "t" "nan" 0, .publish, .fanOut, .send, .receive]) = some (last, outs) ∧
      last.Quiet ∧ ¬ last.Agrees := by
  have ran : ((machine readsNan).run (start {} [] 300 0) (opening ++
      [.message "t" "nan" 0, .publish, .fanOut, .send, .receive])).any (fun result => decide
      (result.1.Quiet ∧
        result.1.store.entities["valve"]?.map LiveEntity.state ≠
          (result.1.bridge.registry.get "valve").map LiveEntity.state)) = true := by
    decide +kernel
  obtain ⟨⟨last, outs⟩, hrun, facts⟩ := (Option.any_eq_true _ _).mp ran
  obtain ⟨quiet, differs⟩ := of_decide_eq_true facts
  exact ⟨last, outs, hrun, quiet, fun agrees => differs (agrees "valve")⟩

/-- Neither condition can be left out, not even with an empty database: not where all values
are finite, nor where the queue never fills up. -/
theorem not_browser_agrees :
    (¬ ∀ (events : List SessionEvent) (last : Session) (outs : List Effect),
      (machine oneConfig).run (start {} [] 300 0) events = some (last, outs) →
        last.Quiet → last.Agrees) ∧
    ¬ ∀ (setup : Setup) (events : List SessionEvent) (last : Session) (outs : List Effect),
      (machine setup).run (start {} [] 300 0) events = some (last, outs) →
        (machine setup).Along (fun session event =>
          event = .fanOut → session.queue.length < queueLimit) (start {} [] 300 0) events →
        last.Quiet → last.Agrees := by
  constructor
  · intro all
    obtain ⟨last, outs, hrun, quiet, differs⟩ := disagrees_after_flood
    exact differs (all flood last outs hrun quiet)
  · intro all
    obtain ⟨last, outs, hrun, quiet, differs⟩ := disagrees_after_nan
    exact differs (all readsNan _ last outs hrun (by decide +kernel) quiet)

end Session

end NasaCpp.Web
