import NasaCpp.Apps.BridgeViews
import NasaCpp.Bridge.TopicMaps
import NasaCpp.Web.BrowserSync
import NasaCpp.Web.Server

/-!
# From the bus to the browser

The bridge publishes the values it decodes, the web server keeps the last state of each
topic, and its browsers show what it keeps.  So once nothing is under way, a browser shows
what the last message about a number has said on the bus, if the broker has delivered the
last publication of its topic.
-/

namespace NasaCpp.Web.Session

open General Handler Protocol

/-! ## The bridge -/

def payloads (outs : List Bridge.Output) : List (String × String) :=
  outs.filterMap fun
    | .publish topic payload _ => some (topic, payload)
    | _ => none

theorem payloads_append (first second : List Bridge.Output) :
    payloads (first ++ second) = payloads first ++ payloads second :=
  List.filterMap_append

def numberOf (msg : MessageSet) : UInt16 := msg.messageNumber.code

/-- A message is published on the topic of its number. -/
theorem lastFor_stateOf {entries : UInt16 → Option Bridge.Entry} {n : UInt16}
    {entry : Bridge.Entry} (here : entries n = some entry)
    (alone : ∀ m other, entries m = some other → n ≠ m →
      entry.1.stateTopic ≠ other.1.stateTopic) (msg : MessageSet) :
    lastFor Prod.fst (payloads ([msg].filterMap (Bridge.stateOf entries))) entry.1.stateTopic =
      if numberOf msg = n then
        some (entry.1.stateTopic, entry.1.stateText (MsgHandler.valueIn ⟨n⟩ msg))
      else none := by
  have told : Bridge.stateOf entries msg = (entries (numberOf msg)).map fun other =>
      .publish other.1.stateTopic (other.1.stateText (MsgHandler.valueIn msg.messageNumber msg))
        other.2.retained := rfl
  by_cases same : numberOf msg = n
  · have number : msg.messageNumber = ⟨n⟩ := by
      rw [← same]
      rfl
    rw [same, here, number] at told
    rw [List.filterMap_cons_some told, if_pos same]
    exact (lastFor_concat Prod.fst [] _ _).trans (if_pos rfl)
  · rw [if_neg same]
    cases found : entries (numberOf msg) with
    | none =>
        rw [found] at told
        rw [List.filterMap_cons_none told]
        rfl
    | some other =>
        rw [found] at told
        rw [List.filterMap_cons_some told]
        exact (lastFor_concat Prod.fst [] _ _).trans
          (if_neg (alone _ other found (Ne.symm same)).symm)

/-- On a topic that no other number has, the last payload is that of the last message. -/
theorem lastFor_payloads {entries : UInt16 → Option Bridge.Entry} {n : UInt16}
    {entry : Bridge.Entry} (here : entries n = some entry)
    (alone : ∀ m other, entries m = some other → n ≠ m →
      entry.1.stateTopic ≠ other.1.stateTopic) (msgs : List MessageSet) :
    lastFor Prod.fst (payloads (msgs.filterMap (Bridge.stateOf entries))) entry.1.stateTopic =
      (lastFor numberOf msgs n).map fun msg =>
        (entry.1.stateTopic, entry.1.stateText (MsgHandler.valueIn ⟨n⟩ msg)) := by
  induction msgs using List.reverseRecOn with
  | nil => rfl
  | append_singleton msgs msg ih =>
      rw [List.filterMap_append, payloads_append, lastFor_append, ih, lastFor_concat,
        lastFor_stateOf here alone]
      split <;> rfl

/-! ## The web server -/

def reports (events : List SessionEvent) : List (String × String) :=
  events.filterMap fun
    | .message topic payload _ => some (topic, payload)
    | _ => none

/-- No message is an announcement. -/
def Announced (setup : Setup) (events : List SessionEvent) : Prop :=
  ∀ report ∈ reports events, ¬ setup.IsConfigTopic report.1

instance (setup : Setup) (events : List SessionEvent) : Decidable (Announced setup events) :=
  inferInstanceAs (Decidable (∀ report ∈ _, _))

theorem reports_append (first second : List SessionEvent) :
    reports (first ++ second) = reports first ++ reports second :=
  List.filterMap_append

theorem Hears.topic {bridge : MqttBridge} {topic : String} {entity : Entity}
    (hears : Hears bridge topic entity) (sound : bridge.registry.Sound) :
    entity.stateTopic = topic := by
  obtain ⟨ref, live, htopic, -, hlive, rfl⟩ := hears
  exact (sound.of_topic htopic hlive).1

/-- A state that is told changes no registration. -/
theorem Hears.updateState {bridge : MqttBridge} {topic : String} {entity : Entity}
    (hears : Hears bridge topic entity) (ref : ℕ) (value : Option PyFloat) (text : Option String)
    (now : ℚ) (storage : Storage) :
    Hears { bridge with
      lastMessage := some now
      registry := bridge.registry.updateState ref value text now
      storage } topic entity := by
  obtain ⟨own, live, htopic, hid, hlive, hentity⟩ := hears
  by_cases here : ref = own
  · refine ⟨own, { live with value, text, updated := some now }, htopic, hid, ?_, hentity⟩
    change (bridge.registry.objects.modify ref _)[own]? = _
    rw [here, List.getElem?_modify_eq, hlive]
    rfl
  · refine ⟨own, live, htopic, hid, ?_, hentity⟩
    change (bridge.registry.objects.modify ref _)[own]? = _
    rw [List.getElem?_modify_ne _ _ here, hlive]

/-- A message that is no announcement tells the state of the entity with its topic, if any. -/
theorem onMessage_plain {setup : Setup} (bridge : MqttBridge) {topic : String}
    (plain : ¬ setup.IsConfigTopic topic) (payload : String) (now : ℚ) :
    bridge.onMessage setup topic payload now = (bridge, []) ∨
      ∃ ref live value text, bridge.registry.byTopic[topic]? = some ref ∧
        bridge.registry.objects[ref]? = some live ∧
        bridge.onMessage setup topic payload now = ({ bridge with
          lastMessage := some now
          registry := bridge.registry.updateState ref value text now
          storage := (bridge.storage.record live.entity.id value text now).1 },
          [.emit (.state live.entity.id value text now)]) := by
  have silent : setup.decision topic payload = none := if_neg plain
  have reaction := bridge.reaction_onMessage setup topic payload now
  generalize bridge.onMessage setup topic payload now = result at reaction ⊢
  cases reaction with
  | ignored | absent => exact .inl rfl
  | withdrawn decided | announced decided =>
      rw [silent] at decided
      cases decided
  | told _ href hlive => exact .inr ⟨_, _, _, _, href, hlive, rfl⟩

/-- A message on the topic of an entity tells its state. -/
theorem onMessage_hears {setup : Setup} {bridge : MqttBridge} {topic payload : String}
    {entity : Entity} {value : Option PyFloat} {text : Option String}
    (hears : Hears bridge topic entity) (plain : ¬ setup.IsConfigTopic topic)
    (reads : setup.parseState entity payload = some (value, text))
    (told : (value, text) ≠ (none, none)) (now : ℚ) :
    ∃ ref live, bridge.registry.byTopic[topic]? = some ref ∧
      bridge.registry.objects[ref]? = some live ∧ live.entity = entity ∧
      (bridge.onMessage setup topic payload now).1.registry =
        bridge.registry.updateState ref value text now := by
  obtain ⟨ref, live, htopic, -, hlive, hentity⟩ := hears
  refine ⟨ref, live, htopic, hlive, hentity, ?_⟩
  unfold MqttBridge.onMessage
  rw [if_neg plain, htopic]
  dsimp only
  rw [hlive]
  dsimp only
  rw [hentity]
  unfold MqttBridge.handleState
  rw [reads]
  cases value <;> cases text
  · exact absurd rfl told
  all_goals rfl

/-- A message on another topic is not about the entity. -/
theorem Hears.elsewhere {bridge : MqttBridge} {topic other : String} {entity : Entity}
    {ref : ℕ} {live : LiveEntity} (hears : Hears bridge topic entity)
    (sound : bridge.registry.Sound) (href : bridge.registry.byTopic[other]? = some ref)
    (hlive : bridge.registry.objects[ref]? = some live) (different : other ≠ topic) :
    live.entity.id ≠ entity.id := by
  intro same
  obtain ⟨own, mine, htopic, hid, hmine, rfl⟩ := hears
  obtain ⟨there, byId⟩ := sound.of_topic href hlive
  rw [same, hid, Option.some.injEq] at byId
  rw [← byId, hmine, Option.some.injEq] at hlive
  rw [← hlive] at there
  exact different (there.symm.trans (sound.of_topic htopic hmine).1)

/-- The registered entity has the state of the last message on its topic. -/
structure Told (setup : Setup) (entity : Entity) (past : List SessionEvent) (bridge : MqttBridge) :
    Prop where
  sound : bridge.registry.Sound
  hears : Hears bridge entity.stateTopic entity
  state : ∀ payload value text,
    lastFor Prod.fst (reports past) entity.stateTopic = some (entity.stateTopic, payload) →
    setup.parseState entity payload = some (value, text) → (value, text) ≠ (none, none) →
    (bridge.registry.get entity.id).map LiveEntity.state = some (value, text)

theorem Told.message {setup : Setup} {entity : Entity} {past : List SessionEvent}
    {bridge : MqttBridge} (told : Told setup entity past bridge) {topic : String}
    (plain : ¬ setup.IsConfigTopic topic) (payload : String) (now : ℚ) :
    Told setup entity (past ++ [.message topic payload now])
      (bridge.onMessage setup topic payload now).1 := by
  refine ⟨MqttBridge.sound_onMessage setup told.sound topic payload now, ?_, ?_⟩
  · rcases onMessage_plain bridge plain payload now with hcase |
      ⟨ref, live, value, text, -, -, hcase⟩ <;> rw [hcase]
    · exact told.hears
    · exact told.hears.updateState ref value text now _
  · intro last value text hlast reads nontrivial
    have log :
        reports (past ++ [.message topic payload now]) = reports past ++ [(topic, payload)] :=
      reports_append _ _
    rw [log, lastFor_concat] at hlast
    by_cases here : topic = entity.stateTopic
    · rw [if_pos here, Option.some.injEq, Prod.mk.injEq] at hlast
      rw [hlast.2]
      rw [here] at plain ⊢
      obtain ⟨ref, live, href, hlive, hentity, hnext⟩ :=
        onMessage_hears told.hears plain reads nontrivial now
      rw [hnext, Registry.get_updateState told.sound href hlive, if_pos (by rw [hentity])]
      rfl
    · rw [if_neg here] at hlast
      have before := told.state last value text hlast reads nontrivial
      rcases onMessage_plain bridge plain payload now with hcase |
        ⟨ref, live, other, otherText, href, hlive, hcase⟩ <;> rw [hcase]
      · exact before
      · rw [Registry.get_updateState told.sound href hlive,
          if_neg (told.hears.elsewhere told.sound href hlive here)]
        exact before

/-- Only a message of the broker changes the registry. -/
theorem registry_step {setup : Setup} {session next : Session} {event : SessionEvent}
    {outs : List Effect} (silent : reports [event] = [])
    (hstep : (machine setup).step session event = some (next, outs)) :
    next.bridge.registry = session.bridge.registry := by
  change session.step setup event = some (next, outs) at hstep
  cases event with
  | message topic payload now => cases silent
  | connection up =>
      rw [bridge_callback hstep]
      cases up <;> rfl
  | publish | fanOut | send | snapshot | receive | connect =>
      dsimp only [step] at hstep
      split at hstep <;> cases hstep
      first
        | rfl
        | rw [bridge_fanOut]
        | rw [bridge_handle]
  | disconnect =>
      cases hstep
      rfl

theorem Told.step {setup : Setup} {entity : Entity} {past : List SessionEvent}
    {session next : Session} {event : SessionEvent} {outs : List Effect}
    (told : Told setup entity past session.bridge) (announced : Announced setup [event])
    (hstep : (machine setup).step session event = some (next, outs)) :
    Told setup entity (past ++ [event]) next.bridge := by
  by_cases silent : reports [event] = []
  · have registry := registry_step silent hstep
    have log : reports (past ++ [event]) = reports past := by
      rw [reports_append, silent, List.append_nil]
    obtain ⟨ref, live, htopic, hid, hlive, hentity⟩ := told.hears
    refine ⟨registry ▸ told.sound, ⟨ref, live, ?_, ?_, ?_, hentity⟩, ?_⟩
    · rw [registry, htopic]
    · rw [registry, hid]
    · rw [registry, hlive]
    · rw [log, registry]
      exact told.state
  · cases event with
    | message topic payload now =>
        rw [bridge_callback hstep]
        exact told.message (announced (topic, payload) (List.mem_singleton_self _)) payload now
    | connection | publish | fanOut | send | snapshot | receive | connect | disconnect =>
        exact absurd rfl silent

/-- While nothing is announced, an entity keeps the state of the last message on its topic. -/
theorem told_run {setup : Setup} {entity : Entity} {session last : Session}
    {events : List SessionEvent} {outs : List Effect} (sound : session.bridge.registry.Sound)
    (hears : Hears session.bridge entity.stateTopic entity) (announced : Announced setup events)
    (hrun : (machine setup).run session events = some (last, outs)) :
    Told setup entity events last.bridge := by
  refine (machine setup).run_history_along
    (fun past session _ => Told setup entity past session.bridge)
    (fun told announced hstep => told.step announced hstep) ⟨sound, hears, ?_⟩
    ((machine setup).along_of_events fun event hmem _ report hreport => ?_) hrun
  · intro _ _ _ hlast
    cases hlast
  · obtain ⟨found, member, hfound⟩ := List.mem_filterMap.mp hreport
    rw [List.mem_singleton.mp member] at hfound
    exact announced report (List.mem_filterMap.mpr ⟨event, hmem, hfound⟩)

/-! ## The whole way -/

open Apps.TcpHassBridge

/-- In every interleaving of the threads of the bridge and of the web server with its browser:
if nothing is under way in either, and the last thing the broker has delivered on a topic is the
last published on it, then the browser shows of the entity with the topic what its last message
on the bus has said. -/
theorem browser_follows_bus {overread : Overread} {config : Apps.TcpHassBridge.Config}
    {sa : Address} {loads : List Bridge.Event} {announcements : List Bridge.Output}
    {hass : Bridge.HassBridge} {now : ℤ} {events : List Threads.Event} {last : Threads.State}
    {outs : List Threads.Output}
    {n : UInt16} {entry : Bridge.Entry} {setup : Setup} {file : Database}
    {rows : List (String × EntityRow)} {heartbeat minInterval : ℤ}
    {discovery live : List SessionEvent} {middle final : Session} {effects later : List Effect}
    {entity : Entity} (large : 1501 ≤ config.bufferLimit.toInt)
    (loaded : ∀ event ∈ loads, ∃ cfg list, event = .addMsg cfg list)
    (hload : (Bridge.machine config.handlers).run { sa } loads = some (hass, announcements))
    (here : Bridge.firstEntry loads n = some entry)
    (alone : ∀ m other, Bridge.firstEntry loads m = some other → n ≠ m →
      entry.1.stateTopic ≠ other.1.stateTopic)
    (hrun : (Threads.machine overread config).run (Threads.start hass now) events =
      some (last, outs))
    (unpublished : last.main.unpublished = []) (unfetched : last.client.recvData = [])
    (inFlight : last.client.thread.inFlight = [])
    (hdiscovery : (machine setup).run (start file rows heartbeat minInterval) discovery =
      some (middle, effects))
    (hlive : (machine setup).run middle live = some (final, later))
    (undisturbed : (machine setup).Along Undisturbed (start file rows heartbeat minInterval)
      (discovery ++ live))
    (quiet : final.Quiet) (hears : Hears middle.bridge entry.1.stateTopic entity)
    (announced : Announced setup live)
    (delivered : lastFor Prod.fst (reports live) entry.1.stateTopic =
      lastFor Prod.fst (payloads (Threads.published outs)) entry.1.stateTopic) :
    ∃ pkts rest,
      NasaProtocol.decodeWith overread (Threads.received events) = some (pkts, rest) ∧
      ∀ msg value text, lastFor numberOf (pkts.flatMap Packet.messages) n = some msg →
        setup.parseState entity (entry.1.stateText (MsgHandler.valueIn ⟨n⟩ msg)) =
          some (value, text) → (value, text) ≠ (none, none) →
        final.store.entities[entity.id]?.map LiveEntity.state = some (value, text) := by
  obtain ⟨pkts, rest, hdecode, -, all⟩ := Threads.published_follows large loaded hload hrun
  refine ⟨pkts, rest, hdecode, fun msg value text hmsg reads nontrivial => ?_⟩
  have sound := (valid_run hdiscovery undisturbed.left).sound
  have topic := hears.topic sound
  rw [← topic] at hears delivered
  have told := told_run sound hears announced hlive
  have whole := (machine setup).run_append_eq_some.mpr
    ⟨middle, effects, later, hdiscovery, hlive, rfl⟩
  have agrees := browser_agrees whole undisturbed quiet entity.id
  rw [agrees]
  refine told.state _ value text ?_ reads nontrivial
  rw [delivered, all unpublished unfetched inFlight, topic, Threads.statesOf,
    lastFor_payloads here alone, hmsg]
  rfl

def oneSwitch : Setup where
  deviceId := ""
  loads _ := some { stateTopic := some "homeassistant/switch/samsung_ehs_dhw/state" }
  parseState := Entity.readState

def dhw : Entity where
  id := "samsung_ehs_dhw"
  name := "samsung_ehs_dhw"
  platform := "switch"
  stateTopic := "homeassistant/switch/samsung_ehs_dhw/state"

def switchOn : List UInt8 :=
  [50, 0, 17, 128, 0, 0, 176, 255, 32, 192, 19, 7, 1, 64, 101, 1, 65, 24, 52]

def dhwEntry : Bridge.MsgCfg := ⟨"DHW", "0x4065", { type := "switch" }⟩

def dhwLoads : List Bridge.Event := [.addMsg dhwEntry .request]

def switchRead : List Apps.TcpHassBridge.Threads.Event :=
  [.client (.connect2server true), .client .check, .client (.recv 19 switchOn), .client .append,
    .fetch 1, .publish, .collect]

def dhwOpening : List SessionEvent :=
  [.message "homeassistant/switch/samsung_ehs_dhw/config" "-" 0, .publish, .fanOut, .connect,
    .receive]

def dhwShown : List SessionEvent :=
  [.message dhw.stateTopic "ON" 1, .publish, .fanOut, .send, .receive]

/-- A switch that is on on the bus is on in the browser. -/
theorem browser_follows_bus_switch :
    ∃ hass announcements last outs middle effects final later,
      (Bridge.machine {}).run { sa := ⟨.jigTester, 0, 0⟩ } dhwLoads =
        some (hass, announcements) ∧
      (Apps.TcpHassBridge.Threads.machine (fun _ => .error .crcError) ⟨{}, true, {}⟩).run
        (Apps.TcpHassBridge.Threads.start hass 0) switchRead = some (last, outs) ∧
      (machine oneSwitch).run (start {} [] 300 0) dhwOpening = some (middle, effects) ∧
      (machine oneSwitch).run middle dhwShown = some (final, later) ∧
      final.store.entities[dhw.id]?.map LiveEntity.state =
        some (some (.finite 1), some "ON") := by
  have reading : (((Bridge.machine {}).run { sa := ⟨.jigTester, 0, 0⟩ } dhwLoads).bind
      fun loaded => ((Apps.TcpHassBridge.Threads.machine (fun _ => .error .crcError)
        ⟨{}, true, {}⟩).run (Apps.TcpHassBridge.Threads.start loaded.1 0) switchRead).map
          fun result => (result.1.main.unpublished, result.1.client.recvData,
            result.1.client.thread.inFlight,
            payloads (Apps.TcpHassBridge.Threads.published result.2))) =
      some ([], [], [], [(dhw.stateTopic, "ON")]) := by
    decide +kernel
  have showing : ((machine oneSwitch).run (start {} [] 300 0) dhwOpening).any (fun opened =>
      decide (opened.1.bridge.registry.byTopic[dhw.stateTopic]? = some 0 ∧
        opened.1.bridge.registry.byId[dhw.id]? = some 0 ∧
        opened.1.bridge.registry.objects[0]?.map LiveEntity.entity = some dhw) &&
      ((machine oneSwitch).run opened.1 dhwShown).any fun result =>
        decide result.1.Quiet) = true := by
    decide +kernel
  obtain ⟨⟨hass, announcements⟩, hload, read⟩ := Option.bind_eq_some_iff.mp reading
  obtain ⟨⟨last, outs⟩, hrun, facts⟩ := Option.map_eq_some_iff.mp read
  obtain ⟨unpublished, unfetched, inFlight, published⟩ : _ ∧ _ ∧ _ ∧ _ := by
    simpa only [Prod.mk.injEq] using facts
  obtain ⟨⟨middle, effects⟩, hopening, facts⟩ := (Option.any_eq_true _ _).mp showing
  obtain ⟨registered, shown⟩ := Bool.and_eq_true_iff.mp facts
  obtain ⟨⟨final, later⟩, hlive, isQuiet⟩ := (Option.any_eq_true _ _).mp shown
  obtain ⟨htopic, hid, hobject⟩ := of_decide_eq_true registered
  obtain ⟨live, hobject, hentity⟩ := Option.map_eq_some_iff.mp hobject
  have topic : dhwEntry.stateTopic = dhw.stateTopic := by decide +kernel
  have number : dhwEntry.number = some 0x4065 := by decide +kernel
  have here : Bridge.firstEntry dhwLoads 0x4065 = some (dhwEntry, .request) := by decide +kernel
  have alone : ∀ m other, Bridge.firstEntry dhwLoads m = some other → (0x4065 : UInt16) ≠ m →
      dhwEntry.stateTopic ≠ other.1.stateTopic := by
    intro m other hother different
    obtain ⟨event, hmem, hevent⟩ := List.exists_of_findSome?_eq_some hother
    rw [List.mem_singleton.mp hmem] at hevent
    exact absurd (Bridge.of_entryOf_addMsg number hevent).1.symm different
  have delivered : lastFor Prod.fst (reports dhwShown) dhwEntry.stateTopic =
      lastFor Prod.fst (payloads (Apps.TcpHassBridge.Threads.published outs))
        dhwEntry.stateTopic := by
    rw [published, topic]
    decide +kernel
  obtain ⟨pkts, rest, hdecode, follows⟩ :=
    @browser_follows_bus _ ⟨{}, true, {}⟩ _ _ _ _ _ _ _ _ _ (dhwEntry, .request) _ _ _ _ _ _ _
      _ _ _ _ dhw (by decide) (fun event hmem => ⟨_, _, List.mem_singleton.mp hmem⟩) hload here
      alone hrun unpublished unfetched inFlight hopening hlive (by decide +kernel)
      (of_decide_eq_true isQuiet) ⟨0, live, topic ▸ htopic, hid, hobject, hentity⟩
      (by decide +kernel) delivered
  have decoded : (NasaProtocol.decodeWith (fun _ => .error .crcError) switchOn).map
      (fun result => (lastFor numberOf (result.1.flatMap Packet.messages) 0x4065).map fun msg =>
        oneSwitch.parseState dhw
          (dhwEntry.stateText (MsgHandler.valueIn ⟨0x4065⟩ msg))) =
      some (some (some (some (.finite 1), some "ON"))) := by
    decide +kernel
  change NasaProtocol.decodeWith _ switchOn = _ at hdecode
  rw [hdecode, Option.map_some, Option.some.injEq] at decoded
  obtain ⟨msg, hmsg, reads⟩ := Option.map_eq_some_iff.mp decoded
  exact ⟨hass, announcements, last, outs, middle, effects, final, later, hload, hrun, hopening,
    hlive, follows msg _ _ hmsg reads nofun⟩

end NasaCpp.Web.Session
