import NasaCpp.Bridge.Entries
import NasaCpp.General.LastEntry
import NasaCpp.Handler.Known

/-!
# Publications

What the bridge publishes about a message is decided by the message and by the first valid
entry with its number.  Commands and collections change pending values and counters, which
no state topic shows: they interfere with no publication.
-/

namespace NasaCpp.Bridge

open General Handler MsgHandler Protocol

/-! ## What a state topic shows -/

/-- A publication is retained unless its entry is from the read list. -/
def MsgList.retained : MsgList → Bool
  | .read => false
  | .request | .write => true

/-- The payload for a value: a number, the last option with the value, a position. -/
def MsgCfg.stateText (cfg : MsgCfg) (val : Int32) : String :=
  match cfg.kind with
  | some .numeric => if val = intMax then "" else toString val.toInt
  | some (.enum _ _) =>
      ((lastFor Prod.snd (cfg.hass.options.getD []) val).map Prod.fst).getD ""
  | some .binary => if val = 0 then "OFF" else "ON"
  | none => ""

def stateOf (entries : UInt16 → Option Entry) (msg : MessageSet) : Option Output :=
  (entries msg.messageNumber.code).map fun (cfg, list) =>
    .publish (topicOf cfg.hass.type cfg.name "/state")
      (cfg.stateText (valueIn msg.messageNumber msg)) list.retained

theorem lookup_addOptions (items : List (String × Int32)) (val : Int32) :
    (items.foldl (fun iStr item => (item.2, item.1) :: iStr) []).lookup val =
      (lastFor Prod.snd items val).map Prod.fst := by
  induction items using List.reverseRecOn with
  | nil => rfl
  | append_singleton items item ih =>
      rw [List.foldl_append, List.foldl_cons, List.foldl_nil, List.lookup_cons, ih, lastFor_concat]
      by_cases here : item.2 = val
      · rw [if_pos here, here, beq_self_eq_true]
        rfl
      · rw [if_neg here, beq_false_of_ne (Ne.symm here)]

/-- The payload of a handler is that of its entry for the value received. -/
theorem MadeBy.getMqttPayload {n : UInt16} {handler : MqttHandler} {entry : Entry}
    (made : MadeBy n handler entry) :
    handler.getMqttPayload = entry.1.stateText handler.base.valIs := by
  obtain ⟨kind, sa, hkind, same⟩ := made
  have kept := same.kind
  unfold MqttHandler.getMqttPayload MsgCfg.stateText
  rw [hkind, kept]
  rcases kindOf_cases hkind with ⟨rfl, -⟩ | ⟨rfl, -⟩ | ⟨rfl, -⟩
  · rfl
  · rfl
  · cases hoptions : entry.1.hass.options with
    | none =>
        rw [MsgCfg.handler, MqttHandler.init, hoptions]
        rfl
    | some items =>
        rw [(MsgCfg.handler_enum hoptions n sa entry.2.dataType).1]
        dsimp only [MqttHandler.addOptions, Option.getD_some]
        rw [lookup_addOptions]

/-! ## Values -/

def Hears (n : UInt16) (handler : MqttHandler) : Prop :=
  ∃ msgs, Holds ⟨n⟩ msgs handler.base

def Hearing (bridge : HassBridge) : Prop :=
  ∀ (n : UInt16) (handler : MqttHandler), bridge.msgnrHandler[n]? = some handler →
    Hears n handler

theorem Hears.updateValue {n : UInt16} {handler : MqttHandler} (hears : Hears n handler)
    (msg : MessageSet) : Hears n (handler.updateValue msg) := by
  obtain ⟨msgs, holds⟩ := hears
  exact ⟨msgs ++ [msg], holds.updateValue msg⟩

/-- After a message of its number a handler has the value in the message. -/
theorem Hears.valIs_updateValue {n : UInt16} {handler : MqttHandler} (hears : Hears n handler)
    {msg : MessageSet} (number : msg.messageNumber = ⟨n⟩) :
    (handler.updateValue msg).base.valIs = valueIn ⟨n⟩ msg := by
  obtain ⟨msgs, holds⟩ := hears
  rw [MqttHandler.updateValue, (holds.updateValue msg).valIs, valueAfter, lastFor_concat,
    if_pos number]
  rfl

theorem Hears.getPacket {n : UInt16} {handler : MqttHandler} (hears : Hears n handler)
    (config : Config) (pktCounter : UInt8) :
    Hears n (handler.getPacket config pktCounter).1 := by
  obtain ⟨msgs, holds⟩ := hears
  exact ⟨msgs, holds.same (handler.base.sameHandler_getPacket config pktCounter)
    (valIs_getPacket config handler.base pktCounter)⟩

theorem Hears.updateValueNew {n : UInt16} {handler next : MqttHandler} {payload : String}
    (hears : Hears n handler) (hnext : handler.updateValueNew payload = .ok next) :
    Hears n next.resetRetryCounter := by
  obtain ⟨msgs, holds⟩ := hears
  obtain rfl | ⟨val, rfl | rfl⟩ := MqttHandler.updateValueNew_cases hnext <;>
    exact ⟨msgs, holds.messageNumber, holds.valIs⟩

theorem Hearing.setHandler {bridge : HassBridge} (hearing : Hearing bridge) {n : UInt16}
    {handler : MqttHandler} (hears : Hears n handler) :
    Hearing (bridge.setHandler n handler) := by
  intro m other hother
  rw [HassBridge.getElem?_setHandler] at hother
  split at hother
  · rename_i here
    cases hother
    rwa [← here]
  · exact hearing m other hother

theorem Hearing.getNasaPackets {bridge : HassBridge} (hearing : Hearing bridge)
    (config : Config) : Hearing (bridge.getNasaPackets config).1 := by
  have all : ∀ entry ∈ bridge.msgnrHandler.toList, Hears entry.1 entry.2 :=
    fun entry hmem => hearing _ _ (Std.TreeMap.mem_toList_iff_getElem?_eq_some.mp hmem)
  unfold HassBridge.getNasaPackets
  generalize bridge.msgnrHandler.toList = entries at all
  suffices general : ∀ state : HassBridge × List Packet, Hearing state.1 →
      Hearing (entries.foldl (HassBridge.collect config) state).1 from general _ hearing
  induction entries with
  | nil => exact fun _ here => here
  | cons entry entries ih =>
      intro state here
      refine ih (fun other hmem => all other (List.mem_cons_of_mem _ hmem)) _ ?_
      exact here.setHandler ((all entry List.mem_cons_self).getPacket config _)

/-! ## Runs -/

def Output.isPublish : Output → Bool
  | .publish _ _ _ => true
  | .announce _ _ | .subscribe _ | .packets _ => false

/-- The events that publications depend on: the entries loaded and the messages received. -/
def Event.isTold : Event → Bool
  | .addMsg _ _ | .publishToHass _ => true
  | .command _ _ | .getNasaPackets => false

/-- The publications of an event after some others. -/
def published (past : List Event) : Event → List Output
  | .publishToHass msg => (stateOf (firstEntry past) msg).toList
  | .addMsg _ _ | .command _ _ | .getNasaPackets => []

/-- The publications of events, by their messages and by the entries before them. -/
def publications (past : List Event) : List Event → List Output
  | [] => []
  | event :: rest => published past event ++ publications (past ++ [event]) rest

/-- A message is published as its entry says. -/
theorem publishToHass_stateOf {entries : UInt16 → Option Entry} {bridge : HassBridge}
    (made : FromEntries entries bridge) (hearing : Hearing bridge) (msg : MessageSet) :
    (bridge.publishToHass msg).2 = (stateOf entries msg).toList := by
  unfold HassBridge.publishToHass stateOf
  cases hhandler : bridge.msgnrHandler[msg.messageNumber.code]? with
  | none =>
      rw [made.entry_eq_none hhandler]
      rfl
  | some handler =>
      obtain ⟨⟨cfg, list⟩, hentry, hmade⟩ := made.madeBy hhandler
      have updated := hmade.same (handler.same_updateValue msg)
      have value := (hearing _ _ hhandler).valIs_updateValue rfl
      have type := updated.dataType
      rw [hentry]
      dsimp only [Option.map_some, Option.toList_some]
      rw [updated.topic, updated.getMqttPayload, value, type]
      cases list <;> rfl

theorem isPublish_addMsg {bridge next : HassBridge} {cfg : MsgCfg} {dataType : DataType}
    {outs : List Output} (hadd : bridge.addMsg cfg dataType = .ok (next, outs)) :
    outs.filter Output.isPublish = [] := by
  obtain ⟨_, -, ⟨-, -, rfl⟩ | ⟨_, -, -, -, rfl⟩⟩ := addMsg_cases hadd
  · rfl
  · split <;> rfl

theorem Hearing.addMsg {bridge next : HassBridge} {cfg : MsgCfg} {dataType : DataType}
    {outs : List Output} (hearing : Hearing bridge)
    (hadd : bridge.addMsg cfg dataType = .ok (next, outs)) : Hearing next := by
  obtain ⟨n, -, ⟨-, rfl, -⟩ | ⟨kind, -, -, rfl, -⟩⟩ := addMsg_cases hadd
  · exact hearing
  · refine hearing.setHandler (n := n) ⟨[], ?_⟩
    rw [MsgCfg.handler_base]
    exact holds_create _ _ _

theorem Hearing.handleCommand {bridge next : HassBridge} {topic payload : String}
    (hearing : Hearing bridge) (hnext : bridge.handleCommand topic payload = .ok next) :
    Hearing next := by
  unfold HassBridge.handleCommand at hnext
  split at hnext
  · cases hnext
    exact hearing
  · rename_i n handler hfound
    simp only [HassBridge.handlerOf, Option.bind_eq_bind, Option.bind_eq_some_iff,
      Option.pure_def, Option.some.injEq, Prod.mk.injEq] at hfound
    obtain ⟨_, -, _, -, _, hhandler, rfl, rfl⟩ := hfound
    cases hval : MqttHandler.updateValueNew _ payload with
    | error exception =>
        rw [hval] at hnext
        cases hnext
    | ok updated =>
        rw [hval] at hnext
        cases hnext
        exact hearing.setHandler ((hearing _ _ hhandler).updateValueNew hval)

/-- What an event publishes, and that values still come from messages afterwards. -/
theorem step_published {config : Config} {past : List Event} {bridge next : HassBridge}
    {event : Event} {outs : List Output} (made : FromEntries (firstEntry past) bridge)
    (hearing : Hearing bridge) (hstep : (machine config).step bridge event = some (next, outs)) :
    outs.filter Output.isPublish = published past event ∧ Hearing next := by
  cases event with
  | addMsg cfg list =>
      have hadd := step_addMsg hstep
      exact ⟨isPublish_addMsg hadd, hearing.addMsg hadd⟩
  | publishToHass msg =>
      have hresult : bridge.publishToHass msg = (next, outs) := Option.some.inj hstep
      have states := publishToHass_stateOf made hearing msg
      rw [hresult] at states
      have kept : Hearing (bridge.publishToHass msg).1 := by
        unfold HassBridge.publishToHass
        split
        · exact hearing
        · rename_i handler hhandler
          exact hearing.setHandler ((hearing _ _ hhandler).updateValue msg)
      rw [hresult] at kept
      refine ⟨?_, kept⟩
      dsimp only at states
      rw [states, published]
      cases hstate : stateOf (firstEntry past) msg with
      | none => rfl
      | some out =>
          obtain ⟨entry, -, rfl⟩ := Option.map_eq_some_iff.mp hstate
          rfl
  | command topic payload =>
      obtain ⟨hcommand, rfl⟩ := step_command hstep
      exact ⟨rfl, hearing.handleCommand hcommand⟩
  | getNasaPackets =>
      cases hstep
      exact ⟨rfl, hearing.getNasaPackets config⟩

def messagesTold (events : List Event) : List MessageSet :=
  events.filterMap fun
    | .publishToHass msg => some msg
    | _ => none

def Event.Unloaded (event : Event) : Prop := ∀ cfg list, event ≠ .addMsg cfg list

theorem Event.Unloaded.silent {event : Event} (unloaded : event.Unloaded) (n : UInt16) :
    entryOf n event = none := by
  cases event with
  | addMsg cfg list => exact absurd rfl (unloaded cfg list)
  | publishToHass msg | command topic payload | getNasaPackets => rfl

/-- Once the lists are loaded, every message is published as the lists say. -/
theorem publications_unloaded (past : List Event) {events : List Event}
    (unloaded : ∀ event ∈ events, event.Unloaded) :
    publications past (events.filter Event.isTold) =
      (messagesTold events).filterMap (stateOf (firstEntry past)) := by
  induction events generalizing past with
  | nil => rfl
  | cons event events ih =>
      have here := unloaded event List.mem_cons_self
      have later := fun other hmem => unloaded other (List.mem_cons_of_mem _ hmem)
      cases event with
      | addMsg cfg list => exact absurd rfl (here cfg list)
      | publishToHass msg =>
          have next : messagesTold (.publishToHass msg :: events) =
              msg :: messagesTold events := rfl
          rw [List.filter_cons_of_pos rfl, publications, ih _ later,
            firstEntry_of_silent here.silent, published, next, List.filterMap_cons]
          cases stateOf (firstEntry past) msg <;> rfl
      | command topic payload | getNasaPackets =>
          rw [List.filter_cons_of_neg Bool.false_ne_true]
          exact ih _ later

/-- Entries alone publish nothing. -/
theorem publications_loads {past loads : List Event}
    (loaded : ∀ event ∈ loads, ∃ cfg list, event = .addMsg cfg list) :
    publications past loads = [] := by
  induction loads generalizing past with
  | nil => rfl
  | cons event loads ih =>
      obtain ⟨cfg, list, rfl⟩ := loaded event List.mem_cons_self
      exact ih fun other hmem => loaded other (List.mem_cons_of_mem _ hmem)

theorem publications_append (past first second : List Event) :
    publications past (first ++ second) =
      publications past first ++ publications (past ++ first) second := by
  induction first generalizing past with
  | nil => rw [List.append_nil]; rfl
  | cons event first ih =>
      rw [List.cons_append, publications, publications, ih, List.append_assoc, List.append_assoc]
      rfl

theorem publications_concat (past events : List Event) (event : Event) :
    publications past (events ++ [event]) =
      publications past events ++ published (past ++ events) event := by
  rw [publications_append]
  exact congrArg _ (List.append_nil _)

/-- The other events register nothing. -/
theorem firstEntry_told (events : List Event) :
    firstEntry (events.filter Event.isTold) = firstEntry events := by
  induction events using List.reverseRecOn with
  | nil => rfl
  | append_singleton events event ih =>
      rw [List.filter_append]
      cases event with
      | addMsg cfg list | publishToHass msg =>
          funext n
          rw [List.filter_cons_of_pos rfl, List.filter_nil, firstEntry_concat, ih,
            firstEntry_concat]
      | command topic payload | getNasaPackets =>
          rw [List.filter_cons_of_neg Bool.false_ne_true, List.filter_nil, List.append_nil, ih]
          exact (firstEntry_of_silent fun _ => rfl).symm

theorem published_told (past : List Event) (event : Event) :
    published (past.filter Event.isTold) event = published past event := by
  cases event with
  | publishToHass msg => rw [published, published, firstEntry_told]
  | addMsg cfg list | command topic payload | getNasaPackets => rfl

/-- An event adds its publications. -/
theorem publications_told_concat (past : List Event) (event : Event) :
    publications [] ((past ++ [event]).filter Event.isTold) =
      publications [] (past.filter Event.isTold) ++ published past event := by
  rw [List.filter_append]
  cases event with
  | addMsg cfg list | publishToHass msg =>
      rw [List.filter_cons_of_pos rfl, List.filter_nil, publications_concat, List.nil_append,
        published_told]
  | command topic payload | getNasaPackets =>
      rw [List.filter_cons_of_neg Bool.false_ne_true, List.filter_nil, List.append_nil]
      exact (List.append_nil _).symm

/-- What a run of the bridge leaves behind. -/
structure Publishing (past : List Event) (bridge : HassBridge) (outs : List Output) : Prop where
  entries : FromEntries (firstEntry past) bridge
  hearing : Hearing bridge
  outs : outs.filter Output.isPublish = publications [] (past.filter Event.isTold)

theorem publishing_init (sa : Address) : Publishing [] { sa } [] where
  entries := fromEntries_init sa
  hearing n handler hhandler := by
    rw [show ({ sa } : HassBridge).msgnrHandler[n]? = none from Std.TreeMap.getElem?_emptyc]
      at hhandler
    cases hhandler
  outs := rfl

theorem Publishing.step {config : Config} {past : List Event} {bridge next : HassBridge}
    {outs new : List Output} {event : Event} (publishing : Publishing past bridge outs)
    (hstep : (machine config).step bridge event = some (next, new)) :
    Publishing (past ++ [event]) next (outs ++ new) := by
  obtain ⟨here, hearing⟩ := step_published publishing.entries publishing.hearing hstep
  refine ⟨publishing.entries.step hstep, hearing, ?_⟩
  rw [List.filter_append, publishing.outs, here, publications_told_concat]

/-- In every run of the bridge the publications are those of the entries and messages of the
run: neither the settings nor any command or collection of packets interferes with one. -/
theorem publications_run {config : Config} {sa : Address} {events : List Event}
    {last : HassBridge} {outs : List Output}
    (hrun : (machine config).run { sa } events = some (last, outs)) :
    outs.filter Output.isPublish = publications [] (events.filter Event.isTold) :=
  ((machine config).run_history Publishing Publishing.step (publishing_init sa) hrun).outs

/-- A command between two messages about a switch, and a message that nobody asked for. -/
theorem publications_run_switch :
    ∃ last outs, (machine {}).run { sa := ⟨.jigTester, 0, 0⟩ }
        [.addMsg ⟨"DHW", "0x4065", { type := "switch" }⟩ .request,
          .publishToHass (.create ⟨0x4065⟩ 0),
          .command "homeassistant/switch/samsung_ehs_dhw/set" "ON", .getNasaPackets,
          .publishToHass (.create ⟨0x4204⟩ 215), .publishToHass (.create ⟨0x4065⟩ 1)] =
        some (last, outs) ∧
      outs.filter Output.isPublish =
        [.publish "homeassistant/switch/samsung_ehs_dhw/state" "OFF" true,
          .publish "homeassistant/switch/samsung_ehs_dhw/state" "ON" true] := by
  obtain ⟨⟨last, outs⟩, hrun⟩ := Option.isSome_iff_exists.mp
    (show ((machine {}).run { sa := ⟨.jigTester, 0, 0⟩ }
      [.addMsg ⟨"DHW", "0x4065", { type := "switch" }⟩ .request,
        .publishToHass (.create ⟨0x4065⟩ 0),
        .command "homeassistant/switch/samsung_ehs_dhw/set" "ON", .getNasaPackets,
        .publishToHass (.create ⟨0x4204⟩ 215), .publishToHass (.create ⟨0x4065⟩ 1)]).isSome = true
      by decide +kernel)
  have told := publications_run hrun
  exact ⟨last, outs, hrun, told.trans (by decide +kernel)⟩

end NasaCpp.Bridge
