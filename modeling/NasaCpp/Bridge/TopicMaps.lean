import NasaCpp.Bridge.CommandPayload
import NasaCpp.Bridge.Entries

/-!
# Numbers and topics

The bridge finds a handler by its message number and by its topics.  Only a number that is
taken is noticed, so two entries whose names give the same topics publish under one state
topic, and the commands of the first go to the second.  The maps are consistent exactly if
the topics of the registered entries differ and none announces a command topic of its own.
-/

namespace NasaCpp.Bridge

open General Handler Protocol

/-! ## The topics of an entry -/

namespace MsgCfg

def stateTopic (cfg : MsgCfg) : String := topicOf cfg.hass.type cfg.name "/state"

def setTopic (cfg : MsgCfg) : String := topicOf cfg.hass.type cfg.name "/set"

abbrev IsCommanded (cfg : MsgCfg) : Prop := (HassBridge.commandTopicOf cfg).isSome = true

theorem stateTopic_ne_setTopic (cfg other : MsgCfg) : cfg.stateTopic ≠ other.setTopic := by
  intro same
  have endings : ∀ front front' : String, front ++ "/state" ≠ front' ++ "/set" := by
    intro front front' equal
    simpa using congrArg (fun topic => topic.toList.reverse.head?) equal
  exact endings _ _ same

/-- The topics of an entry differ in their endings only. -/
theorem stateTopic_of_setTopic {cfg other : MsgCfg} (same : cfg.setTopic = other.setTopic) :
    cfg.stateTopic = other.stateTopic := by
  have front := (String.append_left_inj "/set").mp same
  exact congrArg (· ++ "/state") front

end MsgCfg

/-- The number is registered from an entry with the topic. -/
def ClaimsTopic (entries : UInt16 → Option Entry) (n : UInt16) (topic : String) : Prop :=
  ∃ entry, entries n = some entry ∧
    (topic = entry.1.stateTopic ∨ entry.1.IsCommanded ∧ topic = entry.1.setTopic)

/-- What is in the topic map: every topic of the entries, with a number that has the topic;
the command topics are those the bridge has subscribed to. -/
structure Routed (entries : UInt16 → Option Entry) (bridge : HassBridge) (outs : List Output) :
    Prop where
  sound : ∀ (topic : String) (n : UInt16), bridge.topicHandler[topic]? = some (some n) →
    ClaimsTopic entries n topic
  complete : ∀ (topic : String) (n : UInt16), ClaimsTopic entries n topic →
    ∃ m, bridge.topicHandler[topic]? = some (some m)
  subscribed : ∀ topic, .subscribe topic ∈ outs ↔
    ∃ n entry, entries n = some entry ∧ entry.1.IsCommanded ∧ topic = entry.1.setTopic

theorem lookup_register (bridge : HassBridge) (n : UInt16) (handler : MqttHandler) (cfg : MsgCfg)
    (topic : String) :
    (bridge.register n handler cfg).topicHandler[topic]? =
      if topic = cfg.stateTopic ∨ cfg.IsCommanded ∧ topic = cfg.setTopic then some (some n)
      else bridge.topicHandler[topic]? := by
  change (if cfg.IsCommanded then
      (bridge.topicHandler.insert cfg.stateTopic (some n)).insert cfg.setTopic (some n)
    else bridge.topicHandler.insert cfg.stateTopic (some n))[topic]? = _
  by_cases commanded : cfg.IsCommanded
  · rw [if_pos commanded, Maps.lookup_insert, Maps.lookup_insert]
    by_cases set : topic = cfg.setTopic
    · rw [if_pos set.symm, if_pos (.inr ⟨commanded, set⟩)]
    · rw [if_neg fun same => set same.symm]
      by_cases state : topic = cfg.stateTopic
      · rw [if_pos state.symm, if_pos (.inl state)]
      · rw [if_neg fun same => state same.symm,
          if_neg (not_or.mpr ⟨state, fun both => set both.2⟩)]
  · rw [if_neg commanded, Maps.lookup_insert]
    by_cases state : topic = cfg.stateTopic
    · rw [if_pos state.symm, if_pos (.inl state)]
    · rw [if_neg fun same => state same.symm,
        if_neg (not_or.mpr ⟨state, fun both => commanded both.1⟩)]

/-- A registration routes the topics of its entry to its number. -/
theorem Routed.register {entries : UInt16 → Option Entry} {bridge : HassBridge}
    {outs new : List Output} {n : UInt16} {handler : MqttHandler} {cfg : MsgCfg} {list : MsgList}
    (routed : Routed entries bridge outs) (fresh : entries n = none)
    {others : UInt16 → Option Entry}
    (hothers : ∀ m, others m = if n = m then some (cfg, list) else entries m)
    (hnew : ∀ topic, .subscribe topic ∈ new ↔ cfg.IsCommanded ∧ topic = cfg.setTopic) :
    Routed others (bridge.register n handler cfg) (outs ++ new) := by
  have here : others n = some (cfg, list) := by rw [hothers, if_pos rfl]
  have later {m : UInt16} {entry : Entry} (hentry : entries m = some entry) :
      others m = some entry := by
    rw [hothers, if_neg, hentry]
    rintro rfl
    rw [fresh] at hentry
    cases hentry
  have split {m : UInt16} {entry : Entry} (hentry : others m = some entry) :
      m = n ∧ entry = (cfg, list) ∨ entries m = some entry := by
    rw [hothers] at hentry
    split at hentry
    · rename_i same
      exact .inl ⟨same.symm, (Option.some.inj hentry).symm⟩
    · exact .inr hentry
  refine ⟨fun topic m hlookup => ?_, fun topic m claims => ?_, fun topic => ?_⟩
  · rw [lookup_register] at hlookup
    split at hlookup
    · rename_i claims
      cases hlookup
      exact ⟨(cfg, list), here, claims⟩
    · obtain ⟨entry, hentry, claims⟩ := routed.sound topic m hlookup
      exact ⟨entry, later hentry, claims⟩
  · rw [lookup_register]
    obtain ⟨entry, hentry, topics⟩ := claims
    split
    · exact ⟨n, rfl⟩
    · rename_i elsewhere
      rcases split hentry with ⟨-, rfl⟩ | before
      · exact absurd topics elsewhere
      · exact routed.complete topic m ⟨entry, before, topics⟩
  · rw [List.mem_append, routed.subscribed, hnew]
    constructor
    · rintro (⟨m, entry, hentry, topics⟩ | topics)
      · exact ⟨m, entry, later hentry, topics⟩
      · exact ⟨n, (cfg, list), here, topics⟩
    · rintro ⟨m, entry, hentry, topics⟩
      rcases split hentry with ⟨-, rfl⟩ | before
      · exact .inr topics
      · exact .inl ⟨m, entry, before, topics⟩

/-- An event that leads no topic to another number and subscribes to none. -/
theorem Routed.quiet {entries : UInt16 → Option Entry} {bridge next : HassBridge}
    {outs new : List Output} (routed : Routed entries bridge outs)
    (same : ∀ (topic : String) (n : UInt16),
      next.topicHandler[topic]? = some (some n) ↔ bridge.topicHandler[topic]? = some (some n))
    (silent : ∀ topic, .subscribe topic ∉ new) : Routed entries next (outs ++ new) where
  sound topic n hlookup := routed.sound topic n ((same topic n).mp hlookup)
  complete topic n claims := by
    obtain ⟨m, hlookup⟩ := routed.complete topic n claims
    exact ⟨m, (same topic m).mpr hlookup⟩
  subscribed topic := by
    rw [List.mem_append, or_iff_left (silent topic)]
    exact routed.subscribed topic

/-- A command leads no topic to another number. -/
theorem lookup_handleCommand {bridge next : HassBridge} {other payload : String}
    (hnext : bridge.handleCommand other payload = .ok next) (topic : String) (n : UInt16) :
    next.topicHandler[topic]? = some (some n) ↔ bridge.topicHandler[topic]? = some (some n) := by
  unfold HassBridge.handleCommand at hnext
  split at hnext
  · cases hnext
    dsimp only
    rw [Std.TreeMap.getElem?_insertIfNew]
    split
    · rename_i new
      rw [Std.LawfulEqCmp.compare_eq_iff_eq] at new
      obtain ⟨rfl, absent⟩ := new
      refine iff_of_false nofun fun hlookup => absent ?_
      exact Std.TreeMap.mem_iff_isSome_getElem?.mpr (by rw [hlookup]; rfl)
    · rfl
  · rename_i handler _
    cases hval : handler.updateValueNew payload with
    | error exception =>
        rw [hval] at hnext
        cases hnext
    | ok updated =>
        rw [hval] at hnext
        cases hnext
        rfl

/-! ## Runs -/

theorem Routed.step {config : Config} {events : List Event} {bridge next : HassBridge}
    {outs new : List Output} {event : Event} (made : FromEntries (firstEntry events) bridge)
    (routed : Routed (firstEntry events) bridge outs)
    (hstep : (machine config).step bridge event = some (next, new)) :
    Routed (firstEntry (events ++ [event])) next (outs ++ new) := by
  cases event with
  | addMsg cfg list =>
      rcases addMsg_entries made (step_addMsg hstep) with
        ⟨rfl, rfl, same⟩ | ⟨n, kind, -, fresh, rfl, rfl, entries⟩
      · rw [same, List.append_nil]
        exact routed
      · refine routed.register fresh entries fun topic => ?_
        rw [List.mem_cons, or_iff_right nofun]
        by_cases commanded : cfg.IsCommanded
        · rw [if_pos commanded, List.mem_singleton, Output.subscribe.injEq]
          exact (and_iff_right commanded).symm
        · rw [if_neg commanded]
          exact iff_of_false List.not_mem_nil fun both => commanded both.1
  | publishToHass msg =>
      have hresult : bridge.publishToHass msg = (next, new) := Option.some.inj hstep
      have same := bridge.topicHandler_publishToHass msg
      have silent := bridge.subscribe_not_mem_publishToHass msg
      rw [hresult] at same silent
      rw [firstEntry_of_silent fun _ => rfl]
      exact routed.quiet (fun topic n => by rw [same]) silent
  | command other payload =>
      obtain ⟨hnext, rfl⟩ := step_command hstep
      rw [firstEntry_of_silent fun _ => rfl]
      exact routed.quiet (lookup_handleCommand hnext) fun _ => List.not_mem_nil
  | getNasaPackets =>
      cases hstep
      rw [firstEntry_of_silent fun _ => rfl]
      refine routed.quiet (fun topic n => ?_) fun topic hmem => by cases List.mem_singleton.mp hmem
      change (bridge.getNasaPackets config).1.topicHandler[topic]? = _ ↔ _
      rw [bridge.topicHandler_getNasaPackets config]

theorem routed_init (sa : Address) : Routed (firstEntry []) { sa } [] where
  sound topic n hlookup := by cases hlookup
  complete topic n claims := by
    obtain ⟨entry, hentry, -⟩ := claims
    cases hentry
  subscribed topic := by
    refine iff_of_false List.not_mem_nil ?_
    rintro ⟨n, entry, hentry, -⟩
    cases hentry

theorem routed_run {config : Config} {sa : Address} {events : List Event} {bridge : HassBridge}
    {outs : List Output} (hrun : (machine config).run { sa } events = some (bridge, outs)) :
    FromEntries (firstEntry events) bridge ∧ Routed (firstEntry events) bridge outs :=
  (machine config).run_history
    (fun events bridge outs => FromEntries (firstEntry events) bridge ∧
      Routed (firstEntry events) bridge outs)
    (fun here hstep => ⟨here.1.step hstep, here.2.step here.1 hstep⟩)
    ⟨fromEntries_init sa, routed_init sa⟩ hrun

/-! ## Consistent maps -/

/-- Each number has the handler of its first valid entry, two handlers have different state
topics, and what is published to the command topic that an entry announces reaches its handler,
which publishes to the state topic it announces. -/
structure Consistent (events : List Event) (bridge : HassBridge) (outs : List Output) : Prop where
  first : ∀ (n : UInt16) (handler : MqttHandler), bridge.msgnrHandler[n]? = some handler →
    handler.base.messageNumber = ⟨n⟩ ∧
      ∃ entry, firstEntry events n = some entry ∧ MadeBy n handler entry
  stateTopics : ∀ (n m : UInt16) (handler other : MqttHandler),
    bridge.msgnrHandler[n]? = some handler → bridge.msgnrHandler[m]? = some other → n ≠ m →
    handler.topic ≠ other.topic
  commandTopics : ∀ (n : UInt16) (entry : Entry) (topic : String),
    firstEntry events n = some entry → HassBridge.commandTopicOf entry.1 = some topic →
    .subscribe topic ∈ outs ∧ ∃ handler, bridge.handlerOf topic = some (n, handler) ∧
      handler.topic = entry.1.stateTopic

/-- The entries that are registered have different state topics, and none brings another command
topic than the bridge makes for it. -/
structure DistinctTopics (events : List Event) : Prop where
  stateTopics : ∀ n m entry other, firstEntry events n = some entry →
    firstEntry events m = some other → n ≠ m → entry.1.stateTopic ≠ other.1.stateTopic
  commandTopics : ∀ n entry topic, firstEntry events n = some entry →
    HassBridge.commandTopicOf entry.1 = some topic → topic = entry.1.setTopic

/-- A set topic leads to the number of its entry, where state topics are different. -/
theorem Routed.setTopic {events : List Event} {bridge : HassBridge} {outs : List Output}
    (routed : Routed (firstEntry events) bridge outs) {n : UInt16} {entry : Entry}
    (hentry : firstEntry events n = some entry) (commanded : entry.1.IsCommanded)
    (different : ∀ m other, firstEntry events m = some other → n ≠ m →
      entry.1.stateTopic ≠ other.1.stateTopic) :
    bridge.topicHandler[entry.1.setTopic]? = some (some n) := by
  obtain ⟨m, hlookup⟩ := routed.complete entry.1.setTopic n
    ⟨entry, hentry, .inr ⟨commanded, rfl⟩⟩
  obtain ⟨other, hother, state | ⟨-, set⟩⟩ := routed.sound _ m hlookup
  · exact absurd state.symm (other.1.stateTopic_ne_setTopic entry.1)
  · by_cases here : n = m
    · rw [here, hlookup]
    · exact absurd (MsgCfg.stateTopic_of_setTopic set) (different m other hother here)

/-- In every run the maps are consistent if and only if the topics of the registered entries
are distinct. -/
theorem consistent_iff {config : Config} {sa : Address} {events : List Event}
    {bridge : HassBridge} {outs : List Output}
    (hrun : (machine config).run { sa } events = some (bridge, outs)) :
    Consistent events bridge outs ↔ DistinctTopics events := by
  obtain ⟨made, routed⟩ := routed_run hrun
  constructor
  · intro consistent
    have stateTopics : ∀ n m entry other, firstEntry events n = some entry →
        firstEntry events m = some other → n ≠ m →
        entry.1.stateTopic ≠ other.1.stateTopic := by
      intro n m entry other hentry hother different same
      obtain ⟨handler, hhandler, hmade⟩ := made.handler hentry
      obtain ⟨second, hsecond, hmade'⟩ := made.handler hother
      refine consistent.stateTopics n m handler second hhandler hsecond different ?_
      rw [hmade.topic, hmade'.topic]
      exact same
    refine ⟨stateTopics, fun n entry topic hentry htopic => ?_⟩
    obtain ⟨subscribed, handler, hfound, -⟩ :=
      consistent.commandTopics n entry topic hentry htopic
    obtain ⟨hlookup, -⟩ := HassBridge.handlerOf_eq_some.mp hfound
    obtain ⟨m, other, hother, commanded, rfl⟩ := (routed.subscribed topic).mp subscribed
    have route := routed.setTopic hother commanded fun k third => stateTopics m k other third hother
    cases hlookup.symm.trans route
    cases hentry.symm.trans hother
    rfl
  · intro distinct
    refine ⟨fun n handler hhandler => ?_, fun n m handler other hhandler hother different => ?_,
      fun n entry topic hentry htopic => ?_⟩
    · obtain ⟨entry, hentry, hmade⟩ := made.madeBy hhandler
      exact ⟨hmade.messageNumber, entry, hentry, hmade⟩
    · obtain ⟨entry, hentry, hmade⟩ := made.madeBy hhandler
      obtain ⟨second, hsecond, hmade'⟩ := made.madeBy hother
      rw [hmade.topic, hmade'.topic]
      exact distinct.stateTopics n m entry second hentry hsecond different
    · have commanded : entry.1.IsCommanded := by
        rw [MsgCfg.IsCommanded, htopic]
        rfl
      obtain rfl := distinct.commandTopics n entry topic hentry htopic
      refine ⟨(routed.subscribed _).mpr ⟨n, entry, hentry, commanded, rfl⟩, ?_⟩
      obtain ⟨handler, hhandler, hmade⟩ := made.handler hentry
      have route := routed.setTopic hentry commanded fun m other =>
        distinct.stateTopics n m entry other hentry
      exact ⟨handler, HassBridge.handlerOf_eq_some.mpr ⟨route, hhandler⟩, hmade.topic⟩

/-- A sensor and a number of the same name have different topics. -/
theorem consistent_sensor_and_number :
    ∃ bridge outs, (machine {}).run { sa := ⟨.jigTester, 0, 0⟩ }
        [.addMsg ⟨"Target", "0x4203", { type := "sensor" }⟩ .read,
          .addMsg ⟨"Target", "0x4201", { type := "number" }⟩ .request] = some (bridge, outs) ∧
      ∃ handler, bridge.handlerOf "homeassistant/number/samsung_ehs_target/set" =
        some (0x4201, handler) ∧
        handler.topic = "homeassistant/number/samsung_ehs_target/state" := by
  let sensor : MsgCfg := ⟨"Target", "0x4203", { type := "sensor" }⟩
  let number : MsgCfg := ⟨"Target", "0x4201", { type := "number" }⟩
  let events : List Event := [.addMsg sensor .read, .addMsg number .request]
  obtain ⟨⟨bridge, outs⟩, hrun⟩ := Option.isSome_iff_exists.mp
    (show ((machine {}).run { sa := ⟨.jigTester, 0, 0⟩ } events).isSome = true by decide +kernel)
  have hsensor : sensor.number = some 0x4203 := by decide +kernel
  have hnumber : number.number = some 0x4201 := by decide +kernel
  have first : firstEntry events 0x4201 = some (number, .request) := by decide +kernel
  have only {n : UInt16} {entry : Entry} (hentry : firstEntry events n = some entry) :
      n = 0x4203 ∧ entry = (sensor, .read) ∨ n = 0x4201 ∧ entry = (number, .request) := by
    obtain ⟨event, hmem, hevent⟩ := List.exists_of_findSome?_eq_some hentry
    rcases List.mem_pair.mp hmem with rfl | rfl
    · exact .inl (of_entryOf_addMsg hsensor hevent)
    · exact .inr (of_entryOf_addMsg hnumber hevent)
  have distinct : DistinctTopics events := by
    refine ⟨fun n m entry other hentry hother different => ?_,
      fun n entry topic hentry htopic => ?_⟩
    · rcases only hentry with ⟨rfl, rfl⟩ | ⟨rfl, rfl⟩ <;>
        rcases only hother with ⟨rfl, rfl⟩ | ⟨rfl, rfl⟩
      · exact absurd rfl different
      · decide +kernel
      · decide +kernel
      · exact absurd rfl different
    · rcases only hentry with ⟨rfl, rfl⟩ | ⟨rfl, rfl⟩
      · cases htopic
      · exact (Option.some.inj htopic).symm
  have consistent := (consistent_iff hrun).mpr distinct
  obtain ⟨-, handler, hfound, htopic⟩ := consistent.commandTopics 0x4201 _ _ first rfl
  have set : topicOf "number" "Target" "/set" = "homeassistant/number/samsung_ehs_target/set" := by
    decide +kernel
  have state : number.stateTopic = "homeassistant/number/samsung_ehs_target/state" := by
    decide +kernel
  exact ⟨bridge, outs, hrun, handler, set ▸ hfound, htopic.trans state⟩

/-- Two numbers whose names differ in case only publish under one topic. -/
theorem not_consistent_same_topics :
    ¬ ∀ (config : Config) (sa : Address) (events : List Event) (bridge : HassBridge)
      (outs : List Output), (machine config).run { sa } events = some (bridge, outs) →
      Consistent events bridge outs := by
  intro all
  have topics : ((machine {}).run { sa := ⟨.jigTester, 0, 0⟩ }
      [.addMsg ⟨"Target", "0x4201", { type := "number" }⟩ .request,
        .addMsg ⟨"target", "0x4202", { type := "number" }⟩ .request]).map (fun result =>
          (result.1.msgnrHandler[(0x4201 : UInt16)]?.map MqttHandler.topic,
            result.1.msgnrHandler[(0x4202 : UInt16)]?.map MqttHandler.topic)) =
      some (some "homeassistant/number/samsung_ehs_target/state",
        some "homeassistant/number/samsung_ehs_target/state") := by
    decide +kernel
  obtain ⟨⟨bridge, outs⟩, hrun, htopics⟩ := Option.map_eq_some_iff.mp topics
  rw [Prod.mk.injEq] at htopics
  obtain ⟨first, hfirst, htopic⟩ := Option.map_eq_some_iff.mp htopics.1
  obtain ⟨second, hsecond, htopic'⟩ := Option.map_eq_some_iff.mp htopics.2
  have consistent := all {} _ _ bridge outs hrun
  exact consistent.stateTopics _ _ first second hfirst hsecond (by decide)
    (htopic.trans htopic'.symm)

end NasaCpp.Bridge
