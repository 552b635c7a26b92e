import NasaCpp.Bridge.Registration

/-!
# The entries behind the handlers

A handler is what the first valid entry with its number has made of it; later entries with
the number and all other events leave it in place.
-/

namespace NasaCpp.Bridge

open General Handler Protocol

abbrev Entry := MsgCfg × MsgList

/-- The entry an event registers the number from. -/
def entryOf (n : UInt16) : Event → Option Entry
  | .addMsg cfg list => if cfg.number = some n ∧ cfg.kind.isSome then some (cfg, list) else none
  | _ => none

theorem entryOf_addMsg {cfg : MsgCfg} {n : UInt16} (hnumber : cfg.number = some n)
    (list : MsgList) (m : UInt16) :
    entryOf m (.addMsg cfg list) = if n = m ∧ cfg.kind.isSome then some (cfg, list) else none := by
  simp only [entryOf, hnumber, Option.some.injEq]

theorem of_entryOf_addMsg {cfg : MsgCfg} {list : MsgList} {n m : UInt16} {entry : Entry}
    (hnumber : cfg.number = some n) (hentry : entryOf m (.addMsg cfg list) = some entry) :
    m = n ∧ entry = (cfg, list) := by
  rw [entryOf_addMsg hnumber, Option.ite_none_right_eq_some] at hentry
  exact ⟨hentry.1.1.symm, (Option.some.inj hentry.2).symm⟩

/-- The first valid entry with the number. -/
def firstEntry (events : List Event) (n : UInt16) : Option Entry :=
  events.findSome? (entryOf n)

theorem firstEntry_concat (events : List Event) (event : Event) (n : UInt16) :
    firstEntry (events ++ [event]) n = (firstEntry events n).or (entryOf n event) := by
  rw [firstEntry, List.findSome?_append]
  congr 1
  simp

/-- An event that registers nothing leaves the first entries. -/
theorem firstEntry_of_silent {events : List Event} {event : Event}
    (silent : ∀ n, entryOf n event = none) :
    firstEntry (events ++ [event]) = firstEntry events := by
  funext n
  rw [firstEntry_concat, silent n, Option.or_none]

def MadeBy (n : UInt16) (handler : MqttHandler) (entry : Entry) : Prop :=
  ∃ kind sa, entry.1.kind = some kind ∧
    (entry.1.handler kind n sa entry.2.dataType).1.Same handler

theorem MadeBy.same {n : UInt16} {handler other : MqttHandler} {entry : Entry}
    (made : MadeBy n handler entry) (same : handler.Same other) : MadeBy n other entry := by
  obtain ⟨kind, sa, hkind, hsame⟩ := made
  exact ⟨kind, sa, hkind, hsame.trans same⟩

theorem MadeBy.messageNumber {n : UInt16} {handler : MqttHandler} {entry : Entry}
    (made : MadeBy n handler entry) : handler.base.messageNumber = ⟨n⟩ := by
  obtain ⟨kind, sa, -, same⟩ := made
  rw [same.base.messageNumber, MsgCfg.handler_base]
  rfl

theorem MadeBy.dataType {n : UInt16} {handler : MqttHandler} {entry : Entry}
    (made : MadeBy n handler entry) : handler.base.dataType = entry.2.dataType := by
  obtain ⟨kind, sa, -, same⟩ := made
  rw [same.base.dataType, MsgCfg.handler_base]
  rfl

theorem MadeBy.topic {n : UInt16} {handler : MqttHandler} {entry : Entry}
    (made : MadeBy n handler entry) :
    handler.topic = topicOf entry.1.hass.type entry.1.name "/state" := by
  obtain ⟨kind, sa, -, same⟩ := made
  rw [same.topic, MsgCfg.handler, MqttHandler.init_topic]

def FromEntries (entries : UInt16 → Option Entry) (bridge : HassBridge) : Prop :=
  ∀ n, Option.Rel (MadeBy n) bridge.msgnrHandler[n]? (entries n)

namespace FromEntries

variable {entries : UInt16 → Option Entry} {bridge next : HassBridge} {n : UInt16}

theorem madeBy (made : FromEntries entries bridge) {handler : MqttHandler}
    (hhandler : bridge.msgnrHandler[n]? = some handler) :
    ∃ entry, entries n = some entry ∧ MadeBy n handler entry := by
  have here := made n
  rw [hhandler] at here
  cases hentry : entries n with
  | none =>
      rw [hentry] at here
      cases here
  | some entry =>
      rw [hentry] at here
      cases here with
      | some hmade => exact ⟨entry, rfl, hmade⟩

theorem handler (made : FromEntries entries bridge) {entry : Entry}
    (hentry : entries n = some entry) :
    ∃ handler, bridge.msgnrHandler[n]? = some handler ∧ MadeBy n handler entry := by
  have here := made n
  rw [hentry] at here
  cases hhandler : bridge.msgnrHandler[n]? with
  | none =>
      rw [hhandler] at here
      cases here
  | some handler =>
      rw [hhandler] at here
      cases here with
      | some hmade => exact ⟨handler, rfl, hmade⟩

theorem entry_eq_none (made : FromEntries entries bridge)
    (fresh : bridge.msgnrHandler[n]? = none) : entries n = none := by
  cases hentry : entries n with
  | none => rfl
  | some entry =>
      obtain ⟨handler, hhandler, -⟩ := made.handler hentry
      rw [fresh] at hhandler
      cases hhandler

/-- Values do not matter. -/
theorem same (made : FromEntries entries bridge) (same : bridge.SameHandlers next) :
    FromEntries entries next := by
  intro n
  have there := same n
  cases hentry : entries n with
  | none =>
      cases hhandler : bridge.msgnrHandler[n]? with
      | none =>
          rw [hhandler] at there
          cases hnext : next.msgnrHandler[n]? with
          | none => exact .none
          | some other =>
              rw [hnext] at there
              cases there
      | some handler =>
          obtain ⟨entry, hsome, -⟩ := made.madeBy hhandler
          rw [hentry] at hsome
          cases hsome
  | some entry =>
      obtain ⟨handler, hhandler, hmade⟩ := made.handler hentry
      obtain ⟨other, hother, hsame⟩ := same.keeps n handler hhandler
      rw [hother]
      exact .some (hmade.same hsame)

end FromEntries

/-- Loading an entry that is invalid, or whose number is registered, changes nothing; any
other becomes the first entry of its number and is registered. -/
theorem addMsg_entries {events : List Event} {bridge next : HassBridge} {cfg : MsgCfg}
    {list : MsgList} {outs : List Output} (made : FromEntries (firstEntry events) bridge)
    (hadd : bridge.addMsg cfg list.dataType = .ok (next, outs)) :
    next = bridge ∧ outs = [] ∧
        firstEntry (events ++ [.addMsg cfg list]) = firstEntry events ∨
      ∃ n kind, cfg.kind = some kind ∧ firstEntry events n = none ∧
        next = bridge.register n (cfg.handler kind n bridge.sa list.dataType).1 cfg ∧
        outs = .announce (topicOf cfg.hass.type cfg.name "/config")
            (HassBridge.discoveryOf cfg (cfg.handler kind n bridge.sa list.dataType).2) ::
          (if (HassBridge.commandTopicOf cfg).isSome then
            [.subscribe (topicOf cfg.hass.type cfg.name "/set")]
          else []) ∧
        ∀ m, firstEntry (events ++ [.addMsg cfg list]) m =
          if n = m then some (cfg, list) else firstEntry events m := by
  obtain ⟨n, hnumber, hcases⟩ := addMsg_cases hadd
  rcases hcases with ⟨rejected, rfl, rfl⟩ | ⟨kind, hkind, fresh, hnext, houts⟩
  · refine .inl ⟨rfl, rfl, funext fun m => ?_⟩
    rw [firstEntry_concat, entryOf_addMsg hnumber]
    split
    · rename_i valid
      obtain ⟨rfl, valid⟩ := valid
      have present : next.msgnrHandler[n]? ≠ none :=
        rejected.resolve_left fun invalid => by rw [invalid] at valid; cases valid
      obtain ⟨handler, hhandler⟩ := Option.ne_none_iff_exists'.mp present
      obtain ⟨first, hfirst, -⟩ := made.madeBy hhandler
      rw [hfirst, Option.some_or]
    · rw [Option.or_none]
  · have absent := made.entry_eq_none fresh
    refine .inr ⟨n, kind, hkind, absent, hnext, houts, fun m => ?_⟩
    rw [firstEntry_concat, entryOf_addMsg hnumber]
    by_cases number : n = m
    · subst number
      rw [if_pos rfl, if_pos ⟨rfl, by rw [hkind]; rfl⟩, absent, Option.none_or]
    · rw [if_neg number, if_neg fun valid => number valid.1, Option.or_none]

theorem FromEntries.addMsg {events : List Event} {bridge next : HassBridge} {cfg : MsgCfg}
    {list : MsgList} {outs : List Output} (made : FromEntries (firstEntry events) bridge)
    (hadd : bridge.addMsg cfg list.dataType = .ok (next, outs)) :
    FromEntries (firstEntry (events ++ [.addMsg cfg list])) next := by
  rcases addMsg_entries made hadd with ⟨rfl, -, same⟩ | ⟨n, kind, hkind, -, rfl, -, entries⟩
  · rw [same]
    exact made
  · intro m
    rw [HassBridge.getElem?_register, entries]
    by_cases here : n = m
    · rw [if_pos here, if_pos here, ← here]
      exact .some ⟨kind, bridge.sa, hkind, .refl _⟩
    · rw [if_neg here, if_neg here]
      exact made m

theorem FromEntries.step {config : Config} {events : List Event} {bridge next : HassBridge}
    {event : Event} {outs : List Output} (made : FromEntries (firstEntry events) bridge)
    (hstep : (machine config).step bridge event = some (next, outs)) :
    FromEntries (firstEntry (events ++ [event])) next := by
  cases event with
  | addMsg cfg list => exact made.addMsg (step_addMsg hstep)
  | publishToHass msg =>
      have hresult : bridge.publishToHass msg = (next, outs) := Option.some.inj hstep
      have same := bridge.sameHandlers_publishToHass msg
      rw [hresult] at same
      rw [firstEntry_of_silent fun _ => rfl]
      exact made.same same
  | command topic payload =>
      rw [firstEntry_of_silent fun _ => rfl]
      exact made.same (HassBridge.sameHandlers_handleCommand (step_command hstep).1)
  | getNasaPackets =>
      cases hstep
      rw [firstEntry_of_silent fun _ => rfl]
      exact made.same (bridge.getNasaPackets_handlers config).1

theorem fromEntries_init (sa : Address) : FromEntries (firstEntry []) { sa } := by
  intro n
  change Option.Rel (MadeBy n) (∅ : Std.TreeMap UInt16 MqttHandler)[n]? none
  rw [Std.TreeMap.getElem?_emptyc]
  exact .none

end NasaCpp.Bridge
