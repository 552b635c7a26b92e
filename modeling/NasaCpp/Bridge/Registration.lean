import NasaCpp.Bridge.HassBridge
import NasaCpp.General.Maps

/-!
# Registered handlers

What an event does to the handlers of the bridge: a valid entry with a new number
adds one, everything else changes the values of the handlers only.  A handler thus
stays what its entry made it for the rest of a run.
-/

namespace NasaCpp.Bridge

open General Handler Protocol

/-! ## The same handler -/

/-- Another state of the same handler. -/
structure MqttHandler.Same (handler other : MqttHandler) : Prop where
  base : handler.base.SameHandler other.base
  topic : other.topic = handler.topic
  kind : other.kind = handler.kind

namespace MqttHandler

theorem Same.refl (handler : MqttHandler) : handler.Same handler := ⟨⟨rfl, rfl, rfl⟩, rfl, rfl⟩

theorem Same.trans {first second third : MqttHandler} (left : first.Same second)
    (right : second.Same third) : first.Same third where
  base :=
    ⟨right.base.messageNumber.trans left.base.messageNumber, right.base.sa.trans left.base.sa,
      right.base.dataType.trans left.base.dataType⟩
  topic := right.topic.trans left.topic
  kind := right.kind.trans left.kind

theorem same_withValNew (handler : MqttHandler) (val : Int32) :
    handler.Same (handler.withValNew val) := ⟨⟨rfl, rfl, rfl⟩, rfl, rfl⟩

theorem same_resetRetryCounter (handler : MqttHandler) :
    handler.Same handler.resetRetryCounter := ⟨⟨rfl, rfl, rfl⟩, rfl, rfl⟩

theorem same_updateValue (handler : MqttHandler) (msg : MessageSet) :
    handler.Same (handler.updateValue msg) := ⟨handler.base.sameHandler_updateValue msg, rfl, rfl⟩

theorem same_getPacket (config : Config) (handler : MqttHandler) (pktCounter : UInt8) :
    handler.Same (handler.getPacket config pktCounter).1 :=
  ⟨handler.base.sameHandler_getPacket config pktCounter, rfl, rfl⟩

/-- A command leaves a handler as it is, or sets its value. -/
theorem updateValueNew_cases {handler next : MqttHandler} {payload : String}
    (hnext : handler.updateValueNew payload = .ok next) :
    next = handler ∨ ∃ val, next = handler.withValNew val ∨
      next = (handler.withValNew val).resetRetryCounter := by
  unfold MqttHandler.updateValueNew at hnext
  cases hkind : handler.kind with
  | numeric =>
      simp only [hkind] at hnext
      split at hnext
      · cases hval : stoi payload with
        | error exception =>
            rw [hval] at hnext
            cases hnext
        | ok val =>
            rw [hval] at hnext
            cases hnext
            exact .inr ⟨val, .inl rfl⟩
      · cases hnext
        exact .inl rfl
  | enum iStr strI =>
      simp only [hkind] at hnext
      split at hnext
      · cases hnext
        exact .inl rfl
      · cases hnext
        exact .inr ⟨_, .inr rfl⟩
  | binary =>
      simp only [hkind] at hnext
      cases hnext
      exact .inr ⟨_, .inr rfl⟩

theorem same_updateValueNew {handler next : MqttHandler} {payload : String}
    (hnext : handler.updateValueNew payload = .ok next) : handler.Same next := by
  obtain rfl | ⟨val, rfl | rfl⟩ := updateValueNew_cases hnext
  · exact .refl next
  · exact handler.same_withValNew val
  · exact (handler.same_withValNew val).trans (same_resetRetryCounter _)

end MqttHandler

/-! ## The entries -/

def MsgCfg.number (cfg : MsgCfg) : Option UInt16 :=
  (stol cfg.messageNumber).toOption.map fun val => val.toUInt64.toUInt16

/-- The handler class `createHandler` chooses for the entry, if there is one. -/
def MsgCfg.kind (cfg : MsgCfg) : Option Kind :=
  kindOf cfg.hass.type (cfg.hass.deviceClass.getD "")

/-- The classes a handler can have. -/
theorem kindOf_cases {type deviceClass : String} {kind : Kind}
    (hkind : kindOf type deviceClass = some kind) :
    kind = .numeric ∧ (type = "sensor" ∨ type = "number") ∧ deviceClass ≠ "enum" ∨
    kind = .binary ∧ (type = "switch" ∨ type = "binary_sensor") ∨
    kind = .enum [] [] ∧ ¬ (type = "switch" ∨ type = "binary_sensor") ∧
      (type = "select" ∨ deviceClass = "enum") := by
  unfold kindOf at hkind
  split at hkind
  · rename_i numeric
    cases hkind
    exact .inl ⟨rfl, numeric⟩
  · split at hkind
    · rename_i binary
      cases hkind
      exact .inr (.inl ⟨rfl, binary⟩)
    · rename_i other
      split at hkind
      · rename_i enum
        cases hkind
        exact .inr (.inr ⟨rfl, other, enum⟩)
      · cases hkind

def MsgCfg.handler (cfg : MsgCfg) (kind : Kind) (n : UInt16) (sa : Address) (dataType : DataType) :
    MqttHandler × Option Options :=
  MqttHandler.init
    { base := .create ⟨n⟩ sa dataType, topic := topicOf cfg.hass.type cfg.name "/state", kind }
    cfg.hass

@[simp] theorem MqttHandler.init_base (handler : MqttHandler) (cfg : HassCfg) :
    (handler.init cfg).1.base = handler.base := by
  unfold MqttHandler.init
  split <;> rfl

@[simp] theorem MqttHandler.init_topic (handler : MqttHandler) (cfg : HassCfg) :
    (handler.init cfg).1.topic = handler.topic := by
  unfold MqttHandler.init
  split <;> rfl

@[simp] theorem MsgCfg.handler_base (cfg : MsgCfg) (kind : Kind) (n : UInt16) (sa : Address)
    (dataType : DataType) :
    (cfg.handler kind n sa dataType).1.base = .create ⟨n⟩ sa dataType := by
  rw [MsgCfg.handler, MqttHandler.init_base]

theorem MsgCfg.handler_numeric (cfg : MsgCfg) (n : UInt16) (sa : Address) (dataType : DataType) :
    (cfg.handler .numeric n sa dataType).1.kind = .numeric := rfl

theorem MsgCfg.handler_binary (cfg : MsgCfg) (n : UInt16) (sa : Address) (dataType : DataType) :
    (cfg.handler .binary n sa dataType).1.kind = .binary := rfl

/-- An enum handler takes the options over. -/
theorem MsgCfg.handler_enum {cfg : MsgCfg} {items : List (String × Int32)}
    (options : cfg.hass.options = some items) (n : UInt16) (sa : Address) (dataType : DataType) :
    (cfg.handler (.enum [] []) n sa dataType).1.kind = MqttHandler.addOptions items [] [] ∧
      (cfg.handler (.enum [] []) n sa dataType).2 = some (.names (items.map Prod.fst)) := by
  unfold MsgCfg.handler MqttHandler.init
  rw [options]
  exact ⟨rfl, rfl⟩

/-- `addMsg` rejects an entry, or registers a new handler for its number and announces it. -/
theorem addMsg_cases {bridge next : HassBridge} {cfg : MsgCfg} {dataType : DataType}
    {outs : List Output} (hadd : bridge.addMsg cfg dataType = .ok (next, outs)) :
    ∃ n, cfg.number = some n ∧
      ((cfg.kind = none ∨ bridge.msgnrHandler[n]? ≠ none) ∧ next = bridge ∧ outs = [] ∨
        ∃ kind, cfg.kind = some kind ∧ bridge.msgnrHandler[n]? = none ∧
          next = bridge.register n (cfg.handler kind n bridge.sa dataType).1 cfg ∧
          outs = .announce (topicOf cfg.hass.type cfg.name "/config")
              (HassBridge.discoveryOf cfg (cfg.handler kind n bridge.sa dataType).2) ::
            if (HassBridge.commandTopicOf cfg).isSome then
              [.subscribe (topicOf cfg.hass.type cfg.name "/set")]
            else []) := by
  unfold HassBridge.addMsg createHandler at hadd
  unfold MsgCfg.number MsgCfg.kind
  cases hstol : stol cfg.messageNumber with
  | error exception =>
      rw [hstol] at hadd
      cases hadd
  | ok val =>
      rw [hstol] at hadd
      refine ⟨val.toUInt64.toUInt16, rfl, ?_⟩
      cases hkind : kindOf cfg.hass.type (cfg.hass.deviceClass.getD "") with
      | none =>
          rw [hkind] at hadd
          cases hadd
          exact .inl ⟨.inl rfl, rfl, rfl⟩
      | some kind =>
          rw [hkind] at hadd
          dsimp only [bind, Except.bind, Option.map_some] at hadd
          rw [Std.TreeMap.contains_eq_isSome_getElem?] at hadd
          cases hget : bridge.msgnrHandler[val.toUInt64.toUInt16]? with
          | some other =>
              rw [hget] at hadd
              cases hadd
              exact .inl ⟨.inr nofun, rfl, rfl⟩
          | none =>
              rw [hget] at hadd
              cases hadd
              exact .inr ⟨kind, rfl, rfl, rfl, rfl⟩

/-! ## The handlers of two bridges -/

namespace HassBridge

theorem getElem?_setHandler (bridge : HassBridge) (n m : UInt16) (handler : MqttHandler) :
    (bridge.setHandler n handler).msgnrHandler[m]? =
      if n = m then some handler else bridge.msgnrHandler[m]? :=
  Maps.lookup_insert bridge.msgnrHandler n m handler

theorem getElem?_register (bridge : HassBridge) (n m : UInt16) (handler : MqttHandler)
    (cfg : MsgCfg) :
    (bridge.register n handler cfg).msgnrHandler[m]? =
      if n = m then some handler else bridge.msgnrHandler[m]? :=
  bridge.getElem?_setHandler n m handler

/-- The handlers of two bridges are the same up to their values. -/
def SameHandlers (bridge next : HassBridge) : Prop :=
  ∀ n : UInt16, Option.Rel MqttHandler.Same bridge.msgnrHandler[n]? next.msgnrHandler[n]?

theorem SameHandlers.refl (bridge : HassBridge) : bridge.SameHandlers bridge := by
  intro n
  cases bridge.msgnrHandler[n]? with
  | none => exact .none
  | some handler => exact .some (.refl handler)

/-- Another state of a handler in its place. -/
theorem SameHandlers.setHandler {bridge next : HassBridge} {n : UInt16}
    {handler other : MqttHandler} (same : bridge.SameHandlers next)
    (hhandler : bridge.msgnrHandler[n]? = some handler) (hsame : handler.Same other) :
    bridge.SameHandlers (next.setHandler n other) := by
  intro m
  rw [getElem?_setHandler]
  split
  · rename_i here
    subst here
    rw [hhandler]
    exact .some hsame
  · exact same m

theorem sameHandlers_publishToHass (bridge : HassBridge) (msg : MessageSet) :
    bridge.SameHandlers (bridge.publishToHass msg).1 := by
  unfold publishToHass
  split
  · exact .refl bridge
  · rename_i handler hhandler
    exact (SameHandlers.refl bridge).setHandler hhandler (handler.same_updateValue msg)

theorem sameHandlers_handleCommand {bridge next : HassBridge} {topic payload : String}
    (hnext : bridge.handleCommand topic payload = .ok next) : bridge.SameHandlers next := by
  unfold handleCommand at hnext
  split at hnext
  · cases hnext
    exact SameHandlers.refl bridge
  · rename_i hfound
    simp only [handlerOf, Option.bind_eq_bind, Option.bind_eq_some_iff, Option.pure_def,
      Option.some.injEq, Prod.mk.injEq] at hfound
    obtain ⟨_, -, n, -, handler, hhandler, rfl, rfl⟩ := hfound
    cases hval : handler.updateValueNew payload with
    | error exception =>
        rw [hval] at hnext
        cases hnext
    | ok updated =>
        rw [hval] at hnext
        cases hnext
        exact (SameHandlers.refl bridge).setHandler hhandler
          ((MqttHandler.same_updateValueNew hval).trans updated.same_resetRetryCounter)

def Collects (config : Config) (bridge : HassBridge) (packet : Packet) : Prop :=
  ∃ (n : UInt16) (handler : MqttHandler) (pktCounter : UInt8),
    bridge.msgnrHandler[n]? = some handler ∧ packet ∈ (handler.getPacket config pktCounter).2

/-- A collection changes values only and collects packets of the registered handlers. -/
theorem getNasaPackets_handlers (config : Config) (bridge : HassBridge) :
    bridge.SameHandlers (bridge.getNasaPackets config).1 ∧
      ∀ packet ∈ (bridge.getNasaPackets config).2, bridge.Collects config packet := by
  have registered : ∀ entry ∈ bridge.msgnrHandler.toList,
      bridge.msgnrHandler[entry.1]? = some entry.2 :=
    fun entry hmem => Std.TreeMap.mem_toList_iff_getElem?_eq_some.mp hmem
  unfold getNasaPackets
  suffices general : ∀ (entries : List (UInt16 × MqttHandler)) (state : HassBridge × List Packet),
      (∀ entry ∈ entries, bridge.msgnrHandler[entry.1]? = some entry.2) →
      bridge.SameHandlers state.1 →
      (∀ packet ∈ state.2, bridge.Collects config packet) →
      bridge.SameHandlers (entries.foldl (collect config) state).1 ∧
        ∀ packet ∈ (entries.foldl (collect config) state).2, bridge.Collects config packet from
    general _ _ registered (.refl bridge) fun _ hmem => nomatch hmem
  intro entries
  induction entries with
  | nil => exact fun state _ same good => ⟨same, good⟩
  | cons entry entries ih =>
      intro state all same good
      have hentry := all entry List.mem_cons_self
      refine ih _ (fun other hmem => all other (List.mem_cons_of_mem _ hmem)) ?_ ?_
      · exact same.setHandler hentry (entry.2.same_getPacket config state.1.pktCounter)
      · exact List.forall_mem_append.mpr
          ⟨good, fun packet hmem => ⟨entry.1, entry.2, state.1.pktCounter, hentry, hmem⟩⟩

/-- Every handler of a bridge is still one of another bridge. -/
def Keeps (bridge next : HassBridge) : Prop :=
  ∀ (n : UInt16) (handler : MqttHandler), bridge.msgnrHandler[n]? = some handler →
    ∃ other, next.msgnrHandler[n]? = some other ∧ handler.Same other

theorem Keeps.refl (bridge : HassBridge) : bridge.Keeps bridge :=
  fun _ handler hhandler => ⟨handler, hhandler, .refl handler⟩

theorem Keeps.trans {first second third : HassBridge} (left : first.Keeps second)
    (right : second.Keeps third) : first.Keeps third := by
  intro n handler hhandler
  obtain ⟨middle, hmiddle, same⟩ := left n handler hhandler
  obtain ⟨other, hother, same'⟩ := right n middle hmiddle
  exact ⟨other, hother, same.trans same'⟩

theorem SameHandlers.keeps {bridge next : HassBridge} (same : bridge.SameHandlers next) :
    bridge.Keeps next := by
  intro n handler hhandler
  have here := same n
  rw [hhandler] at here
  cases hother : next.msgnrHandler[n]? with
  | none =>
      rw [hother] at here
      cases here
  | some other =>
      rw [hother] at here
      cases here with
      | some hsame => exact ⟨other, rfl, hsame⟩

theorem keeps_addMsg {bridge next : HassBridge} {cfg : MsgCfg} {dataType : DataType}
    {outs : List Output} (hadd : bridge.addMsg cfg dataType = .ok (next, outs)) :
    bridge.Keeps next := by
  obtain ⟨n, -, ⟨-, rfl, -⟩ | ⟨kind, -, fresh, rfl, -⟩⟩ := addMsg_cases hadd
  · exact .refl next
  · intro m handler hhandler
    have other : n ≠ m := by
      rintro rfl
      rw [fresh] at hhandler
      cases hhandler
    refine ⟨handler, ?_, .refl handler⟩
    rw [getElem?_register, if_neg other]
    exact hhandler

end HassBridge

/-! ## Runs -/

theorem step_addMsg {config : Config} {bridge next : HassBridge} {cfg : MsgCfg} {list : MsgList}
    {outs : List Output}
    (hstep : (machine config).step bridge (.addMsg cfg list) = some (next, outs)) :
    bridge.addMsg cfg list.dataType = .ok (next, outs) := by
  change (bridge.addMsg cfg list.dataType).toOption = some (next, outs) at hstep
  cases hresult : bridge.addMsg cfg list.dataType with
  | error exception =>
      rw [hresult] at hstep
      cases hstep
  | ok result =>
      rw [hresult] at hstep
      cases hstep
      rfl

theorem step_command {config : Config} {bridge next : HassBridge} {topic payload : String}
    {outs : List Output}
    (hstep : (machine config).step bridge (.command topic payload) = some (next, outs)) :
    bridge.handleCommand topic payload = .ok next ∧ outs = [] := by
  change (bridge.handleCommand topic payload).toOption.map (·, []) = some (next, outs) at hstep
  cases hresult : bridge.handleCommand topic payload with
  | error exception =>
      rw [hresult] at hstep
      cases hstep
  | ok result =>
      rw [hresult] at hstep
      cases hstep
      exact ⟨rfl, rfl⟩

theorem keeps_step {config : Config} {bridge next : HassBridge} {event : Event}
    {outs : List Output} (hstep : (machine config).step bridge event = some (next, outs)) :
    bridge.Keeps next := by
  cases event with
  | addMsg cfg list => exact HassBridge.keeps_addMsg (step_addMsg hstep)
  | publishToHass msg =>
      have hresult : bridge.publishToHass msg = (next, outs) := Option.some.inj hstep
      have same := bridge.sameHandlers_publishToHass msg
      rw [hresult] at same
      exact same.keeps
  | command topic payload =>
      exact (HassBridge.sameHandlers_handleCommand (step_command hstep).1).keeps
  | getNasaPackets =>
      cases hstep
      exact (bridge.getNasaPackets_handlers config).1.keeps

theorem keeps_run {config : Config} {bridge last : HassBridge} {events : List Event}
    {outs : List Output} (hrun : (machine config).run bridge events = some (last, outs)) :
    bridge.Keeps last :=
  (machine config).run_history (fun _ state _ => bridge.Keeps state)
    (fun here hstep => here.trans (keeps_step hstep)) (.refl bridge) hrun

/-- A run in which an entry was announced as an entity, up to the bridge as it is now. -/
def Announced (config : Config) (sa : Address) (cfg : MsgCfg) (list : MsgList)
    (discovery : Discovery) (bridge : HassBridge) : Prop :=
  ∃ before earlier next after topic earlierOuts otherOuts laterOuts,
    (machine config).run { sa } before = some (earlier, earlierOuts) ∧
    (machine config).step earlier (.addMsg cfg list) =
      some (next, .announce topic discovery :: otherOuts) ∧
    (machine config).run next after = some (bridge, laterOuts)

/-- The handler of an announced entry is the one the entry has made. -/
theorem Announced.handler {config : Config} {sa : Address} {cfg : MsgCfg} {list : MsgList}
    {discovery : Discovery} {bridge : HassBridge} {n : UInt16} {handler : MqttHandler}
    (announced : Announced config sa cfg list discovery bridge) (hnumber : cfg.number = some n)
    (hhandler : bridge.msgnrHandler[n]? = some handler) :
    ∃ kind own, cfg.kind = some kind ∧
      discovery = HassBridge.discoveryOf cfg (cfg.handler kind n own list.dataType).2 ∧
      (cfg.handler kind n own list.dataType).1.Same handler := by
  obtain ⟨_, earlier, next, _, _, _, _, _, -, hadd, hlater⟩ := announced
  obtain ⟨m, hm, ⟨-, -, silent⟩ | ⟨kind, hkind, -, rfl, houts⟩⟩ := addMsg_cases (step_addMsg hadd)
  · cases silent
  · obtain rfl := Option.some.inj (hm.symm.trans hnumber)
    have here : (earlier.register m (cfg.handler kind m earlier.sa list.dataType).1
        cfg).msgnrHandler[m]? = some (cfg.handler kind m earlier.sa list.dataType).1 := by
      rw [HassBridge.getElem?_register, if_pos rfl]
    obtain ⟨other, hother, same⟩ := keeps_run hlater m _ here
    obtain rfl := Option.some.inj (hother.symm.trans hhandler)
    cases houts
    exact ⟨kind, earlier.sa, hkind, rfl, same⟩

end NasaCpp.Bridge
