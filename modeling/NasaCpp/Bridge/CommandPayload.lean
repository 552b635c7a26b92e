import NasaCpp.Bridge.Registration

/-!
# Command payloads

What an MQTT command does to the bridge.  An enum handler ignores a payload that is
none of its options.  A numeric handler passes every payload to `std::stoi`, whose
exceptions nothing between it and the end of the loop thread catches and which is content
with a number in front of other text, and a binary handler takes everything but `ON` for
`OFF`.
-/

namespace NasaCpp.Bridge

open General Handler Protocol

namespace MqttHandler

/-- The payload has a value for the class of the handler: it is a number from end to end,
one of the options, a position of the switch. -/
def Knows (handler : MqttHandler) (payload : String) : Prop :=
  match handler.kind with
  | .numeric =>
      ∃ val, stoi payload = .ok val ∧ Numeral.unread 0 payload.toList = []
  | .enum _ strI => ∃ val, strI.lookup payload = some val
  | .binary => payload = "ON" ∨ payload = "OFF"

/-- A numeric handler that parses the payload finds a number in front, and nothing behind
it unless the number is pending already.  A binary handler gets `ON` or `OFF` or is
switched off already. -/
def Withstands (handler : MqttHandler) (payload : String) : Prop :=
  match handler.kind with
  | .numeric =>
      handler.base.dataType = .request ∨ handler.base.dataType = .write →
        ∃ val, stoi payload = .ok val ∧
          (Numeral.unread 0 payload.toList = [] ∨ handler.base.valNew = val)
  | .enum _ _ => True
  | .binary => payload = "ON" ∨ payload = "OFF" ∨ handler.base.valNew = 0

def SameValues (handler other : MqttHandler) : Prop :=
  other.base.valNew = handler.base.valNew ∧ other.base.valIs = handler.base.valIs

/-- No exception leaves `updateValueNew`, and a payload without a value changes none. -/
def Tolerates (handler : MqttHandler) (payload : String) : Prop :=
  ∃ next, handler.updateValueNew payload = .ok next ∧
    (¬ handler.Knows payload → handler.SameValues next)

/-- `std::stoi` takes `21.5` for 21, so text behind the number goes unnoticed. -/
theorem tolerates_numeric_iff {handler : MqttHandler} {payload : String}
    (kind : handler.kind = .numeric) : handler.Tolerates payload ↔ handler.Withstands payload := by
  unfold Tolerates Withstands Knows updateValueNew
  simp only [kind]
  by_cases commanded : handler.base.dataType = .request ∨ handler.base.dataType = .write
  · simp only [commanded, if_true, true_implies]
    cases hval : stoi payload with
    | error exception =>
        refine iff_of_false ?_ (by simp)
        rintro ⟨next, hnext, -⟩
        cases hnext
    | ok val =>
        constructor
        · rintro ⟨next, hnext, keeps⟩
          cases hnext
          refine ⟨val, rfl, or_iff_not_imp_left.mpr fun behind => ?_⟩
          exact (keeps fun ⟨_, _, whole⟩ => behind whole).1.symm
        · rintro ⟨parsed, hparsed, whole | pending⟩
          · exact ⟨_, rfl, fun unknown => absurd ⟨val, rfl, whole⟩ unknown⟩
          · cases hparsed
            exact ⟨_, rfl, fun _ => ⟨pending.symm, rfl⟩⟩
  · simp only [commanded, if_false, false_implies, iff_true]
    exact ⟨handler, rfl, fun _ => ⟨rfl, rfl⟩⟩

example : stoi "21.5" = .ok 21 ∧ Numeral.unread 0 "21.5".toList = ['.', '5'] := by
  decide +kernel

/-- An option that is unknown is dropped with the handler as it was. -/
theorem tolerates_enum {handler : MqttHandler} (payload : String) {iStr : List (Int32 × String)}
    {strI : List (String × Int32)} (kind : handler.kind = .enum iStr strI) :
    handler.Tolerates payload := by
  unfold Tolerates Knows updateValueNew
  simp only [kind]
  cases hlookup : strI.lookup payload with
  | none => exact ⟨handler, rfl, fun _ => ⟨rfl, rfl⟩⟩
  | some val => exact ⟨_, rfl, fun unknown => absurd ⟨val, rfl⟩ unknown⟩

theorem tolerates_binary_iff {handler : MqttHandler} {payload : String}
    (kind : handler.kind = .binary) : handler.Tolerates payload ↔ handler.Withstands payload := by
  unfold Tolerates Withstands Knows updateValueNew
  simp only [kind]
  by_cases known : payload = "ON" ∨ payload = "OFF"
  · refine iff_of_true ⟨_, rfl, fun unknown => absurd known unknown⟩ ?_
    exact known.imp_right .inl
  · obtain ⟨notOn, notOff⟩ := not_or.mp known
    simp only [notOn, notOff, if_false, false_or, not_false_eq_true, true_implies]
    constructor
    · rintro ⟨next, hnext, same, -⟩
      cases hnext
      exact same.symm
    · intro off
      exact ⟨_, rfl, off.symm, rfl⟩

theorem tolerates_iff (handler : MqttHandler) (payload : String) :
    handler.Tolerates payload ↔ handler.Withstands payload := by
  cases kind : handler.kind with
  | numeric => exact tolerates_numeric_iff kind
  | enum iStr strI =>
      refine iff_of_true (tolerates_enum payload kind) ?_
      unfold Withstands
      rw [kind]
      trivial
  | binary => exact tolerates_binary_iff kind

end MqttHandler

/-! ## The loop -/

namespace HassBridge

/-- A round of the loop survives the message, and if the handler of the topic has no value
for the payload, its values stay. -/
def Harmless (bridge : HassBridge) (topic payload : String) : Prop :=
  ∃ next, bridge.handleCommand topic payload = .ok next ∧
    ∀ n handler, bridge.handlerOf topic = some (n, handler) → ¬ handler.Knows payload →
      ∃ other, next.msgnrHandler[n]? = some other ∧ handler.SameValues other

theorem handleCommand_of_handler {bridge : HassBridge} {topic payload : String} {n : UInt16}
    {handler : MqttHandler} (hfound : bridge.handlerOf topic = some (n, handler)) :
    bridge.handleCommand topic payload =
      (handler.updateValueNew payload).map fun handler =>
        bridge.setHandler n handler.resetRetryCounter := by
  unfold handleCommand
  rw [hfound]

/-- The message of a topic with a handler is harmless if and only if the handler
withstands it. -/
theorem harmless_iff_of_handlerOf {bridge : HassBridge} {topic payload : String} {n : UInt16}
    {handler : MqttHandler} (hfound : bridge.handlerOf topic = some (n, handler)) :
    bridge.Harmless topic payload ↔ handler.Withstands payload := by
  rw [← handler.tolerates_iff payload]
  unfold Harmless MqttHandler.Tolerates
  rw [handleCommand_of_handler hfound, hfound]
  cases hval : handler.updateValueNew payload with
  | error exception =>
      refine iff_of_false ?_ ?_ <;> rintro ⟨next, hnext, -⟩ <;> cases hnext
  | ok updated =>
      have stored : (bridge.setHandler n updated.resetRetryCounter).msgnrHandler[n]? =
          some updated.resetRetryCounter := by
        rw [getElem?_setHandler, if_pos rfl]
      constructor
      · rintro ⟨next, hnext, keeps⟩
        cases hnext
        refine ⟨updated, rfl, fun unknown => ?_⟩
        obtain ⟨other, hother, same⟩ := keeps n handler rfl unknown
        rw [stored] at hother
        cases hother
        exact same
      · rintro ⟨next, hnext, keeps⟩
        cases hnext
        refine ⟨_, rfl, fun m other hsame unknown => ?_⟩
        cases hsame
        exact ⟨_, stored, keeps unknown⟩

/-! ## Subscribed topics -/

theorem handlerOf_eq_some {bridge : HassBridge} {topic : String} {n : UInt16}
    {handler : MqttHandler} :
    bridge.handlerOf topic = some (n, handler) ↔
      bridge.topicHandler[topic]? = some (some n) ∧ bridge.msgnrHandler[n]? = some handler := by
  simp only [handlerOf, Option.bind_eq_bind, Option.bind_eq_some_iff, Option.pure_def,
    Option.some.injEq, Prod.mk.injEq]
  constructor
  · rintro ⟨_, htopic, _, rfl, _, hhandler, rfl, rfl⟩
    exact ⟨htopic, hhandler⟩
  · rintro ⟨htopic, hhandler⟩
    exact ⟨some n, htopic, n, rfl, handler, hhandler, rfl, rfl⟩

/-- The topic leads to a handler. -/
def Serves (bridge : HassBridge) (topic : String) : Prop :=
  ∃ n handler, bridge.handlerOf topic = some (n, handler)

theorem Serves.of_keeps {bridge next : HassBridge} {topic : String} (serves : bridge.Serves topic)
    (keeps : bridge.Keeps next) (same : next.topicHandler[topic]? = bridge.topicHandler[topic]?) :
    next.Serves topic := by
  obtain ⟨n, handler, hfound⟩ := serves
  obtain ⟨htopic, hhandler⟩ := handlerOf_eq_some.mp hfound
  obtain ⟨other, hother, -⟩ := keeps n handler hhandler
  exact ⟨n, other, handlerOf_eq_some.mpr ⟨same.trans htopic, hother⟩⟩

/-- A registration leaves a topic alone or leads it to the new handler. -/
theorem topicHandler_register (bridge : HassBridge) (n : UInt16) (handler : MqttHandler)
    (cfg : MsgCfg) (topic : String) :
    (bridge.register n handler cfg).topicHandler[topic]? = some (some n) ∨
      (bridge.register n handler cfg).topicHandler[topic]? = bridge.topicHandler[topic]? := by
  unfold register
  dsimp only
  split <;> simp only [Maps.lookup_insert]
  · split
    · exact .inl rfl
    · split
      · exact .inl rfl
      · exact .inr rfl
  · split
    · exact .inl rfl
    · exact .inr rfl

theorem topicHandler_set {bridge : HassBridge} {n : UInt16} {handler : MqttHandler} {cfg : MsgCfg}
    (commanded : (commandTopicOf cfg).isSome = true) :
    (bridge.register n handler cfg).topicHandler[topicOf cfg.hass.type cfg.name "/set"]? =
      some (some n) := by
  unfold register
  simp only [commanded, if_true, Std.TreeMap.getElem?_insert_self]

theorem serves_addMsg {bridge next : HassBridge} {cfg : MsgCfg} {dataType : DataType}
    {outs : List Output} {topic : String}
    (hadd : bridge.addMsg cfg dataType = .ok (next, outs))
    (here : bridge.Serves topic ∨ .subscribe topic ∈ outs) : next.Serves topic := by
  have keeps := keeps_addMsg hadd
  obtain ⟨n, -, ⟨-, rfl, rfl⟩ | ⟨kind, -, -, rfl, rfl⟩⟩ := addMsg_cases hadd
  · exact here.resolve_right (List.not_mem_nil)
  generalize (cfg.handler kind n bridge.sa dataType).1 = handler at *
  have stored : (bridge.register n handler cfg).msgnrHandler[n]? = some handler := by
    rw [getElem?_register, if_pos rfl]
  rcases here with serves | subscribed
  · rcases bridge.topicHandler_register n handler cfg topic with new | same
    · exact ⟨n, handler, handlerOf_eq_some.mpr ⟨new, stored⟩⟩
    · exact serves.of_keeps keeps same
  · simp only [List.mem_cons, reduceCtorEq, false_or] at subscribed
    split at subscribed
    · rename_i commanded
      rw [List.mem_singleton, Output.subscribe.injEq] at subscribed
      subst subscribed
      exact ⟨n, handler, handlerOf_eq_some.mpr ⟨topicHandler_set commanded, stored⟩⟩
    · exact nomatch subscribed

theorem topicHandler_getNasaPackets (config : Config) (bridge : HassBridge) :
    (bridge.getNasaPackets config).1.topicHandler = bridge.topicHandler := by
  unfold getNasaPackets
  suffices general : ∀ (entries : List (UInt16 × MqttHandler)) (state : HassBridge × List Packet),
      (entries.foldl (collect config) state).1.topicHandler = state.1.topicHandler from
    general _ _
  intro entries
  induction entries with
  | nil => exact fun _ => rfl
  | cons entry entries ih => exact fun state => ih _

theorem topicHandler_publishToHass (bridge : HassBridge) (msg : MessageSet) :
    (bridge.publishToHass msg).1.topicHandler = bridge.topicHandler := by
  unfold publishToHass
  split <;> rfl

theorem subscribe_not_mem_publishToHass (bridge : HassBridge) (msg : MessageSet)
    (topic : String) : .subscribe topic ∉ (bridge.publishToHass msg).2 := by
  unfold publishToHass
  split <;> simp

/-- A command adds at most an entry for its own unknown topic. -/
theorem serves_handleCommand {bridge next : HassBridge} {topic other payload : String}
    (hnext : bridge.handleCommand other payload = .ok next) (serves : bridge.Serves topic) :
    next.Serves topic := by
  refine serves.of_keeps (sameHandlers_handleCommand hnext).keeps ?_
  obtain ⟨n, handler, hfound⟩ := serves
  obtain ⟨htopic, -⟩ := handlerOf_eq_some.mp hfound
  unfold handleCommand at hnext
  split at hnext
  · cases hnext
    have present : topic ∈ bridge.topicHandler :=
      Std.TreeMap.mem_iff_isSome_getElem?.mpr (by rw [htopic]; rfl)
    dsimp only
    rw [Std.TreeMap.getElem?_insertIfNew, if_neg]
    rintro ⟨same, absent⟩
    rw [Std.LawfulEqCmp.compare_eq_iff_eq] at same
    subst same
    exact absent present
  · rename_i n handler _
    cases hval : handler.updateValueNew payload with
    | error exception =>
        rw [hval] at hnext
        cases hnext
    | ok updated =>
        rw [hval] at hnext
        cases hnext
        rfl

end HassBridge

/-- Every topic the bridge has subscribed to leads to a handler. -/
theorem serves_of_subscribe {config : Config} {sa : Address} {events : List Event}
    {bridge : HassBridge} {outs : List Output} {topic : String}
    (hrun : (machine config).run { sa } events = some (bridge, outs))
    (subscribed : .subscribe topic ∈ outs) : bridge.Serves topic := by
  refine (machine config).run_history
    (fun _ bridge outs => .subscribe topic ∈ outs → bridge.Serves topic) ?_ ?_ hrun subscribed
  · intro _ bridge outs event next new here hstep hmem
    cases event with
    | addMsg cfg list =>
        exact HassBridge.serves_addMsg (step_addMsg hstep) ((List.mem_append.mp hmem).imp_left here)
    | publishToHass msg =>
        have hresult : bridge.publishToHass msg = (next, new) := Option.some.inj hstep
        have keeps := (bridge.sameHandlers_publishToHass msg).keeps
        have same := bridge.topicHandler_publishToHass msg
        have silent := bridge.subscribe_not_mem_publishToHass msg topic
        rw [hresult] at keeps same silent
        have earlier := here ((List.mem_append.mp hmem).resolve_right silent)
        exact earlier.of_keeps keeps (by rw [same])
    | command other payload =>
        obtain ⟨hnext, rfl⟩ := step_command hstep
        rw [List.append_nil] at hmem
        exact HassBridge.serves_handleCommand hnext (here hmem)
    | getNasaPackets =>
        cases hstep
        have earlier := here ((List.mem_append.mp hmem).resolve_right (by simp))
        exact earlier.of_keeps (bridge.getNasaPackets_handlers config).1.keeps
          (congrArg (·[topic]?) (bridge.topicHandler_getNasaPackets config))
  · exact fun impossible => nomatch impossible

/-- A topic the bridge has subscribed to has a handler, and a payload on it is harmless if
and only if the handler, in whatever state the run has left it, withstands it. -/
theorem harmless_iff_withstands {config : Config} {sa : Address} {events : List Event}
    {bridge : HassBridge} {outs : List Output} {topic : String}
    (hrun : (machine config).run { sa } events = some (bridge, outs))
    (subscribed : .subscribe topic ∈ outs) (payload : String) :
    ∃ n handler, bridge.handlerOf topic = some (n, handler) ∧
      (bridge.Harmless topic payload ↔ handler.Withstands payload) := by
  obtain ⟨n, handler, hfound⟩ := serves_of_subscribe hrun subscribed
  exact ⟨n, handler, hfound, HassBridge.harmless_iff_of_handlerOf hfound⟩

/-- A whole number for an announced number. -/
theorem harmless_number :
    ∃ bridge outs, (machine {}).run { sa := ⟨.jigTester, 0, 0⟩ }
        [.addMsg ⟨"Target", "0x4201", { type := "number" }⟩ .request] = some (bridge, outs) ∧
      .subscribe "homeassistant/number/samsung_ehs_target/set" ∈ outs ∧
      bridge.Harmless "homeassistant/number/samsung_ehs_target/set" "215" := by
  have served : ((machine {}).run { sa := ⟨.jigTester, 0, 0⟩ }
      [.addMsg ⟨"Target", "0x4201", { type := "number" }⟩ .request]).any (fun result =>
        decide (.subscribe "homeassistant/number/samsung_ehs_target/set" ∈ result.2) &&
          (result.1.handlerOf "homeassistant/number/samsung_ehs_target/set").all
            fun found => decide (found.2.kind = .numeric)) = true := by
    decide +kernel
  obtain ⟨⟨bridge, outs⟩, hrun, hserved⟩ := (Option.any_eq_true _ _).mp served
  rw [Bool.and_eq_true, decide_eq_true_iff] at hserved
  refine ⟨bridge, outs, hrun, hserved.1, ?_⟩
  obtain ⟨n, handler, hfound, harmless⟩ := harmless_iff_withstands hrun hserved.1 "215"
  have kind : handler.kind = .numeric := by
    have found := hserved.2
    rw [hfound] at found
    exact of_decide_eq_true found
  refine harmless.mpr ?_
  unfold MqttHandler.Withstands
  rw [kind]
  exact fun _ => ⟨215, by decide +kernel, .inl (by decide +kernel)⟩

/-- The word `warm` on the command topic of a number ends the program. -/
theorem not_harmless_word :
    ¬ ∀ (config : Config) (sa : Address) (events : List Event) (bridge : HassBridge)
      (outs : List Output) (topic payload : String),
      (machine config).run { sa } events = some (bridge, outs) → .subscribe topic ∈ outs →
        bridge.Harmless topic payload := by
  intro all
  have dies : ((machine {}).run { sa := ⟨.jigTester, 0, 0⟩ }
      [.addMsg ⟨"Target", "0x4201", { type := "number" }⟩ .request]).any (fun result =>
        decide (.subscribe "homeassistant/number/samsung_ehs_target/set" ∈ result.2) &&
          (result.1.handleCommand "homeassistant/number/samsung_ehs_target/set"
            "warm").toOption.isNone) = true := by
    decide +kernel
  obtain ⟨⟨bridge, outs⟩, hrun, hdies⟩ := (Option.any_eq_true _ _).mp dies
  rw [Bool.and_eq_true, decide_eq_true_iff] at hdies
  obtain ⟨next, hnext, -⟩ := all {} _ _ bridge outs _ "warm" hrun hdies.1
  rw [hnext] at hdies
  exact Bool.noConfusion hdies.2

end NasaCpp.Bridge
