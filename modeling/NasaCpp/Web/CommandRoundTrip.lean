import NasaCpp.Bridge.Registration
import NasaCpp.Handler.Echo
import NasaCpp.Handler.LifeCycle
import NasaCpp.Web.Entities
import NasaCpp.Web.ScaleTemplate

/-!
# From the display to the heat pump and back

What the web client displays for a value it can also command: the payload it builds
from the display sets that very value in the handler, the value crosses the bus in one
packet, and once it is confirmed the bridge publishes what was displayed.
-/

namespace NasaCpp.Web

open Bridge General Handler Protocol

/-! ## The bus -/

def transmit (pkts : List Packet) : Option (List MessageSet) := do
  let (frames, _) ← NasaProtocol.decode (NasaProtocol.encode pkts)
  return frames.flatMap Packet.messages

/-- A payload on its way to the heat pump and back: the handler takes the command, its
packet crosses the bus, and the messages of the packet come back as the new value. -/
def deliver (config : Config) (handler : MqttHandler) (payload : String) (pktCounter : UInt8) :
    Option MqttHandler := do
  let handler ← (handler.updateValueNew payload).toOption
  let (handler, pkts) := handler.resetRetryCounter.getPacket config pktCounter
  let messages ← transmit pkts
  return messages.foldl MqttHandler.updateValue handler

def confirmed (handler : MqttHandler) (raw : Int32) : MqttHandler :=
  { handler with base := { handler.base with valIs := raw, valNew := intMax, retryCtr := 1 } }

def Sets (handler : MqttHandler) (payload : String) (raw : Int32) : Prop :=
  ∃ next, handler.updateValueNew payload = .ok next ∧
    next.resetRetryCounter = (handler.withValNew raw).resetRetryCounter

/-- A new command other than the known value is sent. -/
theorem sends_command {config : Config} {handler : MsgHandler} {val : Int32}
    (commanded : IsCommanded config handler.dataType) (known : handler.valIs ≠ intMax)
    (differs : handler.valIs ≠ val) (real : val ≠ intMax) :
    ((handler.updateValueNew val).resetRetryCounter).Sends config where
  known asks := known asks.1
  pending := by
    rintro (absent | same | read)
    · exact real absent
    · exact differs same
    · exact commanded.ne_read read
  enabled := commanded.enabled
  retries := by
    change ¬ (0 : Int32) > 10
    decide

/-- The packet of a new command crosses the bus unharmed. -/
theorem transmit_commandPacket {config : Config} (handler : MsgHandler)
    (commanded : IsCommanded config handler.dataType) (scalar : handler.msgSetType ≠ .Structure)
    (fresh : handler.retryCtr = 0) (pktCounter : UInt8) :
    transmit [handler.commandPacket pktCounter] =
      some [echoOf handler.messageNumber handler.valNew] := by
  have sendable := handler.sendable_commandPacket pktCounter scalar
  have nibble : handler.dataType.code < 16 ∧
      handler.dataType ≠ .ack ∧ handler.dataType ≠ .nack := by
    rcases commanded with request | ⟨write, -⟩
    · rw [request]
      decide
    · rw [write]
      decide
  have version : (2 : UInt8) < 4 := by decide
  have retry : handler.retryCtr.toUInt32.toUInt8 < 4 := by
    rw [fresh]
    decide
  have packetType : PacketType.normal.code < 16 := by decide
  have fits : (handler.commandPacket pktCounter).command.Fits :=
    ⟨version, retry, packetType, nibble.1⟩
  have keep : (handler.commandPacket pktCounter).command.dataType ≠ .ack ∧
      (handler.commandPacket pktCounter).command.dataType ≠ .nack := nibble.2
  rw [transmit, NasaProtocol.decode_encode_stream (by simpa using sendable) (by simpa using fits),
    List.filter_cons_of_pos (by simpa using keep)]
  rfl

/-- A payload that commands a representable value makes it the value of the handler. -/
theorem deliver_eq {config : Config} {handler : MqttHandler} {payload : String} {raw : Int32}
    (sets : Sets handler payload raw) (commanded : IsCommanded config handler.base.dataType)
    (representable : Representable handler.base.msgSetType raw)
    (known : handler.base.valIs ≠ intMax) (differs : handler.base.valIs ≠ raw)
    (real : raw ≠ intMax) (pktCounter : UInt8) :
    deliver config handler payload pktCounter = some (confirmed handler raw) := by
  obtain ⟨next, hnext, hreset⟩ := sets
  have scalar : handler.base.msgSetType ≠ .Structure := by
    intro structured
    rw [structured] at representable
    exact representable
  have sent := MsgHandler.getPacket_of_sends (sends_command commanded known differs real) pktCounter
  have crossed : transmit [(handler.base.updateValueNew raw).resetRetryCounter.commandPacket
      pktCounter] = some [echoOf handler.base.messageNumber raw] :=
    transmit_commandPacket (handler.base.updateValueNew raw).resetRetryCounter commanded scalar rfl
      pktCounter
  have echoed : ({ handler.base with valNew := raw, retryCtr := 1 } : MsgHandler).updateValue
      (echoOf handler.base.messageNumber raw) =
        { handler.base with valIs := raw, valNew := intMax, retryCtr := 1 } :=
    updateValue_echo representable
  have reset : (handler.withValNew raw).resetRetryCounter =
      { handler with base := (handler.base.updateValueNew raw).resetRetryCounter } := rfl
  simp only [deliver, hnext, Except.toOption, Option.bind_eq_bind, Option.bind_some, hreset, reset,
    MqttHandler.getPacket, sent, crossed, List.foldl_cons, List.foldl_nil, MqttHandler.updateValue]
  exact congrArg (fun base => some { handler with base }) echoed

/-! ## The announcement -/

theorem entityFromDiscovery_eq_some {objectId platform : String} {cfg : Discovery}
    {entity : Entity} (hentity : entityFromDiscovery objectId platform cfg = some entity) :
    Transform.parse cfg.valueTemplate = some entity.valueTf ∧
      Transform.parse cfg.commandTemplate = some entity.commandTf ∧
      entity.platform = platform ∧ entity.deviceClass = cfg.deviceClass ∧
      entity.options = optionNames cfg.options := by
  simp only [entityFromDiscovery, Option.bind_eq_bind, Option.bind_eq_some_iff, Option.pure_def,
    Option.some.injEq] at hentity
  obtain ⟨valueTf, hvalue, commandTf, hcommand, rfl⟩ := hentity
  exact ⟨hvalue, hcommand, rfl, rfl, rfl⟩

def entityKind : Kind → EntityKind
  | .numeric => .numeric
  | .enum _ _ => .enum
  | .binary => .binary

/-- Bridge and client agree on the kind of an entry. -/
theorem kind_eq_entityKind {cfg : MsgCfg} {kind : Kind} {entity : Entity}
    (hkind : cfg.kind = some kind) (platform : entity.platform = cfg.hass.type)
    (deviceClass : entity.deviceClass = cfg.hass.deviceClass) :
    entity.kind = entityKind kind := by
  have enumClass : cfg.hass.deviceClass = some "enum" ↔ cfg.hass.deviceClass.getD "" = "enum" := by
    cases cfg.hass.deviceClass with
    | none => decide
    | some name => exact Option.some.injEq name "enum" ▸ Iff.rfl
  unfold Entity.kind
  rw [platform, deviceClass]
  rcases kindOf_cases hkind with ⟨rfl, type, other⟩ | ⟨rfl, type⟩ | ⟨rfl, other, type⟩
  · have notBinary : ¬ (cfg.hass.type = "switch" ∨ cfg.hass.type = "binary_sensor") := by
      rcases type with type | type <;> rw [type] <;> decide
    have notEnum : ¬ (cfg.hass.type = "select" ∨ cfg.hass.deviceClass = some "enum") := by
      rw [enumClass]
      rcases type with type | type <;> rw [type] <;> simpa using other
    rw [if_neg notBinary, if_neg notEnum]
    rfl
  · rw [if_pos type]
    rfl
  · rw [if_neg other, if_pos (by rw [enumClass]; exact type)]
    rfl

/-! ## What the handler makes of a payload -/

/-- The value the user interface shows for a payload of the state topic and sends back. -/
def Entity.shown (entity : Entity) (payload : String) : List Value :=
  let (number, text) := entity.parseState payload
  match entity.kind with
  | .numeric => (number.map .number).toList
  | .enum => (text.map .text).toList
  | .binary => (number.map .number).toList ++ (text.map .text).toList

def payloadOf (handler : MqttHandler) (raw : Int32) : String :=
  (confirmed handler raw).getMqttPayload

theorem lookup_of_mem {α β : Type} [BEq α] [LawfulBEq α] {items : List (α × β)} {key : α}
    {value : β} (keys : (items.map Prod.fst).Nodup) (hmem : (key, value) ∈ items) :
    items.lookup key = some value := by
  obtain ⟨front, back, rfl⟩ := List.append_of_mem hmem
  refine List.lookup_eq_some_iff.mpr ⟨front, back, rfl, fun item hitem => ?_⟩
  rw [List.map_append, List.map_cons, List.nodup_append] at keys
  have other := keys.2.2 item.1 (List.mem_map_of_mem hitem) key List.mem_cons_self
  simpa using other.symm

theorem sets_numeric {config : Config} {handler : MqttHandler} (kind : handler.kind = .numeric)
    (commanded : IsCommanded config handler.base.dataType) (raw : Int32) :
    Sets handler (toString raw.toInt) raw := by
  have writable : handler.base.dataType = .request ∨ handler.base.dataType = .write :=
    commanded.imp_right And.left
  have range : Int32.minValue.toInt ≤ raw.toInt ∧ raw.toInt ≤ Int32.maxValue.toInt :=
    ⟨raw.minValue_le_toInt, raw.toInt_le⟩
  have value : stoi (toString raw.toInt) = .ok raw := by
    rw [stoi, Numeral.toList_toString, Numeral.strtol_decimal]
    dsimp only
    rw [if_pos range, Int32.ofInt_toInt]
  refine ⟨handler.withValNew raw, ?_, rfl⟩
  rw [MqttHandler.updateValueNew, kind]
  dsimp only
  rw [if_pos writable, value]
  rfl

theorem addOptions_eq (items : List (String × Int32)) :
    MqttHandler.addOptions items [] [] = .enum (items.map Prod.swap).reverse items.reverse := by
  rw [MqttHandler.addOptions, List.foldl_flip_cons_eq_append, List.foldl_flip_cons_eq_append]
  simp only [List.append_nil, List.map_id']
  rfl

theorem sets_enum {handler : MqttHandler} {items : List (String × Int32)} {label : String}
    {raw : Int32} (kind : handler.kind = MqttHandler.addOptions items [] [])
    (labels : (items.map Prod.fst).Nodup) (hmem : (label, raw) ∈ items) :
    Sets handler label raw := by
  have found : items.reverse.lookup label = some raw := by
    refine lookup_of_mem ?_ (List.mem_reverse.mpr hmem)
    rw [List.map_reverse]
    exact List.nodup_reverse.mpr labels
  refine ⟨(handler.withValNew raw).resetRetryCounter, ?_, rfl⟩
  rw [MqttHandler.updateValueNew, kind, addOptions_eq]
  dsimp only
  rw [found]

theorem sets_binary {handler : MqttHandler} {raw : Int32} (kind : handler.kind = .binary)
    (bit : raw = 0 ∨ raw = 1) : Sets handler (if raw = 0 then "OFF" else "ON") raw := by
  refine ⟨(handler.withValNew raw).resetRetryCounter, ?_, rfl⟩
  rw [MqttHandler.updateValueNew, kind]
  rcases bit with rfl | rfl <;> rfl

theorem payloadOf_numeric {handler : MqttHandler} {raw : Int32} (kind : handler.kind = .numeric)
    (real : raw ≠ intMax) : payloadOf handler raw = toString raw.toInt := by
  unfold payloadOf MqttHandler.getMqttPayload confirmed
  rw [kind]
  exact if_neg real

theorem payloadOf_enum {handler : MqttHandler} {items : List (String × Int32)} {label : String}
    {raw : Int32} (kind : handler.kind = MqttHandler.addOptions items [] [])
    (values : (items.map Prod.snd).Nodup) (hmem : (label, raw) ∈ items) :
    payloadOf handler raw = label := by
  have found : (items.map Prod.swap).reverse.lookup raw = some label := by
    refine lookup_of_mem ?_ (List.mem_reverse.mpr (List.mem_map.mpr ⟨(label, raw), hmem, rfl⟩))
    rw [List.map_reverse, List.map_map]
    exact List.nodup_reverse.mpr values
  unfold payloadOf MqttHandler.getMqttPayload confirmed
  rw [kind, addOptions_eq]
  dsimp only
  rw [found]
  rfl

theorem payloadOf_binary {handler : MqttHandler} (raw : Int32) (kind : handler.kind = .binary) :
    payloadOf handler raw = if raw = 0 then "OFF" else "ON" := by
  unfold payloadOf MqttHandler.getMqttPayload confirmed
  rw [kind]

/-! ## What the client makes of it -/

/-- Every display of the value builds a payload that commands the value. -/
structure Commands (str : ℚ → String) (entity : Entity) (handler : MqttHandler) (raw : Int32) :
    Prop where
  displayed : entity.shown (payloadOf handler raw) ≠ []
  built : ∀ value ∈ entity.shown (payloadOf handler raw), ∃ payload,
    entity.buildCommand str value = some payload ∧ Sets handler payload raw

theorem parseState_of_visible {entity : Entity} {payload : String} (nonempty : payload ≠ "")
    (visible : strip payload.toList = payload.toList) :
    entity.parseState payload =
      match entity.kind with
      | .binary =>
          if Entity.upper payload = "ON" then (some 1, some "ON") else (some 0, some "OFF")
      | .enum =>
          (if payload ∈ entity.options then some (entity.options.idxOf payload : ℚ) else none,
            some payload)
      | .numeric =>
          match floatOf payload.toList with
          | some value => (some (entity.valueTf.apply value), none)
          | none => (none, some payload) := by
  unfold Entity.parseState
  rw [visible, String.ofList_toList]
  exact if_neg nonempty

theorem commands_numeric {config : Config} {str : ℚ → String} {entity : Entity}
    {handler : MqttHandler} {raw : Int32} {valueTemplate commandTemplate : Option String}
    (entityKind : entity.kind = .numeric) (kind : handler.kind = .numeric)
    (commanded : IsCommanded config handler.base.dataType) (real : raw ≠ intMax)
    (scaling : Scaling valueTemplate commandTemplate)
    (hvalue : Transform.parse valueTemplate = some entity.valueTf)
    (hcommand : Transform.parse commandTemplate = some entity.commandTf)
    (within : entity.outside (entity.valueTf.apply raw.toInt) = false) :
    Commands str entity handler raw := by
  have text : (toString raw.toInt).toList = Numeral.decimal raw.toInt :=
    Numeral.toList_toString raw.toInt
  have nonempty : toString raw.toInt ≠ "" := by
    intro empty
    rw [empty] at text
    have read := floatOf_decimal raw.toInt
    have nothing : floatOf "".toList = none := by decide
    rw [← text, nothing] at read
    cases read
  have parsed : entity.parseState (toString raw.toInt) =
      (some (entity.valueTf.apply raw.toInt), none) := by
    rw [parseState_of_visible nonempty (by rw [text, strip_decimal]), entityKind]
    dsimp only
    rw [text, floatOf_decimal]
  have shown : entity.shown (payloadOf handler raw) =
      [.number (entity.valueTf.apply raw.toInt)] := by
    unfold Entity.shown
    rw [payloadOf_numeric kind real, parsed, entityKind]
    rfl
  have built : entity.buildCommand str (.number (entity.valueTf.apply raw.toInt)) =
      some (toString raw.toInt) := by
    unfold Entity.buildCommand
    rw [entityKind]
    simp only [Value.float, Option.bind_eq_bind, Option.bind_some, within,
      scaling.round_trip hvalue hcommand raw.toInt]
    rfl
  refine ⟨by rw [shown]; exact List.cons_ne_nil _ _, fun value hmem => ?_⟩
  rw [shown] at hmem
  obtain rfl := List.mem_singleton.mp hmem
  exact ⟨_, built, sets_numeric kind commanded raw⟩

theorem commands_enum {str : ℚ → String} {entity : Entity} {handler : MqttHandler}
    {items : List (String × Int32)} {label : String} {raw : Int32}
    (entityKind : entity.kind = .enum) (kind : handler.kind = MqttHandler.addOptions items [] [])
    (options : entity.options = items.map Prod.fst) (labels : (items.map Prod.fst).Nodup)
    (values : (items.map Prod.snd).Nodup) (hmem : (label, raw) ∈ items) (nonempty : label ≠ "")
    (visible : strip label.toList = label.toList) : Commands str entity handler raw := by
  have shown : entity.shown (payloadOf handler raw) = [.text label] := by
    unfold Entity.shown
    rw [payloadOf_enum kind values hmem, parseState_of_visible nonempty visible, entityKind]
    rfl
  have listed : label ∈ entity.options := by
    rw [options]
    exact List.mem_map.mpr ⟨(label, raw), hmem, rfl⟩
  have built : entity.buildCommand str (.text label) = some label := by
    unfold Entity.buildCommand
    rw [entityKind]
    exact if_pos listed
  refine ⟨by rw [shown]; exact List.cons_ne_nil _ _, fun value hvalue => ?_⟩
  rw [shown] at hvalue
  obtain rfl := List.mem_singleton.mp hvalue
  exact ⟨label, built, sets_enum kind labels hmem⟩

theorem upper_eq_self {text : String} (h : text = "ON" ∨ text = "OFF") :
    Entity.upper text = text := by
  rcases h with rfl | rfl <;> decide +kernel

/-- What a binary entity shows for a bit. -/
theorem shown_binary {entity : Entity} (entityKind : entity.kind = .binary) :
    entity.shown "OFF" = [.number 0, .text "OFF"] ∧
      entity.shown "ON" = [.number 1, .text "ON"] := by
  have off : Entity.upper "OFF" = "OFF" := upper_eq_self (.inr rfl)
  have on : Entity.upper "ON" = "ON" := upper_eq_self (.inl rfl)
  constructor
  · unfold Entity.shown
    rw [parseState_of_visible (by decide) (by decide), entityKind, off]
    rfl
  · unfold Entity.shown
    rw [parseState_of_visible (by decide) (by decide), entityKind, on]
    rfl

theorem buildCommand_binary {str : ℚ → String} {entity : Entity} {payload : String}
    {value : Value} (entityKind : entity.kind = .binary)
    (hvalue : payload = "OFF" ∧ value ∈ [Value.number 0, .text "OFF"] ∨
      payload = "ON" ∧ value ∈ [Value.number 1, .text "ON"]) :
    entity.buildCommand str value = some payload := by
  have off : Entity.upper "OFF" = "OFF" := upper_eq_self (.inr rfl)
  have on : Entity.upper "ON" = "ON" := upper_eq_self (.inl rfl)
  unfold Entity.buildCommand
  rw [entityKind]
  rcases hvalue with ⟨rfl, hmem⟩ | ⟨rfl, hmem⟩ <;> rcases List.mem_pair.mp hmem with rfl | rfl
  · rfl
  · simp [off]
  · rfl
  · simp [on]

theorem commands_binary {str : ℚ → String} {entity : Entity} {handler : MqttHandler} {raw : Int32}
    (entityKind : entity.kind = .binary) (kind : handler.kind = .binary)
    (bit : raw = 0 ∨ raw = 1) : Commands str entity handler raw := by
  have sets := sets_binary kind bit
  have payload := payloadOf_binary raw kind
  have shown := shown_binary entityKind
  rcases bit with rfl | rfl
  · rw [if_pos rfl] at sets payload
    refine ⟨by rw [payload, shown.1]; exact List.cons_ne_nil _ _, fun value hvalue => ?_⟩
    rw [payload, shown.1] at hvalue
    exact ⟨"OFF", buildCommand_binary entityKind (.inl ⟨rfl, hvalue⟩), sets⟩
  · rw [if_neg (by decide)] at sets payload
    refine ⟨by rw [payload, shown.2]; exact List.cons_ne_nil _ _, fun value hvalue => ?_⟩
    rw [payload, shown.2] at hvalue
    exact ⟨"ON", buildCommand_binary entityKind (.inr ⟨rfl, hvalue⟩), sets⟩

/-! ## The round trip -/

/-- The values that can be commanded through an entity: a number whose display is within
the limits, the value of an option, a bit. -/
inductive Commandable (cfg : HassCfg) (entity : Entity) (raw : Int32) : Prop where
  | numeric (kind : entity.kind = .numeric)
      (scaling : Scaling cfg.valueTemplate cfg.commandTemplate)
      (within : entity.outside (entity.valueTf.apply raw.toInt) = false)
  | select {items : List (String × Int32)} {label : String} (kind : entity.kind = .enum)
      (options : cfg.options = some items) (labels : (items.map Prod.fst).Nodup)
      (values : (items.map Prod.snd).Nodup) (nonempty : ∀ item ∈ items, item.1 ≠ "")
      (visible : ∀ item ∈ items, strip item.1.toList = item.1.toList)
      (option : (label, raw) ∈ items)
  | switch (kind : entity.kind = .binary) (bit : raw = 0 ∨ raw = 1)

/-- An entity announced for an entry commands every value it can display. -/
theorem commands_of_commandable {config : Config} {sa : Address} {cfg : MsgCfg} {list : MsgList}
    {discovery : Discovery} {bridge : HassBridge} {n : UInt16} {handler : MqttHandler}
    {objectId : String} {entity : Entity} {raw : Int32}
    (announced : Announced config sa cfg list discovery bridge) (hnumber : cfg.number = some n)
    (hhandler : bridge.msgnrHandler[n]? = some handler)
    (hentity : entityFromDiscovery objectId cfg.hass.type discovery = some entity)
    (commanded : IsCommanded config handler.base.dataType) (real : raw ≠ intMax)
    (commandable : Commandable cfg.hass entity raw) (str : ℚ → String) :
    Commands str entity handler raw := by
  obtain ⟨kind, own, hkind, rfl, same⟩ := announced.handler hnumber hhandler
  obtain ⟨hvalue, hcommand, platform, deviceClass, options⟩ := entityFromDiscovery_eq_some hentity
  have kinds := kind_eq_entityKind hkind platform deviceClass
  have made := same.kind
  have classes := kindOf_cases hkind
  cases commandable with
  | numeric entityNumeric scaling within =>
      rcases classes with ⟨rfl, -⟩ | ⟨rfl, -⟩ | ⟨rfl, -⟩
      · rw [MsgCfg.handler_numeric] at made
        exact commands_numeric entityNumeric made commanded real scaling hvalue hcommand within
      · cases kinds.symm.trans entityNumeric
      · cases kinds.symm.trans entityNumeric
  | @select items label entityEnum table labels values nonempty visible option =>
      rcases classes with ⟨rfl, -⟩ | ⟨rfl, -⟩ | ⟨rfl, -⟩
      · cases kinds.symm.trans entityEnum
      · cases kinds.symm.trans entityEnum
      · obtain ⟨taken, announcedNames⟩ := MsgCfg.handler_enum table n own list.dataType
        rw [taken] at made
        rw [HassBridge.discoveryOf, announcedNames] at options
        have named : label ≠ "" := nonempty (label, raw) option
        have stripped : strip label.toList = label.toList := visible (label, raw) option
        exact commands_enum entityEnum made options labels values option named stripped
  | switch entityBinary bit =>
      rcases classes with ⟨rfl, -⟩ | ⟨rfl, -⟩ | ⟨rfl, -⟩
      · cases kinds.symm.trans entityBinary
      · rw [MsgCfg.handler_binary] at made
        exact commands_binary entityBinary made bit
      · cases kinds.symm.trans entityBinary

/-- What a writable entity displays for a commandable value can be sent back, in every
form it is displayed, and then becomes the value of the handler and is displayed again. -/
theorem command_round_trip {config : Config} {sa : Address} {cfg : MsgCfg} {list : MsgList}
    {discovery : Discovery} {bridge : HassBridge} {n : UInt16} {handler : MqttHandler}
    {objectId : String} {entity : Entity} {raw : Int32}
    (announced : Announced config sa cfg list discovery bridge) (hnumber : cfg.number = some n)
    (hhandler : bridge.msgnrHandler[n]? = some handler)
    (writable : list = .request ∨ list = .write ∧ config.disableWriteSend = false)
    (hentity : entityFromDiscovery objectId cfg.hass.type discovery = some entity)
    (known : handler.base.valIs ≠ intMax) (differs : handler.base.valIs ≠ raw)
    (representable : Representable (getMessageSetType ⟨n⟩) raw) (real : raw ≠ intMax)
    (commandable : Commandable cfg.hass entity raw) (str : ℚ → String) (pktCounter : UInt8) :
    entity.shown (payloadOf handler raw) ≠ [] ∧
      ∀ value ∈ entity.shown (payloadOf handler raw), ∃ payload next,
        entity.buildCommand str value = some payload ∧
        deliver config handler payload pktCounter = some next ∧
        next.base.valIs = raw ∧
        entity.shown next.getMqttPayload = entity.shown (payloadOf handler raw) := by
  obtain ⟨kind, own, -, -, same⟩ := announced.handler hnumber hhandler
  have number : handler.base.messageNumber = ⟨n⟩ := by
    rw [same.base.messageNumber, MsgCfg.handler_base]
    rfl
  have commanded : IsCommanded config handler.base.dataType := by
    rw [same.base.dataType, MsgCfg.handler_base]
    rcases writable with rfl | ⟨rfl, enabled⟩
    · exact .inl rfl
    · exact .inr ⟨rfl, enabled⟩
  have carried : Representable handler.base.msgSetType raw := by
    rw [MsgHandler.msgSetType, number]
    exact representable
  have commands := commands_of_commandable announced hnumber hhandler hentity commanded real
    commandable str
  refine ⟨commands.displayed, fun value hvalue => ?_⟩
  obtain ⟨payload, built, sets⟩ := commands.built value hvalue
  exact ⟨payload, confirmed handler raw, built,
    deliver_eq sets commanded carried known differs real pktCounter, rfl, by rw [payloadOf]⟩

def zoneOffset : MsgCfg where
  name := "Zone 1 Offset"
  messageNumber := "0x4248"
  hass :=
    { type := "number", min := some (-5), max := some 5
      valueTemplate := some (braced "(value | float) / 10")
      commandTemplate := some (braced "value * 10") }

/-- An offset of minus one and a half degrees, where the heat pump has minus two. -/
theorem command_round_trip_zone_offset :
    ∃ (handler : MqttHandler) (entity : Entity),
      entity.shown (payloadOf handler (-15)) = [.number (-3 / 2)] ∧
        ∀ value ∈ entity.shown (payloadOf handler (-15)), ∃ payload next,
          entity.buildCommand (fun _ => "") value = some payload ∧
          deliver {} handler payload 7 = some next ∧
          next.base.valIs = -15 ∧
          entity.shown next.getMqttPayload = entity.shown (payloadOf handler (-15)) := by
  have found : (((Bridge.machine {}).run { sa := ⟨.jigTester, 0, 0⟩ }
      [.addMsg zoneOffset .request, .publishToHass (.create ⟨0x4248⟩ (-20))]).bind
        fun result => result.1.msgnrHandler[(0x4248 : UInt16)]?) =
      some
        { base :=
            { messageNumber := ⟨0x4248⟩, sa := ⟨.jigTester, 0, 0⟩, dataType := .request
              valIs := -20 }
          topic := "homeassistant/number/samsung_ehs_zone_1_offset/state"
          kind := .numeric } := by
    decide +kernel
  have outputs : ((Bridge.machine {}).step { sa := ⟨.jigTester, 0, 0⟩ }
      (.addMsg zoneOffset .request)).map Prod.snd =
        some [.announce "homeassistant/number/samsung_ehs_zone_1_offset/config"
            (HassBridge.discoveryOf zoneOffset none),
          .subscribe "homeassistant/number/samsung_ehs_zone_1_offset/set"] := by
    decide +kernel
  have hentity : entityFromDiscovery "samsung_ehs_zone_1_offset" "number"
      (HassBridge.discoveryOf zoneOffset none) =
        some
          { id := "samsung_ehs_zone_1_offset", name := "Zone 1 Offset", platform := "number"
            stateTopic := "homeassistant/number/samsung_ehs_zone_1_offset/state"
            commandTopic := some "homeassistant/number/samsung_ehs_zone_1_offset/set"
            min := some (-5), max := some 5
            valueTf := { factor := 1 / 10 }, commandTf := { factor := 10 } } := by
    decide +kernel
  obtain ⟨⟨bridge, outs⟩, hrun, hhandler⟩ := Option.bind_eq_some_iff.mp found
  obtain ⟨next, first, rest, hadd, hlater, -⟩ := (Bridge.machine {}).run_cons_eq_some.mp hrun
  rw [hadd, Option.map_some, Option.some.injEq] at outputs
  dsimp only at outputs
  subst outputs
  have scaling : Scaling zoneOffset.hass.valueTemplate zoneOffset.hass.commandTemplate :=
    @Scaling.quotient 10 _ _ (by decide) (by decide) (.inr (by decide +kernel))
      (.inr (by decide +kernel))
  refine ⟨_, _, ?_, (command_round_trip ⟨[], _, next, _, _, _, _, _, rfl, hadd, hlater⟩
    (by decide +kernel) hhandler (.inl rfl) hentity (by decide) (by decide) (by decide) (by decide)
    (.numeric rfl scaling (by decide +kernel)) (fun _ => "") 7).2⟩
  decide +kernel

end NasaCpp.Web
