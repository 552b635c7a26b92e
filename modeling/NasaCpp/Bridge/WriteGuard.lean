import NasaCpp.Bridge.Entries
import NasaCpp.Handler.WireHeader

/-!
# The write guard

With `disable_write_send` no frame the bridge collects is a write, whatever lists
were loaded and whatever messages, commands and collections came in between.  The
invariant ties every handler to the first valid entry with its number; the packets
of a handler are then reads or, for an entry of the request list, requests, and no
field of the header can turn one data type into another on the wire.
-/

namespace NasaCpp.Bridge

open General Handler Protocol

/-! ## The lists behind the handlers -/

/-- The list an event registers the number from: that of a valid entry with the number. -/
def entryFor (n : UInt16) : Event → Option MsgList
  | .addMsg cfg list => if cfg.number = some n ∧ cfg.kind.isSome then some list else none
  | _ => none

def registered (events : List Event) (n : UInt16) : Option MsgList :=
  events.findSome? (entryFor n)

/-- It is the list that the first valid entry is loaded from. -/
theorem registered_eq (events : List Event) (n : UInt16) :
    registered events n = (firstEntry events n).map Prod.snd := by
  have each : entryFor n = fun event => (entryOf n event).map Prod.snd := by
    funext event
    cases event with
    | addMsg cfg list =>
        dsimp only [entryFor, entryOf]
        split <;> rfl
    | publishToHass msg | command topic payload | getNasaPackets => rfl
  rw [registered, each, firstEntry, List.map_findSome?]
  rfl

theorem registered_later {events : List Event} {n : UInt16} {list : MsgList} (event : Event)
    (here : registered events n = some list) : registered (events ++ [event]) n = some list := by
  rw [registered_eq] at here ⊢
  obtain ⟨entry, hentry, rfl⟩ := Option.map_eq_some_iff.mp here
  rw [firstEntry_concat, hentry, Option.some_or, Option.map_some]

/-- A handler for the number with the data type of the list. -/
def Serves (n : UInt16) (handler : MqttHandler) (list : MsgList) : Prop :=
  handler.base.messageNumber = ⟨n⟩ ∧ handler.base.dataType = list.dataType

def Registered (lists : UInt16 → Option MsgList) (bridge : HassBridge) : Prop :=
  ∀ n, Option.Rel (Serves n) bridge.msgnrHandler[n]? (lists n)

theorem Registered.serves {lists : UInt16 → Option MsgList} {bridge : HassBridge} {n : UInt16}
    {handler : MqttHandler} (reg : Registered lists bridge)
    (hhandler : bridge.msgnrHandler[n]? = some handler) :
    ∃ list, lists n = some list ∧ Serves n handler list := by
  have here := reg n
  rw [hhandler] at here
  cases hlist : lists n with
  | none =>
      rw [hlist] at here
      cases here
  | some list =>
      rw [hlist] at here
      cases here with
      | some serves => exact ⟨list, rfl, serves⟩

/-- A handler that an entry has made serves the list of the entry. -/
theorem Registered.of_entries {events : List Event} {bridge : HassBridge}
    (made : FromEntries (firstEntry events) bridge) : Registered (registered events) bridge := by
  intro n
  have here := made n
  rw [registered_eq]
  generalize bridge.msgnrHandler[n]? = handler at here ⊢
  generalize firstEntry events n = entry at here ⊢
  cases here with
  | none => exact .none
  | some hmade => exact .some ⟨hmade.messageNumber, hmade.dataType⟩

/-! ## The packets of the handlers -/

/-- A packet about one number of the lists: a read, or a request for an entry of the
request list. -/
def Guarded (lists : UInt16 → Option MsgList) (packet : Packet) : Prop :=
  ∃ n list value, lists n = some list ∧ packet.messages = [.create ⟨n⟩ value] ∧
    (packet.command.dataType = .read ∨
      packet.command.dataType = .request ∧ list = .request)

/-- With the guard on, the packets of a handler are reads or requests. -/
theorem guarded_getPacket {lists : UInt16 → Option MsgList} {config : Config} {n : UInt16}
    {handler : MqttHandler} {list : MsgList} (disabled : config.disableWriteSend = true)
    (hlist : lists n = some list) (serves : Serves n handler list) (pktCounter : UInt8) :
    ∀ packet ∈ (handler.getPacket config pktCounter).2, Guarded lists packet := by
  obtain ⟨hnumber, htype⟩ := serves
  intro packet hmem
  change packet ∈ (handler.base.getPacket config pktCounter).2 at hmem
  rcases handler.base.getPacket_cases config pktCounter with
    ⟨-, hget⟩ | ⟨-, -, hget⟩ | ⟨-, hget⟩ | ⟨sends, hget⟩ <;> rw [hget] at hmem
  · obtain rfl := List.mem_singleton.mp hmem
    refine ⟨n, list, 1, hlist, ?_, .inl rfl⟩
    rw [← hnumber]
    rfl
  · cases hmem
  · cases hmem
  · obtain rfl := List.mem_singleton.mp hmem
    refine ⟨n, list, handler.base.valNew.toInt64, hlist, ?_, .inr ?_⟩
    · rw [← hnumber]
      rfl
    · change handler.base.dataType = .request ∧ list = .request
      rw [htype]
      cases list with
      | read => exact absurd (.inr (.inr htype)) sends.pending
      | request => exact ⟨rfl, rfl⟩
      | write => exact absurd ⟨htype, disabled⟩ sends.enabled

/-- A collection collects guarded packets. -/
theorem guarded_getNasaPackets {lists : UInt16 → Option MsgList} {config : Config}
    {bridge : HassBridge} (disabled : config.disableWriteSend = true)
    (reg : Registered lists bridge) :
    ∀ packet ∈ (bridge.getNasaPackets config).2, Guarded lists packet := by
  intro packet hmem
  obtain ⟨n, handler, pktCounter, hhandler, hpacket⟩ :=
    (bridge.getNasaPackets_handlers config).2 packet hmem
  obtain ⟨list, hlist, serves⟩ := reg.serves hhandler
  exact guarded_getPacket disabled hlist serves pktCounter packet hpacket

/-! ## The wire -/

/-- The other half of the byte cannot reach the data type. -/
theorem wire_dataType {command : Command} (nibble : command.dataType.code < 16) :
    command.wire.dataType = command.dataType := by
  have all : ∀ (high : Fin 256) (low : Fin 16),
      ((UInt8.ofNat high <<< 4) + UInt8.ofNat low) &&& 15 = UInt8.ofNat low := by
    decide +kernel
  have here := all ⟨command.packetType.code.toNat, command.packetType.code.toNat_lt⟩
    ⟨command.dataType.code.toNat, nibble⟩
  simp only [UInt8.ofNat_toNat] at here
  rw [Command.wire, Command.ofBytes, here]

structure OnWire (lists : UInt16 → Option MsgList) (frame : Packet) : Prop where
  noWrite : frame.command.dataType = .read ∨ frame.command.dataType = .request
  request : frame.command.dataType = .request →
    ∀ msg ∈ frame.messages, lists msg.messageNumber.code = some .request
  read : ∀ msg ∈ frame.messages, lists msg.messageNumber.code = some .read →
    frame.command.dataType = .read

theorem Guarded.nibble {lists : UInt16 → Option MsgList} {packet : Packet}
    (guarded : Guarded lists packet) : packet.command.wire.dataType = packet.command.dataType := by
  obtain ⟨-, -, -, -, -, read | ⟨request, -⟩⟩ := guarded
  · exact wire_dataType (by rw [read]; decide)
  · exact wire_dataType (by rw [request]; decide)

/-- A guarded packet stays guarded on the wire, whatever its retry counter does there. -/
theorem Guarded.onWire {lists : UInt16 → Option MsgList} {packet : Packet}
    (guarded : Guarded lists packet) : OnWire lists packet.wire := by
  have nibble := guarded.nibble
  obtain ⟨n, list, value, hlist, hmessages, hkind⟩ := guarded
  have wireType : packet.wire.command.dataType = packet.command.dataType := nibble
  have numbers : ∀ msg ∈ packet.wire.messages, lists msg.messageNumber.code = some list := by
    intro msg hmem
    rw [Packet.wire, hmessages] at hmem
    obtain rfl := List.mem_singleton.mp hmem
    exact hlist
  refine ⟨?_, ?_, ?_⟩ <;> rw [wireType]
  · exact hkind.imp_right And.left
  · rintro requested msg hmem
    rcases hkind with read | ⟨-, rfl⟩
    · exact absurd (read.symm.trans requested) (by decide)
    · exact numbers msg hmem
  · intro msg hmem fromRead
    rcases hkind with read | ⟨-, rfl⟩
    · exact read
    · exact absurd ((numbers msg hmem).symm.trans fromRead) (by decide)

/-- Guarded packets of scalar numbers come out of the stream as they went in, up to
what the wire does to their retry counters. -/
theorem decode_guarded {lists : UInt16 → Option MsgList} {pkts : List Packet}
    (scalar : ∀ n list, lists n = some list → getMessageSetType ⟨n⟩ ≠ .Structure)
    (guarded : ∀ packet ∈ pkts, Guarded lists packet) :
    NasaProtocol.decode (NasaProtocol.encode pkts) = some (pkts.map Packet.wire, []) := by
  have sendable : ∀ packet ∈ pkts, NasaProtocol.Sendable packet := by
    intro packet hmem
    obtain ⟨n, list, value, hlist, hmessages, -⟩ := guarded packet hmem
    exact NasaProtocol.sendable_single (scalar n list hlist) hmessages
  rw [NasaProtocol.decode_encode_wire sendable, ← List.flatMap_singleton' (pkts.map Packet.wire),
    List.flatMap_map]
  congr 2
  refine List.flatMap_congr fun packet hmem => ?_
  have kept : packet.wire.command.dataType = packet.command.dataType := (guarded packet hmem).nibble
  obtain ⟨_, _, _, _, _, hkind⟩ := guarded packet hmem
  rw [NasaProtocol.delivered, if_neg]
  rw [kept]
  rcases hkind with read | ⟨request, -⟩
  · rw [read]
    decide
  · rw [request]
    decide

/-! ## Runs -/

/-- What a run has brought about: handlers from the lists and guarded collections. -/
structure Guarding (events : List Event) (bridge : HassBridge) (outputs : List Output) :
    Prop where
  handlers : Registered (registered events) bridge
  packets : ∀ pkts, .packets pkts ∈ outputs → ∀ packet ∈ pkts, Guarded (registered events) packet

theorem Guarded.later {events : List Event} {packet : Packet}
    (guarded : Guarded (registered events) packet) (event : Event) :
    Guarded (registered (events ++ [event])) packet := by
  obtain ⟨n, list, value, hlist, rest⟩ := guarded
  exact ⟨n, list, value, registered_later event hlist, rest⟩

/-- Every event keeps the guard. -/
theorem Guarding.step {config : Config} {events : List Event} {bridge next : HassBridge}
    {outputs new : List Output} {event : Event} (disabled : config.disableWriteSend = true)
    (made : FromEntries (firstEntry events) bridge) (guarding : Guarding events bridge outputs)
    (hstep : (machine config).step bridge event = some (next, new)) :
    Guarding (events ++ [event]) next (outputs ++ new) := by
  refine ⟨.of_entries (made.step hstep), fun pkts hmem packet hpacket => ?_⟩
  refine Guarded.later ?_ event
  rcases List.mem_append.mp hmem with before | here
  · exact guarding.packets pkts before packet hpacket
  cases event with
  | addMsg cfg list =>
      obtain ⟨_, -, ⟨-, -, houts⟩ | ⟨_, -, -, -, houts⟩⟩ := addMsg_cases (step_addMsg hstep)
      · rw [houts] at here
        cases here
      · rw [houts] at here
        split at here <;> simp at here
  | publishToHass msg =>
      have hresult : bridge.publishToHass msg = (next, new) := Option.some.inj hstep
      unfold HassBridge.publishToHass at hresult
      split at hresult <;> cases hresult <;> simp at here
  | command topic payload =>
      obtain ⟨-, rfl⟩ := step_command hstep
      cases here
  | getNasaPackets =>
      cases hstep
      obtain rfl := Output.packets.inj (List.mem_singleton.mp here)
      exact guarded_getNasaPackets disabled guarding.handlers packet hpacket

theorem guarding_init (sa : Address) : Guarding [] { sa } [] where
  handlers := .of_entries (fromEntries_init sa)
  packets _ hmem := nomatch hmem

/-- With `disable_write_send`, in every run over scalar numbers, all frames of all
collections are reads or requests; a request is about a number registered from the
request list, and a number registered from the read list is only read. -/
theorem write_guard {config : Config} {sa : Address} {events : List Event} {last : HassBridge}
    {outputs : List Output} (disabled : config.disableWriteSend = true)
    (scalar : ∀ cfg list n, .addMsg cfg list ∈ events → cfg.number = some n →
      getMessageSetType ⟨n⟩ ≠ .Structure)
    (hrun : (machine config).run { sa } events = some (last, outputs)) :
    ∀ pkts, .packets pkts ∈ outputs →
      ∃ frames, NasaProtocol.decode (NasaProtocol.encode pkts) = some (frames, []) ∧
        frames.length = pkts.length ∧ ∀ frame ∈ frames, OnWire (registered events) frame := by
  have guarding : Guarding events last outputs :=
    ((machine config).run_history
      (fun events bridge outputs =>
        FromEntries (firstEntry events) bridge ∧ Guarding events bridge outputs)
      (fun here hstep => ⟨here.1.step hstep, here.2.step disabled here.1 hstep⟩)
      ⟨fromEntries_init sa, guarding_init sa⟩ hrun).2
  have scalars : ∀ n list, registered events n = some list →
      getMessageSetType ⟨n⟩ ≠ .Structure := by
    intro n list hlist
    obtain ⟨event, hmem, hentry⟩ := List.exists_of_findSome?_eq_some hlist
    cases event with
    | addMsg cfg other =>
        simp only [entryFor] at hentry
        split at hentry
        · rename_i entry
          exact scalar cfg other n hmem entry.1
        · cases hentry
    | publishToHass msg | command topic payload | getNasaPackets => cases hentry
  intro pkts hmem
  have guarded := guarding.packets pkts hmem
  refine ⟨pkts.map Packet.wire, decode_guarded scalars guarded, List.length_map _, ?_⟩
  intro frame hframe
  obtain ⟨packet, hpacket, rfl⟩ := List.mem_map.mp hframe
  exact (guarded packet hpacket).onWire

/-- A switch and a field setting, each with a known value and a command. -/
theorem write_guard_switch_and_field_setting :
    ∃ last outputs,
      (machine { disableWriteSend := true }).run { sa := ⟨.jigTester, 0, 0⟩ }
          [.addMsg ⟨"DHW", "0x4065", { type := "switch" }⟩ .request,
            .addMsg ⟨"FSV 1011", "0x424A", { type := "number" }⟩ .write, .getNasaPackets,
            .publishToHass (.create ⟨0x4065⟩ 0), .publishToHass (.create ⟨0x424A⟩ 40),
            .command "homeassistant/switch/samsung_ehs_dhw/set" "ON",
            .command "homeassistant/number/samsung_ehs_fsv_1011/set" "45", .getNasaPackets] =
        some (last, outputs) ∧
      ∀ pkts, .packets pkts ∈ outputs →
        ∃ frames, NasaProtocol.decode (NasaProtocol.encode pkts) = some (frames, []) ∧
          frames.length = pkts.length ∧
          ∀ frame ∈ frames, frame.command.dataType = .read ∨ frame.command.dataType = .request := by
  obtain ⟨⟨last, outputs⟩, hrun⟩ := Option.isSome_iff_exists.mp
    (show ((machine { disableWriteSend := true }).run { sa := ⟨.jigTester, 0, 0⟩ }
      [.addMsg ⟨"DHW", "0x4065", { type := "switch" }⟩ .request,
        .addMsg ⟨"FSV 1011", "0x424A", { type := "number" }⟩ .write, .getNasaPackets,
        .publishToHass (.create ⟨0x4065⟩ 0), .publishToHass (.create ⟨0x424A⟩ 40),
        .command "homeassistant/switch/samsung_ehs_dhw/set" "ON",
        .command "homeassistant/number/samsung_ehs_fsv_1011/set" "45",
        .getNasaPackets]).isSome = true by decide +kernel)
  have switch : MsgCfg.number ⟨"DHW", "0x4065", { type := "switch" }⟩ = some 0x4065 := by
    decide +kernel
  have setting : MsgCfg.number ⟨"FSV 1011", "0x424A", { type := "number" }⟩ = some 0x424A := by
    decide +kernel
  refine ⟨last, outputs, hrun, fun pkts hmem => ?_⟩
  have scalar : ∀ cfg list n, Event.addMsg cfg list ∈
      [Event.addMsg ⟨"DHW", "0x4065", { type := "switch" }⟩ .request,
        .addMsg ⟨"FSV 1011", "0x424A", { type := "number" }⟩ .write, .getNasaPackets,
        .publishToHass (.create ⟨0x4065⟩ 0), .publishToHass (.create ⟨0x424A⟩ 40),
        .command "homeassistant/switch/samsung_ehs_dhw/set" "ON",
        .command "homeassistant/number/samsung_ehs_fsv_1011/set" "45", .getNasaPackets] →
      cfg.number = some n → getMessageSetType ⟨n⟩ ≠ .Structure := by
    intro cfg list n hadd hnumber
    simp only [List.mem_cons, Event.addMsg.injEq, reduceCtorEq, List.not_mem_nil, or_false] at hadd
    rcases hadd with ⟨rfl, -⟩ | ⟨rfl, -⟩
    · cases switch.symm.trans hnumber
      decide
    · cases setting.symm.trans hnumber
      decide
  obtain ⟨frames, hframes, length_eq, onWire⟩ := write_guard rfl scalar hrun pkts hmem
  exact ⟨frames, hframes, length_eq, fun frame hframe => (onWire frame hframe).noWrite⟩

end NasaCpp.Bridge
