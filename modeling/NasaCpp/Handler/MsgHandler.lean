import NasaCpp.General.Machine
import NasaCpp.Protocol.Types

/-!
# The message handler

`NasaMsgHandler` keeps one value of the heat pump: the value last received, the
value last commanded and a retry counter, `INT_MAX` standing for no value.  Its
packets are appended to the vector the caller passes; here they are returned.
-/

namespace NasaCpp.Handler

open General Protocol

/-- `INT_MAX`, the value of a handler that has none. -/
def intMax : Int32 := Int32.maxValue

/-- The static members that the bridge sets from its configuration. -/
structure Config where
  disableWriteSend : Bool := false
  initialReadOut : Bool := true
  deriving DecidableEq, Repr

structure MsgHandler where
  messageNumber : MessageNumber
  sa : Address
  dataType : DataType
  valIs : Int32 := intMax
  valNew : Int32 := intMax
  retryCtr : Int32 := 0
  deriving DecidableEq, Repr

namespace MsgHandler

/-- `msg_set_type_`, which the constructor derives from the message number. -/
def msgSetType (handler : MsgHandler) : MessageSetType := getMessageSetType handler.messageNumber

def create (messageNumber : MessageNumber) (sa : Address) (dataType : DataType) : MsgHandler :=
  { messageNumber, sa, dataType }

/-- The first branch of `getPacket`: the value is still unknown and is asked for. -/
def AsksForValue (config : Config) (handler : MsgHandler) : Prop :=
  handler.valIs = intMax ∧ config.initialReadOut = true

/-- The second branch: there is nothing to send. -/
def HasNothingToSend (handler : MsgHandler) : Prop :=
  handler.valNew = intMax ∨ handler.valIs = handler.valNew ∨ handler.dataType = .read

/-- The third branch: writing is disabled. -/
def IsDisabled (config : Config) (handler : MsgHandler) : Prop :=
  handler.dataType = .write ∧ config.disableWriteSend = true

instance (config : Config) (handler : MsgHandler) : Decidable (handler.AsksForValue config) :=
  inferInstanceAs (Decidable (_ ∧ _))

instance (handler : MsgHandler) : Decidable handler.HasNothingToSend :=
  inferInstanceAs (Decidable (_ ∨ _))

instance (config : Config) (handler : MsgHandler) : Decidable (handler.IsDisabled config) :=
  inferInstanceAs (Decidable (_ ∧ _))

def resetRetryCounter (handler : MsgHandler) : MsgHandler := { handler with retryCtr := 0 }

/-- `val_new_.store(val_is_)` and the counter back to zero. -/
def restore (handler : MsgHandler) : MsgHandler :=
  { handler with valNew := handler.valIs }.resetRetryCounter

/-- The packet of the last branch; `retry_ctr_++` is narrowed to the command's byte. -/
def commandPacket (handler : MsgHandler) (pktCounter : UInt8) : Packet :=
  let pkt := (Packet.createToBroadcastSelf handler.sa handler.dataType handler.messageNumber
    handler.valNew pktCounter).1
  { pkt with command := { pkt.command with retryCount := handler.retryCtr.toUInt32.toUInt8 } }

/-- `getPacket` with the value of `Packet::pkt_counter` at the call: the handler and
the packets appended. -/
def getPacket (config : Config) (handler : MsgHandler) (pktCounter : UInt8) :
    MsgHandler × List Packet :=
  if handler.AsksForValue config then
    (handler,
      [(Packet.createToBroadcastSelf handler.sa .read handler.messageNumber 1 pktCounter).1])
  else if handler.HasNothingToSend then (handler, [])
  else if handler.IsDisabled config then (handler.restore, [])
  else if handler.retryCtr > 10 then (handler.restore, [])
  else ({ handler with retryCtr := handler.retryCtr + 1 }, [handler.commandPacket pktCounter])

/-- The value `updateValue` stores in `val_is_`. -/
def received (handler : MsgHandler) (msg : MessageSet) : Int32 :=
  match handler.msgSetType with
  | .Enum => msg.value.toInt32
  | .Variable => msg.value.toInt16.toInt32
  | .LongVariable => msg.value.toInt32
  | .Structure => handler.valIs

def updateValue (handler : MsgHandler) (msg : MessageSet) : MsgHandler :=
  if msg.messageNumber ≠ handler.messageNumber then handler
  else
    let handler := { handler with valIs := handler.received msg }
    if handler.valIs = handler.valNew then { handler with valNew := intMax } else handler

def updateValueNew (handler : MsgHandler) (val : Int32) : MsgHandler :=
  { handler with valNew := val }

/-! ## What a call does -/

structure Sends (config : Config) (handler : MsgHandler) : Prop where
  known : ¬ handler.AsksForValue config
  pending : ¬ handler.HasNothingToSend
  enabled : ¬ handler.IsDisabled config
  retries : ¬ handler.retryCtr > 10

instance (config : Config) (handler : MsgHandler) : Decidable (handler.Sends config) :=
  decidable_of_iff (¬ handler.AsksForValue config ∧ ¬ handler.HasNothingToSend ∧
      ¬ handler.IsDisabled config ∧ ¬ handler.retryCtr > 10)
    ⟨fun ⟨known, pending, enabled, retries⟩ => ⟨known, pending, enabled, retries⟩,
      fun ⟨known, pending, enabled, retries⟩ => ⟨known, pending, enabled, retries⟩⟩

/-- A handler gives its command up: writing is disabled or the retries are used up. -/
structure GivesUp (config : Config) (handler : MsgHandler) : Prop where
  known : ¬ handler.AsksForValue config
  pending : ¬ handler.HasNothingToSend
  stopped : handler.IsDisabled config ∨ handler.retryCtr > 10

/-- The four outcomes of `getPacket`. -/
theorem getPacket_cases (config : Config) (handler : MsgHandler) (pktCounter : UInt8) :
    (handler.AsksForValue config ∧ handler.getPacket config pktCounter =
      (handler,
        [(Packet.createToBroadcastSelf handler.sa .read handler.messageNumber 1 pktCounter).1])) ∨
    (¬ handler.AsksForValue config ∧ handler.HasNothingToSend ∧
      handler.getPacket config pktCounter = (handler, [])) ∨
    (handler.GivesUp config ∧ handler.getPacket config pktCounter = (handler.restore, [])) ∨
    (handler.Sends config ∧ handler.getPacket config pktCounter =
      ({ handler with retryCtr := handler.retryCtr + 1 }, [handler.commandPacket pktCounter])) := by
  unfold getPacket
  by_cases asks : handler.AsksForValue config
  · exact .inl ⟨asks, if_pos asks⟩
  right
  rw [if_neg asks]
  by_cases nothing : handler.HasNothingToSend
  · exact .inl ⟨asks, nothing, if_pos nothing⟩
  right
  rw [if_neg nothing]
  by_cases disabled : handler.IsDisabled config
  · exact .inl ⟨⟨asks, nothing, .inl disabled⟩, if_pos disabled⟩
  rw [if_neg disabled]
  by_cases exhausted : handler.retryCtr > 10
  · exact .inl ⟨⟨asks, nothing, .inr exhausted⟩, if_pos exhausted⟩
  · exact .inr ⟨⟨asks, nothing, disabled, exhausted⟩, if_neg exhausted⟩

theorem getPacket_of_sends {config : Config} {handler : MsgHandler} (sends : handler.Sends config)
    (pktCounter : UInt8) :
    handler.getPacket config pktCounter =
      ({ handler with retryCtr := handler.retryCtr + 1 }, [handler.commandPacket pktCounter]) := by
  unfold getPacket
  rw [if_neg sends.known, if_neg sends.pending, if_neg sends.enabled, if_neg sends.retries]

/-- The two outcomes of `updateValue` on a message of the handler's number. -/
theorem updateValue_cases (handler : MsgHandler) (msg : MessageSet) :
    (msg.messageNumber ≠ handler.messageNumber ∧ handler.updateValue msg = handler) ∨
    (msg.messageNumber = handler.messageNumber ∧ handler.received msg = handler.valNew ∧
      handler.updateValue msg = { handler with valIs := handler.received msg, valNew := intMax }) ∨
    (msg.messageNumber = handler.messageNumber ∧ handler.received msg ≠ handler.valNew ∧
      handler.updateValue msg = { handler with valIs := handler.received msg }) := by
  unfold updateValue
  by_cases other : msg.messageNumber ≠ handler.messageNumber
  · exact .inl ⟨other, if_pos other⟩
  right
  have same := not_not.mp other
  rw [if_neg other]
  by_cases reached : handler.received msg = handler.valNew
  · exact .inl ⟨same, reached, if_pos reached⟩
  · exact .inr ⟨same, reached, if_neg reached⟩

/-- Another state of the same handler: the members that never change are equal. -/
structure SameHandler (handler other : MsgHandler) : Prop where
  messageNumber : other.messageNumber = handler.messageNumber
  sa : other.sa = handler.sa
  dataType : other.dataType = handler.dataType

theorem sameHandler_updateValue (handler : MsgHandler) (msg : MessageSet) :
    handler.SameHandler (handler.updateValue msg) := by
  rcases handler.updateValue_cases msg with ⟨-, hnext⟩ | ⟨-, -, hnext⟩ | ⟨-, -, hnext⟩ <;>
    rw [hnext] <;> exact ⟨rfl, rfl, rfl⟩

theorem sameHandler_getPacket (config : Config) (handler : MsgHandler) (pktCounter : UInt8) :
    handler.SameHandler (handler.getPacket config pktCounter).1 := by
  rcases handler.getPacket_cases config pktCounter with
    ⟨-, hget⟩ | ⟨-, -, hget⟩ | ⟨-, hget⟩ | ⟨-, hget⟩ <;>
    rw [hget] <;> exact ⟨rfl, rfl, rfl⟩

end MsgHandler

/-! ## Runs -/

/-- The calls on a handler.  `Packet::pkt_counter` is shared with all other handlers,
so a call of `getPacket` meets any value of it. -/
inductive Event where
  | updateValue (msg : MessageSet)
  | updateValueNew (val : Int32)
  | resetRetryCounter
  | getPacket (pktCounter : UInt8)
  deriving DecidableEq, Repr

def step (config : Config) (handler : MsgHandler) : Event → Option (MsgHandler × List Packet)
  | .updateValue msg => some (handler.updateValue msg, [])
  | .updateValueNew val => some (handler.updateValueNew val, [])
  | .resetRetryCounter => some (handler.resetRetryCounter, [])
  | .getPacket pktCounter => some (handler.getPacket config pktCounter)

def machine (config : Config) : Machine MsgHandler Event Packet := ⟨step config⟩

/-- What a call of `getPacket` does to the handler and what it appends. -/
theorem step_getPacket {config : Config} {handler next : MsgHandler} {pktCounter : UInt8}
    {packets : List Packet}
    (hstep : (machine config).step handler (.getPacket pktCounter) = some (next, packets)) :
    (handler.AsksForValue config ∧ next = handler ∧ packets =
      [(Packet.createToBroadcastSelf handler.sa .read handler.messageNumber 1 pktCounter).1]) ∨
    (¬ handler.AsksForValue config ∧ handler.HasNothingToSend ∧ next = handler ∧ packets = []) ∨
    (handler.GivesUp config ∧ next = handler.restore ∧ packets = []) ∨
    (handler.Sends config ∧ next = { handler with retryCtr := handler.retryCtr + 1 } ∧
      packets = [handler.commandPacket pktCounter]) := by
  have hresult : handler.getPacket config pktCounter = (next, packets) := Option.some.inj hstep
  rcases handler.getPacket_cases config pktCounter with
    ⟨asks, hget⟩ | ⟨known, nothing, hget⟩ | ⟨gives, hget⟩ | ⟨sends, hget⟩ <;>
    rw [hget] at hresult <;> cases hresult
  · exact .inl ⟨asks, rfl, rfl⟩
  · exact .inr (.inl ⟨known, nothing, rfl, rfl⟩)
  · exact .inr (.inr (.inl ⟨gives, rfl, rfl⟩))
  · exact .inr (.inr (.inr ⟨sends, rfl, rfl⟩))

theorem sameHandler_step {config : Config} {handler next : MsgHandler} {event : Event}
    {packets : List Packet} (hstep : (machine config).step handler event = some (next, packets)) :
    handler.SameHandler next := by
  cases event with
  | updateValue msg =>
      cases hstep
      exact handler.sameHandler_updateValue msg
  | updateValueNew val | resetRetryCounter =>
      cases hstep
      exact ⟨rfl, rfl, rfl⟩
  | getPacket pktCounter =>
      rcases step_getPacket hstep with
        ⟨-, rfl, -⟩ | ⟨-, -, rfl, -⟩ | ⟨-, rfl, -⟩ | ⟨-, rfl, -⟩ <;> exact ⟨rfl, rfl, rfl⟩

end NasaCpp.Handler
