import NasaCpp.General.Feed
import NasaCpp.Web.MqttBridge

/-!
# The hub and a browser

The events of the MQTT thread reach the event loop as callbacks, `Hub._fan_out` puts them
into the queue of each connected browser, and the coroutine of its WebSocket sends them on;
`store.js` keeps what arrives.  The browsers do not touch each other, so one of them is
modelled.  The coroutine runs from one `await` to the next in one step, and any of the
parties can take its next step at any time.
-/

namespace NasaCpp.Web

open General

/-- What `send_json` sends, of a status no more than that it is one. -/
inductive WsMessage where
  | snapshot (entities : List LiveEntity)
  | status
  | state (id : String) (value : Option PyFloat) (text : Option String) (ts : ℚ)

def HasJson (value : Option PyFloat) : Prop :=
  value ≠ some .nan ∧ ∀ negative, value ≠ some (.infinite negative)

def WsMessage.HasJson : WsMessage → Prop
  | .snapshot entities => ∀ live ∈ entities, Web.HasJson live.value
  | .status => True
  | .state _ value _ _ => Web.HasJson value

instance (value : Option PyFloat) : Decidable (HasJson value) :=
  inferInstanceAs (Decidable (_ ∧ ∀ _, _))

instance : ∀ message : WsMessage, Decidable message.HasJson
  | .snapshot entities => inferInstanceAs (Decidable (∀ live ∈ entities, HasJson live.value))
  | .status => isTrue trivial
  | .state _ value _ _ => inferInstanceAs (Decidable (HasJson value))

/-! ## The browser -/

/-- `store`, as far as the entities go. -/
structure Store where
  entities : Std.TreeMap String LiveEntity := {}

namespace Store

def setEntities (entities : List LiveEntity) : Store where
  entities := entities.foldl (fun byId live => byId.insert live.entity.id live) {}

/-- `onmessage`; a text that is no JSON ends it with an exception. -/
def onMessage (store : Store) (message : WsMessage) : Store :=
  if message.HasJson then
    match message with
    | .snapshot entities => setEntities entities
    | .status => store
    | .state id value text ts =>
        { entities := store.entities.modify id fun live =>
            { live with value, text, updated := some ts } }
  else store

end Store

/-! ## The server -/

/-- `_restore_entities`; a row whose entity cannot be built is passed over. -/
def restoreEntities (rows : List (String × EntityRow)) : Registry :=
  rows.foldl (fun registry entry =>
    match entry.2.config.entity entry.1 entry.2.platform with
    | none => registry
    | some entity =>
        (registry.upsert entity).setState registry.objects.length entry.2.value entry.2.text
          entry.2.updated) {}

/-- The server and one browser: the events that the MQTT thread has still to pass on, the
callbacks of the loop, the queue, the sender and the connection. -/
structure Session where
  bridge : MqttBridge
  emitting : List HubEvent := []
  callbacks : List HubEvent := []
  queue : List HubEvent := []
  sender : Sender := .absent
  wire : List WsMessage := []
  store : Store := {}

namespace Session

/-- The start of the server on a database file, whose entities SQLite returns as `rows`, in
an order of its own. -/
def start (file : Database) (rows : List (String × EntityRow))
    (heartbeatSeconds minIntervalSeconds : ℤ) : Session where
  bridge := {
    registry := restoreEntities rows
    storage := .init file heartbeatSeconds minIntervalSeconds }

def queueLimit : Nat := 1000

def fanOut (session : Session) (event : HubEvent) : Session :=
  if session.sender ≠ .absent ∧ session.queue.length < queueLimit then
    { session with queue := session.queue ++ [event] }
  else session

def handle (session : Session) : HubEvent → Session
  | .entities => { session with sender := .coalescing }
  | .status _ => { session with wire := session.wire ++ [.status] }
  | .state id value text ts =>
      { session with wire := session.wire ++ [.state id value text ts] }

/-- The first message, or the one after the sleep: the queue is emptied and the registry sent. -/
def sendSnapshot (session : Session) : Session :=
  { session with
    queue := []
    sender := .waiting
    wire := session.wire ++ [.snapshot session.bridge.registry.all] }

end Session

def emitted (effects : List Effect) : List HubEvent :=
  effects.filterMap fun
    | .emit event => some event
    | .subscribe _ => none

/-! ## Steps -/

/-- Who takes a step: the MQTT thread with a message, a change of its connection or the next
event to pass on; the loop with the next callback; the sender; the browser. -/
inductive SessionEvent where
  | message (topic payload : String) (now : ℚ)
  | connection (up : Bool)
  | publish
  | fanOut
  | send
  | snapshot
  | receive
  | connect
  | disconnect
  deriving DecidableEq, Repr

namespace Session

/-- A callback of the MQTT client, once the one before has returned. -/
def callback (session : Session) (result : MqttBridge × List Effect) :
    Option (Session × List Effect) :=
  if session.emitting = [] then
    some ({ session with bridge := result.1, emitting := emitted result.2 }, result.2)
  else none

def step (setup : Setup) (session : Session) : SessionEvent → Option (Session × List Effect)
  | .message topic payload now =>
      session.callback (session.bridge.onMessage setup topic payload now)
  | .connection up =>
      session.callback
        (if up then session.bridge.onConnect setup else session.bridge.onDisconnect)
  | .publish =>
      match session.emitting with
      | [] => none
      | event :: rest =>
          some ({ session with emitting := rest, callbacks := session.callbacks ++ [event] }, [])
  | .fanOut =>
      match session.callbacks with
      | [] => none
      | event :: rest => some ({ session with callbacks := rest }.fanOut event, [])
  | .send =>
      match session.sender, session.queue with
      | .waiting, event :: rest => some ({ session with queue := rest }.handle event, [])
      | _, _ => none
  | .snapshot =>
      match session.sender with
      | .coalescing => some (session.sendSnapshot, [])
      | _ => none
  | .receive =>
      match session.wire with
      | [] => none
      | message :: rest =>
          some ({ session with wire := rest, store := session.store.onMessage message }, [])
  | .connect =>
      match session.sender with
      | .absent => some (session.sendSnapshot, [])
      | _ => none
  | .disconnect => some ({ session with queue := [], sender := .absent, wire := [] }, [])

def machine (setup : Setup) : Machine Session SessionEvent Effect := ⟨step setup⟩

end Session

end NasaCpp.Web
