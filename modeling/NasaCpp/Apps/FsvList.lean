import NasaCpp.Apps.MainLoop
import NasaCpp.General.Maps
import NasaCpp.Handler.Known

/-!
# The exporter of field settings

`tcp_fsv_list` asks for the numbers of its list until every handler has a value.  The
handlers are those of the bridge without its configuration: the static members of
`NasaMsgHandler` keep their defaults.
-/

namespace NasaCpp.Apps

open General Handler MsgHandler Protocol

namespace TcpFsvList

def source : Address := { aClass := .jigTester, channel := 0, address := 0 }

abbrev Handlers := Std.TreeMap UInt16 MsgHandler

def handlersOf (listed : List UInt16) : Handlers :=
  listed.foldl (fun handlers n => handlers.insert n (.create ⟨n⟩ source .read)) {}

structure State where
  handlers : Handlers
  buffer : List UInt8 := List.replicate 10000 0
  haveAllValues : Bool := false
  pktCounter : UInt8 := 0

def update (handlers : Handlers) (msg : MessageSet) : Handlers :=
  handlers.modify msg.messageNumber.code fun handler => handler.updateValue msg

/-- A round of the loop over the handlers: one without a value asks for it. -/
def collect (state : Handlers × UInt8 × List Packet) (entry : UInt16 × MsgHandler) :
    Handlers × UInt8 × List Packet :=
  if entry.2.HasVal then state
  else
    let (handler, pkts) := entry.2.getPacket {} state.2.1
    (state.1.insert entry.1 handler, state.2.1 + UInt8.ofNat pkts.length, state.2.2 ++ pkts)

/-- What a round does; packets are only sent in a round that has received some. -/
def report (received : List UInt8) (pktsRx pktsTx : List Packet) : List Output :=
  (if received = [] then [] else [.recv received.length]) ++
    (if pktsRx = [] then [] else [.decode pktsRx]) ++
    if pktsTx ≠ [] ∧ pktsRx ≠ [] then [.send (NasaProtocol.encode pktsTx)] else []

def step (overread : Overread) (state : State) (received : List UInt8) :
    Option (State × List Output) :=
  if state.haveAllValues then none
  else
    (NasaProtocol.decodeWith overread (state.buffer ++ received)).map fun (pktsRx, buffer) =>
      let handlers := (pktsRx.flatMap Packet.messages).foldl update state.handlers
      let haveAllValues := handlers.toList.all fun entry => entry.2.HasVal
      let (handlers, pktCounter, pktsTx) :=
        handlers.toList.foldl collect (handlers, state.pktCounter, [])
      ({ handlers, buffer, haveAllValues, pktCounter }, report received pktsRx pktsTx)

def machine (overread : Overread) : Machine State (List UInt8) Output := ⟨step overread⟩

def messages (outs : List Output) : List MessageSet :=
  outs.flatMap fun
    | .decode pkts => pkts.flatMap Packet.messages
    | _ => []

@[simp] theorem messages_append (first second : List Output) :
    messages (first ++ second) = messages first ++ messages second := List.flatMap_append

theorem messages_report (received : List UInt8) (pktsRx pktsTx : List Packet) :
    messages (report received pktsRx pktsTx) = pktsRx.flatMap Packet.messages := by
  unfold report
  rw [messages_append, messages_append]
  have silent : messages (if received = [] then [] else [.recv received.length]) = [] := by
    split <;> rfl
  have unread : messages (if pktsTx ≠ [] ∧ pktsRx ≠ [] then
      [.send (NasaProtocol.encode pktsTx)] else []) = [] := by
    split <;> rfl
  rw [silent, unread, List.nil_append, List.append_nil]
  split
  · rename_i nothing
    rw [nothing]
    rfl
  · exact List.append_nil _

/-! ## The handlers -/

/-- There is a handler for every listed number, and it is what the messages make of a new one. -/
structure Tracks (listed : List UInt16) (msgs : List MessageSet) (handlers : Handlers) :
    Prop where
  listed_iff : ∀ n, n ∈ listed ↔ ∃ handler, handlers[n]? = some handler
  holds : ∀ (n : UInt16) (handler : MsgHandler), handlers[n]? = some handler →
    handler.Holds ⟨n⟩ msgs

theorem tracks_handlersOf (listed : List UInt16) : Tracks listed [] (handlersOf listed) := by
  induction listed using List.reverseRecOn with
  | nil =>
      refine ⟨fun n => ?_, fun n handler hhandler => ?_⟩
      · refine iff_of_false List.not_mem_nil ?_
        rintro ⟨handler, hhandler⟩
        cases hhandler
      · cases hhandler
  | append_singleton listed n ih =>
      have lookup (m : UInt16) : (handlersOf (listed ++ [n]))[m]? =
          if n = m then some (.create ⟨n⟩ source .read) else (handlersOf listed)[m]? := by
        rw [handlersOf, List.foldl_append, List.foldl_cons, List.foldl_nil, ← handlersOf]
        exact Maps.lookup_insert _ _ _ _
      refine ⟨fun m => ?_, fun m handler hhandler => ?_⟩
      · rw [List.mem_append, List.mem_singleton, lookup, ih.listed_iff]
        by_cases here : n = m
        · rw [if_pos here]
          exact iff_of_true (.inr here.symm) ⟨_, rfl⟩
        · rw [if_neg here]
          exact or_iff_left fun same => here same.symm
      · rw [lookup] at hhandler
        split at hhandler
        · rename_i here
          cases hhandler
          rw [here]
          exact MsgHandler.holds_create _ _ _
        · exact ih.holds m handler hhandler

theorem Tracks.update {listed : List UInt16} {msgs : List MessageSet} {handlers : Handlers}
    (tracks : Tracks listed msgs handlers) (msg : MessageSet) :
    Tracks listed (msgs ++ [msg]) (update handlers msg) := by
  have lookup (n : UInt16) := Maps.lookup_modify handlers msg.messageNumber.code n
    fun handler : MsgHandler => handler.updateValue msg
  refine ⟨fun n => ?_, fun n handler hhandler => ?_⟩
  · rw [tracks.listed_iff, TcpFsvList.update, lookup]
    split
    · simp only [Option.map_eq_some_iff, exists_comm (α := MsgHandler), exists_and_left,
        exists_eq', and_true]
    · rfl
  · rw [TcpFsvList.update, lookup] at hhandler
    split at hhandler
    · obtain ⟨before, hbefore, rfl⟩ := Option.map_eq_some_iff.mp hhandler
      exact (tracks.holds n before hbefore).updateValue msg
    · rename_i other
      have holds := tracks.holds n handler hhandler
      refine holds.other fun same => other ?_
      rw [same]

theorem Tracks.updates {listed : List UInt16} {msgs : List MessageSet} {handlers : Handlers}
    (tracks : Tracks listed msgs handlers) (new : List MessageSet) :
    Tracks listed (msgs ++ new) (new.foldl TcpFsvList.update handlers) := by
  induction new generalizing msgs handlers with
  | nil => rwa [List.append_nil]
  | cons msg new ih =>
      rw [List.append_cons]
      exact ih (tracks.update msg)

/-- Asking for values changes none. -/
theorem lookup_collect (handlers : Handlers) (entries : List (UInt16 × MsgHandler))
    (here : ∀ entry ∈ entries, handlers[entry.1]? = some entry.2)
    (state : Handlers × UInt8 × List Packet)
    (same : ∀ n : UInt16, state.1[n]? = handlers[n]?) (n : UInt16) :
    (entries.foldl collect state).1[n]? = handlers[n]? := by
  induction entries generalizing state with
  | nil => exact same n
  | cons entry entries ih =>
      refine ih (fun other hmem => here other (List.mem_cons_of_mem _ hmem)) _ fun m => ?_
      unfold collect
      split
      · exact same m
      · rename_i unknown
        have asks : entry.2.AsksForValue {} := ⟨not_not.mp unknown, rfl⟩
        rw [MsgHandler.getPacket, if_pos asks]
        dsimp only
        rw [Maps.lookup_insert, same]
        split
        · rename_i found
          rw [← found, here entry List.mem_cons_self]
        · rfl

/-- The decision of a round is about all handlers. -/
theorem all_hasVal_iff (handlers : Handlers) :
    (handlers.toList.all fun entry => entry.2.HasVal) = true ↔
      ∀ (n : UInt16) (handler : MsgHandler), handlers[n]? = some handler → handler.HasVal := by
  simp only [List.all_eq_true, decide_eq_true_eq, Prod.forall,
    Std.TreeMap.mem_toList_iff_getElem?_eq_some]

/-! ## Runs -/

/-- What a round leaves: handlers in step with the messages so far, and a decision that all
of them have values or one has not. -/
structure Decided (listed : List UInt16) (msgs : List MessageSet) (state : State) : Prop where
  tracks : Tracks listed msgs state.handlers
  haveAllValues : state.haveAllValues = true ↔
    ∀ (n : UInt16) (handler : MsgHandler), state.handlers[n]? = some handler → handler.HasVal

theorem Tracks.of_lookup {listed : List UInt16} {msgs : List MessageSet}
    {handlers others : Handlers} (tracks : Tracks listed msgs handlers)
    (same : ∀ n : UInt16, others[n]? = handlers[n]?) : Tracks listed msgs others where
  listed_iff n := by rw [same, tracks.listed_iff]
  holds n handler hhandler := tracks.holds n handler ((same n).symm.trans hhandler)

theorem step_decided {overread : Overread} {listed : List UInt16} {msgs : List MessageSet}
    {state next : State} {received : List UInt8} {outs : List Output}
    (tracks : Tracks listed msgs state.handlers)
    (hstep : (machine overread).step state received = some (next, outs)) :
    Decided listed (msgs ++ messages outs) next := by
  change step overread state received = some (next, outs) at hstep
  unfold step at hstep
  split at hstep
  · cases hstep
  obtain ⟨⟨pktsRx, buffer⟩, -, hresult⟩ := Option.map_eq_some_iff.mp hstep
  rw [Prod.mk.injEq] at hresult
  obtain ⟨rfl, rfl⟩ := hresult
  rw [messages_report]
  have updated := tracks.updates (pktsRx.flatMap Packet.messages)
  generalize (pktsRx.flatMap Packet.messages).foldl update state.handlers = handlers at updated ⊢
  have same := lookup_collect handlers handlers.toList
    (fun entry hmem => Std.TreeMap.mem_toList_iff_getElem?_eq_some.mp hmem)
    (handlers, state.pktCounter, []) fun _ => rfl
  refine ⟨updated.of_lookup same, ?_⟩
  dsimp only
  simp only [same]
  exact all_hasVal_iff handlers

theorem decided_run {overread : Overread} {listed : List UInt16} {inputs : List (List UInt8)}
    {last : State} {outs : List Output} (started : inputs ≠ [])
    (hrun : (machine overread).run { handlers := handlersOf listed } inputs = some (last, outs)) :
    Decided listed (messages outs) last := by
  let inv (past : List (List UInt8)) (state : State) (outs : List Output) : Prop :=
    Tracks listed (messages outs) state.handlers ∧
      (past ≠ [] → Decided listed (messages outs) state)
  have start : inv [] { handlers := handlersOf listed } [] :=
    ⟨tracks_handlersOf listed, fun impossible => absurd rfl impossible⟩
  refine ((machine overread).run_history inv ?_ start hrun).2 started
  intro past state outs received next new here hstep
  have decided := step_decided here.1 hstep
  rw [← messages_append] at decided
  exact ⟨decided.tracks, fun _ => decided⟩

/-- After a round there are all values exactly if a message has arrived for every listed
number and the last one of each tells a value. -/
theorem haveAllValues_iff {overread : Overread} {listed : List UInt16}
    {inputs : List (List UInt8)} {last : State} {outs : List Output} (started : inputs ≠ [])
    (hrun : (machine overread).run { handlers := handlersOf listed } inputs = some (last, outs)) :
    last.haveAllValues = true ↔ ∀ n ∈ listed,
      Arrived (messages outs) ⟨n⟩ ∧ LastTells (messages outs) ⟨n⟩ := by
  have decided := decided_run started hrun
  rw [decided.haveAllValues]
  constructor
  · intro known n hmem
    obtain ⟨handler, hhandler⟩ := (decided.tracks.listed_iff n).mp hmem
    exact (decided.tracks.holds n handler hhandler).hasVal_iff.mp (known n handler hhandler)
  · intro told n handler hhandler
    have listed := (decided.tracks.listed_iff n).mpr ⟨handler, hhandler⟩
    exact (decided.tracks.holds n handler hhandler).hasVal_iff.mpr (told n listed)

end TcpFsvList

/-- A handler counts a message with its number as received, and stops asking, if and only if
the last such message tells a value; the exporter ends once every listed number has arrived
if and only if it would then not wait for one whose last message tells none. -/
theorem received_counts_iff (config : Config) (overread : Overread) :
    (∀ (number : MessageNumber) (sa : Address) (dataType : DataType)
        (events : List Event) (last : MsgHandler) (packets : List Packet),
        (Handler.machine config).run (.create number sa dataType) events = some (last, packets) →
        (CountsArrival config number (messages events) last ↔
          LastTells (messages events) number)) ∧
      ∀ (listed : List UInt16) (inputs : List (List UInt8))
        (last : TcpFsvList.State) (outs : List Output), inputs ≠ [] →
        (TcpFsvList.machine overread).run { handlers := TcpFsvList.handlersOf listed } inputs =
          some (last, outs) →
        ((last.haveAllValues = true ↔ ∀ n ∈ listed, Arrived (TcpFsvList.messages outs) ⟨n⟩) ↔
          ((∀ n ∈ listed, Arrived (TcpFsvList.messages outs) ⟨n⟩) →
            ∀ n ∈ listed, LastTells (TcpFsvList.messages outs) ⟨n⟩)) := by
  refine ⟨fun number sa dataType events last packets hrun => ?_,
    fun listed inputs last outs started hrun => ?_⟩
  · exact (holds_run hrun).countsArrival_iff
  · rw [TcpFsvList.haveAllValues_iff started hrun, forall₂_and]
    exact ⟨fun ends arrived => (ends.mpr arrived).2, fun tells =>
      ⟨And.left, fun arrived => ⟨arrived, tells arrived⟩⟩⟩

/-- A handler of a number of type Enum has received the value 1. -/
theorem received_counts_enum :
    ∃ last packets, (Handler.machine {}).run (.create ⟨0x4065⟩ ⟨.jigTester, 0, 0⟩ .request)
        [.getPacket 0, .updateValue (.create ⟨0x4065⟩ 1)] = some (last, packets) ∧
      CountsArrival {} ⟨0x4065⟩ [.create ⟨0x4065⟩ 1] last := by
  obtain ⟨⟨last, packets⟩, hrun⟩ := Option.isSome_iff_exists.mp
    (show ((Handler.machine {}).run (.create ⟨0x4065⟩ ⟨.jigTester, 0, 0⟩ .request)
      [.getPacket 0, .updateValue (.create ⟨0x4065⟩ 1)]).isSome = true by decide)
  have tells : LastTells [.create ⟨0x4065⟩ 1] ⟨0x4065⟩ := by decide
  have counts := (received_counts_iff {} fun _ => .error .crcError).1 _ _ _ _ _ _ hrun
  exact ⟨last, packets, hrun, counts.mpr tells⟩

/-- A LongVariable that reaches the greatest `int` does not count as received. -/
theorem not_received_counts :
    ¬ ∀ (config : Config) (number : MessageNumber) (sa : Address) (dataType : DataType)
      (events : List Event) (last : MsgHandler) (packets : List Packet),
      (Handler.machine config).run (.create number sa dataType) events = some (last, packets) →
      CountsArrival config number (messages events) last := by
  intro all
  have counts := all {} ⟨0x8414⟩ ⟨.jigTester, 0, 0⟩ .read
    [.updateValue (.create ⟨0x8414⟩ 0x7FFFFFFF)] _ _ rfl
  exact absurd (counts.hasVal.mpr (by decide)) (by decide)

end NasaCpp.Apps
