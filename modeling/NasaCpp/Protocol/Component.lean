import NasaCpp.General.Machine
import NasaCpp.Protocol.Remainder

/-!
# The protocol component

`NasaProtocol` shares `data_in_` between its callers and its loop thread and
`data_processed_` between the loop thread and the receiver, each behind its own
mutex.  Every critical section is one step; between its two sections the loop
holds the packets it decoded.  Whatever the order of the steps, the component is
one call of `NasaProtocol::decode` on everything it was given.
-/

namespace NasaCpp.Protocol.Component

open General

/-- The two shared buffers, and `new_packets` while the loop is between its two
critical sections. -/
structure State where
  dataIn : List UInt8 := []
  dataProcessed : List Packet := []
  newPackets : Option (List Packet) := none
  deriving DecidableEq, Repr

inductive Event where
  | insertDataRx (data : List UInt8)
  | loopDecode
  | loopAppend
  | getPacketsRx
  deriving DecidableEq, Repr

/-- One critical section.  The loop alternates between its two; the packets put out
are those `getPacketsRx` returns.  Its decoder is that of `NasaProtocol::decode`, with or
without a result for the reads past the end of a frame. -/
def step (framer : Framer UInt8 Packet) (state : State) : Event → Option (State × List Packet)
  | .insertDataRx data => some ({ state with dataIn := state.dataIn ++ data }, [])
  | .loopDecode =>
      match state.newPackets with
      | some _ => none
      | none =>
          (framer.run state.dataIn).map fun result =>
            ({ state with dataIn := result.2, newPackets := some result.1 }, [])
  | .loopAppend =>
      state.newPackets.map fun newPackets =>
        ({ state with dataProcessed := state.dataProcessed ++ newPackets, newPackets := none }, [])
  | .getPacketsRx => some ({ state with dataProcessed := [] }, state.dataProcessed)

def machine (framer : Framer UInt8 Packet) : Machine State Event Packet := ⟨step framer⟩

/-- The packets of the loop that are not yet appended. -/
def State.inFlight (state : State) : List Packet := state.newPackets.getD []

/-- The data inserted before the latest decode step, and the data inserted since. -/
structure Inserted where
  decoded : List UInt8 := []
  pending : List UInt8 := []

def Inserted.after (inserted : Inserted) : Event → Inserted
  | .insertDataRx data => { inserted with pending := inserted.pending ++ data }
  | .loopDecode => { decoded := inserted.decoded ++ inserted.pending, pending := [] }
  | .loopAppend | .getPacketsRx => inserted

def inserted (events : List Event) : Inserted := events.foldl Inserted.after {}

/-- The two sections of the loop take turns; `busy` says that it is between them. -/
def Alternating : Bool → List Event → Prop
  | _, [] => True
  | busy, .loopDecode :: events => busy = false ∧ Alternating true events
  | busy, .loopAppend :: events => busy = true ∧ Alternating false events
  | busy, .insertDataRx _ :: events => Alternating busy events
  | busy, .getPacketsRx :: events => Alternating busy events

section

variable {framer : Framer UInt8 Packet}

/-- The packets received, processed and in flight are those of one decoder call on
the decoded data, and `data_in_` is what that call leaves, then the pending data. -/
def Faithful (framer : Framer UInt8 Packet) (inserted : Inserted) (state : State)
    (received : List Packet) : Prop :=
  ∃ rest, framer.run inserted.decoded =
      some (received ++ state.dataProcessed ++ state.inFlight, rest) ∧
    state.dataIn = rest ++ inserted.pending

theorem faithful_init : Faithful framer {} {} [] :=
  ⟨[], framer.run_nil, rfl⟩

/-- The decode step continues the one call where it stopped. -/
theorem Faithful.loopDecode {inserted : Inserted} {state : State} {received pkts : List Packet}
    {rest : List UInt8} (faithful : Faithful framer inserted state received)
    (idle : state.newPackets = none)
    (hdecode : framer.run state.dataIn = some (pkts, rest)) :
    Faithful framer (inserted.after .loopDecode)
      { state with dataIn := rest, newPackets := some pkts } received := by
  obtain ⟨before, hbefore, hdata⟩ := faithful
  have nothing : state.inFlight = [] := by rw [State.inFlight, idle, Option.getD_none]
  rw [hdata] at hdecode
  rw [nothing, List.append_nil] at hbefore
  refine ⟨rest, ?_, (List.append_nil rest).symm⟩
  rw [Inserted.after, framer.run_append, hbefore, Option.bind_some, hdecode]
  rfl

/-- Every critical section keeps the component faithful. -/
theorem Faithful.step {inserted : Inserted} {state next : State} {received new : List Packet}
    {event : Event} (faithful : Faithful framer inserted state received)
    (hstep : (machine framer).step state event = some (next, new)) :
    Faithful framer (inserted.after event) next (received ++ new) := by
  cases event with
  | insertDataRx data =>
      cases hstep
      obtain ⟨rest, hdecode, hdata⟩ := faithful
      refine ⟨rest, ?_, ?_⟩
      · rw [List.append_nil]
        exact hdecode
      · rw [Inserted.after, ← List.append_assoc, ← hdata]
  | loopDecode =>
      cases idle : state.newPackets with
      | some newPackets =>
          simp only [machine, Component.step, idle, reduceCtorEq] at hstep
      | none =>
          simp only [machine, Component.step, idle, Option.map_eq_some_iff] at hstep
          obtain ⟨⟨pkts, rest⟩, hdecode, hresult⟩ := hstep
          cases hresult
          rw [List.append_nil]
          exact faithful.loopDecode idle hdecode
  | loopAppend =>
      simp only [machine, Component.step, Option.map_eq_some_iff] at hstep
      obtain ⟨newPackets, hnew, hresult⟩ := hstep
      cases hresult
      obtain ⟨rest, hdecode, hdata⟩ := faithful
      refine ⟨rest, ?_, hdata⟩
      rw [State.inFlight, hnew, Option.getD_some] at hdecode
      simpa [State.inFlight, Inserted.after] using hdecode
  | getPacketsRx =>
      cases hstep
      obtain ⟨rest, hdecode, hdata⟩ := faithful
      refine ⟨rest, ?_, hdata⟩
      rw [List.append_nil]
      exact hdecode

theorem Faithful.run {events : List Event} {state : State} {received : List Packet}
    (hrun : (machine framer).run {} events = some (state, received)) :
    Faithful framer (inserted events) state received := by
  let inv (past : List Event) (state : State) (received : List Packet) : Prop :=
    Faithful framer (inserted past) state received
  have maintained : ∀ {past state received event next new}, inv past state received →
      (machine framer).step state event = some (next, new) →
      inv (past ++ [event]) next (received ++ new) := by
    intro past state received event next new faithful hstep
    have after : inserted (past ++ [event]) = (inserted past).after event := by
      rw [inserted, List.foldl_append, List.foldl_cons, List.foldl_nil, ← inserted]
    change Faithful framer (inserted (past ++ [event])) next (received ++ new)
    rw [after]
    exact faithful.step hstep
  exact (machine framer).run_history inv maintained faithful_init hrun

/-- If the decoder ends on every buffer, nothing but the loop's turns limits a run. -/
theorem exists_run_iff_alternating (ends : ∀ data, ∃ pkts rest, framer.run data = some (pkts, rest))
    (events : List Event) (state : State) :
    (∃ last received, (machine framer).run state events = some (last, received)) ↔
      Alternating state.newPackets.isSome events := by
  induction events generalizing state with
  | nil => exact ⟨fun _ => trivial, fun _ => ⟨state, [], rfl⟩⟩
  | cons event events ih =>
      cases event with
      | insertDataRx data =>
          rw [(machine framer).exists_run_cons_iff rfl, ih]
          rfl
      | getPacketsRx =>
          rw [(machine framer).exists_run_cons_iff rfl, ih]
          rfl
      | loopDecode =>
          cases hnew : state.newPackets with
          | some newPackets =>
              have refused : (machine framer).step state .loopDecode = none := by
                simp only [machine, Component.step, hnew]
              exact ⟨fun run => absurd run ((machine framer).not_exists_run_cons refused),
                fun turns => absurd turns.1 (by simp)⟩
          | none =>
              obtain ⟨pkts, rest, hdecode⟩ := ends state.dataIn
              have entered : (machine framer).step state .loopDecode =
                  some ({ state with dataIn := rest, newPackets := some pkts }, []) := by
                simp only [machine, Component.step, hnew, hdecode, Option.map_some]
              rw [(machine framer).exists_run_cons_iff entered, ih]
              exact ⟨fun turns => ⟨rfl, turns⟩, And.right⟩
      | loopAppend =>
          cases hnew : state.newPackets with
          | none =>
              have refused : (machine framer).step state .loopAppend = none := by
                simp only [machine, Component.step, hnew, Option.map_none]
              exact ⟨fun run => absurd run ((machine framer).not_exists_run_cons refused),
                fun turns => absurd turns.1 (by simp)⟩
          | some newPackets =>
              have entered : (machine framer).step state .loopAppend =
                  some ({ state with dataProcessed := state.dataProcessed ++ newPackets
                                     newPackets := none }, []) := by
                simp only [machine, Component.step, hnew, Option.map_some]
              rw [(machine framer).exists_run_cons_iff entered, ih]
              exact ⟨fun turns => ⟨rfl, turns⟩, And.right⟩

end

/-- In every interleaving nothing is lost, duplicated or reordered: the packets
received so far, those in `data_processed_` and those in flight are the result of
one call on all data inserted before the latest decode step, and `data_in_` is the
rest of that call with the data inserted since.  A frame that is read past its end
changes nothing about this, whatever the reads return, and every order in which the
sections of the loop take turns is a run. -/
theorem run_faithful (events : List Event) :
    (∀ state received,
      (machine NasaProtocol.framer).run {} events = some (state, received) →
      ∃ rest, NasaProtocol.decode (inserted events).decoded =
          some (received ++ state.dataProcessed ++ state.inFlight, rest) ∧
        state.dataIn = rest ++ (inserted events).pending) ∧
    ∀ overread,
      ((∃ state received,
          (machine (NasaProtocol.framerWith overread)).run {} events = some (state, received)) ↔
        Alternating false events) ∧
      ∀ state received,
        (machine (NasaProtocol.framerWith overread)).run {} events = some (state, received) →
        ∃ rest, NasaProtocol.decodeWith overread (inserted events).decoded =
            some (received ++ state.dataProcessed ++ state.inFlight, rest) ∧
          state.dataIn = rest ++ (inserted events).pending := by
  refine ⟨fun state received hrun => Faithful.run hrun, fun overread => ⟨?_, ?_⟩⟩
  · have ends : ∀ data, ∃ pkts rest,
        (NasaProtocol.framerWith overread).run data = some (pkts, rest) :=
      (NasaProtocol.framerWith overread).exists_run (NasaProtocol.stepWith_ne_fault overread)
    exact exists_run_iff_alternating ends events {}
  · exact fun state received hrun => Faithful.run hrun

/-- A frame inserted in two parts around a decode step and received behind it, and one
that is read past its end, whatever comes of that, before the next is inserted. -/
theorem run_faithful_two_parts :
    (∃ packet rest,
      NasaProtocol.decode
          ([50, 0, 17, 128, 0, 0, 176] ++ [255, 32, 192, 19, 7, 1, 64, 101, 1, 65, 24, 52]) =
        some ([packet], rest) ∧ [50] = rest ++ [50]) ∧
    ∀ overread, ∃ state received,
      (machine (NasaProtocol.framerWith overread)).run {}
        [.insertDataRx [50, 0, 17, 16, 0, 0, 176, 255, 32, 192, 17, 5, 3, 64, 101, 1, 192, 167, 52],
          .loopDecode, .insertDataRx [50], .loopAppend, .getPacketsRx, .loopDecode] =
        some (state, received) := by
  let packet : Packet :=
    { sa := ⟨.jigTester, 0, 0⟩, da := Packet.broadcastSelf
      command := { dataType := .request, packetNumber := 7 }
      messages := [{ MessageSet.create ⟨0x4065⟩ 1 with size := 3 }] }
  let events : List Event :=
    [.insertDataRx [50, 0, 17, 128, 0, 0, 176], .loopDecode,
      .insertDataRx [255, 32, 192, 19, 7, 1, 64, 101, 1, 65, 24, 52], .getPacketsRx, .loopAppend,
      .loopDecode, .loopAppend, .getPacketsRx, .insertDataRx [50]]
  have hrun : (machine NasaProtocol.framer).run {} events =
      some ({ dataIn := [50] }, [packet]) := by decide +kernel
  have data : inserted events =
      ⟨[50, 0, 17, 128, 0, 0, 176] ++ [255, 32, 192, 19, 7, 1, 64, 101, 1, 65, 24, 52], [50]⟩ := rfl
  obtain ⟨rest, hdecode, hdata⟩ := (run_faithful events).1 _ _ hrun
  rw [data] at hdecode hdata
  refine ⟨⟨packet, rest, hdecode, hdata⟩, fun overread => ?_⟩
  exact ((run_faithful _).2 overread).1.mpr ⟨rfl, rfl, rfl, trivial⟩

end NasaCpp.Protocol.Component
