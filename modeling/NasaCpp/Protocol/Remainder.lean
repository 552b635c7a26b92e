import NasaCpp.Protocol.Resynchronisation

/-!
# The rest of the buffer

Whatever `Packet.decode` makes of a frame, the loop of `NasaProtocol::decode` removes it,
so what stays in the buffer is decided by the length fields alone.  A frame whose count
byte announces more messages than it holds is read past its end; the result of such a
read is a parameter here, and with any values for it the loop ends with a short rest and
does not depend on how the stream is cut.
-/

namespace NasaCpp.Protocol

open General

/-- What `Packet::decode` returns for the vectors it reads past the end of. -/
abbrev Overread := List UInt8 → Except DecodeResult Packet

/-- `Packet::decode` where every read returns something. -/
def Packet.decodeWith (overread : Overread) (data : List UInt8) : Except DecodeResult Packet :=
  (Packet.decode data).getD (overread data)

namespace NasaProtocol

def takeFrameWith (overread : Overread) (data : List UInt8) (size : Nat) : Verdict Packet :=
  match Packet.decodeWith overread (data.take size) with
  | .ok packet => .consume size (delivered packet)
  | .error _ => .consume size []

def stepWith (overread : Overread) (data : List UInt8) : Verdict Packet :=
  match step data with
  | .fault => takeFrameWith overread data (hop data)
  | verdict => verdict

theorem takeFrameWith_eq (overread : Overread) (data : List UInt8) (size : Nat) :
    ∃ out, takeFrameWith overread data size = .consume size out := by
  unfold takeFrameWith
  split
  · exact ⟨_, rfl⟩
  · exact ⟨_, rfl⟩

theorem takeFrameWith_append (overread : Overread) {data : List UInt8} {size : Nat}
    (inside : size ≤ data.length) (more : List UInt8) :
    takeFrameWith overread (data ++ more) size = takeFrameWith overread data size := by
  unfold takeFrameWith
  rw [List.take_append_of_le_length inside]

/-- An iteration faults on a whole frame only. -/
theorem hop_of_fault {data : List UInt8} (hstep : step data = .fault) :
    hop data ≤ data.length ∧ ∀ more, hop (data ++ more) = hop data := by
  rcases step_cases data with ⟨-, hwait⟩ | ⟨start, high, low, rest, rfl, -, hcase⟩
  · rw [hwait] at hstep
    cases hstep
  rcases hcase with ⟨-, hdrop⟩ | ⟨⟨hstart, low16, high1500⟩, ⟨-, hwait⟩ | ⟨inside, -⟩⟩
  · rw [hdrop] at hstep
    cases hstep
  · rw [hwait] at hstep
    cases hstep
  · refine ⟨?_, fun more => rfl⟩
    rw [hop_cons, if_pos ⟨hstart, low16, high1500⟩]
    exact inside

theorem stepWith_of_ne_fault (overread : Overread) {data : List UInt8}
    (hstep : step data ≠ .fault) : stepWith overread data = step data := by
  unfold stepWith
  split
  · rename_i fault
    exact absurd fault hstep
  · rfl

theorem stepWith_of_fault (overread : Overread) {data : List UInt8} (hstep : step data = .fault) :
    stepWith overread data = takeFrameWith overread data (hop data) := by
  unfold stepWith
  rw [hstep]

theorem stepWith_consume_bounds {overread : Overread} {data : List UInt8} {count : Nat}
    {out : List Packet} (hstep : stepWith overread data = .consume count out) :
    0 < count ∧ count ≤ data.length := by
  by_cases fault : step data = .fault
  · rw [stepWith_of_fault overread fault] at hstep
    obtain ⟨_, htake⟩ := takeFrameWith_eq overread data (hop data)
    rw [htake] at hstep
    cases hstep
    exact ⟨hop_pos data, (hop_of_fault fault).1⟩
  · rw [stepWith_of_ne_fault overread fault] at hstep
    exact step_consume_bounds hstep

theorem stepWith_stable {overread : Overread} {data : List UInt8} (more : List UInt8)
    (decided : stepWith overread data ≠ .wait) :
    stepWith overread (data ++ more) = stepWith overread data := by
  by_cases fault : step data = .fault
  · obtain ⟨inside, same⟩ := hop_of_fault fault
    rw [stepWith_of_fault overread fault,
      stepWith_of_fault overread (framer.stable_fault more fault), same]
    exact takeFrameWith_append overread inside more
  · rw [stepWith_of_ne_fault overread fault] at decided ⊢
    have stable := step_stable more decided
    rw [stepWith_of_ne_fault overread (by rwa [stable]), stable]

def framerWith (overread : Overread) : Framer UInt8 Packet where
  step := stepWith overread
  step_nil := rfl
  consume_bounds := stepWith_consume_bounds
  stable := stepWith_stable

def decodeWith (overread : Overread) (data : List UInt8) : Option (List Packet × List UInt8) :=
  (framerWith overread).run data

theorem decodeWith_append (overread : Overread) (data more : List UInt8) :
    decodeWith overread (data ++ more) =
      (decodeWith overread data).bind fun first =>
        (decodeWith overread (first.2 ++ more)).map fun second =>
          (first.1 ++ second.1, second.2) :=
  (framerWith overread).run_append data more

/-- A call that stays inside its frames does not depend on what lies behind them. -/
theorem decodeWith_of_decode {data : List UInt8} {result : List Packet × List UInt8}
    (overread : Overread) (hdecode : decode data = some result) :
    decodeWith overread data = some result := by
  unfold decode decodeWith at *
  induction data using framer.run_induction generalizing result with
  | wait data hstep =>
      have decided : step data ≠ .fault := fun fault => by cases hstep.symm.trans fault
      have same := stepWith_of_ne_fault overread decided
      rw [framer.run_of_wait hstep] at hdecode
      rw [(framerWith overread).run_of_wait (same.trans hstep), hdecode]
  | fault data hstep =>
      rw [framer.run_of_fault hstep] at hdecode
      cases hdecode
  | consume data count out hstep ih =>
      have decided : step data ≠ .fault := fun fault => by cases hstep.symm.trans fault
      have same := stepWith_of_ne_fault overread decided
      rw [framer.run_of_consume hstep] at hdecode
      obtain ⟨inner, hinner, hresult⟩ := Option.map_eq_some_iff.mp hdecode
      rw [(framerWith overread).run_of_consume (same.trans hstep), ih hinner, ← hresult]
      rfl

/-! ## What is left -/

/-- At most sixteen bytes, or the beginning of a frame that is not complete. -/
def Remainder (rest : List UInt8) : Prop :=
  rest.length ≤ 16 ∨
    ∃ high low more, rest = 0x32 :: high :: low :: more ∧ 16 ≤ field high low ∧
      field high low ≤ 1500 ∧ rest.length < field high low + 2

theorem Remainder.short {rest : List UInt8} (remainder : Remainder rest) : rest.length ≤ 1501 := by
  rcases remainder with short | ⟨high, low, more, -, -, high1500, incomplete⟩
  · omega
  · omega

theorem remainder_of_wait {data : List UInt8} (hstep : step data = .wait) : Remainder data := by
  rcases step_cases data with ⟨short, -⟩ | ⟨start, high, low, rest, rfl, -, hcase⟩
  · exact .inl short
  rcases hcase with ⟨-, hdrop⟩ | ⟨⟨rfl, low16, high1500⟩, ⟨incomplete, -⟩ | ⟨-, htake⟩⟩
  · rw [hdrop] at hstep
    cases hstep
  · exact .inr ⟨high, low, rest, rfl, low16, high1500, incomplete⟩
  · exact absurd (htake ▸ hstep) (takeFrame_ne_wait _ _)

theorem stepWith_ne_fault (overread : Overread) (data : List UInt8) :
    stepWith overread data ≠ .fault := by
  by_cases fault : step data = .fault
  · obtain ⟨_, htake⟩ := takeFrameWith_eq overread data (hop data)
    rw [stepWith_of_fault overread fault, htake]
    nofun
  · rw [stepWith_of_ne_fault overread fault]
    exact fault

theorem wait_of_stepWith {overread : Overread} {data : List UInt8}
    (hstep : stepWith overread data = .wait) : step data = .wait := by
  by_cases fault : step data = .fault
  · obtain ⟨_, htake⟩ := takeFrameWith_eq overread data (hop data)
    rw [stepWith_of_fault overread fault, htake] at hstep
    cases hstep
  · rwa [stepWith_of_ne_fault overread fault] at hstep

/-- The loop ends on every buffer, with an end of it that no complete frame begins. -/
theorem decodeWith_remainder (overread : Overread) (data : List UInt8) :
    ∃ pkts rest, decodeWith overread data = some (pkts, rest) ∧ rest <:+ data ∧
      Remainder rest := by
  obtain ⟨pkts, rest, hrun⟩ := (framerWith overread).exists_run (stepWith_ne_fault overread) data
  refine ⟨pkts, rest, hrun, (framerWith overread).run_suffix hrun, ?_⟩
  exact remainder_of_wait (wait_of_stepWith ((framerWith overread).settled_of_run hrun))

/-! ## Chunks -/

def decodeChunksWith (overread : Overread) (chunks : List (List UInt8)) :
    Option (List Packet × List UInt8) :=
  (framerWith overread).feed [] chunks

/-- However a stream is cut into chunks, the packets and the remaining buffer are those
of one call on the whole stream.  This is so whatever the reads past the end of a frame
return; a call that makes none returns the same for all of them. -/
theorem decodeChunks_eq_decode (chunks : List (List UInt8)) :
    decodeChunks chunks = decode chunks.flatten ∧
      ∀ overread, ∃ result, decodeChunksWith overread chunks = some result ∧
        decodeWith overread chunks.flatten = some result ∧
        ∀ inside, decode chunks.flatten = some inside → result = inside := by
  refine ⟨framer.feed_chunks framer.step_nil chunks, fun overread => ?_⟩
  obtain ⟨pkts, rest, hdecode, -, -⟩ := decodeWith_remainder overread chunks.flatten
  have fed : decodeChunksWith overread chunks = decodeWith overread chunks.flatten :=
    (framerWith overread).feed_chunks (framerWith overread).step_nil chunks
  refine ⟨(pkts, rest), fed.trans hdecode, hdecode, fun inside hinside => ?_⟩
  have same := hdecode.symm.trans (decodeWith_of_decode overread hinside)
  exact Option.some.inj same

/-- A frame in three chunks that is read past its end nowhere. -/
theorem decodeChunks_eq_decode_three_parts :
    ∃ packet, ∀ overread, decodeChunksWith overread
        [[7, 50, 0], [17, 128, 0, 0, 176, 255, 32, 192], [19, 7, 1, 64, 101, 1, 65, 24, 52]] =
      some ([packet], []) := by
  let packet : Packet :=
    { sa := ⟨.jigTester, 0, 0⟩, da := Packet.broadcastSelf
      command := { dataType := .request, packetNumber := 7 }
      messages := [{ MessageSet.create ⟨0x4065⟩ 1 with size := 3 }] }
  let chunks : List (List UInt8) :=
    [[7, 50, 0], [17, 128, 0, 0, 176, 255, 32, 192], [19, 7, 1, 64, 101, 1, 65, 24, 52]]
  have inside : decode chunks.flatten = some ([packet], []) := by decide +kernel
  refine ⟨packet, fun overread => ?_⟩
  obtain ⟨result, hchunks, -, same⟩ := (decodeChunks_eq_decode chunks).2 overread
  rw [same _ inside] at hchunks
  exact hchunks

end NasaProtocol

end NasaCpp.Protocol
