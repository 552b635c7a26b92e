import NasaCpp.Protocol.RoundTrip

/-!
# Finding the next frame

Behind a start byte with a plausible length the loop of `NasaProtocol::decode`
removes as many bytes as the length announces, also when the checks reject them.
Which offsets it looks at is therefore decided by the length fields alone, and a
valid frame behind noise is found exactly when following them from the start of
the noise arrives at the frame.
-/

namespace NasaCpp.Protocol.NasaProtocol

/-- How far an iteration that removes something moves: the announced length behind
a plausible header, one byte otherwise. -/
def hop : List UInt8 → Nat
  | start :: high :: low :: _ =>
      if start = 0x32 ∧ 16 ≤ field high low ∧ field high low ≤ 1500 then field high low + 2 else 1
  | _ => 1

inductive Hops (data : List UInt8) : Nat → Prop where
  | start : Hops data 0
  | next {offset : Nat} (here : Hops data offset) : Hops data (offset + hop (data.drop offset))

/-- A byte sequence accepted by `Packet.decode` begins at the offset. -/
def BeginsAccepted (data : List UInt8) (offset : Nat) : Prop :=
  ∃ size packet, Packet.decode ((data.drop offset).take size) = some (.ok packet)

theorem hop_pos (data : List UInt8) : 0 < hop data := by
  unfold hop
  split
  · split <;> omega
  · exact Nat.one_pos

theorem hop_cons (start high low : UInt8) (rest : List UInt8) :
    hop (start :: high :: low :: rest) =
      if start = 0x32 ∧ 16 ≤ field high low ∧ field high low ≤ 1500 then field high low + 2
      else 1 := rfl

/-- Where an accepted sequence begins, its length field says where it ends. -/
theorem BeginsAccepted.header {data : List UInt8} {offset : Nat}
    (accepted : BeginsAccepted data offset) :
    ∃ high low rest packet, data.drop offset = 0x32 :: high :: low :: rest ∧
      Packet.decode ((data.drop offset).take (field high low + 2)) = some (.ok packet) := by
  obtain ⟨size, packet, hok⟩ := accepted
  obtain ⟨body, fits, htake⟩ := Packet.exists_frame_of_ok hok
  have whole : data.drop offset = frame body ++ (data.drop offset).drop size := by
    rw [← htake, List.take_append_drop]
  have upper := fits.2
  have length_field : field ((body.length + 4) >>> 8).toUInt8 ((body.length + 4) &&& 0xFF).toUInt8 =
      body.length + 4 := field_bytes (by omega)
  refine ⟨_, _, _, packet, whole, ?_⟩
  rw [length_field, whole, List.take_append_of_le_length (by simp), ← length_frame,
    List.take_length, ← htake, hok]

/-- An iteration removes a hop, whatever it thinks of the bytes. -/
theorem step_hop {data : List UInt8} {count : Nat} {out : List Packet}
    (hstep : step data = .consume count out) : count = hop data := by
  rcases step_cases data with ⟨-, hwait⟩ | ⟨start, high, low, rest, rfl, -, hcase⟩
  · rw [hwait] at hstep
    cases hstep
  rw [hop_cons]
  rcases hcase with ⟨bad, hdrop⟩ | ⟨good, ⟨-, hwait⟩ | ⟨-, htake⟩⟩
  · rw [hdrop] at hstep
    cases hstep
    rw [if_neg]
    rintro ⟨hstart, low16, high1500⟩
    rcases bad with other | outside
    · exact other hstart
    · omega
  · rw [hwait] at hstep
    cases hstep
  · rw [htake] at hstep
    rw [if_pos good, takeFrame_count hstep]

/-- Up to the rest of the buffer the iterations start where the hops lead. -/
theorem reaches_iff_hops {data rest : List UInt8} {pkts : List Packet} {offset : Nat}
    (hdecode : decode data = some (pkts, rest)) (early : offset + rest.length ≤ data.length) :
    framer.Reaches data offset ↔ Hops data offset := by
  constructor
  · intro reached
    induction reached with
    | start => exact .start
    | next _ hstep ih =>
        rw [step_hop hstep] at early ⊢
        exact .next (ih (by omega))
  · intro hops
    induction hops with
    | start => exact .start
    | @next offset _ ih =>
        have positive := hop_pos (data.drop offset)
        have reached := ih (by omega)
        obtain ⟨count, out, hstep⟩ := reached.consumes hdecode (by omega)
        have := step_hop hstep
        subst this
        exact .next reached hstep

/-- The iteration at a valid frame emits its packet. -/
theorem emitsAt_frame_iff {g f s : List UInt8} {packet : Packet}
    (valid : Packet.decode f = some (.ok packet)) (long : 18 ≤ f.length)
    (kept : packet.command.dataType ≠ .ack ∧ packet.command.dataType ≠ .nack) :
    framer.EmitsAt (g ++ f ++ s) g.length packet ↔ framer.Reaches (g ++ f ++ s) g.length := by
  refine ⟨fun emits => emits.1, fun reached => ⟨reached, f.length, delivered packet, ?_, ?_⟩⟩
  · obtain ⟨body, fits, rfl⟩ := Packet.exists_frame_of_ok valid
    rw [length_frame] at long
    rw [List.append_assoc, List.drop_left]
    exact step_accepted fits (by omega) valid s
  · have keep : ¬ (packet.command.dataType = .ack ∨ packet.command.dataType = .nack) := by tauto
    rw [delivered, if_neg keep]
    exact List.mem_singleton_self packet

/-- A valid frame behind noise is delivered from its place if and only if the hops
from the start of the noise arrive there, and is then among the packets. -/
theorem frame_delivered_iff {g f s rest : List UInt8} {packet : Packet} {pkts : List Packet}
    (valid : Packet.decode f = some (.ok packet)) (long : 18 ≤ f.length)
    (kept : packet.command.dataType ≠ .ack ∧ packet.command.dataType ≠ .nack)
    (hdecode : decode (g ++ f ++ s) = some (pkts, rest)) (past : rest.length ≤ s.length) :
    (framer.EmitsAt (g ++ f ++ s) g.length packet ↔ Hops (g ++ f ++ s) g.length) ∧
      (Hops (g ++ f ++ s) g.length → packet ∈ pkts) := by
  have early : g.length + rest.length ≤ (g ++ f ++ s).length := by
    simp only [List.length_append]
    omega
  have emits : framer.EmitsAt (g ++ f ++ s) g.length packet ↔ Hops (g ++ f ++ s) g.length := by
    rw [emitsAt_frame_iff valid long kept, reaches_iff_hops hdecode early]
  refine ⟨emits, fun hops => ?_⟩
  exact (framer.mem_run_iff_emitsAt hdecode packet).mpr ⟨g.length, emits.mpr hops⟩

/-- A stray start byte with an implausible length, then a frame. -/
theorem frame_delivered_behind_stray_start :
    ∃ packet pkts,
      Packet.decode [50, 0, 17, 128, 0, 0, 176, 255, 32, 192, 19, 7, 1, 64, 101, 1, 65, 24, 52] =
          some (.ok packet) ∧
        decode ([0x32, 0xFF] ++
          [50, 0, 17, 128, 0, 0, 176, 255, 32, 192, 19, 7, 1, 64, 101, 1, 65, 24, 52] ++ []) =
            some (pkts, []) ∧ packet ∈ pkts := by
  have valid : Packet.decode
      [50, 0, 17, 128, 0, 0, 176, 255, 32, 192, 19, 7, 1, 64, 101, 1, 65, 24, 52] =
        some (.ok { sa := ⟨.jigTester, 0, 0⟩, da := Packet.broadcastSelf
                    command := { dataType := .request, packetNumber := 7 }
                    messages := [{ MessageSet.create ⟨0x4065⟩ 1 with size := 3 }] }) := by
    decide +kernel
  have found : decode ([0x32, 0xFF] ++
      [50, 0, 17, 128, 0, 0, 176, 255, 32, 192, 19, 7, 1, 64, 101, 1, 65, 24, 52] ++ []) =
        some ([{ sa := ⟨.jigTester, 0, 0⟩, da := Packet.broadcastSelf
                 command := { dataType := .request, packetNumber := 7 }
                 messages := [{ MessageSet.create ⟨0x4065⟩ 1 with size := 3 }] }], []) := by
    decide +kernel
  exact ⟨_, _, valid, found,
    (frame_delivered_iff valid (by decide) (by decide) found (by decide)).2 (.next (.next .start))⟩

/-- Noise that looks like the header of a frame of 34 bytes takes the valid frame
behind it along. -/
theorem frame_lost_behind_false_header :
    ¬ ∀ (g f s rest : List UInt8) (packet : Packet) (pkts : List Packet),
      Packet.decode f = some (.ok packet) → 18 ≤ f.length →
      packet.command.dataType ≠ .ack ∧ packet.command.dataType ≠ .nack →
      decode (g ++ f ++ s) = some (pkts, rest) → rest.length ≤ s.length →
      (∀ offset < g.length, ¬ BeginsAccepted (g ++ f ++ s) offset) → packet ∈ pkts := by
  intro all
  have lost := all [0x32, 0x00, 0x20]
    [50, 0, 17, 128, 0, 0, 176, 255, 32, 192, 19, 7, 1, 64, 101, 1, 65, 24, 52]
    [0, 0, 0, 0, 0, 0, 0, 0, 0, 0, 0, 0] []
    { sa := ⟨.jigTester, 0, 0⟩, da := Packet.broadcastSelf
      command := { dataType := .request, packetNumber := 7 }
      messages := [{ MessageSet.create ⟨0x4065⟩ 1 with size := 3 }] } []
    (by decide +kernel) (by decide) (by decide) (by decide +kernel) (by decide)
  refine List.not_mem_nil (lost fun offset inside accepted => ?_)
  obtain ⟨high, low, rest, packet, hdrop, hok⟩ := accepted.header
  match offset, inside with
  | 0, _ =>
      have rejected : Packet.decode [0x32, 0x00, 0x20, 50, 0, 17, 128, 0, 0, 176, 255, 32, 192, 19,
          7, 1, 64, 101, 1, 65, 24, 52, 0, 0, 0, 0, 0, 0, 0, 0, 0, 0, 0, 0] =
            some (.error .invalidEndByte) := by
        decide +kernel
      cases hdrop
      exact absurd (rejected.symm.trans hok) (by nofun)
  | 1, _ => cases hdrop
  | 2, _ => cases hdrop

end NasaCpp.Protocol.NasaProtocol
