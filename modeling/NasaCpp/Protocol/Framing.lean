import NasaCpp.General.Framer
import NasaCpp.Protocol.Frame

/-!
# The framing loop

`NasaProtocol::decode` as a framer: each iteration drops a byte that cannot
start a frame, waits for the rest of one that can, or cuts it out and hands it to
`Packet.decode`.  No decision looks past the frame it is about, so the way a
stream is cut into chunks does not matter.
-/

namespace NasaCpp.Protocol.NasaProtocol

open General

/-- The packets an accepted frame adds to `pkts_out`. -/
def delivered (packet : Packet) : List Packet :=
  if packet.command.dataType = .ack ∨ packet.command.dataType = .nack then [] else [packet]

/-- The frame of `size` bytes at the front of the buffer is decoded and erased,
whatever the result. -/
def takeFrame (data : List UInt8) (size : Nat) : Verdict Packet :=
  match Packet.decode (data.take size) with
  | none => .fault
  | some (.ok packet) => .consume size (delivered packet)
  | some (.error _) => .consume size []

/-- One iteration of the `while` loop of `NasaProtocol::decode`. -/
def step (data : List UInt8) : Verdict Packet :=
  if data.length ≤ 16 then .wait
  else
    match data with
    | start :: high :: low :: _ =>
        if start ≠ 0x32 then .consume 1 []
        else
          let expectedSize := field high low
          if expectedSize > 1500 ∨ expectedSize < 16 then .consume 1 []
          else if data.length < expectedSize + 2 then .wait
          else takeFrame data (expectedSize + 2)
    | _ => .wait

theorem takeFrame_ne_wait (data : List UInt8) (size : Nat) : takeFrame data size ≠ .wait := by
  unfold takeFrame
  split <;> nofun

theorem takeFrame_count {data : List UInt8} {size count : Nat} {out : List Packet}
    (htake : takeFrame data size = .consume count out) : count = size := by
  unfold takeFrame at htake
  split at htake <;> cases htake <;> rfl

theorem takeFrame_append {data : List UInt8} {size : Nat} (inside : size ≤ data.length)
    (more : List UInt8) : takeFrame (data ++ more) size = takeFrame data size := by
  rw [takeFrame, List.take_append_of_le_length inside]
  rfl

theorem step_short {data : List UInt8} (short : data.length ≤ 16) : step data = .wait := by
  unfold step
  exact if_pos short

theorem step_long {start high low : UInt8} {rest : List UInt8}
    (long : 16 < (start :: high :: low :: rest).length) :
    step (start :: high :: low :: rest) =
      if start ≠ 0x32 then .consume 1 []
      else if field high low > 1500 ∨ field high low < 16 then .consume 1 []
      else if (start :: high :: low :: rest).length < field high low + 2 then .wait
      else takeFrame (start :: high :: low :: rest) (field high low + 2) := by
  unfold step
  exact if_neg (Nat.not_le_of_lt long)

/-- What an iteration can do, by the three bytes it looks at first. -/
theorem step_cases (data : List UInt8) :
    (data.length ≤ 16 ∧ step data = .wait) ∨
    ∃ start high low rest, data = start :: high :: low :: rest ∧ 16 < data.length ∧
      ((start ≠ 0x32 ∨ field high low > 1500 ∨ field high low < 16) ∧ step data = .consume 1 [] ∨
        (start = 0x32 ∧ 16 ≤ field high low ∧ field high low ≤ 1500) ∧
          (data.length < field high low + 2 ∧ step data = .wait ∨
            field high low + 2 ≤ data.length ∧
              step data = takeFrame data (field high low + 2))) := by
  by_cases short : data.length ≤ 16
  · exact .inl ⟨short, step_short short⟩
  right
  match data, short with
  | start :: high :: low :: rest, short =>
      have long := Nat.lt_of_not_le short
      refine ⟨start, high, low, rest, rfl, long, ?_⟩
      rw [step_long long]
      by_cases hstart : start = 0x32
      · rw [if_neg (not_not.mpr hstart)]
        by_cases hsize : field high low > 1500 ∨ field high low < 16
        · exact .inl ⟨.inr hsize, if_pos hsize⟩
        · rw [if_neg hsize]
          refine .inr ⟨⟨hstart, by omega, by omega⟩, ?_⟩
          by_cases hdata : (start :: high :: low :: rest).length < field high low + 2
          · exact .inl ⟨hdata, if_pos hdata⟩
          · exact .inr ⟨by omega, if_neg hdata⟩
      · exact .inl ⟨.inl hstart, if_pos hstart⟩
  | [], short => exact absurd (by simp) short
  | [_], short => exact absurd (by simp) short
  | [_, _], short => exact absurd (by simp) short

theorem step_consume_bounds {data : List UInt8} {count : Nat} {out : List Packet}
    (hstep : step data = .consume count out) : 0 < count ∧ count ≤ data.length := by
  rcases step_cases data with ⟨-, hwait⟩ | ⟨start, high, low, rest, -, long, hcase⟩
  · rw [hwait] at hstep
    cases hstep
  rcases hcase with ⟨-, hdrop⟩ | ⟨-, ⟨-, hwait⟩ | ⟨inside, htake⟩⟩
  · rw [hdrop] at hstep
    cases hstep
    omega
  · rw [hwait] at hstep
    cases hstep
  · rw [htake] at hstep
    have := takeFrame_count hstep
    omega

/-- More data changes no decision but waiting. -/
theorem step_stable {data : List UInt8} (more : List UInt8) (decided : step data ≠ .wait) :
    step (data ++ more) = step data := by
  rcases step_cases data with ⟨-, hwait⟩ | ⟨start, high, low, rest, rfl, long, hcase⟩
  · exact absurd hwait decided
  have longer : 16 < (start :: high :: low :: (rest ++ more)).length := by
    simp only [List.length_cons, List.length_append] at *
    omega
  rw [List.cons_append, List.cons_append, List.cons_append, step_long longer]
  rcases hcase with ⟨bad, hdrop⟩ | ⟨⟨hstart, low16, high1500⟩, ⟨-, hwait⟩ | ⟨inside, htake⟩⟩
  · rw [hdrop]
    by_cases hstart : start = 0x32
    · rw [if_neg (not_not.mpr hstart), if_pos (bad.resolve_left (not_not.mpr hstart))]
    · rw [if_pos hstart]
  · exact absurd hwait decided
  · have enough : ¬ (start :: high :: low :: (rest ++ more)).length < field high low + 2 := by
      simp only [List.length_cons, List.length_append] at *
      omega
    rw [htake, if_neg (not_not.mpr hstart), if_neg (by omega), if_neg enough]
    exact takeFrame_append inside more

def framer : Framer UInt8 Packet where
  step := step
  step_nil := rfl
  consume_bounds := step_consume_bounds
  stable := step_stable

/-- `NasaProtocol::decode`: the packets, and what stays in the deque. -/
def decode (data : List UInt8) : Option (List Packet × List UInt8) := framer.run data

def encode (pkts : List Packet) : List UInt8 := pkts.flatMap Packet.encode

/-- A deque that starts empty gets the chunks appended one by one and is decoded
after each. -/
def decodeChunks (chunks : List (List UInt8)) : Option (List Packet × List UInt8) :=
  framer.feed [] chunks

end NasaCpp.Protocol.NasaProtocol
