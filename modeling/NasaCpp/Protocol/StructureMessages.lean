import NasaCpp.Protocol.Tiling

/-!
# Structure messages

A single Structure takes the rest of the payload.  The copy loop of
`MessageSet::decode` starts at the first byte of the frame instead of the first
byte behind the number, and the size of the buffer is a byte, so a Structure is
decoded faithfully only when it repeats the beginning of its own frame.
-/

namespace NasaCpp.Protocol.StructureMessages

open MessageSet Tiling

/-- The frame carries one message, and its number is that of a Structure. -/
def AnnouncesStructure (data : List UInt8) : Prop :=
  data[12]? = some 1 ∧ ∃ first second, data[13]? = some first ∧ data[14]? = some second ∧
    getMessageSetType (numberOf first second) = .Structure

/-- The decoded buffer is the payload behind the number bytes, and encoding the
packet reproduces the message part of the frame. -/
def Faithful (data : List UInt8) (packet : Packet) : Prop :=
  ∃ msg buffer, packet.messages = [msg] ∧ msg.content = .buffer buffer ∧
    buffer.size = (payloadOf data).length - 2 ∧ buffer.data = (payloadOf data).drop 2 ∧
      payloadOf packet.encode = payloadOf data

/-- The structure bytes are at most 255, and the first bytes of the frame. -/
def RepeatsFrame (data : List UInt8) : Prop :=
  (payloadOf data).length - 2 ≤ 255 ∧
    (payloadOf data).drop 2 = data.take ((payloadOf data).length - 2)

/-! ## The copy loop -/

/-- The size of the buffer after the sixteen-bit and the eight-bit narrowing. -/
theorem toNat_bufferSize (data : List UInt8) :
    ((data.length.toUInt64 - (13 : Nat).toUInt64 - 3).toUInt16 - 2).toUInt8.toNat =
      (data.length + 238) % 256 := by
  simp only [UInt64.toNat_toUInt16, UInt64.toNat_sub, Nat.toUInt64, UInt64.toNat_ofNat',
    UInt64.toNat_ofNat, UInt16.toNat_toUInt8, UInt16.toNat_sub, UInt16.toNat_ofNat]
  omega

theorem copyBuffer_eq_some {data : List UInt8} {size : UInt8} {buffer : Buffer}
    (hcopy : copyBuffer data size = some buffer) :
    size.toNat ≤ data.length ∧ buffer.data = data.take size.toNat := by
  unfold copyBuffer at hcopy
  split at hcopy
  · rename_i inside
    cases hcopy
    exact ⟨inside, rfl⟩
  · cases hcopy

/-- What an accepted frame with one Structure is decoded to: the payload has room
for the number, and the buffer holds the beginning of the frame. -/
theorem decode_single {data : List UInt8} {packet : Packet}
    (hok : Packet.decode data = some (.ok packet)) (announced : AnnouncesStructure data) :
    ∃ first second content msg buffer, payloadOf data = first :: second :: content ∧
      data.length = content.length + 18 ∧ packet.messages = [msg] ∧
        msg.messageNumber = numberOf first second ∧ msg.type = .Structure ∧
          msg.content = .buffer buffer ∧ buffer.data = data.take (content.length % 256) := by
  obtain ⟨cmd0, cmd1, cmd2, count, payload, hdata, -, -, hmessages⟩ :=
    Packet.exists_parts_of_ok hok
  obtain ⟨hcount, first, second, hfirst, hsecond, structured⟩ := announced
  obtain ⟨tail, hdrop⟩ : ∃ tail, data.drop 13 = payload ++ tail := by
    rw [hdata, frame, drop_frame_bodyOf]
    exact ⟨_, rfl⟩
  have length_eq : data.length = payload.length + 16 := by
    rw [hdata, length_frame, length_bodyOf]
  have payload_eq : payloadOf data = payload := by
    rw [hdata, payloadOf_frame]
  obtain rfl : count = 1 := by
    rw [hdata] at hcount
    exact Option.some.inj hcount
  have hmessages : (MessageSet.decode data 13 1).map (fun msg => [msg]) = some packet.messages := by
    rw [← hmessages]
    change _ = (MessageSet.decode data 13 1).bind fun msg => some [msg]
    rw [Option.map_eq_bind]
    rfl
  obtain ⟨msg, hmsg, hsingle⟩ := Option.map_eq_some_iff.mp hmessages
  have head : data.drop 13 = first :: second :: data.drop 15 := drop_of_getElem? hfirst hsecond
  rw [decode_structure_eq head structured] at hmsg
  obtain ⟨buffer, hcopy, rfl⟩ := Option.map_eq_some_iff.mp hmsg
  obtain ⟨inside, hbuffer⟩ := copyBuffer_eq_some hcopy
  rw [toNat_bufferSize] at inside hbuffer
  -- one or no payload byte makes the size wrap to more than the frame
  cases payload with
  | nil =>
      simp only [length_eq, List.length_nil] at inside
      omega
  | cons high payload =>
      cases payload with
      | nil =>
          simp only [length_eq, List.length_cons, List.length_nil] at inside
          omega
      | cons low content =>
          simp only [List.length_cons] at length_eq
          have wrapped : (data.length + 238) % 256 = content.length % 256 := by omega
          rw [wrapped] at hbuffer
          rw [head, List.cons_append, List.cons_append, List.cons.injEq, List.cons.injEq] at hdrop
          obtain ⟨rfl, rfl, -⟩ := hdrop
          exact ⟨first, second, content, _, buffer, payload_eq, length_eq, hsingle.symm, rfl,
            structured, rfl, hbuffer⟩

/-! ## Faithful Structures -/

theorem encode_structure {msg : MessageSet} {first second : UInt8} {buffer : Buffer}
    (number : msg.messageNumber = numberOf first second) (structured : msg.type = .Structure)
    (content : msg.content = .buffer buffer) :
    msg.encode = first :: second :: buffer.data := by
  have bytes := numberBytes_numberOf first second
  rw [← number, numberBytes] at bytes
  unfold MessageSet.encode structureData
  rw [structured, content]
  dsimp only
  rw [bytes]
  rfl

theorem payloadOf_encode (packet : Packet) :
    payloadOf packet.encode = packet.messages.flatMap MessageSet.encode := by
  rw [Packet.encode_eq_frame]
  exact payloadOf_frame _ _ _ _ _ _ _

/-- Copying the beginning of the frame gives the content exactly when it is the
beginning of the frame and its length survives the narrowing. -/
theorem take_eq_content_iff {data content : List UInt8} (inside : content.length ≤ data.length) :
    data.take (content.length % 256) = content ↔
      content.length ≤ 255 ∧ content = data.take content.length := by
  constructor
  · intro copied
    have length_eq := congrArg List.length copied
    rw [List.length_take, Nat.min_eq_left (by omega)] at length_eq
    rw [length_eq] at copied
    exact ⟨by omega, copied.symm⟩
  · rintro ⟨small, repeats⟩
    rw [Nat.mod_eq_of_lt (by omega), ← repeats]

/-- An accepted Structure is decoded faithfully if and only if its bytes are the
first bytes of its frame and at most 255. -/
theorem faithful_iff_repeatsFrame {data : List UInt8} {packet : Packet}
    (hok : Packet.decode data = some (.ok packet)) (announced : AnnouncesStructure data) :
    Faithful data packet ↔ RepeatsFrame data := by
  obtain ⟨first, second, content, msg, buffer, hpayload, length_eq, hsingle, number, structured,
    hcontent, hbuffer⟩ := decode_single hok announced
  have encoded := encode_structure number structured hcontent
  have repeats : RepeatsFrame data ↔ buffer.data = content := by
    unfold RepeatsFrame
    rw [hpayload, hbuffer]
    exact (take_eq_content_iff (by omega)).symm
  rw [repeats]
  constructor
  · rintro ⟨msg', buffer', hsingle', hcontent', -, hdata, -⟩
    rw [hsingle] at hsingle'
    cases hsingle'
    rw [hcontent] at hcontent'
    cases hcontent'
    rw [hdata, hpayload]
    rfl
  · intro same
    refine ⟨msg, buffer, hsingle, hcontent, ?_, ?_, ?_⟩
    · rw [Buffer.size, same, hpayload]
      rfl
    · rw [same, hpayload]
      rfl
    · rw [payloadOf_encode, hsingle, List.flatMap_singleton, encoded, same, hpayload]

/-- A Structure of one byte that happens to be the start byte. -/
theorem faithful_start_byte :
    Faithful [50, 0, 17, 16, 0, 0, 176, 255, 32, 192, 20, 7, 1, 6, 1, 50, 68, 158, 52]
      { sa := ⟨⟨0x10⟩, 0, 0⟩, da := Packet.broadcastSelf
        command := { dataType := .notification, packetNumber := 7 }
        messages :=
          [{ MessageSet.create ⟨0x0601⟩ 0 with
             content := .buffer ⟨[50], by decide⟩, size := 3 }] } :=
  (faithful_iff_repeatsFrame (by decide +kernel) ⟨rfl, 6, 1, rfl, rfl, by decide⟩).mpr
    ⟨by decide, by decide⟩

/-- The three bytes `123` come out as the start byte and the length field. -/
theorem not_faithful_three_bytes :
    ¬ ∀ data packet, Packet.decode data = some (.ok packet) → AnnouncesStructure data →
      Faithful data packet := by
  intro all
  have faithful := all
    [50, 0, 19, 16, 0, 0, 176, 255, 32, 192, 20, 7, 1, 6, 1, 49, 50, 51, 159, 232, 52]
    { sa := ⟨⟨0x10⟩, 0, 0⟩, da := Packet.broadcastSelf
      command := { dataType := .notification, packetNumber := 7 }
      messages :=
        [{ MessageSet.create ⟨0x0601⟩ 0 with
           content := .buffer ⟨[50, 0, 19], by decide⟩, size := 5 }] }
    (by decide +kernel) ⟨rfl, 6, 1, rfl, rfl, by decide⟩
  obtain ⟨msg, buffer, hsingle, hcontent, -, hdata, -⟩ := faithful
  cases hsingle
  cases hcontent
  exact absurd hdata (by decide)

end NasaCpp.Protocol.StructureMessages
