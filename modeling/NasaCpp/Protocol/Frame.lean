import NasaCpp.Protocol.Codec

/-!
# Frames

A frame is a start byte, a length field, a body, the checksum of the body and an
end byte.  `Packet.encode` produces the frame of the packet's body, and
`Packet.decode` rejects everything else, so an accepted vector is the frame of a
unique body and only its messages remain to be read.
-/

namespace NasaCpp.Protocol

/-- A body between a fitting length field and the two bytes of some checksum. -/
def rawFrame (body : List UInt8) (crcHigh crcLow : UInt8) : List UInt8 :=
  0x32 :: ((body.length + 4) >>> 8).toUInt8 :: ((body.length + 4) &&& 0xFF).toUInt8 ::
    (body ++ [crcHigh, crcLow, 0x34])

def checksumOf (body : List UInt8) : UInt16 := body.foldl crcByte 0

def frame (body : List UInt8) : List UInt8 :=
  rawFrame body (checksumOf body >>> 8).toUInt8 (checksumOf body &&& 0xFF).toUInt8

/-- The body lengths whose frames have 16 to 1500 bytes. -/
def BodyFits (body : List UInt8) : Prop := 10 ≤ body.length ∧ body.length ≤ 1494

instance (body : List UInt8) : Decidable (BodyFits body) :=
  inferInstanceAs (Decidable (_ ∧ _))

@[simp] theorem length_rawFrame (body : List UInt8) (crcHigh crcLow : UInt8) :
    (rawFrame body crcHigh crcLow).length = body.length + 6 := by
  simp [rawFrame]

@[simp] theorem length_frame (body : List UInt8) : (frame body).length = body.length + 6 :=
  length_rawFrame _ _ _

/-! ## Two-byte fields -/

/-- A big-endian field of two bytes, as `high << 8 | low`. -/
def field (high low : UInt8) : Nat := high.toNat <<< 8 ||| low.toNat

theorem field_eq (high low : UInt8) : field high low = high.toNat * 256 + low.toNat := by
  rw [field, ← Nat.shiftLeft_add_eq_or_of_lt low.toNat_lt, Nat.shiftLeft_eq]

theorem field_bytes {n : Nat} (fits : n < 65536) :
    field (n >>> 8).toUInt8 (n &&& 0xFF).toUInt8 = n := by
  have mask : n &&& 0xFF = n % 256 := Nat.and_two_pow_sub_one_eq_mod n 8
  rw [field_eq, mask, Nat.shiftRight_eq_div_pow]
  simp only [UInt8.toNat_ofNat', Nat.toUInt8]
  omega

theorem bytes_of_field {high low : UInt8} {n : Nat} (hfield : field high low = n) :
    (n >>> 8).toUInt8 = high ∧ (n &&& 0xFF).toUInt8 = low := by
  have mask : n &&& 0xFF = n % 256 := Nat.and_two_pow_sub_one_eq_mod n 8
  have bound := low.toNat_lt
  have bound' := high.toNat_lt
  rw [field_eq] at hfield
  rw [mask, Nat.shiftRight_eq_div_pow]
  constructor <;> apply UInt8.toNat.inj <;> simp only [UInt8.toNat_ofNat', Nat.toUInt8] <;> omega

theorem word_toNat (high low : UInt8) : (Checksum.word high low).toNat = field high low := by
  have bound := high.toNat_lt
  rw [Checksum.word, UInt16.toNat_or, UInt16.toNat_shiftLeft, field]
  simp only [UInt8.toNat_toUInt16, UInt16.toNat_ofNat, Nat.reduceMod, Nat.reducePow]
  rw [Nat.mod_eq_of_lt (by rw [Nat.shiftLeft_eq]; omega)]

theorem word_eq_iff (high low : UInt8) (crc : UInt16) :
    Checksum.word high low = crc ↔
      high = (crc >>> 8).toUInt8 ∧ low = (crc &&& 0xFF).toUInt8 := by
  have bound := crc.toNat_lt
  have high_eq : (crc >>> 8).toUInt8 = (crc.toNat >>> 8).toUInt8 := by
    apply UInt8.toNat.inj
    simp [Nat.toUInt8]
  have low_eq : (crc &&& 0xFF).toUInt8 = (crc.toNat &&& 0xFF).toUInt8 := by
    apply UInt8.toNat.inj
    simp [Nat.toUInt8]
  rw [← UInt16.toNat_inj, word_toNat, high_eq, low_eq]
  constructor
  · intro equal
    obtain ⟨hhigh, hlow⟩ := bytes_of_field equal
    exact ⟨hhigh.symm, hlow.symm⟩
  · rintro ⟨rfl, rfl⟩
    exact field_bytes bound

/-! ## Encoding -/

theorem Packet.encode_eq_frame (packet : Packet) : packet.encode = frame packet.body := by
  have length_eq : ([0x32, 0, 0] ++ packet.body).length + 1 = packet.body.length + 4 := by
    simp
  have range : crc16
      (0x32 :: ((packet.body.length + 4) >>> 8).toUInt8 ::
        ((packet.body.length + 4) &&& 0xFF).toUInt8 :: packet.body) 3 packet.body.length =
      checksumOf packet.body := by
    simp [crc16, checksumOf]
  unfold Packet.encode
  dsimp only
  rw [length_eq, Nat.add_sub_cancel]
  simp only [List.cons_append, List.nil_append, List.set, range]
  rfl

/-! ## Decoding -/

/-- The named parts of a body: addresses, command bytes, message count, payload. -/
def bodyOf (sa da : Address) (first second third count : UInt8) (payload : List UInt8) :
    List UInt8 :=
  sa.encode ++ da.encode ++ [first, second, third, count] ++ payload

theorem exists_bodyOf {body : List UInt8} (long : 10 ≤ body.length) :
    ∃ sa da first second third count payload,
      body = bodyOf sa da first second third count payload := by
  match body, long with
  | s0 :: s1 :: s2 :: d0 :: d1 :: d2 :: first :: second :: third :: count :: payload, _ =>
      exact ⟨⟨⟨s0⟩, s1, s2⟩, ⟨⟨d0⟩, d1, d2⟩, first, second, third, count, payload, rfl⟩

@[simp] theorem length_bodyOf (sa da : Address) (first second third count : UInt8)
    (payload : List UInt8) :
    (bodyOf sa da first second third count payload).length = payload.length + 10 := by
  simp [bodyOf, Address.encode]

theorem drop_frame_bodyOf (sa da : Address) (first second third count : UInt8)
    (payload : List UInt8) (crcHigh crcLow : UInt8) :
    (rawFrame (bodyOf sa da first second third count payload) crcHigh crcLow).drop 13 =
      payload ++ [crcHigh, crcLow, 0x34] := by
  simp [rawFrame, bodyOf, Address.encode]

/-- The three bytes after a body, seen from the end of its frame. -/
theorem rawFrame_tail (body : List UInt8) (crcHigh crcLow : UInt8) :
    (rawFrame body crcHigh crcLow)[body.length + 3]? = some crcHigh ∧
      (rawFrame body crcHigh crcLow)[body.length + 4]? = some crcLow ∧
      (rawFrame body crcHigh crcLow)[body.length + 5]? = some 0x34 := by
  simp [rawFrame]

theorem crc16_rawFrame (body : List UInt8) (crcHigh crcLow : UInt8) :
    crc16 (rawFrame body crcHigh crcLow) 3 body.length = checksumOf body := by
  simp [crc16, rawFrame, checksumOf]

namespace Packet

/-- Every check but the checksum passes on a body of fitting length. -/
theorem decode_rawFrame {body : List UInt8} (crcHigh crcLow : UInt8) (fits : BodyFits body) :
    decode (rawFrame body crcHigh crcLow) =
      if Checksum.word crcHigh crcLow ≠ checksumOf body then some (.error .crcError)
      else (decodeFields (rawFrame body crcHigh crcLow)).map .ok := by
  obtain ⟨high, low, last⟩ := rawFrame_tail body crcHigh crcLow
  have hcrc := crc16_rawFrame body crcHigh crcLow
  have length_eq := length_rawFrame body crcHigh crcLow
  have get0 : (rawFrame body crcHigh crcLow)[0]? = some 0x32 := rfl
  have get1 : (rawFrame body crcHigh crcLow)[1]? = some ((body.length + 4) >>> 8).toUInt8 := rfl
  have get2 : (rawFrame body crcHigh crcLow)[2]? = some ((body.length + 4) &&& 0xFF).toUInt8 := rfl
  generalize rawFrame body crcHigh crcLow = data at *
  have inside : ¬ (body.length + 6 < 16 ∨ body.length + 6 > 1500) := by
    have := fits.1
    have := fits.2
    omega
  have size_eq : (((body.length + 4) >>> 8).toUInt8.toNat <<< 8 |||
      ((body.length + 4) &&& 0xFF).toUInt8.toNat) = body.length + 4 :=
    field_bytes (by have := fits.2; omega)
  unfold decode
  simp only [get0, get1, get2, high, low, last, length_eq, size_eq, hcrc, inside,
    Option.bind_eq_bind, Option.bind_some, ne_eq, not_true_eq_false, if_false,
    Nat.add_sub_cancel, Nat.reduceSubDiff, Nat.add_one_sub_one]
  split <;> cases decodeFields data <;> rfl

/-- Behind the checks only the messages can go wrong. -/
theorem decodeFields_rawFrame (sa da : Address) (first second third count : UInt8)
    (payload : List UInt8) (crcHigh crcLow : UInt8) :
    let data := rawFrame (bodyOf sa da first second third count payload) crcHigh crcLow
    decodeFields data =
      (decodeMessages data count.toNat count.toNat 13).map fun messages =>
        { sa, da, command := .ofBytes first second third, messages } := by
  intro data
  have hsa : Address.decode data 3 = some sa := rfl
  have hda : Address.decode data 6 = some da := rfl
  have hcommand : Command.decode data 9 = some (.ofBytes first second third) := rfl
  have hcount : data[12]? = some count := rfl
  unfold decodeFields
  simp only [hsa, Address.size, hda, hcommand, Command.size, hcount, Nat.reduceAdd,
    Option.bind_eq_bind, Option.bind_some]
  cases decodeMessages data count.toNat count.toNat 13 <;> rfl

theorem decode_frame {body : List UInt8} (fits : BodyFits body) :
    decode (frame body) = (decodeFields (frame body)).map .ok := by
  rw [frame, decode_rawFrame _ _ fits, if_neg]
  rw [not_not, word_eq_iff]
  exact ⟨rfl, rfl⟩

theorem exists_three_last {data : List UInt8} (long : 3 ≤ data.length) :
    ∃ front x y z, data = front ++ [x, y, z] := by
  obtain ⟨x, y, z, htail⟩ := List.length_eq_three.mp
    (show (data.drop (data.length - 3)).length = 3 by rw [List.length_drop]; omega)
  exact ⟨data.take (data.length - 3), x, y, z, by rw [← htail, List.take_append_drop]⟩

/-- The fields around a body, whatever their bytes. -/
theorem exists_fields {rest : List UInt8} (long : 5 ≤ rest.length) :
    ∃ sizeHigh sizeLow body crcHigh crcLow last,
      rest = sizeHigh :: sizeLow :: (body ++ [crcHigh, crcLow, last]) := by
  match rest, long with
  | sizeHigh :: sizeLow :: tail, long =>
      obtain ⟨body, crcHigh, crcLow, last, rfl⟩ := @exists_three_last tail (by
        simp only [List.length_cons] at long
        omega)
      exact ⟨sizeHigh, sizeLow, body, crcHigh, crcLow, last, rfl⟩

/-- A vector that no check rejects is the frame of a fitting body. -/
theorem exists_frame {data : List UInt8} (nonempty : data ≠ [])
    (accepted : ∀ result, decode data ≠ some (.error result)) :
    ∃ body, BodyFits body ∧ data = frame body := by
  obtain ⟨start, rest, rfl⟩ := List.exists_cons_of_ne_nil nonempty
  have hstart : start = 0x32 := by
    by_contra other
    exact accepted .invalidStartByte (by simp [decode, other])
  subst hstart
  have bounds : 15 ≤ rest.length ∧ rest.length ≤ 1499 := by
    by_contra outside
    have wrong : rest.length + 1 < 16 ∨ rest.length + 1 > 1500 := by omega
    refine accepted .unexpectedSize ?_
    simp only [decode, List.getElem?_cons_zero, List.length_cons, Option.bind_eq_bind,
      Option.bind_some, ne_eq, not_true_eq_false, if_false, wrong, if_true]
    rfl
  have long : 5 ≤ rest.length := by omega
  obtain ⟨sizeHigh, sizeLow, body, crcHigh, crcLow, last, rfl⟩ := exists_fields long
  simp only [List.length_cons, List.length_append, List.length_nil] at bounds
  have hsize : field sizeHigh sizeLow = body.length + 4 := by
    by_contra other
    refine accepted .sizeDidNotMatch ?_
    have mismatch : ¬ sizeHigh.toNat <<< 8 ||| sizeLow.toNat = body.length + 4 := other
    simp [decode, mismatch]
    omega
  have hlast : last = 0x34 := by
    by_contra other
    refine accepted .invalidEndByte ?_
    have hfield : sizeHigh.toNat <<< 8 ||| sizeLow.toNat = body.length + 4 := hsize
    simp [decode, hfield, other]
    omega
  subst hlast
  obtain ⟨hhigh, hlow⟩ := bytes_of_field hsize
  have raw : 0x32 :: sizeHigh :: sizeLow :: (body ++ [crcHigh, crcLow, 0x34]) =
      rawFrame body crcHigh crcLow := by
    rw [rawFrame, hhigh, hlow]
  have fits : BodyFits body := ⟨by omega, by omega⟩
  rw [raw] at accepted ⊢
  have hcrc : Checksum.word crcHigh crcLow = checksumOf body := by
    by_contra other
    exact accepted .crcError (by rw [decode_rawFrame _ _ fits, if_pos other])
  obtain ⟨rfl, rfl⟩ := (word_eq_iff _ _ _).mp hcrc
  exact ⟨body, fits, rfl⟩

theorem exists_frame_of_ok {data : List UInt8} {packet : Packet}
    (hok : decode data = some (.ok packet)) :
    ∃ body, BodyFits body ∧ data = frame body := by
  refine exists_frame ?_ ?_
  · rintro rfl
    cases hok
  · intro result herror
    rw [hok] at herror
    cases herror

/-- An accepted vector by its parts: only the messages are more than bytes. -/
theorem exists_parts_of_ok {data : List UInt8} {packet : Packet}
    (hok : decode data = some (.ok packet)) :
    ∃ first second third count payload,
      data = frame (bodyOf packet.sa packet.da first second third count payload) ∧
        BodyFits (bodyOf packet.sa packet.da first second third count payload) ∧
          packet.command = .ofBytes first second third ∧
            decodeMessages data count.toNat count.toNat 13 = some packet.messages := by
  obtain ⟨body, fits, rfl⟩ := exists_frame_of_ok hok
  obtain ⟨sa, da, first, second, third, count, payload, rfl⟩ := exists_bodyOf fits.1
  have hfields := decodeFields_rawFrame sa da first second third count payload
    (checksumOf (bodyOf sa da first second third count payload) >>> 8).toUInt8
    (checksumOf (bodyOf sa da first second third count payload) &&& 0xFF).toUInt8
  dsimp only at hfields
  rw [← frame] at hfields
  rw [decode_frame fits, hfields, Option.map_map] at hok
  obtain ⟨messages, hmessages, hpacket⟩ := Option.map_eq_some_iff.mp hok
  cases hpacket
  exact ⟨first, second, third, count, payload, rfl, fits, rfl, hmessages⟩

end Packet

end NasaCpp.Protocol
