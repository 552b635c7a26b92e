import NasaCpp.Protocol.RoundTrip

/-!
# Frames accounted for by their messages

`Packet.decode` reads as many messages as the count byte says and never compares
their sizes with the frame.  A frame that passes the checks is read within
bounds, with its messages laid end to end up to the checksum, exactly when its
payload is tiled by that many messages.
-/

namespace NasaCpp.Protocol.Tiling

open MessageSet

/-- The bytes a message of the given type takes at `offset` of a frame with
`count` messages: number and value, or the whole rest for a single Structure. -/
def extent (data : List UInt8) (count offset : Nat) : MessageSetType → Option Nat
  | .Enum => some 3
  | .Variable => some 4
  | .LongVariable => some 6
  | .Structure =>
      if count = 1 ∧ offset + 2 ≤ data.length - 3 then some (data.length - 3 - offset) else none

/-- The messages lie one after the other from `offset` and end at the checksum. -/
def Tiles (data : List UInt8) (count : Nat) : Nat → List MessageSet → Prop
  | offset, [] => offset = data.length - 3
  | offset, msg :: rest =>
      (∃ first second, data[offset]? = some first ∧ data[offset + 1]? = some second ∧
          msg.messageNumber = numberOf first second) ∧
        extent data count offset msg.type = some msg.size.toNat ∧
        offset + msg.size.toNat ≤ data.length - 3 ∧
        Tiles data count (offset + msg.size.toNat) rest

/-- No read leaves the vector, and an accepted packet has the announced number of
messages, which tile the payload. -/
def AccountedFor (data : List UInt8) : Prop :=
  Packet.decode data ≠ none ∧
    ∀ packet, Packet.decode data = some (.ok packet) →
      data[12]?.map UInt8.toNat = some packet.messages.length ∧
        Tiles data packet.messages.length 13 packet.messages

/-! ## The condition on the frame -/

def width : MessageSetType → Nat
  | .Enum => 1
  | .Variable => 2
  | .LongVariable => 4
  | .Structure => 0

/-- `remaining` messages of a frame with `count` of them tile the payload. -/
def tiled (count : Nat) : Nat → List UInt8 → Bool
  | 0, payload => payload.isEmpty
  | remaining + 1, first :: second :: rest =>
      match getMessageSetType (numberOf first second) with
      | .Structure => count == 1
      | type => decide (width type ≤ rest.length) && tiled count remaining (rest.drop (width type))
  | _ + 1, _ => false

def payloadOf (data : List UInt8) : List UInt8 := (data.drop 13).take (data.length - 16)

def PassesChecks (data : List UInt8) : Prop := ∃ body, BodyFits body ∧ data = frame body

/-- If the vector passes the checks, its count and its payload agree. -/
def Consistent (data : List UInt8) : Prop :=
  PassesChecks data →
    ∃ count, data[12]? = some count ∧ tiled count.toNat count.toNat (payloadOf data) = true

theorem tiled_scalar {count remaining : Nat} {first second : UInt8} {rest : List UInt8}
    (scalar : getMessageSetType (numberOf first second) ≠ .Structure) :
    tiled count (remaining + 1) (first :: second :: rest) = true ↔
      width (getMessageSetType (numberOf first second)) ≤ rest.length ∧
        tiled count remaining (rest.drop (width (getMessageSetType (numberOf first second)))) =
          true := by
  rw [tiled]
  cases htype : getMessageSetType (numberOf first second) with
  | Structure => exact absurd htype scalar
  | Enum | Variable | LongVariable => rw [Bool.and_eq_true, decide_eq_true_iff]

theorem tiled_structure {count remaining : Nat} {first second : UInt8} {rest : List UInt8}
    (structured : getMessageSetType (numberOf first second) = .Structure) :
    tiled count (remaining + 1) (first :: second :: rest) = true ↔ count = 1 := by
  rw [tiled, structured, beq_iff_eq]

/-! ## One message -/

theorem extent_scalar {data : List UInt8} {count offset : Nat} {type : MessageSetType}
    (scalar : type ≠ .Structure) : extent data count offset type = some (width type + 2) := by
  cases type with
  | Structure => exact absurd rfl scalar
  | Enum | Variable | LongVariable => rfl

theorem extent_structure {data : List UInt8} {count offset size : Nat} :
    extent data count offset .Structure = some size ↔
      count = 1 ∧ offset + 2 ≤ data.length - 3 ∧ data.length - 3 - offset = size := by
  unfold extent
  dsimp only
  split
  · rename_i room
    simp [room]
  · rename_i noRoom
    simp only [reduceCtorEq, false_iff]
    exact fun room => noRoom ⟨room.1, room.2.1⟩

/-- A scalar message with its value bytes present is read. -/
theorem scalarOf_isSome {number : MessageNumber} {rest : List UInt8}
    (scalar : getMessageSetType number ≠ .Structure)
    (enough : width (getMessageSetType number) ≤ rest.length) :
    ∃ msg, scalarOf number rest = some msg ∧ msg.messageNumber = number ∧
      msg.type = getMessageSetType number ∧
      msg.size.toNat = width (getMessageSetType number) + 2 := by
  unfold scalarOf
  cases htype : getMessageSetType number with
  | Structure => exact absurd htype scalar
  | Enum =>
      rw [htype] at enough
      match rest, enough with
      | _ :: _, _ => exact ⟨_, rfl, rfl, htype, rfl⟩
  | Variable =>
      rw [htype] at enough
      match rest, enough with
      | _ :: _ :: _, _ => exact ⟨_, rfl, rfl, htype, rfl⟩
  | LongVariable =>
      rw [htype] at enough
      match rest, enough with
      | _ :: _ :: _ :: _ :: _, _ => exact ⟨_, rfl, rfl, htype, rfl⟩

/-- Whatever the reader makes of a message, its number is the two bytes at the cursor. -/
theorem decode_number {data : List UInt8} {index capacity : Nat} {msg : MessageSet}
    (hmsg : MessageSet.decode data index capacity = some msg) :
    ∃ first second, data[index]? = some first ∧ data[index + 1]? = some second ∧
      msg.messageNumber = numberOf first second ∧
      msg.type = getMessageSetType (numberOf first second) := by
  unfold MessageSet.decode at hmsg
  simp only [Option.bind_eq_bind, Option.bind_eq_some_iff, create_type] at hmsg
  obtain ⟨first, hfirst, second, hsecond, hmsg⟩ := hmsg
  refine ⟨first, second, hfirst, hsecond, ?_⟩
  split at hmsg <;> rename_i htype
  · simp only [Option.bind_eq_some_iff, Option.pure_def, Option.some.injEq] at hmsg
    obtain ⟨_, _, rfl⟩ := hmsg
    exact ⟨rfl, rfl⟩
  · simp only [Option.bind_eq_some_iff, Option.pure_def, Option.some.injEq] at hmsg
    obtain ⟨_, _, _, _, rfl⟩ := hmsg
    exact ⟨rfl, rfl⟩
  · simp only [Option.bind_eq_some_iff, Option.pure_def, Option.some.injEq] at hmsg
    obtain ⟨_, _, _, _, _, _, _, _, rfl⟩ := hmsg
    exact ⟨rfl, rfl⟩
  · split at hmsg
    · simp only [Option.pure_def, Option.some.injEq] at hmsg
      subst hmsg
      exact ⟨rfl, rfl⟩
    · simp only [Option.bind_eq_some_iff, Option.pure_def, Option.some.injEq] at hmsg
      obtain ⟨_, _, rfl⟩ := hmsg
      exact ⟨rfl, rfl⟩

/-- The number and type of a message read where the bytes are known. -/
theorem decode_head {data rest : List UInt8} {index capacity : Nat} {first second : UInt8}
    {msg : MessageSet} (hdrop : data.drop index = first :: second :: rest)
    (hmsg : MessageSet.decode data index capacity = some msg) :
    msg.messageNumber = numberOf first second ∧
      msg.type = getMessageSetType (numberOf first second) := by
  have get := getElem?_of_drop hdrop
  obtain ⟨first', second', hfirst, hsecond, hnumber, htype⟩ := decode_number hmsg
  obtain rfl : first = first' := Option.some.inj ((get 0).symm.trans hfirst)
  obtain rfl : second = second' := Option.some.inj ((get 1).symm.trans hsecond)
  exact ⟨hnumber, htype⟩

theorem copyBuffer_isSome {data : List UInt8} {size : UInt8} (inside : size.toNat ≤ data.length) :
    ∃ buffer, copyBuffer data size = some buffer := by
  unfold copyBuffer
  rw [if_pos inside]
  exact ⟨_, rfl⟩

/-- A single Structure is its number and whatever the copy loop makes of the rest. -/
theorem decode_structure_eq {data rest : List UInt8} {index : Nat} {first second : UInt8}
    (hdrop : data.drop index = first :: second :: rest)
    (structured : getMessageSetType (numberOf first second) = .Structure) :
    MessageSet.decode data index 1 =
      (copyBuffer data ((data.length.toUInt64 - index.toUInt64 - 3).toUInt16 - 2).toUInt8).map
        fun buffer =>
          { create (numberOf first second) 0 with
            content := .buffer buffer
            size := (data.length.toUInt64 - index.toUInt64 - 3).toUInt16 } := by
  have get := getElem?_of_drop hdrop
  have get0 : data[index]? = some first := get 0
  have get1 : data[index + 1]? = some second := get 1
  unfold MessageSet.decode
  simp only [get0, get1, Option.bind_eq_bind, Option.bind_some, create_type, structured, ne_eq,
    not_true_eq_false, if_false]
  cases copyBuffer data ((data.length.toUInt64 - index.toUInt64 - 3).toUInt16 - 2).toUInt8 <;> rfl

/-- A single Structure takes the rest of the payload. -/
theorem decode_structure {data : List UInt8} {index : Nat} {first second : UInt8}
    {rest : List UInt8} (short : data.length ≤ 1500)
    (hdrop : data.drop index = first :: second :: rest) (room : 3 ≤ rest.length)
    (structured : getMessageSetType (numberOf first second) = .Structure) :
    ∃ msg, MessageSet.decode data index 1 = some msg ∧
      msg.messageNumber = numberOf first second ∧
      msg.type = .Structure ∧ msg.size.toNat = data.length - 3 - index := by
  have length_eq : data.length - index = rest.length + 2 := by
    rw [← List.length_drop, hdrop]
    rfl
  have size_eq : (data.length.toUInt64 - index.toUInt64 - 3).toUInt16.toNat =
      data.length - 3 - index := by
    simp only [UInt64.toNat_toUInt16, UInt64.toNat_sub, Nat.toUInt64, UInt64.toNat_ofNat',
      UInt64.toNat_ofNat]
    omega
  rw [decode_structure_eq hdrop structured]
  generalize (data.length.toUInt64 - index.toUInt64 - 3).toUInt16 = size at size_eq
  have copied : (size - 2).toUInt8.toNat ≤ data.length := by
    simp only [UInt16.toNat_toUInt8, UInt16.toNat_sub, UInt16.toNat_ofNat]
    omega
  obtain ⟨buffer, hbuffer⟩ := copyBuffer_isSome copied
  rw [hbuffer]
  exact ⟨_, rfl, rfl, structured, size_eq⟩

/-! ## All messages -/

theorem length_decodeMessages {data : List UInt8} {capacity remaining cursor : Nat}
    {messages : List MessageSet}
    (hmessages : Packet.decodeMessages data capacity remaining cursor = some messages) :
    messages.length = remaining := by
  induction remaining generalizing cursor messages with
  | zero =>
      cases hmessages
      rfl
  | succ remaining ih =>
      simp only [Packet.decodeMessages, Option.bind_eq_bind, Option.bind_eq_some_iff,
        Option.pure_def, Option.some.injEq] at hmessages
      obtain ⟨msg, -, rest, hrest, rfl⟩ := hmessages
      rw [List.length_cons, ih hrest]

/-- A message in a tiling has room for its number before the checksum. -/
theorem Tiles.room {data : List UInt8} {count offset : Nat} {msg : MessageSet}
    {rest : List MessageSet} (tiles : Tiles data count offset (msg :: rest)) :
    offset + 2 ≤ data.length - 3 := by
  obtain ⟨-, hextent, inside, -⟩ := tiles
  by_cases structured : msg.type = .Structure
  · rw [structured, extent_structure] at hextent
    exact hextent.2.1
  · rw [extent_scalar structured, Option.some.injEq] at hextent
    omega

/-- What a round of the message loop says about a tiling that starts with it. -/
theorem exists_cons_iff {data : List UInt8} {capacity remaining cursor : Nat} :
    (∃ messages, Packet.decodeMessages data capacity (remaining + 1) cursor = some messages ∧
        Tiles data capacity cursor messages) ↔
      ∃ msg, MessageSet.decode data cursor capacity = some msg ∧
        extent data capacity cursor msg.type = some msg.size.toNat ∧
        cursor + msg.size.toNat ≤ data.length - 3 ∧
        ∃ rest, Packet.decodeMessages data capacity remaining (cursor + msg.size.toNat) =
            some rest ∧ Tiles data capacity (cursor + msg.size.toNat) rest := by
  simp only [Packet.decodeMessages, Option.bind_eq_bind, Option.bind_eq_some_iff,
    Option.pure_def, Option.some.injEq]
  constructor
  · rintro ⟨_, ⟨msg, hmsg, rest, hrest, rfl⟩, -, hextent, inside, tiles⟩
    exact ⟨msg, hmsg, hextent, inside, rest, hrest, tiles⟩
  · rintro ⟨msg, hmsg, hextent, inside, rest, hrest, tiles⟩
    obtain ⟨first, second, hfirst, hsecond, hnumber, -⟩ := decode_number hmsg
    exact ⟨_, ⟨msg, hmsg, rest, hrest, rfl⟩, ⟨first, second, hfirst, hsecond, hnumber⟩, hextent,
      inside, tiles⟩

/-- A Structure tiles the payload from its number on exactly as the only message. -/
theorem structure_tiles_iff {data rest : List UInt8} {capacity remaining cursor : Nat}
    {first second x y z : UInt8} (short : data.length ≤ 1500)
    (single : capacity = 1 → remaining = 0)
    (hdrop : data.drop cursor = first :: second :: (rest ++ [x, y, z]))
    (structured : getMessageSetType (numberOf first second) = .Structure) :
    (∃ messages, Packet.decodeMessages data capacity (remaining + 1) cursor = some messages ∧
        Tiles data capacity cursor messages) ↔ capacity = 1 := by
  have length_eq : data.length - cursor = rest.length + 5 := by
    rw [← List.length_drop, hdrop]
    simp
  rw [exists_cons_iff]
  constructor
  · rintro ⟨msg, hmsg, hextent, -⟩
    rw [(decode_head hdrop hmsg).2, structured, extent_structure] at hextent
    exact hextent.1
  · rintro rfl
    obtain rfl := single rfl
    obtain ⟨msg, hmsg, -, htype, hsize⟩ := decode_structure short hdrop (by simp) structured
    refine ⟨msg, hmsg, ?_, by omega, [], rfl, ?_⟩
    · rw [htype, extent_structure]
      exact ⟨rfl, by omega, hsize.symm⟩
    · rw [Tiles, hsize]
      omega

/-- A scalar message tiles its bytes, and the later messages the bytes behind it. -/
theorem scalar_tiles_iff {data rest : List UInt8} {capacity remaining cursor : Nat}
    {first second x y z : UInt8}
    (hdrop : data.drop cursor = first :: second :: (rest ++ [x, y, z]))
    (scalar : getMessageSetType (numberOf first second) ≠ .Structure) :
    (∃ messages, Packet.decodeMessages data capacity (remaining + 1) cursor = some messages ∧
        Tiles data capacity cursor messages) ↔
      width (getMessageSetType (numberOf first second)) ≤ rest.length ∧
        ∃ messages, Packet.decodeMessages data capacity remaining
            (cursor + (width (getMessageSetType (numberOf first second)) + 2)) = some messages ∧
          Tiles data capacity
            (cursor + (width (getMessageSetType (numberOf first second)) + 2)) messages := by
  have length_eq : data.length - cursor = rest.length + 5 := by
    rw [← List.length_drop, hdrop]
    simp
  rw [exists_cons_iff]
  constructor
  · rintro ⟨msg, hmsg, hextent, inside, later⟩
    rw [(decode_head hdrop hmsg).2, extent_scalar scalar, Option.some.injEq] at hextent
    rw [← hextent] at inside later
    exact ⟨by omega, later⟩
  · rintro ⟨enough, later⟩
    have present : width (getMessageSetType (numberOf first second)) ≤
        (rest ++ [x, y, z]).length := Nat.le_trans enough (by simp)
    obtain ⟨msg, hmsg, -, htype, hsize⟩ := scalarOf_isSome scalar present
    refine ⟨msg, ?_, ?_, by omega, ?_⟩
    · rw [MessageSet.decode_scalar capacity hdrop scalar, hmsg]
    · rw [htype, extent_scalar scalar, hsize]
    · rw [hsize]
      exact later

/-- No message fits into less than two bytes before the checksum. -/
theorem not_tiles_of_close {data : List UInt8} {capacity remaining cursor : Nat}
    (close : data.length - cursor ≤ 4) :
    ¬ ∃ messages, Packet.decodeMessages data capacity (remaining + 1) cursor = some messages ∧
      Tiles data capacity cursor messages := by
  rintro ⟨messages, hmessages, tiles⟩
  obtain ⟨msg, rest, rfl⟩ :=
    List.exists_cons_of_length_eq_add_one (length_decodeMessages hmessages)
  have room := tiles.room
  omega

/-- The message loop reads a tiling exactly when the payload is tiled.  The
induction is on the messages left; a Structure can only be the last of one. -/
theorem decodeMessages_tiles_iff {data payload : List UInt8} {capacity remaining cursor : Nat}
    {x y z : UInt8} (short : data.length ≤ 1500) (single : capacity = 1 → remaining ≤ 1)
    (hdrop : data.drop cursor = payload ++ [x, y, z]) :
    (∃ messages, Packet.decodeMessages data capacity remaining cursor = some messages ∧
        Tiles data capacity cursor messages) ↔
      tiled capacity remaining payload = true := by
  have length_eq : data.length - cursor = payload.length + 3 := by
    rw [← List.length_drop, hdrop]
    simp
  induction remaining generalizing cursor payload with
  | zero =>
      have finish : cursor = data.length - 3 ↔ payload = [] := by
        rw [← List.length_eq_zero_iff]
        omega
      simp [Packet.decodeMessages, Tiles, tiled, finish]
  | succ remaining ih =>
      rcases payload with _ | ⟨first, _ | ⟨second, rest⟩⟩
      · exact iff_of_false (not_tiles_of_close (by rw [length_eq]; decide)) Bool.false_ne_true
      · exact iff_of_false (not_tiles_of_close (by rw [length_eq]; exact Nat.le_refl 4))
          Bool.false_ne_true
      · simp only [List.cons_append, List.length_cons] at hdrop length_eq
        by_cases structured : getMessageSetType (numberOf first second) = .Structure
        · rw [tiled_structure structured]
          exact structure_tiles_iff short (fun one => by have := single one; omega) hdrop
            structured
        · rw [tiled_scalar structured, scalar_tiles_iff hdrop structured]
          refine and_congr_right fun enough => ih (fun one => by have := single one; omega) ?_ ?_
          · rw [← List.drop_drop, hdrop, List.drop_succ_cons, List.drop_succ_cons,
              List.drop_append_of_le_length enough]
          · rw [List.length_drop]
            omega

/-! ## The frame -/

/-- On a frame that passes the checks the property is about the message loop. -/
theorem accountedFor_of_fields {data : List UInt8} {count : UInt8} {sa da : Address}
    {command : Command} (hcount : data[12]? = some count)
    (hdecode : Packet.decode data =
      (Packet.decodeMessages data count.toNat count.toNat 13).map fun messages =>
        .ok { sa, da, command, messages }) :
    AccountedFor data ↔
      ∃ messages, Packet.decodeMessages data count.toNat count.toNat 13 = some messages ∧
        Tiles data count.toNat 13 messages := by
  unfold AccountedFor
  rw [hdecode, hcount]
  cases hmessages : Packet.decodeMessages data count.toNat count.toNat 13 with
  | none => simp
  | some messages =>
      have length_eq := length_decodeMessages hmessages
      constructor
      · rintro ⟨-, accounted⟩
        have tiles := (accounted _ rfl).2
        rw [length_eq] at tiles
        exact ⟨messages, rfl, tiles⟩
      · rintro ⟨_, hsome, tiles⟩
        cases hsome
        refine ⟨nofun, fun packet hok => ?_⟩
        cases hok
        dsimp only
        rw [length_eq]
        exact ⟨rfl, tiles⟩

theorem payloadOf_frame (sa da : Address) (first second third count : UInt8)
    (payload : List UInt8) :
    payloadOf (frame (bodyOf sa da first second third count payload)) = payload := by
  unfold payloadOf
  rw [length_frame, length_bodyOf, frame, drop_frame_bodyOf]
  simp

/-- A frame is accounted for exactly when its payload is tiled. -/
theorem accountedFor_frame {sa da : Address} {first second third count : UInt8}
    {payload : List UInt8} (fits : BodyFits (bodyOf sa da first second third count payload)) :
    AccountedFor (frame (bodyOf sa da first second third count payload)) ↔
      tiled count.toNat count.toNat payload = true := by
  have hdrop := drop_frame_bodyOf sa da first second third count payload
  have hfields := Packet.decodeFields_rawFrame sa da first second third count payload
  have hcount : (frame (bodyOf sa da first second third count payload))[12]? = some count := rfl
  have hdecode := Packet.decode_frame fits
  generalize hbody : bodyOf sa da first second third count payload = body at *
  have short : (frame body).length ≤ 1500 := by
    have upper := fits.2
    rw [length_frame]
    omega
  have single : count.toNat = 1 → count.toNat ≤ 1 := Nat.le_of_eq
  rw [frame, hfields, ← frame, Option.map_map] at hdecode
  rw [accountedFor_of_fields hcount hdecode]
  exact decodeMessages_tiles_iff short single (hdrop _ _)

/-- A vector that no check lets pass is accounted for: nothing is read beyond it. -/
theorem accountedFor_of_rejected {data : List UInt8} (nonempty : data ≠ [])
    (fails : ¬ PassesChecks data) : AccountedFor data := by
  obtain ⟨result, herror⟩ : ∃ result, Packet.decode data = some (.error result) := by
    by_contra none
    exact fails (Packet.exists_frame nonempty fun result herror => none ⟨result, herror⟩)
  refine ⟨by rw [herror]; exact Option.some_ne_none _, fun packet hok => ?_⟩
  rw [herror] at hok
  cases hok

/-- A vector is accounted for by its messages if and only if it is rejected by a
check or its count and payload agree. -/
theorem accountedFor_iff {data : List UInt8} (nonempty : data ≠ []) :
    AccountedFor data ↔ Consistent data := by
  by_cases passes : PassesChecks data
  · have checked := passes
    obtain ⟨body, fits, rfl⟩ := checked
    obtain ⟨sa, da, first, second, third, count, payload, rfl⟩ := exists_bodyOf fits.1
    have hcount : (frame (bodyOf sa da first second third count payload))[12]? = some count := rfl
    rw [accountedFor_frame fits, Consistent, payloadOf_frame, hcount]
    constructor
    · exact fun here _ => ⟨count, rfl, here⟩
    · intro consistent
      obtain ⟨other, hother, here⟩ := consistent passes
      cases hother
      exact here
  · exact iff_of_true (accountedFor_of_rejected nonempty passes) fun yes => absurd yes passes

/-- Two Enum messages that fill their frame. -/
theorem accountedFor_two_messages :
    AccountedFor
      [50, 0, 20, 16, 0, 0, 176, 255, 32, 192, 17, 5, 2, 64, 101, 1, 64, 102, 1, 182, 127, 52] :=
  (accountedFor_iff (by decide)).mpr fun _ => ⟨2, rfl, by decide +kernel⟩

/-- A frame of 16 bytes that announces two messages and carries none: the reader
takes the checksum for a message number and then leaves the vector. -/
theorem not_accountedFor_empty_payload :
    ¬ ∀ data : List UInt8, data ≠ [] → AccountedFor data := by
  intro all
  exact (all [50, 0, 14, 16, 0, 0, 176, 255, 32, 192, 17, 5, 2, 34, 169, 52] (by decide)).1
    (by decide +kernel)

end NasaCpp.Protocol.Tiling
