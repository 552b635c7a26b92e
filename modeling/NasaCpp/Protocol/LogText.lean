import NasaCpp.General.Fields
import NasaCpp.Protocol.Codec

/-!
# The texts of the log

`to_string` of `nasa_protocol_helper.cpp`, with which `tcp_nasa_logger` writes each packet to
its log.  A text is a list of characters.  `to_hex_string` prints a `long` into ten
characters, so of a negative number only the first nine digits are left.
-/

namespace NasaCpp.Protocol

open General Fields Numeral

/-! ## Numbers -/

/-- `%02x` and `%02lx`. -/
def hex (number : ℕ) : List Char := (Nat.toDigits 16 number).leftpad 2 '0'

/-- `to_hex_string` of a `long`: `snprintf` leaves room for the terminator. -/
def toHexString (number : Int64) : List Char := (hex number.toUInt64.toNat).take 9

def decimalText (number : ℕ) : List Char := Nat.toDigits 10 number

theorem hex_inj {first second : ℕ} : hex first = hex second ↔ first = second := by
  refine ⟨fun same => ?_, congrArg hex⟩
  have read (n : ℕ) : ofDigits 16 (hex n) = n := by
    rw [hex, ofDigits_leftpad, ofDigits_toDigits_radix (by decide) (le_refl _)]
  rw [← read first, same, read]

theorem decimalText_inj {first second : ℕ} :
    decimalText first = decimalText second ↔ first = second := by
  refine ⟨fun same => ?_, congrArg decimalText⟩
  rw [← ofDigits_toDigits first, ← ofDigits_toDigits second]
  exact congrArg (ofDigits 10) same

theorem isAlphanum_of_mem_hex {number : ℕ} {c : Char} (member : c ∈ hex number) :
    c.isAlphanum = true := by
  rcases List.mem_append.mp member with pad | digit
  · rw [List.eq_of_mem_replicate pad]
    decide
  · exact isAlphanum_of_mem_toDigits (by decide) (le_refl _) digit

theorem isAlphanum_of_mem_toHexString {number : Int64} {c : Char}
    (member : c ∈ toHexString number) : c.isAlphanum = true :=
  isAlphanum_of_mem_hex (List.mem_of_mem_take member)

theorem isAlphanum_of_mem_decimalText {number : ℕ} {c : Char} (member : c ∈ decimalText number) :
    c.isAlphanum = true :=
  isAlphanum_of_mem_toDigits (by decide) (by decide) member

theorem length_hex_le {number width : ℕ} (wide : 2 ≤ width) (below : number < 16 ^ width) :
    (hex number).length ≤ width := by
  have digits := (Nat.length_toDigits_le_iff (by decide) (by omega)).mpr below
  rw [hex, List.length_leftpad]
  exact Nat.max_le.mpr ⟨wide, digits⟩

/-! ## The values of messages -/

/-- The bits of an `int` that has been widened. -/
theorem toNat_int (i : Int32) : (i.toInt64.toUInt64.toNat : ℤ) =
    if i.toInt < 0 then i.toInt + 2 ^ 64 else i.toInt := by
  have widened : i.toInt64.toBitVec.toInt = i.toInt := i.toInt_toInt64
  have cases := BitVec.toInt_eq_toNat_cond i.toInt64.toBitVec
  have bound := i.toInt64.toBitVec.isLt
  change (i.toInt64.toBitVec.toNat : ℤ) = _
  split <;> omega

theorem toHexString_of_nonneg {i : Int32} (nonneg : 0 ≤ i.toInt) :
    toHexString i.toInt64 = hex i.toInt.toNat ∧ (toHexString i.toInt64).length ≤ 8 := by
  have bits : i.toInt64.toUInt64.toNat = i.toInt.toNat := by
    have cases := toNat_int i
    rw [if_neg (not_lt.mpr nonneg)] at cases
    omega
  have bound := i.toInt_lt
  have short : (hex i.toInt.toNat).length ≤ 8 := length_hex_le (by decide) (by omega)
  rw [toHexString, bits, List.take_of_length_le (short.trans (by decide))]
  exact ⟨rfl, short⟩

/-- Of a negative number the text has the nine digits in front. -/
theorem toHexString_of_neg {i : Int32} (negative : i.toInt < 0) :
    toHexString i.toInt64 = Nat.toDigits 16 ((2 ^ 36 + i.toInt / 2 ^ 28).toNat) ∧
      (toHexString i.toInt64).length = 9 := by
  have cases := toNat_int i
  rw [if_pos negative] at cases
  have bound := i.le_toInt
  generalize hbits : i.toInt64.toUInt64.toNat = bits at cases
  have quotient : bits / 16 ^ 7 = (2 ^ 36 + i.toInt / 2 ^ 28).toNat := by omega
  obtain ⟨tail, length, digits⟩ := toDigits_prefix (by decide : 1 < 16) 7
    (by omega : 16 ^ 7 ≤ bits)
  have whole : (Nat.toDigits 16 (bits / 16 ^ 7)).length = 9 := by
    refine le_antisymm ((Nat.length_toDigits_le_iff (by decide) (by decide)).mpr (by omega)) ?_
    refine not_lt.mp fun less => ?_
    have below := (Nat.length_toDigits_le_iff (by decide : 1 < 16) (by decide : 0 < 8)).mp
      (Nat.le_of_lt_succ less)
    omega
  have text : toHexString i.toInt64 = Nat.toDigits 16 (bits / 16 ^ 7) := by
    have unpadded : hex bits = Nat.toDigits 16 bits := by
      rw [hex, List.leftpad, digits, List.length_append, whole, length]
      rfl
    rw [toHexString, hbits, unpadded, digits, List.take_append_of_le_length whole.ge,
      List.take_of_length_le whole.le]
  rw [text, ← quotient]
  exact ⟨rfl, whole⟩

/-- Two numbers that the log does not tell apart. -/
def SameText (first second : ℤ) : Prop :=
  first = second ∨ first < 0 ∧ second < 0 ∧ first / 2 ^ 28 = second / 2 ^ 28

theorem toHexString_eq_iff (first second : Int32) :
    toHexString first.toInt64 = toHexString second.toInt64 ↔
      SameText first.toInt second.toInt := by
  have lengths := @congrArg _ _ (toHexString first.toInt64) (toHexString second.toInt64) List.length
  unfold SameText
  rcases lt_or_ge first.toInt 0 with negative | nonneg
  · obtain ⟨text, length⟩ := toHexString_of_neg negative
    rcases lt_or_ge second.toInt 0 with also | not
    · obtain ⟨other, -⟩ := toHexString_of_neg also
      have low := first.le_toInt
      have below := second.le_toInt
      have inj : Nat.toDigits 16 (2 ^ 36 + first.toInt / 2 ^ 28).toNat =
          Nat.toDigits 16 (2 ^ 36 + second.toInt / 2 ^ 28).toNat ↔
            (2 ^ 36 + first.toInt / 2 ^ 28).toNat = (2 ^ 36 + second.toInt / 2 ^ 28).toNat := by
        refine ⟨fun same => ?_, congrArg _⟩
        have read := congrArg (ofDigits 16) same
        rwa [ofDigits_toDigits_radix (by decide) (le_refl _),
          ofDigits_toDigits_radix (by decide) (le_refl _)] at read
      rw [text, other, inj]
      omega
    · have short := (toHexString_of_nonneg not).2
      refine iff_of_false (fun same => ?_) (by omega)
      have equal := lengths same
      omega
  · obtain ⟨text, short⟩ := toHexString_of_nonneg nonneg
    rcases lt_or_ge second.toInt 0 with negative | also
    · have length := (toHexString_of_neg negative).2
      refine iff_of_false (fun same => ?_) (by omega)
      have equal := lengths same
      omega
    · rw [text, (toHexString_of_nonneg also).1, hex_inj]
      omega

/-! ## Packets -/

def Address.text (a : Address) : List Char :=
  hex a.aClass.code.toNat ++ '.' :: (hex a.channel.toNat ++ '.' :: hex a.address.toNat)

def namedField (name : String) (number : ℕ) : List Char :=
  name.toList ++ (decimalText number ++ [';'])

def Command.text (c : Command) : List Char :=
  '{' :: (namedField "PacketInformation: " (if c.packetInformation then 1 else 0) ++
    (namedField "ProtocolVersion: " c.protocolVersion.toNat ++
      (namedField "RetryCount: " c.retryCount.toNat ++
        (namedField "PacketType: " c.packetType.code.toNat ++
          (namedField "DataType: " c.dataType.code.toNat ++
            ("PacketNumber: ".toList ++ (decimalText c.packetNumber.toNat ++ ['}'])))))))

namespace MessageSet

def label : MessageSetType → List Char
  | .Enum => "Enum ".toList
  | .Variable => "Variable ".toList
  | .LongVariable => "LongVariable ".toList
  | .Structure => "Structure #".toList

/-- The text behind the number: a value, or the size of a structure. -/
def shown (ms : MessageSet) : List Char :=
  match ms.type with
  | .Enum | .Variable | .LongVariable => toHexString ms.value
  | .Structure => decimalText ms.structureData.length

def text (ms : MessageSet) : List Char :=
  label ms.type ++ (toHexString ms.messageNumber.code.toUInt64.toInt64 ++
    (" = ".toList ++ ms.shown))

end MessageSet

def Packet.text (pkt : Packet) : List Char :=
  "#Packet Src:".toList ++ (pkt.sa.text ++ (" Dst:".toList ++ (pkt.da.text ++
    (' ' :: (pkt.command.text ++ '\n' :: ['\n'].intercalate
      (pkt.messages.map fun ms => " > ".toList ++ ms.text))))))

/-! ## What the log tells -/

theorem free_of_isAlphanum {sep : Char} {text : List Char} (plain : sep.isAlphanum = false)
    (all : ∀ c ∈ text, c.isAlphanum = true) : sep ∉ text := fun member => by
  rw [all sep member] at plain
  cases plain

theorem hex_append_inj {sep : Char} (plain : sep.isAlphanum = false) {first second : ℕ}
    {rest more : List Char} : hex first ++ sep :: rest = hex second ++ sep :: more ↔
      first = second ∧ rest = more := by
  rw [append_separated (free_of_isAlphanum plain fun _ => isAlphanum_of_mem_hex)
    (free_of_isAlphanum plain fun _ => isAlphanum_of_mem_hex), hex_inj]

theorem decimalText_append_inj {sep : Char} (plain : sep.isAlphanum = false) {first second : ℕ}
    {rest more : List Char} : decimalText first ++ sep :: rest = decimalText second ++ sep :: more ↔
      first = second ∧ rest = more := by
  rw [append_separated (free_of_isAlphanum plain fun _ => isAlphanum_of_mem_decimalText)
    (free_of_isAlphanum plain fun _ => isAlphanum_of_mem_decimalText), decimalText_inj]

theorem namedField_append_inj {name : String} {first second : ℕ} {rest more : List Char} :
    namedField name first ++ rest = namedField name second ++ more ↔
      first = second ∧ rest = more := by
  unfold namedField
  simp only [List.append_assoc]
  rw [List.append_cancel_left_eq]
  exact decimalText_append_inj (by decide)

theorem Address.text_append_inj {sep : Char} (plain : sep.isAlphanum = false) {a b : Address}
    {rest more : List Char} :
    a.text ++ sep :: rest = b.text ++ sep :: more ↔ a = b ∧ rest = more := by
  obtain ⟨⟨aClass⟩, channel, address⟩ := a
  obtain ⟨⟨otherClass⟩, otherChannel, otherAddress⟩ := b
  unfold Address.text
  simp only [List.append_assoc, List.cons_append]
  rw [hex_append_inj (by decide), hex_append_inj (by decide), hex_append_inj plain,
    Address.mk.injEq, AddressClass.mk.injEq, UInt8.toNat_inj, UInt8.toNat_inj, UInt8.toNat_inj]
  tauto

theorem Command.text_append_inj {c d : Command} {rest more : List Char} :
    c.text ++ rest = d.text ++ more ↔ c = d ∧ rest = more := by
  obtain ⟨information, version, retries, ⟨type⟩, ⟨dataType⟩, number⟩ := c
  obtain ⟨otherInformation, otherVersion, otherRetries, ⟨otherType⟩, ⟨otherDataType⟩,
    otherNumber⟩ := d
  have bit : ((if information then 1 else 0) : ℕ) = (if otherInformation then 1 else 0) ↔
      information = otherInformation := by
    cases information <;> cases otherInformation <;> decide
  unfold Command.text
  simp only [List.append_assoc, List.cons_append, List.cons.injEq, true_and]
  rw [namedField_append_inj, namedField_append_inj, namedField_append_inj, namedField_append_inj,
    namedField_append_inj, List.append_cancel_left_eq, List.nil_append, List.nil_append,
    decimalText_append_inj (by decide), bit, Command.mk.injEq, PacketType.mk.injEq,
    DataType.mk.injEq, UInt8.toNat_inj, UInt8.toNat_inj, UInt8.toNat_inj, UInt8.toNat_inj,
    UInt8.toNat_inj]
  tauto

namespace MessageSet

/-- The type of a message goes with its number, and a value is one of an `int`. -/
structure Decoded (ms : MessageSet) : Prop where
  type : ms.type = getMessageSetType ms.messageNumber
  value : ms.type ≠ .Structure → ∃ i : Int32, ms.value = i.toInt64

def SameShown (first second : MessageSet) : Prop :=
  match first.type with
  | .Enum | .Variable | .LongVariable => SameText first.value.toInt second.value.toInt
  | .Structure => first.structureData.length = second.structureData.length

def Alike (first second : MessageSet) : Prop :=
  first.messageNumber = second.messageNumber ∧ first.SameShown second

theorem label_append_inj {first second : MessageSetType} {rest more : List Char} :
    label first ++ rest = label second ++ more ↔ first = second ∧ rest = more := by
  constructor
  · intro same
    have heads : (label first).head? = (label second).head? := by
      have front := congrArg List.head? same
      cases first <;> cases second <;> exact front
    have types : first = second := by
      cases first <;> cases second <;> first | rfl | exact absurd heads (by decide)
    subst types
    exact ⟨rfl, List.append_cancel_left same⟩
  · rintro ⟨rfl, rfl⟩
    rfl

theorem toHexString_number (number : MessageNumber) :
    toHexString number.code.toUInt64.toInt64 = hex number.code.toNat := by
  have bits : number.code.toUInt64.toInt64.toUInt64.toNat = number.code.toNat := by simp
  have short := length_hex_le (by decide : 2 ≤ 9)
    (number.code.toNat_lt.trans (by decide : 2 ^ 16 < 16 ^ 9))
  rw [toHexString, bits, List.take_of_length_le short]

theorem shown_eq_iff {first second : MessageSet} (decoded : first.Decoded)
    (other : second.Decoded) (types : first.type = second.type) :
    first.shown = second.shown ↔ first.SameShown second := by
  have scalar (plain : first.type ≠ .Structure) :
      toHexString first.value = toHexString second.value ↔
        SameText first.value.toInt second.value.toInt := by
    obtain ⟨i, hi⟩ := decoded.value plain
    obtain ⟨j, hj⟩ := other.value (types ▸ plain)
    rw [hi, hj, toHexString_eq_iff, i.toInt_toInt64, j.toInt_toInt64]
  unfold shown SameShown
  rw [← types]
  cases htype : first.type with
  | Enum => exact scalar (htype ▸ by decide)
  | Variable => exact scalar (htype ▸ by decide)
  | LongVariable => exact scalar (htype ▸ by decide)
  | Structure => exact decimalText_inj

theorem text_eq_iff {first second : MessageSet} (decoded : first.Decoded)
    (other : second.Decoded) : first.text = second.text ↔ first.Alike second := by
  have equals : " = ".toList = ' ' :: "= ".toList := rfl
  unfold text
  rw [label_append_inj, toHexString_number, toHexString_number, equals, List.cons_append,
    List.cons_append, hex_append_inj (by decide), List.append_cancel_left_eq, UInt16.toNat_inj]
  unfold Alike
  constructor
  · rintro ⟨types, number, same⟩
    exact ⟨congrArg MessageNumber.mk number, (shown_eq_iff decoded other types).mp same⟩
  · rintro ⟨number, same⟩
    have types : first.type = second.type := by
      rw [decoded.type, other.type, number]
    exact ⟨types, congrArg MessageNumber.code number, (shown_eq_iff decoded other types).mpr same⟩

/-- A text of a message has no line break. -/
theorem free_text (ms : MessageSet) : '\n' ∉ ms.text := by
  have number : '\n' ∉ toHexString ms.messageNumber.code.toUInt64.toInt64 :=
    free_of_isAlphanum (by decide) fun _ => isAlphanum_of_mem_toHexString
  have shown : '\n' ∉ ms.shown := by
    unfold shown
    split
    · exact free_of_isAlphanum (by decide) fun _ => isAlphanum_of_mem_toHexString
    · exact free_of_isAlphanum (by decide) fun _ => isAlphanum_of_mem_toHexString
    · exact free_of_isAlphanum (by decide) fun _ => isAlphanum_of_mem_toHexString
    · exact free_of_isAlphanum (by decide) fun _ => isAlphanum_of_mem_decimalText
  have front : '\n' ∉ label ms.type := by
    cases ms.type <;> decide
  have equals : '\n' ∉ " = ".toList := by decide
  unfold text
  rw [List.mem_append, List.mem_append, List.mem_append]
  tauto

end MessageSet

/-! ## Decoded packets -/

theorem MessageSet.decoded_of_decode {data : List UInt8} {index capacity : ℕ} {ms : MessageSet}
    (decodes : MessageSet.decode data index capacity = some ms) : ms.Decoded := by
  unfold MessageSet.decode at decodes
  simp only [Option.bind_eq_bind, Option.bind_eq_some_iff, create_type] at decodes
  obtain ⟨first, -, second, -, decodes⟩ := decodes
  split at decodes <;> rename_i type
  · simp only [Option.bind_eq_some_iff, Option.pure_def, Option.some.injEq] at decodes
    obtain ⟨_, _, rfl⟩ := decodes
    exact ⟨rfl, fun _ => ⟨_, rfl⟩⟩
  · simp only [Option.bind_eq_some_iff, Option.pure_def, Option.some.injEq] at decodes
    obtain ⟨_, _, _, _, rfl⟩ := decodes
    exact ⟨rfl, fun _ => ⟨_, rfl⟩⟩
  · simp only [Option.bind_eq_some_iff, Option.pure_def, Option.some.injEq] at decodes
    obtain ⟨_, _, _, _, _, _, _, _, rfl⟩ := decodes
    exact ⟨rfl, fun _ => ⟨_, rfl⟩⟩
  · split at decodes
    · simp only [Option.pure_def, Option.some.injEq] at decodes
      subst decodes
      exact ⟨rfl, fun scalar => absurd type scalar⟩
    · simp only [Option.bind_eq_some_iff, Option.pure_def, Option.some.injEq] at decodes
      obtain ⟨_, _, rfl⟩ := decodes
      exact ⟨rfl, fun scalar => absurd type scalar⟩

theorem Packet.decoded_of_decodeMessages {data : List UInt8} {capacity remaining cursor : ℕ}
    {messages : List MessageSet}
    (decodes : Packet.decodeMessages data capacity remaining cursor = some messages) :
    ∀ ms ∈ messages, ms.Decoded := by
  induction remaining generalizing cursor messages with
  | zero =>
      cases decodes
      exact nofun
  | succ remaining ih =>
      simp only [Packet.decodeMessages, Option.bind_eq_bind, Option.bind_eq_some_iff,
        Option.pure_def, Option.some.injEq] at decodes
      obtain ⟨ms, here, rest, later, rfl⟩ := decodes
      exact List.forall_mem_cons.mpr ⟨MessageSet.decoded_of_decode here, ih later⟩

/-- A check that rejects has not been the last. -/
theorem Packet.passed {check : Prop} [Decidable check] {error : DecodeResult} {pkt : Packet}
    {rest : Option (Except DecodeResult Packet)}
    (result : (if check then pure (.error error) else rest) = some (.ok pkt)) :
    rest = some (.ok pkt) := by
  split at result
  · cases result
  · exact result

/-- A packet that passes the checks consists of the fields behind them. -/
theorem Packet.fields_of_decode {data : List UInt8} {pkt : Packet}
    (decodes : Packet.decode data = some (.ok pkt)) : Packet.decodeFields data = some pkt := by
  unfold Packet.decode at decodes
  obtain ⟨start, -, decodes⟩ := Option.bind_eq_some_iff.mp decodes
  obtain ⟨sizeHigh, -, decodes⟩ := Option.bind_eq_some_iff.mp (passed (passed decodes))
  obtain ⟨sizeLow, -, decodes⟩ := Option.bind_eq_some_iff.mp decodes
  obtain ⟨last, -, decodes⟩ := Option.bind_eq_some_iff.mp (passed decodes)
  obtain ⟨crcHigh, -, decodes⟩ := Option.bind_eq_some_iff.mp (passed decodes)
  obtain ⟨crcLow, -, decodes⟩ := Option.bind_eq_some_iff.mp decodes
  obtain ⟨fields, hfields, decodes⟩ := Option.bind_eq_some_iff.mp (passed decodes)
  cases decodes
  exact hfields

theorem Packet.decoded_of_decode {data : List UInt8} {pkt : Packet}
    (decodes : Packet.decode data = some (.ok pkt)) : ∀ ms ∈ pkt.messages, ms.Decoded := by
  have fields := Packet.fields_of_decode decodes
  simp only [Packet.decodeFields, Option.bind_eq_bind, Option.bind_eq_some_iff, Option.pure_def,
    Option.some.injEq] at fields
  obtain ⟨sa, -, da, -, command, -, capacity, -, messages, hmessages, rfl⟩ := fields
  exact Packet.decoded_of_decodeMessages hmessages

/-- The lines of the messages. -/
theorem Packet.free_lines (pkt : Packet) :
    ∀ line ∈ pkt.messages.map fun ms => " > ".toList ++ ms.text, '\n' ∉ line ∧ line ≠ [] := by
  intro line member
  obtain ⟨ms, -, rfl⟩ := List.mem_map.mp member
  refine ⟨fun broken => ?_, List.append_ne_nil_of_left_ne_nil (by decide) _⟩
  exact (List.mem_append.mp broken).elim (absurd · (by decide)) ms.free_text

theorem lines_eq_iff {messages others : List MessageSet}
    (decoded : ∀ ms ∈ messages, ms.Decoded) (other : ∀ ms ∈ others, ms.Decoded) :
    (messages.map fun ms => " > ".toList ++ ms.text) =
        (others.map fun ms => " > ".toList ++ ms.text) ↔
      List.Forall₂ MessageSet.Alike messages others := by
  induction messages generalizing others with
  | nil =>
      rw [List.map_nil, List.forall₂_nil_left_iff, eq_comm, List.map_eq_nil_iff]
  | cons ms messages ih =>
      obtain ⟨here, decoded⟩ := List.forall_mem_cons.mp decoded
      cases others with
      | nil => exact iff_of_false (List.cons_ne_nil _ _) fun both => nomatch both
      | cons same others =>
          obtain ⟨there, other⟩ := List.forall_mem_cons.mp other
          rw [List.map_cons, List.map_cons, List.cons.injEq, List.append_cancel_left_eq,
            MessageSet.text_eq_iff here there, ih decoded other, List.forall₂_cons]

/-- The log tells apart the packets with different addresses or commands, different numbers of
messages or different values in them, except for negative values with the same first digits and
for structures of the same size. -/
theorem log_tells_apart {data other : List UInt8} {first second : Packet}
    (decodes : Packet.decode data = some (.ok first))
    (otherDecodes : Packet.decode other = some (.ok second)) :
    first.text = second.text ↔ first.sa = second.sa ∧ first.da = second.da ∧
      first.command = second.command ∧
        List.Forall₂ MessageSet.Alike first.messages second.messages := by
  have destination : " Dst:".toList = ' ' :: "Dst:".toList := rfl
  unfold Packet.text
  rw [List.append_cancel_left_eq, destination, List.cons_append, List.cons_append,
    Address.text_append_inj (by decide), List.append_cancel_left_eq,
    Address.text_append_inj (by decide), Command.text_append_inj, List.cons.injEq,
    intercalate_inj (Packet.free_lines first) (Packet.free_lines second)]
  rw [lines_eq_iff (Packet.decoded_of_decode decodes) (Packet.decoded_of_decode otherDecodes)]
  tauto

def meter (value : Int32) : Packet where
  sa := { aClass := ⟨0x10⟩, channel := 0, address := 0 }
  da := { aClass := .broadcastSelfLayer, channel := 0, address := 0xFF }
  command := { dataType := .notification, packetNumber := 7 }
  messages := [
    { messageNumber := ⟨0x8413⟩, type := .LongVariable, content := .long value.toInt64, size := 6 }]

/-- Two readings of the meter that differ, but not in the log. -/
theorem log_tells_apart_meter :
    Packet.decode (meter (-5)).encode = some (.ok (meter (-5))) ∧
      Packet.decode (meter (-6)).encode = some (.ok (meter (-6))) ∧
      meter (-5) ≠ meter (-6) ∧ (meter (-5)).text = (meter (-6)).text := by
  have first : Packet.decode (meter (-5)).encode = some (.ok (meter (-5))) := by decide +kernel
  have second : Packet.decode (meter (-6)).encode = some (.ok (meter (-6))) := by decide +kernel
  have same : SameText (-5) (-6) := .inr (by decide)
  refine ⟨first, second, by decide, (log_tells_apart first second).mpr ⟨rfl, rfl, rfl, ?_⟩⟩
  exact .cons ⟨rfl, same⟩ .nil

end NasaCpp.Protocol
