import NasaCpp.Protocol.Frame

/-!
# Values on the wire

The bytes `MessageSet.encode` writes for a scalar message are the low bytes of
its value, and `MessageSet.decode` reads them back as an unsigned byte, an
unsigned sixteen-bit word or a signed thirty-two-bit word.
-/

namespace NasaCpp.Protocol.MessageSet

/-- The value a scalar message of the given type has after a trip over the wire:
reduced modulo 2^8 or 2^16, or to the signed 32-bit residue. -/
def wireValue (type : MessageSetType) (value : Int64) : Int64 :=
  match type with
  | .Enum => .ofInt (value.toInt % 256)
  | .Variable => .ofInt (value.toInt % 65536)
  | .LongVariable => .ofInt (value.toInt.bmod (2 ^ 32))
  | .Structure => value

/-! ## The bytes written -/

/-- Masking and shifting down a byte selects it. -/
theorem window_eq {shift : Nat} {mask : BitVec 64} (value : BitVec 64)
    (open' : ∀ i < 8, mask.getLsbD (shift + i) = true) (inside : shift + 8 ≤ 64) :
    ((value &&& mask).sshiftRight shift).setWidth 8 = value.extractLsb' shift 8 := by
  apply BitVec.eq_of_getLsbD_eq
  intro i hi
  rw [BitVec.getLsbD_setWidth, BitVec.getLsbD_sshiftRight, BitVec.getLsbD_extractLsb',
    BitVec.getLsbD_and, open' i hi]
  simp [hi, show shift + i < 64 by omega, show ¬ 64 ≤ i by omega]

/-- The byte of `value` whose lowest bit is bit `shift`. -/
def byteAt (value : Int64) (shift : Nat) : UInt8 := ⟨value.toBitVec.extractLsb' shift 8⟩

theorem toNat_byteAt (value : Int64) (shift : Nat) :
    (byteAt value shift).toNat = value.toBitVec.toNat / 2 ^ shift % 256 := by
  change (value.toBitVec.extractLsb' shift 8).toNat = _
  rw [BitVec.extractLsb'_toNat, Nat.shiftRight_eq_div_pow]

theorem byteOf_masked (value mask : Int64) (shift : Nat) (narrow : Int64 → Int64)
    (hnarrow : ∀ word : Int64, (narrow word).toBitVec = word.toBitVec.sshiftRight shift)
    (open' : ∀ i < 8, mask.toBitVec.getLsbD (shift + i) = true) (inside : shift + 8 ≤ 64) :
    byteOf (narrow (value &&& mask)) = byteAt value shift := by
  apply UInt8.toBitVec_inj.mp
  change ((narrow (value &&& mask)).toBitVec).setWidth 8 = _
  rw [hnarrow, Int64.toBitVec_and]
  exact window_eq _ open' inside

theorem byteOf_eq (value : Int64) : byteOf value = byteAt value 0 := by
  apply UInt8.toBitVec_inj.mp
  change value.toBitVec.setWidth 8 = value.toBitVec.extractLsb' 0 8
  rw [← BitVec.setWidth_eq_extractLsb' (by decide)]

theorem byteOf_shiftRight (value : Int64) : byteOf (value >>> 8) &&& 0xff = byteAt value 8 := by
  have whole : value &&& -1 = value := Int64.and_neg_one
  have masked := byteOf_masked value (-1) 8 (· >>> 8) (fun _ => rfl) (by decide) (by decide)
  rw [whole] at masked
  rw [masked]
  apply UInt8.toBitVec_inj.mp
  exact BitVec.and_allOnes

theorem byteOf_low (value : Int64) : byteOf (value &&& 0xff) = byteAt value 0 :=
  byteOf_masked value 0xff 0 id (fun _ => BitVec.sshiftRight_zero.symm) (by decide) (by decide)

def valueBytes (type : MessageSetType) (value : Int64) : List UInt8 :=
  match type with
  | .Enum => [byteAt value 0]
  | .Variable => [byteAt value 8, byteAt value 0]
  | .LongVariable => [byteAt value 24, byteAt value 16, byteAt value 8, byteAt value 0]
  | .Structure => []

def numberBytes (number : MessageNumber) : List UInt8 :=
  [((number.code >>> 8) &&& 0xff).toUInt8, (number.code &&& 0xff).toUInt8]

theorem encode_scalar {msg : MessageSet} (scalar : msg.type ≠ .Structure) :
    msg.encode = numberBytes msg.messageNumber ++ valueBytes msg.type msg.value := by
  unfold encode numberBytes valueBytes
  cases htype : msg.type with
  | Enum => rw [byteOf_eq]
  | Variable =>
      dsimp only
      rw [byteOf_shiftRight, byteOf_low]
  | LongVariable =>
      dsimp only
      rw [byteOf_masked _ 0xff000000 24 (· >>> 24) (fun _ => rfl) (by decide) (by decide),
        byteOf_masked _ 0x00ff0000 16 (· >>> 16) (fun _ => rfl) (by decide) (by decide),
        byteOf_masked _ 0x0000ff00 8 (· >>> 8) (fun _ => rfl) (by decide) (by decide), byteOf_low]
  | Structure => exact absurd htype scalar

theorem numberOf_numberBytes (number : MessageNumber) :
    numberOf ((number.code >>> 8) &&& 0xff).toUInt8 (number.code &&& 0xff).toUInt8 = number := by
  obtain ⟨code⟩ := number
  have bound := code.toNat_lt
  have mask (n : Nat) : n &&& 255 = n % 256 := Nat.and_two_pow_sub_one_eq_mod n 8
  unfold numberOf
  congr 1
  apply UInt16.toNat.inj
  simp [Nat.shiftRight_eq_div_pow, mask]
  omega

theorem numberBytes_numberOf (first second : UInt8) :
    numberBytes (numberOf first second) = [first, second] := by
  have bound := first.toNat_lt
  have bound' := second.toNat_lt
  have mask (n : Nat) : n &&& 255 = n % 256 := Nat.and_two_pow_sub_one_eq_mod n 8
  unfold numberBytes numberOf
  congr 1
  · apply UInt8.toNat.inj
    simp [Nat.shiftRight_eq_div_pow, mask]
    omega
  · congr 1
    apply UInt8.toNat.inj
    simp [mask]

/-! ## The values read -/

@[simp] theorem toNat_intOf (byte : UInt8) : (intOf byte).toBitVec.toNat = byte.toNat := by
  change (byte.toBitVec.setWidth 32).toNat = _
  rw [BitVec.toNat_setWidth, Nat.mod_eq_of_lt (Nat.lt_of_lt_of_le byte.toBitVec.isLt (by decide))]
  rfl

/-- Widening an `int` keeps its value, which is the signed residue of its bits. -/
theorem toInt_toInt64 (word : Int32) :
    word.toInt64.toInt = (word.toBitVec.toNat : Int).bmod (2 ^ 32) := by
  change (word.toBitVec.signExtend 64).toInt = _
  rw [BitVec.toInt_signExtend_of_le (by decide), BitVec.toInt_eq_toNat_bmod]

theorem toInt_enumValue (byte : UInt8) : (enumValue byte).toInt = byte.toNat := by
  have bound := byte.toNat_lt
  rw [enumValue, toInt_toInt64, toNat_intOf, Int.bmod_eq_of_le (by omega) (by omega)]

theorem toInt_variableValue (high low : UInt8) :
    (variableValue high low).toInt = (field high low : Int) := by
  have boundHigh := high.toNat_lt
  have boundLow := low.toNat_lt
  have bits : (intOf high <<< 8 ||| intOf low).toBitVec.toNat = field high low := by
    change ((intOf high).toBitVec <<< 8 ||| (intOf low).toBitVec).toNat = _
    rw [BitVec.toNat_or, BitVec.toNat_shiftLeft, toNat_intOf, toNat_intOf, field,
      Nat.mod_eq_of_lt (by rw [Nat.shiftLeft_eq]; omega)]
  rw [variableValue, toInt_toInt64, bits, field_eq, Int.bmod_eq_of_le (by omega) (by omega)]

def longField (b3 b2 b1 b0 : UInt8) : Nat :=
  b3.toNat * 2 ^ 24 + b2.toNat * 2 ^ 16 + b1.toNat * 2 ^ 8 + b0.toNat

theorem toInt_longVariableValue (b3 b2 b1 b0 : UInt8) :
    (longVariableValue b3 b2 b1 b0).toInt = (longField b3 b2 b1 b0 : Int).bmod (2 ^ 32) := by
  have bound3 := b3.toNat_lt
  have bound2 := b2.toNat_lt
  have bound1 := b1.toNat_lt
  have bound0 := b0.toNat_lt
  have bits : (intOf b3 <<< 24 ||| intOf b2 <<< 16 ||| intOf b1 <<< 8 ||| intOf b0).toBitVec.toNat =
      longField b3 b2 b1 b0 := by
    change ((intOf b3).toBitVec <<< 24 ||| (intOf b2).toBitVec <<< 16 |||
      (intOf b1).toBitVec <<< 8 ||| (intOf b0).toBitVec).toNat = _
    simp only [BitVec.toNat_or, BitVec.toNat_shiftLeft, toNat_intOf]
    rw [Nat.mod_eq_of_lt (by rw [Nat.shiftLeft_eq]; omega),
      Nat.mod_eq_of_lt (by rw [Nat.shiftLeft_eq]; omega),
      Nat.mod_eq_of_lt (by rw [Nat.shiftLeft_eq]; omega), Nat.or_assoc, Nat.or_assoc,
      ← Nat.shiftLeft_add_eq_or_of_lt (show b0.toNat < 2 ^ 8 by omega),
      ← Nat.shiftLeft_add_eq_or_of_lt (show b1.toNat <<< 8 + b0.toNat < 2 ^ 16 by
        rw [Nat.shiftLeft_eq]; omega),
      ← Nat.shiftLeft_add_eq_or_of_lt
        (show b2.toNat <<< 16 + (b1.toNat <<< 8 + b0.toNat) < 2 ^ 24 by
          simp only [Nat.shiftLeft_eq]; omega)]
    simp only [Nat.shiftLeft_eq, longField]
    omega
  rw [longVariableValue, toInt_toInt64, bits]

/-! ## There and back -/

theorem enumValue_byteAt (value : Int64) :
    enumValue (byteAt value 0) = wireValue .Enum value := by
  apply Int64.toInt_inj.mp
  have signed : value.toInt = _ := BitVec.toInt_eq_toNat_cond value.toBitVec
  have small : value.toInt % 256 = (value.toBitVec.toNat % 256 : Nat) := by
    split at signed <;> omega
  rw [toInt_enumValue, toNat_byteAt, wireValue, small, Int64.toInt_ofInt,
    show Int64.size = 2 ^ 64 from rfl, Int.bmod_eq_of_le (by omega) (by omega)]
  simp

theorem variableValue_byteAt (value : Int64) :
    variableValue (byteAt value 8) (byteAt value 0) = wireValue .Variable value := by
  apply Int64.toInt_inj.mp
  have signed : value.toInt = _ := BitVec.toInt_eq_toNat_cond value.toBitVec
  have small : value.toInt % 65536 = (value.toBitVec.toNat % 65536 : Nat) := by
    split at signed <;> omega
  rw [toInt_variableValue, field_eq, toNat_byteAt, toNat_byteAt, wireValue, small,
    Int64.toInt_ofInt, show Int64.size = 2 ^ 64 from rfl,
    Int.bmod_eq_of_le (by omega) (by omega)]
  omega

theorem longVariableValue_byteAt (value : Int64) :
    longVariableValue (byteAt value 24) (byteAt value 16) (byteAt value 8) (byteAt value 0) =
      wireValue .LongVariable value := by
  apply Int64.toInt_inj.mp
  have low : longField (byteAt value 24) (byteAt value 16) (byteAt value 8) (byteAt value 0) =
      value.toBitVec.toNat % 2 ^ 32 := by
    simp only [longField, toNat_byteAt]
    omega
  have signed : value.toInt = (value.toBitVec.toNat : Int).bmod (2 ^ 64) :=
    BitVec.toInt_eq_toNat_bmod _
  have residue : ((value.toBitVec.toNat % 2 ^ 32 : Nat) : Int).bmod (2 ^ 32) =
      value.toInt.bmod (2 ^ 32) := by
    rw [signed, Int.bmod_bmod_of_dvd (by decide), Int.natCast_mod, Int.emod_bmod]
  have above := Int.bmod_lt (x := value.toInt) (m := 2 ^ 32) (by decide)
  have below := Int.le_bmod (x := value.toInt) (m := 2 ^ 32) (by decide)
  rw [toInt_longVariableValue, low, residue, wireValue, Int64.toInt_ofInt,
    show Int64.size = 2 ^ 64 from rfl,
    Int.bmod_eq_of_le (n := value.toInt.bmod (2 ^ 32)) (by omega) (by omega)]

end NasaCpp.Protocol.MessageSet
