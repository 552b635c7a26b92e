import NasaCpp.Handler.WireHeader

/-!
# A handler and its own packet

The heat pump confirms a command with the commanded value.  A handler reads the value
of its own packet back exactly if the wire type of its message number can hold it, and
then the command is over.
-/

namespace NasaCpp.Handler

open General Protocol

/-- The values a message of the type can carry to `val_is_`: an unsigned byte, a signed
word, any `int`. -/
def Representable (type : MessageSetType) (val : Int32) : Prop :=
  match type with
  | .Enum => 0 ≤ val.toInt ∧ val.toInt ≤ 255
  | .Variable => -32768 ≤ val.toInt ∧ val.toInt ≤ 32767
  | .LongVariable => True
  | .Structure => False

instance (type : MessageSetType) (val : Int32) : Decidable (Representable type val) := by
  unfold Representable
  cases type <;> infer_instance

/-- The message a receiver reads from a command packet for the value. -/
def echoOf (number : MessageNumber) (val : Int32) : MessageSet :=
  (MessageSet.create number val.toInt64).wire

/-- A byte or a word on the wire is the value reduced by its width. -/
theorem toInt_ofInt_emod (val : Int) {width : Int} (positive : 0 < width)
    (small : width ≤ 65536) : (Int64.ofInt (val % width)).toInt = val % width := by
  have lower := Int.emod_nonneg val (Int.ne_of_gt positive)
  have upper := Int.emod_lt_of_pos val positive
  rw [Int64.toInt_ofInt, show Int64.size = 2 ^ 64 from rfl,
    Int.bmod_eq_of_le (by omega) (by omega)]

theorem received_enum {handler : MsgHandler} (type : handler.msgSetType = .Enum) (val : Int32) :
    (handler.received (echoOf handler.messageNumber val)).toInt = val.toInt % 256 := by
  have value : (echoOf handler.messageNumber val).value =
      MessageSet.wireValue .Enum val.toInt64 := by
    rw [← type]
    rfl
  unfold MsgHandler.received
  rw [type]
  dsimp only
  rw [value, Int64.toInt_toInt32, MessageSet.wireValue, Int32.toInt_toInt64,
    toInt_ofInt_emod _ (by decide) (by decide), Int.bmod_eq_of_le (by omega) (by omega)]

theorem received_variable {handler : MsgHandler} (type : handler.msgSetType = .Variable)
    (val : Int32) :
    (handler.received (echoOf handler.messageNumber val)).toInt = val.toInt.bmod 65536 := by
  have value : (echoOf handler.messageNumber val).value =
      MessageSet.wireValue .Variable val.toInt64 := by
    rw [← type]
    rfl
  unfold MsgHandler.received
  rw [type]
  dsimp only
  rw [value, Int16.toInt_toInt32, Int64.toInt_toInt16, MessageSet.wireValue, Int32.toInt_toInt64,
    toInt_ofInt_emod _ (by decide) (by decide)]
  exact Int.emod_bmod val.toInt 65536

theorem received_longVariable {handler : MsgHandler} (type : handler.msgSetType = .LongVariable)
    (val : Int32) : (handler.received (echoOf handler.messageNumber val)).toInt = val.toInt := by
  have lower := val.le_toInt
  have upper := val.toInt_lt
  have residue : val.toInt.bmod (2 ^ 32) = val.toInt := Int32.toInt_bmod val
  have wide : val.toInt.bmod (2 ^ 64) = val.toInt := Int.bmod_eq_of_le (by omega) (by omega)
  have value : (echoOf handler.messageNumber val).value =
      MessageSet.wireValue .LongVariable val.toInt64 := by
    rw [← type]
    rfl
  unfold MsgHandler.received
  rw [type]
  dsimp only
  rw [value, Int64.toInt_toInt32, MessageSet.wireValue, Int32.toInt_toInt64, residue,
    Int64.toInt_ofInt, show Int64.size = 2 ^ 64 from rfl, wide, residue]

/-- A handler reads the value it sent exactly if the wire type can hold it. -/
theorem received_echo_iff {handler : MsgHandler} (scalar : handler.msgSetType ≠ .Structure)
    (val : Int32) :
    handler.received (echoOf handler.messageNumber val) = val ↔
      Representable handler.msgSetType val := by
  rw [← Int32.toInt_inj]
  cases type : handler.msgSetType with
  | Enum =>
      rw [received_enum type]
      simp only [Representable]
      omega
  | Variable =>
      have lower := Int.le_bmod (x := val.toInt) (m := 65536) (by decide)
      have upper := Int.bmod_lt (x := val.toInt) (m := 65536) (by decide)
      rw [received_variable type]
      constructor
      · intro same
        simp only [Representable]
        omega
      · intro ⟨low, high⟩
        exact Int.bmod_eq_of_le (by omega) (by omega)
  | LongVariable =>
      rw [received_longVariable type]
      exact iff_of_true rfl trivial
  | Structure => exact absurd type scalar

/-- The confirmation of a representable command ends it. -/
theorem updateValue_echo {handler : MsgHandler}
    (representable : Representable handler.msgSetType handler.valNew) :
    handler.updateValue (echoOf handler.messageNumber handler.valNew) =
      { handler with valIs := handler.valNew, valNew := intMax } := by
  have scalar : handler.msgSetType ≠ .Structure := by
    intro structured
    rw [structured] at representable
    exact representable
  have same := (received_echo_iff scalar handler.valNew).mpr representable
  rcases handler.updateValue_cases (echoOf handler.messageNumber handler.valNew) with
    ⟨other, -⟩ | ⟨-, -, hnext⟩ | ⟨-, other, -⟩
  · exact absurd rfl other
  · rw [hnext, same]
  · exact absurd same other

end NasaCpp.Handler
