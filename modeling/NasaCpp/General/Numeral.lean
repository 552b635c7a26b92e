import Mathlib.Data.List.TakeWhile

/-!
# Reading integers in the C way

`strtol` skips white space, takes a sign, decides on the radix by a prefix and
reads as many digits as there are.  What `std::to_string` writes for an integer it
reads back in radix zero, where the text itself decides on the radix.
-/

namespace NasaCpp.General.Numeral

/-- `isspace` in the C locale. -/
def isSpace (c : Char) : Bool := c = ' ' ∨ (9 ≤ c.toNat ∧ c.toNat ≤ 13)

def digitVal (c : Char) : Option Nat :=
  if '0' ≤ c ∧ c ≤ '9' then some (c.toNat - 48)
  else if 'a' ≤ c ∧ c ≤ 'z' then some (c.toNat - 87)
  else if 'A' ≤ c ∧ c ≤ 'Z' then some (c.toNat - 55)
  else none

def isDigitOf (base : Nat) (c : Char) : Bool := (digitVal c).any (· < base)

def ofDigits (base : Nat) (digits : List Char) : Nat :=
  digits.foldl (fun acc c => base * acc + (digitVal c).getD 0) 0

def sign : List Char → Bool × List Char
  | '-' :: text => (true, text)
  | '+' :: text => (false, text)
  | text => (false, text)

/-- The radix in force and the digits behind its prefix.  A prefix `0x` counts only
before a digit, and radix zero means ten unless there is a prefix. -/
def radix (base : Nat) : List Char → Nat × List Char
  | '0' :: x :: d :: text =>
      if (base = 0 ∨ base = 16) ∧ (x = 'x' ∨ x = 'X') ∧ isDigitOf 16 d then (16, d :: text)
      else (if base = 0 then 8 else base, '0' :: x :: d :: text)
  | '0' :: text => (if base = 0 then 8 else base, '0' :: text)
  | text => (if base = 0 then 10 else base, text)

def magnitude (base : Nat) (text : List Char) : Option Nat :=
  let (base, text) := radix base text
  let digits := text.takeWhile (isDigitOf base)
  if digits.isEmpty then none else some (ofDigits base digits)

/-- `strtol` before its result is narrowed; `none` if there is no number. -/
def strtol (base : Nat) (text : List Char) : Option Int :=
  let (negative, text) := sign (text.dropWhile isSpace)
  (magnitude base text).map fun (n : Nat) => if negative then -(n : Int) else (n : Int)

/-- The text `strtol` leaves unread behind the digits of a number. -/
def unread (base : Nat) (text : List Char) : List Char :=
  let (base, digits) := radix base (sign (text.dropWhile isSpace)).2
  digits.dropWhile (isDigitOf base)

/-! ## Decimal text -/

/-- The digits `std::to_string` writes for an integer. -/
def decimal (z : Int) : List Char :=
  if z < 0 then '-' :: Nat.toDigits 10 z.natAbs else Nat.toDigits 10 z.natAbs

theorem toList_toString (z : Int) : (toString z).toList = decimal z := by
  cases z with
  | ofNat n =>
      have nonneg : ¬ Int.ofNat n < 0 := Int.not_lt.mpr (Int.natCast_nonneg n)
      rw [decimal, if_neg nonneg]
      change (Nat.repr n).toList = _
      rw [Nat.toList_repr]
      rfl
  | negSucc n =>
      rw [decimal, if_pos (Int.negSucc_lt_zero n)]
      change ("-" ++ Nat.repr (n + 1)).toList = _
      rw [String.toList_append, Nat.toList_repr]
      rfl

theorem digitVal_of_isDigit {c : Char} (digit : c.isDigit = true) :
    digitVal c = some (c.toNat - 48) := by
  have range : '0' ≤ c ∧ c ≤ '9' := by
    simpa [Char.isDigit, Char.le_def] using digit
  rw [digitVal, if_pos range]

theorem isDigitOf_of_isDigit {c : Char} (digit : c.isDigit = true) : isDigitOf 10 c = true := by
  have upper : c.toNat ≤ 57 := by
    simp only [Char.isDigit, Bool.and_eq_true, decide_eq_true_eq] at digit
    exact digit.2
  rw [isDigitOf, digitVal_of_isDigit digit, Option.any_some, decide_eq_true_eq]
  omega

theorem isDigit_of_mem_toDigits {n : Nat} {c : Char} (hmem : c ∈ Nat.toDigits 10 n) :
    c.isDigit = true :=
  Nat.isDigit_of_mem_toDigits (by decide) (by decide) hmem

theorem ofDigits_toDigits (n : Nat) : ofDigits 10 (Nat.toDigits 10 n) = n := by
  have same : ∀ (digits : List Char) (acc : Nat), (∀ c ∈ digits, c.isDigit = true) →
      digits.foldl (fun acc c => 10 * acc + (digitVal c).getD 0) acc =
        Nat.ofDigitChars 10 digits acc := by
    intro digits
    induction digits with
    | nil => exact fun acc _ => Nat.ofDigitChars_nil.symm
    | cons c digits ih =>
        intro acc all
        rw [List.foldl_cons, digitVal_of_isDigit (all c List.mem_cons_self),
          Nat.ofDigitChars_cons, ih _ fun d hmem => all d (List.mem_cons_of_mem c hmem)]
        rfl
  rw [ofDigits, same _ 0 fun c hmem => isDigit_of_mem_toDigits hmem, Nat.ofDigitChars_ten_toDigits]

/-- The first digit of a positive number is not zero. -/
theorem toDigits_cons {n : Nat} (positive : 0 < n) :
    ∃ c digits, Nat.toDigits 10 n = c :: digits ∧ c ≠ '0' := by
  induction n using Nat.strongRecOn with
  | ind n ih =>
      by_cases small : n < 10
      · refine ⟨n.digitChar, [], Nat.toDigits_of_lt_base small, fun zero => ?_⟩
        have value := Nat.toNat_digitChar_sub_48_of_lt_ten small
        rw [zero] at value
        exact absurd value (Nat.ne_of_lt positive)
      · obtain ⟨c, digits, hdigits, nonzero⟩ := ih (n / 10) (by omega) (by omega)
        refine ⟨c, digits ++ [(n % 10).digitChar], ?_, nonzero⟩
        rw [Nat.toDigits_of_base_le (by decide) (by omega), hdigits, List.cons_append]

theorem radix_of_head_ne_zero {c : Char} {text : List Char} (nonzero : c ≠ '0') :
    radix 0 (c :: text) = (10, c :: text) := by
  unfold radix
  split
  · rename_i heq
    exact absurd (List.cons.inj heq).1 nonzero
  · rename_i heq
    exact absurd (List.cons.inj heq).1 nonzero
  · rfl

/-- In radix zero the decimal digits of a number are read in radix ten, since a
leading zero is the number zero. -/
theorem magnitude_toDigits (n : Nat) : magnitude 0 (Nat.toDigits 10 n) = some n := by
  rcases Nat.eq_zero_or_pos n with rfl | positive
  · decide
  obtain ⟨c, digits, hdigits, nonzero⟩ := toDigits_cons positive
  have all : ∀ d ∈ Nat.toDigits 10 n, isDigitOf 10 d = true :=
    fun d hmem => isDigitOf_of_isDigit (isDigit_of_mem_toDigits hmem)
  have value := ofDigits_toDigits n
  rw [hdigits] at all value ⊢
  rw [magnitude, radix_of_head_ne_zero nonzero]
  dsimp only
  rw [List.takeWhile_eq_self_iff.mpr all, value]
  rfl

theorem sign_toDigits (n : Nat) : sign (Nat.toDigits 10 n) = (false, Nat.toDigits 10 n) := by
  have digits := fun c => @isDigit_of_mem_toDigits n c
  cases htext : Nat.toDigits 10 n with
  | nil => rfl
  | cons c text =>
      rw [htext] at digits
      have digit := digits c List.mem_cons_self
      unfold sign
      split
      · rename_i heq
        cases heq
        cases digit
      · rename_i heq
        cases heq
        cases digit
      · rfl

theorem dropWhile_isSpace_toDigits (n : Nat) :
    (Nat.toDigits 10 n).dropWhile isSpace = Nat.toDigits 10 n := by
  have digits := fun c => @isDigit_of_mem_toDigits n c
  cases htext : Nat.toDigits 10 n with
  | nil => rfl
  | cons c text =>
      rw [htext] at digits
      have digit := digits c List.mem_cons_self
      have lower : 48 ≤ c.toNat := by
        simp only [Char.isDigit, Bool.and_eq_true, decide_eq_true_eq] at digit
        exact digit.1
      have visible : isSpace c = false := by
        rw [isSpace, decide_eq_false_iff_not]
        rintro (rfl | ⟨-, upper⟩)
        · exact absurd lower (by decide)
        · omega
      rw [List.dropWhile_cons_of_neg (by rw [visible]; decide)]

/-- The decimal text of an integer is read back as that integer. -/
theorem strtol_decimal (z : Int) : strtol 0 (decimal z) = some z := by
  unfold strtol
  by_cases negative : z < 0
  · have space : isSpace '-' = false := by decide
    rw [decimal, if_pos negative, List.dropWhile_cons_of_neg (by rw [space]; decide)]
    simp only [sign, magnitude_toDigits, Option.map_some, if_true, Option.some.injEq]
    omega
  · rw [decimal, if_neg negative, dropWhile_isSpace_toDigits, sign_toDigits]
    simp only [magnitude_toDigits, Option.map_some, Bool.false_eq_true, if_false,
      Option.some.injEq]
    omega

end NasaCpp.General.Numeral
