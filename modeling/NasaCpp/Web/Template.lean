import Mathlib.Algebra.Order.Field.Rat
import NasaCpp.General.Numeral
import NasaCpp.General.Rounding

/-!
# Scale factors in templates

`Transform` of the web client finds a factor in a Jinja template with the regular
expression `value\s*(?:\|\s*float\s*)?\)?\s*([*/])\s*([0-9.]+)`.  Its parts read
disjoint characters, so the first way to match is the only one and the expression is
read from left to right.  Floats are exact rationals here; infinities, NaN and digits
beyond ASCII are left out of their texts.
-/

namespace NasaCpp.Web

open General

/-! ## Texts -/

/-- `str.isspace`, also the class `\s`. -/
def isSpace (c : Char) : Bool :=
  let code := c.toNat
  (9 ≤ code ∧ code ≤ 13) ∨ (28 ≤ code ∧ code ≤ 32) ∨ code = 0x85 ∨ code = 0xA0 ∨ code = 0x1680 ∨
    (0x2000 ≤ code ∧ code ≤ 0x200A) ∨ code = 0x2028 ∨ code = 0x2029 ∨ code = 0x202F ∨
    code = 0x205F ∨ code = 0x3000

def skipSpace (text : List Char) : List Char := text.dropWhile isSpace

def strip (text : List Char) : List Char := (skipSpace (skipSpace text).reverse).reverse

def digits (text : List Char) : List Char × List Char := text.span Char.isDigit

/-- An exponent, which ends the text. -/
def exponent (text : List Char) : Option ℤ :=
  let (negative, text) := Numeral.sign text
  let (number, rest) := digits text
  if number.isEmpty ∨ !rest.isEmpty then none
  else some (if negative then -(Numeral.ofDigits 10 number : ℤ) else Numeral.ofDigits 10 number)

/-- Digits with an optional point and an optional exponent. -/
def unsignedFloat (text : List Char) : Option ℚ :=
  let (whole, rest) := digits text
  let (fraction, rest) :=
    match rest with
    | '.' :: rest => digits rest
    | rest => ([], rest)
  if whole.isEmpty ∧ fraction.isEmpty then none
  else
    let mantissa : ℚ := Numeral.ofDigits 10 (whole ++ fraction) / 10 ^ fraction.length
    match rest with
    | [] => some mantissa
    | e :: rest =>
        if e = 'e' ∨ e = 'E' then (exponent rest).map fun power => mantissa * 10 ^ power
        else none

/-- The text without underscores, which stand between digits; `none` if one does not. -/
def ungrouped (last : Char) : List Char → Option (List Char)
  | [] => if last = '_' then none else some []
  | c :: text =>
      if c = '_' then
        if last.isDigit then ungrouped c text else none
      else if last = '_' ∧ c.isDigit = false then none
      else (ungrouped c text).map (c :: ·)

/-- `float(text)`; `none` is a `ValueError`. -/
def floatOf (text : List Char) : Option ℚ := do
  let text ← ungrouped ' ' (strip text)
  let (negative, text) := Numeral.sign text
  let value ← unsignedFloat text
  return if negative then -value else value

example : floatOf "1_0.5e-1".toList = some (21 / 20) ∧ floatOf "1__0".toList = none := by
  decide +kernel

/-! ## Templates -/

def behind : List Char → List Char → Option (List Char)
  | [], text => some text
  | c :: cs, d :: text => if c = d then behind cs text else none
  | _ :: _, [] => none

/-- `(?:\|\s*float\s*)?`. -/
def skipFloat (text : List Char) : List Char :=
  match text with
  | '|' :: rest =>
      match behind "float".toList (skipSpace rest) with
      | some rest => skipSpace rest
      | none => text
  | _ => text

/-- `\)?`. -/
def skipParen : List Char → List Char
  | ')' :: text => text
  | text => text

/-- `[0-9.]`. -/
def isNumberChar (c : Char) : Bool := c.isDigit || c == '.'

/-- `\s*([0-9.]+)` behind an operator: both groups, if the operator is one. -/
def matchNumber (op : Char) (text : List Char) : Option (Char × List Char) :=
  let number := (skipSpace text).takeWhile isNumberChar
  if (op = '*' ∨ op = '/') ∧ !number.isEmpty then some (op, number) else none

/-- A match of the expression at the front: the operator and the number. -/
def matchScale (text : List Char) : Option (Char × List Char) := do
  let text ← behind "value".toList text
  match skipSpace (skipParen (skipFloat (skipSpace text))) with
  | [] => none
  | op :: text => matchNumber op text

/-- `re.search`: the first match. -/
def searchScale : List Char → Option (Char × List Char)
  | [] => none
  | c :: text =>
      match matchScale (c :: text) with
      | some found => some found
      | none => searchScale text

/-- A match of `\|\s*int` at the front. -/
def matchInt : List Char → Bool
  | '|' :: text => (behind "int".toList (skipSpace text)).isSome
  | _ => false

def searchInt : List Char → Bool
  | [] => false
  | c :: text => matchInt (c :: text) || searchInt text

structure Transform where
  factor : ℚ := 1
  toInt : Bool := false
  deriving DecidableEq, Repr

namespace Transform

/-- `Transform.parse`; `none` is an exception: the number is malformed, or zero in a
quotient. -/
def parse (template : Option String) : Option Transform :=
  match template with
  | none => some {}
  | some template =>
      match searchScale template.toList with
      | none => some {}
      | some (op, number) => do
          let number ← floatOf number
          if op = '/' ∧ number = 0 then none
          else
            some
              { factor := if op = '*' then number else 1 / number
                toInt := searchInt template.toList }

def apply (transform : Transform) (value : ℚ) : ℚ :=
  let out := value * transform.factor
  if transform.toInt then Rounding.trunc out else Rounding.roundDecimals 6 out

end Transform

end NasaCpp.Web
