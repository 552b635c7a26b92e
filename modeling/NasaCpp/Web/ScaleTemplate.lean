import NasaCpp.Web.Template

/-!
# The scale templates of the message lists

The lists scale a value by an integer in two ways: divided for display and multiplied
back, or the other way round.  The expression is found behind any text without a `v`,
and what a pair of templates does to an integer is undone by its command template and
the rounding in `build_command`.
-/

namespace NasaCpp.Web

open General

/-! ## Numbers -/

/-- A digit is not white space. -/
theorem isSpace_of_isDigit {c : Char} (digit : c.isDigit = true) : isSpace c = false := by
  simp only [Char.isDigit, Bool.and_eq_true, decide_eq_true_eq] at digit
  have lower : 48 ≤ c.toNat := digit.1
  have upper : c.toNat ≤ 57 := digit.2
  simp only [isSpace, decide_eq_false_iff_not]
  omega

/-- Text without white space at its ends is left alone. -/
theorem strip_of_visible {c d : Char} {text : List Char} (first : isSpace c = false)
    (last : isSpace d = false) (hlast : (c :: text).getLast? = some d) :
    strip (c :: text) = c :: text := by
  obtain ⟨front, hfront⟩ := List.getLast?_eq_some_iff.mp hlast
  rw [strip, skipSpace, skipSpace, List.dropWhile_cons_of_neg (by rw [first]; decide), hfront,
    List.reverse_append, List.reverse_singleton, List.singleton_append,
    List.dropWhile_cons_of_neg (by rw [last]; decide)]
  simp

theorem strip_decimal (z : ℤ) : strip (Numeral.decimal z) = Numeral.decimal z := by
  have digits : ∀ c ∈ Nat.toDigits 10 z.natAbs, isSpace c = false :=
    fun c hmem => isSpace_of_isDigit (Numeral.isDigit_of_mem_toDigits hmem)
  have visible : ∀ c ∈ Numeral.decimal z, isSpace c = false := by
    intro c hmem
    rw [Numeral.decimal] at hmem
    split at hmem
    · rcases List.mem_cons.mp hmem with rfl | hmem
      · decide
      · exact digits c hmem
    · exact digits c hmem
  cases htext : Numeral.decimal z with
  | nil => rfl
  | cons c text =>
      rw [htext] at visible
      exact strip_of_visible (visible c List.mem_cons_self) (visible _ (List.getLast_mem (by simp)))
        (List.getLast?_eq_some_getLast (by simp))

/-- The digits of a number are all there is to read. -/
theorem unsignedFloat_toDigits (n : ℕ) : unsignedFloat (Nat.toDigits 10 n) = some (n : ℚ) := by
  have all : ∀ c ∈ Nat.toDigits 10 n, c.isDigit = true :=
    fun c hmem => Numeral.isDigit_of_mem_toDigits hmem
  have span : digits (Nat.toDigits 10 n) = (Nat.toDigits 10 n, []) := by
    rw [digits, List.span_eq_takeWhile_dropWhile, List.takeWhile_eq_self_iff.mpr all,
      List.dropWhile_eq_nil_iff.mpr all]
  have nonempty : (Nat.toDigits 10 n).isEmpty = false := by
    rw [List.isEmpty_eq_false_iff]
    exact Nat.toDigits_ne_nil
  unfold unsignedFloat
  rw [span]
  simp [nonempty, Numeral.ofDigits_toDigits]

theorem ungrouped_eq_self {last : Char} {text : List Char} (plain : last ≠ '_')
    (none : '_' ∉ text) : ungrouped last text = some text := by
  induction text generalizing last with
  | nil => exact if_neg plain
  | cons c text ih =>
      obtain ⟨here, later⟩ := List.ne_and_not_mem_of_not_mem_cons none
      have other : c ≠ '_' := Ne.symm here
      rw [ungrouped, if_neg other, if_neg fun after => plain after.1, ih other later]
      rfl

theorem ungrouped_decimal (z : ℤ) :
    ungrouped ' ' (Numeral.decimal z) = some (Numeral.decimal z) := by
  have digits : '_' ∉ Nat.toDigits 10 z.natAbs := by
    intro hmem
    cases Numeral.isDigit_of_mem_toDigits hmem
  refine ungrouped_eq_self (by decide) ?_
  rw [Numeral.decimal]
  split
  · exact List.not_mem_cons_of_ne_of_not_mem (by decide) digits
  · exact digits

/-- `float` reads what `std::to_string` writes. -/
theorem floatOf_decimal (z : ℤ) : floatOf (Numeral.decimal z) = some (z : ℚ) := by
  unfold floatOf
  rw [strip_decimal, ungrouped_decimal]
  by_cases negative : z < 0
  · rw [Numeral.decimal, if_pos negative]
    simp only [Option.bind_eq_bind, Option.bind_some, Numeral.sign, unsignedFloat_toDigits,
      Option.pure_def, if_true, Option.some.injEq]
    rw [Nat.cast_natAbs, abs_of_neg negative, Int.cast_neg, neg_neg]
  · rw [Numeral.decimal, if_neg negative, Option.bind_eq_bind, Option.bind_some,
      Numeral.sign_toDigits]
    simp only [Option.bind_eq_bind, unsignedFloat_toDigits, Option.bind_some, Option.pure_def,
      Bool.false_eq_true, if_false, Option.some.injEq]
    rw [Nat.cast_natAbs, abs_of_nonneg (not_lt.mp negative)]

/-! ## Finding the expression -/

theorem searchScale_skip {front : List Char} (text : List Char) (none : 'v' ∉ front) :
    searchScale (front ++ text) = searchScale text := by
  induction front with
  | nil => rfl
  | cons c front ih =>
      have other : ¬ 'v' = c := fun same => none (same ▸ List.mem_cons_self)
      have nothing : matchScale (c :: (front ++ text)) = .none := by
        have stuck : behind "value".toList (c :: (front ++ text)) = .none := by
          change behind ('v' :: "alue".toList) (c :: (front ++ text)) = .none
          rw [behind, if_neg other]
        rw [matchScale, stuck]
        rfl
      rw [List.cons_append, searchScale, nothing]
      exact ih fun hmem => none (List.mem_cons_of_mem c hmem)

theorem searchInt_skip {front : List Char} (text : List Char) (none : '|' ∉ front) :
    searchInt (front ++ text) = searchInt text := by
  induction front with
  | nil => rfl
  | cons c front ih =>
      have nothing : matchInt (c :: (front ++ text)) = false := by
        unfold matchInt
        split
        · rename_i same
          exact absurd ((List.cons.inj same).1 ▸ List.mem_cons_self) none
        · rfl
      rw [List.cons_append, searchInt, nothing, Bool.false_or]
      exact ih fun hmem => none (List.mem_cons_of_mem c hmem)

theorem searchInt_of_not_mem {text : List Char} (none : '|' ∉ text) : searchInt text = false := by
  rw [← List.append_nil text, searchInt_skip [] none]
  rfl

theorem searchScale_of_matchScale {text : List Char} {found : Char × List Char}
    (here : matchScale text = some found) : searchScale text = some found := by
  cases text with
  | nil => cases here
  | cons c text => rw [searchScale, here]

/-- The number ends where its digits end. -/
theorem matchNumber_toDigits {op : Char} {k : ℕ} {back : List Char} (operator : op = '*' ∨ op = '/')
    (boundary : ∀ c, back.head? = some c → isNumberChar c = false) :
    matchNumber op (' ' :: (Nat.toDigits 10 k ++ back)) = some (op, Nat.toDigits 10 k) := by
  have all : ∀ c ∈ Nat.toDigits 10 k, c.isDigit = true :=
    fun c hmem => Numeral.isDigit_of_mem_toDigits hmem
  have nonempty := @Nat.toDigits_ne_nil k 10
  have skipped : skipSpace (' ' :: (Nat.toDigits 10 k ++ back)) = Nat.toDigits 10 k ++ back := by
    cases hdigits : Nat.toDigits 10 k with
    | nil => exact absurd hdigits nonempty
    | cons c text =>
        have visible := isSpace_of_isDigit (all c (hdigits ▸ List.mem_cons_self))
        change (c :: (text ++ back)).dropWhile isSpace = c :: (text ++ back)
        rw [List.dropWhile_cons_of_neg (by rw [visible]; decide)]
  have stop : back.takeWhile isNumberChar = [] := by
    cases back with
    | nil => rfl
    | cons c back => rw [List.takeWhile_cons_of_neg (by rw [boundary c rfl]; decide)]
  have number : (Nat.toDigits 10 k ++ back).takeWhile isNumberChar = Nat.toDigits 10 k := by
    rw [List.takeWhile_append_of_pos fun c hmem => by rw [isNumberChar, all c hmem, Bool.true_or],
      stop, List.append_nil]
  rw [matchNumber, skipped, number, if_pos ⟨operator, by simp⟩]

theorem matchScale_value {op : Char} (operator : op = '*' ∨ op = '/') (text : List Char) :
    matchScale ("value ".toList ++ op :: text) = matchNumber op text := by
  rcases operator with rfl | rfl <;> rfl

theorem matchScale_float {op : Char} (operator : op = '*' ∨ op = '/') (text : List Char) :
    matchScale ("value | float) ".toList ++ op :: text) = matchNumber op text := by
  rcases operator with rfl | rfl <;> rfl

/-! ## Parsing -/

/-- An expression between the double braces of Jinja. -/
def braced (expression : String) : String := "\x7b\x7b " ++ expression ++ " \x7d\x7d"

def IsTemplate (expression template : String) : Prop :=
  template = expression ∨ template = braced expression

/-- What stands around an expression can be taken for no part of it. -/
structure Around (front back : List Char) : Prop where
  noValue : 'v' ∉ front
  frontBar : '|' ∉ front
  backBar : '|' ∉ back
  boundary : ∀ c, back.head? = some c → isNumberChar c = false

theorem IsTemplate.around {expression template : String} (ht : IsTemplate expression template) :
    ∃ front back, template.toList = front ++ (expression.toList ++ back) ∧ Around front back := by
  rcases ht with rfl | rfl
  · exact ⟨[], [], by simp, by simp, by simp, by simp, by simp⟩
  · refine ⟨"\x7b\x7b ".toList, " \x7d\x7d".toList, ?_, by decide, by decide, by decide, ?_⟩
    · rw [braced, String.toList_append, String.toList_append, List.append_assoc]
    · intro c hc
      cases hc
      decide

/-- The factor of an expression whose number is found. -/
theorem parse_of_searchScale {template : String} {op : Char} {k : ℕ} (positive : 0 < k)
    (found : searchScale template.toList = some (op, Nat.toDigits 10 k)) :
    Transform.parse (some template) =
      some { factor := if op = '*' then (k : ℚ) else 1 / k
             toInt := searchInt template.toList } := by
  have number : floatOf (Nat.toDigits 10 k) = some (k : ℚ) := floatOf_decimal k
  have nonzero : ¬ (op = '/' ∧ (k : ℚ) = 0) :=
    fun zero => positive.ne' (Nat.cast_eq_zero.mp zero.2)
  simp only [Transform.parse, found, number, Option.bind_eq_bind, Option.bind_some, if_neg nonzero]

theorem noBar_toDigits (k : ℕ) : '|' ∉ Nat.toDigits 10 k :=
  fun hmem => absurd (Numeral.isDigit_of_mem_toDigits hmem) (by decide)

theorem toList_append_toString (front : String) (k : ℕ) :
    (front ++ toString k).toList = front.toList ++ Nat.toDigits 10 k := by
  rw [String.toList_append]
  exact congrArg (front.toList ++ ·) Nat.toList_repr

/-- `(value | float)` and an operator with its number. -/
theorem parse_float {op : Char} {k : ℕ} {expression template : String}
    (operator : op = '*' ∨ op = '/') (positive : 0 < k)
    (hexpression : expression.toList =
      "(value | float) ".toList ++ op :: ' ' :: Nat.toDigits 10 k)
    (ht : IsTemplate expression template) :
    Transform.parse (some template) =
      some { factor := if op = '*' then (k : ℚ) else 1 / k } := by
  obtain ⟨front, back, htemplate, around⟩ := ht.around
  rw [hexpression] at htemplate
  have found : searchScale template.toList = some (op, Nat.toDigits 10 k) := by
    have text : template.toList = (front ++ ['(']) ++
        ("value | float) ".toList ++ op :: ' ' :: (Nat.toDigits 10 k ++ back)) := by
      simp [htemplate]
    have noValue : 'v' ∉ front ++ ['('] := by simp [around.noValue]
    rw [text, searchScale_skip _ noValue]
    refine searchScale_of_matchScale ?_
    rw [matchScale_float operator, matchNumber_toDigits operator around.boundary]
  have noInt : searchInt template.toList = false := by
    have text : template.toList = (front ++ "(value ".toList) ++
        ('|' :: (" float) ".toList ++ op :: ' ' :: (Nat.toDigits 10 k ++ back))) := by
      simp [htemplate]
    have frontBar : '|' ∉ front ++ "(value ".toList := by simp [around.frontBar]
    have restBar : '|' ∉ " float) ".toList ++ op :: ' ' :: (Nat.toDigits 10 k ++ back) := by
      rcases operator with rfl | rfl <;> simp [around.backBar, noBar_toDigits k]
    rw [text, searchInt_skip _ frontBar, searchInt, searchInt_of_not_mem restBar]
    rfl
  rw [parse_of_searchScale positive found, noInt]

/-- `value` and an operator with its number. -/
theorem parse_value {k : ℕ} {template : String} (positive : 0 < k)
    (ht : IsTemplate ("value * " ++ toString k) template) :
    Transform.parse (some template) = some { factor := k } := by
  obtain ⟨front, back, htemplate, around⟩ := ht.around
  have hexpression : ("value * " ++ toString k).toList =
      "value ".toList ++ '*' :: ' ' :: Nat.toDigits 10 k := by
    have literal : "value * ".toList = "value ".toList ++ ['*', ' '] := by decide
    rw [toList_append_toString, literal, List.append_assoc]
    rfl
  rw [hexpression] at htemplate
  have found : searchScale template.toList = some ('*', Nat.toDigits 10 k) := by
    have text : template.toList =
        front ++ ("value ".toList ++ '*' :: ' ' :: (Nat.toDigits 10 k ++ back)) := by
      simp [htemplate]
    rw [text, searchScale_skip _ around.noValue]
    refine searchScale_of_matchScale ?_
    rw [matchScale_value (.inl rfl), matchNumber_toDigits (.inl rfl) around.boundary]
  have noInt : searchInt template.toList = false := by
    refine searchInt_of_not_mem ?_
    simp [htemplate, around.frontBar, around.backBar, noBar_toDigits k]
  rw [parse_of_searchScale positive found, noInt, if_pos rfl]

/-- The quotient with its integer part. -/
theorem parse_int {k : ℕ} {template : String} (positive : 0 < k)
    (ht : IsTemplate ("(value / " ++ toString k ++ ") | int") template) :
    Transform.parse (some template) = some { factor := 1 / k, toInt := true } := by
  obtain ⟨front, back, htemplate, around⟩ := ht.around
  have hexpression : ("(value / " ++ toString k ++ ") | int").toList =
      '(' :: "value ".toList ++ '/' :: ' ' :: (Nat.toDigits 10 k ++ ") | int".toList) := by
    have literal : "(value / ".toList = '(' :: "value ".toList ++ ['/', ' '] := by decide
    rw [String.toList_append, toList_append_toString, literal]
    simp
  rw [hexpression] at htemplate
  have found : searchScale template.toList = some ('/', Nat.toDigits 10 k) := by
    have text : template.toList = (front ++ ['(']) ++ ("value ".toList ++ '/' :: ' ' ::
        (Nat.toDigits 10 k ++ (") | int".toList ++ back))) := by
      simp [htemplate]
    have noValue : 'v' ∉ front ++ ['('] := by simp [around.noValue]
    have boundary : ∀ c, (") | int".toList ++ back).head? = some c → isNumberChar c = false := by
      intro c hc
      cases hc
      decide
    rw [text, searchScale_skip _ noValue]
    refine searchScale_of_matchScale ?_
    rw [matchScale_value (.inr rfl), matchNumber_toDigits (.inr rfl) boundary]
  have int : searchInt template.toList = true := by
    have text : template.toList = (front ++ "(value / ".toList ++ Nat.toDigits 10 k ++
        ") ".toList) ++ ('|' :: (" int".toList ++ back)) := by
      simp [htemplate]
    have frontBar : '|' ∉ front ++ "(value / ".toList ++ Nat.toDigits 10 k ++ ") ".toList := by
      simp [around.frontBar, noBar_toDigits k]
    rw [text, searchInt_skip _ frontBar]
    rfl
  rw [parse_of_searchScale positive found, int]
  rfl

/-! ## There and back -/

/-- A value template and a command template that belong together. -/
inductive Scaling : Option String → Option String → Prop where
  | unscaled : Scaling none none
  | quotient {k : ℕ} {valueTemplate commandTemplate : String} (positive : 0 < k)
      (small : k ≤ 10 ^ 5)
      (value : IsTemplate ("(value | float) / " ++ toString k) valueTemplate)
      (command : IsTemplate ("value * " ++ toString k) commandTemplate) :
      Scaling (some valueTemplate) (some commandTemplate)
  | product {k : ℕ} {valueTemplate commandTemplate : String} (positive : 0 < k)
      (small : k ≤ 10 ^ 5)
      (value : IsTemplate ("(value | float) * " ++ toString k) valueTemplate)
      (command : IsTemplate ("(value / " ++ toString k ++ ") | int") commandTemplate) :
      Scaling (some valueTemplate) (some commandTemplate)

/-- What is displayed for an integer is turned back into that integer. -/
theorem Scaling.round_trip {valueTemplate commandTemplate : Option String}
    {value command : Transform} (scaling : Scaling valueTemplate commandTemplate)
    (hvalue : Transform.parse valueTemplate = some value)
    (hcommand : Transform.parse commandTemplate = some command) (raw : ℤ) :
    Rounding.roundHalfEven (command.apply (value.apply raw)) = raw := by
  cases scaling with
  | unscaled =>
      cases hvalue
      cases hcommand
      simp [Transform.apply]
  | @quotient k _ _ positive small ht hc =>
      have hexpression : ("(value | float) / " ++ toString k).toList =
          "(value | float) ".toList ++ '/' :: ' ' :: Nat.toDigits 10 k := by
        have literal : "(value | float) / ".toList = "(value | float) ".toList ++ ['/', ' '] := by
          decide
        rw [toList_append_toString, literal, List.append_assoc]
        rfl
      rw [parse_float (.inr rfl) positive hexpression ht] at hvalue
      rw [parse_value positive hc] at hcommand
      cases hvalue
      cases hcommand
      have precise : k + 1 < 10 ^ 6 := by omega
      have back := Rounding.roundHalfEven_scale_back (α := ℚ) positive precise raw
      simpa [Transform.apply, div_eq_mul_inv] using back
  | @product k _ _ positive small ht hc =>
      have hexpression : ("(value | float) * " ++ toString k).toList =
          "(value | float) ".toList ++ '*' :: ' ' :: Nat.toDigits 10 k := by
        have literal : "(value | float) * ".toList = "(value | float) ".toList ++ ['*', ' '] := by
          decide
        rw [toList_append_toString, literal, List.append_assoc]
        rfl
      rw [parse_float (.inl rfl) positive hexpression ht] at hvalue
      rw [parse_int positive hc] at hcommand
      cases hvalue
      cases hcommand
      have nonzero : (k : ℚ) ≠ 0 := Nat.cast_ne_zero.mpr positive.ne'
      have shown : Rounding.roundDecimals 6 ((raw : ℚ) * k) = raw * k := by
        have whole := Rounding.roundDecimals_intCast (α := ℚ) 6 (raw * k)
        push_cast at whole
        exact whole
      have back : (raw : ℚ) * k * (k : ℚ)⁻¹ = raw := mul_inv_cancel_right₀ nonzero _
      simp [Transform.apply, shown, back]

end NasaCpp.Web
