import Mathlib.Algebra.Ring.Nat
import NasaCpp.General.Numeral

/-!
# Texts made of fields

A field that does not contain the separator behind it can be read off a text, and so can the
digits of a number in any radix up to sixteen, with or without zeros in front.
-/

namespace NasaCpp.General.Fields

universe u

variable {α : Type u}

/-! ## Separators -/

theorem append_separated {sep : α} {first second rest more : List α} (free : sep ∉ first)
    (other : sep ∉ second) :
    first ++ sep :: rest = second ++ sep :: more ↔ first = second ∧ rest = more := by
  induction first generalizing second with
  | nil =>
      cases second with
      | nil => simp
      | cons head second =>
          refine iff_of_false (fun same => ?_) fun both => nomatch both.1
          exact other (List.mem_cons.mpr (.inl (List.cons.inj same).1))
  | cons head first ih =>
      cases second with
      | nil =>
          refine iff_of_false (fun same => ?_) fun both => nomatch both.1
          exact free (List.mem_cons.mpr (.inl (List.cons.inj same).1.symm))
      | cons start second =>
          rw [List.cons_append, List.cons_append, List.cons.injEq, List.cons.injEq,
            ih (fun member => free (List.mem_cons_of_mem _ member))
              (fun member => other (List.mem_cons_of_mem _ member)), and_assoc]

/-- Lines that are not empty can be read off the text that joins them. -/
theorem intercalate_inj [DecidableEq α] {sep : α} {lines others : List (List α)}
    (free : ∀ line ∈ lines, sep ∉ line ∧ line ≠ [])
    (other : ∀ line ∈ others, sep ∉ line ∧ line ≠ []) :
    [sep].intercalate lines = [sep].intercalate others ↔ lines = others := by
  refine ⟨fun same => ?_, congrArg _⟩
  have split {texts : List (List α)} (here : ∀ line ∈ texts, sep ∉ line ∧ line ≠ [])
      (nonempty : texts ≠ []) : ([sep].intercalate texts).splitOn sep = texts :=
    List.splitOn_intercalate sep (fun line member => (here line member).1) nonempty
  have filled {texts : List (List α)} (here : ∀ line ∈ texts, sep ∉ line ∧ line ≠ [])
      (nonempty : texts ≠ []) : [sep].intercalate texts ≠ [] := fun empty => by
    have single := split here nonempty
    rw [empty, List.splitOn_nil] at single
    exact (here [] (single ▸ List.mem_singleton_self _)).2 rfl
  by_cases none : lines = []
  · subst none
    by_contra different
    exact filled other (Ne.symm different) same.symm
  · by_cases empty : others = []
    · subst empty
      exact absurd same (filled free none)
    · rw [← split free none, same, split other empty]

/-! ## Digits -/

open Numeral

theorem digitVal_digitChar : ∀ k < 16, digitVal (Nat.digitChar k) = some k := by decide

theorem isAlphanum_digitChar : ∀ k < 16, (Nat.digitChar k).isAlphanum = true := by decide

theorem ofDigits_concat (base : ℕ) (digits : List Char) (c : Char) :
    ofDigits base (digits ++ [c]) = base * ofDigits base digits + (digitVal c).getD 0 := by
  rw [ofDigits, List.foldl_append]
  rfl

/-- What the digits of a number are read as. -/
theorem ofDigits_toDigits_radix {base : ℕ} (proper : 1 < base) (small : base ≤ 16) (n : ℕ) :
    ofDigits base (Nat.toDigits base n) = n := by
  induction n using Nat.strongRecOn with
  | ind n ih =>
      by_cases below : n < base
      · rw [Nat.toDigits_of_lt_base below]
        refine (ofDigits_concat base [] _).trans ?_
        rw [digitVal_digitChar n (below.trans_le small)]
        exact (congrArg (· + n) (Nat.mul_zero base)).trans (Nat.zero_add n)
      · have less : n / base < n :=
          Nat.div_lt_self (by omega) proper
        have digit : n % base < 16 := (Nat.mod_lt n (by omega)).trans_le small
        rw [Nat.toDigits_of_base_le proper (not_lt.mp below), ofDigits_concat, ih _ less,
          digitVal_digitChar _ digit]
        exact Nat.div_add_mod n base

theorem isAlphanum_of_mem_toDigits {base : ℕ} (proper : 1 < base) (small : base ≤ 16) {n : ℕ}
    {c : Char} (member : c ∈ Nat.toDigits base n) : c.isAlphanum = true := by
  induction n using Nat.strongRecOn with
  | ind n ih =>
      by_cases below : n < base
      · rw [Nat.toDigits_of_lt_base below, List.mem_singleton] at member
        rw [member]
        exact isAlphanum_digitChar n (below.trans_le small)
      · rw [Nat.toDigits_of_base_le proper (not_lt.mp below)] at member
        rcases List.mem_append.mp member with before | last
        · exact ih (n / base) (Nat.div_lt_self (by omega) proper) before
        · rw [List.mem_singleton.mp last]
          exact isAlphanum_digitChar _ ((Nat.mod_lt n (by omega)).trans_le small)

/-- The first digits of a number are those of a quotient. -/
theorem toDigits_prefix {base : ℕ} (proper : 1 < base) (j : ℕ) {n : ℕ}
    (large : base ^ j ≤ n) : ∃ tail, tail.length = j ∧
      Nat.toDigits base n = Nat.toDigits base (n / base ^ j) ++ tail := by
  induction j generalizing n with
  | zero => exact ⟨[], rfl, by rw [Nat.pow_zero, Nat.div_one, List.append_nil]⟩
  | succ j ih =>
      have power : 0 < base ^ j := Nat.pow_pos (by omega)
      rw [Nat.pow_succ] at large
      have atLeast : base ≤ n := (Nat.le_mul_of_pos_left base power).trans large
      have less : base ^ j ≤ n / base := (Nat.le_div_iff_mul_le (by omega)).mpr large
      obtain ⟨tail, length, htail⟩ := ih less
      refine ⟨tail ++ [(n % base).digitChar], by rw [List.length_append, length]; rfl, ?_⟩
      rw [Nat.toDigits_of_base_le proper atLeast, htail, List.append_assoc, Nat.div_div_eq_div_mul,
        ← Nat.pow_succ']

theorem ofDigits_leftpad (base width : ℕ) (digits : List Char) :
    ofDigits base (digits.leftpad width '0') = ofDigits base digits := by
  unfold List.leftpad
  induction width - digits.length with
  | zero => rfl
  | succ count ih =>
      rw [List.replicate_succ, List.cons_append, ofDigits, List.foldl_cons]
      exact ih

end NasaCpp.General.Fields
