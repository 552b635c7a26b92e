import Std.Data.TreeMap.Lemmas

/-!
# Lookups

What a changed `TreeMap` has under a key, by cases on the equality of keys.
-/

namespace NasaCpp.General.Maps

universe u v

variable {κ : Type u} {ρ : Type v} {cmp : κ → κ → Ordering} [Std.TransCmp cmp]
  [Std.LawfulEqCmp cmp] [DecidableEq κ] (map : Std.TreeMap κ ρ cmp)

theorem lookup_insert (k other : κ) (value : ρ) :
    (map.insert k value)[other]? = if k = other then some value else map[other]? := by
  rw [Std.TreeMap.getElem?_insert]
  simp only [Std.LawfulEqCmp.compare_eq_iff_eq]

theorem lookup_erase (k other : κ) :
    (map.erase k)[other]? = if k = other then none else map[other]? := by
  rw [Std.TreeMap.getElem?_erase]
  simp only [Std.LawfulEqCmp.compare_eq_iff_eq]

theorem lookup_modify (k other : κ) (change : ρ → ρ) :
    (map.modify k change)[other]? =
      if k = other then map[other]?.map change else map[other]? := by
  rw [Std.TreeMap.getElem?_modify]
  simp only [Std.LawfulEqCmp.compare_eq_iff_eq]
  split
  · rename_i here
    rw [here]
  · rfl

end NasaCpp.General.Maps
