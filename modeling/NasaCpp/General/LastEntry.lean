import Mathlib.Data.List.Induction

/-!
# The last entry of a key

A log of entries, each with a key.  A table that is overwritten by every entry holds
the last one of each key, so what a log leaves behind is read off the log alone,
and an entry is gone from the table exactly if a later one has its key.
-/

namespace NasaCpp.General

universe u v w x

variable {α : Type u} {κ : Type v} [DecidableEq κ] (key : α → κ)

def lastFor (log : List α) (k : κ) : Option α :=
  log.reverse.find? fun entry => decide (key entry = k)

@[simp] theorem lastFor_concat (log : List α) (entry : α) (k : κ) :
    lastFor key (log ++ [entry]) k = if key entry = k then some entry else lastFor key log k := by
  unfold lastFor
  rw [List.reverse_append, List.reverse_singleton, List.singleton_append, List.find?_cons]
  by_cases here : key entry = k
  · rw [if_pos here, decide_eq_true here]
  · rw [if_neg here, decide_eq_false here]

theorem lastFor_append (earlier later : List α) (k : κ) :
    lastFor key (earlier ++ later) k = (lastFor key later k).or (lastFor key earlier k) := by
  unfold lastFor
  rw [List.reverse_append, List.find?_append]

theorem key_of_lastFor {log : List α} {k : κ} {entry : α} (hlast : lastFor key log k = some entry) :
    key entry = k := by
  have found := List.find?_some hlast
  exact of_decide_eq_true found

theorem mem_of_lastFor {log : List α} {k : κ} {entry : α} (hlast : lastFor key log k = some entry) :
    entry ∈ log :=
  List.mem_reverse.mp (List.mem_of_find?_eq_some hlast)

theorem lastFor_eq_none_iff {log : List α} {k : κ} :
    lastFor key log k = none ↔ ∀ entry ∈ log, key entry ≠ k := by
  unfold lastFor
  rw [List.find?_eq_none]
  simp

/-- The last entry of an entry's key is that entry unless a later one replaces it. -/
theorem lastFor_mid {front rest : List α} {entry : α} :
    lastFor key (front ++ entry :: rest) (key entry) =
      some ((lastFor key rest (key entry)).getD entry) := by
  rw [List.append_cons, lastFor_append, lastFor_concat, if_pos rfl]
  cases lastFor key rest (key entry) <;> rfl

/-! ## Tables -/

variable {τ : Type w} {ρ : Type x} {key}

/-- A table in which every entry overwrites what its key had. -/
structure Overwrites (key : α → κ) (write : τ → α → τ) (lookup : τ → κ → Option ρ)
    (row : α → ρ) : Prop where
  lookup_write : ∀ table entry k,
    lookup (write table entry) k = if key entry = k then some (row entry) else lookup table k

variable {write : τ → α → τ} {lookup : τ → κ → Option ρ} {row : α → ρ}

/-- After a log the table has the last entries of the log, and its own rows elsewhere. -/
theorem Overwrites.lookup_foldl (law : Overwrites key write lookup row) (table : τ)
    (log : List α) (k : κ) :
    lookup (log.foldl write table) k = ((lastFor key log k).map row).or (lookup table k) := by
  induction log using List.reverseRecOn with
  | nil => rfl
  | append_singleton log entry ih =>
      rw [List.foldl_append, List.foldl_cons, List.foldl_nil, law.lookup_write, lastFor_concat, ih]
      split <;> rfl

/-- An entry of the log is in the table or replaced by a later one of its key. -/
theorem Overwrites.lookup_mid (law : Overwrites key write lookup row) (table : τ)
    (front rest : List α) (entry : α) :
    lookup ((front ++ entry :: rest).foldl write table) (key entry) = some (row entry) ∨
      ∃ later ∈ rest, key later = key entry := by
  rw [law.lookup_foldl, lastFor_mid]
  cases hlast : lastFor key rest (key entry) with
  | none => exact .inl rfl
  | some later => exact .inr ⟨later, mem_of_lastFor key hlast, key_of_lastFor key hlast⟩

/-- The row under the key of an entry of the log is that of an entry of the log. -/
theorem Overwrites.lookup_of_mem (law : Overwrites key write lookup row) (table : τ)
    {log : List α} {entry : α} (member : entry ∈ log) :
    ∃ last ∈ log, key last = key entry ∧
      lookup (log.foldl write table) (key entry) = some (row last) := by
  rw [law.lookup_foldl]
  cases hlast : lastFor key log (key entry) with
  | none => exact absurd rfl ((lastFor_eq_none_iff key).mp hlast entry member)
  | some last => exact ⟨last, mem_of_lastFor key hlast, key_of_lastFor key hlast, rfl⟩

end NasaCpp.General
