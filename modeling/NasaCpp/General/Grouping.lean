import Mathlib.Data.Finset.Card
import Mathlib.Data.List.Dedup
import Mathlib.Data.List.Sort

/-!
# Grouping and aggregates

Rows are grouped by a key, the groups in the order of their keys.  The groups share out
the rows.  An aggregate combines the values of a column and passes over the missing ones;
for an associative and commutative operation the aggregates of the groups combine to that
of all rows.
-/

namespace NasaCpp.General

universe u v

/-! ## Aggregates -/

section Aggregate

variable {ν : Type v} (op : ν → ν → ν)

def aggregate (column : List (Option ν)) : Option ν := column.foldr (Option.merge op) none

@[simp] theorem aggregate_nil : aggregate op [] = none := rfl

@[simp] theorem aggregate_cons (value : Option ν) (column : List (Option ν)) :
    aggregate op (value :: column) = value.merge op (aggregate op column) := rfl

theorem aggregate_singleton (value : Option ν) : aggregate op [value] = value :=
  Option.merge_none_right

theorem aggregate_append [Std.Associative op] (first second : List (Option ν)) :
    aggregate op (first ++ second) = (aggregate op first).merge op (aggregate op second) := by
  induction first with
  | nil => exact Option.merge_none_left.symm
  | cons value first ih =>
      rw [List.cons_append, aggregate_cons, aggregate_cons, ih]
      exact ((Option.associative_merge op).assoc _ _ _).symm

/-- The aggregates of parts combine to the aggregate of the whole. -/
theorem aggregate_flatten [Std.Associative op] (parts : List (List (Option ν))) :
    aggregate op (parts.map (aggregate op)) = aggregate op parts.flatten := by
  induction parts with
  | nil => rfl
  | cons part parts ih =>
      rw [List.map_cons, aggregate_cons, List.flatten_cons, aggregate_append, ih]

theorem aggregate_perm [Std.Associative op] [Std.Commutative op]
    {first second : List (Option ν)} (perm : first.Perm second) :
    aggregate op first = aggregate op second := by
  have leftCommutes : LeftCommutative (Option.merge op) := ⟨fun x y z => by
    have assoc := (Option.associative_merge op).assoc
    rw [← assoc, (Option.commutative_merge op).comm x y, assoc]⟩
  exact perm.foldr_eq none

/-- Where an operation meets a condition exactly if one of its arguments does, an aggregate
meets it exactly if one of its values does. -/
theorem exists_aggregate_iff {property : ν → Prop}
    (either : ∀ x y, property (op x y) ↔ property x ∨ property y) (column : List (Option ν)) :
    (∃ value, aggregate op column = some value ∧ property value) ↔
      ∃ value, some value ∈ column ∧ property value := by
  induction column with
  | nil => simp
  | cons first column ih =>
      have split : (∃ value, some value ∈ first :: column ∧ property value) ↔
          (∃ value, first = some value ∧ property value) ∨
            ∃ value, some value ∈ column ∧ property value := by
        simp only [List.mem_cons, or_and_right, exists_or, eq_comm]
      rw [split, ← ih, aggregate_cons]
      cases first with
      | none => simp
      | some first =>
          cases aggregate op column with
          | none => simp
          | some rest => simp [either]

end Aggregate

section Extremes

variable {ν : Type v} [LinearOrder ν]

theorem aggregate_min_le_iff (column : List (Option ν)) (bound : ν) :
    (∃ least, aggregate min column = some least ∧ least ≤ bound) ↔
      ∃ value, some value ∈ column ∧ value ≤ bound :=
  exists_aggregate_iff min (fun _ _ => min_le_iff) column

theorem le_aggregate_max_iff (column : List (Option ν)) (bound : ν) :
    (∃ greatest, aggregate max column = some greatest ∧ bound ≤ greatest) ↔
      ∃ value, some value ∈ column ∧ bound ≤ value :=
  exists_aggregate_iff max (fun _ _ => le_max_iff) column

end Extremes

/-! ## Groups -/

section Groups

variable {κ : Type u} {ρ : Type v} [LinearOrder κ] (key : ρ → κ)

def keysOf (rows : List ρ) : List κ := (rows.map key).dedup.insertionSort (· ≤ ·)

/-- `GROUP BY key ORDER BY key`. -/
def groupBy (rows : List ρ) : List (κ × List ρ) :=
  (keysOf key rows).map fun k => (k, rows.filter fun row => key row = k)

variable {key} {rows : List ρ}

theorem mem_keysOf_iff {k : κ} : k ∈ keysOf key rows ↔ ∃ row ∈ rows, key row = k := by
  rw [keysOf, List.mem_insertionSort (· ≤ ·), List.mem_dedup, List.mem_map]

theorem nodup_keysOf : (keysOf key rows).Nodup :=
  (List.perm_insertionSort _ _).nodup_iff.mpr (List.nodup_dedup _)

theorem keysOf_ascending : (keysOf key rows).Pairwise (· < ·) := by
  have sorted : (keysOf key rows).Pairwise (· ≤ ·) := List.pairwise_insertionSort _ _
  exact (sorted.and nodup_keysOf).imp fun both => lt_of_le_of_ne both.1 both.2

theorem mem_groupBy_iff {k : κ} {group : List ρ} :
    (k, group) ∈ groupBy key rows ↔
      (∃ row ∈ rows, key row = k) ∧ group = rows.filter fun row => key row = k := by
  unfold groupBy
  rw [List.mem_map]
  constructor
  · rintro ⟨other, hmem, heq⟩
    cases heq
    exact ⟨mem_keysOf_iff.mp hmem, rfl⟩
  · rintro ⟨occurs, rfl⟩
    exact ⟨k, mem_keysOf_iff.mpr occurs, rfl⟩

theorem groupBy_ascending : ((groupBy key rows).map Prod.fst).Pairwise (· < ·) := by
  have keys : (groupBy key rows).map Prod.fst = keysOf key rows := by
    rw [groupBy, List.map_map]
    exact List.map_id _
  rw [keys]
  exact keysOf_ascending

theorem ne_nil_of_mem_groupBy {group : κ × List ρ} (hmem : group ∈ groupBy key rows) :
    group.2 ≠ [] := by
  obtain ⟨⟨row, hrow, hkey⟩, hgroup⟩ := mem_groupBy_iff.mp hmem
  rw [hgroup]
  exact List.ne_nil_of_mem (List.mem_filter.mpr ⟨hrow, by simpa using hkey⟩)

theorem perm_of_keys {keys : List κ} (nodup : keys.Nodup) :
    (keys.map fun k => rows.filter fun row => key row = k).flatten.Perm
      (rows.filter fun row => key row ∈ keys) := by
  induction keys with
  | nil => simp
  | cons k keys ih =>
      obtain ⟨fresh, nodup⟩ := List.nodup_cons.mp nodup
      have here : rows.filter (fun row => key row = k) =
          (rows.filter fun row => key row ∈ k :: keys).filter fun row => key row = k := by
        rw [List.filter_filter]
        refine List.filter_congr fun row _ => ?_
        by_cases same : key row = k <;> simp [same]
      have there : rows.filter (fun row => key row ∈ keys) =
          (rows.filter fun row => key row ∈ k :: keys).filter fun row => !decide (key row = k) := by
        rw [List.filter_filter]
        refine List.filter_congr fun row _ => ?_
        by_cases same : key row = k <;> simp [same, fresh]
      rw [List.map_cons, List.flatten_cons]
      refine ((List.Perm.refl _).append (ih nodup)).trans ?_
      rw [here, there]
      exact List.filter_append_perm _ _

/-- The groups share out the rows. -/
theorem groupBy_perm (key : ρ → κ) (rows : List ρ) :
    ((groupBy key rows).map Prod.snd).flatten.Perm rows := by
  have groups : (groupBy key rows).map Prod.snd =
      (keysOf key rows).map fun k => rows.filter fun row => key row = k := by
    rw [groupBy, List.map_map]
    rfl
  rw [groups]
  refine (perm_of_keys nodup_keysOf).trans (List.Perm.of_eq ?_)
  exact List.filter_eq_self.mpr fun row hrow =>
    decide_eq_true (mem_keysOf_iff.mpr ⟨row, hrow, rfl⟩)

/-- There are no more groups than values that the key can take. -/
theorem length_groupBy_le {values : Finset κ} (all : ∀ row ∈ rows, key row ∈ values) :
    (groupBy key rows).length ≤ values.card := by
  rw [groupBy, List.length_map, ← List.toFinset_card_of_nodup nodup_keysOf]
  refine Finset.card_le_card fun k hk => ?_
  obtain ⟨row, hrow, rfl⟩ := mem_keysOf_iff.mp (List.mem_toFinset.mp hk)
  exact all row hrow

end Groups

end NasaCpp.General
