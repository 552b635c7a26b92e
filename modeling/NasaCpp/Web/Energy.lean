import Mathlib.Algebra.Order.Group.Defs
import Mathlib.Data.Rat.Defs
import NasaCpp.General.Rounding
import NasaCpp.General.StepFunction
import NasaCpp.Web.Samples

/-!
# Energy accounting

`values_at` of `nasa_web/storage.py` and the amounts per period that the energy view adds
up.  The readings of a counter never decrease, so neither do the values at the boundaries,
and without rounding the amounts telescope to the difference of the last and the first of
them.  What a subtraction or addition is rounded to is a parameter, since the browser
computes with doubles.
-/

namespace NasaCpp.Web

open General General.Rounding

universe u

variable {ν : Type u}

namespace SamplesTable

/-- The rows whose value is not NULL, by ascending second. -/
def readings (table : SamplesTable ν) (entityId : String) : List (ℤ × ν) :=
  (table.rowsOf entityId).toList.filterMap fun row => row.2.value.map (row.1, ·)

/-- The last row up to a second, else the first one after it. -/
def rowFor (rows : List (ℤ × ν)) (ts : ℤ) : Option (ℤ × ν) :=
  (lastAt rows ts).or (rows.filter fun row => ts < row.1).head?

def valueAt (table : SamplesTable ν) (entityId : String) (ts : ℤ) : Option ν :=
  (rowFor (table.readings entityId) ts).map Prod.snd

def valuesAt (table : SamplesTable ν) (entityId : String) (timestamps : List ℤ) :
    List (Option ν) :=
  timestamps.map (table.valueAt entityId)

def Counts [LE ν] (table : SamplesTable ν) (entityId : String) : Prop :=
  (table.readings entityId).Pairwise fun earlier later => earlier.2 ≤ later.2

/-! ## Values at boundaries -/

section Values

variable {rows : List (ℤ × ν)}

/-- Without a row up to the second, the first of all rows. -/
theorem rowFor_eq_head {ts : ℤ} (none : lastAt rows ts = none) : rowFor rows ts = rows.head? := by
  have all : rows.filter (fun row => ts < row.1) = rows :=
    List.filter_eq_self.mpr fun row hmem => decide_eq_true (lastAt_eq_none_iff.mp none row hmem)
  rw [rowFor, none, all, Option.none_or]

theorem rowFor_of_lastAt {ts : ℤ} {row : ℤ × ν} (hlast : lastAt rows ts = some row) :
    rowFor rows ts = some row := by
  rw [rowFor, hlast, Option.some_or]

theorem rowFor_isSome (filled : rows ≠ []) (ts : ℤ) : ∃ row, rowFor rows ts = some row := by
  cases hlast : lastAt rows ts with
  | none => exact ⟨_, (rowFor_eq_head hlast).trans (List.head?_eq_some_head filled)⟩
  | some row => exact ⟨row, rowFor_of_lastAt hlast⟩

theorem mem_of_rowFor {ts : ℤ} {row : ℤ × ν} (hrow : rowFor rows ts = some row) : row ∈ rows := by
  rcases Option.or_eq_some_iff.mp hrow with early | ⟨-, late⟩
  · exact (mem_of_lastAt early).1
  · exact (List.mem_filter.mp (List.mem_of_head? late)).1

/-- A counter without a reading has no value anywhere. -/
theorem valuesAt_of_empty {table : SamplesTable ν} {entityId : String}
    (empty : table.readings entityId = []) (timestamps : List ℤ) :
    table.valuesAt entityId timestamps = List.replicate timestamps.length none := by
  refine List.eq_replicate_iff.mpr ⟨List.length_map _, fun value hmem => ?_⟩
  obtain ⟨ts, -, rfl⟩ := List.mem_map.mp hmem
  rw [valueAt, empty]
  rfl

theorem valueAt_isSome {table : SamplesTable ν} {entityId : String}
    (filled : table.readings entityId ≠ []) (ts : ℤ) :
    ∃ value, table.valueAt entityId ts = some value := by
  obtain ⟨row, hrow⟩ := rowFor_isSome filled ts
  exact ⟨row.2, by rw [valueAt, hrow, Option.map_some]⟩

variable [Preorder ν]

/-- A later second does not have a smaller value. -/
theorem rowFor_mono (counts : rows.Pairwise fun earlier later => earlier.2 ≤ later.2)
    {ts later : ℤ} (after : ts ≤ later) {row next : ℤ × ν} (hrow : rowFor rows ts = some row)
    (hnext : rowFor rows later = some next) : row.2 ≤ next.2 := by
  cases hlast : lastAt rows ts with
  | none =>
      have : Std.Refl fun earlier later : ℤ × ν => earlier.2 ≤ later.2 := ⟨fun _ => le_rfl⟩
      rw [rowFor_eq_head hlast, List.head?_eq_some_iff] at hrow
      obtain ⟨rest, rfl⟩ := hrow
      exact counts.rel_head (mem_of_rowFor hnext)
  | some sample =>
      have refl (sample : ℤ × ν) : sample.2 ≤ sample.2 := le_rfl
      obtain ⟨other, hother, le⟩ := lastAt_rel refl counts after hlast
      cases hrow.symm.trans (rowFor_of_lastAt hlast)
      cases hnext.symm.trans (rowFor_of_lastAt hother)
      exact le

theorem valueAt_mono {table : SamplesTable ν} {entityId : String} (counts : table.Counts entityId)
    {ts later : ℤ} (after : ts ≤ later) {value next : ν}
    (hvalue : table.valueAt entityId ts = some value)
    (hnext : table.valueAt entityId later = some next) : value ≤ next := by
  obtain ⟨row, hrow, rfl⟩ := Option.map_eq_some_iff.mp hvalue
  obtain ⟨other, hother, rfl⟩ := Option.map_eq_some_iff.mp hnext
  exact rowFor_mono counts after hrow hother

end Values

end SamplesTable

/-! ## The energy view -/

section View

variable [AddCommGroup ν] [LinearOrder ν]

def delta (rounded : ν → ν) : Option ν → Option ν → Option ν
  | some value, some next => some (max 0 (rounded (next - value)))
  | _, _ => none

/-- The amount of every period, between a boundary and the next one. -/
def amounts (rounded : ν → ν) (values : List (Option ν)) : List (Option ν) :=
  values.zipWith (delta rounded) values.tail

/-- `rows.reduce((a, r) => a + (r.used || 0), 0)`. -/
def total (rounded : ν → ν) (rows : List (Option ν)) : ν :=
  rows.foldl (fun sum used => rounded (sum + used.getD 0)) 0

omit [LinearOrder ν] in
theorem foldl_total (rows : List (Option ν)) (sum : ν) :
    rows.foldl (fun sum used => id (sum + used.getD 0)) sum = sum + total id rows := by
  induction rows generalizing sum with
  | nil => exact (add_zero sum).symm
  | cons used rows ih =>
      rw [total, List.foldl_cons, List.foldl_cons, ih, ih (id (0 + used.getD 0))]
      simp only [id_eq, zero_add, add_assoc]

omit [LinearOrder ν] in
@[simp] theorem total_cons (used : Option ν) (rows : List (Option ν)) :
    total id (used :: rows) = used.getD 0 + total id rows := by
  rw [total, List.foldl_cons, foldl_total, id_eq, zero_add]

/-- Without values nothing is added up. -/
theorem total_amounts_none (count : ℕ) :
    total id (amounts id (List.replicate count (none : Option ν))) = 0 := by
  induction count with
  | zero => rfl
  | succ count ih =>
      cases count with
      | zero => rfl
      | succ count =>
          change total id (none :: amounts id (List.replicate (count + 1) none)) = 0
          rw [total_cons, ih]
          exact add_zero 0

variable [IsOrderedAddMonoid ν]

/-- The amounts between values that do not decrease add up to their whole increase. -/
theorem total_amounts {numbers : List ν} (ascending : numbers.Pairwise (· ≤ ·)) {first last : ν}
    (hfirst : numbers.head? = some first) (hlast : numbers.getLast? = some last) :
    total id (amounts id (numbers.map some)) = last - first := by
  obtain ⟨rest, rfl⟩ := List.head?_eq_some_iff.mp hfirst
  clear hfirst
  induction rest generalizing first with
  | nil =>
      cases hlast
      exact (sub_self first).symm
  | cons next rest ih =>
      obtain ⟨low, ascending⟩ := List.pairwise_cons.mp ascending
      have increase : max 0 (next - first) = next - first :=
        max_eq_right (sub_nonneg.mpr (low next List.mem_cons_self))
      change total id (some (max 0 (next - first)) :: amounts id ((next :: rest).map some)) = _
      rw [List.getLast?_cons_cons] at hlast
      rw [total_cons, ih ascending hlast, increase, Option.getD_some]
      exact sub_add_sub_cancel' _ _ _

/-! ## Every list of boundaries -/

/-- Without a reading there is nothing at any boundary and nothing to add up.  Otherwise there
is a number at every boundary, none below the one before, and the amounts add up to the
difference of the last and the first number. -/
structure Accounted (rounded : ν → ν) (table : SamplesTable ν) (entityId : String)
    (timestamps : List ℤ) : Prop where
  empty : table.readings entityId = [] →
    table.valuesAt entityId timestamps = List.replicate timestamps.length none ∧
      total rounded (amounts rounded (table.valuesAt entityId timestamps)) = 0
  filled : table.readings entityId ≠ [] →
    ∃ numbers : List ν, numbers.length = timestamps.length ∧
      table.valuesAt entityId timestamps = numbers.map some ∧ numbers.Pairwise (· ≤ ·) ∧
      ∀ first last, numbers.head? = some first → numbers.getLast? = some last →
        total rounded (amounts rounded (table.valuesAt entityId timestamps)) =
          rounded (last - first)

section Counter

variable {table : SamplesTable ν} {entityId : String} (counts : table.Counts entityId)
  {value : ℤ → ν} (hvalue : ∀ ts, table.valueAt entityId ts = some (value ts))
  {timestamps : List ℤ} (ascending : timestamps.Pairwise (· < ·))

include hvalue

omit [AddCommGroup ν] [LinearOrder ν] [IsOrderedAddMonoid ν] in
theorem valuesAt_eq : table.valuesAt entityId timestamps = (timestamps.map value).map some := by
  rw [SamplesTable.valuesAt, List.map_map]
  exact List.map_congr_left fun ts _ => hvalue ts

include counts ascending

omit [AddCommGroup ν] [IsOrderedAddMonoid ν] in
theorem values_ascending : (timestamps.map value).Pairwise (· ≤ ·) := by
  rw [List.pairwise_map]
  exact ascending.imp fun lt => SamplesTable.valueAt_mono counts lt.le (hvalue _) (hvalue _)

theorem total_valuesAt {first last : ℤ} (hfirst : timestamps.head? = some first)
    (hlast : timestamps.getLast? = some last) :
    total id (amounts id (table.valuesAt entityId timestamps)) = value last - value first := by
  rw [valuesAt_eq hvalue]
  refine total_amounts (values_ascending counts hvalue ascending) ?_ ?_
  · rw [List.head?_map, hfirst, Option.map_some]
  · rw [List.getLast?_map, hlast, Option.map_some]

end Counter

/-- The results of `values_at` are accounted for whatever the boundaries, and the amounts add
up to the same whatever boundaries lie between the first and the last. -/
theorem energy_telescopes {table : SamplesTable ν} {entityId : String}
    (counts : table.Counts entityId) {timestamps : List ℤ}
    (ascending : timestamps.Pairwise (· < ·)) :
    Accounted id table entityId timestamps ∧
      ∀ others : List ℤ, others.Pairwise (· < ·) → others.head? = timestamps.head? →
        others.getLast? = timestamps.getLast? →
        total id (amounts id (table.valuesAt entityId others)) =
          total id (amounts id (table.valuesAt entityId timestamps)) := by
  by_cases empty : table.readings entityId = []
  · have nothing (boundaries : List ℤ) :
        total id (amounts id (table.valuesAt entityId boundaries)) = 0 := by
      rw [SamplesTable.valuesAt_of_empty empty, total_amounts_none]
    refine ⟨⟨fun _ => ⟨SamplesTable.valuesAt_of_empty empty timestamps, nothing timestamps⟩,
      fun filled => absurd empty filled⟩, fun others _ _ _ => ?_⟩
    rw [nothing, nothing]
  · choose value hvalue using SamplesTable.valueAt_isSome empty
    refine ⟨⟨fun none => absurd none empty, fun _ => ⟨timestamps.map value, List.length_map _,
      valuesAt_eq hvalue, values_ascending counts hvalue ascending, ?_⟩⟩,
      fun others ordered sameFirst sameLast => ?_⟩
    · intro first last hfirst hlast
      rw [valuesAt_eq hvalue]
      exact total_amounts (values_ascending counts hvalue ascending) hfirst hlast
    · cases hfirst : timestamps.head? with
      | none =>
          rw [hfirst] at sameFirst
          rw [List.head?_eq_none_iff.mp hfirst, List.head?_eq_none_iff.mp sameFirst]
      | some first =>
          have filled := List.ne_nil_of_mem (List.mem_of_head? hfirst)
          have hlast := List.getLast?_eq_some_getLast filled
          rw [total_valuesAt counts hvalue ordered (sameFirst.trans hfirst)
            (sameLast.trans hlast), total_valuesAt counts hvalue ascending hfirst hlast]

/-- A counter with a gap, at boundaries before, between and after its readings. -/
theorem energy_telescopes_three :
    Accounted id ([(10, some 100), (20, none), (30, some 250)].foldl
      (fun table sample => SamplesTable.insertOrReplace table ("a", ⟨sample.1, sample.2, none⟩))
      ({} : SamplesTable ℤ)) "a" [0, 20, 25, 40] :=
  (energy_telescopes (by unfold SamplesTable.Counts; decide +kernel) (by decide)).1

end View

/-- With doubles the amounts of two periods add up to a little less than the increase:
0.1 from 0.1 to 0.2 and 0.7 from 0.2 to 0.9 make 0.7999999999999999. -/
theorem not_telescopes_doubles :
    ¬ ∀ (table : SamplesTable ℚ) (entityId : String) (timestamps : List ℤ),
      (∀ row ∈ table.readings entityId, roundDouble row.2 = row.2) →
        table.Counts entityId → timestamps.Pairwise (· < ·) →
        Accounted roundDouble table entityId timestamps := by
  intro all
  let table : SamplesTable ℚ := [(0, 1 / 10), (1, 1 / 5), (2, 9 / 10)].foldl
    (fun table sample =>
      table.insertOrReplace ("a", ⟨sample.1, some (roundDouble sample.2), none⟩)) {}
  have counts : table.Counts "a" := by
    unfold SamplesTable.Counts
    decide +kernel
  have values : table.valuesAt "a" [0, 1, 2] =
      [roundDouble (1 / 10), roundDouble (1 / 5), roundDouble (9 / 10)].map some := by
    decide +kernel
  obtain ⟨numbers, -, hnumbers, -, sum⟩ :=
    (all table "a" [0, 1, 2] (by decide +kernel) counts (by decide)).filled (by decide +kernel)
  rw [values] at hnumbers sum
  cases List.map_injective_iff.mpr (Option.some_injective ℚ) hnumbers
  exact absurd (sum _ _ rfl rfl) (by decide +kernel)

end NasaCpp.Web
