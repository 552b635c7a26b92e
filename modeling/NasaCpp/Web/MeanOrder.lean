import NasaCpp.General.Rounding
import NasaCpp.Web.History

/-!
# The mean among the extremes

An aggregated point has the mean rounded to four decimals and the extremes as they are
stored, with up to six.  So the mean can be rounded past an extreme that lies between two
multiples of 0.0001.
-/

namespace NasaCpp.Web

open General

namespace SamplesTable

/-- `min[i] <= v[i] <= max[i]`, where there is a value. -/
def Point.Ordered (point : Point ℚ) : Prop :=
  ∀ v, point.v = some v →
    (∃ least, point.min = some least ∧ least ≤ v) ∧
      ∃ greatest, point.max = some greatest ∧ v ≤ greatest

def mean (values : List ℚ) : ℚ := values.sum / values.length

def roundedMean (values : List ℚ) : ℚ := Rounding.roundDecimals 4 (mean values)

/-- Counted in units of 0.0001, the mean lies above the half before the first integer from some
value on, and below the half after the last integer up to some value, or it is such a half
beside an even integer. -/
structure MeanFits (values : List ℚ) : Prop where
  low : ∃ value ∈ values, (⌈value * 10 ^ 4⌉ : ℚ) - 1 / 2 < mean values * 10 ^ 4 ∨
    mean values * 10 ^ 4 = (⌈value * 10 ^ 4⌉ : ℚ) - 1 / 2 ∧ Even ⌈value * 10 ^ 4⌉
  high : ∃ value ∈ values, mean values * 10 ^ 4 < (⌊value * 10 ^ 4⌋ : ℚ) + 1 / 2 ∨
    mean values * 10 ^ 4 = (⌊value * 10 ^ 4⌋ : ℚ) + 1 / 2 ∧ Even ⌊value * 10 ^ 4⌋

theorem meanFits_iff (values : List ℚ) :
    MeanFits values ↔
      (∃ value ∈ values, value ≤ roundedMean values) ∧
        ∃ value ∈ values, roundedMean values ≤ value := by
  unfold roundedMean
  simp only [Rounding.le_roundDecimals_iff, Rounding.roundDecimals_le_iff]
  exact ⟨fun fits => ⟨fits.low, fits.high⟩, fun both => ⟨both.1, both.2⟩⟩

theorem ordered_pointOf (t : ℤ) (row : Row ℚ) : (pointOf t row).Ordered :=
  fun v hv => ⟨⟨v, hv, le_rfl⟩, v, hv, le_rfl⟩

theorem mem_valuesOf_iff {rows : List (TimedRow ℚ)} {value : ℚ} :
    value ∈ valuesOf rows ↔ some value ∈ rows.map fun row => row.2.value := by
  rw [valuesOf, List.mem_filterMap, List.mem_map]

/-- The point of a bucket with a value is ordered exactly if the mean fits. -/
theorem ordered_bucketPoint_iff (start : ℤ) (bucket : ℤ × List (TimedRow ℚ)) :
    (bucketPoint roundedMean start bucket).Ordered ↔
      (valuesOf bucket.2 ≠ [] → MeanFits (valuesOf bucket.2)) := by
  unfold Point.Ordered bucketPoint
  dsimp only
  by_cases empty : valuesOf bucket.2 = []
  · rw [if_pos empty]
    exact iff_of_true nofun fun filled => absurd empty filled
  · rw [if_neg empty, meanFits_iff]
    simp only [Option.some.injEq, forall_eq', aggregate_min_le_iff, le_aggregate_max_iff,
      ← mem_valuesOf_iff]
    exact ⟨fun both _ => both, fun both => both empty⟩

/-- Every point of every history with a value has it among its extremes exactly if, where
there are more samples than points asked for, the mean of every bucket fits. -/
theorem ordered_iff (table : SamplesTable ℚ) (entityId : String) (start stop maxPoints : ℤ)
    (aggregated : Bool) :
    (∀ points, history roundedMean table entityId start stop maxPoints aggregated = some points →
        ∀ point ∈ points, point.Ordered) ↔
      (aggregated = true → maxPoints < (table.windowRows entityId start stop).length →
        ∀ width, bucketWidth start stop maxPoints = some width →
          ∀ bucket ∈ buckets width (table.windowRows entityId start stop),
            valuesOf bucket.2 ≠ [] → MeanFits (valuesOf bucket.2)) := by
  have leads : ∀ point ∈ table.leading entityId start, point.Ordered := by
    intro point hmem
    obtain ⟨row, -, rfl⟩ := List.mem_map.mp hmem
    exact ordered_pointOf _ _
  by_cases many : aggregated = true ∧ maxPoints < (table.windowRows entityId start stop).length
  · rw [forall_prop_of_true many.1, forall_prop_of_true many.2]
    unfold history
    rw [if_pos many]
    cases bucketWidth start stop maxPoints with
    | none => exact iff_of_true nofun nofun
    | some width =>
        simp only [Option.map_some, Option.some.injEq, forall_eq', List.forall_mem_append,
          List.forall_mem_map, ordered_bucketPoint_iff]
        exact and_iff_right leads
  · refine iff_of_true ?_ fun chosen more => absurd ⟨chosen, more⟩ many
    intro points hpoints point hmem
    rw [history, if_neg many] at hpoints
    cases hpoints
    rcases List.mem_append.mp hmem with first | hrow
    · exact leads point first
    · obtain ⟨row, -, rfl⟩ := List.mem_map.mp hrow
      exact ordered_pointOf _ _

def smallSamples : SamplesTable ℚ :=
  [0, 1].foldl (fun table ts => table.insertOrReplace ("a", ⟨ts, some (49 / 10 ^ 6), none⟩)) {}

/-- Their mean is rounded to zero, which is below the least of them. -/
theorem not_ordered_small :
    ¬ ∀ (table : SamplesTable ℚ) (entityId : String) (start stop maxPoints : ℤ)
      (aggregated : Bool),
      (∀ row ∈ (table.rowsOf entityId).toList, ∀ value, row.2.value = some value →
        ∃ n : ℤ, value = n / 10 ^ 6) →
      ∀ points, history roundedMean table entityId start stop maxPoints aggregated = some points →
        ∀ point ∈ points, point.Ordered := by
  intro all
  have decimals : ∀ row ∈ (smallSamples.rowsOf "a").toList, ∀ value, row.2.value = some value →
      ∃ n : ℤ, value = n / 10 ^ 6 := by
    have values : ∀ row ∈ (smallSamples.rowsOf "a").toList, row.2.value = some (49 / 10 ^ 6) := by
      decide +kernel
    intro row hmem value hvalue
    refine ⟨49, Option.some.inj ?_⟩
    rw [← hvalue, values row hmem]
    rfl
  have points : history roundedMean smallSamples "a" 0 9 1 true =
      some [⟨0, some 0, some (49 / 10 ^ 6), some (49 / 10 ^ 6), none⟩] := by
    decide +kernel
  have ordered := all smallSamples "a" 0 9 1 true decimals _ points _ List.mem_cons_self
  obtain ⟨⟨least, hleast, le⟩, -⟩ := ordered 0 rfl
  cases hleast
  norm_num at le

end SamplesTable

end NasaCpp.Web
