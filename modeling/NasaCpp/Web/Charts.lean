import Mathlib.Algebra.Order.Ring.Int
import Mathlib.Data.List.Sort
import NasaCpp.Web.History

/-!
# Gaps in a chart

`withGaps` of `charts.js` puts a point without a value into each step of a series that is
longer than four times the median step and at least as long as a given time, over any
ordered ring of times.  The line is drawn between neighbours that have a value.
-/

namespace NasaCpp.Web.Charts

universe u v

variable {τ : Type u} {ν : Type v}

abbrev Sample (τ : Type u) (ν : Type v) := τ × Option ν

/-! ## The median -/

/-- `sorted[Math.floor(sorted.length / 2)]`. -/
def middle [LinearOrder τ] [Zero τ] (steps : List τ) : τ :=
  (steps.insertionSort (· ≤ ·))[steps.length / 2]?.getD 0

section Fill

variable [Ring τ]

/-- `t[i] - t[i - 1]` for each position but the first. -/
def steps (samples : List (Sample τ ν)) : List τ :=
  samples.tail.zipWith (fun later earlier => later.1 - earlier.1) samples

variable [LinearOrder τ]

/-- `Math.max(minGap, median * 4)`, where a median of zero gives way to a minute. -/
def limit (minGap : τ) (steps : List τ) : τ :=
  let median := if middle steps = 0 then 60 else middle steps
  max minGap (median * 4)

variable [IsStrictOrderedRing τ]

/-- An inserted point lies between its neighbours. -/
theorem between {limit : τ} (second : 1 ≤ limit) {prev sample : Sample τ ν}
    (long : limit < sample.1 - prev.1) : prev.1 < prev.1 + 1 ∧ prev.1 + 1 < sample.1 := by
  refine ⟨lt_add_one _, ?_⟩
  have room := second.trans_lt long
  rwa [lt_sub_iff_add_lt, add_comm] at room

end Fill

/-! ## A history in a chart -/

open SamplesTable

def series (points : List (Point ν)) : List (Sample ℤ ν) :=
  points.map fun point => (point.t, point.v)

end NasaCpp.Web.Charts
