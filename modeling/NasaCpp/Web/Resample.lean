import Mathlib.Algebra.Order.Field.Basic
import Mathlib.Algebra.Order.Field.Rat
import NasaCpp.General.StepFunction

/-!
# Resampling

`resample` of `views/overview.js` takes a series to equally spaced instants with one cursor
that never moves back, over any ordered field of times.  What it returns is what a search for
the last sample finds at each instant.
-/

namespace NasaCpp.Web

open General

universe u v

structure Series (τ : Type u) (ν : Type v) where
  t : List τ
  v : List (Option ν)
  lengths : v.length = t.length

namespace Series

variable {τ : Type u} {ν : Type v}

def samples (series : Series τ ν) : List (τ × Option ν) := series.t.zip series.v

@[simp] theorem map_fst_samples (series : Series τ ν) : series.samples.map Prod.fst = series.t :=
  List.map_fst_zip series.lengths.ge

@[simp] theorem map_snd_samples (series : Series τ ν) : series.samples.map Prod.snd = series.v :=
  List.map_snd_zip series.lengths.le

end Series

namespace Resample

variable {τ : Type u} {ν : Type v} [LinearOrder τ]

def advance (times : List τ) (x : τ) (j : Nat) : Nat :=
  if inside : j + 1 < times.length then
    if times[j + 1] ≤ x then advance times x (j + 1) else j
  else j
termination_by times.length - j

section Grid

variable [Field τ]

/-- `start + ((end - start) * i) / (n - 1)`, for two points or more. -/
def instant (start stop : τ) (n i : Nat) : τ := start + (stop - start) * i / (n - 1)

/-- The body of the outer loop; a read outside of `s.t` is not at or before anything. -/
def visit (series : Series τ ν) (start stop : τ) (n : Nat) (state : Nat × List (Option ν))
    (i : Nat) : Nat × List (Option ν) :=
  let x := instant start stop n i
  let j := advance series.t x state.1
  (j, state.2 ++ [if (series.t[j]?).any (· ≤ x) then (series.v[j]?).join else none])

def resample (series : Series τ ν) (start stop : τ) (n : Nat) : List (Option ν) :=
  ((List.range n).foldl (visit series start stop n) (0, [])).2

end Grid

/-! ## The cursor -/

/-- The inner loop ends where the cursor cannot move on. -/
theorem advance_atLast {β : Type v} {samples : List (τ × β)} {x : τ} {j : Nat}
    (behind : Behind samples x j) : AtLast samples x (advance (samples.map Prod.fst) x j) := by
  fun_induction advance (samples.map Prod.fst) x j with
  | case1 j inside reached ih =>
      rw [List.length_map] at inside
      rw [List.getElem_map] at reached
      exact ih (.inr ⟨_, List.getElem?_eq_getElem inside, reached⟩)
  | case2 j inside early =>
      rw [List.length_map] at inside
      rw [List.getElem_map] at early
      refine ⟨behind, fun sample here => ?_⟩
      rw [List.getElem?_eq_getElem inside] at here
      cases here
      exact not_le.mp early
  | case3 j outside =>
      rw [List.length_map] at outside
      refine ⟨behind, fun sample here => absurd ?_ outside⟩
      exact (List.getElem?_eq_some_iff.mp here).1

/-! ## The grid -/

section Run

variable [Field τ] {series : Series τ ν} {start stop : τ} {n : Nat}

/-- What a search finds at a point of the grid: the value of the last sample, or none. -/
def found (series : Series τ ν) (start stop : τ) (n i : Nat) : Option ν :=
  (lastAt series.samples (instant start stop n i)).bind Prod.snd

theorem visit_out (ordered : series.t.Pairwise (· ≤ ·)) {j i : Nat}
    (atLast : AtLast series.samples (instant start stop n i) j) :
    (if (series.t[j]?).any (· ≤ instant start stop n i) then (series.v[j]?).join else none) =
      found series start stop n i := by
  have rows : series.samples.Pairwise fun earlier later => earlier.1 ≤ later.1 := by
    rw [← series.map_fst_samples] at ordered
    exact List.pairwise_map.mp ordered
  have time : series.t[j]? = (series.samples[j]?).map Prod.fst := by
    rw [← List.getElem?_map, series.map_fst_samples]
  have value : series.v[j]? = (series.samples[j]?).map Prod.snd := by
    rw [← List.getElem?_map, series.map_snd_samples]
  rw [found, atLast.lastAt_eq rows, time, value]
  cases series.samples[j]? with
  | none => rfl
  | some sample =>
      rw [Option.map_some, Option.map_some, Option.any_some, Option.filter_some]
      by_cases started : sample.1 ≤ instant start stop n i
      · rw [if_pos (decide_eq_true started), if_pos (decide_eq_true started)]
        rfl
      · rw [if_neg fun here => started (of_decide_eq_true here),
          if_neg fun here => started (of_decide_eq_true here)]
        rfl

variable [IsStrictOrderedRing τ]

theorem instant_mono (window : start < stop) (many : 2 ≤ n) {i later : Nat} (after : i ≤ later) :
    instant start stop n i ≤ instant start stop n later := by
  have steps : (0 : τ) < n - 1 := by
    rw [sub_pos]
    exact_mod_cast many
  have span : 0 ≤ stop - start := (sub_pos.mpr window).le
  have count : (i : τ) ≤ later := by exact_mod_cast after
  unfold instant
  gcongr

/-- After some points of the grid the cursor has passed no sample after a later point, and what
has been put out is what a search finds. -/
structure Resampled (series : Series τ ν) (start stop : τ) (n count : Nat)
    (state : Nat × List (Option ν)) : Prop where
  behind : ∀ i, count ≤ i → Behind series.samples (instant start stop n i) state.1
  out : state.2 = (List.range count).map (found series start stop n)

theorem Resampled.visit (ordered : series.t.Pairwise (· ≤ ·)) (window : start < stop)
    (many : 2 ≤ n) {count : Nat} {state : Nat × List (Option ν)}
    (resampled : Resampled series start stop n count state) :
    Resampled series start stop n (count + 1) (visit series start stop n state count) := by
  have atLast := advance_atLast (resampled.behind count le_rfl)
  rw [Series.map_fst_samples] at atLast
  constructor
  · intro i after
    exact atLast.behind.later (instant_mono window many (Nat.le_of_succ_le after))
  · rw [Resample.visit]
    dsimp only
    rw [visit_out ordered atLast, resampled.out, List.range_succ, List.map_append,
      List.map_singleton]

theorem resampled_range (ordered : series.t.Pairwise (· ≤ ·)) (window : start < stop)
    (many : 2 ≤ n) (count : Nat) :
    Resampled series start stop n count
      ((List.range count).foldl (Resample.visit series start stop n) (0, [])) := by
  induction count with
  | zero => exact ⟨fun _ _ => .inl rfl, rfl⟩
  | succ count ih =>
      rw [List.range_succ, List.foldl_append]
      exact ih.visit ordered window many

/-- One entry for each of the instants, which is the value of the last sample at or before it. -/
theorem resample_finds (ordered : series.t.Pairwise (· ≤ ·)) (window : start < stop)
    (many : 2 ≤ n) :
    (resample series start stop n).length = n ∧
      ∀ i < n, (resample series start stop n)[i]? =
        some ((lastAt series.samples (start + (stop - start) * i / (n - 1))).bind Prod.snd) := by
  have out : resample series start stop n = (List.range n).map (found series start stop n) :=
    (resampled_range ordered window many n).out
  rw [out]
  refine ⟨by rw [List.length_map, List.length_range], fun i inside => ?_⟩
  rw [List.getElem?_map, List.getElem?_range inside]
  rfl

def twoAtOnce : Series ℚ ℚ where
  t := [1, 1, 3]
  v := [some 5, some 6, none]
  lengths := rfl

theorem resample_finds_two_at_once :
    (resample twoAtOnce 0 4 3)[0]? = some none ∧ (resample twoAtOnce 0 4 3)[1]? = some (some 6) ∧
      (resample twoAtOnce 0 4 3)[2]? = some none := by
  have ordered : twoAtOnce.t.Pairwise (· ≤ ·) := by decide +kernel
  have window : (0 : ℚ) < 4 := by norm_num
  have finds := (resample_finds ordered window (by decide : 2 ≤ 3)).2
  refine ⟨(finds 0 (by decide)).trans ?_, (finds 1 (by decide)).trans ?_,
    (finds 2 (by decide)).trans ?_⟩ <;> decide +kernel

end Run

end Resample

end NasaCpp.Web
