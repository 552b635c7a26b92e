import Mathlib.Data.Int.Interval
import Mathlib.Data.Rat.Floor
import Mathlib.Data.String.Basic
import NasaCpp.General.Grouping
import NasaCpp.Web.Samples

/-!
# The history

`history` of `nasa_web/storage.py`.  With more samples than points that are asked for, an
aggregated history has one point for each bucket: a multiple of the bucket width and what
follows it.  The rounded average is a parameter, as nothing but the curve depends on it.
-/

namespace NasaCpp.Web

open General

universe u

variable {ν : Type u}

abbrev TimedRow (ν : Type u) := ℤ × Row ν

namespace SamplesTable

/-- `before`: the value right before the window, as a list with at most one point. -/
def leading (table : SamplesTable ν) (entityId : String) (start : ℤ) : List (Point ν) :=
  let rows := (table.rowsOf entityId).toList
  ((rows.filter fun row => row.1 < start).getLast?).toList.map fun row => pointOf start row.2

/-- `ts BETWEEN start AND end … ORDER BY ts`. -/
def windowRows (table : SamplesTable ν) (entityId : String) (start stop : ℤ) : List (TimedRow ν) :=
  (table.rowsOf entityId).toList.filter fun row => start ≤ row.1 ∧ row.1 ≤ stop

/-- `max(1, math.ceil((end - start) / max_points))`; `none` is a `ZeroDivisionError`. -/
def bucketWidth (start stop maxPoints : ℤ) : Option ℤ :=
  if maxPoints = 0 then none else some (max 1 ⌈((stop - start : ℤ) : ℚ) / maxPoints⌉)

/-- `(ts / bucket) * bucket`; the division of integers goes towards zero. -/
def bucketStart (width ts : ℤ) : ℤ := ts.tdiv width * width

def buckets (width : ℤ) (rows : List (TimedRow ν)) : List (ℤ × List (TimedRow ν)) :=
  groupBy (fun row => bucketStart width row.1) rows

def valuesOf (rows : List (TimedRow ν)) : List ν := rows.filterMap fun row => row.2.value

section Order

variable [LinearOrder ν]

def bucketPoint (average : List ν → ν) (start : ℤ) (bucket : ℤ × List (TimedRow ν)) : Point ν where
  t := max bucket.1 start
  v := if valuesOf bucket.2 = [] then none else some (average (valuesOf bucket.2))
  min := aggregate min (bucket.2.map fun row => row.2.value)
  max := aggregate max (bucket.2.map fun row => row.2.value)
  text := aggregate max (bucket.2.map fun row => row.2.text)

def history (average : List ν → ν) (table : SamplesTable ν) (entityId : String)
    (start stop maxPoints : ℤ) (aggregated : Bool) : Option (List (Point ν)) :=
  let rows := table.windowRows entityId start stop
  if aggregated ∧ maxPoints < rows.length then
    (bucketWidth start stop maxPoints).map fun width =>
      table.leading entityId start ++ (buckets width rows).map (bucketPoint average start)
  else some (table.leading entityId start ++ rows.map fun row => pointOf row.1 row.2)

end Order

theorem rawHistory_eq (table : SamplesTable ν) (entityId : String) (start stop : ℤ) :
    table.rawHistory entityId start stop =
      table.leading entityId start ++
        (table.windowRows entityId start stop).map fun row => pointOf row.1 row.2 := rfl

theorem history_raw [LinearOrder ν] (average : List ν → ν) (table : SamplesTable ν)
    (entityId : String) (start stop maxPoints : ℤ) :
    history average table entityId start stop maxPoints false =
      some (table.rawHistory entityId start stop) := by
  rw [history, if_neg fun both => Bool.false_ne_true both.1]
  rfl

/-! ## The window -/

theorem windowRows_ascending (table : SamplesTable ν) (entityId : String) (start stop : ℤ) :
    (table.windowRows entityId start stop).Pairwise fun first second => first.1 < second.1 :=
  (Std.TreeMap.ordered_keys_toList.imp fun lt => compare_lt_iff_lt.mp lt).filter _

theorem leading_length (table : SamplesTable ν) (entityId : String) (start : ℤ) :
    (table.leading entityId start).length ≤ 1 := by
  rw [leading, List.length_map]
  exact Option.length_toList_le

theorem time_of_mem_leading {table : SamplesTable ν} {entityId : String} {start : ℤ}
    {point : Point ν} (hmem : point ∈ table.leading entityId start) : point.t = start := by
  obtain ⟨row, -, rfl⟩ := List.mem_map.mp hmem
  rfl

/-! ## The buckets -/

section Width

variable {start stop maxPoints width : ℤ}

theorem bucketWidth_spec (asked : 1 ≤ maxPoints)
    (hwidth : bucketWidth start stop maxPoints = some width) :
    1 ≤ width ∧ stop - start ≤ width * maxPoints := by
  rw [bucketWidth, if_neg (by omega)] at hwidth
  cases hwidth
  refine ⟨le_max_left _ _, ?_⟩
  have positive : (0 : ℚ) < maxPoints := by exact_mod_cast asked
  have ceiling : ((stop - start : ℤ) : ℚ) / maxPoints ≤
      (max 1 ⌈((stop - start : ℤ) : ℚ) / maxPoints⌉ : ℤ) :=
    (Int.le_ceil _).trans (by exact_mod_cast le_max_right _ _)
  exact_mod_cast (div_le_iff₀ positive).mp ceiling

theorem bucketStart_eq {ts : ℤ} (nonneg : 0 ≤ ts) : bucketStart width ts = ts / width * width := by
  rw [bucketStart, Int.tdiv_eq_ediv_of_nonneg nonneg]

theorem bucketStart_le {ts : ℤ} (positive : 1 ≤ width) (nonneg : 0 ≤ ts) :
    bucketStart width ts ≤ ts := by
  rw [bucketStart_eq nonneg]
  exact Int.ediv_mul_le ts (by omega)

/-- A bucket that reaches over the start of the window is one more than the points asked for. -/
theorem length_buckets_le {rows : List (TimedRow ν)} (asked : 1 ≤ maxPoints)
    (hwidth : bucketWidth start stop maxPoints = some width) (window : start < stop)
    (inside : ∀ row ∈ rows, 0 ≤ row.1 ∧ start ≤ row.1 ∧ row.1 ≤ stop) :
    ((buckets width rows).length : ℤ) ≤ maxPoints + 1 := by
  obtain ⟨positive, reach⟩ := bucketWidth_spec asked hwidth
  have values : (buckets width rows).length ≤
      ((Finset.Icc (start / width) (stop / width)).image (· * width)).card := by
    refine length_groupBy_le fun row hmem => ?_
    obtain ⟨nonneg, low, high⟩ := inside row hmem
    rw [bucketStart_eq nonneg]
    refine Finset.mem_image_of_mem _ (Finset.mem_Icc.mpr ⟨?_, ?_⟩)
    · exact Int.ediv_le_ediv (by omega) low
    · exact Int.ediv_le_ediv (by omega) high
  have multiples : stop / width ≤ start / width + maxPoints := by
    rw [← Int.add_mul_ediv_left start maxPoints (by omega)]
    exact Int.ediv_le_ediv (by omega) (by linarith)
  have ordered : start / width ≤ stop / width := Int.ediv_le_ediv (by omega) window.le
  have card := values.trans Finset.card_image_le
  rw [Int.card_Icc] at card
  omega

end Width

/-! ## Agreement with the raw history -/

theorem valuesOf_eq_nil_iff (rows : List (TimedRow ν)) :
    valuesOf rows = [] ↔ (rows.any fun row => row.2.value.isSome) = false := by
  rw [valuesOf, List.filterMap_eq_nil_iff, List.any_eq_false]
  exact forall₂_congr fun row _ => by rw [Option.not_isSome_iff_eq_none]

/-- Points that stand for parts of some rows have their extremes. -/
theorem aggregate_of_summaries {op : ν → ν → ν} [Std.Associative op] [Std.Commutative op]
    {field : Point ν → Option ν} {points : List (Point ν)} {parts : List (List (TimedRow ν))}
    {rows : List (TimedRow ν)}
    (each : List.Forall₂ (fun point part =>
      field point = aggregate op (part.map fun row => row.2.value)) points parts)
    (perm : parts.flatten.Perm rows) :
    aggregate op (points.map field) = aggregate op (rows.map fun row => row.2.value) := by
  have columns : points.map field =
      (parts.map fun part => part.map fun row => row.2.value).map (aggregate op) := by
    clear perm
    induction each with
    | nil => rfl
    | cons here _ ih => rw [List.map_cons, List.map_cons, List.map_cons, here, ih]
  rw [columns, aggregate_flatten, ← List.map_flatten]
  exact aggregate_perm op (perm.map _)

theorem aggregate_leading {op : ν → ν → ν} [Std.Associative op]
    (leading rest others : List (Point ν)) {field : Point ν → Option ν}
    (same : aggregate op (rest.map field) = aggregate op (others.map field)) :
    aggregate op ((leading ++ rest).map field) = aggregate op ((leading ++ others).map field) := by
  rw [List.map_append, List.map_append, aggregate_append, aggregate_append, same]

section Agreement

variable [LinearOrder ν]

/-- What a point says of the rows it stands for. -/
structure Summary (point : Point ν) (rows : List (TimedRow ν)) : Prop where
  nonempty : rows ≠ []
  time : ∀ row ∈ rows, point.t ≤ row.1
  value : point.v.isSome = rows.any fun row => row.2.value.isSome
  least : point.min = aggregate min (rows.map fun row => row.2.value)
  greatest : point.max = aggregate max (rows.map fun row => row.2.value)
  text : point.text = aggregate max (rows.map fun row => row.2.text)

/-- A history with few points that agrees with the raw one: both begin with the value before
the window, and every row of the window contributes to exactly one of the other points. -/
structure Downsamples (table : SamplesTable ν) (entityId : String) (start stop maxPoints : ℤ)
    (raw points : List (Point ν)) : Prop where
  length : (points.length : ℤ) ≤ maxPoints + 2
  ascending : points.Pairwise fun first second => first.t ≤ second.t
  inside : ∀ point ∈ points, start ≤ point.t ∧ point.t ≤ stop
  shares : ∃ others rest parts, raw = table.leading entityId start ++ others ∧
    points = table.leading entityId start ++ rest ∧
    (parts : List (List (TimedRow ν))).flatten.Perm (table.windowRows entityId start stop) ∧
    List.Forall₂ Summary rest parts
  least : aggregate min (points.map Point.min) = aggregate min (raw.map Point.min)
  greatest : aggregate max (points.map Point.max) = aggregate max (raw.map Point.max)

theorem summary_pointOf (row : TimedRow ν) : Summary (pointOf row.1 row.2) [row] where
  nonempty := List.cons_ne_nil _ _
  time other hmem := by
    rw [List.mem_singleton.mp hmem]
    exact le_rfl
  value := (Bool.or_false _).symm
  least := (aggregate_singleton _ _).symm
  greatest := (aggregate_singleton _ _).symm
  text := (aggregate_singleton _ _).symm

theorem summary_bucketPoint (average : List ν → ν) {start width : ℤ} {rows : List (TimedRow ν)}
    {bucket : ℤ × List (TimedRow ν)} (positive : 1 ≤ width) (hmem : bucket ∈ buckets width rows)
    (inside : ∀ row ∈ rows, 0 ≤ row.1 ∧ start ≤ row.1) :
    Summary (bucketPoint average start bucket) bucket.2 where
  nonempty := ne_nil_of_mem_groupBy hmem
  time row hrow := by
    obtain ⟨-, hgroup⟩ := mem_groupBy_iff.mp hmem
    rw [hgroup, List.mem_filter, decide_eq_true_iff] at hrow
    obtain ⟨hrow, hkey⟩ := hrow
    obtain ⟨nonneg, low⟩ := inside row hrow
    refine max_le ?_ low
    rw [← hkey]
    exact bucketStart_le positive nonneg
  value := by
    unfold bucketPoint
    dsimp only
    by_cases empty : valuesOf bucket.2 = []
    · rw [if_pos empty, (valuesOf_eq_nil_iff _).mp empty]
      rfl
    · rw [if_neg empty]
      exact (Bool.eq_true_of_not_eq_false (mt (valuesOf_eq_nil_iff _).mpr empty)).symm
  least := rfl
  greatest := rfl
  text := rfl

theorem exists_part {points : List (Point ν)} {parts : List (List (TimedRow ν))} {point : Point ν}
    (summaries : List.Forall₂ Summary points parts) (hmem : point ∈ points) :
    ∃ part ∈ parts, Summary point part := by
  induction summaries with
  | nil => cases hmem
  | cons here _ ih =>
      rcases List.mem_cons.mp hmem with rfl | later
      · exact ⟨_, List.mem_cons_self, here⟩
      · obtain ⟨part, hpart, summary⟩ := ih later
        exact ⟨part, List.mem_cons_of_mem _ hpart, summary⟩

/-- Points of the window that stand for parts of it, behind the value before the window. -/
theorem downsamples_of_summaries {table : SamplesTable ν} {entityId : String}
    {start stop maxPoints : ℤ} {rest : List (Point ν)} {parts : List (List (TimedRow ν))}
    (window : start < stop) (length : (rest.length : ℤ) ≤ maxPoints + 1)
    (ascending : rest.Pairwise fun first second => first.t ≤ second.t)
    (low : ∀ point ∈ rest, start ≤ point.t) (summaries : List.Forall₂ Summary rest parts)
    (perm : parts.flatten.Perm (table.windowRows entityId start stop)) :
    Downsamples table entityId start stop maxPoints (table.rawHistory entityId start stop)
      (table.leading entityId start ++ rest) where
  length := by
    have first := leading_length table entityId start
    rw [List.length_append]
    omega
  ascending := by
    refine List.pairwise_append.mpr ⟨?_, ascending, fun first hfirst second hsecond => ?_⟩
    · exact List.pairwise_of_forall_mem_list fun first hfirst second hsecond =>
        ((time_of_mem_leading hfirst).trans (time_of_mem_leading hsecond).symm).le
    · rw [time_of_mem_leading hfirst]
      exact low second hsecond
  inside point hmem := by
    rcases List.mem_append.mp hmem with leads | hrest
    · rw [time_of_mem_leading leads]
      exact ⟨le_rfl, window.le⟩
    · obtain ⟨part, hpart, summary⟩ := exists_part summaries hrest
      obtain ⟨row, hrow⟩ := List.exists_mem_of_ne_nil _ summary.nonempty
      have inWindow := perm.mem_iff.mp (List.mem_flatten.mpr ⟨part, hpart, hrow⟩)
      have high := (of_decide_eq_true (List.mem_filter.mp inWindow).2).2
      exact ⟨low point hrest, (summary.time row hrow).trans high⟩
  shares := ⟨_, rest, parts, rawHistory_eq table entityId start stop, rfl, perm, summaries⟩
  least := by
    rw [rawHistory_eq]
    refine aggregate_leading _ _ _ ?_
    rw [List.map_map]
    exact aggregate_of_summaries (summaries.imp fun _ _ summary => summary.least) perm
  greatest := by
    rw [rawHistory_eq]
    refine aggregate_leading _ _ _ ?_
    rw [List.map_map]
    exact aggregate_of_summaries (summaries.imp fun _ _ summary => summary.greatest) perm

/-- Rows one by one. -/
theorem forall₂_pointOf (rows : List (TimedRow ν)) :
    List.Forall₂ Summary (rows.map fun row => pointOf row.1 row.2) (rows.map fun row => [row]) := by
  rw [List.forall₂_map_left_iff, List.forall₂_map_right_iff]
  exact List.forall₂_same.mpr fun row _ => summary_pointOf row

theorem forall₂_bucketPoint (average : List ν → ν) {start width : ℤ} {rows : List (TimedRow ν)}
    (positive : 1 ≤ width) (inside : ∀ row ∈ rows, 0 ≤ row.1 ∧ start ≤ row.1) :
    List.Forall₂ Summary ((buckets width rows).map (bucketPoint average start))
      ((buckets width rows).map Prod.snd) := by
  rw [List.forall₂_map_left_iff, List.forall₂_map_right_iff]
  exact List.forall₂_same.mpr fun bucket hmem => summary_bucketPoint average positive hmem inside

theorem bucketPoint_ascending (average : List ν → ν) (start width : ℤ) (rows : List (TimedRow ν)) :
    ((buckets width rows).map (bucketPoint average start)).Pairwise
      fun first second => first.t ≤ second.t := by
  have keys : ((buckets width rows).map Prod.fst).Pairwise (· < ·) := groupBy_ascending
  rw [List.pairwise_map] at keys ⊢
  exact keys.imp fun lt => max_le_max_right start lt.le

section Window

variable {table : SamplesTable ν} {entityId : String} {start stop maxPoints : ℤ}

/-- A history with a point for each row. -/
theorem downsamples_rows (window : start < stop)
    (few : ((table.windowRows entityId start stop).length : ℤ) ≤ maxPoints) :
    Downsamples table entityId start stop maxPoints (table.rawHistory entityId start stop)
      (table.leading entityId start ++
        (table.windowRows entityId start stop).map fun row => pointOf row.1 row.2) := by
  refine downsamples_of_summaries window ?_ ?_ ?_ (forall₂_pointOf _) ?_
  · rw [List.length_map]
    omega
  · rw [List.pairwise_map]
    exact (windowRows_ascending table entityId start stop).imp le_of_lt
  · intro point hmem
    obtain ⟨row, hrow, rfl⟩ := List.mem_map.mp hmem
    exact (of_decide_eq_true (List.mem_filter.mp hrow).2).1
  · rw [← List.flatMap_def, List.flatMap_singleton']

/-- A history with a point for each bucket. -/
theorem downsamples_buckets (average : List ν → ν) {width : ℤ}
    (nonneg : ∀ row ∈ (table.rowsOf entityId).toList, 0 ≤ row.1) (window : start < stop)
    (asked : 1 ≤ maxPoints) (hwidth : bucketWidth start stop maxPoints = some width) :
    Downsamples table entityId start stop maxPoints (table.rawHistory entityId start stop)
      (table.leading entityId start ++ (buckets width (table.windowRows entityId start stop)).map
        (bucketPoint average start)) := by
  have inside : ∀ row ∈ table.windowRows entityId start stop,
      0 ≤ row.1 ∧ start ≤ row.1 ∧ row.1 ≤ stop := by
    intro row hmem
    obtain ⟨hrow, window⟩ := List.mem_filter.mp hmem
    exact ⟨nonneg row hrow, of_decide_eq_true window⟩
  have low := fun row hmem => And.intro (inside row hmem).1 (inside row hmem).2.1
  refine downsamples_of_summaries window ?_ (bucketPoint_ascending average start width _) ?_
    (forall₂_bucketPoint average (bucketWidth_spec asked hwidth).1 low) (groupBy_perm _ _)
  · rw [List.length_map]
    exact length_buckets_le asked hwidth window inside
  · intro point hmem
    obtain ⟨bucket, -, rfl⟩ := List.mem_map.mp hmem
    exact le_max_right _ _

end Window

/-- An aggregated history agrees with the raw one, whatever the average. -/
theorem history_downsamples (average : List ν → ν) {table : SamplesTable ν} {entityId : String}
    {start stop maxPoints : ℤ} (nonneg : ∀ row ∈ (table.rowsOf entityId).toList, 0 ≤ row.1)
    (window : start < stop) (asked : 1 ≤ maxPoints) :
    ∃ raw points, history average table entityId start stop maxPoints false = some raw ∧
      history average table entityId start stop maxPoints true = some points ∧
      Downsamples table entityId start stop maxPoints raw points := by
  refine ⟨table.rawHistory entityId start stop, ?_⟩
  rw [history_raw]
  by_cases many : maxPoints < (table.windowRows entityId start stop).length
  · obtain ⟨width, hwidth⟩ : ∃ width, bucketWidth start stop maxPoints = some width :=
      ⟨_, if_neg (by omega)⟩
    refine ⟨_, rfl, ?_, downsamples_buckets average nonneg window asked hwidth⟩
    rw [history, if_pos ⟨rfl, many⟩, hwidth]
    rfl
  · refine ⟨_, rfl, ?_, downsamples_rows window (not_lt.mp many)⟩
    rw [history, if_neg fun both => many both.2]

def fourSamples : SamplesTable ℚ :=
  [(1, some 5), (3, some 1), (4, none), (11, some 2)].foldl
    (fun table sample => table.insertOrReplace ("a", ⟨sample.1, sample.2, none⟩)) {}

/-- With one point asked for there are three: the first bucket reaches over the start. -/
theorem history_downsamples_three :
    ∃ raw points, history List.sum fourSamples "a" 2 11 1 false = some raw ∧
      history List.sum fourSamples "a" 2 11 1 true = some points ∧ points.length = 3 ∧
      Downsamples fourSamples "a" 2 11 1 raw points := by
  have few : (history List.sum fourSamples "a" 2 11 1 true).map List.length = some 3 := by
    decide +kernel
  obtain ⟨raw, points, hraw, hpoints, downsamples⟩ :=
    @history_downsamples ℚ _ List.sum fourSamples "a" 2 11 1 (by decide +kernel) (by decide)
      (by decide)
  rw [hpoints] at few
  exact ⟨raw, points, hraw, hpoints, Option.some.inj few, downsamples⟩

end Agreement

end SamplesTable

end NasaCpp.Web
