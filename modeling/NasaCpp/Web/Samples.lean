import Mathlib.Algebra.Order.Ring.Int
import NasaCpp.General.LastEntry
import NasaCpp.General.Maps

/-!
# The table of samples

The table `samples` of `nasa_web/storage.py`: for an entity and a whole second at most
one row.  A reading is what a row says with its second; the value type is a parameter.
-/

namespace NasaCpp.Web

open General

universe u

variable {ν : Type u}

structure Row (ν : Type u) where
  value : Option ν
  text : Option String
  deriving DecidableEq, Repr

/-- The columns of a row but the entity: what `_last` holds of it. -/
structure Reading (ν : Type u) where
  ts : ℤ
  value : Option ν
  text : Option String
  deriving DecidableEq, Repr

namespace Reading

def row (reading : Reading ν) : Row ν := { value := reading.value, text := reading.text }

def ofRow (ts : ℤ) (row : Row ν) : Reading ν := { ts, value := row.value, text := row.text }

@[simp] theorem ofRow_row (reading : Reading ν) : ofRow reading.ts reading.row = reading := rfl

end Reading

/-- The table, by entity and second. -/
abbrev SamplesTable (ν : Type u) := Std.TreeMap String (Std.TreeMap ℤ (Row ν))

namespace SamplesTable

def rowsOf (table : SamplesTable ν) (entityId : String) : Std.TreeMap ℤ (Row ν) :=
  table.getD entityId {}

def rowAt (table : SamplesTable ν) (key : String × ℤ) : Option (Row ν) :=
  (table.rowsOf key.1)[key.2]?

def insertOrReplace (table : SamplesTable ν) (sample : String × Reading ν) : SamplesTable ν :=
  table.insert sample.1 ((table.rowsOf sample.1).insert sample.2.ts sample.2.row)

def keyOf (sample : String × Reading ν) : String × ℤ := (sample.1, sample.2.ts)

theorem rowsOf_insertOrReplace (table : SamplesTable ν) (sample : String × Reading ν)
    (entityId : String) :
    (table.insertOrReplace sample).rowsOf entityId =
      if sample.1 = entityId then (table.rowsOf entityId).insert sample.2.ts sample.2.row
      else table.rowsOf entityId := by
  unfold insertOrReplace rowsOf
  rw [Std.TreeMap.getD_insert]
  simp only [Std.LawfulEqCmp.compare_eq_iff_eq]
  split
  · rename_i here
    rw [here]
  · rfl

/-- A row replaces what its key had. -/
theorem overwrites :
    Overwrites keyOf (@insertOrReplace ν) rowAt fun sample => sample.2.row where
  lookup_write table sample key := by
    obtain ⟨entityId, ts⟩ := key
    unfold rowAt
    rw [rowsOf_insertOrReplace]
    unfold keyOf
    simp only [Prod.mk.injEq]
    by_cases here : sample.1 = entityId
    · rw [if_pos here, Maps.lookup_insert]
      simp only [here, true_and]
    · rw [if_neg here, if_neg fun both => here both.1]

/-! ## The latest row -/

/-- The reading that `SELECT entity_id, MAX(ts), value, text … GROUP BY entity_id` has for
an entity: the other columns come from the row with the greatest second. -/
def latest (rows : Std.TreeMap ℤ (Row ν)) : Option (Reading ν) :=
  rows.maxKey?.bind fun ts => rows[ts]?.map (.ofRow ts)

theorem latest_insert {rows : Std.TreeMap ℤ (Row ν)} {ts : ℤ} (row : Row ν)
    (newest : ∀ other ∈ rows, other ≤ ts) : latest (rows.insert ts row) = some (.ofRow ts row) := by
  have top : (rows.insert ts row).maxKey? = some ts := by
    rw [Std.TreeMap.maxKey?_insert]
    cases hmax : rows.maxKey? with
    | none => rfl
    | some other =>
        have here : other ∈ rows := (Std.TreeMap.maxKey?_eq_some_iff_mem_and_forall.mp hmax).1
        have below : (compare other ts).isLE = true := Std.isLE_compare.mpr (newest other here)
        rw [Option.elim_some, if_pos below]
  unfold latest
  rw [top, Option.bind_some, Std.TreeMap.getElem?_insert_self, Option.map_some]

/-- No row is later than the latest. -/
theorem le_latest {rows : Std.TreeMap ℤ (Row ν)} {ts : ℤ} (member : ts ∈ rows) :
    ∃ reading, latest rows = some reading ∧ ts ≤ reading.ts := by
  unfold latest
  cases hmax : rows.maxKey? with
  | none =>
      exact absurd member
        (Std.TreeMap.not_mem_of_isEmpty (Std.TreeMap.maxKey?_eq_none_iff.mp hmax))
  | some top =>
      obtain ⟨here, above⟩ := Std.TreeMap.maxKey?_eq_some_iff_mem_and_forall.mp hmax
      obtain ⟨row, hrow⟩ :=
        Option.isSome_iff_exists.mp (Std.TreeMap.mem_iff_isSome_getElem?.mp here)
      refine ⟨.ofRow top row, ?_, Std.isLE_compare.mp (above ts member)⟩
      rw [Option.bind_some, hrow, Option.map_some]

theorem latest_empty : latest ({} : Std.TreeMap ℤ (Row ν)) = none := by
  unfold latest
  rw [Std.TreeMap.maxKey?_emptyc, Option.bind_none]

theorem mem_of_latest {rows : Std.TreeMap ℤ (Row ν)} {reading : Reading ν}
    (hlatest : latest rows = some reading) : reading.ts ∈ rows := by
  obtain ⟨ts, hmax, hrow⟩ := Option.bind_eq_some_iff.mp hlatest
  obtain ⟨row, -, rfl⟩ := Option.map_eq_some_iff.mp hrow
  exact (Std.TreeMap.maxKey?_eq_some_iff_mem_and_forall.mp hmax).1

/-! ## The raw history -/

/-- One position of the five lists that `history` returns. -/
structure Point (ν : Type u) where
  t : ℤ
  v : Option ν
  min : Option ν
  max : Option ν
  text : Option String
  deriving DecidableEq, Repr

def pointOf (t : ℤ) (row : Row ν) : Point ν :=
  { t, v := row.value, min := row.value, max := row.value, text := row.text }

/-- `history` with `aggregate=False`: the last row before the window, moved to its start,
and the rows of the window in their order. -/
def rawHistory (table : SamplesTable ν) (entityId : String) (start stop : ℤ) : List (Point ν) :=
  let rows := (table.rowsOf entityId).toList
  let before := (rows.filter fun row => row.1 < start).getLast?
  before.toList.map (fun row => pointOf start row.2) ++
    (rows.filter fun row => start ≤ row.1 ∧ row.1 ≤ stop).map fun row => pointOf row.1 row.2

/-- A row of the window is a point of the history. -/
theorem mem_rawHistory {table : SamplesTable ν} {entityId : String} {ts start stop : ℤ}
    {row : Row ν} (hrow : table.rowAt (entityId, ts) = some row) (low : start ≤ ts)
    (high : ts ≤ stop) : pointOf ts row ∈ table.rawHistory entityId start stop := by
  have member : (ts, row) ∈ (table.rowsOf entityId).toList :=
    Std.TreeMap.mem_toList_iff_getElem?_eq_some.mpr hrow
  refine List.mem_append_right _ (List.mem_map.mpr ⟨(ts, row), ?_, rfl⟩)
  exact List.mem_filter.mpr ⟨member, by simp [low, high]⟩

end SamplesTable

end NasaCpp.Web
