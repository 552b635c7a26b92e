import NasaCpp.General.Machine
import NasaCpp.General.Rounding
import NasaCpp.Web.Entities
import NasaCpp.Web.Samples

/-!
# The history database

`Storage` of `nasa_web/storage.py` queues the samples it accepts and writes the queue
into an SQLite database from time to time.  The connection sees what it has written,
the file what has been committed.  A statement that raises has no effect of its own and
ends the call; what the call did before stays.  Only `flush` is given statements that raise:
those of `save_entity` and `delete_entity` are assumed not to.
-/

namespace NasaCpp.Web

open Bridge General

/-- `==` on `float | None`. -/
def sameValue : Option PyFloat → Option PyFloat → Bool
  | none, none => true
  | some x, some y => x.eq y
  | _, _ => false

abbrev Sample := String × Reading PyFloat

namespace Sample

def stored (sample : Sample) : Sample :=
  (sample.1, { sample.2 with value := sample.2.value.bind PyFloat.bind })

def storeIn (table : SamplesTable PyFloat) (sample : Sample) : SamplesTable PyFloat :=
  table.insertOrReplace sample.stored

theorem overwrites :
    Overwrites SamplesTable.keyOf storeIn SamplesTable.rowAt
      fun sample => (stored sample).2.row where
  lookup_write table sample key := SamplesTable.overwrites.lookup_write table (stored sample) key

end Sample

/-! ## The database -/

/-- A row of the table `entities` without its key. -/
structure EntityRow where
  platform : String
  config : EntityConfig
  value : Option PyFloat := none
  text : Option String := none
  updated : Option ℚ := none

structure Database where
  samples : SamplesTable PyFloat := {}
  entities : Std.TreeMap String EntityRow := {}

namespace Database

def insertSample (db : Database) (sample : Sample) : Database :=
  { db with samples := Sample.storeIn db.samples sample }

def updateEntity (db : Database) (sample : Sample) : Database :=
  { db with
    entities := db.entities.modify sample.1 fun row =>
      { row with
        value := sample.stored.2.value
        text := sample.2.text
        updated := some sample.2.ts } }

/-- The upsert of `save_entity`, which keeps the state of a row that is there. -/
def saveEntity (db : Database) (entityId platform : String) (config : EntityConfig) : Database :=
  { db with
    entities := db.entities.insert entityId
      (match db.entities[entityId]? with
        | some row => { row with platform, config }
        | none => { platform, config }) }

def deleteEntity (db : Database) (entityId : String) : Database :=
  { db with entities := db.entities.erase entityId }

end Database

/-- Where a call of `flush` raises: at an `INSERT` or `UPDATE`, counted from the first, or
at the commit. -/
inductive Fault where
  | inserting (row : Nat)
  | updating (row : Nat)
  | committing
  deriving DecidableEq, Repr

def Fault.insertOf : Option Fault → Option Nat
  | some (.inserting row) => some row
  | _ => none

def Fault.updateOf : Option Fault → Option Nat
  | some (.updating row) => some row
  | _ => none

/-- `executemany`: one statement after the other up to one that raises, and whether none did. -/
def executeMany {δ α : Type} (statement : δ → α → δ) (raising : Option Nat) (db : δ)
    (rows : List α) : δ × Bool :=
  match raising with
  | none => (rows.foldl statement db, true)
  | some row =>
      if row < rows.length then ((rows.take row).foldl statement db, false)
      else (rows.foldl statement db, true)

theorem executeMany_cases {δ α : Type} (statement : δ → α → δ) (raising : Option Nat) (db : δ)
    (rows : List α) :
    (∃ row, raising = some row ∧ row < rows.length) ∧
        (executeMany statement raising db rows).2 = false ∨
      ¬ (∃ row, raising = some row ∧ row < rows.length) ∧
        executeMany statement raising db rows = (rows.foldl statement db, true) := by
  unfold executeMany
  cases raising with
  | none => exact .inr ⟨nofun, rfl⟩
  | some row =>
      by_cases inside : row < rows.length
      · exact .inl ⟨⟨row, rfl, inside⟩, congrArg Prod.snd (if_pos inside)⟩
      · refine .inr ⟨?_, if_neg inside⟩
        rintro ⟨other, hother, below⟩
        cases hother
        exact inside below

/-- `latest[entity_id] = …` on a dictionary in insertion order. -/
def setLatest (latest : List Sample) (sample : Sample) : List Sample :=
  if latest.any fun other => other.1 = sample.1 then
    latest.map fun other => if other.1 = sample.1 then sample else other
  else latest ++ [sample]

/-! ## The store -/

structure Storage where
  heartbeat : ℤ
  minInterval : ℤ
  pending : List Sample := []
  last : Std.TreeMap String (Reading PyFloat)
  db : Database
  committed : Database

namespace Storage

def init (file : Database) (heartbeatSeconds : ℤ := 300) (minIntervalSeconds : ℤ := 0) :
    Storage where
  heartbeat := heartbeatSeconds
  minInterval := minIntervalSeconds
  last := file.samples.filterMap fun _ rows => SamplesTable.latest rows
  db := file
  committed := file

/-- The two reasons of `record` to return `False`. -/
def Throttles (storage : Storage) (sample : Sample) : Prop :=
  ∃ last, storage.last[sample.1]? = some last ∧
    ((sameValue last.value sample.2.value = true ∧ last.text = sample.2.text) ∧
        sample.2.ts - last.ts < storage.heartbeat ∨
      sample.2.text = none ∧ sample.2.ts - last.ts < storage.minInterval)

instance (storage : Storage) (sample : Sample) : Decidable (storage.Throttles sample) :=
  match hlast : storage.last[sample.1]? with
  | none =>
      isFalse (by
        rintro ⟨last, hsome, -⟩
        rw [hlast] at hsome
        cases hsome)
  | some last =>
      decidable_of_iff
        ((sameValue last.value sample.2.value = true ∧ last.text = sample.2.text) ∧
            sample.2.ts - last.ts < storage.heartbeat ∨
          sample.2.text = none ∧ sample.2.ts - last.ts < storage.minInterval)
        ⟨fun throttled => ⟨last, hlast, throttled⟩, by
          rintro ⟨other, hsome, throttled⟩
          rw [hlast] at hsome
          cases hsome
          exact throttled⟩

def accept (storage : Storage) (sample : Sample) : Storage :=
  { storage with
    last := storage.last.insert sample.1 sample.2
    pending := storage.pending ++ [sample] }

/-- The sample of a call of `record`, in its whole second. -/
def sampleOf (entityId : String) (value : Option PyFloat) (text : Option String) (ts : ℚ) :
    Sample :=
  (entityId, { ts := Rounding.trunc ts, value, text })

/-- `record`, where `ts` is the time of the call if none is given. -/
def record (storage : Storage) (entityId : String) (value : Option PyFloat)
    (text : Option String) (ts : ℚ) : Storage × Bool :=
  let sample := sampleOf entityId value text ts
  if storage.Throttles sample then (storage, false) else (storage.accept sample, true)

/-- `flush`; `none` is an exception. -/
def flush (storage : Storage) (fault : Option Fault) : Storage × Option Nat :=
  let pending := storage.pending
  let storage := { storage with pending := [] }
  if pending = [] then (storage, some 0)
  else
    let (db, inserted) :=
      executeMany Database.insertSample (Fault.insertOf fault) storage.db pending
    if inserted = false then ({ storage with db }, none)
    else
      let (db, updated) :=
        executeMany Database.updateEntity (Fault.updateOf fault) db (pending.foldl setLatest [])
      if updated = false then ({ storage with db }, none)
      else if fault = some .committing then ({ storage with db }, none)
      else ({ storage with db, committed := db }, some pending.length)

def saveEntity (storage : Storage) (entityId platform : String) (config : EntityConfig) :
    Storage :=
  let db := storage.db.saveEntity entityId platform config
  { storage with db, committed := db }

def deleteEntity (storage : Storage) (entityId : String) : Storage :=
  let db := storage.db.deleteEntity entityId
  { storage with db, committed := db }

/-- `close`: what is not committed is lost with the connection. -/
def close (storage : Storage) : Database := (storage.flush none).1.committed

/-! ## What a call does -/

def written (storage : Storage) : SamplesTable PyFloat :=
  storage.pending.foldl Sample.storeIn storage.db.samples

theorem samples_foldl_insertSample (db : Database) (samples : List Sample) :
    (samples.foldl Database.insertSample db).samples =
      samples.foldl Sample.storeIn db.samples := by
  induction samples generalizing db with
  | nil => rfl
  | cons sample samples ih => exact ih _

theorem samples_executeMany_updateEntity (raising : Option Nat) (db : Database)
    (rows : List Sample) :
    (executeMany Database.updateEntity raising db rows).1.samples = db.samples := by
  have kept (rows : List Sample) (db : Database) :
      (rows.foldl Database.updateEntity db).samples = db.samples := by
    induction rows generalizing db with
    | nil => rfl
    | cons row rows ih => exact ih _
  unfold executeMany
  split
  · exact kept _ _
  · split <;> exact kept _ _

def InsertFails (storage : Storage) (fault : Option Fault) : Prop :=
  ∃ row, Fault.insertOf fault = some row ∧ row < storage.pending.length

instance (storage : Storage) (fault : Option Fault) : Decidable (storage.InsertFails fault) :=
  decidable_of_iff ((Fault.insertOf fault).any (· < storage.pending.length) = true)
    (by simp [InsertFails, Option.any_eq_true])

/-- The outcomes of `flush`: there is nothing to write, an `INSERT` raises, or the whole queue
is in the table, whether the rest of the call and with it the commit succeeds or not. -/
theorem flush_cases (storage : Storage) (fault : Option Fault) :
    storage.pending = [] ∧ storage.flush fault = (storage, some 0) ∨
      storage.pending ≠ [] ∧ storage.InsertFails fault ∧ (storage.flush fault).2 = none ∨
      storage.pending ≠ [] ∧ ¬ storage.InsertFails fault ∧ ∃ db, db.samples = storage.written ∧
        (storage.flush fault = ({ storage with pending := [], db }, none) ∨
          storage.flush fault =
            ({ storage with pending := [], db, committed := db },
              some storage.pending.length)) := by
  unfold flush
  dsimp only
  by_cases empty : storage.pending = []
  · refine .inl ⟨empty, ?_⟩
    rw [if_pos empty, ← empty]
  right
  rw [if_neg empty]
  rcases executeMany_cases Database.insertSample (Fault.insertOf fault) storage.db
    storage.pending with ⟨fails, hraised⟩ | ⟨succeeds, hinserted⟩
  · exact .inl ⟨empty, fails, by rw [if_pos hraised]⟩
  refine .inr ⟨empty, succeeds, ?_⟩
  rw [hinserted]
  dsimp only
  rw [if_neg (by decide)]
  generalize hdb : storage.pending.foldl Database.insertSample storage.db = db
  have samples : (executeMany Database.updateEntity (Fault.updateOf fault) db
      (storage.pending.foldl setLatest [])).1.samples = storage.written := by
    rw [samples_executeMany_updateEntity, ← hdb, samples_foldl_insertSample, written]
  refine ⟨_, samples, ?_⟩
  split
  · exact .inl rfl
  · split
    · exact .inl rfl
    · exact .inr rfl

/-! ## Runs -/

inductive Event where
  | record (entityId : String) (value : Option PyFloat) (text : Option String) (ts : ℚ)
  | flush (fault : Option Fault)
  deriving DecidableEq, Repr

/-- What the calls return; a sample comes with the answer of `record` to it. -/
inductive Output where
  | recorded (sample : Sample) (accepted : Bool)
  | flushed (count : Option Nat)
  deriving DecidableEq, Repr

def step (storage : Storage) : Event → Storage × Output
  | .record entityId value text ts =>
      ((storage.record entityId value text ts).1,
        .recorded (sampleOf entityId value text ts) (storage.record entityId value text ts).2)
  | .flush fault => ((storage.flush fault).1, .flushed (storage.flush fault).2)

/-- `record` drops a throttled sample and accepts any other. -/
theorem step_record (storage : Storage) (entityId : String) (value : Option PyFloat)
    (text : Option String) (ts : ℚ) :
    storage.Throttles (sampleOf entityId value text ts) ∧
        storage.step (.record entityId value text ts) =
          (storage, .recorded (sampleOf entityId value text ts) false) ∨
      ¬ storage.Throttles (sampleOf entityId value text ts) ∧
        storage.step (.record entityId value text ts) =
          (storage.accept (sampleOf entityId value text ts),
            .recorded (sampleOf entityId value text ts) true) := by
  unfold step record
  by_cases throttled : storage.Throttles (sampleOf entityId value text ts)
  · refine .inl ⟨throttled, ?_⟩
    simp only [if_pos throttled]
  · refine .inr ⟨throttled, ?_⟩
    simp only [if_neg throttled]

def machine : Machine Storage Event Output where
  step storage event := some ((storage.step event).1, [(storage.step event).2])

def accepted (outs : List Output) : List Sample :=
  outs.filterMap fun
    | .recorded sample true => some sample
    | _ => none

def times (events : List Event) : List ℚ :=
  events.filterMap fun
    | .record _ _ _ ts => some ts
    | .flush _ => none

@[simp] theorem accepted_append (first second : List Output) :
    accepted (first ++ second) = accepted first ++ accepted second :=
  List.filterMap_append

end Storage

end NasaCpp.Web
