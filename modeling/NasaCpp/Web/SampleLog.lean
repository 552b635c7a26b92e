import NasaCpp.Web.Storage

/-!
# Accepted samples

What becomes of a sample after `record` has returned `True`.  As long as no `INSERT`
raises, the accepted samples are those written, in their order, followed by the queue, so
each of them is queued, a row, or replaced by a later one of the same entity and second.
An `INSERT` that raises loses the rest of a queue that has already been taken away.
-/

namespace NasaCpp.Web.Storage

open General SamplesTable

/-! ## The log -/

/-- The accepted samples are those in the table and then those of the queue. -/
def Logged (table : SamplesTable PyFloat) (storage : Storage) (log : List Sample) : Prop :=
  ∃ done, log = done ++ storage.pending ∧
    storage.db.samples = done.foldl Sample.storeIn table

theorem Logged.written {table : SamplesTable PyFloat} {storage : Storage} {log : List Sample}
    (logged : Logged table storage log) : storage.written = log.foldl Sample.storeIn table := by
  obtain ⟨done, rfl, hsamples⟩ := logged
  rw [Storage.written, hsamples, List.foldl_append]

/-- The call does not lose a row: if it is a `flush`, no `INSERT` of it raises. -/
def InsertsSucceed (storage : Storage) : Event → Prop
  | .record _ _ _ _ => True
  | .flush fault => ¬ storage.InsertFails fault

instance (storage : Storage) : ∀ event : Event, Decidable (storage.InsertsSucceed event)
  | .record _ _ _ _ => isTrue trivial
  | .flush _ => inferInstanceAs (Decidable (¬ _))

theorem Logged.flush {table : SamplesTable PyFloat} {storage : Storage} {log : List Sample}
    (logged : Logged table storage log) {fault : Option Fault}
    (succeeds : ¬ storage.InsertFails fault) : Logged table (storage.flush fault).1 log := by
  have whole := logged.written
  rcases storage.flush_cases fault with
    ⟨-, hflush⟩ | ⟨-, fails, -⟩ | ⟨-, -, db, samples, hflush | hflush⟩
  · rw [hflush]
    exact logged
  · exact absurd fails succeeds
  · rw [hflush]
    exact ⟨log, (List.append_nil log).symm, samples.trans whole⟩
  · rw [hflush]
    exact ⟨log, (List.append_nil log).symm, samples.trans whole⟩

theorem Logged.step {table : SamplesTable PyFloat} {storage : Storage} {log : List Sample}
    (logged : Logged table storage log) {event : Event}
    (succeeds : storage.InsertsSucceed event) :
    Logged table (storage.step event).1 (log ++ accepted [(storage.step event).2]) := by
  cases event with
  | record entityId value text ts =>
      obtain ⟨done, rfl, hsamples⟩ := logged
      rcases storage.step_record entityId value text ts with ⟨-, hstep⟩ | ⟨-, hstep⟩
      · rw [hstep]
        exact ⟨done, List.append_nil _, hsamples⟩
      · rw [hstep]
        exact ⟨done, List.append_assoc _ _ _, hsamples⟩
  | flush fault =>
      have silent : accepted [(storage.step (.flush fault)).2] = [] := rfl
      rw [silent, List.append_nil]
      exact logged.flush succeeds

/-- In a run without a failing `INSERT` nothing accepted is forgotten. -/
theorem logged_run {file : Database} {heartbeat minInterval : ℤ} {events : List Event}
    {last : Storage} {outs : List Output}
    (hrun : machine.run (init file heartbeat minInterval) events = some (last, outs))
    (along : machine.Along InsertsSucceed (init file heartbeat minInterval) events) :
    Logged file.samples last (accepted outs) := by
  refine machine.run_history_along
    (fun _ storage outs => Logged file.samples storage (accepted outs)) ?_ ⟨[], rfl, rfl⟩ along hrun
  intro _ storage outs event next new logged succeeds hstep
  cases hstep
  rw [accepted_append]
  exact logged.step succeeds

/-! ## Nothing is lost -/

/-- The sample is a row of the table, or one of the later samples has its entity and second. -/
def Persists (table : SamplesTable PyFloat) (sample : Sample) (later : List Sample) : Prop :=
  table.rowAt (keyOf sample) = some (Sample.stored sample).2.row ∨
    ∃ other ∈ later, keyOf other = keyOf sample

theorem Logged.persists {table : SamplesTable PyFloat} {storage : Storage}
    {front rest : List Sample} {sample : Sample}
    (logged : Logged table storage (front ++ sample :: rest)) :
    sample ∈ storage.pending ∨ Persists storage.db.samples sample rest := by
  obtain ⟨done, hlog, hsamples⟩ := logged
  rcases List.append_eq_append_iff.mp hlog with ⟨behind, hdone, hqueue⟩ | ⟨queued, -, hpending⟩
  · cases behind with
    | nil =>
        rw [List.nil_append] at hqueue
        exact .inl (hqueue ▸ List.mem_cons_self)
    | cons first behind =>
        rw [List.cons_append, List.cons.injEq] at hqueue
        obtain ⟨rfl, rfl⟩ := hqueue
        rw [hsamples, hdone]
        refine .inr ((Sample.overwrites.lookup_mid table front behind sample).imp_right ?_)
        rintro ⟨other, hmem, same⟩
        exact ⟨other, List.mem_append_left _ hmem, same⟩
  · rw [hpending]
    exact .inl (List.mem_append_right _ List.mem_cons_self)

/-- A call of `flush` that returns has the whole queue in the table, committed if there was one. -/
theorem flush_succeeds {storage flushed : Storage} {fault : Option Fault} {count : Nat}
    (hflush : storage.flush fault = (flushed, some count)) :
    flushed.db.samples = storage.written ∧ flushed.pending = [] ∧
      (0 < count → flushed.committed = flushed.db) := by
  rcases storage.flush_cases fault with
    ⟨empty, hcase⟩ | ⟨-, -, hraised⟩ | ⟨-, -, db, samples, hcase | hcase⟩
  · rw [hcase] at hflush
    cases hflush
    refine ⟨?_, empty, fun impossible => absurd impossible (Nat.lt_irrefl 0)⟩
    rw [Storage.written, empty]
    rfl
  · rw [hflush] at hraised
    cases hraised
  · rw [hcase] at hflush
    cases hflush
  · rw [hcase] at hflush
    cases hflush
    exact ⟨samples, rfl, fun _ => rfl⟩

/-- In a run in which no `INSERT` raises each accepted sample is queued, a row or replaced,
and after the next call of `flush` that returns it is a row or replaced. -/
theorem samples_persist {file : Database} {heartbeat minInterval : ℤ} {events : List Event}
    {last : Storage} {outs : List Output}
    (hrun : machine.run (init file heartbeat minInterval) events = some (last, outs))
    (along : machine.Along InsertsSucceed (init file heartbeat minInterval) events) :
    (∀ front sample rest, accepted outs = front ++ sample :: rest →
        sample ∈ last.pending ∨ Persists last.db.samples sample rest) ∧
      ∀ fault flushed count, last.flush fault = (flushed, some count) →
        (∀ front sample rest, accepted outs = front ++ sample :: rest →
            Persists flushed.db.samples sample rest) ∧
          (0 < count → flushed.committed = flushed.db) := by
  have logged := logged_run hrun along
  refine ⟨fun front sample rest hlog => ?_, fun fault flushed count hflush => ?_⟩
  · rw [hlog] at logged
    exact logged.persists
  · obtain ⟨samples, -, committed⟩ := flush_succeeds hflush
    refine ⟨fun front sample rest hlog => ?_, committed⟩
    unfold Persists
    rw [samples, logged.written, hlog]
    exact Sample.overwrites.lookup_mid file.samples front rest sample

/-- The commit of the first sample raises, a second one is queued, and both get written. -/
theorem samples_persist_failed_commit :
    ∃ last outs, machine.run (init {}) [.record "a" (some (.finite 1)) none 1000,
        .flush (some .committing), .record "a" (some (.finite 2)) none 1001] = some (last, outs) ∧
      Persists (last.flush none).1.db.samples (sampleOf "a" (some (.finite 1)) none 1000)
        [sampleOf "a" (some (.finite 2)) none 1001] := by
  have log : (machine.run (init {}) [.record "a" (some (.finite 1)) none 1000,
      .flush (some .committing), .record "a" (some (.finite 2)) none 1001]).map
        (fun result => (accepted result.2, (result.1.flush none).2)) =
      some ([sampleOf "a" (some (.finite 1)) none 1000,
        sampleOf "a" (some (.finite 2)) none 1001], some 1) := by
    decide +kernel
  obtain ⟨⟨last, outs⟩, hrun, hlog⟩ := Option.map_eq_some_iff.mp log
  rw [Prod.mk.injEq] at hlog
  refine ⟨last, outs, hrun, ?_⟩
  have persists := (samples_persist hrun (by decide +kernel)).2 none _ 1 (Prod.ext rfl hlog.2)
  exact persists.1 [] _ _ hlog.1

/-- The first `INSERT` of the only sample raises: it is not queued and will never be a row. -/
theorem not_samples_persist_failed_insert :
    ¬ ∀ (file : Database) (heartbeat minInterval : ℤ) (events : List Event) (last : Storage)
      (outs : List Output),
      machine.run (init file heartbeat minInterval) events = some (last, outs) →
        ∀ fault flushed count, last.flush fault = (flushed, some count) →
          ∀ front sample rest, accepted outs = front ++ sample :: rest →
            Persists flushed.db.samples sample rest := by
  intro all
  have log : (machine.run (init {}) [.record "a" (some (.finite 1)) none 1000,
      .flush (some (.inserting 0))]).map (fun result =>
        (accepted result.2, (result.1.flush none).2,
          (result.1.flush none).1.db.samples.rowAt ("a", 1000))) =
      some ([sampleOf "a" (some (.finite 1)) none 1000], some 0, none) := by
    decide +kernel
  obtain ⟨⟨last, outs⟩, hrun, hlog⟩ := Option.map_eq_some_iff.mp log
  rw [Prod.mk.injEq, Prod.mk.injEq] at hlog
  obtain ⟨haccepted, hcount, habsent⟩ := hlog
  rcases all {} 300 0 _ last outs hrun none _ 0 (Prod.ext rfl hcount) [] _ [] haccepted with
    present | ⟨_, impossible, -⟩
  · have key : keyOf (sampleOf "a" (some (.finite 1)) none 1000) = ("a", 1000) := by
      decide +kernel
    rw [key, habsent] at present
    cases present
  · cases impossible

end NasaCpp.Web.Storage
