import NasaCpp.Web.StoredStates

/-!
# Restarts

`Storage.__init__` fills the cache with the latest row of each entity.  As long as time
does not run backwards the last accepted sample of an entity is its latest row once the
queue is written, so a store that is closed and opened again answers and stores what the
old one would have.
-/

namespace NasaCpp.Web.Storage

open General SamplesTable

def answers (outs : List Output) : List Bool :=
  outs.filterMap fun
    | .recorded _ accepted => some accepted
    | .flushed _ => none

@[simp] theorem answers_append (first second : List Output) :
    answers (first ++ second) = answers first ++ answers second :=
  List.filterMap_append

def IsNumber : Event → Prop
  | .record _ value _ _ => value ≠ some .nan
  | .flush _ => True

instance : ∀ event : Event, Decidable (IsNumber event)
  | .record _ _ _ _ => inferInstanceAs (Decidable (_ ≠ _))
  | .flush _ => isTrue trivial

/-! ## Writing the queue -/

/-- Everything written is committed, and a call of `flush` commits the queue too. -/
theorem flush_committed {storage : Storage} (saved : storage.committed = storage.db) :
    ∃ db count, db.samples = storage.written ∧
      storage.flush none = ({ storage with pending := [], db, committed := db }, some count) := by
  obtain ⟨flushed, count, hflush⟩ := flush_none storage
  rcases storage.flush_cases none with
    ⟨empty, hcase⟩ | ⟨-, -, hraised⟩ | ⟨-, -, db, samples, hcase | hcase⟩
  · refine ⟨storage.db, 0, ?_, ?_⟩
    · rw [written, empty]
      rfl
    · rw [hcase]
      obtain ⟨heartbeat, minInterval, pending, last, db, committed⟩ := storage
      cases empty
      cases saved
      rfl
  · rw [hflush] at hraised
    cases hraised
  · rw [hcase] at hflush
    cases hflush
  · exact ⟨db, _, samples, hcase⟩

theorem samples_close {storage : Storage} (saved : storage.committed = storage.db) :
    storage.close.samples = storage.written := by
  obtain ⟨db, count, samples, hflush⟩ := flush_committed saved
  rw [close, hflush]
  exact samples

theorem written_of_empty {storage : Storage} (empty : storage.pending = []) :
    storage.written = storage.db.samples := by
  rw [written, empty]
  rfl

theorem written_init (file : Database) (heartbeat minInterval : ℤ) :
    (init file heartbeat minInterval).written = file.samples :=
  written_of_empty rfl

theorem written_accept (storage : Storage) (sample : Sample) :
    (storage.accept sample).written = Sample.storeIn storage.written sample := by
  unfold written accept
  rw [List.foldl_append]
  rfl

/-! ## The cache and the table -/

/-- What the cache and the file tell about the samples so far. -/
structure Reflects (storage : Storage) : Prop where
  saved : storage.committed = storage.db
  latest : ∀ entityId : String, storage.last[entityId]? = latest (storage.written.rowsOf entityId)

def Follows (storage : Storage) (events : List Event) : Prop :=
  ∀ ts ∈ times events, ∀ (entityId : String) (reading : Reading PyFloat),
    storage.last[entityId]? = some reading → reading.ts ≤ Rounding.trunc ts

theorem reflects_init (file : Database) (heartbeat minInterval : ℤ) :
    (init file heartbeat minInterval).Reflects where
  saved := rfl
  latest entityId := by
    rw [written_init]
    change (file.samples.filterMap fun _ rows => SamplesTable.latest rows)[entityId]? = _
    rw [Std.TreeMap.getElem?_filterMap', rowsOf, Std.TreeMap.getD_eq_getD_getElem?]
    change _ = SamplesTable.latest (file.samples[entityId]?.getD {})
    cases file.samples[entityId]? with
    | none => exact latest_empty.symm
    | some rows => rfl

theorem rowsOf_storeIn (table : SamplesTable PyFloat) {sample : Sample}
    (number : sample.2.value ≠ some .nan) (entityId : String) :
    (Sample.storeIn table sample).rowsOf entityId =
      if sample.1 = entityId then (table.rowsOf entityId).insert sample.2.ts sample.2.row
      else table.rowsOf entityId := by
  rw [Sample.storeIn, stored_of_number number]
  exact rowsOf_insertOrReplace table sample entityId

/-- A sample that is not older than the latest of its entity becomes the latest. -/
theorem Reflects.accept {storage : Storage} (reflects : storage.Reflects) {sample : Sample}
    (number : sample.2.value ≠ some .nan)
    (newest : ∀ reading, storage.last[sample.1]? = some reading → reading.ts ≤ sample.2.ts) :
    (storage.accept sample).Reflects where
  saved := reflects.saved
  latest entityId := by
    rw [written_accept, rowsOf_storeIn _ number]
    change (storage.last.insert sample.1 sample.2)[entityId]? = _
    rw [Maps.lookup_insert]
    by_cases here : sample.1 = entityId
    · rw [if_pos here, if_pos here, latest_insert sample.2.row, Reading.ofRow_row]
      intro ts member
      obtain ⟨reading, hlatest, below⟩ := le_latest member
      rw [← reflects.latest, ← here] at hlatest
      exact below.trans (newest reading hlatest)
    · rw [if_neg here, if_neg here, reflects.latest]

theorem Reflects.flush {storage : Storage} (reflects : storage.Reflects) :
    (storage.flush none).1.Reflects := by
  obtain ⟨db, count, samples, hflush⟩ := flush_committed reflects.saved
  rw [hflush]
  refine ⟨rfl, fun entityId => ?_⟩
  rw [written_of_empty rfl, samples]
  exact reflects.latest entityId

theorem Follows.accept {storage : Storage} {sample : Sample} {events : List Event}
    (follows : storage.Follows events)
    (later : ∀ ts ∈ times events, sample.2.ts ≤ Rounding.trunc ts) :
    (storage.accept sample).Follows events := by
  intro ts member entityId reading hlast
  change (storage.last.insert sample.1 sample.2)[entityId]? = some reading at hlast
  rw [Maps.lookup_insert] at hlast
  split at hlast
  · cases hlast
    exact later ts member
  · exact follows ts member entityId reading hlast

theorem reflects_run {storage last : Storage} {events : List Event} {outs : List Output}
    (reflects : storage.Reflects) (follows : storage.Follows events)
    (ordered : (times events).Pairwise (· ≤ ·)) (succeed : ∀ event ∈ events, Succeeds event)
    (numbers : ∀ event ∈ events, IsNumber event)
    (hrun : machine.run storage events = some (last, outs)) : last.Reflects := by
  induction events generalizing storage outs with
  | nil =>
      cases hrun
      exact reflects
  | cons event events ih =>
      obtain ⟨next, first, rest, hstep, hrest, -⟩ := machine.run_cons_eq_some.mp hrun
      have succeedLater := fun other hmem => succeed other (List.mem_cons_of_mem _ hmem)
      have numbersLater := fun other hmem => numbers other (List.mem_cons_of_mem _ hmem)
      cases hstep
      cases event with
      | record entityId value text ts =>
          obtain ⟨notBefore, orderedLater⟩ := List.pairwise_cons.mp ordered
          have followsLater : storage.Follows events := fun other hmem =>
            follows other (List.mem_cons_of_mem _ hmem)
          refine ih ?_ ?_ orderedLater succeedLater numbersLater hrest <;>
            rcases storage.step_record entityId value text ts with ⟨-, hstep⟩ | ⟨-, hstep⟩ <;>
            rw [hstep]
          · exact reflects
          · exact reflects.accept (numbers _ List.mem_cons_self)
              (follows ts List.mem_cons_self entityId)
          · exact followsLater
          · exact followsLater.accept fun other hmem => Rounding.trunc_mono (notBefore other hmem)
      | flush fault =>
          cases succeed _ List.mem_cons_self
          refine ih reflects.flush ?_ ordered succeedLater numbersLater hrest
          obtain ⟨db, count, -, hflush⟩ := flush_committed reflects.saved
          rw [hflush]
          exact follows

theorem settings_flush (storage : Storage) (fault : Option Fault) :
    (storage.flush fault).1.heartbeat = storage.heartbeat ∧
      (storage.flush fault).1.minInterval = storage.minInterval := by
  unfold flush
  dsimp only
  split_ifs <;> exact ⟨rfl, rfl⟩

/-- No call changes the settings. -/
theorem settings_run {storage last : Storage} {events : List Event} {outs : List Output}
    (hrun : machine.run storage events = some (last, outs)) :
    last.heartbeat = storage.heartbeat ∧ last.minInterval = storage.minInterval := by
  refine machine.run_history (fun _ next _ =>
    next.heartbeat = storage.heartbeat ∧ next.minInterval = storage.minInterval) ?_ ⟨rfl, rfl⟩ hrun
  intro _ middle _ event next new same hstep
  cases hstep
  cases event with
  | record entityId value text ts =>
      rcases middle.step_record entityId value text ts with ⟨-, hstep⟩ | ⟨-, hstep⟩ <;>
        rw [hstep] <;> exact same
  | flush fault =>
      obtain ⟨heartbeat, minInterval⟩ := middle.settings_flush fault
      exact ⟨heartbeat.trans same.1, minInterval.trans same.2⟩

/-! ## Two stores -/

structure Agrees (one two : Storage) : Prop where
  heartbeat : one.heartbeat = two.heartbeat
  minInterval : one.minInterval = two.minInterval
  last : ∀ entityId : String, one.last[entityId]? = two.last[entityId]?
  written : ∀ key, one.written.rowAt key = two.written.rowAt key
  saved : one.committed = one.db ∧ two.committed = two.db

/-- Closing a store and opening the file again. -/
theorem Reflects.reopen {storage : Storage} (reflects : storage.Reflects) :
    Agrees storage (init storage.close storage.heartbeat storage.minInterval) where
  heartbeat := rfl
  minInterval := rfl
  last entityId := by
    have opened := reflects_init storage.close storage.heartbeat storage.minInterval
    rw [reflects.latest, opened.latest, written_init, samples_close reflects.saved]
  written key := by rw [written_init, samples_close reflects.saved]
  saved := ⟨reflects.saved, rfl⟩

theorem Agrees.throttles {one two : Storage} (agrees : Agrees one two) (sample : Sample) :
    one.Throttles sample ↔ two.Throttles sample := by
  unfold Throttles
  rw [agrees.heartbeat, agrees.minInterval, agrees.last]

theorem Agrees.accept {one two : Storage} (agrees : Agrees one two) (sample : Sample) :
    Agrees (one.accept sample) (two.accept sample) where
  heartbeat := agrees.heartbeat
  minInterval := agrees.minInterval
  last entityId := by
    change (one.last.insert sample.1 sample.2)[entityId]? =
      (two.last.insert sample.1 sample.2)[entityId]?
    rw [Maps.lookup_insert, Maps.lookup_insert, agrees.last]
  written key := by
    rw [written_accept, written_accept, Sample.overwrites.lookup_write,
      Sample.overwrites.lookup_write, agrees.written]
  saved := agrees.saved

theorem Agrees.flush {one two : Storage} (agrees : Agrees one two) :
    Agrees (one.flush none).1 (two.flush none).1 := by
  obtain ⟨db, count, samples, hflush⟩ := flush_committed agrees.saved.1
  obtain ⟨db', count', samples', hflush'⟩ := flush_committed agrees.saved.2
  rw [hflush, hflush']
  refine ⟨agrees.heartbeat, agrees.minInterval, agrees.last, fun key => ?_, rfl, rfl⟩
  rw [written_of_empty rfl, written_of_empty rfl, samples, samples']
  exact agrees.written key

theorem Agrees.step {one two : Storage} (agrees : Agrees one two) {event : Event}
    (succeeds : Succeeds event) :
    Agrees (one.step event).1 (two.step event).1 ∧
      answers [(one.step event).2] = answers [(two.step event).2] := by
  cases event with
  | record entityId value text ts =>
      have same := agrees.throttles (sampleOf entityId value text ts)
      rcases one.step_record entityId value text ts with ⟨held, hone⟩ | ⟨held, hone⟩ <;>
        rcases two.step_record entityId value text ts with ⟨held', htwo⟩ | ⟨held', htwo⟩
      · rw [hone, htwo]
        exact ⟨agrees, rfl⟩
      · exact absurd (same.mp held) held'
      · exact absurd (same.mpr held') held
      · rw [hone, htwo]
        exact ⟨agrees.accept _, rfl⟩
  | flush fault =>
      cases succeeds
      exact ⟨agrees.flush, rfl⟩

theorem Agrees.run {one two last : Storage} {events : List Event} {outs : List Output}
    (agrees : Agrees one two) (succeed : ∀ event ∈ events, Succeeds event)
    (hrun : machine.run one events = some (last, outs)) :
    ∃ last' outs', machine.run two events = some (last', outs') ∧
      answers outs = answers outs' ∧ Agrees last last' := by
  induction events generalizing one two outs with
  | nil =>
      cases hrun
      exact ⟨two, [], rfl, rfl, agrees⟩
  | cons event events ih =>
      obtain ⟨next, first, rest, hstep, hrest, rfl⟩ := machine.run_cons_eq_some.mp hrun
      cases hstep
      obtain ⟨agreesNext, same⟩ := agrees.step (succeed event List.mem_cons_self)
      obtain ⟨last', rest', hrest', sameRest, agreesLast⟩ :=
        ih agreesNext (fun other hmem => succeed other (List.mem_cons_of_mem _ hmem)) hrest
      refine ⟨last', _, machine.run_cons_eq_some.mpr ⟨_, _, rest', rfl, hrest', rfl⟩, ?_,
        agreesLast⟩
      rw [answers_append, answers_append, same, sameRest]

/-! ## Restarts -/

def NoRowAfter (file : Database) (ts : ℚ) : Prop :=
  ∀ (entityId : String) (second : ℤ), second ∈ file.samples.rowsOf entityId →
    second ≤ Rounding.trunc ts

theorem follows_init {file : Database} {heartbeat minInterval : ℤ} {events : List Event}
    (old : ∀ ts ∈ times events, NoRowAfter file ts) :
    (init file heartbeat minInterval).Follows events := by
  intro ts member entityId reading hlast
  rw [(reflects_init file heartbeat minInterval).latest, written_init] at hlast
  exact old ts member entityId reading.ts (mem_of_latest hlast)

/-- A store that is closed and opened again between any two calls answers every later
`record` as the one left open, and in the end leaves the same samples in the file. -/
theorem restart_invisible {file : Database} {heartbeat minInterval : ℤ}
    {before after : List Event} {middle last : Storage} {outs later : List Output}
    (old : ∀ ts ∈ times before, NoRowAfter file ts)
    (ordered : (times before).Pairwise (· ≤ ·))
    (succeed : ∀ event ∈ before ++ after, Succeeds event)
    (numbers : ∀ event ∈ before, IsNumber event)
    (hbefore : machine.run (init file heartbeat minInterval) before = some (middle, outs))
    (hafter : machine.run middle after = some (last, later)) :
    ∃ last' later',
      machine.run (init middle.close heartbeat minInterval) after = some (last', later') ∧
        answers later = answers later' ∧
        ∀ key, last.close.samples.rowAt key = last'.close.samples.rowAt key := by
  rw [List.forall_mem_append] at succeed
  have reflects := reflects_run (reflects_init file heartbeat minInterval) (follows_init old)
    ordered succeed.1 numbers hbefore
  have settings := settings_run hbefore
  have agrees := reflects.reopen
  rw [settings.1, settings.2] at agrees
  obtain ⟨last', later', hrun, same, agreesLast⟩ := agrees.run succeed.2 hafter
  refine ⟨last', later', hrun, same, fun key => ?_⟩
  rw [samples_close agreesLast.saved.1, samples_close agreesLast.saved.2]
  exact agreesLast.written key

/-- The second sample is queued when the store is closed; its repetition is dropped after the
restart too. -/
theorem restart_invisible_queued :
    ∃ middle outs last later last' later',
      machine.run (init {}) [.record "e" (some (.finite 1)) none 1000, .flush none,
        .record "e" (some (.finite 2)) none 1001] = some (middle, outs) ∧
      machine.run middle [.record "e" (some (.finite 2)) none 1002] = some (last, later) ∧
      machine.run (init middle.close) [.record "e" (some (.finite 2)) none 1002] =
        some (last', later') ∧
      answers later' = [false] ∧
      ∀ key, last.close.samples.rowAt key = last'.close.samples.rowAt key := by
  have runs : (machine.run (init {}) [.record "e" (some (.finite 1)) none 1000, .flush none,
      .record "e" (some (.finite 2)) none 1001]).map (fun result =>
        (machine.run result.1 [.record "e" (some (.finite 2)) none 1002]).map fun later =>
          answers later.2) = some (some [false]) := by
    decide +kernel
  obtain ⟨⟨middle, outs⟩, hbefore, runs⟩ := Option.map_eq_some_iff.mp runs
  obtain ⟨⟨last, later⟩, hafter, hanswers⟩ := Option.map_eq_some_iff.mp runs
  have old (ts : ℚ) : NoRowAfter {} ts := fun _ _ member =>
    absurd member Std.TreeMap.not_mem_emptyc
  obtain ⟨last', later', hrun, same, samples⟩ := restart_invisible (fun ts _ => old ts)
    (by decide +kernel) (by simp [Succeeds]) (by simp [IsNumber]) hbefore hafter
  exact ⟨middle, outs, last, later, last', later', hbefore, hafter, hrun, same.symm.trans hanswers,
    samples⟩

end NasaCpp.Web.Storage
