import NasaCpp.Web.SampleLog

/-!
# Stored states

`record` decides by the last state of an entity, while the table has one row for each of
its seconds.  Every accepted sample ends up in the table as it was reported exactly if no
other state of the entity is accepted in the same second and none is a NaN, which SQLite
stores as NULL.
-/

namespace NasaCpp.Web.Storage

open General SamplesTable

/-! ## Samples that fit together -/

def Succeeds : Event → Prop
  | .record _ _ _ _ => True
  | .flush fault => fault = none

/-- The samples can all be rows with their values and texts: none is a NaN, and two of the
same entity and second are equal. -/
def Coherent (log : List Sample) : Prop :=
  (∀ sample ∈ log, sample.2.value ≠ some .nan) ∧
    ∀ sample ∈ log, ∀ other ∈ log, keyOf other = keyOf sample → other = sample

/-- A report can be accepted after the given samples: it is no NaN, and those of its entity
and second are equal to it. -/
def FitsIn (log : List Sample) (sample : Sample) : Prop :=
  sample.2.value ≠ some .nan ∧ ∀ other ∈ log, keyOf other = keyOf sample → other = sample

/-- Along the run each report that is accepted fits in with those accepted before. -/
def AcceptsFitting : List Sample → Storage → List Event → Prop
  | _, _, [] => True
  | log, storage, event :: events =>
      (∀ sample ∈ accepted [(storage.step event).2], FitsIn log sample) ∧
        AcceptsFitting (log ++ accepted [(storage.step event).2]) (storage.step event).1 events

instance (log : List Sample) (sample : Sample) : Decidable (FitsIn log sample) :=
  inferInstanceAs (Decidable (_ ∧ _))

instance decidableAcceptsFitting : ∀ (log : List Sample) (storage : Storage) (events : List Event),
    Decidable (AcceptsFitting log storage events)
  | _, _, [] => isTrue trivial
  | log, storage, event :: events =>
      have := decidableAcceptsFitting (log ++ accepted [(storage.step event).2])
        (storage.step event).1 events
      inferInstanceAs (Decidable (_ ∧ _))

/-- The sample is a row as it was reported and in the raw history of every window around it. -/
def Present (table : SamplesTable PyFloat) (sample : Sample) : Prop :=
  table.rowAt (keyOf sample) = some sample.2.row ∧
    ∀ start stop, start ≤ sample.2.ts → sample.2.ts ≤ stop →
      pointOf sample.2.ts sample.2.row ∈ table.rawHistory sample.1 start stop

theorem coherent_concat_iff {log : List Sample} {sample : Sample} :
    Coherent (log ++ [sample]) ↔ Coherent log ∧ FitsIn log sample := by
  unfold Coherent FitsIn
  constructor
  · rintro ⟨numbers, equal⟩
    refine ⟨⟨fun other hmem => numbers other (List.mem_append_left _ hmem), ?_⟩, ?_, ?_⟩
    · intro first hfirst second hsecond
      exact equal first (List.mem_append_left _ hfirst) second (List.mem_append_left _ hsecond)
    · exact numbers sample (List.mem_append_right _ (List.mem_singleton_self _))
    · intro other hmem
      exact equal sample (List.mem_append_right _ (List.mem_singleton_self _)) other
        (List.mem_append_left _ hmem)
  · rintro ⟨⟨numbers, equal⟩, number, fits⟩
    refine ⟨?_, ?_⟩
    · intro other hmem
      rcases List.mem_append.mp hmem with earlier | here
      · exact numbers other earlier
      · rw [List.mem_singleton.mp here]
        exact number
    · intro first hfirst second hsecond same
      rcases List.mem_append.mp hfirst with earlier | here <;>
        rcases List.mem_append.mp hsecond with earlier' | here'
      · exact equal first earlier second earlier' same
      · rw [List.mem_singleton.mp here'] at same ⊢
        exact (fits first earlier same.symm).symm
      · rw [List.mem_singleton.mp here] at same ⊢
        exact fits second earlier' same
      · rw [List.mem_singleton.mp here, List.mem_singleton.mp here']

/-- A call accepts at most one sample. -/
theorem accepted_step (storage : Storage) (event : Event) :
    accepted [(storage.step event).2] = [] ∨
      ∃ sample, accepted [(storage.step event).2] = [sample] := by
  cases event with
  | record entityId value text ts =>
      rcases storage.step_record entityId value text ts with ⟨-, hstep⟩ | ⟨-, hstep⟩
      · exact .inl (by rw [hstep]; rfl)
      · exact .inr ⟨_, by rw [hstep]; rfl⟩
  | flush fault => exact .inl rfl

theorem Coherent.front {log later : List Sample} (coherent : Coherent (log ++ later)) :
    Coherent log :=
  ⟨fun sample hmem => coherent.1 sample (List.mem_append_left _ hmem),
    fun sample hmem other hother =>
      coherent.2 sample (List.mem_append_left _ hmem) other (List.mem_append_left _ hother)⟩

/-- Along a run the accepted samples stay coherent exactly if each fits in. -/
theorem coherent_run_iff {storage last : Storage} {events : List Event} {outs : List Output}
    {log : List Sample} (coherent : Coherent log)
    (hrun : machine.run storage events = some (last, outs)) :
    Coherent (log ++ accepted outs) ↔ AcceptsFitting log storage events := by
  induction events generalizing storage outs log with
  | nil =>
      cases hrun
      refine iff_of_true ?_ trivial
      rwa [accepted, List.filterMap_nil, List.append_nil]
  | cons event events ih =>
      obtain ⟨next, first, rest, hstep, hrest, rfl⟩ := machine.run_cons_eq_some.mp hrun
      cases hstep
      rw [accepted_append]
      unfold AcceptsFitting
      rcases accepted_step storage event with silent | ⟨sample, hsample⟩
      · rw [silent, List.nil_append, List.append_nil, ih coherent hrest]
        exact (and_iff_right fun _ impossible => nomatch impossible).symm
      · rw [hsample, ← List.append_assoc, List.forall_mem_singleton]
        constructor
        · intro whole
          have here := whole.front
          exact ⟨(coherent_concat_iff.mp here).2, (ih here hrest).mp whole⟩
        · rintro ⟨fits, later⟩
          exact (ih (coherent_concat_iff.mpr ⟨coherent, fits⟩) hrest).mpr later

/-! ## Rows -/

theorem eq_of_key_of_row {sample other : Sample} (key : keyOf other = keyOf sample)
    (row : other.2.row = sample.2.row) : other = sample := by
  obtain ⟨entityId, ts, value, text⟩ := sample
  obtain ⟨entityId', ts', value', text'⟩ := other
  cases key
  cases row
  rfl

theorem stored_of_number {sample : Sample} (number : sample.2.value ≠ some .nan) :
    Sample.stored sample = sample := by
  obtain ⟨entityId, ts, value, text⟩ := sample
  unfold Sample.stored
  cases value with
  | none => rfl
  | some value =>
      have finite : value ≠ .nan := fun nan => number (congrArg some nan)
      simp only [Option.bind_some, PyFloat.bind, if_neg finite]

theorem stored_value_ne_nan (sample : Sample) : (Sample.stored sample).2.value ≠ some .nan := by
  intro nan
  obtain ⟨value, -, hbind⟩ := Option.bind_eq_some_iff.mp nan
  unfold PyFloat.bind at hbind
  split at hbind
  · cases hbind
  · rename_i finite
    exact finite (Option.some.inj hbind)

/-- The samples of a log are all in the table it leaves exactly if they are coherent. -/
theorem present_iff_coherent (table : SamplesTable PyFloat) (log : List Sample) :
    (∀ sample ∈ log, Present (log.foldl Sample.storeIn table) sample) ↔ Coherent log := by
  constructor
  · intro present
    refine ⟨fun sample hmem nan => ?_, fun sample hmem other hother same => ?_⟩
    · obtain ⟨last, -, -, hrow⟩ := Sample.overwrites.lookup_of_mem table hmem
      rw [(present sample hmem).1, Option.some.injEq] at hrow
      exact stored_value_ne_nan last ((congrArg Row.value hrow).symm.trans nan)
    · have here := (present sample hmem).1
      rw [← same, (present other hother).1, Option.some.injEq] at here
      exact eq_of_key_of_row same here
  · rintro ⟨numbers, equal⟩ sample hmem
    obtain ⟨last, hlast, same, hrow⟩ := Sample.overwrites.lookup_of_mem table hmem
    rw [equal sample hmem last hlast same, stored_of_number (numbers sample hmem)] at hrow
    exact ⟨hrow, fun start stop low high => mem_rawHistory hrow low high⟩

/-! ## Runs -/

theorem flush_none (storage : Storage) :
    ∃ flushed count, storage.flush none = (flushed, some count) := by
  unfold flush
  dsimp only
  split
  · exact ⟨_, _, rfl⟩
  · exact ⟨_, _, rfl⟩

theorem insertsSucceed_of_succeeds {storage : Storage} {event : Event} (succeeds : Succeeds event) :
    storage.InsertsSucceed event := by
  cases event with
  | record entityId value text ts => trivial
  | flush fault =>
      cases succeeds
      rintro ⟨row, hrow, -⟩
      cases hrow

/-- After any calls of `record` and calls of `flush` that return, the last one a `flush`,
every accepted sample is present if and only if each fitted in when it was accepted. -/
theorem samples_present_iff {file : Database} {heartbeat minInterval : ℤ} {events : List Event}
    {last : Storage} {outs : List Output} (succeed : ∀ event ∈ events, Succeeds event)
    (hrun : machine.run (init file heartbeat minInterval) (events ++ [.flush none]) =
      some (last, outs)) :
    (∀ sample ∈ accepted outs, Present last.db.samples sample) ↔
      AcceptsFitting [] (init file heartbeat minInterval) events := by
  obtain ⟨middle, first, second, hevents, hflush, rfl⟩ := machine.run_append_eq_some.mp hrun
  have hlast : (middle.step (.flush none)).1 = last := congrArg Prod.fst (Option.some.inj hflush)
  have log : accepted (first ++ second) = accepted first := by
    cases hflush
    rw [accepted_append]
    exact List.append_nil _
  have logged := logged_run hevents
    (machine.along_of_events fun event hmem _ => insertsSucceed_of_succeeds (succeed event hmem))
  obtain ⟨flushed, count, hreturns⟩ := flush_none middle
  have samples : last.db.samples = (accepted first).foldl Sample.storeIn file.samples := by
    rw [← logged.written, ← hlast]
    change (middle.flush none).1.db.samples = _
    rw [hreturns]
    exact (flush_succeeds hreturns).1
  have coherent : Coherent [] := ⟨nofun, nofun⟩
  rw [log, samples, present_iff_coherent, ← coherent_run_iff coherent hevents]
  rfl

/-- Two states of a valve, one second apart. -/
theorem samples_present_two_states :
    ∃ last outs, machine.run (init {}) ([.record "e" (some (.finite 0)) (some "ROOM") 1001,
        .record "e" (some (.finite 1)) (some "TANK") 1002] ++ [.flush none]) = some (last, outs) ∧
      Present last.db.samples (sampleOf "e" (some (.finite 0)) (some "ROOM") 1001) ∧
      Present last.db.samples (sampleOf "e" (some (.finite 1)) (some "TANK") 1002) := by
  have log : (machine.run (init {}) ([.record "e" (some (.finite 0)) (some "ROOM") 1001,
      .record "e" (some (.finite 1)) (some "TANK") 1002] ++ [.flush none])).map
        (fun result => accepted result.2) =
      some [sampleOf "e" (some (.finite 0)) (some "ROOM") 1001,
        sampleOf "e" (some (.finite 1)) (some "TANK") 1002] := by
    decide +kernel
  obtain ⟨⟨last, outs⟩, hrun, hlog⟩ := Option.map_eq_some_iff.mp log
  dsimp only at hlog
  have present := (samples_present_iff (by simp [Succeeds]) hrun).mpr (by decide +kernel)
  rw [hlog] at present
  exact ⟨last, outs, hrun, present _ List.mem_cons_self,
    present _ (List.mem_cons_of_mem _ List.mem_cons_self)⟩

/-- A valve that changes twice within a second: the second state takes the place of the first. -/
theorem not_samples_present_same_second :
    ¬ ∀ (file : Database) (heartbeat minInterval : ℤ) (events : List Event) (last : Storage)
      (outs : List Output), (∀ event ∈ events, Succeeds event) →
      (times events).Pairwise (· ≤ ·) →
      machine.run (init file heartbeat minInterval) (events ++ [.flush none]) =
        some (last, outs) →
      ∀ sample ∈ accepted outs, Present last.db.samples sample := by
  intro all
  have log : (machine.run (init {}) ([.record "e" (some (.finite 0)) (some "ROOM") 1001,
      .record "e" (some (.finite 1)) (some "TANK") (2003 / 2)] ++ [.flush none])).map
        (fun result => (accepted result.2, result.1.db.samples.rowAt ("e", 1001))) =
      some ([sampleOf "e" (some (.finite 0)) (some "ROOM") 1001,
        sampleOf "e" (some (.finite 1)) (some "TANK") (2003 / 2)],
        some { value := some (.finite 1), text := some "TANK" }) := by
    decide +kernel
  obtain ⟨⟨last, outs⟩, hrun, hlog⟩ := Option.map_eq_some_iff.mp log
  rw [Prod.mk.injEq] at hlog
  have present := all {} 300 0 _ last outs (by simp [Succeeds]) (by decide +kernel) hrun _
    (hlog.1 ▸ List.mem_cons_self)
  have key : keyOf (sampleOf "e" (some (.finite 0)) (some "ROOM") 1001) = ("e", 1001) := by
    decide +kernel
  have row := present.1
  rw [key, hlog.2, Option.some.injEq] at row
  exact absurd (congrArg Row.text row) (by decide)

end NasaCpp.Web.Storage
