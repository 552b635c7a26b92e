import Mathlib.Data.List.Chain
import NasaCpp.Web.Restart

/-!
# The sampling law

`record` compares a report with the last sample of its entity.  So consecutive samples keep
their distances, and the last sample is never far from what was last reported: it has the
same state and is no older than the heartbeat, unless a number has changed within the
minimum interval.
-/

namespace NasaCpp.Web.Storage

open General

/-! ## The samples of an entity -/

/-- The samples of an entity in their order, the one that the file had first. -/
def logOf (file : Database) (entityId : String) (outs : List Output) : List (Reading PyFloat) :=
  (SamplesTable.latest (file.samples.rowsOf entityId)).toList ++
    ((accepted outs).filter fun sample => sample.1 = entityId).map Prod.snd

structure Spaced (heartbeat minInterval : ℤ) (earlier later : Reading PyFloat) : Prop where
  unchanged : later.row = earlier.row → heartbeat ≤ later.ts - earlier.ts
  numeric : later.text = none → minInterval ≤ later.ts - earlier.ts

/-- The last sample has the state that is reported and is no older than the heartbeat, or the
report is a number and the sample is younger than the minimum interval. -/
def Tracks (heartbeat minInterval : ℤ) (log : List (Reading PyFloat))
    (report : Reading PyFloat) : Prop :=
  ∃ last, log.getLast? = some last ∧
    (last.row = report.row ∧ report.ts - last.ts ≤ max heartbeat 0 ∨
      report.text = none ∧ report.ts - last.ts < minInterval)

theorem logOf_append (file : Database) (entityId : String) (outs new : List Output) :
    logOf file entityId (outs ++ new) =
      logOf file entityId outs ++
        ((accepted new).filter fun sample => sample.1 = entityId).map Prod.snd := by
  rw [logOf, accepted_append, List.filter_append, List.map_append, ← List.append_assoc]
  rfl

/-! ## One report -/

theorem sameValue_iff {value other : Option PyFloat} (number : other ≠ some .nan) :
    sameValue value other = true ↔ value = other := by
  cases value with
  | none => cases other <;> simp [sameValue]
  | some x =>
      cases other with
      | none => simp [sameValue]
      | some y =>
          have finite : y ≠ .nan := fun nan => number (congrArg some nan)
          simp only [sameValue, PyFloat.eq, decide_eq_true_iff, Option.some.injEq]
          exact ⟨And.right, fun same => ⟨same ▸ finite, same⟩⟩

theorem row_eq_iff {reading other : Reading PyFloat} :
    reading.row = other.row ↔ reading.value = other.value ∧ reading.text = other.text := by
  unfold Reading.row
  rw [Row.mk.injEq]

/-- A report that is not dropped keeps its distances from the last sample. -/
theorem spaced_of_not_throttles {storage : Storage} {sample : Sample} {last : Reading PyFloat}
    (number : sample.2.value ≠ some .nan) (passes : ¬ storage.Throttles sample)
    (hlast : storage.last[sample.1]? = some last) :
    Spaced storage.heartbeat storage.minInterval last sample.2 where
  unchanged same := by
    obtain ⟨value, text⟩ := row_eq_iff.mp same.symm
    by_contra near
    exact passes ⟨last, hlast, .inl ⟨⟨(sameValue_iff number).mpr value, text⟩, not_le.mp near⟩⟩
  numeric text := by
    by_contra near
    exact passes ⟨last, hlast, .inr ⟨text, not_le.mp near⟩⟩

theorem tracks_of_throttles {storage : Storage} {sample : Sample} {log : List (Reading PyFloat)}
    (number : sample.2.value ≠ some .nan) (throttled : storage.Throttles sample)
    (cached : storage.last[sample.1]? = log.getLast?) :
    Tracks storage.heartbeat storage.minInterval log sample.2 := by
  obtain ⟨last, hlast, reason⟩ := throttled
  refine ⟨last, cached ▸ hlast, reason.imp_left ?_⟩
  rintro ⟨⟨value, text⟩, near⟩
  exact ⟨row_eq_iff.mpr ⟨(sameValue_iff number).mp value, text⟩, near.le.trans (le_max_left _ _)⟩

theorem tracks_of_accepted (heartbeat minInterval : ℤ) (log : List (Reading PyFloat))
    (report : Reading PyFloat) : Tracks heartbeat minInterval (log ++ [report]) report := by
  refine ⟨report, List.getLast?_concat, .inl ⟨rfl, ?_⟩⟩
  rw [Int.sub_self]
  exact le_max_right _ _

/-! ## Every run -/

/-- The cache has the last sample of the entity, and all its samples keep their distances. -/
structure Sampled (heartbeat minInterval : ℤ) (entityId : String) (storage : Storage)
    (log : List (Reading PyFloat)) : Prop where
  settings : storage.heartbeat = heartbeat ∧ storage.minInterval = minInterval
  cached : storage.last[entityId]? = log.getLast?
  spaced : log.IsChain (Spaced heartbeat minInterval)

theorem last_flush (storage : Storage) (fault : Option Fault) :
    (storage.flush fault).1.last = storage.last := by
  unfold flush
  dsimp only
  split_ifs <;> rfl

theorem sampled_init (file : Database) (heartbeat minInterval : ℤ) (entityId : String) :
    Sampled heartbeat minInterval entityId (init file heartbeat minInterval)
      (logOf file entityId []) where
  settings := ⟨rfl, rfl⟩
  cached := by
    rw [(reflects_init file heartbeat minInterval).latest, written_init]
    cases hlatest : SamplesTable.latest (file.samples.rowsOf entityId) with
    | none =>
        rw [logOf, hlatest]
        rfl
    | some reading =>
        rw [logOf, hlatest]
        rfl
  spaced := by
    unfold logOf
    cases SamplesTable.latest (file.samples.rowsOf entityId) with
    | none => exact List.isChain_nil
    | some reading => exact List.isChain_singleton reading

theorem Sampled.accept {heartbeat minInterval : ℤ} {storage : Storage} {sample : Sample}
    {log : List (Reading PyFloat)}
    (sampled : Sampled heartbeat minInterval sample.1 storage log)
    (number : sample.2.value ≠ some .nan) (passes : ¬ storage.Throttles sample) :
    Sampled heartbeat minInterval sample.1 (storage.accept sample) (log ++ [sample.2]) where
  settings := sampled.settings
  cached := by
    rw [List.getLast?_concat]
    exact Std.TreeMap.getElem?_insert_self
  spaced := by
    refine sampled.spaced.append (List.isChain_singleton _) fun last hlast next hnext => ?_
    cases Option.mem_def.mp hnext
    rw [Option.mem_def, ← sampled.cached] at hlast
    obtain ⟨rfl, rfl⟩ := sampled.settings
    exact spaced_of_not_throttles number passes hlast

/-- A sample of another entity changes nothing for this one. -/
theorem Sampled.other {heartbeat minInterval : ℤ} {entityId : String} {storage : Storage}
    {sample : Sample} {log : List (Reading PyFloat)}
    (sampled : Sampled heartbeat minInterval entityId storage log) (other : sample.1 ≠ entityId) :
    Sampled heartbeat minInterval entityId (storage.accept sample) log where
  settings := sampled.settings
  cached := by
    change (storage.last.insert sample.1 _)[entityId]? = _
    rw [Maps.lookup_insert, if_neg other]
    exact sampled.cached
  spaced := sampled.spaced

/-- A call keeps the law, and a report of the entity is tracked after it. -/
theorem Sampled.step {heartbeat minInterval : ℤ} {entityId : String} {storage : Storage}
    {file : Database} {outs : List Output}
    (sampled : Sampled heartbeat minInterval entityId storage (logOf file entityId outs))
    (event : Event)
    (number : ∀ value text ts, event = .record entityId value text ts → value ≠ some .nan) :
    Sampled heartbeat minInterval entityId (storage.step event).1
        (logOf file entityId (outs ++ [(storage.step event).2])) ∧
      ∀ value text ts, event = .record entityId value text ts →
        Tracks heartbeat minInterval (logOf file entityId (outs ++ [(storage.step event).2]))
          (sampleOf entityId value text ts).2 := by
  cases event with
  | flush fault =>
      refine ⟨?_, nofun⟩
      have silent : logOf file entityId (outs ++ [(storage.step (.flush fault)).2]) =
          logOf file entityId outs := (logOf_append _ _ _ _).trans (List.append_nil _)
      rw [silent]
      obtain ⟨heartbeat, minInterval⟩ := storage.settings_flush fault
      refine ⟨⟨heartbeat.trans sampled.settings.1, minInterval.trans sampled.settings.2⟩, ?_,
        sampled.spaced⟩
      exact (congrArg (·[entityId]?) (storage.last_flush fault)).trans sampled.cached
  | record reported value text ts =>
      rcases storage.step_record reported value text ts with ⟨throttled, hstep⟩ | ⟨passes, hstep⟩
      · have silent : logOf file entityId (outs ++ [.recorded (sampleOf reported value text ts)
            false]) = logOf file entityId outs :=
          (logOf_append _ _ _ _).trans (List.append_nil _)
        rw [hstep, silent]
        refine ⟨sampled, ?_⟩
        rintro _ _ _ ⟨⟩
        obtain ⟨rfl, rfl⟩ := sampled.settings
        exact tracks_of_throttles (number _ _ _ rfl) throttled sampled.cached
      · rw [hstep, logOf_append]
        by_cases here : reported = entityId
        · subst here
          have grows : ((accepted [.recorded (sampleOf reported value text ts) true]).filter
              fun sample => sample.1 = reported).map Prod.snd =
              [(sampleOf reported value text ts).2] := by
            simp [accepted, sampleOf]
          have before : Sampled heartbeat minInterval (sampleOf reported value text ts).1 storage
              (logOf file reported outs) := sampled
          rw [grows]
          refine ⟨before.accept (number _ _ _ rfl) passes, ?_⟩
          rintro _ _ _ ⟨⟩
          exact tracks_of_accepted _ _ _ _
        · have silent : ((accepted [.recorded (sampleOf reported value text ts) true]).filter
              fun sample => sample.1 = entityId).map Prod.snd = [] := by
            simp [accepted, sampleOf, here]
          rw [silent, List.append_nil]
          refine ⟨sampled.other here, ?_⟩
          rintro _ _ _ ⟨⟩
          exact absurd rfl here

theorem sampled_run {file : Database} {heartbeat minInterval : ℤ} {events : List Event}
    {last : Storage} {outs : List Output} {entityId : String}
    (hrun : machine.run (init file heartbeat minInterval) events = some (last, outs))
    (numbers : ∀ value text ts, .record entityId value text ts ∈ events → value ≠ some .nan) :
    Sampled heartbeat minInterval entityId last (logOf file entityId outs) ∧
      ∀ value text ts, events.getLast? = some (.record entityId value text ts) →
        Tracks heartbeat minInterval (logOf file entityId outs)
          (sampleOf entityId value text ts).2 := by
  have along : machine.Along (fun _ event => ∀ value text ts,
      event = .record entityId value text ts → value ≠ some .nan)
      (init file heartbeat minInterval) events := by
    refine machine.along_of_events ?_
    rintro event hmem _ value text ts rfl
    exact numbers value text ts hmem
  refine machine.run_history_along (fun past storage outs =>
    Sampled heartbeat minInterval entityId storage (logOf file entityId outs) ∧
      ∀ value text ts, past.getLast? = some (.record entityId value text ts) →
        Tracks heartbeat minInterval (logOf file entityId outs)
          (sampleOf entityId value text ts).2)
    ?_ ⟨sampled_init file heartbeat minInterval entityId, nofun⟩ along hrun
  rintro past storage outs event next new ⟨sampled, -⟩ number hstep
  cases hstep
  obtain ⟨sampledNext, tracks⟩ := sampled.step event number
  refine ⟨sampledNext, fun value text ts hlast => tracks value text ts ?_⟩
  rw [List.getLast?_concat] at hlast
  exact Option.some.inj hlast

/-- Consecutive samples of an entity with the same state are at least the heartbeat apart,
those of numbers at least the minimum interval; at every report the last sample tracks it,
and has its state if the report has a text. -/
theorem sampling_law {file : Database} {heartbeat minInterval : ℤ} {events : List Event}
    {last : Storage} {outs : List Output} (entityId : String)
    (hrun : machine.run (init file heartbeat minInterval) events = some (last, outs))
    (numbers : ∀ value text ts, .record entityId value text ts ∈ events → value ≠ some .nan) :
    (logOf file entityId outs).IsChain (Spaced heartbeat minInterval) ∧
      ∀ front value text ts, events = front ++ [.record entityId value text ts] →
        Tracks heartbeat minInterval (logOf file entityId outs)
            (sampleOf entityId value text ts).2 ∧
          (text ≠ none → ∃ sample, (logOf file entityId outs).getLast? = some sample ∧
            sample.row = { value, text }) := by
  obtain ⟨sampled, tracks⟩ := sampled_run hrun numbers
  refine ⟨sampled.spaced, ?_⟩
  rintro front value text ts rfl
  have tracked := tracks value text ts List.getLast?_concat
  refine ⟨tracked, fun hasText => ?_⟩
  obtain ⟨sample, hsample, ⟨same, -⟩ | ⟨numeric, -⟩⟩ := tracked
  · exact ⟨sample, hsample, same⟩
  · exact absurd numeric hasText

def mixedReports : List Event :=
  [.record "a" (some (.finite 1)) none 1000, .record "e" (some (.finite 0)) (some "ROOM") 1001,
    .record "a" (some (.finite 2)) none 1010, .record "e" (some (.finite 1)) (some "TANK") 1012]

/-- A number that has changed within the minimum interval is not stored, a state is. -/
theorem sampling_law_mixed :
    ∃ last outs, machine.run (init {} 300 30) mixedReports = some (last, outs) ∧
      (logOf {} "a" outs).IsChain (Spaced 300 30) ∧
      ∃ sample, (logOf {} "e" outs).getLast? = some sample ∧
        sample.row = { value := some (.finite 1), text := some "TANK" } := by
  obtain ⟨⟨last, outs⟩, hrun⟩ := Option.isSome_iff_exists.mp
    (show (machine.run (init {} 300 30) mixedReports).isSome = true by rfl)
  have numbers : ∀ event ∈ mixedReports, IsNumber event := by decide +kernel
  refine ⟨last, outs, hrun,
    (sampling_law "a" hrun fun _ _ _ hmem => numbers _ hmem).1, ?_⟩
  exact ((sampling_law "e" hrun fun _ _ _ hmem => numbers _ hmem).2
    (mixedReports.take 3) (some (.finite 1)) (some "TANK") 1012 rfl).2 nofun

end NasaCpp.Web.Storage
