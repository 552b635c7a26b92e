import NasaCpp.Web.Restart

/-!
# Retention

`Storage.purge` deletes the rows that are older than the time for which samples are kept.
It touches neither the queue nor the cache, so no answer of `record` depends on it.  A
store that is opened again fills its cache from the rows that are left; if samples are kept
for at least as long as `record` looks back, that is not noticed either.  The statement of
`purge` is assumed not to raise.
-/

namespace NasaCpp.Web

open General

namespace SamplesTable

universe u

variable {ν : Type u}

/-- `DELETE FROM samples WHERE ts < ?`. -/
def deleteBefore (table : SamplesTable ν) (cutoff : ℤ) : SamplesTable ν :=
  table.map fun _ rows => rows.filter fun ts _ => cutoff ≤ ts

def countBefore (table : SamplesTable ν) (cutoff : ℤ) : ℕ :=
  (table.toList.map fun entry => entry.2.toList.countP fun row => row.1 < cutoff).sum

theorem rowAt_deleteBefore (table : SamplesTable ν) (cutoff : ℤ) (key : String × ℤ) :
    (table.deleteBefore cutoff).rowAt key =
      if key.2 < cutoff then none else table.rowAt key := by
  obtain ⟨entityId, ts⟩ := key
  unfold rowAt rowsOf deleteBefore
  dsimp only
  rw [Std.TreeMap.getD_eq_getD_getElem?, Std.TreeMap.getD_eq_getD_getElem?,
    Std.TreeMap.getElem?_map]
  cases table[entityId]? with
  | none => exact (ite_self _).symm
  | some rows =>
      dsimp only [Option.map_some, Option.getD_some]
      rw [Std.TreeMap.getElem?_filter']
      cases rows[ts]? with
      | none => exact (ite_self _).symm
      | some row =>
          split
          · rename_i old
            exact Option.filter_some_neg (decide_eq_false (not_le.mpr old))
          · rename_i recent
            exact Option.filter_some_pos (decide_eq_true (not_lt.mp recent))

/-! ## Tables that have lost rows -/

/-- The second table is the first without some of the rows that may be gone. -/
def Drops (gone : String × ℤ → Prop) (table dropped : SamplesTable ν) : Prop :=
  ∀ key, dropped.rowAt key = table.rowAt key ∨ dropped.rowAt key = none ∧ gone key

theorem drops_refl (gone : String × ℤ → Prop) (table : SamplesTable ν) : Drops gone table table :=
  fun _ => .inl rfl

theorem drops_deleteBefore (table : SamplesTable ν) (cutoff : ℤ) :
    Drops (fun key => key.2 < cutoff) table (table.deleteBefore cutoff) := by
  intro key
  rw [rowAt_deleteBefore]
  split
  · rename_i old
    exact .inr ⟨rfl, old⟩
  · exact .inl rfl

theorem Drops.trans {gone : String × ℤ → Prop} {table middle dropped : SamplesTable ν}
    (first : Drops gone table middle) (second : Drops gone middle dropped) :
    Drops gone table dropped := by
  intro key
  rcases second key with same | lost
  · rw [same]
    exact first key
  · exact .inr lost

theorem Drops.imp {gone other : String × ℤ → Prop} {table dropped : SamplesTable ν}
    (drops : Drops gone table dropped) (weaker : ∀ key, gone key → other key) :
    Drops other table dropped :=
  fun key => (drops key).imp_right (And.imp_right (weaker key))

theorem Drops.mem {gone : String × ℤ → Prop} {table dropped : SamplesTable ν}
    (drops : Drops gone table dropped) {entityId : String} {ts : ℤ}
    (member : ts ∈ dropped.rowsOf entityId) : ts ∈ table.rowsOf entityId := by
  rw [Std.TreeMap.mem_iff_isSome_getElem?] at member ⊢
  rcases drops (entityId, ts) with same | ⟨lost, -⟩
  · have kept : (dropped.rowsOf entityId)[ts]? = (table.rowsOf entityId)[ts]? := same
    rwa [← kept]
  · have absent : (dropped.rowsOf entityId)[ts]? = none := lost
    rw [absent] at member
    cases member

/-- The latest row is the one that no other is later than. -/
theorem latest_eq_some_iff {rows : Std.TreeMap ℤ (Row ν)} {reading : Reading ν} :
    latest rows = some reading ↔
      rows[reading.ts]? = some reading.row ∧ ∀ ts ∈ rows, ts ≤ reading.ts := by
  unfold latest
  constructor
  · intro hlatest
    obtain ⟨ts, hmax, hrow⟩ := Option.bind_eq_some_iff.mp hlatest
    obtain ⟨row, here, rfl⟩ := Option.map_eq_some_iff.mp hrow
    refine ⟨here, fun other member => ?_⟩
    exact Std.isLE_compare.mp
      ((Std.TreeMap.maxKey?_eq_some_iff_mem_and_forall.mp hmax).2 other member)
  · rintro ⟨here, newest⟩
    have member : reading.ts ∈ rows :=
      Std.TreeMap.mem_iff_isSome_getElem?.mpr (Option.isSome_iff_exists.mpr ⟨_, here⟩)
    have top : rows.maxKey? = some reading.ts :=
      Std.TreeMap.maxKey?_eq_some_iff_mem_and_forall.mpr
        ⟨member, fun other there => Std.isLE_compare.mpr (newest other there)⟩
    rw [top, Option.bind_some, here, Option.map_some, Reading.ofRow_row]

/-- Losing old rows changes the latest row of an entity only if it is an old one. -/
theorem latest_drops {cutoff : ℤ} {table dropped : SamplesTable ν}
    (drops : Drops (fun key => key.2 < cutoff) table dropped) (entityId : String) :
    latest (dropped.rowsOf entityId) = latest (table.rowsOf entityId) ∨
      (∀ reading, latest (table.rowsOf entityId) = some reading → reading.ts < cutoff) ∧
        ∀ reading, latest (dropped.rowsOf entityId) = some reading → reading.ts < cutoff := by
  cases hlatest : latest (table.rowsOf entityId) with
  | none =>
      refine .inl ?_
      cases hdropped : latest (dropped.rowsOf entityId) with
      | none => rfl
      | some reading =>
          obtain ⟨other, hother, -⟩ := le_latest (drops.mem (mem_of_latest hdropped))
          rw [hlatest] at hother
          cases hother
  | some reading =>
      obtain ⟨here, newest⟩ := latest_eq_some_iff.mp hlatest
      rcases drops (entityId, reading.ts) with same | ⟨-, old⟩
      · exact .inl (latest_eq_some_iff.mpr
          ⟨Eq.trans same here, fun ts member => newest ts (drops.mem member)⟩)
      · refine .inr ⟨fun other hother => ?_, fun other hother => ?_⟩
        · cases hother
          exact old
        · exact (newest _ (drops.mem (mem_of_latest hother))).trans_lt old

end SamplesTable

namespace Storage

open SamplesTable

theorem drops_foldl {gone : String × ℤ → Prop} {table dropped : SamplesTable PyFloat}
    (drops : Drops gone table dropped) (samples : List Sample) :
    Drops gone (samples.foldl Sample.storeIn table) (samples.foldl Sample.storeIn dropped) := by
  intro key
  rw [Sample.overwrites.lookup_foldl, Sample.overwrites.lookup_foldl]
  cases lastFor keyOf samples key with
  | none => exact drops key
  | some sample => exact .inl rfl

/-! ## Purging -/

/-- The second before which a purge deletes. -/
def cutoff (retentionDays : ℤ) (now : ℚ) : ℤ := Rounding.trunc now - retentionDays * 86400

def purge (storage : Storage) (retentionDays : ℤ) (now : ℚ) : Storage × ℕ :=
  let db := { storage.db with
    samples := storage.db.samples.deleteBefore (cutoff retentionDays now) }
  ({ storage with db, committed := db },
    storage.db.samples.countBefore (cutoff retentionDays now))

inductive Call where
  | event (event : Event)
  | purge (now : ℚ)
  deriving DecidableEq, Repr

inductive Reply where
  | output (out : Output)
  | purged (removed : ℕ)
  deriving DecidableEq, Repr

def retained (retentionDays : ℤ) : Machine Storage Call Reply where
  step storage
    | .event event => some ((storage.step event).1, [.output (storage.step event).2])
    | .purge now =>
        some ((storage.purge retentionDays now).1,
          [.purged (storage.purge retentionDays now).2])

def eventsOf (calls : List Call) : List Event :=
  calls.filterMap fun
    | .event event => some event
    | .purge _ => none

def outputsOf (replies : List Reply) : List Output :=
  replies.filterMap fun
    | .output out => some out
    | .purged _ => none

@[simp] theorem eventsOf_append (first second : List Call) :
    eventsOf (first ++ second) = eventsOf first ++ eventsOf second :=
  List.filterMap_append

@[simp] theorem outputsOf_append (first second : List Reply) :
    outputsOf (first ++ second) = outputsOf first ++ outputsOf second :=
  List.filterMap_append

def Purges (retentionDays : ℤ) (calls : List Call) (key : String × ℤ) : Prop :=
  ∃ now, Call.purge now ∈ calls ∧ key.2 < cutoff retentionDays now

/-- How many rows get written and whether all of them do is up to the rows. -/
theorem executeMany_eq {δ α : Type} (statement : δ → α → δ) (raising : Option ℕ)
    (rows : List α) :
    ∃ count done, ∀ db,
      executeMany statement raising db rows = ((rows.take count).foldl statement db, done) := by
  cases raising with
  | none => exact ⟨rows.length, true, fun db => by rw [List.take_length]; rfl⟩
  | some row =>
      by_cases inside : row < rows.length
      · exact ⟨row, false, fun db => if_pos inside⟩
      · exact ⟨rows.length, true, fun db => by rw [List.take_length]; exact if_neg inside⟩

/-- The stores differ in rows that may be gone from the second. -/
structure Shadows (gone : String × ℤ → Prop) (plain purged : Storage) : Prop where
  heartbeat : plain.heartbeat = purged.heartbeat
  minInterval : plain.minInterval = purged.minInterval
  pending : plain.pending = purged.pending
  last : plain.last = purged.last
  samples : Drops gone plain.db.samples purged.db.samples

theorem Shadows.flush {gone : String × ℤ → Prop} {plain purged : Storage}
    (shadows : Shadows gone plain purged) (fault : Option Fault) :
    Shadows gone (plain.flush fault).1 (purged.flush fault).1 ∧
      (plain.flush fault).2 = (purged.flush fault).2 := by
  obtain ⟨inserts, inserted, hinsert⟩ :=
    executeMany_eq Database.insertSample (Fault.insertOf fault) purged.pending
  obtain ⟨updates, updated, hupdate⟩ :=
    executeMany_eq Database.updateEntity (Fault.updateOf fault)
      (purged.pending.foldl setLatest [])
  have written := drops_foldl shadows.samples (purged.pending.take inserts)
  have stored (db : Database) (samples : List Sample) :
      (samples.foldl Database.updateEntity db).samples = db.samples :=
    samples_executeMany_updateEntity none db samples
  unfold Storage.flush
  simp only [shadows.pending, hinsert, hupdate]
  split
  · exact ⟨⟨shadows.heartbeat, shadows.minInterval, rfl, shadows.last, shadows.samples⟩, rfl⟩
  split
  · refine ⟨⟨shadows.heartbeat, shadows.minInterval, rfl, shadows.last, ?_⟩, rfl⟩
    dsimp only
    rw [samples_foldl_insertSample, samples_foldl_insertSample]
    exact written
  split_ifs <;>
  · refine ⟨⟨shadows.heartbeat, shadows.minInterval, rfl, shadows.last, ?_⟩, rfl⟩
    dsimp only
    rw [stored, stored, samples_foldl_insertSample, samples_foldl_insertSample]
    exact written

theorem Shadows.step {gone : String × ℤ → Prop} {plain purged : Storage}
    (shadows : Shadows gone plain purged) (event : Event) :
    Shadows gone (plain.step event).1 (purged.step event).1 ∧
      (plain.step event).2 = (purged.step event).2 := by
  cases event with
  | record entityId value text ts =>
      have same : plain.Throttles (sampleOf entityId value text ts) ↔
          purged.Throttles (sampleOf entityId value text ts) := by
        unfold Throttles
        rw [shadows.heartbeat, shadows.minInterval, shadows.last]
      rcases plain.step_record entityId value text ts with ⟨held, hplain⟩ | ⟨held, hplain⟩ <;>
        rcases purged.step_record entityId value text ts with ⟨held', hpurged⟩ | ⟨held', hpurged⟩
      · rw [hplain, hpurged]
        exact ⟨shadows, rfl⟩
      · exact absurd (same.mp held) held'
      · exact absurd (same.mpr held') held
      · rw [hplain, hpurged]
        refine ⟨⟨shadows.heartbeat, shadows.minInterval, ?_, ?_, shadows.samples⟩, rfl⟩
        · exact congrArg (· ++ _) shadows.pending
        · change plain.last.insert _ _ = purged.last.insert _ _
          rw [shadows.last]
  | flush fault =>
      obtain ⟨next, count⟩ := shadows.flush fault
      exact ⟨next, congrArg Output.flushed count⟩

theorem Shadows.purge {gone other : String × ℤ → Prop} {plain purged : Storage}
    (shadows : Shadows gone plain purged) {retentionDays : ℤ} {now : ℚ}
    (kept : ∀ key, gone key → other key)
    (old : ∀ key : String × ℤ, key.2 < cutoff retentionDays now → other key) :
    Shadows other plain (purged.purge retentionDays now).1 where
  heartbeat := shadows.heartbeat
  minInterval := shadows.minInterval
  pending := shadows.pending
  last := shadows.last
  samples := (shadows.samples.imp kept).trans ((drops_deleteBefore _ _).imp old)

/-- A store gives the same answers to the other calls whether it is purged in between or not,
and apart from rows older than one of the purges allows it holds the same samples. -/
theorem purge_undisturbed {retentionDays : ℤ} {storage last : Storage} {calls : List Call}
    {replies : List Reply} (hrun : (retained retentionDays).run storage calls =
      some (last, replies)) :
    ∃ plain, machine.run storage (eventsOf calls) = some (plain, outputsOf replies) ∧
      last.pending = plain.pending ∧ last.last = plain.last ∧
      Drops (Purges retentionDays calls) plain.db.samples last.db.samples := by
  have invariant := (retained retentionDays).run_history
    (fun past current replies => ∃ plain,
      machine.run storage (eventsOf past) = some (plain, outputsOf replies) ∧
        Shadows (Purges retentionDays past) plain current) ?_
    ⟨storage, rfl, ⟨rfl, rfl, rfl, rfl, drops_refl _ _⟩⟩ hrun
  · obtain ⟨plain, hplain, shadows⟩ := invariant
    exact ⟨plain, hplain, shadows.pending.symm, shadows.last.symm, shadows.samples⟩
  intro past current before call next new ⟨plain, hplain, shadows⟩ hstep
  have longer : ∀ key, Purges retentionDays past key → Purges retentionDays (past ++ [call]) key :=
    fun _ ⟨now, member, old⟩ => ⟨now, List.mem_append_left _ member, old⟩
  cases call with
  | event event =>
      cases hstep
      obtain ⟨shadowsNext, same⟩ := shadows.step event
      refine ⟨(plain.step event).1, ?_, shadowsNext.heartbeat, shadowsNext.minInterval,
        shadowsNext.pending, shadowsNext.last, shadowsNext.samples.imp longer⟩
      rw [outputsOf_append, eventsOf_append]
      refine machine.run_append_eq_some.mpr ⟨plain, _, [(plain.step event).2], hplain, ?_, ?_⟩
      · rfl
      · rw [same]
        rfl
  | purge now =>
      cases hstep
      refine ⟨plain, ?_, shadows.purge longer fun key old =>
        ⟨now, List.mem_append_right _ (List.mem_singleton_self _), old⟩⟩
      rw [outputsOf_append, eventsOf_append]
      change machine.run storage (eventsOf past ++ []) = some (plain, outputsOf before ++ [])
      rw [List.append_nil, List.append_nil]
      exact hplain

/-- A purge deletes one of two samples. -/
theorem purge_undisturbed_one :
    ∃ last replies plain,
      (retained 1).run (init {}) [.event (.record "e" (some (.finite 1)) none 1000),
        .event (.record "e" (some (.finite 2)) none 90000), .event (.flush none),
        .purge 90000] = some (last, replies) ∧
      machine.run (init {}) [.record "e" (some (.finite 1)) none 1000,
        .record "e" (some (.finite 2)) none 90000, .flush none] =
        some (plain, outputsOf replies) ∧
      last.db.samples.rowAt ("e", 1000) = none ∧
      last.db.samples.rowAt ("e", 90000) = plain.db.samples.rowAt ("e", 90000) := by
  have runs : ((retained 1).run (init {}) [.event (.record "e" (some (.finite 1)) none 1000),
      .event (.record "e" (some (.finite 2)) none 90000), .event (.flush none),
      .purge 90000]).map (fun result => result.1.db.samples.rowAt ("e", 1000)) = some none := by
    decide +kernel
  obtain ⟨⟨last, replies⟩, hrun, gone⟩ := Option.map_eq_some_iff.mp runs
  obtain ⟨plain, hplain, -, -, drops⟩ := purge_undisturbed hrun
  refine ⟨last, replies, plain, hrun, hplain, gone, (drops ("e", 90000)).resolve_right ?_⟩
  rintro ⟨-, now, member, old⟩
  have here : now = 90000 := by
    simpa using member
  rw [here] at old
  exact absurd old (by decide +kernel)

/-! ## Restarts -/

def clock (calls : List Call) : List ℚ :=
  calls.filterMap fun
    | .event (.record _ _ _ ts) => some ts
    | .event (.flush _) => none
    | .purge now => some now

theorem clock_tail {call : Call} {calls : List Call} {ts : ℚ} (member : ts ∈ clock calls) :
    ts ∈ clock (call :: calls) := by
  obtain ⟨later, hmem, hts⟩ := List.mem_filterMap.mp member
  exact List.mem_filterMap.mpr ⟨later, List.mem_cons_of_mem _ hmem, hts⟩

/-- The reading keeps no report at one of the times out: it is too old for that. -/
def Stale (retention : ℤ) (times : List ℚ) (reading : Option (Reading PyFloat)) : Prop :=
  ∀ found, reading = some found → ∀ ts ∈ times, found.ts + retention < Rounding.trunc ts

theorem Stale.mono {retention : ℤ} {times fewer : List ℚ} {reading : Option (Reading PyFloat)}
    (stale : Stale retention times reading) (sub : ∀ ts ∈ fewer, ts ∈ times) :
    Stale retention fewer reading :=
  fun found hfound ts member => stale found hfound ts (sub ts member)

/-- What is older than the cutoff of a purge is stale after it. -/
theorem stale_of_cutoff {retentionDays : ℤ} {now : ℚ} {times : List ℚ}
    {reading : Option (Reading PyFloat)} (ordered : ∀ ts ∈ times, now ≤ ts)
    (old : ∀ found, reading = some found → found.ts < cutoff retentionDays now) :
    Stale (retentionDays * 86400) times reading := by
  intro found hfound ts member
  have later := Rounding.trunc_mono (ordered ts member)
  have here := old found hfound
  unfold cutoff at here
  omega

/-- A stale reading keeps nothing out. -/
theorem not_throttles_of_stale {retention : ℤ} {times : List ℚ} {storage : Storage}
    {entityId : String} {value : Option PyFloat} {text : Option String} {ts : ℚ}
    (heartbeat : storage.heartbeat ≤ retention) (minInterval : storage.minInterval ≤ retention)
    (stale : Stale retention times storage.last[entityId]?) (member : ts ∈ times) :
    ¬ storage.Throttles (sampleOf entityId value text ts) := by
  rintro ⟨last, hlast, throttled⟩
  have old : last.ts + retention < (sampleOf entityId value text ts).2.ts :=
    stale last hlast ts member
  omega

/-- Two readings of an entity that `record` cannot tell apart from now on. -/
def SameFor (retention : ℤ) (times : List ℚ) (one two : Option (Reading PyFloat)) : Prop :=
  one = two ∨ Stale retention times one ∧ Stale retention times two

theorem SameFor.mono {retention : ℤ} {times fewer : List ℚ}
    {one two : Option (Reading PyFloat)} (same : SameFor retention times one two)
    (sub : ∀ ts ∈ fewer, ts ∈ times) : SameFor retention fewer one two :=
  same.imp_right fun stale => ⟨stale.1.mono sub, stale.2.mono sub⟩

/-- The cache tells what the samples written so far will tell, and they are not from the future. -/
structure Remembers (retention : ℤ) (times : List ℚ) (storage : Storage) : Prop where
  saved : storage.committed = storage.db
  past : ∀ ts ∈ times, ∀ (entityId : String) (second : ℤ),
    second ∈ storage.written.rowsOf entityId → second ≤ Rounding.trunc ts
  latest : ∀ entityId : String, SameFor retention times storage.last[entityId]?
    (latest (storage.written.rowsOf entityId))

theorem remembers_init {retention : ℤ} {times : List ℚ} {file : Database}
    (old : ∀ ts ∈ times, NoRowAfter file ts) (heartbeat minInterval : ℤ) :
    Remembers retention times (init file heartbeat minInterval) where
  saved := rfl
  past ts member entityId second there := by
    rw [written_init] at there
    exact old ts member entityId second there
  latest entityId := .inl ((reflects_init file heartbeat minInterval).latest entityId)

theorem Remembers.mono {retention : ℤ} {times fewer : List ℚ} {storage : Storage}
    (remembers : Remembers retention times storage) (sub : ∀ ts ∈ fewer, ts ∈ times) :
    Remembers retention fewer storage where
  saved := remembers.saved
  past ts member := remembers.past ts (sub ts member)
  latest entityId := (remembers.latest entityId).mono sub

theorem drops_written (storage : Storage) (retentionDays : ℤ) (now : ℚ) :
    Drops (fun key => key.2 < cutoff retentionDays now) storage.written
      (storage.purge retentionDays now).1.written :=
  drops_foldl (drops_deleteBefore _ _) storage.pending

theorem Remembers.purge {retentionDays : ℤ} {now : ℚ} {times : List ℚ} {storage : Storage}
    (remembers : Remembers (retentionDays * 86400) times storage)
    (ordered : ∀ ts ∈ times, now ≤ ts) :
    Remembers (retentionDays * 86400) times (storage.purge retentionDays now).1 where
  saved := rfl
  past ts member entityId second there :=
    remembers.past ts member entityId second ((storage.drops_written _ _).mem there)
  latest entityId := by
    have known := remembers.latest entityId
    change SameFor _ times storage.last[entityId]? _
    rcases latest_drops (storage.drops_written retentionDays now) entityId with same | ⟨old, old'⟩
    · rw [same]
      exact known
    · have staleAfter := stale_of_cutoff ordered old'
      rcases known with same | ⟨stale, -⟩
      · rw [same]
        exact .inr ⟨stale_of_cutoff ordered old, staleAfter⟩
      · exact .inr ⟨stale, staleAfter⟩

theorem Remembers.accept {retention : ℤ} {times : List ℚ} {storage : Storage}
    {entityId : String} {value : Option PyFloat} {text : Option String} {ts : ℚ}
    (remembers : Remembers retention (ts :: times) storage)
    (ordered : ∀ later ∈ times, ts ≤ later) (number : value ≠ some .nan) :
    Remembers retention times (storage.accept (sampleOf entityId value text ts)) := by
  have tail := remembers.mono fun _ => List.mem_cons_of_mem ts
  refine ⟨tail.saved, fun later member other second there => ?_, fun other => ?_⟩
  · rw [written_accept, rowsOf_storeIn _ number] at there
    split at there
    · rcases Std.TreeMap.mem_insert.mp there with same | before
      · have here : Rounding.trunc ts = second := Std.LawfulEqCmp.compare_eq_iff_eq.mp same
        rw [← here]
        exact Rounding.trunc_mono (ordered later member)
      · exact tail.past later member _ second before
    · exact tail.past later member _ second there
  · rw [written_accept, rowsOf_storeIn _ number]
    change SameFor _ times (storage.last.insert entityId _)[other]? _
    rw [Maps.lookup_insert]
    change SameFor _ times (if entityId = other then _ else _)
      (SamplesTable.latest (if entityId = other then _ else _))
    split
    · rename_i here
      refine .inl (Eq.symm (latest_insert _ fun second there => ?_))
      exact remembers.past ts List.mem_cons_self other second there
    · exact tail.latest other

/-- A call of `flush` moves the queue into the table. -/
theorem Remembers.flush {retention : ℤ} {times : List ℚ} {storage : Storage}
    (remembers : Remembers retention times storage) :
    Remembers retention times (storage.flush none).1 := by
  obtain ⟨db, count, samples, hflush⟩ := flush_committed remembers.saved
  rw [hflush]
  refine ⟨rfl, ?_, ?_⟩
  · rw [written_of_empty rfl, samples]
    exact remembers.past
  · rw [written_of_empty rfl, samples]
    exact remembers.latest

def Call.Succeeds : Call → Prop
  | .event called => Storage.Succeeds called
  | .purge _ => True

def Call.IsNumber : Call → Prop
  | .event called => Storage.IsNumber called
  | .purge _ => True

instance : ∀ call : Call, Decidable call.Succeeds
  | .event (.record _ _ _ _) => isTrue trivial
  | .event (.flush fault) => inferInstanceAs (Decidable (fault = none))
  | .purge _ => isTrue trivial

instance : ∀ call : Call, Decidable call.IsNumber
  | .event event => inferInstanceAs (Decidable (Storage.IsNumber event))
  | .purge _ => isTrue trivial

theorem remembers_run {retentionDays : ℤ} {storage last : Storage} {calls later : List Call}
    {replies : List Reply}
    (remembers : Remembers (retentionDays * 86400) (clock (calls ++ later)) storage)
    (ordered : (clock (calls ++ later)).Pairwise (· ≤ ·))
    (succeed : ∀ call ∈ calls, call.Succeeds) (numbers : ∀ call ∈ calls, call.IsNumber)
    (hrun : (retained retentionDays).run storage calls = some (last, replies)) :
    Remembers (retentionDays * 86400) (clock later) last := by
  induction calls generalizing storage replies with
  | nil =>
      cases hrun
      exact remembers
  | cons call calls ih =>
      obtain ⟨next, first, rest, hstep, hrest, -⟩ :=
        (retained retentionDays).run_cons_eq_some.mp hrun
      have succeedLater := fun other hmem => succeed other (List.mem_cons_of_mem _ hmem)
      have numbersLater := fun other hmem => numbers other (List.mem_cons_of_mem _ hmem)
      cases call with
      | purge now =>
          cases hstep
          obtain ⟨notBefore, orderedLater⟩ := List.pairwise_cons.mp ordered
          exact ih ((remembers.mono fun _ => clock_tail).purge notBefore) orderedLater
            succeedLater numbersLater hrest
      | event event =>
          cases hstep
          cases event with
          | record entityId value text ts =>
              obtain ⟨notBefore, orderedLater⟩ := List.pairwise_cons.mp ordered
              refine ih ?_ orderedLater succeedLater numbersLater hrest
              rcases storage.step_record entityId value text ts with ⟨-, hstep⟩ | ⟨-, hstep⟩ <;>
                rw [hstep]
              · exact remembers.mono fun _ => clock_tail
              · exact remembers.accept notBefore (numbers _ List.mem_cons_self)
          | flush fault =>
              cases succeed _ List.mem_cons_self
              exact ih remembers.flush ordered succeedLater numbersLater hrest

/-- Stores that give the same answers at the times, with the same samples in the seconds that
are kept. -/
structure Alike (retention : ℤ) (times : List ℚ) (kept : String × ℤ → Prop)
    (one two : Storage) : Prop where
  heartbeat : one.heartbeat = two.heartbeat
  minInterval : one.minInterval = two.minInterval
  last : ∀ entityId : String,
    SameFor retention times one.last[entityId]? two.last[entityId]?
  written : ∀ key, kept key → one.written.rowAt key = two.written.rowAt key
  saved : one.committed = one.db ∧ two.committed = two.db

/-- Closing a store and opening the file again. -/
theorem Remembers.reopen {retention : ℤ} {times : List ℚ} {storage : Storage}
    (remembers : Remembers retention times storage) :
    Alike retention times (fun _ => True) storage
      (init storage.close storage.heartbeat storage.minInterval) where
  heartbeat := rfl
  minInterval := rfl
  last entityId := by
    rw [(reflects_init storage.close _ _).latest, written_init, samples_close remembers.saved]
    exact remembers.latest entityId
  written key _ := by rw [written_init, samples_close remembers.saved]
  saved := ⟨remembers.saved, rfl⟩

theorem Alike.mono {retention : ℤ} {times fewer : List ℚ} {kept other : String × ℤ → Prop}
    {one two : Storage} (alike : Alike retention times kept one two)
    (sub : ∀ ts ∈ fewer, ts ∈ times) (lost : ∀ key, other key → kept key) :
    Alike retention fewer other one two where
  heartbeat := alike.heartbeat
  minInterval := alike.minInterval
  last entityId := (alike.last entityId).mono sub
  written key here := alike.written key (lost key here)
  saved := alike.saved

theorem Alike.record {retention : ℤ} {times : List ℚ} {kept : String × ℤ → Prop}
    {one two : Storage} (entityId : String) (value : Option PyFloat) (text : Option String)
    {ts : ℚ} (heartbeat : one.heartbeat ≤ retention) (minInterval : one.minInterval ≤ retention)
    (alike : Alike retention (ts :: times) kept one two) :
    Alike retention times kept (one.step (.record entityId value text ts)).1
        (two.step (.record entityId value text ts)).1 ∧
      answers [(one.step (.record entityId value text ts)).2] =
        answers [(two.step (.record entityId value text ts)).2] := by
  have tail := alike.mono (fun _ => List.mem_cons_of_mem ts) fun _ => id
  have same : one.Throttles (sampleOf entityId value text ts) ↔
      two.Throttles (sampleOf entityId value text ts) := by
    rcases alike.last entityId with same | ⟨stale, stale'⟩
    · unfold Throttles
      change (∃ last, one.last[entityId]? = some last ∧ _) ↔
        ∃ last, two.last[entityId]? = some last ∧ _
      rw [same, alike.heartbeat, alike.minInterval]
    · exact iff_of_false
        (not_throttles_of_stale heartbeat minInterval stale List.mem_cons_self)
        (not_throttles_of_stale (alike.heartbeat ▸ heartbeat) (alike.minInterval ▸ minInterval)
          stale' List.mem_cons_self)
  rcases one.step_record entityId value text ts with ⟨held, hone⟩ | ⟨held, hone⟩ <;>
    rcases two.step_record entityId value text ts with ⟨held', htwo⟩ | ⟨held', htwo⟩
  · rw [hone, htwo]
    exact ⟨tail, rfl⟩
  · exact absurd (same.mp held) held'
  · exact absurd (same.mpr held') held
  · rw [hone, htwo]
    refine ⟨⟨tail.heartbeat, tail.minInterval, fun other => ?_, fun key here => ?_, tail.saved⟩,
      rfl⟩
    · change SameFor _ times (one.last.insert entityId _)[other]?
        (two.last.insert entityId _)[other]?
      rw [Maps.lookup_insert, Maps.lookup_insert]
      split
      · exact .inl rfl
      · exact tail.last other
    · rw [written_accept, written_accept, Sample.overwrites.lookup_write,
        Sample.overwrites.lookup_write, tail.written key here]

theorem Alike.flush {retention : ℤ} {times : List ℚ} {kept : String × ℤ → Prop}
    {one two : Storage} (alike : Alike retention times kept one two) :
    Alike retention times kept (one.flush none).1 (two.flush none).1 := by
  obtain ⟨db, count, samples, hflush⟩ := flush_committed alike.saved.1
  obtain ⟨db', count', samples', hflush'⟩ := flush_committed alike.saved.2
  rw [hflush, hflush']
  refine ⟨alike.heartbeat, alike.minInterval, alike.last, fun key here => ?_, rfl, rfl⟩
  rw [written_of_empty rfl, written_of_empty rfl, samples, samples']
  exact alike.written key here

theorem Alike.purge {retention retentionDays : ℤ} {now : ℚ} {times : List ℚ}
    {kept : String × ℤ → Prop} {one two : Storage} (alike : Alike retention times kept one two) :
    Alike retention times (fun key => kept key ∧ cutoff retentionDays now ≤ key.2)
      (one.purge retentionDays now).1 (two.purge retentionDays now).1 where
  heartbeat := alike.heartbeat
  minInterval := alike.minInterval
  last := alike.last
  written key here := by
    have recent (storage : Storage) :
        (storage.purge retentionDays now).1.written.rowAt key = storage.written.rowAt key :=
      (storage.drops_written retentionDays now key).resolve_right fun lost =>
        absurd lost.2 (not_lt.mpr here.2)
    rw [recent, recent, alike.written key here.1]
  saved := ⟨rfl, rfl⟩

theorem settings_call {retentionDays : ℤ} {storage next : Storage} {call : Call}
    {new : List Reply} (hstep : (retained retentionDays).step storage call = some (next, new)) :
    next.heartbeat = storage.heartbeat ∧ next.minInterval = storage.minInterval := by
  cases call with
  | purge now =>
      cases hstep
      exact ⟨rfl, rfl⟩
  | event event =>
      cases hstep
      have alone : machine.run storage [event] =
          some ((storage.step event).1, [(storage.step event).2]) := rfl
      exact settings_run alone

theorem Alike.step {retentionDays : ℤ} {call : Call} {calls : List Call}
    {kept : String × ℤ → Prop} {one two next : Storage} {new : List Reply}
    (heartbeat : one.heartbeat ≤ retentionDays * 86400)
    (minInterval : one.minInterval ≤ retentionDays * 86400)
    (alike : Alike (retentionDays * 86400) (clock (call :: calls)) kept one two)
    (succeeds : call.Succeeds)
    (hstep : (retained retentionDays).step one call = some (next, new)) :
    ∃ next' new', (retained retentionDays).step two call = some (next', new') ∧
      answers (outputsOf new) = answers (outputsOf new') ∧
      Alike (retentionDays * 86400) (clock calls)
        (fun key => kept key ∧ ¬ Purges retentionDays [call] key) next next' := by
  cases call with
  | purge now =>
      cases hstep
      refine ⟨_, _, rfl, rfl, alike.purge.mono (fun _ => clock_tail) fun key here => ⟨here.1, ?_⟩⟩
      exact not_lt.mp fun old => here.2 ⟨now, List.mem_singleton_self _, old⟩
  | event event =>
      cases hstep
      cases event with
      | record entityId value text ts =>
          obtain ⟨alikeNext, same⟩ := alike.record entityId value text heartbeat minInterval
          exact ⟨_, _, rfl, same, alikeNext.mono (fun _ => id) fun _ => And.left⟩
      | flush fault =>
          cases succeeds
          exact ⟨_, _, rfl, rfl, alike.flush.mono (fun _ => id) fun _ => And.left⟩

theorem Alike.run {retentionDays : ℤ} {calls : List Call} {kept : String × ℤ → Prop}
    {one two last : Storage} {replies : List Reply}
    (heartbeat : one.heartbeat ≤ retentionDays * 86400)
    (minInterval : one.minInterval ≤ retentionDays * 86400)
    (alike : Alike (retentionDays * 86400) (clock calls) kept one two)
    (succeed : ∀ call ∈ calls, call.Succeeds)
    (hrun : (retained retentionDays).run one calls = some (last, replies)) :
    ∃ last' replies', (retained retentionDays).run two calls = some (last', replies') ∧
      answers (outputsOf replies) = answers (outputsOf replies') ∧
      Alike (retentionDays * 86400) []
        (fun key => kept key ∧ ¬ Purges retentionDays calls key) last last' := by
  induction calls generalizing kept one two replies with
  | nil =>
      cases hrun
      exact ⟨two, [], rfl, rfl, alike.mono (fun _ => id) fun _ => And.left⟩
  | cons call calls ih =>
      obtain ⟨next, first, rest, hstep, hrest, rfl⟩ :=
        (retained retentionDays).run_cons_eq_some.mp hrun
      obtain ⟨next', first', hstep', sameFirst, alikeNext⟩ :=
        alike.step heartbeat minInterval (succeed call List.mem_cons_self) hstep
      obtain ⟨heartbeat', minInterval'⟩ := settings_call hstep
      obtain ⟨last', rest', hrest', sameRest, alikeLast⟩ :=
        ih (heartbeat' ▸ heartbeat) (minInterval' ▸ minInterval) alikeNext
          (fun other hmem => succeed other (List.mem_cons_of_mem _ hmem)) hrest
      refine ⟨last', first' ++ rest', (retained retentionDays).run_cons_eq_some.mpr
        ⟨next', first', rest', hstep', hrest', rfl⟩, ?_,
        alikeLast.mono (fun _ => id) fun key here => ?_⟩
      · rw [outputsOf_append, outputsOf_append, answers_append, answers_append, sameFirst,
          sameRest]
      · refine ⟨⟨here.1, fun ⟨now, member, old⟩ => here.2 ⟨now, ?_, old⟩⟩,
          fun ⟨now, member, old⟩ => here.2 ⟨now, List.mem_cons_of_mem _ member, old⟩⟩
        rw [List.mem_singleton.mp member]
        exact List.mem_cons_self

theorem settings_retained {retentionDays : ℤ} {storage last : Storage} {calls : List Call}
    {replies : List Reply} (hrun : (retained retentionDays).run storage calls =
      some (last, replies)) :
    last.heartbeat = storage.heartbeat ∧ last.minInterval = storage.minInterval := by
  refine (retained retentionDays).run_history (fun _ next _ =>
    next.heartbeat = storage.heartbeat ∧ next.minInterval = storage.minInterval) ?_ ⟨rfl, rfl⟩ hrun
  intro _ middle _ call next new same hstep
  obtain ⟨heartbeat, minInterval⟩ := settings_call hstep
  exact ⟨heartbeat.trans same.1, minInterval.trans same.2⟩

/-- If samples are kept for at least the heartbeat and the minimum interval, a store that is
closed and opened again between any two calls, purges among them, answers every later `record`
as the one left open, and in the end leaves the same samples in all seconds that no purge after
the restart was to delete. -/
theorem restart_retained {retentionDays heartbeat minInterval : ℤ} {file : Database}
    {before after : List Call} {middle last : Storage} {replies later : List Reply}
    (heartbeatKept : heartbeat ≤ retentionDays * 86400)
    (minIntervalKept : minInterval ≤ retentionDays * 86400)
    (old : ∀ ts ∈ clock (before ++ after), NoRowAfter file ts)
    (ordered : (clock (before ++ after)).Pairwise (· ≤ ·))
    (succeed : ∀ call ∈ before ++ after, call.Succeeds)
    (numbers : ∀ call ∈ before, call.IsNumber)
    (hbefore : (retained retentionDays).run (init file heartbeat minInterval) before =
      some (middle, replies))
    (hafter : (retained retentionDays).run middle after = some (last, later)) :
    ∃ last' later', (retained retentionDays).run (init middle.close heartbeat minInterval) after =
        some (last', later') ∧
      answers (outputsOf later) = answers (outputsOf later') ∧
      ∀ key, ¬ Purges retentionDays after key →
        last.close.samples.rowAt key = last'.close.samples.rowAt key := by
  rw [List.forall_mem_append] at succeed
  have remembers := remembers_run (remembers_init old heartbeat minInterval) ordered succeed.1
    numbers hbefore
  obtain ⟨sameHeartbeat, sameInterval⟩ := settings_retained hbefore
  have alike := remembers.reopen
  rw [sameHeartbeat, sameInterval] at alike
  obtain ⟨last', later', hrun, same, alikeLast⟩ :=
    alike.run (sameHeartbeat ▸ heartbeatKept) (sameInterval ▸ minIntervalKept) succeed.2 hafter
  refine ⟨last', later', hrun, same, fun key kept => ?_⟩
  rw [samples_close alikeLast.saved.1, samples_close alikeLast.saved.2]
  exact alikeLast.written key ⟨trivial, kept⟩

/-- The only row of the entity is purged before the restart; the next report of the same value
is recorded by both stores. -/
theorem restart_retained_purged :
    ∃ middle replies last later last' later',
      (retained 1).run (init {}) [.event (.record "e" (some (.finite 1)) none 1000),
        .event (.flush none), .purge 90000] = some (middle, replies) ∧
      (retained 1).run middle [.event (.record "e" (some (.finite 1)) none 90001)] =
        some (last, later) ∧
      (retained 1).run (init middle.close) [.event (.record "e" (some (.finite 1)) none 90001)] =
        some (last', later') ∧
      answers (outputsOf later') = [true] ∧
      ∀ key, last.close.samples.rowAt key = last'.close.samples.rowAt key := by
  have runs : ((retained 1).run (init {}) [.event (.record "e" (some (.finite 1)) none 1000),
      .event (.flush none), .purge 90000]).map (fun result =>
        ((retained 1).run result.1
          [.event (.record "e" (some (.finite 1)) none 90001)]).map fun later =>
            answers (outputsOf later.2)) = some (some [true]) := by
    decide +kernel
  obtain ⟨⟨middle, replies⟩, hbefore, runs⟩ := Option.map_eq_some_iff.mp runs
  obtain ⟨⟨last, later⟩, hafter, hanswers⟩ := Option.map_eq_some_iff.mp runs
  have old (ts : ℚ) : NoRowAfter {} ts := fun _ _ member =>
    absurd member Std.TreeMap.not_mem_emptyc
  obtain ⟨last', later', hrun, same, samples⟩ := restart_retained (by decide) (by decide)
    (fun ts _ => old ts) (by decide +kernel) (by decide +kernel) (by decide +kernel) hbefore hafter
  refine ⟨middle, replies, last, later, last', later', hbefore, hafter, hrun,
    same.symm.trans hanswers, fun key => samples key ?_⟩
  rintro ⟨now, member, -⟩
  simp at member

end Storage

end NasaCpp.Web
