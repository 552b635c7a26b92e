import NasaCpp.Web.Announcements

/-!
# Restored states

`flush` writes the last sample of each entity into its row, and a restart reads the states
back from there.  A report that `record` has dropped as a repetition has the state of the
last sample, so the restarted server shows what the old one has shown; only a number that
came within the minimum interval of the last sample is lost.
-/

namespace NasaCpp.Web

open General SamplesTable

/-! ## The rows behind the queue -/

/-- A row with the state of a sample, as the `UPDATE` of `flush` writes it. -/
def EntityRow.take (row : EntityRow) (sample : Sample) : EntityRow :=
  { row with
    value := sample.stored.2.value
    text := sample.2.text
    updated := some sample.2.ts }

namespace Storage

def entityRow (storage : Storage) (entityId : String) : Option EntityRow :=
  storage.db.entities[entityId]?.map fun row =>
    ((lastFor Prod.fst storage.pending entityId).map row.take).getD row

theorem entities_foldl_updateEntity (db : Database) (samples : List Sample) (entityId : String) :
    (samples.foldl Database.updateEntity db).entities[entityId]? =
      db.entities[entityId]?.map fun row =>
        ((lastFor Prod.fst samples entityId).map row.take).getD row := by
  induction samples using List.reverseRecOn with
  | nil => exact Option.map_id'.symm
  | append_singleton samples sample ih =>
      rw [List.foldl_concat]
      change ((samples.foldl Database.updateEntity db).entities.modify sample.1 _)[entityId]? = _
      rw [Maps.lookup_modify, lastFor_concat, ih]
      split
      · rw [Option.map_map]
        congr 1
        funext row
        cases lastFor Prod.fst samples entityId <;> rfl
      · rfl

theorem lastFor_map_replace (samples : List Sample) (sample : Sample) (entityId : String)
    (here : sample.1 ≠ entityId) :
    lastFor Prod.fst (samples.map fun other => if other.1 = sample.1 then sample else other)
      entityId = lastFor Prod.fst samples entityId := by
  induction samples using List.reverseRecOn with
  | nil => rfl
  | append_singleton samples other ih =>
      rw [List.map_append, List.map_singleton, lastFor_concat, lastFor_concat, ih]
      by_cases same : other.1 = sample.1
      · rw [if_pos same, if_neg here, if_neg (same ▸ here)]
      · rw [if_neg same]

theorem lastFor_map_replaced (samples : List Sample) (sample : Sample)
    (present : ∃ other ∈ samples, other.1 = sample.1) :
    lastFor Prod.fst (samples.map fun other => if other.1 = sample.1 then sample else other)
      sample.1 = some sample := by
  induction samples using List.reverseRecOn with
  | nil =>
      obtain ⟨other, member, -⟩ := present
      cases member
  | append_singleton samples other ih =>
      rw [List.map_append, List.map_singleton, lastFor_concat]
      by_cases same : other.1 = sample.1
      · rw [if_pos same, if_pos rfl]
      · rw [if_neg same, if_neg same]
        obtain ⟨earlier, member, here⟩ := present
        rcases List.mem_append.mp member with before | last
        · exact ih ⟨earlier, before, here⟩
        · rw [List.mem_singleton.mp last] at here
          exact absurd here same

theorem lastFor_setLatest (latest : List Sample) (sample : Sample) (entityId : String) :
    lastFor Prod.fst (setLatest latest sample) entityId =
      if sample.1 = entityId then some sample else lastFor Prod.fst latest entityId := by
  unfold setLatest
  split
  · rename_i present
    obtain ⟨other, member, same⟩ := List.any_eq_true.mp present
    split
    · rename_i here
      rw [← here]
      exact lastFor_map_replaced latest sample ⟨other, member, of_decide_eq_true same⟩
    · rename_i elsewhere
      exact lastFor_map_replace latest sample entityId elsewhere
  · exact lastFor_concat Prod.fst latest sample entityId

/-- The dictionary of `flush` has the last sample of each entity. -/
theorem lastFor_foldl_setLatest (samples : List Sample) (entityId : String) :
    lastFor Prod.fst (samples.foldl setLatest []) entityId = lastFor Prod.fst samples entityId := by
  induction samples using List.reverseRecOn with
  | nil => rfl
  | append_singleton samples sample ih =>
      rw [List.foldl_concat, lastFor_setLatest, lastFor_concat, ih]

/-- A call of `flush` that returns has written every row, and committed it. -/
theorem flush_rows {storage : Storage} (saved : storage.committed = storage.db) :
    (storage.flush none).1.pending = [] ∧
      (storage.flush none).1.last = storage.last ∧
      (storage.flush none).1.committed = (storage.flush none).1.db ∧
      ∀ entityId : String,
        (storage.flush none).1.db.entities[entityId]? = storage.entityRow entityId := by
  unfold flush
  dsimp only [executeMany, Fault.insertOf, Fault.updateOf]
  by_cases empty : storage.pending = []
  · rw [if_pos empty]
    refine ⟨rfl, rfl, saved, fun entityId => ?_⟩
    rw [entityRow, empty]
    exact Option.map_id'.symm
  · rw [if_neg empty, if_neg (by decide), if_neg (by decide), if_neg (by decide)]
    refine ⟨rfl, rfl, rfl, fun entityId => ?_⟩
    dsimp only
    rw [entities_foldl_updateEntity, Server.entities_foldl_insertSample, entityRow]
    congr 1
    funext row
    rw [lastFor_foldl_setLatest]

theorem entityRow_flush {storage : Storage} (saved : storage.committed = storage.db)
    (entityId : String) :
    (storage.flush none).1.entityRow entityId = storage.entityRow entityId := by
  obtain ⟨empty, -, -, rows⟩ := flush_rows saved
  rw [entityRow, empty, rows]
  exact Option.map_id'

theorem entities_close {storage : Storage} (saved : storage.committed = storage.db)
    (entityId : String) : storage.close.entities[entityId]? = storage.entityRow entityId := by
  obtain ⟨-, -, committed, rows⟩ := flush_rows saved
  rw [close, committed, rows]

theorem entityRow_init (file : Database) (heartbeat minInterval : ℤ) (entityId : String) :
    (init file heartbeat minInterval).entityRow entityId = file.entities[entityId]? :=
  Option.map_id'

/-- The row takes an accepted sample of its entity. -/
theorem entityRow_accept (storage : Storage) (sample : Sample) (entityId : String) :
    (storage.accept sample).entityRow entityId =
      if sample.1 = entityId then (storage.entityRow entityId).map fun row => row.take sample
      else storage.entityRow entityId := by
  unfold entityRow accept
  dsimp only
  rw [lastFor_concat]
  split
  · rw [Option.map_map]
    congr 1
    funext row
    cases lastFor Prod.fst storage.pending entityId <;> rfl
  · rfl

theorem entityRow_saveEntity {storage : Storage} {entityId : String} {row : EntityRow}
    (platform : String) (config : EntityConfig) (stored : storage.entityRow entityId = some row) :
    (storage.saveEntity entityId platform config).entityRow entityId =
      some { row with platform, config } := by
  obtain ⟨before, hbefore, rfl⟩ := Option.map_eq_some_iff.mp stored
  have saved : (storage.saveEntity entityId platform config).db.entities[entityId]? =
      some { before with platform, config } := by
    refine Std.TreeMap.getElem?_insert_self.trans ?_
    rw [hbefore]
  rw [entityRow, saved, Option.map_some]
  change some ((Option.map _ (lastFor Prod.fst storage.pending entityId)).getD _) = _
  cases lastFor Prod.fst storage.pending entityId <;> rfl

theorem entityRow_saveEntity_new {storage : Storage} {entityId : String} (platform : String)
    (config : EntityConfig) (stored : storage.db.entities[entityId]? = none)
    (queued : lastFor Prod.fst storage.pending entityId = none) :
    (storage.saveEntity entityId platform config).entityRow entityId =
      some { platform, config } := by
  have saved : (storage.saveEntity entityId platform config).db.entities[entityId]? =
      some { platform, config } := by
    refine Std.TreeMap.getElem?_insert_self.trans ?_
    rw [stored]
  rw [entityRow, saved, Option.map_some]
  change some ((Option.map _ (lastFor Prod.fst storage.pending entityId)).getD _) = _
  rw [queued]
  rfl

/-- `record` drops a throttled sample and accepts any other. -/
theorem record_cases (storage : Storage) (entityId : String) (value : Option PyFloat)
    (text : Option String) (ts : ℚ) :
    storage.Throttles (sampleOf entityId value text ts) ∧
        (storage.record entityId value text ts).1 = storage ∨
      ¬ storage.Throttles (sampleOf entityId value text ts) ∧
        (storage.record entityId value text ts).1 =
          storage.accept (sampleOf entityId value text ts) := by
  unfold record
  by_cases throttled : storage.Throttles (sampleOf entityId value text ts)
  · exact .inl ⟨throttled, by rw [if_pos throttled]⟩
  · exact .inr ⟨throttled, by rw [if_neg throttled]⟩

end Storage

theorem eq_of_sameValue {one two : Option PyFloat} (same : sameValue one two = true) :
    one = two := by
  cases one <;> cases two
  · rfl
  · cases same
  · cases same
  · exact congrArg some (of_decide_eq_true same).2

namespace Server

open Storage

/-! ## States and rows -/

/-- The state is the one that the entity shows; or it shows a number, and the state is one that
the listeners were told less than the minimum interval before. -/
def Recent (minInterval : ℤ) (heard : List Output) (entityId : String) (live : LiveEntity)
    (state : Option PyFloat × Option String) : Prop :=
  state = live.state ∨ live.text = none ∧ ∃ shownAt toldAt : ℚ,
    live.updated = some shownAt ∧
      .effect (.emit (.state entityId state.1 state.2 toldAt)) ∈ heard ∧
      Rounding.trunc toldAt ≤ Rounding.trunc shownAt ∧
      Rounding.trunc shownAt < Rounding.trunc toldAt + minInterval

def Told (heard : List Output) (entityId : String) (row : EntityRow) : Prop :=
  ∀ second : ℤ, row.updated = some (second : ℚ) → ∃ toldAt,
    .effect (.emit (.state entityId row.value row.text toldAt)) ∈ heard ∧
      Rounding.trunc toldAt = second

def Holds (row : EntityRow) (reading : Reading PyFloat) : Prop :=
  row.value = reading.value ∧ row.text = reading.text ∧ row.updated = some (reading.ts : ℚ)

/-- An entity and its row behind the queue; the times are those of the events to come. -/
inductive Mirrors (settings : Settings) (times : List ℚ) (heard : List Output)
    (entityId : String) (bridge : MqttBridge) : Prop
  /-- nothing is known of the entity -/
  | unknown (registered : bridge.registry.get entityId = none)
      (stored : bridge.storage.db.entities[entityId]? = none)
      (queued : lastFor Prod.fst bridge.storage.pending entityId = none)
      (cached : Stale (settings.retentionDays * 86400) times bridge.storage.last[entityId]?)
  /-- the row has the state shown, and `record` compares reports with the state of the row -/
  | known (live : LiveEntity) (row : EntityRow)
      (registered : bridge.registry.get entityId = some live)
      (stored : bridge.storage.entityRow entityId = some row)
      (shown : Recent settings.minIntervalSeconds heard entityId live (row.value, row.text))
      (told : Told heard entityId row)
      (cached : ∀ reading, bridge.storage.last[entityId]? = some reading →
        Holds row reading ∨ Stale (settings.retentionDays * 86400) times (some reading))

section

variable {settings : Settings} {times : List ℚ} {heard : List Output} {entityId : String}
  {bridge next : MqttBridge}

theorem Recent.mono {minInterval : ℤ} {more : List Output} {live : LiveEntity}
    {state : Option PyFloat × Option String} (recent : Recent minInterval heard entityId live state)
    (said : ∀ out ∈ heard, out ∈ more) : Recent minInterval more entityId live state :=
  recent.imp_right fun ⟨noText, shownAt, toldAt, updated, told, between⟩ =>
    ⟨noText, shownAt, toldAt, updated, said _ told, between⟩

theorem Told.mono {more : List Output} {row : EntityRow} (told : Told heard entityId row)
    (said : ∀ out ∈ heard, out ∈ more) : Told more entityId row :=
  fun second updated => (told second updated).imp fun _ => And.imp_left (said _)

theorem Mirrors.mono {fewer : List ℚ} {more : List Output}
    (mirrors : Mirrors settings times heard entityId bridge) (sub : ∀ ts ∈ fewer, ts ∈ times)
    (said : ∀ out ∈ heard, out ∈ more) : Mirrors settings fewer more entityId bridge := by
  cases mirrors with
  | unknown registered stored queued cached =>
      exact .unknown registered stored queued (cached.mono sub)
  | known live row registered stored shown told cached =>
      exact .known live row registered stored (shown.mono said) (told.mono said)
        fun reading here => (cached reading here).imp_right fun stale => stale.mono sub

/-- What concerns other entities only leaves an entity and its row as they are. -/
theorem Mirrors.elsewhere (mirrors : Mirrors settings times heard entityId bridge)
    (registered : next.registry.get entityId = bridge.registry.get entityId)
    (stored : next.storage.db.entities[entityId]? = bridge.storage.db.entities[entityId]?)
    (queued : lastFor Prod.fst next.storage.pending entityId =
      lastFor Prod.fst bridge.storage.pending entityId)
    (cached : next.storage.last[entityId]? = bridge.storage.last[entityId]?) :
    Mirrors settings times heard entityId next := by
  have row : next.storage.entityRow entityId = bridge.storage.entityRow entityId := by
    rw [entityRow, entityRow, stored, queued]
  cases mirrors with
  | unknown registered' stored' queued' cached' =>
      refine .unknown (registered.trans registered') (stored.trans stored')
        (queued.trans queued') ?_
      rw [cached]
      exact cached'
  | known live row' registered' stored' shown told cached' =>
      refine .known live row' (registered.trans registered') (row.trans stored') shown told ?_
      rw [cached]
      exact cached'

/-- An announcement keeps the state of the entity and of its row. -/
theorem Mirrors.announce (sound : bridge.registry.Sound)
    (mirrors : Mirrors settings times heard entityId bridge) {platform objectId : String}
    {cfg : EntityConfig} {entity : Entity} (built : cfg.entity objectId platform = some entity) :
    Mirrors settings times heard entityId { bridge with
      registry := bridge.registry.upsert entity
      storage := bridge.storage.saveEntity objectId platform cfg } := by
  have hget := Registry.get_upsert sound entity entityId
  rw [MqttBridge.id_of_entity built] at hget
  by_cases here : objectId = entityId
  · subst here
    rw [if_pos rfl] at hget
    cases mirrors with
    | unknown registered stored queued cached =>
        rw [registered] at hget
        exact .known { entity } { platform, config := cfg } hget
          (entityRow_saveEntity_new platform cfg stored queued) (.inl rfl) nofun
          fun reading hreading => .inr fun found hfound => cached found (hreading.trans hfound)
    | known live row registered stored shown told cached =>
        rw [registered] at hget
        exact .known { live with entity } { row with platform, config := cfg } hget
          (entityRow_saveEntity platform cfg stored) shown told cached
  · rw [if_neg here] at hget
    refine mirrors.elsewhere hget ?_ rfl rfl
    exact (Maps.lookup_insert _ _ _ _).trans (if_neg here)

/-- A reading that keeps a report out is not from the future. -/
theorem le_of_throttles {storage : Storage} {retention : ℤ} {now : ℚ}
    (remembers : Remembers retention (now :: times) storage) {reading : Reading PyFloat}
    (hlast : storage.last[entityId]? = some reading)
    (fresh : ¬ Stale retention (now :: times) (some reading)) :
    reading.ts ≤ Rounding.trunc now := by
  rcases remembers.latest entityId with same | ⟨stale, -⟩
  · rw [hlast] at same
    exact remembers.past now List.mem_cons_self entityId reading.ts (mem_of_latest same.symm)
  · rw [hlast] at stale
    exact absurd stale fresh

/-- The settings that the storage was opened with; what is kept is kept for longer than reports
are compared. -/
structure Opened (settings : Settings) (storage : Storage) : Prop where
  heartbeat : storage.heartbeat = settings.heartbeatSeconds
  minInterval : storage.minInterval = settings.minIntervalSeconds
  heartbeatKept : settings.heartbeatSeconds ≤ settings.retentionDays * 86400
  minIntervalKept : settings.minIntervalSeconds ≤ settings.retentionDays * 86400

theorem Opened.same {storage other : Storage} (opened : Opened settings storage)
    (heartbeat : other.heartbeat = storage.heartbeat)
    (minInterval : other.minInterval = storage.minInterval) : Opened settings other :=
  ⟨heartbeat.trans opened.heartbeat, minInterval.trans opened.minInterval, opened.heartbeatKept,
    opened.minIntervalKept⟩

/-- A report that `record` drops repeats the state of the row, or is a number within the minimum
interval of the one that was told when the row was written. -/
theorem recent_of_throttled {live : LiveEntity} {row : EntityRow} {value : Option PyFloat}
    {text : Option String} {now : ℚ} (opened : Opened settings bridge.storage)
    (remembers : Remembers (settings.retentionDays * 86400) (now :: times) bridge.storage)
    (told : Told heard entityId row)
    (cached : ∀ reading, bridge.storage.last[entityId]? = some reading →
      Holds row reading ∨ Stale (settings.retentionDays * 86400) (now :: times) (some reading))
    (throttled : bridge.storage.Throttles (sampleOf entityId value text now)) :
    Recent settings.minIntervalSeconds heard entityId { live with value, text, updated := some now }
      (row.value, row.text) := by
  obtain ⟨reading, hlast, repeated⟩ := throttled
  have fresh : ¬ Stale (settings.retentionDays * 86400) (now :: times) (some reading) := by
    intro stale
    rw [← hlast] at stale
    exact not_throttles_of_stale (opened.heartbeat ▸ opened.heartbeatKept)
      (opened.minInterval ▸ opened.minIntervalKept) stale List.mem_cons_self
      ⟨reading, hlast, repeated⟩
  obtain ⟨holdsValue, holdsText, holdsTs⟩ := (cached reading hlast).resolve_right fresh
  rcases repeated with ⟨⟨sameValue, sameText⟩, -⟩ | ⟨noText, early⟩
  · left
    rw [holdsValue, holdsText, eq_of_sameValue sameValue, sameText]
    rfl
  · obtain ⟨toldAt, member, second⟩ := told reading.ts holdsTs
    refine .inr ⟨noText, now, toldAt, rfl, member, ?_⟩
    rw [second]
    refine ⟨le_of_throttles remembers hlast fresh, ?_⟩
    rw [← opened.minInterval]
    change Rounding.trunc now - reading.ts < _ at early
    omega

/-- A report that `record` accepts is the state of the row from then on. -/
theorem Mirrors.accepted {live : LiveEntity} {row : EntityRow} {value : Option PyFloat}
    {text : Option String} {now : ℚ} (number : value ≠ some .nan)
    (registered : next.registry.get entityId =
      some { live with value, text, updated := some now })
    (stored : bridge.storage.entityRow entityId = some row)
    (accepted : next.storage = bridge.storage.accept (sampleOf entityId value text now)) :
    Mirrors settings times (heard ++ [.effect (.emit (.state entityId value text now))])
      entityId next := by
  have taken := bridge.storage.entityRow_accept (sampleOf entityId value text now) entityId
  have key : (sampleOf entityId value text now).1 = entityId := rfl
  rw [if_pos key, stored, Option.map_some, ← accepted] at taken
  have storedValue : (sampleOf entityId value text now).stored.2.value = value :=
    congrArg (fun sample : Sample => sample.2.value) (stored_of_number number)
  refine .known _ _ registered taken (.inl ?_) (fun second updated => ⟨now, ?_, ?_⟩)
    fun found hfound => .inl ?_
  · exact congrArg (·, text) storedValue
  · refine List.mem_append_right _ (List.mem_singleton.mpr ?_)
    exact congrArg (fun told => Output.effect (.emit (.state _ told text now))) storedValue
  · exact Int.cast_injective (Option.some.inj updated)
  · have newest : (bridge.storage.last.insert entityId
        (sampleOf entityId value text now).2)[entityId]? = some found := by
      rw [accepted] at hfound
      exact hfound
    rw [Std.TreeMap.getElem?_insert_self] at newest
    cases newest
    exact ⟨storedValue, rfl, rfl⟩

/-- A state that is told is the last one shown, and stored unless it is a repetition or a number
that comes too early. -/
theorem Mirrors.hear {topic : String} {now : ℚ} {ref : ℕ} {live : LiveEntity}
    {value : Option PyFloat} {text : Option String} (sound : bridge.registry.Sound)
    (opened : Opened settings bridge.storage)
    (remembers : Remembers (settings.retentionDays * 86400) (now :: times) bridge.storage)
    (mirrors : Mirrors settings (now :: times) heard entityId bridge)
    (href : bridge.registry.byTopic[topic]? = some ref)
    (hlive : bridge.registry.objects[ref]? = some live) (number : value ≠ some .nan) :
    Mirrors settings times (heard ++ [.effect (.emit (.state live.entity.id value text now))])
      entityId { bridge with
        lastMessage := some now
        registry := bridge.registry.updateState ref value text now
        storage := (bridge.storage.record live.entity.id value text now).1 } := by
  have tail : Mirrors settings times
      (heard ++ [.effect (.emit (.state live.entity.id value text now))]) entityId bridge :=
    mirrors.mono (fun _ => List.mem_cons_of_mem now) fun _ => List.mem_append_left _
  have hget := Registry.get_updateState sound href hlive value text now entityId
  by_cases here : live.entity.id = entityId
  · subst here
    rw [if_pos rfl] at hget
    have registered : bridge.registry.get live.entity.id = some live := by
      rw [Registry.get, (sound.of_topic href hlive).2]
      exact hlive
    cases mirrors with
    | unknown absent _ _ _ =>
        rw [registered] at absent
        cases absent
    | known other row hother stored _ told cached =>
        rcases bridge.storage.record_cases live.entity.id value text now with
          ⟨throttled, hrecord⟩ | ⟨-, hrecord⟩
        · rw [hrecord]
          refine .known _ row hget stored ?_
            (told.mono fun _ => List.mem_append_left _)
            fun found hfound => (cached found hfound).imp_right fun stale =>
              stale.mono fun _ => List.mem_cons_of_mem now
          exact (recent_of_throttled opened remembers told cached throttled).mono
            fun _ => List.mem_append_left _
        · exact .accepted number hget stored hrecord
  · rw [if_neg here] at hget
    rcases bridge.storage.record_cases live.entity.id value text now with
      ⟨-, hrecord⟩ | ⟨-, hrecord⟩
    · rw [hrecord]
      exact tail.elsewhere hget rfl rfl rfl
    · rw [hrecord]
      refine tail.elsewhere hget rfl ?_ ?_
      · exact (lastFor_concat Prod.fst _ _ _).trans (if_neg here)
      · exact (Maps.lookup_insert _ _ _ _).trans (if_neg here)

/-- An entity and its row are those that the file of the process gives after a restart. -/
theorem Mirrors.boot {order : List String} (saved : bridge.storage.committed = bridge.storage.db)
    (remembers : Remembers (settings.retentionDays * 86400) times bridge.storage)
    (mirrors : Mirrors settings times heard entityId bridge)
    (all : order.Perm bridge.storage.close.entities.keys)
    (built : ∀ live row, bridge.registry.get entityId = some live →
      bridge.storage.entityRow entityId = some row →
      row.live entityId = some ⟨live.entity, row.value, row.text, row.updated⟩) :
    Mirrors settings times heard entityId
      (Server.boot settings bridge.storage.close order).bridge := by
  have hget := get_boot settings all entityId
  have rows := entities_close saved entityId
  have cached : (Server.boot settings bridge.storage.close order).bridge.storage.last[entityId]? =
      latest (bridge.storage.written.rowsOf entityId) := by
    rw [← samples_close saved]
    exact (reflects_init bridge.storage.close _ _).latest entityId
  cases mirrors with
  | unknown registered stored queued stale =>
      have absent : bridge.storage.entityRow entityId = none := by
        rw [entityRow, stored]
        rfl
      rw [rows, absent] at hget
      refine .unknown hget (rows.trans absent) rfl ?_
      rw [cached]
      rcases remembers.latest entityId with same | ⟨-, stale'⟩
      · rw [← same]
        exact stale
      · exact stale'
  | known live row registered stored shown told holds =>
      rw [rows, stored, Option.bind_some, built live row registered stored] at hget
      refine .known _ row hget ((entityRow_init _ _ _ entityId).trans (rows.trans stored))
        (.inl rfl) told fun reading here => ?_
      rw [cached] at here
      rcases remembers.latest entityId with same | ⟨-, stale⟩
      · exact holds reading (same.trans here)
      · rw [here] at stale
        exact .inr stale

/-- The row of a registered entity restores it with the state of the row. -/
theorem Knows.live_row {said : String → Option Announced} (knows : Knows said bridge)
    {live : LiveEntity} {row : EntityRow} (registered : bridge.registry.get entityId = some live)
    (stored : bridge.storage.entityRow entityId = some row) :
    row.live entityId = some ⟨live.entity, row.value, row.text, row.updated⟩ := by
  obtain ⟨before, hbefore, hrow⟩ := Option.map_eq_some_iff.mp stored
  have announced := knows.registered entityId
  rw [registered, Option.map_some] at announced
  obtain ⟨found, hfound, entity⟩ := Option.map_eq_some_iff.mp announced.symm
  have discovered := knows.stored entityId
  rw [hbefore, hfound, Option.map_some, Option.map_some, Option.some.injEq] at discovered
  obtain ⟨platform, config⟩ := Prod.mk.inj discovered
  have same : row.platform = found.1 ∧ row.config = found.2.1 := by
    rw [← hrow, ← platform, ← config]
    cases lastFor Prod.fst bridge.storage.pending entityId <;> exact ⟨rfl, rfl⟩
  rw [EntityRow.live, same.1, same.2, knows.built entityId found hfound, Option.map_some, entity]

/-! ## Runs -/

def clock (events : List Event) : List ℚ :=
  events.filterMap fun
    | .message _ _ now => some now
    | .purge now => some now
    | _ => none

theorem clock_tail {event : Event} {events : List Event} {ts : ℚ} (member : ts ∈ clock events) :
    ts ∈ clock (event :: events) := by
  obtain ⟨later, hmem, hts⟩ := List.mem_filterMap.mp member
  exact List.mem_filterMap.mpr ⟨later, List.mem_cons_of_mem _ hmem, hts⟩

def Event.Succeeds : Event → Prop
  | .flush fault => fault = none
  | _ => True

def Event.Spares (setup : Setup) (entityId : String) (event : Event) : Prop :=
  decision setup event ≠ some (entityId, none)

instance : ∀ event : Event, Decidable event.Succeeds
  | .flush fault => inferInstanceAs (Decidable (fault = none))
  | .connect _ | .disconnect | .message _ _ _ | .purge _ | .command _ _ _ | .restart _ =>
      isTrue trivial

instance (setup : Setup) (entityId : String) (event : Event) :
    Decidable (event.Spares setup entityId) :=
  match decided : decision setup event with
  | none => isTrue (by rw [Event.Spares, decided]; nofun)
  | some (objectId, some _) => isTrue (by rw [Event.Spares, decided]; nofun)
  | some (objectId, none) =>
      decidable_of_iff (objectId ≠ entityId) (by
        rw [Event.Spares, decided, Ne, Ne, Option.some.injEq, Prod.mk.injEq, and_iff_left rfl])

def ReadsNumbers (setup : Setup) : Prop :=
  ∀ entity payload value text, setup.parseState entity payload = some (value, text) →
    value ≠ some .nan

/-- The server knows what was announced, and an entity and its row mirror each other. -/
structure Keeps (settings : Settings) (times : List ℚ) (heard : List Output) (entityId : String)
    (bridge : MqttBridge) : Prop where
  knows : ∃ said, Knows said bridge
  opened : Opened settings bridge.storage
  remembers : Remembers (settings.retentionDays * 86400) times bridge.storage
  mirrors : Mirrors settings times heard entityId bridge

theorem Keeps.mono {fewer : List ℚ} {more : List Output}
    (keeps : Keeps settings times heard entityId bridge) (sub : ∀ ts ∈ fewer, ts ∈ times)
    (said : ∀ out ∈ heard, out ∈ more) : Keeps settings fewer more entityId bridge :=
  ⟨keeps.knows, keeps.opened, keeps.remembers.mono sub, keeps.mirrors.mono sub said⟩

theorem Keeps.withdraw (keeps : Keeps settings times heard entityId bridge) {objectId : String}
    (elsewhere : objectId ≠ entityId) :
    Keeps settings times heard entityId { bridge with
      registry := bridge.registry.remove objectId
      storage := bridge.storage.deleteEntity objectId } where
  knows := by
    obtain ⟨said, knows⟩ := keeps.knows
    exact ⟨_, knows.withdraw objectId⟩
  opened := keeps.opened.same rfl rfl
  remembers := ⟨rfl, keeps.remembers.past, keeps.remembers.latest⟩
  mirrors := by
    refine keeps.mirrors.elsewhere ?_ ?_ rfl rfl
    · exact (Registry.get_remove _ _ _).trans (if_neg elsewhere)
    · exact (Maps.lookup_erase _ _ _).trans (if_neg elsewhere)

theorem Keeps.announce (keeps : Keeps settings times heard entityId bridge)
    {platform objectId : String} {cfg : EntityConfig} {entity : Entity}
    (built : cfg.entity objectId platform = some entity) :
    Keeps settings times heard entityId { bridge with
      registry := bridge.registry.upsert entity
      storage := bridge.storage.saveEntity objectId platform cfg } := by
  obtain ⟨said, knows⟩ := keeps.knows
  exact ⟨⟨_, knows.announce built⟩,
    keeps.opened.same rfl rfl,
    ⟨rfl, keeps.remembers.past, keeps.remembers.latest⟩, keeps.mirrors.announce knows.sound built⟩

theorem Keeps.hear {topic : String} {now : ℚ} {ref : ℕ} {live : LiveEntity}
    {value : Option PyFloat} {text : Option String}
    (keeps : Keeps settings (now :: times) heard entityId bridge)
    (ordered : ∀ ts ∈ times, now ≤ ts) (href : bridge.registry.byTopic[topic]? = some ref)
    (hlive : bridge.registry.objects[ref]? = some live) (number : value ≠ some .nan) :
    Keeps settings times (heard ++ [.effect (.emit (.state live.entity.id value text now))])
      entityId { bridge with
        lastMessage := some now
        registry := bridge.registry.updateState ref value text now
        storage := (bridge.storage.record live.entity.id value text now).1 } := by
  obtain ⟨said, knows⟩ := keeps.knows
  refine ⟨⟨said, knows.hear href hlive value text now⟩, ?_, ?_,
    keeps.mirrors.hear knows.sound keeps.opened keeps.remembers href hlive number⟩ <;>
    rcases bridge.storage.record_cases live.entity.id value text now with
      ⟨-, hrecord⟩ | ⟨-, hrecord⟩ <;>
    dsimp only <;> rw [hrecord]
  · exact keeps.opened
  · exact keeps.opened.same rfl rfl
  · exact keeps.remembers.mono fun _ => List.mem_cons_of_mem now
  · exact keeps.remembers.accept ordered number

theorem Keeps.message {topic payload : String} {now : ℚ}
    (keeps : Keeps settings (now :: times) heard entityId bridge)
    (ordered : ∀ ts ∈ times, now ≤ ts)
    (spares : settings.setup.decision topic payload ≠ some (entityId, none))
    (numbers : ReadsNumbers settings.setup) :
    Keeps settings times
      (heard ++ (Server.performed settings.accepts
        (bridge.onMessage settings.setup topic payload now).2).map .effect) entityId
      (bridge.onMessage settings.setup topic payload now).1 := by
  have tail (new : List Output) : Keeps settings times (heard ++ new) entityId bridge :=
    keeps.mono (fun _ => List.mem_cons_of_mem now) fun _ => List.mem_append_left _
  have reaction := bridge.reaction_onMessage settings.setup topic payload now
  generalize bridge.onMessage settings.setup topic payload now = result at reaction ⊢
  cases reaction with
  | ignored | absent => exact tail _
  | withdrawn decided => exact (tail _).withdraw fun here => spares (here ▸ decided)
  | announced _ built => exact (tail _).announce built
  | told _ href hlive parsed => exact keeps.hear ordered href hlive (numbers _ _ _ _ parsed)

theorem Keeps.connected (keeps : Keeps settings times heard entityId bridge) (connected : Bool) :
    Keeps settings times heard entityId { bridge with connected } := by
  obtain ⟨said, knows⟩ := keeps.knows
  exact ⟨⟨said, knows.sound, knows.registered, knows.stored, knows.committed, knows.built⟩,
    keeps.opened, keeps.remembers, keeps.mirrors.elsewhere rfl rfl rfl rfl⟩

theorem Keeps.flush (keeps : Keeps settings times heard entityId bridge) :
    Keeps settings times heard entityId
      { bridge with storage := (bridge.storage.flush none).1 } := by
  obtain ⟨said, knows⟩ := keeps.knows
  obtain ⟨empty, last, -, rows⟩ := flush_rows keeps.remembers.saved
  have row := entityRow_flush keeps.remembers.saved entityId
  obtain ⟨db, count, -, hflush⟩ := flush_committed keeps.remembers.saved
  refine ⟨⟨said, knows.flush none⟩, ?_, keeps.remembers.flush, ?_⟩
  · rw [hflush]
    exact keeps.opened.same rfl rfl
  · cases keeps.mirrors with
    | unknown registered stored queued cached =>
        refine .unknown registered ?_ ?_ ?_
        · refine (rows entityId).trans ?_
          rw [entityRow, stored]
          rfl
        · dsimp only
          rw [empty]
          rfl
        · dsimp only
          rw [last]
          exact cached
    | known live row' registered stored shown told cached =>
        refine .known live row' registered (row.trans stored) shown told fun reading here => ?_
        dsimp only at here
        rw [last] at here
        exact cached reading here

theorem Keeps.purge {now : ℚ} (keeps : Keeps settings times heard entityId bridge)
    (ordered : ∀ ts ∈ times, now ≤ ts) :
    Keeps settings times heard entityId
      { bridge with storage := (bridge.storage.purge settings.retentionDays now).1 } := by
  obtain ⟨said, knows⟩ := keeps.knows
  exact ⟨⟨said, knows.sound, knows.registered, knows.stored, fun _ => rfl, knows.built⟩,
    keeps.opened.same rfl rfl,
    keeps.remembers.purge ordered, keeps.mirrors.elsewhere rfl rfl rfl rfl⟩

theorem Keeps.boot {order : List String} (keeps : Keeps settings times heard entityId bridge)
    (all : order.Perm bridge.storage.close.entities.keys) :
    Keeps settings times heard entityId
      (Server.boot settings bridge.storage.close order).bridge := by
  obtain ⟨said, knows⟩ := keeps.knows
  refine ⟨⟨said, knows.boot settings all⟩,
    ⟨rfl, rfl, keeps.opened.heartbeatKept, keeps.opened.minIntervalKept⟩, ?_,
    keeps.mirrors.boot keeps.remembers.saved keeps.remembers all fun live row =>
      knows.live_row⟩
  refine remembers_init (fun ts member other second there => ?_) _ _
  rw [samples_close keeps.remembers.saved] at there
  exact keeps.remembers.past ts member other second there

theorem Keeps.step {event : Event} {later : List Event} {server after : Server}
    {new : List Output}
    (keeps : Keeps settings (clock (event :: later)) heard entityId server.bridge)
    (ordered : (clock (event :: later)).Pairwise (· ≤ ·)) (succeeds : event.Succeeds)
    (spares : event.Spares settings.setup entityId) (numbers : ReadsNumbers settings.setup)
    (hstep : (machine settings).step server event = some (after, new)) :
    Keeps settings (clock later) (heard ++ new) entityId after.bridge := by
  have tail (new : List Output) :
      Keeps settings (clock later) (heard ++ new) entityId server.bridge :=
    keeps.mono (fun _ => clock_tail) fun _ => List.mem_append_left _
  cases event with
  | connect isFailure =>
      cases isFailure <;> cases hstep
      · exact (tail _).connected true
      · exact tail _
  | disconnect =>
      cases hstep
      exact (tail _).connected false
  | message topic payload now =>
      cases hstep
      exact keeps.message (List.pairwise_cons.mp ordered).1 spares numbers
  | flush fault =>
      cases hstep
      cases succeeds
      exact (tail _).flush
  | purge now =>
      cases hstep
      exact (tail _).purge (List.pairwise_cons.mp ordered).1
  | command other value sent =>
      cases hstep
      exact tail _
  | restart order =>
      obtain ⟨all, hresult⟩ := Option.ite_none_right_eq_some.mp hstep
      cases hresult
      exact (tail _).boot all

theorem Keeps.run {events later : List Event} {server last : Server} {outs : List Output}
    (keeps : Keeps settings (clock (events ++ later)) heard entityId server.bridge)
    (ordered : (clock (events ++ later)).Pairwise (· ≤ ·))
    (succeed : ∀ event ∈ events, event.Succeeds)
    (spare : ∀ event ∈ events, event.Spares settings.setup entityId)
    (numbers : ReadsNumbers settings.setup)
    (hrun : (machine settings).run server events = some (last, outs)) :
    Keeps settings (clock later) (heard ++ outs) entityId last.bridge := by
  induction events generalizing server heard outs with
  | nil =>
      cases hrun
      rw [List.append_nil]
      exact keeps
  | cons event events ih =>
      obtain ⟨after, first, rest, hstep, hrest, rfl⟩ :=
        (machine settings).run_cons_eq_some.mp hrun
      have keepsAfter := keeps.step ordered (succeed event List.mem_cons_self)
        (spare event List.mem_cons_self) numbers hstep
      rw [← List.append_assoc]
      refine ih keepsAfter (ordered.sublist ?_)
        (fun other hmem => succeed other (List.mem_cons_of_mem _ hmem))
        (fun other hmem => spare other (List.mem_cons_of_mem _ hmem)) hrest
      exact (List.sublist_cons_self event _).filterMap _

end

end Server

end NasaCpp.Web
