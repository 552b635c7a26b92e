import NasaCpp.Web.Registry

/-!
# The topic index

`upsert` and `remove` take the topic of the entity that leaves out of the index, without a
look at whose entry that is.  Nothing else can part the two indexes: they agree after a
sequence of calls exactly if no call takes out a topic that another registered entity has.
-/

namespace NasaCpp.Web

open General

namespace Registry

def find (registry : Registry) (topic : String) : Option LiveEntity :=
  registry.byTopic[topic]?.bind fun ref => registry.objects[ref]?

/-- A call that changes which entities are registered. -/
inductive Call where
  | upsert (entity : Entity)
  | remove (entityId : String)

namespace Call

def id : Call → String
  | upsert entity => entity.id
  | remove entityId => entityId

def apply (registry : Registry) : Call → Registry
  | upsert entity => registry.upsert entity
  | remove entityId => registry.remove entityId

end Call

def after (calls : List Call) : Registry := calls.foldl Call.apply {}

/-- What is found by a topic is the registered entity of its id, with that topic, and every
registered entity's topic is found. -/
structure IndexesAgree (registry : Registry) : Prop where
  found : ∀ topic live, registry.find topic = some live →
    live.entity.stateTopic = topic ∧ registry.get live.entity.id = some live
  reached : ∀ live ∈ registry.all, (registry.find live.entity.stateTopic).isSome

/-- The topics of the other registered entities stay reachable. -/
def KeepsOthers (registry : Registry) (call : Call) : Prop :=
  ∀ live ∈ registry.all, live.entity.id ≠ call.id →
    (registry.find live.entity.stateTopic).isSome →
    ((call.apply registry).find live.entity.stateTopic).isSome

/-- The topic that a call takes out of the index for good: that of the entity registered under
its id, unless the new entity has the same one. -/
def dropped (registry : Registry) : Call → Option String
  | .upsert entity =>
      ((registry.get entity.id).map fun old => old.entity.stateTopic).filter
        (· ≠ entity.stateTopic)
  | .remove entityId => (registry.get entityId).map fun old => old.entity.stateTopic

/-- No other registered entity has the topic that is taken out. -/
def Spares (registry : Registry) (call : Call) : Prop :=
  ∀ live ∈ registry.all, live.entity.id ≠ call.id →
    registry.dropped call ≠ some live.entity.stateTopic

/-! ## What is found after a call -/

theorem Sound.found {registry : Registry} (sound : registry.Sound) {topic : String}
    {live : LiveEntity} (hfind : registry.find topic = some live) :
    live.entity.stateTopic = topic ∧ registry.get live.entity.id = some live := by
  obtain ⟨ref, href, hlive⟩ := Option.bind_eq_some_iff.mp hfind
  obtain ⟨htopic, hid⟩ := sound.of_topic href hlive
  refine ⟨htopic, ?_⟩
  rw [get, hid]
  exact hlive

theorem Sound.apply {registry : Registry} (sound : registry.Sound) (call : Call) :
    (call.apply registry).Sound := by
  cases call with
  | upsert entity => exact sound.upsert entity
  | remove entityId => exact sound.remove entityId

theorem sound_after (calls : List Call) : (after calls).Sound :=
  List.foldlRecOn calls Call.apply sound_empty fun _ sound call _ => sound.apply call

/-- A new object leaves what is found by the topics in the index. -/
theorem Sound.find_append {registry : Registry} (sound : registry.Sound) (topic : String)
    (new : List LiveEntity) :
    (registry.byTopic[topic]?.bind fun ref => (registry.objects ++ new)[ref]?) =
      registry.find topic := by
  cases href : registry.byTopic[topic]? with
  | none => rw [find, href, Option.bind_none, Option.bind_none]
  | some ref =>
      obtain ⟨live, hlive, -, -⟩ := sound.topic topic ref href
      rw [find, href, Option.bind_some, Option.bind_some, hlive]
      exact object_append hlive new

theorem find_upsert {registry : Registry} (sound : registry.Sound) (entity : Entity)
    (topic : String) :
    (registry.upsert entity).find topic =
      if entity.stateTopic = topic then (registry.upsert entity).get entity.id
      else if registry.dropped (.upsert entity) = some topic then none
      else registry.find topic := by
  by_cases here : entity.stateTopic = topic
  · rw [if_pos here, get_upsert sound, if_pos rfl, ← here]
    unfold upsert find
    dsimp only
    rw [Std.TreeMap.getElem?_insert_self]
    exact List.getElem?_concat_length
  · rw [if_neg here, find, upsert]
    dsimp only
    rw [Maps.lookup_insert, if_neg here]
    cases hold : registry.get entity.id with
    | none =>
        have stays : registry.dropped (.upsert entity) = none := by rw [dropped, hold]; rfl
        rw [stays, if_neg nofun]
        exact sound.find_append topic _
    | some old =>
        have drops : registry.dropped (.upsert entity) =
            (some old.entity.stateTopic).filter (· ≠ entity.stateTopic) := by
          rw [dropped, hold]
          rfl
        dsimp only
        rw [Maps.lookup_erase, drops]
        by_cases leaves : old.entity.stateTopic = topic
        · rw [if_pos leaves, Option.bind_none, leaves,
            Option.filter_some_pos (by simpa using Ne.symm here), if_pos rfl]
        · rw [if_neg leaves, if_neg]
          · exact sound.find_append topic _
          · intro same
            exact leaves (Option.some.inj (Option.filter_eq_some_iff.mp same).1)

theorem find_remove (registry : Registry) (entityId topic : String) :
    (registry.remove entityId).find topic =
      if registry.dropped (.remove entityId) = some topic then none else registry.find topic := by
  unfold remove
  cases hold : registry.get entityId with
  | none =>
      have stays : registry.dropped (.remove entityId) = none := by rw [dropped, hold]; rfl
      rw [stays, if_neg nofun]
  | some old =>
      have drops : registry.dropped (.remove entityId) = some old.entity.stateTopic := by
        rw [dropped, hold]
        rfl
      dsimp only [find]
      rw [Maps.lookup_erase, drops]
      by_cases leaves : old.entity.stateTopic = topic
      · rw [if_pos leaves, if_pos (congrArg some leaves), Option.bind_none]
      · rw [if_neg leaves, if_neg fun same => leaves (Option.some.inj same)]

/-- A topic is lost by a call only where the call takes it out, and gained only by the new
entity. -/
theorem find_apply {registry : Registry} (sound : registry.Sound) (call : Call) (topic : String) :
    (∃ live, (call.apply registry).get call.id = some live ∧
        (call.apply registry).find topic = some live) ∨
      (call.apply registry).find topic =
        if registry.dropped call = some topic then none else registry.find topic := by
  cases call with
  | remove entityId => exact .inr (find_remove registry entityId topic)
  | upsert entity =>
      have lookup := find_upsert sound entity topic
      by_cases here : entity.stateTopic = topic
      · rw [if_pos here, get_upsert sound, if_pos rfl] at lookup
        exact .inl ⟨_, (get_upsert sound entity entity.id).trans (if_pos rfl), lookup⟩
      · rw [if_neg here] at lookup
        exact .inr lookup

theorem get_apply_other {registry : Registry} (sound : registry.Sound) {call : Call}
    {entityId : String} (other : entityId ≠ call.id) :
    (call.apply registry).get entityId = registry.get entityId := by
  cases call with
  | upsert entity => exact (get_upsert sound entity entityId).trans (if_neg other.symm)
  | remove removed => exact (get_remove registry removed entityId).trans (if_neg other.symm)

/-- The entity that a call registers is found by its topic. -/
theorem find_new {registry : Registry} (sound : registry.Sound) {call : Call} {live : LiveEntity}
    (hget : (call.apply registry).get call.id = some live) :
    (call.apply registry).find live.entity.stateTopic = some live := by
  cases call with
  | upsert entity =>
      have new := (get_upsert sound entity entity.id).symm.trans hget
      rw [if_pos rfl] at new
      cases new
      exact (find_upsert sound entity _).trans ((if_pos rfl).trans hget)
  | remove entityId =>
      have gone := (get_remove registry entityId entityId).symm.trans hget
      rw [if_pos rfl] at gone
      cases gone

/-! ## One call -/

theorem agree_empty : IndexesAgree {} where
  found _ _ hfind := sound_empty.found hfind
  reached _ hmem := by cases hmem

section Step

variable {registry : Registry} (sound : registry.Sound) (agree : registry.IndexesAgree)
  {call : Call}

include sound

/-- A topic that is taken out is not found afterwards, as a new entity has another one. -/
theorem find_dropped {topic : String} (drops : registry.dropped call = some topic) :
    (call.apply registry).find topic = none := by
  rcases find_apply sound call topic with ⟨new, hnew, hfind⟩ | hfind
  · cases call with
    | remove entityId =>
        have gone := (get_remove registry entityId entityId).symm.trans hnew
        rw [if_pos rfl] at gone
        cases gone
    | upsert entity =>
        obtain ⟨same, -⟩ := (sound.upsert entity).found hfind
        have made := (get_upsert sound entity entity.id).symm.trans hnew
        rw [if_pos rfl] at made
        cases made
        have differs := (Option.filter_eq_some_iff.mp drops).2
        exact absurd same.symm (by simpa using differs)
  · rw [hfind, if_pos drops]

include agree

theorem agree_apply (spares : registry.Spares call) : (call.apply registry).IndexesAgree where
  found _ _ hfind := (sound.apply call).found hfind
  reached live hmem := by
    have hget := (mem_all_iff (sound.apply call) live).mp hmem
    by_cases own : live.entity.id = call.id
    · rw [own] at hget
      rw [find_new sound hget]
      rfl
    · rw [get_apply_other sound own, ← mem_all_iff sound] at hget
      rcases find_apply sound call live.entity.stateTopic with ⟨new, -, hfind⟩ | hfind
      · rw [hfind]
        rfl
      · rw [hfind, if_neg (spares live hget own)]
        exact agree.reached live hget

theorem keepsOthers_iff : registry.KeepsOthers call ↔ registry.Spares call := by
  constructor
  · intro keeps live hmem other drops
    have stays := keeps live hmem other (agree.reached live hmem)
    rw [find_dropped sound drops] at stays
    cases stays
  · intro spares live hmem other _
    have hget := (mem_all_iff sound live).mp hmem
    rw [← get_apply_other sound other, ← mem_all_iff (sound.apply call)] at hget
    exact (agree_apply sound agree spares).reached live hget

end Step

/-! ## Every sequence of calls -/

theorem after_concat (calls : List Call) (call : Call) :
    after (calls ++ [call]) = call.apply (after calls) :=
  List.foldl_concat _ _ _ _

/-- The indexes agree after every call, and no call makes the topic of another registered
entity unreachable. -/
def AgreeThroughout (calls : List Call) : Prop :=
  (∀ before, before <+: calls → (after before).IndexesAgree) ∧
    ∀ before call, before ++ [call] <+: calls → (after before).KeepsOthers call

/-- That is so exactly if every call spares the topics of the other registered entities. -/
theorem indexes_agree_iff (calls : List Call) :
    AgreeThroughout calls ↔
      ∀ before call, before ++ [call] <+: calls → (after before).Spares call := by
  constructor
  · rintro ⟨agree, keeps⟩ before call started
    have earlier := (List.prefix_append before [call]).trans started
    exact (keepsOthers_iff (sound_after before) (agree before earlier)).mp
      (keeps before call started)
  · intro spares
    have agree (before : List Call) (started : before <+: calls) :
        (after before).IndexesAgree := by
      induction before using List.reverseRecOn with
      | nil => exact agree_empty
      | append_singleton before call ih =>
          have earlier := ih ((List.prefix_append before [call]).trans started)
          rw [after_concat]
          exact agree_apply (sound_after before) earlier (spares before call started)
    refine ⟨agree, fun before call started => ?_⟩
    have earlier := (List.prefix_append before [call]).trans started
    exact (keepsOthers_iff (sound_after before) (agree before earlier)).mpr
      (spares before call started)

def sharedTopic : List Call :=
  [.upsert { id := "room_temperature", name := "Temperature", platform := "sensor",
             stateTopic := "zigbee2mqtt/room" },
    .upsert { id := "room_humidity", name := "Humidity", platform := "sensor",
              stateTopic := "zigbee2mqtt/room" },
    .remove "room_humidity"]

/-- The first sensor is still registered then, and not found by its topic. -/
theorem not_indexes_agree_shared : ¬ ∀ calls, AgreeThroughout calls := by
  intro all
  have registered : ((after sharedTopic).get "room_temperature").map
      (fun live => live.entity.stateTopic) = some "zigbee2mqtt/room" := by decide +kernel
  have lost : ((after sharedTopic).find "zigbee2mqtt/room").isSome = false := by decide +kernel
  obtain ⟨live, hget, htopic⟩ := Option.map_eq_some_iff.mp registered
  have hid := (sound_after sharedTopic).id_of_get hget
  rw [← hid, ← mem_all_iff (sound_after sharedTopic)] at hget
  have found := ((all sharedTopic).1 sharedTopic List.prefix_rfl).reached live hget
  rw [htopic, lost] at found
  cases found

end Registry

end NasaCpp.Web
