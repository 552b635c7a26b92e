import NasaCpp.General.Maps
import NasaCpp.Web.Entities

/-!
# The registry

`Registry` finds the same `Entity` objects by id and by state topic, and a state is
written into the object that was found.  The objects are kept in the order they were made
and referred to by their position, so two references are equal exactly if they are the
same object.
-/

namespace NasaCpp.Web

open General

/-- An `Entity` object: what it was built from, which never changes, and its live state. -/
structure LiveEntity where
  entity : Entity
  value : Option PyFloat := none
  text : Option String := none
  updated : Option ℚ := none

structure Registry where
  objects : List LiveEntity := []
  byId : Std.TreeMap String Nat := {}
  byTopic : Std.TreeMap String Nat := {}

namespace Registry

def get (registry : Registry) (entityId : String) : Option LiveEntity :=
  registry.byId[entityId]?.bind fun ref => registry.objects[ref]?

/-- `all`, by ascending id. -/
def all (registry : Registry) : List LiveEntity :=
  registry.byId.toList.filterMap fun entry => registry.objects[entry.2]?

/-- `upsert` of a new object, which takes the live state over from the one it replaces. -/
def upsert (registry : Registry) (entity : Entity) : Registry :=
  let old := registry.get entity.id
  { objects := registry.objects ++ [{
      entity
      value := old.bind LiveEntity.value
      text := old.bind LiveEntity.text
      updated := old.bind LiveEntity.updated }]
    byId := registry.byId.insert entity.id registry.objects.length
    byTopic :=
      (match old with
        | some old => registry.byTopic.erase old.entity.stateTopic
        | none => registry.byTopic).insert entity.stateTopic registry.objects.length }

def remove (registry : Registry) (entityId : String) : Registry :=
  match registry.get entityId with
  | none => registry
  | some old =>
      { registry with
        byId := registry.byId.erase entityId
        byTopic := registry.byTopic.erase old.entity.stateTopic }

/-- The three assignments to the object behind a reference. -/
def setState (registry : Registry) (ref : Nat) (value : Option PyFloat) (text : Option String)
    (updated : Option ℚ) : Registry :=
  { registry with
    objects := registry.objects.modify ref fun live => { live with value, text, updated } }

def updateState (registry : Registry) (ref : Nat) (value : Option PyFloat) (text : Option String)
    (now : ℚ) : Registry :=
  registry.setState ref value text (some now)

/-! ## The references -/

/-- Both indexes refer to objects; an object in the topic index is the registered one of
its id and has that topic. -/
structure Sound (registry : Registry) : Prop where
  object : ∀ (entityId : String) (ref : Nat), registry.byId[entityId]? = some ref →
    ∃ live, registry.objects[ref]? = some live ∧ live.entity.id = entityId
  topic : ∀ (topic : String) (ref : Nat), registry.byTopic[topic]? = some ref →
    ∃ live, registry.objects[ref]? = some live ∧ live.entity.stateTopic = topic ∧
      registry.byId[live.entity.id]? = some ref

theorem sound_empty : Sound {} where
  object _ _ href := by cases href
  topic _ _ href := by cases href

section Sound

variable {registry : Registry} (sound : registry.Sound)

include sound

theorem Sound.get_of_ref {entityId : String} {ref : Nat}
    (href : registry.byId[entityId]? = some ref) :
    ∃ live, registry.get entityId = some live ∧ registry.objects[ref]? = some live ∧
      live.entity.id = entityId := by
  obtain ⟨live, hlive, hid⟩ := sound.object entityId ref href
  refine ⟨live, ?_, hlive, hid⟩
  rw [get, href]
  exact hlive

theorem Sound.id_of_get {entityId : String} {live : LiveEntity}
    (hget : registry.get entityId = some live) : live.entity.id = entityId := by
  obtain ⟨ref, href, hlive⟩ := Option.bind_eq_some_iff.mp hget
  obtain ⟨other, hother, hid⟩ := sound.object entityId ref href
  rw [hlive] at hother
  cases hother
  exact hid

/-- An object that is found by a topic has that topic and is the registered one of its id. -/
theorem Sound.of_topic {topic : String} {ref : Nat} {live : LiveEntity}
    (href : registry.byTopic[topic]? = some ref) (hlive : registry.objects[ref]? = some live) :
    live.entity.stateTopic = topic ∧ registry.byId[live.entity.id]? = some ref := by
  obtain ⟨found, hfound, facts⟩ := sound.topic topic ref href
  rw [hlive] at hfound
  cases hfound
  exact facts

end Sound

/-- The entities that are listed are those found by their id. -/
theorem mem_all_iff {registry : Registry} (sound : registry.Sound) (live : LiveEntity) :
    live ∈ registry.all ↔ registry.get live.entity.id = some live := by
  unfold all
  rw [List.mem_filterMap]
  constructor
  · rintro ⟨⟨entityId, ref⟩, hmem, hlive⟩
    have href := Std.TreeMap.mem_toList_iff_getElem?_eq_some.mp hmem
    obtain ⟨found, hget, hfound, hid⟩ := sound.get_of_ref href
    rw [hlive] at hfound
    cases hfound
    rw [hid, hget]
  · intro hget
    obtain ⟨ref, href, hlive⟩ := Option.bind_eq_some_iff.mp hget
    exact ⟨(live.entity.id, ref), Std.TreeMap.mem_toList_iff_getElem?_eq_some.mpr href, hlive⟩

/-- A new object leaves the others at their places. -/
theorem object_append {objects : List LiveEntity} {ref : Nat} {live : LiveEntity}
    (hlive : objects[ref]? = some live) (new : List LiveEntity) :
    (objects ++ new)[ref]? = some live :=
  (List.getElem?_append_left (List.getElem?_eq_some_iff.mp hlive).1).trans hlive

/-! ## The operations -/

theorem get_upsert {registry : Registry} (sound : registry.Sound) (entity : Entity)
    (entityId : String) :
    (registry.upsert entity).get entityId =
      if entity.id = entityId then
        some {
          entity
          value := (registry.get entity.id).bind LiveEntity.value
          text := (registry.get entity.id).bind LiveEntity.text
          updated := (registry.get entity.id).bind LiveEntity.updated }
      else registry.get entityId := by
  have index : (registry.upsert entity).byId[entityId]? =
      if entity.id = entityId then some registry.objects.length
      else registry.byId[entityId]? := by
    change (registry.byId.insert entity.id registry.objects.length)[entityId]? = _
    exact Maps.lookup_insert _ _ _ _
  rw [get, index]
  split
  · exact List.getElem?_concat_length
  · cases href : registry.byId[entityId]? with
    | none => rw [get, href, Option.bind_none, Option.bind_none]
    | some ref =>
        obtain ⟨live, hget, hlive, -⟩ := sound.get_of_ref href
        rw [hget, Option.bind_some]
        exact object_append hlive _

theorem get_remove (registry : Registry) (removed entityId : String) :
    (registry.remove removed).get entityId =
      if removed = entityId then none else registry.get entityId := by
  unfold remove
  by_cases here : removed = entityId
  · rw [if_pos here, ← here]
    cases hold : registry.get removed with
    | none => exact hold
    | some old =>
        dsimp only [get]
        rw [Std.TreeMap.getElem?_erase_self, Option.bind_none]
  · rw [if_neg here]
    cases registry.get removed with
    | none => rfl
    | some old =>
        dsimp only [get]
        rw [Maps.lookup_erase, if_neg here]

/-- A state is that of the registered entity with the topic. -/
theorem get_updateState {registry : Registry} (sound : registry.Sound) {topic : String}
    {ref : Nat} {live : LiveEntity} (href : registry.byTopic[topic]? = some ref)
    (hlive : registry.objects[ref]? = some live) (value : Option PyFloat) (text : Option String)
    (now : ℚ) (entityId : String) :
    (registry.updateState ref value text now).get entityId =
      if live.entity.id = entityId then some { live with value, text, updated := some now }
      else registry.get entityId := by
  obtain ⟨-, hid⟩ := sound.of_topic href hlive
  unfold get updateState setState
  dsimp only
  split
  · rename_i here
    rw [← here, hid, Option.bind_some, List.getElem?_modify_eq, hlive]
    rfl
  · rename_i elsewhere
    cases hother : registry.byId[entityId]? with
    | none => rfl
    | some other =>
        obtain ⟨there, hthere, hid'⟩ := sound.object entityId other hother
        have different : ref ≠ other := by
          rintro rfl
          rw [hlive] at hthere
          cases hthere
          exact elsewhere hid'
        rw [Option.bind_some, Option.bind_some, List.getElem?_modify_ne _ _ different]

/-! ## The references stay sound -/

theorem of_erase {index : Std.TreeMap String Nat} {erased key : String} {ref : Nat}
    (href : (index.erase erased)[key]? = some ref) : erased ≠ key ∧ index[key]? = some ref := by
  rw [Maps.lookup_erase] at href
  split at href
  · cases href
  · rename_i different
    exact ⟨different, href⟩

/-- Another registered entity is not found by the topic of a registered one. -/
theorem Sound.topic_elsewhere {registry : Registry} (sound : registry.Sound) {topic : String}
    {ref : Nat} {live old : LiveEntity} {entityId : String}
    (href : (registry.byTopic.erase old.entity.stateTopic)[topic]? = some ref)
    (hlive : registry.objects[ref]? = some live) (hold : registry.get entityId = some old) :
    live.entity.id ≠ entityId := by
  intro same
  obtain ⟨elsewhere, before⟩ := of_erase href
  obtain ⟨htopic, hid⟩ := sound.of_topic before hlive
  rw [same] at hid
  rw [get, hid, Option.bind_some, hlive] at hold
  cases hold
  exact elsewhere htopic

theorem Sound.upsert {registry : Registry} (sound : registry.Sound) (entity : Entity) :
    (registry.upsert entity).Sound where
  object entityId ref href := by
    change (registry.byId.insert entity.id registry.objects.length)[entityId]? = some ref at href
    rw [Maps.lookup_insert] at href
    split at href
    · rename_i here
      cases href
      exact ⟨_, List.getElem?_concat_length, here⟩
    · obtain ⟨live, hlive, hid⟩ := sound.object entityId ref href
      exact ⟨live, object_append hlive _, hid⟩
  topic topic ref href := by
    unfold Registry.upsert at href ⊢
    dsimp only at href ⊢
    rw [Maps.lookup_insert] at href
    split at href
    · rename_i here
      cases href
      exact ⟨_, List.getElem?_concat_length, here, Std.TreeMap.getElem?_insert_self⟩
    · have kept : ∃ live, registry.objects[ref]? = some live ∧ live.entity.stateTopic = topic ∧
          registry.byId[live.entity.id]? = some ref ∧ entity.id ≠ live.entity.id := by
        cases hold : registry.get entity.id with
        | none =>
            rw [hold] at href
            obtain ⟨live, hlive, htopic, hid⟩ := sound.topic topic ref href
            refine ⟨live, hlive, htopic, hid, fun same => ?_⟩
            rw [same, get, hid, Option.bind_some, hlive] at hold
            cases hold
        | some old =>
            rw [hold] at href
            obtain ⟨live, hlive, htopic, hid⟩ := sound.topic topic ref (of_erase href).2
            exact ⟨live, hlive, htopic, hid, (sound.topic_elsewhere href hlive hold).symm⟩
      obtain ⟨live, hlive, htopic, hid, different⟩ := kept
      refine ⟨live, object_append hlive _, htopic, ?_⟩
      rw [Maps.lookup_insert, if_neg different, hid]

theorem Sound.remove {registry : Registry} (sound : registry.Sound) (entityId : String) :
    (registry.remove entityId).Sound := by
  unfold Registry.remove
  cases hold : registry.get entityId with
  | none => exact sound
  | some old =>
      refine ⟨fun other ref href => sound.object other ref (of_erase href).2,
        fun topic ref href => ?_⟩
      obtain ⟨live, hlive, htopic, hid⟩ := sound.topic topic ref (of_erase href).2
      have different := sound.topic_elsewhere href hlive hold
      refine ⟨live, hlive, htopic, ?_⟩
      dsimp only
      rw [Maps.lookup_erase, if_neg different.symm, hid]

theorem Sound.setState {registry : Registry} (sound : registry.Sound) (ref : Nat)
    (value : Option PyFloat) (text : Option String) (updated : Option ℚ) :
    (registry.setState ref value text updated).Sound := by
  have kept {other : Nat} {live : LiveEntity} (hlive : registry.objects[other]? = some live) :
      ∃ live', (registry.setState ref value text updated).objects[other]? = some live' ∧
        live'.entity = live.entity := by
    change ∃ live', (registry.objects.modify ref _)[other]? = some live' ∧ _
    rw [List.getElem?_modify, hlive]
    refine ⟨_, rfl, ?_⟩
    split <;> rfl
  refine ⟨fun entityId other href => ?_, fun topic other href => ?_⟩
  · obtain ⟨live, hlive, hid⟩ := sound.object entityId other href
    obtain ⟨live', hlive', same⟩ := kept hlive
    exact ⟨live', hlive', same ▸ hid⟩
  · obtain ⟨live, hlive, htopic, hid⟩ := sound.topic topic other href
    obtain ⟨live', hlive', same⟩ := kept hlive
    exact ⟨live', hlive', same ▸ htopic, same ▸ hid⟩

end Registry

end NasaCpp.Web
