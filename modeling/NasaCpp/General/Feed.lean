import Mathlib.Data.List.Basic

/-!
# Feeds

A server keeps a client's copy of a map up to date.  A new value of one key is published
as a notice, any other change as a notice that asks for a snapshot.  A queue lies between
the publisher and the sender; before it takes a snapshot the sender waits, and then throws
away what is queued.  A notice may be dropped on its way into the queue as long as a
snapshot is due.
-/

namespace NasaCpp.General

universe u v

variable {κ : Type u} {ρ : Type v} [DecidableEq κ]

/-! ## Views -/

abbrev View (κ : Type u) (ρ : Type v) := κ → Option ρ

def View.assign (view : View κ ρ) (k : κ) (value : ρ) : View κ ρ := fun other =>
  if other = k then (view other).map fun _ => value else view other

theorem View.assign_assign (view : View κ ρ) (k : κ) (first second : ρ) :
    (view.assign k first).assign k second = view.assign k second := by
  funext other
  unfold View.assign
  split
  · rw [Option.map_map]
    rfl
  · rfl

theorem View.assign_comm (view : View κ ρ) {k l : κ} (different : k ≠ l) (first second : ρ) :
    (view.assign k first).assign l second = (view.assign l second).assign k first := by
  funext other
  unfold View.assign
  by_cases atK : other = k
  · rw [if_neg fun atL => different (atK.symm.trans atL), if_pos atK, if_pos atK,
      if_neg fun atL => different (atK.symm.trans atL)]
  · rw [if_neg atK, if_neg atK]

inductive Notice (κ : Type u) (ρ : Type v) where
  | assign (k : κ) (value : ρ)
  | refresh
  | signal

def Notice.apply (view : View κ ρ) : Notice κ ρ → View κ ρ
  | .assign k value => view.assign k value
  | .refresh | .signal => view

inductive Update (κ : Type u) (ρ : Type v) where
  | assign (k : κ) (value : ρ)
  | snapshot (view : View κ ρ)
  | signal

def Update.apply (view : View κ ρ) : Update κ ρ → View κ ρ
  | .assign k value => view.assign k value
  | .snapshot view => view
  | .signal => view

/-- The update that passes a notice on; a request for a snapshot is not passed on. -/
def Notice.update : Notice κ ρ → Option (Update κ ρ)
  | .assign k value => some (.assign k value)
  | .refresh => none
  | .signal => some .signal

theorem Notice.apply_update {notice : Notice κ ρ} {update : Update κ ρ}
    (passed : notice.update = some update) (view : View κ ρ) :
    update.apply view = notice.apply view := by
  cases notice <;> cases passed <;> rfl

def View.after (view : View κ ρ) (notices : List (Notice κ ρ)) : View κ ρ :=
  notices.foldl Notice.apply view

@[simp] theorem View.after_cons (view : View κ ρ) (notice : Notice κ ρ)
    (notices : List (Notice κ ρ)) :
    view.after (notice :: notices) = (notice.apply view).after notices :=
  rfl

@[simp] theorem View.after_append (view : View κ ρ) (first second : List (Notice κ ρ)) :
    view.after (first ++ second) = (view.after first).after second :=
  List.foldl_append

def View.receive (view : View κ ρ) (updates : List (Update κ ρ)) : View κ ρ :=
  updates.foldl Update.apply view

@[simp] theorem View.receive_append (view : View κ ρ) (first second : List (Update κ ρ)) :
    view.receive (first ++ second) = (view.receive first).receive second :=
  List.foldl_append

/-- A last value hides an earlier one, whatever lies between them. -/
theorem View.assign_after (view : View κ ρ) (k : κ) (first second : ρ)
    (notices : List (Notice κ ρ)) :
    ((view.assign k first).after notices).assign k second =
      (view.after notices).assign k second := by
  induction notices generalizing view with
  | nil => exact view.assign_assign k first second
  | cons notice notices ih =>
      cases notice with
      | assign l value =>
          rw [after_cons, after_cons, Notice.apply, Notice.apply]
          by_cases same : l = k
          · rw [same, View.assign_assign]
          · rw [← View.assign_comm view same, ih]
      | refresh => exact ih view
      | signal => exact ih view

/-! ## Published notices -/

/-- Every end of the notices that asks for no snapshot leaves the server's view alone. -/
def Stable (server : View κ ρ) (notices : List (Notice κ ρ)) : Prop :=
  ∀ rest, rest <:+ notices → Notice.refresh ∉ rest → server.after rest = server

theorem stable_nil (server : View κ ρ) : Stable server [] := by
  intro rest ending _
  rw [List.suffix_nil.mp ending]
  rfl

theorem Stable.tail {server : View κ ρ} {notice : Notice κ ρ} {notices : List (Notice κ ρ)}
    (stable : Stable server (notice :: notices)) : Stable server notices :=
  fun rest ending => stable rest (ending.trans (List.suffix_cons notice notices))

theorem Stable.assign {server : View κ ρ} {notices : List (Notice κ ρ)}
    (stable : Stable server notices) (k : κ) (value : ρ) :
    Stable (server.assign k value) (notices ++ [.assign k value]) := by
  intro rest ending none
  rcases List.suffix_concat_iff.mp ending with rfl | ⟨front, rfl, inside⟩
  · rfl
  · have still := stable front inside fun here => none (List.mem_append_left _ here)
    rw [View.after_append]
    change ((server.assign k value).after front).assign k value = _
    rw [View.assign_after, still]

theorem stable_refresh (server : View κ ρ) (notices : List (Notice κ ρ)) :
    Stable server (notices ++ [.refresh]) := by
  intro rest ending none
  rcases List.suffix_concat_iff.mp ending with rfl | ⟨front, rfl, -⟩
  · rfl
  · exact absurd (List.mem_append_right _ (List.mem_singleton_self _)) none

theorem Stable.signal {server : View κ ρ} {notices : List (Notice κ ρ)}
    (stable : Stable server notices) : Stable server (notices ++ [.signal]) := by
  intro rest ending none
  rcases List.suffix_concat_iff.mp ending with rfl | ⟨front, rfl, inside⟩
  · rfl
  · rw [View.after_append]
    exact stable front inside fun here => none (List.mem_append_left _ here)

/-! ## Steps -/

/-- No client, a sender that waits for a notice, or one that is about to take a snapshot. -/
inductive Sender where
  | absent
  | waiting
  | coalescing
  deriving DecidableEq, Repr

structure Feed (κ : Type u) (ρ : Type v) where
  server : View κ ρ
  published : List (Notice κ ρ)
  queue : List (Notice κ ρ)
  sender : Sender
  wire : List (Update κ ρ)
  client : View κ ρ

namespace Feed

/-- A snapshot will be sent before anything that is published from now on. -/
def SnapshotDue (feed : Feed κ ρ) : Prop :=
  feed.sender ≠ .waiting ∨ Notice.refresh ∈ feed.queue

inductive Step : Feed κ ρ → Feed κ ρ → Prop where
  | assign (feed : Feed κ ρ) (k : κ) (value : ρ) :
      Step feed
        { feed with
          server := feed.server.assign k value
          published := feed.published ++ [.assign k value] }
  | change (feed : Feed κ ρ) (server : View κ ρ) :
      Step feed { feed with server, published := feed.published ++ [.refresh] }
  | signal (feed : Feed κ ρ) : Step feed { feed with published := feed.published ++ [.signal] }
  | deliver (feed : Feed κ ρ) {notice : Notice κ ρ} {rest : List (Notice κ ρ)}
      (next : feed.published = notice :: rest) :
      Step feed { feed with published := rest, queue := feed.queue ++ [notice] }
  | drop (feed : Feed κ ρ) {notice : Notice κ ρ} {rest : List (Notice κ ρ)}
      (next : feed.published = notice :: rest) (due : feed.SnapshotDue) :
      Step feed { feed with published := rest }
  | send (feed : Feed κ ρ) {notice : Notice κ ρ} {rest : List (Notice κ ρ)}
      {update : Update κ ρ} (waiting : feed.sender = .waiting) (next : feed.queue = notice :: rest)
      (passed : notice.update = some update) :
      Step feed { feed with queue := rest, wire := feed.wire ++ [update] }
  | coalesce (feed : Feed κ ρ) {rest : List (Notice κ ρ)} (next : feed.queue = .refresh :: rest) :
      Step feed { feed with queue := rest, sender := .coalescing }
  | snapshot (feed : Feed κ ρ) :
      Step feed
        { feed with
          queue := []
          sender := .waiting
          wire := feed.wire ++ [.snapshot feed.server] }
  | receive (feed : Feed κ ρ) {update : Update κ ρ} {rest : List (Update κ ρ)}
      (next : feed.wire = update :: rest) :
      Step feed { feed with wire := rest, client := update.apply feed.client }
  | disconnect (feed : Feed κ ρ) :
      Step feed { feed with queue := [], sender := .absent, wire := [] }

/-! ## Agreement -/

/-- What is under way brings the client up to date, unless a snapshot will. -/
structure Inv (feed : Feed κ ρ) : Prop where
  stable : Stable feed.server feed.published
  current : ¬ feed.SnapshotDue → Notice.refresh ∉ feed.published →
    ((feed.client.receive feed.wire).after feed.queue).after feed.published = feed.server

theorem Inv.step {feed next : Feed κ ρ} (inv : feed.Inv) (step : Step feed next) : next.Inv := by
  obtain ⟨stable, current⟩ := inv
  cases step with
  | assign k value =>
      refine ⟨stable.assign k value, fun notDue none => ?_⟩
      have before := current notDue fun here => none (List.mem_append_left _ here)
      rw [View.after_append, before]
      rfl
  | change server =>
      refine ⟨stable_refresh server _, fun _ none => ?_⟩
      exact absurd (List.mem_append_right _ (List.mem_singleton_self _)) none
  | signal =>
      refine ⟨stable.signal, fun notDue none => ?_⟩
      rw [View.after_append]
      exact current notDue fun here => none (List.mem_append_left _ here)
  | deliver hnext =>
      rename_i notice rest
      rw [hnext] at stable current
      refine ⟨stable.tail, fun notDue none => ?_⟩
      have quiet : ¬ feed.SnapshotDue := fun due =>
        notDue (due.imp_right (List.mem_append_left _))
      have passed : Notice.refresh ∉ notice :: rest := by
        rw [List.mem_cons, not_or]
        refine ⟨fun here => notDue (.inr ?_), none⟩
        rw [here]
        exact List.mem_append_right _ (List.mem_singleton_self _)
      rw [View.after_append]
      exact current quiet passed
  | drop hnext due =>
      rw [hnext] at stable
      exact ⟨stable.tail, fun notDue => absurd due notDue⟩
  | send waiting hnext passed =>
      refine ⟨stable, fun notDue none => ?_⟩
      have quiet : ¬ feed.SnapshotDue := by
        rintro (away | here)
        · exact away waiting
        · rw [hnext] at here
          rcases List.mem_cons.mp here with first | later
          · rw [← first] at passed
            cases passed
          · exact notDue (.inr later)
      have before := current quiet none
      rw [hnext, View.after_cons, ← Notice.apply_update passed] at before
      rw [View.receive_append]
      exact before
  | coalesce hnext => exact ⟨stable, fun notDue => absurd (.inl nofun) notDue⟩
  | snapshot =>
      refine ⟨stable, fun _ none => ?_⟩
      rw [View.receive_append]
      exact stable _ List.suffix_rfl none
  | receive hnext =>
      refine ⟨stable, fun notDue none => ?_⟩
      have before := current notDue none
      rw [hnext] at before
      exact before
  | disconnect => exact ⟨stable, fun notDue => absurd (.inl nofun) notDue⟩

structure Quiet (feed : Feed κ ρ) : Prop where
  published : feed.published = []
  queue : feed.queue = []
  sender : feed.sender = .waiting
  wire : feed.wire = []

/-- A client to which nothing is under way has the server's view. -/
theorem Inv.agree {feed : Feed κ ρ} (inv : feed.Inv) (quiet : feed.Quiet) :
    feed.client = feed.server := by
  have notDue : ¬ feed.SnapshotDue := by
    rintro (away | here)
    · exact away quiet.sender
    · rw [quiet.queue] at here
      cases here
  have current := inv.current notDue (by rw [quiet.published]; exact List.not_mem_nil)
  rw [quiet.published, quiet.queue, quiet.wire] at current
  exact current

/-- A server with nothing published and no client. -/
theorem inv_start (server client : View κ ρ) :
    Inv { server, published := [], queue := [], sender := .absent, wire := [], client } where
  stable := stable_nil server
  current notDue := absurd (.inl nofun) notDue

end Feed

end NasaCpp.General
