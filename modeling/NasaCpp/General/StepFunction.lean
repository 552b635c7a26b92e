import Mathlib.Data.List.Pairwise
import Mathlib.Order.Lattice

/-!
# Step functions

Samples in the order of their times make a function of time: at every instant it has the
value of the last sample at or before it.  A cursor finds that sample for one instant after
another without ever moving back.
-/

namespace NasaCpp.General

universe u v

variable {τ : Type u} {β : Type v} [LinearOrder τ]

def lastAt (samples : List (τ × β)) (x : τ) : Option (τ × β) :=
  (samples.filter fun sample => sample.1 ≤ x).getLast?

variable {samples : List (τ × β)} {x : τ}

theorem lastAt_concat (samples : List (τ × β)) (sample : τ × β) (x : τ) :
    lastAt (samples ++ [sample]) x = if sample.1 ≤ x then some sample else lastAt samples x := by
  unfold lastAt
  simp only [List.filter_append, List.filter_cons, List.filter_nil, decide_eq_true_iff]
  by_cases started : sample.1 ≤ x
  · rw [if_pos started, if_pos started, List.getLast?_concat]
  · rw [if_neg started, if_neg started, List.append_nil]

theorem mem_of_lastAt {sample : τ × β} (hlast : lastAt samples x = some sample) :
    sample ∈ samples ∧ sample.1 ≤ x := by
  obtain ⟨hmem, started⟩ := List.mem_filter.mp (List.mem_of_getLast? hlast)
  exact ⟨hmem, of_decide_eq_true started⟩

theorem lastAt_eq_none_iff : lastAt samples x = none ↔ ∀ sample ∈ samples, x < sample.1 := by
  rw [lastAt, List.getLast?_eq_none_iff, List.filter_eq_nil_iff]
  exact forall₂_congr fun sample _ => by rw [decide_eq_true_iff, not_le]

/-- What relates the samples in their order relates the last ones at two instants. -/
theorem lastAt_rel {rel : τ × β → τ × β → Prop} (refl : ∀ sample, rel sample sample)
    (ordered : samples.Pairwise rel) {later : τ} (after : x ≤ later) {sample : τ × β}
    (hlast : lastAt samples x = some sample) :
    ∃ next, lastAt samples later = some next ∧ rel sample next := by
  have : Std.Refl rel := ⟨refl⟩
  obtain ⟨hmem, started⟩ := mem_of_lastAt hlast
  have earlier : sample ∈ samples.filter fun sample => sample.1 ≤ later :=
    List.mem_filter.mpr ⟨hmem, decide_eq_true (le_trans started after)⟩
  exact ⟨_, List.getLast?_eq_some_getLast (List.ne_nil_of_mem earlier),
    (ordered.filter _).rel_getLast earlier⟩

/-! ## A cursor -/

/-- The cursor has passed no sample after the instant.  At the first sample it stands for that
sample or for none. -/
def Behind (samples : List (τ × β)) (x : τ) (cursor : Nat) : Prop :=
  cursor = 0 ∨ ∃ sample, samples[cursor]? = some sample ∧ sample.1 ≤ x

/-- The cursor cannot move on: the next sample, if there is one, comes after the instant. -/
structure AtLast (samples : List (τ × β)) (x : τ) (cursor : Nat) : Prop where
  behind : Behind samples x cursor
  next : ∀ sample, samples[cursor + 1]? = some sample → x < sample.1

theorem Behind.later {cursor : Nat} (behind : Behind samples x cursor) {later : τ}
    (after : x ≤ later) : Behind samples later cursor :=
  behind.imp_right fun ⟨sample, here, started⟩ => ⟨sample, here, started.trans after⟩

theorem lastAt_append {front back : List (τ × β)} (before : ∀ sample ∈ front, sample.1 ≤ x)
    (after : ∀ sample ∈ back, x < sample.1) : lastAt (front ++ back) x = front.getLast? := by
  have all : front.filter (fun sample => sample.1 ≤ x) = front :=
    List.filter_eq_self.mpr fun sample hmem => decide_eq_true (before sample hmem)
  have nothing : back.filter (fun sample => sample.1 ≤ x) = [] :=
    List.filter_eq_nil_iff.mpr fun sample hmem here =>
      absurd (of_decide_eq_true here) (not_le.mpr (after sample hmem))
  rw [lastAt, List.filter_append, all, nothing, List.append_nil]

/-- No sample behind a cursor that cannot move on is at or before the instant. -/
theorem AtLast.lt_of_mem_drop {cursor : Nat}
    (ordered : samples.Pairwise fun earlier later => earlier.1 ≤ later.1)
    (atLast : AtLast samples x cursor) {sample : τ × β}
    (hmem : sample ∈ samples.drop (cursor + 1)) : x < sample.1 := by
  have behind : (samples.drop (cursor + 1)).Pairwise fun earlier later => earlier.1 ≤ later.1 :=
    ordered.drop
  cases hdrop : samples.drop (cursor + 1) with
  | nil =>
      rw [hdrop] at hmem
      cases hmem
  | cons first rest =>
      have here : samples[cursor + 1]? = some first := by
        rw [← List.head?_drop, hdrop]
        rfl
      have after := atLast.next first here
      rw [hdrop] at hmem behind
      rcases List.mem_cons.mp hmem with rfl | hrest
      · exact after
      · exact after.trans_le ((List.pairwise_cons.mp behind).1 sample hrest)

/-- A sample at or before the instant that the next one is not is the last one. -/
theorem AtLast.lastAt_of_started {cursor : Nat}
    (ordered : samples.Pairwise fun earlier later => earlier.1 ≤ later.1)
    (atLast : AtLast samples x cursor) {sample : τ × β} (here : samples[cursor]? = some sample)
    (started : sample.1 ≤ x) : lastAt samples x = some sample := by
  have split : samples = samples.take cursor ++ [sample] ++ samples.drop (cursor + 1) := by
    have upTo := @List.take_add_one _ samples cursor
    rw [here, Option.toList_some] at upTo
    rw [← upTo, List.take_append_drop]
  have before : ∀ earlier ∈ samples.take cursor ++ [sample], earlier.1 ≤ x := by
    rw [split] at ordered
    obtain ⟨-, -, upTo⟩ := List.pairwise_append.mp (List.pairwise_append.mp ordered).1
    intro earlier hmem
    rcases List.mem_append.mp hmem with front | last
    · exact (upTo earlier front sample List.mem_cons_self).trans started
    · rwa [List.mem_singleton.mp last]
  calc lastAt samples x
      = lastAt (samples.take cursor ++ [sample] ++ samples.drop (cursor + 1)) x := by rw [← split]
    _ = (samples.take cursor ++ [sample]).getLast? :=
        lastAt_append before fun _ hmem => atLast.lt_of_mem_drop ordered hmem
    _ = some sample := List.getLast?_concat

/-- A cursor that cannot move on and is on no sample at or before the instant never moved. -/
theorem AtLast.lastAt_of_not_started {cursor : Nat}
    (ordered : samples.Pairwise fun earlier later => earlier.1 ≤ later.1)
    (atLast : AtLast samples x cursor)
    (early : ¬ ∃ sample, samples[cursor]? = some sample ∧ sample.1 ≤ x) :
    lastAt samples x = none := by
  have first : cursor = 0 := atLast.behind.resolve_right early
  subst first
  refine lastAt_eq_none_iff.mpr fun other hmem => ?_
  cases samples with
  | nil => cases hmem
  | cons sample rest =>
      rcases List.mem_cons.mp hmem with rfl | hrest
      · exact not_le.mp fun here => early ⟨other, rfl, here⟩
      · exact atLast.lt_of_mem_drop ordered hrest

/-- The sample under a cursor that cannot move on is the last one, unless it comes after the
instant. -/
theorem AtLast.lastAt_eq {cursor : Nat}
    (ordered : samples.Pairwise fun earlier later => earlier.1 ≤ later.1)
    (atLast : AtLast samples x cursor) :
    lastAt samples x = (samples[cursor]?).filter fun sample => sample.1 ≤ x := by
  by_cases started : ∃ sample, samples[cursor]? = some sample ∧ sample.1 ≤ x
  · obtain ⟨sample, here, started⟩ := started
    rw [atLast.lastAt_of_started ordered here started, here, Option.filter_some,
      if_pos (decide_eq_true started)]
  · rw [atLast.lastAt_of_not_started ordered started, eq_comm, Option.filter_eq_none_iff]
    exact fun sample here reached => started ⟨sample, here, of_decide_eq_true reached⟩

end NasaCpp.General
