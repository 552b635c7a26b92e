import Mathlib.Algebra.Order.Ring.Int
import Mathlib.Algebra.Order.Group.Unbundled.Abs
import Mathlib.Data.List.Chain
import NasaCpp.General.StepFunction

/-!
# The state timeline

The segments that `timeline` of `charts.js` draws for the samples of a binary or enum
entity, over any ordered ring of times.  A segment begins where the one before it ends, so
the tolerance of a second never joins two states that are apart.
-/

namespace NasaCpp.Web.Timeline

open General

universe u

variable {τ : Type u} [LinearOrder τ]

structure Segment (τ : Type u) where
  state : String
  a : τ
  b : τ
  deriving DecidableEq, Repr

abbrev Sample (τ : Type u) := τ × Option String

/-- `text[i] ?? "–"`. -/
def shown (text : Option String) : String := text.getD "–"

section Drawing

variable [Ring τ]

/-- The last segment goes on if it has the same state and ends within a second of the new one. -/
def extend (segs : List (Segment τ)) (state : String) (a b : τ) : List (Segment τ) :=
  match segs.getLast? with
  | some last =>
      if last.state = state ∧ |last.b - a| < 1 then segs.dropLast ++ [{ last with b }]
      else segs ++ [⟨state, a, b⟩]
  | none => [⟨state, a, b⟩]

def visit (start stop : τ) (segs : List (Segment τ)) (sample : Sample τ) (next : τ) :
    List (Segment τ) :=
  let a := max start sample.1
  let b := min stop next
  if b ≤ a then segs else extend segs (shown sample.2) a b

def visitAll (start stop now : τ) : List (Segment τ) → List (Sample τ) → List (Segment τ)
  | segs, [] => segs
  | segs, [sample] => visit start stop segs sample (min stop now)
  | segs, sample :: next :: rest =>
      visitAll start stop now (visit start stop segs sample next.1) (next :: rest)

def segments (start stop now : τ) (samples : List (Sample τ)) : List (Segment τ) :=
  visitAll start stop now [] samples

end Drawing

def Segment.Contains (seg : Segment τ) (x : τ) : Prop := seg.a ≤ x ∧ x < seg.b

/-! ## What has been built -/

/-- Segments of positive length inside the window, in their order, no two neighbours with the
same state. -/
structure Partition (start stop : τ) (segs : List (Segment τ)) : Prop where
  inside : ∀ seg ∈ segs, start ≤ seg.a ∧ seg.a < seg.b ∧ seg.b ≤ stop
  ordered : segs.Pairwise fun seg later => seg.b ≤ later.a
  differ : segs.IsChain fun seg next => seg.state ≠ next.state

/-- Every instant of the window that meets a condition has the state of the last sample. -/
def Shows (start stop : τ) (samples : List (Sample τ)) (condition : τ → Prop)
    (segs : List (Segment τ)) : Prop :=
  ∀ x, start ≤ x → x < stop → condition x → ∀ sample, lastAt samples x = some sample →
    ∃ seg ∈ segs, seg.Contains x ∧ seg.state = shown sample.2

def Reaches (segs : List (Segment τ)) (time : τ) : Prop :=
  ∀ last, segs.getLast? = some last → last.b = time

theorem Partition.empty (start stop : τ) : Partition start stop [] where
  inside := nofun
  ordered := List.Pairwise.nil
  differ := List.isChain_nil

/-- No instant lies in two segments. -/
theorem Partition.unique {start stop x : τ} {segs : List (Segment τ)}
    (partition : Partition start stop segs) {seg other : Segment τ} (hseg : seg ∈ segs)
    (hother : other ∈ segs) (here : seg.Contains x) (there : other.Contains x) : seg = other := by
  by_contra different
  have apart : segs.Pairwise fun one two => ¬ (one.Contains x ∧ two.Contains x) :=
    partition.ordered.imp fun before both =>
      absurd (both.1.2.trans_le (before.trans both.2.1)) (lt_irrefl x)
  have symmetric : Std.Symm fun one two : Segment τ => ¬ (one.Contains x ∧ two.Contains x) :=
    ⟨fun _ _ apart both => apart both.symm⟩
  exact apart.forall hseg hother different ⟨here, there⟩

/-- No segment goes further than the last one. -/
theorem Partition.le_of_reaches {start stop time : τ} {segs : List (Segment τ)}
    (partition : Partition start stop segs) (reaches : Reaches segs time) {seg : Segment τ}
    (hmem : seg ∈ segs) : seg.b ≤ time := by
  rcases List.eq_nil_or_concat' segs with rfl | ⟨front, last, rfl⟩
  · cases hmem
  · have touches := reaches last List.getLast?_concat
    obtain ⟨-, -, before⟩ := List.pairwise_append.mp partition.ordered
    rcases List.mem_append.mp hmem with earlier | here
    · have positive := (partition.inside last (List.mem_append_right _ List.mem_cons_self)).2.1
      exact (before seg earlier last List.mem_cons_self).trans (positive.trans_eq touches).le
    · rw [List.mem_singleton.mp here, touches]

/-! ## One segment more -/

section Extend

variable [Ring τ] [IsStrictOrderedRing τ] {start stop a b : τ} {segs : List (Segment τ)}
  {state : String}

/-- Where the last segment ends at the beginning of the new one, it goes on if and only if it
has the same state. -/
theorem extend_cases (reaches : Reaches segs a) (state : String) (b : τ) :
    (extend segs state a b = segs ++ [⟨state, a, b⟩] ∧
        ∀ last, segs.getLast? = some last → last.state ≠ state) ∨
      ∃ front last, segs = front ++ [last] ∧ last.b = a ∧ last.state = state ∧
        extend segs state a b = front ++ [{ last with b }] := by
  rcases List.eq_nil_or_concat' segs with rfl | ⟨front, last, rfl⟩
  · exact .inl ⟨rfl, nofun⟩
  · have touches := reaches last List.getLast?_concat
    rw [extend, List.getLast?_concat]
    dsimp only
    by_cases same : last.state = state
    · have near : |last.b - a| < 1 := by
        rw [touches, sub_self, abs_zero]
        exact zero_lt_one
      refine .inr ⟨front, last, rfl, touches, same, ?_⟩
      rw [if_pos ⟨same, near⟩, List.dropLast_concat]
    · refine .inl ⟨if_neg fun both => same both.1, fun other hother => ?_⟩
      cases hother
      exact same

theorem reaches_extend (reaches : Reaches segs a) (state : String) (b : τ) :
    Reaches (extend segs state a b) b := by
  intro last hlast
  rcases extend_cases reaches state b with ⟨hextend, -⟩ | ⟨front, other, -, -, -, hextend⟩
  · rw [hextend, List.getLast?_concat] at hlast
    cases hlast
    rfl
  · rw [hextend, List.getLast?_concat] at hlast
    cases hlast
    rfl

/-- What has been drawn stays drawn. -/
theorem extend_keeps (reaches : Reaches segs a) (longer : a < b) {seg : Segment τ} {x : τ}
    (hmem : seg ∈ segs) (contains : seg.Contains x) :
    ∃ other ∈ extend segs state a b, other.Contains x ∧ other.state = seg.state := by
  rcases extend_cases reaches state b with ⟨hextend, -⟩ | ⟨front, last, rfl, touches, -, hextend⟩
  · rw [hextend]
    exact ⟨seg, List.mem_append_left _ hmem, contains, rfl⟩
  · rw [hextend]
    rcases List.mem_append.mp hmem with before | here
    · exact ⟨seg, List.mem_append_left _ before, contains, rfl⟩
    · cases List.mem_singleton.mp here
      exact ⟨_, List.mem_append_right _ List.mem_cons_self,
        ⟨contains.1, contains.2.trans (touches.trans_lt longer)⟩, rfl⟩

theorem extend_shows (partition : Partition start stop segs) (reaches : Reaches segs a) {x : τ}
    (low : a ≤ x) (high : x < b) :
    ∃ seg ∈ extend segs state a b, seg.Contains x ∧ seg.state = state := by
  rcases extend_cases reaches state b with ⟨hextend, -⟩ | ⟨front, last, rfl, touches, same, hextend⟩
  · rw [hextend]
    exact ⟨_, List.mem_append_right _ List.mem_cons_self, ⟨low, high⟩, rfl⟩
  · rw [hextend]
    have positive := (partition.inside last (List.mem_append_right _ List.mem_cons_self)).2.1
    exact ⟨_, List.mem_append_right _ List.mem_cons_self,
      ⟨(positive.trans_eq touches).le.trans low, high⟩, same⟩

theorem Partition.extend (partition : Partition start stop segs) (reaches : Reaches segs a)
    (low : start ≤ a) (longer : a < b) (high : b ≤ stop) :
    Partition start stop (Timeline.extend segs state a b) := by
  rcases extend_cases reaches state b with
    ⟨hextend, fresh⟩ | ⟨front, last, rfl, touches, -, hextend⟩
  · rw [hextend]
    refine ⟨?_, ?_, ?_⟩
    · rw [List.forall_mem_append, List.forall_mem_singleton]
      exact ⟨partition.inside, low, longer, high⟩
    · refine List.pairwise_append.mpr ⟨partition.ordered, List.pairwise_singleton _ _, ?_⟩
      intro seg hseg new hnew
      cases List.mem_singleton.mp hnew
      exact partition.le_of_reaches reaches hseg
    · refine partition.differ.append (List.isChain_singleton _) fun last hlast new hnew => ?_
      cases hnew
      exact fresh last hlast
  · rw [hextend]
    obtain ⟨frontOrdered, -, before⟩ := List.pairwise_append.mp partition.ordered
    have lastInside := partition.inside last (List.mem_append_right _ List.mem_cons_self)
    refine ⟨?_, ?_, ?_⟩
    · rw [List.forall_mem_append, List.forall_mem_singleton]
      refine ⟨fun seg hseg => partition.inside seg (List.mem_append_left _ hseg),
        lastInside.1, ?_, high⟩
      exact (lastInside.2.1.trans_eq touches).trans longer
    · refine List.pairwise_append.mpr ⟨frontOrdered, List.pairwise_singleton _ _, ?_⟩
      intro seg hseg new hnew
      cases List.mem_singleton.mp hnew
      exact before seg hseg last List.mem_cons_self
    · obtain ⟨frontDiffer, -, step⟩ := List.isChain_append.mp partition.differ
      refine frontDiffer.append (List.isChain_singleton _) fun seg hseg new hnew => ?_
      cases hnew
      exact step seg hseg last rfl

end Extend

/-! ## Every list of samples -/

/-- Before a sample is visited the last segment ends where the sample begins, within the window. -/
theorem Partition.touches {start stop time : τ} {segs : List (Segment τ)}
    (partition : Partition start stop segs) (reaches : Reaches segs (min stop time))
    (visible : max start time < stop) : Reaches segs (max start time) := by
  intro last hlast
  obtain ⟨low, positive, -⟩ := partition.inside last (List.mem_of_getLast? hlast)
  have ends := reaches last hlast
  rw [min_eq_right ((le_max_right _ _).trans visible.le)] at ends
  rw [ends, max_eq_right]
  exact low.trans (positive.trans_eq ends).le

/-- A sample that is not drawn ends where the last segment does. -/
theorem Partition.stays {start stop time next : τ} {segs : List (Segment τ)}
    (partition : Partition start stop segs) (reaches : Reaches segs (min stop time))
    (after : time ≤ next) (nothing : min stop next ≤ max start time) :
    Reaches segs (min stop next) := by
  intro last hlast
  obtain ⟨low, positive, -⟩ := partition.inside last (List.mem_of_getLast? hlast)
  have ends := reaches last hlast
  have begun : start ≤ time := (low.trans (positive.trans_eq ends).le).trans (min_le_right _ _)
  rw [max_eq_right begun] at nothing
  rw [ends]
  exact le_antisymm (min_le_min_left stop after) (le_min (min_le_left _ _) nothing)

/-- The segments built from some samples, before the next one is visited. -/
structure Built (start stop : τ) (past : List (Sample τ)) (time : τ) (segs : List (Segment τ)) :
    Prop where
  partition : Partition start stop segs
  reaches : Reaches segs (min stop time)
  shows : Shows start stop past (· < time) segs

/-- What shows the instants from a sample on and those before it shows all. -/
theorem shows_concat {start stop next : τ} {past : List (Sample τ)} {sample : Sample τ}
    {segs : List (Segment τ)} (earlier : Shows start stop past (· < sample.1) segs)
    (later : ∀ x, start ≤ x → x < stop → sample.1 ≤ x → x < next →
      ∃ seg ∈ segs, seg.Contains x ∧ seg.state = shown sample.2) :
    Shows start stop (past ++ [sample]) (fun x => x < sample.1 ∨ x < next) segs := by
  intro x low high within other hlast
  rw [lastAt_concat] at hlast
  by_cases started : sample.1 ≤ x
  · rw [if_pos started] at hlast
    cases hlast
    exact later x low high started (within.resolve_left (not_lt.mpr started))
  · rw [if_neg started] at hlast
    exact earlier x low high (not_le.mp started) other hlast

section Visit

variable [Ring τ] [IsStrictOrderedRing τ] {start stop now : τ}

/-- Visiting a sample keeps what is drawn and draws the time up to the next one. -/
theorem Built.visit {past : List (Sample τ)} {sample : Sample τ} {segs : List (Segment τ)}
    (built : Built start stop past sample.1 segs) (next : τ) :
    Partition start stop (visit start stop segs sample next) ∧
      Shows start stop (past ++ [sample]) (fun x => x < sample.1 ∨ x < next)
        (visit start stop segs sample next) ∧
      (sample.1 ≤ next → Reaches (visit start stop segs sample next) (min stop next)) := by
  obtain ⟨partition, reaches, shows⟩ := built
  unfold Timeline.visit
  dsimp only
  by_cases nothing : min stop next ≤ max start sample.1
  · rw [if_pos nothing]
    refine ⟨partition, shows_concat shows fun x low high started before => ?_,
      fun after => partition.stays reaches after nothing⟩
    have drawn : max start sample.1 < min stop next :=
      (max_le low started).trans_lt (lt_min high before)
    exact absurd nothing (not_le.mpr drawn)
  · rw [if_neg nothing]
    have longer := not_le.mp nothing
    have touches := partition.touches reaches (longer.trans_le (min_le_left _ _))
    refine ⟨partition.extend touches (le_max_left _ _) longer (min_le_left _ _),
      shows_concat ?_ fun x low high started before => ?_, fun _ => reaches_extend touches _ _⟩
    · intro x low high before other hlast
      obtain ⟨seg, hseg, contains, state⟩ := shows x low high before other hlast
      obtain ⟨kept, hkept, still, same⟩ := extend_keeps touches longer hseg contains
      exact ⟨kept, hkept, still, same.trans state⟩
    · exact extend_shows partition touches (max_le low started) (lt_min high before)

theorem Built.visitAll {past rest : List (Sample τ)} {sample : Sample τ}
    {segs : List (Segment τ)} (built : Built start stop past sample.1 segs)
    (ordered : (sample :: rest).Pairwise fun earlier later => earlier.1 ≤ later.1) :
    Partition start stop (visitAll start stop now segs (sample :: rest)) ∧
      Shows start stop (past ++ sample :: rest)
        (fun x => (∃ other ∈ sample :: rest, x < other.1) ∨ x < min stop now)
        (visitAll start stop now segs (sample :: rest)) := by
  induction rest generalizing past sample segs with
  | nil =>
      obtain ⟨partition, shows, -⟩ := built.visit (min stop now)
      refine ⟨partition, fun x low high within => shows x low high (within.imp_left ?_)⟩
      rintro ⟨other, hmem, before⟩
      rwa [← List.mem_singleton.mp hmem]
  | cons next rest ih =>
      obtain ⟨first, ordered⟩ := List.pairwise_cons.mp ordered
      obtain ⟨partition, shows, reaches⟩ := built.visit next.1
      have after := first next List.mem_cons_self
      have builtNext : Built start stop (past ++ [sample]) next.1
          (Timeline.visit start stop segs sample next.1) :=
        ⟨partition, reaches after, fun x low high before => shows x low high (.inr before)⟩
      obtain ⟨partitionAll, showsAll⟩ := ih builtNext ordered
      rw [List.append_cons]
      refine ⟨partitionAll, fun x low high within => showsAll x low high (within.imp_left ?_)⟩
      rintro ⟨other, hmem, before⟩
      rcases List.mem_cons.mp hmem with rfl | later
      · exact ⟨next, List.mem_cons_self, before.trans_le after⟩
      · exact ⟨other, later, before⟩

/-- The segments are a partition: every instant of the window from the first sample on, up to
now if no sample comes after it, lies in exactly one of them, which has the state of the last
sample at or before it. -/
theorem timeline_partition {samples : List (Sample τ)}
    (ordered : samples.Pairwise fun earlier later => earlier.1 ≤ later.1) :
    Partition start stop (segments start stop now samples) ∧
      ∀ x, start ≤ x → x < stop → (∃ first, samples.head? = some first ∧ first.1 ≤ x) →
        ((∀ sample ∈ samples, sample.1 ≤ x) → x < now) →
        ∃ seg sample, seg ∈ segments start stop now samples ∧ seg.Contains x ∧
          (∀ other ∈ segments start stop now samples, other.Contains x → other = seg) ∧
          lastAt samples x = some sample ∧ seg.state = shown sample.2 := by
  cases samples with
  | nil => exact ⟨Partition.empty start stop, fun _ _ _ ⟨_, hfirst, _⟩ => by cases hfirst⟩
  | cons sample rest =>
      have built : Built start stop [] sample.1 [] :=
        ⟨Partition.empty start stop, nofun, fun _ _ _ _ _ hlast => by cases hlast⟩
      obtain ⟨partition, shows⟩ := built.visitAll ordered
      refine ⟨partition, fun x low high started within => ?_⟩
      obtain ⟨first, hfirst, begun⟩ := started
      obtain ⟨last, hlast⟩ : ∃ last, lastAt (sample :: rest) x = some last := by
        cases hlast : lastAt (sample :: rest) x with
        | some last => exact ⟨last, rfl⟩
        | none =>
            have late := lastAt_eq_none_iff.mp hlast first (List.mem_of_head? hfirst)
            exact absurd late (not_lt.mpr begun)
      have drawn : (∃ other ∈ sample :: rest, x < other.1) ∨ x < min stop now := by
        by_cases later : ∃ other ∈ sample :: rest, x < other.1
        · exact .inl later
        · refine .inr (lt_min high (within fun other hmem => ?_))
          exact not_lt.mp fun before => later ⟨other, hmem, before⟩
      obtain ⟨seg, hseg, contains, state⟩ := shows x low high drawn last hlast
      exact ⟨seg, last, hseg, contains, fun other hother there =>
        partition.unique hother hseg there contains, hlast, state⟩

def fourSamples : List (Sample ℤ) :=
  [(10, some "ROOM"), (10, some "TANK"), (20, some "TANK"), (30, none)]

theorem timeline_partition_four :
    Partition 10 40 (segments 10 40 35 fourSamples) ∧
      ∃ seg sample, seg ∈ segments 10 40 35 fourSamples ∧ seg.Contains 25 ∧
        (∀ other ∈ segments 10 40 35 fourSamples, other.Contains 25 → other = seg) ∧
        lastAt fourSamples 25 = some sample ∧ seg.state = shown sample.2 := by
  obtain ⟨partition, covers⟩ :=
    @timeline_partition ℤ _ _ _ 10 40 35 fourSamples (by decide)
  exact ⟨partition, covers 25 (by decide) (by decide) ⟨_, rfl, by decide⟩ fun all =>
    absurd (all (30, none) (by decide)) (by decide)⟩

end Visit

end NasaCpp.Web.Timeline
