import Mathlib.Algebra.Order.BigOperators.Group.List
import Mathlib.Algebra.Order.Field.Basic
import Mathlib.Algebra.Order.Field.Rat
import Mathlib.Algebra.Order.Floor.Ring
import Mathlib.Data.Rat.Floor
import Mathlib.Data.List.Sort
import Mathlib.Tactic.Linarith
import NasaCpp.General.Rounding
import NasaCpp.Web.Timeline

/-!
# The shares of the states

`drawer.js` adds up how long an entity has been in each state and shows the four largest
shares, in whole percent, above the timeline.  Both are made from the same samples, the shares
without the window of the timeline and without its joining of segments.
-/

namespace NasaCpp.Web.Drawer

open General Timeline

universe u

variable {α τ : Type u}

/-! ## Sums by state -/

def tally [AddMonoid τ] (key : α → String) (weight : α → τ) (entries : List α)
    (state : String) : τ :=
  ((entries.filter fun entry => key entry = state).map weight).sum

section Tally

variable [AddCommGroup τ] (key : α → String) (weight : α → τ)

theorem tally_append (first second : List α) (state : String) :
    tally key weight (first ++ second) state =
      tally key weight first state + tally key weight second state := by
  unfold tally
  rw [List.filter_append, List.map_append, List.sum_append]

theorem tally_cons (entry : α) (rest : List α) (state : String) :
    tally key weight (entry :: rest) state =
      (if key entry = state then weight entry else 0) + tally key weight rest state := by
  unfold tally
  rw [List.filter_cons]
  by_cases same : key entry = state
  · rw [if_pos (decide_eq_true same), if_pos same, List.map_cons, List.sum_cons]
  · rw [if_neg fun equal => same (of_decide_eq_true equal), if_neg same, zero_add]

theorem tally_singleton (entry : α) (state : String) :
    tally key weight [entry] state = if key entry = state then weight entry else 0 := by
  rw [tally_cons]
  exact add_zero _

end Tally

/-! ## The totals -/

section Totals

variable [AddCommGroup τ]

/-- `totals.set(key, (totals.get(key) || 0) + amount)`. -/
def add : List (String × τ) → String → τ → List (String × τ)
  | [], key, amount => [(key, 0 + amount)]
  | (other, held) :: rest, key, amount =>
      if other = key then (other, held + amount) :: rest else (other, held) :: add rest key amount

def addAll (stop : τ) : List (String × τ) → List (Timeline.Sample τ) → List (String × τ)
  | totals, [] => totals
  | totals, [sample] => add totals (shown sample.2) (stop - sample.1)
  | totals, sample :: next :: rest =>
      addAll stop (add totals (shown sample.2) (next.1 - sample.1)) (next :: rest)

def totals (stop : τ) (samples : List (Timeline.Sample τ)) : List (String × τ) :=
  addAll stop [] samples

def sum (totals : List (String × τ)) : τ := (totals.map Prod.snd).sum

theorem tally_add (totals : List (String × τ)) (key : String) (amount : τ) (state : String) :
    tally Prod.fst Prod.snd (add totals key amount) state =
      tally Prod.fst Prod.snd totals state + if key = state then amount else 0 := by
  induction totals with
  | nil =>
      rw [add, tally_singleton, zero_add]
      exact (zero_add _).symm
  | cons entry rest ih =>
      obtain ⟨other, held⟩ := entry
      rw [add]
      by_cases same : other = key
      · subst same
        rw [if_pos rfl, tally_cons, tally_cons]
        dsimp only
        split
        · rw [add_right_comm]
        · rw [add_zero]
      · rw [if_neg same, tally_cons, tally_cons, ih, add_assoc]

theorem sum_add (totals : List (String × τ)) (key : String) (amount : τ) :
    sum (add totals key amount) = sum totals + amount := by
  induction totals with
  | nil =>
      rw [add, zero_add]
      exact (List.sum_singleton).trans (zero_add _).symm
  | cons entry rest ih =>
      obtain ⟨other, held⟩ := entry
      rw [add]
      split
      · exact add_right_comm held amount (sum rest)
      · exact (congrArg (held + ·) ih).trans (add_assoc _ _ _).symm

theorem mem_keys_add {totals : List (String × τ)} {key : String} {amount : τ} {other : String}
    (member : other ∈ (add totals key amount).map Prod.fst) :
    other = key ∨ other ∈ totals.map Prod.fst := by
  induction totals with
  | nil => exact .inl (List.mem_singleton.mp member)
  | cons entry rest ih =>
      rw [add] at member
      split at member
      · exact .inr member
      · rcases List.mem_cons.mp member with here | later
        · exact .inr (List.mem_cons.mpr (.inl here))
        · exact (ih later).imp_right (List.mem_cons_of_mem _)

theorem nodup_add {totals : List (String × τ)} (distinct : (totals.map Prod.fst).Nodup)
    (key : String) (amount : τ) : ((add totals key amount).map Prod.fst).Nodup := by
  induction totals with
  | nil => exact List.nodup_singleton _
  | cons entry rest ih =>
      obtain ⟨fresh, distinct⟩ := List.nodup_cons.mp distinct
      rw [add]
      split
      · exact List.nodup_cons.mpr ⟨fresh, distinct⟩
      · rename_i different
        refine List.nodup_cons.mpr ⟨fun member => ?_, ih distinct⟩
        exact (mem_keys_add member).elim different fresh

/-- Each state has one entry. -/
theorem tally_of_mem {totals : List (String × τ)} (distinct : (totals.map Prod.fst).Nodup)
    {entry : String × τ} (member : entry ∈ totals) :
    tally Prod.fst Prod.snd totals entry.1 = entry.2 := by
  induction totals with
  | nil => cases member
  | cons first rest ih =>
      obtain ⟨fresh, distinct⟩ := List.nodup_cons.mp distinct
      rw [tally_cons]
      rcases List.mem_cons.mp member with rfl | later
      · have absent : tally Prod.fst Prod.snd rest entry.1 = 0 := by
          unfold tally
          rw [List.filter_eq_nil_iff.mpr fun other here same =>
            fresh (List.mem_map.mpr ⟨other, here, of_decide_eq_true same⟩)]
          rfl
        rw [if_pos rfl, absent, add_zero]
      · have different : first.1 ≠ entry.1 := fun same =>
          fresh (List.mem_map.mpr ⟨entry, later, same.symm⟩)
        rw [if_neg different, zero_add, ih distinct later]

/-- The last sample counts up to the end, so the time from the first one on is shared out. -/
theorem sum_addAll (stop : τ) (totals : List (String × τ)) (sample : Timeline.Sample τ)
    (rest : List (Timeline.Sample τ)) :
    sum (addAll stop totals (sample :: rest)) = sum totals + (stop - sample.1) := by
  induction rest generalizing totals sample with
  | nil => exact sum_add _ _ _
  | cons next rest ih =>
      rw [addAll, ih, sum_add, add_assoc, add_comm (next.1 - sample.1), sub_add_sub_cancel]

theorem nodup_addAll {stop : τ} {totals : List (String × τ)}
    (distinct : (totals.map Prod.fst).Nodup) (samples : List (Timeline.Sample τ)) :
    ((addAll stop totals samples).map Prod.fst).Nodup := by
  induction samples generalizing totals with
  | nil => exact distinct
  | cons sample rest ih =>
      cases rest with
      | nil => exact nodup_add distinct _ _
      | cons next rest => exact ih (nodup_add distinct _ _)

end Totals

/-! ## The segments -/

section Drawn

variable [CommRing τ] [LinearOrder τ] [IsStrictOrderedRing τ] {start stop now : τ}

def drawn (segs : List (Segment τ)) (state : String) : τ :=
  tally Segment.state (fun seg => seg.b - seg.a) segs state

theorem drawn_extend {segs : List (Segment τ)} {a : τ} (reaches : Reaches segs a) (state : String)
    (b : τ) (other : String) :
    drawn (extend segs state a b) other =
      drawn segs other + if state = other then b - a else 0 := by
  rcases extend_cases reaches state b with ⟨hextend, -⟩ | ⟨front, last, rfl, touches, same, hextend⟩
  · rw [hextend, drawn, tally_append, tally_singleton]
    rfl
  · rw [hextend, drawn, drawn, tally_append, tally_append, tally_singleton, tally_singleton,
      add_assoc]
    dsimp only
    rw [same, touches]
    split
    · rw [add_comm (a - last.a), sub_add_sub_cancel]
    · rw [add_zero, add_zero, add_zero]

/-- What counts of the time from a sample on, but comes before the window. -/
def hidden (start time : τ) : τ := max start time - time

omit [CommRing τ] [IsStrictOrderedRing τ] in
theorem max_eq_of_le {time next : τ} (after : time ≤ next) (nothing : next ≤ max start time) :
    max start next = max start time :=
  le_antisymm (max_le (le_max_left _ _) nothing) (max_le_max_left start after)

/-- A sample is drawn from the start of the window on. -/
theorem drawn_visit {segs : List (Segment τ)} {sample : Timeline.Sample τ} {next : τ}
    (reaches : Reaches segs (max start sample.1)) (after : sample.1 ≤ next) (ends : next ≤ stop) :
    Reaches (visit start stop segs sample next) (max start next) ∧ ∀ state,
      drawn (visit start stop segs sample next) state = drawn segs state +
        if shown sample.2 = state then max start next - max start sample.1 else 0 := by
  unfold visit
  dsimp only
  rw [min_eq_right ends]
  split
  · rename_i nothing
    rw [max_eq_of_le after nothing]
    refine ⟨reaches, fun state => ?_⟩
    rw [sub_self, ite_self, add_zero]
  · rename_i visible
    have begun : max start next = next :=
      max_eq_right ((le_max_left _ _).trans (not_le.mp visible).le)
    rw [begun]
    exact ⟨reaches_extend reaches _ _, drawn_extend reaches _ _⟩

/-- A state counts at least as long as it is drawn, and longer by no more than what is hidden
so far. -/
def Follows (start whole time : τ) (totals : List (String × τ)) (segs : List (Segment τ)) :
    Prop :=
  ∀ state, drawn segs state ≤ tally Prod.fst Prod.snd totals state ∧
    tally Prod.fst Prod.snd totals state + hidden start time ≤ drawn segs state + whole

theorem Follows.visit {segs : List (Segment τ)} {totals : List (String × τ)} {whole : τ}
    {sample : Timeline.Sample τ} {next : τ}
    (follows : Follows start whole sample.1 totals segs)
    (reaches : Reaches segs (max start sample.1)) (after : sample.1 ≤ next) (ends : next ≤ stop) :
    Follows start whole next (add totals (shown sample.2) (next - sample.1))
      (Timeline.visit start stop segs sample next) := by
  intro state
  obtain ⟨-, draws⟩ := drawn_visit reaches after ends
  obtain ⟨low, high⟩ := follows state
  have less : max start next - next ≤ max start sample.1 - sample.1 := by
    rcases le_total start sample.1 with before | behind
    · rw [max_eq_right before, max_eq_right (before.trans after), sub_self, sub_self]
    · rw [max_eq_left behind]
      rcases le_total start next with begun | late
      · rw [max_eq_right begun, sub_self]
        exact sub_nonneg.mpr behind
      · rw [max_eq_left late]
        exact sub_le_sub_left after start
  unfold hidden at high ⊢
  rw [draws, tally_add]
  split
  · constructor <;> linarith
  · constructor <;> linarith

theorem follows_visitAll {rest : List (Timeline.Sample τ)} {sample : Timeline.Sample τ}
    {segs : List (Segment τ)} {totals : List (String × τ)} {whole : τ}
    (reaches : Reaches segs (max start sample.1))
    (ordered : (sample :: rest).Pairwise fun earlier later => earlier.1 ≤ later.1)
    (within : ∀ other ∈ sample :: rest, other.1 ≤ stop) (past : stop ≤ now)
    (follows : Follows start whole sample.1 totals segs) :
    Follows start whole stop (addAll stop totals (sample :: rest))
      (visitAll start stop now segs (sample :: rest)) := by
  induction rest generalizing sample segs totals with
  | nil =>
      rw [addAll, visitAll, min_eq_left past]
      exact follows.visit reaches (within sample List.mem_cons_self) le_rfl
  | cons next rest ih =>
      obtain ⟨first, ordered⟩ := List.pairwise_cons.mp ordered
      have after := first next List.mem_cons_self
      have ends := within next (List.mem_cons_of_mem _ List.mem_cons_self)
      exact ih (drawn_visit reaches after ends).1 ordered
        (fun other member => within other (List.mem_cons_of_mem _ member))
        (follows.visit reaches after ends)

theorem nonneg_add {totals : List (String × τ)} (nonneg : ∀ entry ∈ totals, 0 ≤ entry.2)
    (key : String) {amount : τ} (more : 0 ≤ amount) :
    ∀ entry ∈ add totals key amount, 0 ≤ entry.2 := by
  induction totals with
  | nil =>
      rw [add, List.forall_mem_singleton, zero_add]
      exact more
  | cons first rest ih =>
      obtain ⟨here, later⟩ := List.forall_mem_cons.mp nonneg
      rw [add]
      split
      · exact List.forall_mem_cons.mpr ⟨add_nonneg here more, later⟩
      · exact List.forall_mem_cons.mpr ⟨here, ih later⟩

theorem nonneg_addAll {samples : List (Timeline.Sample τ)} {totals : List (String × τ)}
    (nonneg : ∀ entry ∈ totals, 0 ≤ entry.2)
    (ordered : samples.Pairwise fun earlier later => earlier.1 ≤ later.1)
    (within : ∀ sample ∈ samples, sample.1 ≤ stop) :
    ∀ entry ∈ addAll stop totals samples, 0 ≤ entry.2 := by
  induction samples generalizing totals with
  | nil => exact nonneg
  | cons sample rest ih =>
      obtain ⟨first, ordered⟩ := List.pairwise_cons.mp ordered
      obtain ⟨here, within⟩ := List.forall_mem_cons.mp within
      cases rest with
      | nil => exact nonneg_add nonneg _ (sub_nonneg.mpr here)
      | cons next rest =>
          exact ih (nonneg_add nonneg _ (sub_nonneg.mpr (first next List.mem_cons_self)))
            ordered within

end Drawn

/-! ## The shares -/

section Shares

variable [Field τ] [LinearOrder τ]

/-- `reduce((a, b) => a + b, 0) || 1`. -/
def all (totals : List (String × τ)) : τ := if sum totals = 0 then 1 else sum totals

/-- `sort((a, b) => b[1] - a[1])`. -/
def sorted (totals : List (String × τ)) : List (String × τ) :=
  totals.insertionSort fun first second => second.2 ≤ first.2

/-- The largest four, in percent before they are rounded. -/
def shares (stop : τ) (samples : List (Timeline.Sample τ)) : List (String × τ) :=
  ((sorted (totals stop samples)).take 4).map fun entry =>
    (entry.1, entry.2 / all (totals stop samples) * 100)

variable {start stop now : τ}

omit [Field τ] in
theorem sorted_perm (totals : List (String × τ)) : (sorted totals).Perm totals :=
  List.perm_insertionSort _ _

omit [Field τ] in
theorem sorted_pairwise (totals : List (String × τ)) :
    (sorted totals).Pairwise fun earlier later => later.2 ≤ earlier.2 := by
  have total : Std.Total fun first second : String × τ => second.2 ≤ first.2 :=
    ⟨fun first second => le_total second.2 first.2⟩
  have trans : IsTrans (String × τ) fun first second => second.2 ≤ first.2 :=
    ⟨fun _ _ _ earlier later => later.trans earlier⟩
  exact List.pairwise_insertionSort _ _

theorem mem_shares {samples : List (Timeline.Sample τ)} {share : String × τ}
    (member : share ∈ shares stop samples) : ∃ entry ∈ totals stop samples,
      share = (entry.1, entry.2 / all (totals stop samples) * 100) := by
  obtain ⟨entry, hentry, rfl⟩ := List.mem_map.mp member
  exact ⟨entry, (sorted_perm _).subset (List.mem_of_mem_take hentry), rfl⟩

omit [LinearOrder τ] in
theorem sum_map_div (entries : List (String × τ)) (whole : τ) :
    sum (entries.map fun entry => (entry.1, entry.2 / whole * 100)) =
      sum entries / whole * 100 := by
  induction entries with
  | nil => exact (by rw [zero_div, zero_mul] : (0 : τ) = 0 / whole * 100)
  | cons entry rest ih =>
      unfold sum at ih ⊢
      rw [List.map_cons, List.map_cons, List.map_cons, List.sum_cons, List.sum_cons, ih, add_div,
        add_mul]

theorem sum_shares {samples : List (Timeline.Sample τ)} (few : (totals stop samples).length ≤ 4) :
    sum (shares stop samples) =
      sum (totals stop samples) / all (totals stop samples) * 100 := by
  have perm := sorted_perm (totals stop samples)
  have same : sum (sorted (totals stop samples)) = sum (totals stop samples) :=
    (perm.map Prod.snd).sum_eq
  rw [shares, List.take_of_length_le (perm.length_eq.trans_le few), sum_map_div, same]

variable [IsStrictOrderedRing τ]

/-! ## Whole percent -/

section Rounded

variable [FloorRing τ]

def num (share : τ) : ℤ := Rounding.roundHalfUp share

def stats (stop : τ) (samples : List (Timeline.Sample τ)) : List (String × ℤ) :=
  (shares stop samples).map fun share => (share.1, num share.2)

theorem abs_sum_num_sub (shares : List (String × τ)) :
    |((shares.map fun share => num share.2).sum : τ) - sum shares| ≤ shares.length / 2 := by
  induction shares with
  | nil => simp [sum]
  | cons share shares ih =>
      have here := abs_le.mp (Rounding.abs_roundHalfUp_sub share.2)
      have later := abs_le.mp ih
      unfold sum at later ⊢
      rw [List.map_cons, List.map_cons, List.sum_cons, List.sum_cons, List.length_cons, abs_le,
        Int.cast_add, Nat.cast_add, Nat.cast_one, num]
      constructor <;> linarith

/-- No more than four shares are each off by half a percent at most. -/
theorem abs_sum_stats_sub (stop : τ) (samples : List (Timeline.Sample τ)) :
    |(((stats stop samples).map Prod.snd).sum : τ) - sum (shares stop samples)| ≤ 2 := by
  have four : (shares stop samples).length ≤ 4 := by
    rw [shares, List.length_map]
    exact List.length_take_le 4 _
  have few : ((shares stop samples).length : τ) ≤ 4 := by exact_mod_cast four
  have same : (stats stop samples).map Prod.snd =
      (shares stop samples).map fun share => num share.2 := List.map_map
  rw [same]
  exact (abs_sum_num_sub _).trans (by linarith)

end Rounded

variable [FloorRing τ]

/-- A state counts for no more than the time since the first sample, and as it is drawn up to
what is hidden before the window. -/
theorem mem_totals {first : Timeline.Sample τ} {rest : List (Timeline.Sample τ)}
    (ordered : (first :: rest).Pairwise fun earlier later => earlier.1 ≤ later.1)
    (within : ∀ sample ∈ first :: rest, sample.1 ≤ stop) (window : start ≤ stop)
    (past : stop ≤ now) {entry : String × τ} (hentry : entry ∈ totals stop (first :: rest)) :
    0 ≤ entry.2 ∧ entry.2 ≤ stop - first.1 ∧
      drawn (segments start stop now (first :: rest)) entry.1 ≤ entry.2 ∧
      entry.2 ≤ drawn (segments start stop now (first :: rest)) entry.1 + hidden start first.1 := by
  have whole : sum (totals stop (first :: rest)) = stop - first.1 :=
    (sum_addAll stop [] first rest).trans (zero_add _)
  have nonneg : ∀ entry ∈ totals stop (first :: rest), 0 ≤ entry.2 :=
    nonneg_addAll nofun ordered within
  have long : entry.2 ≤ stop - first.1 := by
    rw [← whole]
    refine List.single_le_sum (fun amount here => ?_) _ (List.mem_map_of_mem hentry)
    obtain ⟨other, hother, rfl⟩ := List.mem_map.mp here
    exact nonneg other hother
  have follows : Follows start (hidden start first.1) stop (totals stop (first :: rest))
      (segments start stop now (first :: rest)) := by
    refine follows_visitAll (fun _ hlast => by cases hlast) ordered within past ?_
    exact fun _ => ⟨le_rfl, le_rfl⟩
  obtain ⟨low, high⟩ := follows entry.1
  have single : tally Prod.fst Prod.snd (totals stop (first :: rest)) entry.1 = entry.2 :=
    tally_of_mem (@nodup_addAll τ _ stop [] List.nodup_nil _) hentry
  rw [single] at low high
  rw [hidden, max_eq_right window, sub_self, add_zero] at high
  exact ⟨nonneg entry hentry, long, low, high⟩

/-- Every share is the part of the timeline that shows the state, up to the time that the first
sample comes before the window; larger shares come first, and if no state is left out they make
a hundred percent.  What is shown is off by half a percent at most, or by two in all. -/
theorem shares_drawn {first : Timeline.Sample τ} {rest : List (Timeline.Sample τ)}
    (ordered : (first :: rest).Pairwise fun earlier later => earlier.1 ≤ later.1)
    (within : ∀ sample ∈ first :: rest, sample.1 ≤ stop) (window : start ≤ stop)
    (past : stop ≤ now) (lasting : first.1 < stop) :
    (∀ share ∈ shares stop (first :: rest), 0 ≤ share.2 ∧ share.2 ≤ 100 ∧
      drawn (segments start stop now (first :: rest)) share.1 / (stop - first.1) * 100 ≤
        share.2 ∧
      share.2 ≤ (drawn (segments start stop now (first :: rest)) share.1 +
        hidden start first.1) / (stop - first.1) * 100 ∧ |(num share.2 : τ) - share.2| ≤ 1 / 2) ∧
    ((shares stop (first :: rest)).Pairwise fun earlier later => later.2 ≤ earlier.2) ∧
    ((stats stop (first :: rest)).Pairwise fun earlier later => later.2 ≤ earlier.2) ∧
    ((totals stop (first :: rest)).length ≤ 4 → sum (shares stop (first :: rest)) = 100 ∧
      |(((stats stop (first :: rest)).map Prod.snd).sum : τ) - 100| ≤ 2) := by
  have positive : 0 < stop - first.1 := sub_pos.mpr lasting
  have whole : sum (totals stop (first :: rest)) = stop - first.1 :=
    (sum_addAll stop [] first rest).trans (zero_add _)
  have hall : all (totals stop (first :: rest)) = stop - first.1 := by
    rw [all, whole, if_neg positive.ne']
  have percent {part other : τ} (less : part ≤ other) :
      part / (stop - first.1) * 100 ≤ other / (stop - first.1) * 100 :=
    mul_le_mul_of_nonneg_right (div_le_div_of_nonneg_right less positive.le) (by norm_num)
  have descending : (shares stop (first :: rest)).Pairwise fun earlier later =>
      later.2 ≤ earlier.2 := by
    have largest := (sorted_pairwise (totals stop (first :: rest))).sublist
      (List.take_sublist 4 _)
    refine List.pairwise_map.mpr (largest.imp fun less => ?_)
    rw [hall]
    exact percent less
  have displayed := descending.imp fun less => Rounding.roundHalfUp_mono less
  refine ⟨fun share member => ?_, descending, List.pairwise_map.mpr displayed, fun few => ?_⟩
  · obtain ⟨entry, hentry, rfl⟩ := mem_shares member
    obtain ⟨nonneg, long, low, high⟩ := mem_totals ordered within window past hentry
    rw [hall]
    refine ⟨?_, ?_, percent low, percent high, Rounding.abs_roundHalfUp_sub _⟩
    · exact mul_nonneg (div_nonneg nonneg positive.le) (by norm_num)
    · exact mul_le_of_le_one_left (by norm_num) ((div_le_one positive).mpr long)
  · have hundred : sum (shares stop (first :: rest)) = 100 := by
      rw [sum_shares few, hall, whole, div_self positive.ne', one_mul]
    exact ⟨hundred, hundred ▸ abs_sum_stats_sub stop (first :: rest)⟩

example : stats 3 ([(0, some "A"), (1, some "B"), (2, some "C")] : List (Timeline.Sample ℚ)) =
    [("A", 33), ("B", 33), ("C", 33)] := by
  decide +kernel

def pumpSamples : List (Timeline.Sample ℚ) := [(0, some "ON"), (30, some "OFF"), (60, some "ON")]

theorem shares_drawn_pump :
    shares 100 pumpSamples = [("ON", 70), ("OFF", 30)] ∧
      drawn (segments (1 / 2) 100 101 pumpSamples) "ON" / 100 * 100 ≤ 70 ∧
      70 ≤ (drawn (segments (1 / 2) 100 101 pumpSamples) "ON" + 1 / 2) / 100 * 100 := by
  have shown : shares 100 pumpSamples = [("ON", 70), ("OFF", 30)] := by
    decide +kernel
  have member : ("ON", 70) ∈ shares 100 pumpSamples := shown ▸ List.mem_cons_self
  obtain ⟨drawn, -, -⟩ := @shares_drawn ℚ _ _ (1 / 2) 100 101 _ _ (0, some "ON")
    [(30, some "OFF"), (60, some "ON")] (by decide +kernel) (by decide +kernel)
    (by decide +kernel) (by decide +kernel) (by decide +kernel)
  obtain ⟨-, -, low, high, -⟩ := drawn ("ON", 70) member
  have before : hidden (1 / 2 : ℚ) 0 = 1 / 2 := by decide +kernel
  rw [before, sub_zero] at high
  rw [sub_zero] at low
  exact ⟨shown, low, high⟩

end Shares

end NasaCpp.Web.Drawer
