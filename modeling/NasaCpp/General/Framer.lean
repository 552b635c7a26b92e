import Mathlib.Data.List.Basic

/-!
# Stream framers

A framer reads a buffer from the front: it waits for more input, consumes a
non-empty prefix and emits what that prefix stands for, or faults.  Running it
repeats this until it waits.  A verdict other than waiting depends on the bytes
present only, so cutting a stream into chunks changes nothing (`run_append`,
`feed_chunks`), and every output belongs to an offset the run reaches
(`mem_run_iff_emitsAt`).
-/

namespace NasaCpp.General

universe u v

/-- What one iteration decides about the front of the buffer. -/
inductive Verdict (β : Type v) where
  | wait
  | consume (count : Nat) (out : List β)
  | fault
  deriving DecidableEq, Repr

/-- One iteration of a framing loop, with the laws that make it incremental. -/
structure Framer (α : Type u) (β : Type v) where
  step : List α → Verdict β
  step_nil : step [] = .wait
  consume_bounds : ∀ {data : List α} {count : Nat} {out : List β},
    step data = .consume count out → 0 < count ∧ count ≤ data.length
  stable : ∀ {data : List α} (more : List α),
    step data ≠ .wait → step (data ++ more) = step data

namespace Framer

variable {α : Type u} {β : Type v} (framer : Framer α β)

/-- At most `fuel` iterations; the outputs so far and the buffer left. -/
def runFuel : Nat → List α → Option (List β × List α)
  | 0, data => some ([], data)
  | fuel + 1, data =>
      match framer.step data with
      | .wait => some ([], data)
      | .fault => none
      | .consume count out =>
          (runFuel fuel (data.drop count)).map fun result => (out ++ result.1, result.2)

/-- The loop: each iteration shortens the buffer, so its length bounds their number. -/
def run (data : List α) : Option (List β × List α) :=
  framer.runFuel data.length data

theorem runFuel_eq_run {fuel : Nat} {data : List α} (enough : data.length ≤ fuel) :
    framer.runFuel fuel data = framer.run data := by
  unfold run
  induction fuel using Nat.strongRecOn generalizing data with
  | ind fuel ih =>
      cases data with
      | nil =>
          cases fuel with
          | zero => rfl
          | succ fuel => simp only [runFuel, framer.step_nil, List.length_nil]
      | cons head tail =>
          obtain ⟨fuel, rfl⟩ : ∃ rest, fuel = rest + 1 :=
            ⟨fuel - 1, by simp only [List.length_cons] at enough; omega⟩
          simp only [runFuel, List.length_cons]
          cases hstep : framer.step (head :: tail) with
          | wait => rfl
          | fault => rfl
          | consume count out =>
              have bounds := framer.consume_bounds hstep
              have shorter : ((head :: tail).drop count).length ≤ tail.length := by
                simp only [List.length_drop, List.length_cons] at *
                omega
              simp only [List.length_cons] at enough
              have left := ih fuel (Nat.lt_succ_self _) (Nat.le_trans shorter (by omega))
              have right := ih tail.length (by omega) shorter
              dsimp only
              rw [left, right]

/-! ## The loop equation -/

theorem run_of_wait {data : List α} (hstep : framer.step data = .wait) :
    framer.run data = some ([], data) := by
  rw [← framer.runFuel_eq_run (Nat.le_succ data.length), runFuel, hstep]

theorem run_of_fault {data : List α} (hstep : framer.step data = .fault) :
    framer.run data = none := by
  rw [← framer.runFuel_eq_run (Nat.le_succ data.length), runFuel, hstep]

theorem run_of_consume {data : List α} {count : Nat} {out : List β}
    (hstep : framer.step data = .consume count out) :
    framer.run data =
      (framer.run (data.drop count)).map fun result => (out ++ result.1, result.2) := by
  have shorter : (data.drop count).length ≤ data.length := by
    rw [List.length_drop]
    exact Nat.sub_le _ _
  rw [← framer.runFuel_eq_run (Nat.le_succ data.length), runFuel, hstep]
  dsimp only
  rw [framer.runFuel_eq_run shorter]

@[simp] theorem run_nil : framer.run [] = some ([], []) :=
  framer.run_of_wait framer.step_nil

/-- Induction along the loop: a buffer is left alone, faults, or is shortened. -/
theorem run_induction {motive : List α → Prop}
    (wait : ∀ data, framer.step data = .wait → motive data)
    (fault : ∀ data, framer.step data = .fault → motive data)
    (consume : ∀ data count out, framer.step data = .consume count out →
      motive (data.drop count) → motive data)
    (data : List α) : motive data := by
  induction hlen : data.length using Nat.strongRecOn generalizing data with
  | ind length ih =>
      cases hstep : framer.step data with
      | wait => exact wait data hstep
      | fault => exact fault data hstep
      | consume count out =>
          have bounds := framer.consume_bounds hstep
          refine consume data count out hstep (ih (data.drop count).length ?_ _ rfl)
          rw [List.length_drop]
          omega

/-! ## Cutting the stream -/

theorem stable_consume {data : List α} {count : Nat} {out : List β} (more : List α)
    (hstep : framer.step data = .consume count out) :
    framer.step (data ++ more) = .consume count out := by
  rw [framer.stable more (by rw [hstep]; nofun), hstep]

theorem stable_fault {data : List α} (more : List α) (hstep : framer.step data = .fault) :
    framer.step (data ++ more) = .fault := by
  rw [framer.stable more (by rw [hstep]; nofun), hstep]

/-- Running on `data ++ more` is running on `data` and then on what that left,
followed by `more`. -/
theorem run_append (data more : List α) :
    framer.run (data ++ more) =
      (framer.run data).bind fun first =>
        (framer.run (first.2 ++ more)).map fun second => (first.1 ++ second.1, second.2) := by
  induction data using framer.run_induction with
  | wait data hstep => simp [framer.run_of_wait hstep]
  | fault data hstep =>
      rw [framer.run_of_fault hstep, framer.run_of_fault (framer.stable_fault more hstep)]
      rfl
  | consume data count out hstep ih =>
      have bounds := framer.consume_bounds hstep
      rw [framer.run_of_consume hstep,
        framer.run_of_consume (framer.stable_consume more hstep),
        List.drop_append_of_le_length bounds.2, ih]
      cases framer.run (data.drop count) with
      | none => rfl
      | some first =>
          simp only [Option.bind_some, Option.map_some, Option.map_map]
          congr 1
          funext second
          simp [List.append_assoc]

/-- Appending the chunks one by one and running after each, from a buffer;
the outputs are collected. -/
def feed : List α → List (List α) → Option (List β × List α)
  | buffer, [] => some ([], buffer)
  | buffer, chunk :: chunks =>
      (framer.run (buffer ++ chunk)).bind fun first =>
        (feed first.2 chunks).map fun second => (first.1 ++ second.1, second.2)

/-- A buffer the loop has nothing more to do with. -/
def Settled (buffer : List α) : Prop := framer.step buffer = .wait

theorem settled_of_run {data rest : List α} {outs : List β}
    (hrun : framer.run data = some (outs, rest)) : framer.Settled rest := by
  induction data using framer.run_induction generalizing outs with
  | wait data hstep =>
      rw [framer.run_of_wait hstep] at hrun
      cases hrun
      exact hstep
  | fault data hstep =>
      rw [framer.run_of_fault hstep] at hrun
      cases hrun
  | consume data count out hstep ih =>
      rw [framer.run_of_consume hstep] at hrun
      obtain ⟨inner, hinner, hresult⟩ := Option.map_eq_some_iff.mp hrun
      cases hresult
      exact ih hinner

/-- The buffer left is an end of the buffer given. -/
theorem run_suffix {data rest : List α} {outs : List β}
    (hrun : framer.run data = some (outs, rest)) : rest <:+ data := by
  induction data using framer.run_induction generalizing outs with
  | wait data hstep =>
      rw [framer.run_of_wait hstep] at hrun
      cases hrun
      exact List.suffix_refl _
  | fault data hstep =>
      rw [framer.run_of_fault hstep] at hrun
      cases hrun
  | consume data count out hstep ih =>
      rw [framer.run_of_consume hstep] at hrun
      obtain ⟨inner, hinner, hresult⟩ := Option.map_eq_some_iff.mp hrun
      cases hresult
      exact (ih hinner).trans (List.drop_suffix count data)

/-- A loop in which no iteration faults ends on every buffer. -/
theorem exists_run (never : ∀ data, framer.step data ≠ .fault) (data : List α) :
    ∃ outs rest, framer.run data = some (outs, rest) := by
  induction data using framer.run_induction with
  | wait data hstep => exact ⟨[], data, framer.run_of_wait hstep⟩
  | fault data hstep => exact absurd hstep (never data)
  | consume data count out hstep ih =>
      obtain ⟨outs, rest, hrest⟩ := ih
      refine ⟨out ++ outs, rest, ?_⟩
      rw [framer.run_of_consume hstep, hrest, Option.map_some]

/-- However a stream is cut, feeding its chunks is one run on the whole. -/
theorem feed_chunks {buffer : List α} (settled : framer.Settled buffer)
    (chunks : List (List α)) :
    framer.feed buffer chunks = framer.run (buffer ++ chunks.flatten) := by
  induction chunks generalizing buffer with
  | nil => simp [feed, framer.run_of_wait settled]
  | cons chunk chunks ih =>
      rw [List.flatten_cons, ← List.append_assoc, framer.run_append (buffer ++ chunk)]
      unfold feed
      cases hfirst : framer.run (buffer ++ chunk) with
      | none => rfl
      | some first =>
          simp only [Option.bind_some]
          rw [ih (framer.settled_of_run hfirst)]

/-! ## Offsets -/

/-- The offsets of the buffer at which the loop starts an iteration. -/
inductive Reaches (data : List α) : Nat → Prop where
  | start : Reaches data 0
  | next {offset count : Nat} {out : List β} (reached : Reaches data offset)
      (hstep : framer.step (data.drop offset) = .consume count out) :
      Reaches data (offset + count)

def EmitsAt (data : List α) (offset : Nat) (output : β) : Prop :=
  framer.Reaches data offset ∧
    ∃ count out, framer.step (data.drop offset) = .consume count out ∧ output ∈ out

theorem Reaches.shift {framer : Framer α β} {data : List α} {count : Nat} {out : List β}
    (hstep : framer.step data = .consume count out) {offset : Nat}
    (reached : framer.Reaches (data.drop count) offset) :
    framer.Reaches data (count + offset) := by
  induction reached with
  | start =>
      have first : framer.step (data.drop 0) = .consume count out := by rwa [List.drop_zero]
      rw [Nat.add_zero, ← Nat.zero_add count]
      exact .next .start first
  | next _ hnext ih =>
      rw [List.drop_drop] at hnext
      rw [← Nat.add_assoc]
      exact .next ih hnext

/-- An offset reached is the start or lies behind the first consumed prefix. -/
theorem Reaches.unshift {framer : Framer α β} {data : List α} {offset : Nat}
    (reached : framer.Reaches data offset) :
    offset = 0 ∨ ∃ count out rest, framer.step data = .consume count out ∧
      offset = count + rest ∧ framer.Reaches (data.drop count) rest := by
  induction reached with
  | start => exact .inl rfl
  | @next offset count out _ hstep ih =>
      right
      rcases ih with rfl | ⟨first, firstOut, rest, hfirst, rfl, hrest⟩
      · exact ⟨count, out, 0, by simpa using hstep, by omega, .start⟩
      · rw [← List.drop_drop] at hstep
        exact ⟨first, firstOut, rest + count, hfirst, by omega, .next hrest hstep⟩

/-- From every offset it reaches the run goes on to the same rest. -/
theorem Reaches.run {framer : Framer α β} {data rest : List α} {outs : List β} {offset : Nat}
    (reached : framer.Reaches data offset) (hrun : framer.run data = some (outs, rest)) :
    ∃ later, framer.run (data.drop offset) = some (later, rest) := by
  induction reached with
  | start => exact ⟨outs, by rwa [List.drop_zero]⟩
  | next _ hstep ih =>
      obtain ⟨later, hlater⟩ := ih
      rw [framer.run_of_consume hstep, List.drop_drop] at hlater
      obtain ⟨inner, hinner, hresult⟩ := Option.map_eq_some_iff.mp hlater
      cases hresult
      exact ⟨inner.1, hinner⟩

/-- The run does not stop before its rest. -/
theorem Reaches.consumes {framer : Framer α β} {data rest : List α} {outs : List β} {offset : Nat}
    (reached : framer.Reaches data offset) (hrun : framer.run data = some (outs, rest))
    (early : offset + rest.length < data.length) :
    ∃ count out, framer.step (data.drop offset) = .consume count out := by
  obtain ⟨later, hlater⟩ := reached.run hrun
  cases hstep : framer.step (data.drop offset) with
  | wait =>
      rw [framer.run_of_wait hstep, Option.some.injEq, Prod.mk.injEq] at hlater
      have length_eq := congrArg List.length hlater.2
      rw [List.length_drop] at length_eq
      omega
  | fault =>
      rw [framer.run_of_fault hstep] at hlater
      cases hlater
  | consume count out => exact ⟨count, out, rfl⟩

/-- The outputs of a run are exactly those emitted at the offsets it reaches. -/
theorem mem_run_iff_emitsAt {data : List α} {result : List β × List α}
    (hrun : framer.run data = some result) (output : β) :
    output ∈ result.1 ↔ ∃ offset, framer.EmitsAt data offset output := by
  induction data using framer.run_induction generalizing result with
  | wait data hstep =>
      rw [framer.run_of_wait hstep] at hrun
      cases hrun
      refine ⟨fun impossible => (nomatch impossible), ?_⟩
      rintro ⟨offset, reached, count, out, hemit, -⟩
      rcases reached.unshift with rfl | ⟨first, firstOut, rest, hfirst, -, -⟩
      · rw [List.drop_zero, hstep] at hemit
        cases hemit
      · rw [hstep] at hfirst
        cases hfirst
  | fault data hstep =>
      rw [framer.run_of_fault hstep] at hrun
      cases hrun
  | consume data count out hstep ih =>
      rw [framer.run_of_consume hstep] at hrun
      obtain ⟨inner, hinner, rfl⟩ := Option.map_eq_some_iff.mp hrun
      rw [List.mem_append, ih hinner]
      constructor
      · rintro (here | ⟨offset, reached, later, laterOut, hlater, hmem⟩)
        · exact ⟨0, .start, count, out, by simpa using hstep, here⟩
        · rw [List.drop_drop] at hlater
          exact ⟨count + offset, reached.shift hstep, later, laterOut, hlater, hmem⟩
      · rintro ⟨offset, reached, later, laterOut, hlater, hmem⟩
        rcases reached.unshift with rfl | ⟨first, firstOut, rest, hfirst, rfl, hrest⟩
        · rw [List.drop_zero, hstep] at hlater
          cases hlater
          exact .inl hmem
        · rw [hstep] at hfirst
          cases hfirst
          rw [← List.drop_drop] at hlater
          exact .inr ⟨rest, hrest, later, laterOut, hlater, hmem⟩

end Framer

end NasaCpp.General
