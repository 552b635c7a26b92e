import Mathlib.Algebra.Order.Field.Basic
import Mathlib.Algebra.Order.Field.Rat
import Mathlib.Tactic.Linarith

/-!
# The water law

`waterLawTarget` of `store.js`, over any ordered field.  Between its two points the curve is
a share of the way from the cold water temperature to the warm one, and the share grows with
the outdoor temperature from nothing to the whole.
-/

namespace NasaCpp.Web.WaterLaw

universe u

/-- An entity in the browser, as far as it is read here. -/
structure NamedEntity (α : Type u) where
  value : Option α

/-- `byName`: the entities by their lower-case names, in the order of the map. -/
abbrev ByName (α : Type u) := List (String × NamedEntity α)

def outdoorName : String := "Temp Outer"

def lawOffsetName : String := "Temp Water Law Target F"

section Store

variable {α : Type u} (store : ByName α)

def ent (name : String) : Option (NamedEntity α) := store.lookup name.toLower

def val (name : String) : Option α := (ent store name).bind NamedEntity.value

/-- `fsv`: the value of the first entity whose name begins with the code. -/
def fsv (code : ℕ) : Option α :=
  (store.find? fun entry => s!"fsv {code} ".isPrefixOf entry.1).bind fun entry => entry.2.value

end Store

section Field

variable {α : Type u} [Field α] [LinearOrder α]

/-- The three branches of the target without the offset. -/
def curve (tCold tWarm wCold wWarm outdoor : α) : α :=
  if outdoor ≤ tCold ∨ tWarm ≤ tCold then wCold
  else if tWarm ≤ outdoor then wWarm
  else wCold + ((outdoor - tCold) / (tWarm - tCold)) * (wWarm - wCold)

def offset (store : ByName α) : α := (val store lawOffsetName).getD 0

def waterLawTarget (store : ByName α) (zone : ℕ) : Option α := do
  let outdoor ← val store outdoorName
  let tCold ← fsv store 2011
  let tWarm ← fsv store 2012
  let wCold ← fsv store (if zone = 1 then 2021 else 2031)
  let wWarm ← fsv store (if zone = 1 then 2022 else 2032)
  return curve tCold tWarm wCold wWarm outdoor + offset store

/-! ## The curve -/

def share (tCold tWarm outdoor : α) : α :=
  max 0 (min 1 ((outdoor - tCold) / (tWarm - tCold)))

variable {tCold tWarm : α} (wCold wWarm : α)

theorem share_nonneg (outdoor : α) : 0 ≤ share tCold tWarm outdoor := le_max_left _ _

variable [IsStrictOrderedRing α]

theorem share_le_one (outdoor : α) : share tCold tWarm outdoor ≤ 1 :=
  max_le zero_le_one (min_le_left _ _)

section Ascending

variable (ascending : tCold < tWarm)

include ascending

theorem share_mono {outdoor warmer : α} (le : outdoor ≤ warmer) :
    share tCold tWarm outdoor ≤ share tCold tWarm warmer := by
  have span : 0 < tWarm - tCold := sub_pos.mpr ascending
  have shares : (outdoor - tCold) / (tWarm - tCold) ≤ (warmer - tCold) / (tWarm - tCold) :=
    div_le_div_of_nonneg_right (sub_le_sub_right le tCold) span.le
  exact max_le_max_left 0 (min_le_min_left 1 shares)

theorem share_cold {outdoor : α} (cold : outdoor ≤ tCold) : share tCold tWarm outdoor = 0 := by
  have span : 0 < tWarm - tCold := sub_pos.mpr ascending
  have none : (outdoor - tCold) / (tWarm - tCold) ≤ 0 :=
    div_nonpos_of_nonpos_of_nonneg (sub_nonpos.mpr cold) span.le
  exact max_eq_left (min_le_of_right_le none)

theorem share_warm {outdoor : α} (warm : tWarm ≤ outdoor) : share tCold tWarm outdoor = 1 := by
  have span : 0 < tWarm - tCold := sub_pos.mpr ascending
  have whole : 1 ≤ (outdoor - tCold) / (tWarm - tCold) :=
    (one_le_div span).mpr (sub_le_sub_right warm tCold)
  rw [share, min_eq_left whole, max_eq_right zero_le_one]

/-- All three branches at once. -/
theorem curve_eq_share (outdoor : α) :
    curve tCold tWarm wCold wWarm outdoor =
      wCold + share tCold tWarm outdoor * (wWarm - wCold) := by
  have span : 0 < tWarm - tCold := sub_pos.mpr ascending
  unfold curve
  by_cases cold : outdoor ≤ tCold
  · rw [if_pos (.inl cold), share_cold ascending cold, zero_mul, add_zero]
  · rw [if_neg (not_or.mpr ⟨cold, not_le.mpr ascending⟩)]
    by_cases warm : tWarm ≤ outdoor
    · rw [if_pos warm, share_warm ascending warm, one_mul, add_sub_cancel]
    · have positive : 0 ≤ (outdoor - tCold) / (tWarm - tCold) :=
        div_nonneg (sub_nonneg.mpr (not_le.mp cold).le) span.le
      have part : (outdoor - tCold) / (tWarm - tCold) ≤ 1 :=
        (div_le_one span).mpr (sub_le_sub_right (not_le.mp warm).le tCold)
      rw [if_neg warm, share, min_eq_right part, max_eq_right positive]

theorem curve_between (outdoor : α) :
    min wCold wWarm ≤ curve tCold tWarm wCold wWarm outdoor ∧
      curve tCold tWarm wCold wWarm outdoor ≤ max wCold wWarm := by
  rw [curve_eq_share wCold wWarm ascending]
  have some : 0 ≤ share tCold tWarm outdoor := share_nonneg outdoor
  have rest : 0 ≤ 1 - share tCold tWarm outdoor := sub_nonneg.mpr (share_le_one outdoor)
  generalize share tCold tWarm outdoor = part at some rest ⊢
  have whole : part * (wWarm - wCold) + (1 - part) * (wWarm - wCold) = wWarm - wCold := by
    rw [← add_mul, add_sub_cancel, one_mul]
  rcases le_total wCold wWarm with rises | falls
  · rw [min_eq_left rises, max_eq_right rises]
    have way := mul_nonneg some (sub_nonneg.mpr rises)
    have left := mul_nonneg rest (sub_nonneg.mpr rises)
    constructor <;> linarith
  · rw [min_eq_right falls, max_eq_left falls]
    have way := mul_nonpos_of_nonneg_of_nonpos some (sub_nonpos.mpr falls)
    have left := mul_nonpos_of_nonneg_of_nonpos rest (sub_nonpos.mpr falls)
    constructor <;> linarith

theorem curve_mono {outdoor warmer : α} (le : outdoor ≤ warmer) (rises : wCold ≤ wWarm) :
    curve tCold tWarm wCold wWarm outdoor ≤ curve tCold tWarm wCold wWarm warmer := by
  rw [curve_eq_share wCold wWarm ascending, curve_eq_share wCold wWarm ascending]
  have grows := share_mono ascending le
  exact add_le_add_right (mul_le_mul_of_nonneg_right grows (sub_nonneg.mpr rises)) wCold

theorem curve_anti {outdoor warmer : α} (le : outdoor ≤ warmer) (falls : wWarm ≤ wCold) :
    curve tCold tWarm wCold wWarm warmer ≤ curve tCold tWarm wCold wWarm outdoor := by
  rw [curve_eq_share wCold wWarm ascending, curve_eq_share wCold wWarm ascending]
  have grows := share_mono ascending le
  exact add_le_add_right (mul_le_mul_of_nonpos_right grows (sub_nonpos.mpr falls)) wCold

theorem curve_cold {outdoor : α} (cold : outdoor ≤ tCold) :
    curve tCold tWarm wCold wWarm outdoor = wCold := by
  rw [curve_eq_share wCold wWarm ascending, share_cold ascending cold, zero_mul, add_zero]

theorem curve_warm {outdoor : α} (warm : tWarm ≤ outdoor) :
    curve tCold tWarm wCold wWarm outdoor = wWarm := by
  rw [curve_eq_share wCold wWarm ascending, share_warm ascending warm, one_mul, add_sub_cancel]

end Ascending

/-! ## The target -/

/-- The settings of a zone and the outdoor temperature that a store has. -/
structure Reads (store : ByName α) (zone : ℕ) (tCold tWarm wCold wWarm outdoor : α) : Prop where
  outdoor : val store outdoorName = some outdoor
  tCold : fsv store 2011 = some tCold
  tWarm : fsv store 2012 = some tWarm
  wCold : fsv store (if zone = 1 then 2021 else 2031) = some wCold
  wWarm : fsv store (if zone = 1 then 2022 else 2032) = some wWarm

omit [IsStrictOrderedRing α] in
theorem waterLawTarget_eq {store : ByName α} {zone : ℕ} {tCold tWarm wCold wWarm outdoor : α}
    (reads : Reads store zone tCold tWarm wCold wWarm outdoor) :
    waterLawTarget store zone =
      some (curve tCold tWarm wCold wWarm outdoor + offset store) := by
  unfold waterLawTarget
  rw [reads.outdoor, reads.tCold, reads.tWarm, reads.wCold, reads.wWarm]
  rfl

/-- Without its offset the target lies between the two water temperatures, is the one of a
point from that point on, and follows the outdoor temperature in their direction. -/
theorem water_law {store warmer : ByName α} {zone : ℕ}
    {tCold tWarm wCold wWarm outdoor warmerOutdoor : α} (ascending : tCold < tWarm)
    (reads : Reads store zone tCold tWarm wCold wWarm outdoor)
    (warmerReads : Reads warmer zone tCold tWarm wCold wWarm warmerOutdoor)
    (le : outdoor ≤ warmerOutdoor) :
    ∃ target warmerTarget, waterLawTarget store zone = some target ∧
      waterLawTarget warmer zone = some warmerTarget ∧
      (min wCold wWarm ≤ target - offset store ∧ target - offset store ≤ max wCold wWarm) ∧
      (outdoor ≤ tCold → target - offset store = wCold) ∧
      (tWarm ≤ outdoor → target - offset store = wWarm) ∧
      (wCold ≤ wWarm → target - offset store ≤ warmerTarget - offset warmer) ∧
      (wWarm ≤ wCold → warmerTarget - offset warmer ≤ target - offset store) := by
  refine ⟨_, _, waterLawTarget_eq reads, waterLawTarget_eq warmerReads, ?_⟩
  rw [add_sub_cancel_right, add_sub_cancel_right]
  exact ⟨curve_between wCold wWarm ascending outdoor, curve_cold wCold wWarm ascending,
    curve_warm wCold wWarm ascending, curve_mono wCold wWarm ascending le,
    curve_anti wCold wWarm ascending le⟩

def heating (outdoor offset : ℚ) : ByName ℚ :=
  [("temp outer", ⟨some outdoor⟩),
    ("fsv 2011 outdoor temperature for heating water law max point", ⟨some (-10)⟩),
    ("fsv 2012 outdoor temperature for heating water law min point", ⟨some 15⟩),
    ("fsv 2021 water out temperature max for wl1 heating max point", ⟨some 45⟩),
    ("fsv 2022 water out temperature max for wl1 heating min point", ⟨some 25⟩),
    ("temp water law target f", ⟨some offset⟩)]

theorem water_law_heating :
    ∃ target warmerTarget, waterLawTarget (heating 0 2) 1 = some target ∧
      waterLawTarget (heating 5 (-1)) 1 = some warmerTarget ∧
      warmerTarget - offset (heating 5 (-1)) ≤ target - offset (heating 0 2) := by
  have reads : Reads (heating 0 2) 1 (-10) 15 45 25 0 := by
    constructor <;> decide +kernel
  have warmerReads : Reads (heating 5 (-1)) 1 (-10) 15 45 25 5 := by
    constructor <;> decide +kernel
  obtain ⟨target, warmerTarget, htarget, hwarmer, -, -, -, -, falls⟩ :=
    water_law (by norm_num) reads warmerReads (by norm_num)
  exact ⟨target, warmerTarget, htarget, hwarmer, falls (by norm_num)⟩

end Field

end NasaCpp.Web.WaterLaw
