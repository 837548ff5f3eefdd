import Wroid.Editor.Geometry

/-!
# When a manipulation keeps a profile valid

The checks of the page are read along one axis of a region at a time, and each handler is
followed down to the multiple of its rounding step that it ends on.  What is left is when
that multiple is still within the room the validator allows.

## Main results

* `axisFine_position_iff`, `axisFine_size_iff` — a rounded position and a rounded size.
* `manipulation_keeps_valid_iff` — **a valid profile stays valid exactly under the
  manipulations that fit.**
* `grid_leaves_viewport` — a drag to the edge that ends outside the viewport.
-/

namespace Wroid.Page

open Lib JsNumber

/-! ### The checks on numbers -/

/-- A coordinate that the checks accept. -/
def Inside (q : ℚ) : Prop := -tolerance ≤ q ∧ q ≤ 1 + tolerance

/-- The extent of a region along one axis, as the checks accept it. -/
def AxisFine (position size : ℚ) : Prop :=
  Inside position ∧ 0 < size ∧ position + size ≤ 1 + tolerance

theorem finiteWithin_number {q : ℚ} : finiteWithin (.number q) 0 1 ↔ Inside q := by
  simp only [finiteWithin, isFinite_number, number_le_number, true_and, Inside, tolerance]
  norm_num

theorem exists_of_finiteWithin {a : JsNumber} (h : finiteWithin a 0 1) :
    ∃ q, a = .number q ∧ Inside q := by
  obtain ⟨q, rfl⟩ := isFinite_iff.mp h.1
  exact ⟨q, rfl, finiteWithin_number.mp h⟩

theorem validatePoint_eq_nil {point : PagePoint} {label : String} :
    validatePoint point label = [] ↔ finiteWithin point.x 0 1 ∧ finiteWithin point.y 0 1 := by
  rw [validatePoint, errorIf_eq_nil]
  tauto

theorem validateRegion_numbers {x y w h : ℚ} {name : String} :
    validateRegion ⟨.number x, .number y, .number w, .number h⟩ name = [] ↔
      AxisFine x w ∧ AxisFine y h := by
  have hlimit : (1000000001 : ℚ) / 1000000000 = 1 + tolerance := by norm_num [tolerance]
  rw [validateRegion, errorIf_eq_nil]
  simp only [finiteWithin_number, isFinite_number, number_add, number_le_number,
    number_lt_number, hlimit, AxisFine, not_true_eq_false, false_or, not_or, not_not, not_le,
    not_lt]
  tauto

/-- A region that the checks accept has numbers in its fields. -/
theorem exists_of_validateRegion {region : PageRect} {name : String}
    (hregion : validateRegion region name = []) :
    ∃ x y w h, region = ⟨.number x, .number y, .number w, .number h⟩ ∧
      AxisFine x w ∧ AxisFine y h := by
  obtain ⟨X, Y, W, H⟩ := region
  have hfine := hregion
  rw [validateRegion, errorIf_eq_nil] at hregion
  simp only [not_or, not_not] at hregion
  obtain ⟨hx, hy, hw, hh, -⟩ := hregion
  obtain ⟨x, rfl⟩ := isFinite_iff.mp hx.1
  obtain ⟨y, rfl⟩ := isFinite_iff.mp hy.1
  obtain ⟨w, rfl⟩ := isFinite_iff.mp hw
  obtain ⟨h, rfl⟩ := isFinite_iff.mp hh
  exact ⟨x, y, w, h, rfl, validateRegion_numbers.mp hfine⟩

/-! ### The helpers on numbers -/

/-- What `snapped` makes of a number. -/
def snapTo (snap : Bool) (t : ℚ) : ℚ :=
  toFixed 4 (min 1 (max 0 (if snap then gridRound (5 / 1000) t else t)))

@[simp] theorem clamp_number (v lo hi : ℚ) :
    clamp (.number v) (.number lo) (.number hi) = .number (min hi (max lo v)) := rfl

@[simp] theorem rounded_number (v : ℚ) : rounded (.number v) = .number (toFixed 4 v) := rfl

@[simp] theorem normalized_number (v : ℚ) :
    normalized (.number v) = .number (snapTo false v) := rfl

@[simp] theorem snapped_number (snap : Bool) (v : ℚ) :
    snapped snap (.number v) = .number (snapTo snap v) := by
  cases snap <;> rfl

@[simp] theorem value_number (v : ℚ) : value (.number v) = v := rfl

theorem gridStep_pos (snap : Bool) : 0 < gridStep snap := by
  cases snap <;> norm_num [gridStep]

theorem gridStep_false : gridStep false = 1 / 10 ^ 4 := by norm_num [gridStep]

/-- A snapped number is in the viewport. -/
theorem inside_snapTo (snap : Bool) (t : ℚ) : Inside (snapTo snap t) := by
  have hlow : ((0 : ℕ) : ℚ) / 10 ^ 4 ≤ min 1 (max 0 (if snap then gridRound (5 / 1000) t else t)) := by
    norm_num
  have hhigh : min 1 (max 0 (if snap then gridRound (5 / 1000) t else t)) ≤
      ((10000 : ℕ) : ℚ) / 10 ^ 4 := by
    norm_num
  obtain ⟨k, -, hk, heq⟩ := exists_toFixed_eq hlow hhigh
  have hk' : (k : ℚ) ≤ 10000 := by exact_mod_cast hk
  rw [snapTo, heq]
  constructor
  · have h0 : (0 : ℚ) ≤ k / 10 ^ 4 := by positivity
    norm_num [tolerance]
    linarith
  · rw [div_le_iff₀ (by norm_num)]
    norm_num [tolerance]
    linarith

theorem finiteWithin_snapTo (snap : Bool) (t : ℚ) :
    finiteWithin (.number (snapTo snap t)) 0 1 :=
  finiteWithin_number.mpr (inside_snapTo snap t)

/-- Next to the viewport, snapping is rounding to a grid. -/
theorem snapTo_eq {snap : Bool} {t : ℚ} (hlow : -(1 / 20000) < t) (hhigh : t < 1 + 1 / 20000) :
    snapTo snap t = gridRound (gridStep snap) t := by
  cases snap with
  | true =>
    -- The multiples of the grid in the viewport are decimals, so only the first rounding counts.
    have hk₀ : 0 ≤ mathRound (t / (5 / 1000)) := by
      rw [le_mathRound_iff, le_div_iff₀ (by norm_num)]
      norm_num
      linarith
    have hk₁ : mathRound (t / (5 / 1000)) ≤ 200 := by
      rw [mathRound_le_iff, div_lt_iff₀ (by norm_num)]
      norm_num
      linarith
    obtain ⟨k, hk⟩ := Int.eq_ofNat_of_zero_le hk₀
    have hk₂ : (k : ℚ) ≤ 200 := by
      rw [hk] at hk₁
      exact_mod_cast hk₁
    have hgrid : gridRound (5 / 1000) t = ((k * 50 : ℕ) : ℚ) / 10 ^ 4 := by
      rw [gridRound, hk]
      push_cast
      ring
    have hle : ((k * 50 : ℕ) : ℚ) / 10 ^ 4 ≤ 1 := by
      rw [div_le_one (by norm_num)]
      push_cast
      linarith
    have hge : (0 : ℚ) ≤ ((k * 50 : ℕ) : ℚ) / 10 ^ 4 := by positivity
    rw [snapTo, if_pos rfl, hgrid, max_eq_right hge, min_eq_right hle, toFixed_decimal,
      gridStep, if_pos rfl, hgrid]
  | false =>
    rw [snapTo, if_neg (by simp), gridStep_false, toFixed_eq_gridRound]
    · by_cases h₀ : t < 0
      · -- Both round to zero.
        have hz : ∀ q : ℚ, -(1 / 20000) < q → q < 1 / 20000 → gridRound (1 / 10 ^ 4) q = 0 := by
          intro q hq₁ hq₂
          have hround : mathRound (q / (1 / 10 ^ 4)) = 0 := by
            apply le_antisymm
            · rw [mathRound_le_iff, div_lt_iff₀ (by norm_num)]
              norm_num
              linarith
            · rw [le_mathRound_iff, le_div_iff₀ (by norm_num)]
              norm_num
              linarith
          rw [gridRound, hround]
          simp
        rw [max_eq_left h₀.le, min_eq_right zero_le_one, hz 0 (by norm_num) (by norm_num),
          hz t hlow (by linarith)]
      · by_cases h₁ : 1 < t
        · -- Both round to one.
          have ho : ∀ q : ℚ, 1 ≤ q → q < 1 + 1 / 20000 → gridRound (1 / 10 ^ 4) q = 1 := by
            intro q hq₁ hq₂
            have hround : mathRound (q / (1 / 10 ^ 4)) = 10000 := by
              apply le_antisymm
              · rw [mathRound_le_iff, div_lt_iff₀ (by norm_num)]
                norm_num
                linarith
              · rw [le_mathRound_iff, le_div_iff₀ (by norm_num)]
                norm_num
                linarith
            rw [gridRound, hround]
            norm_num
          rw [max_eq_right (by linarith), min_eq_left h₁.le, ho 1 le_rfl (by norm_num),
            ho t h₁.le hhigh]
        · rw [max_eq_right (not_lt.mp h₀), min_eq_right (not_lt.mp h₁)]
    · have hmin : (0 : ℚ) ≤ min 1 (max 0 t) := le_min zero_le_one (le_max_left 0 t)
      norm_num

/-- Next to the viewport, rounding is rounding to a grid. -/
theorem toFixed_eq {t : ℚ} (hlow : -(1 / 20000) < t) :
    toFixed 4 t = gridRound (gridStep false) t := by
  rw [gridStep_false]
  apply toFixed_eq_gridRound
  norm_num
  linarith

/-! ### One axis of a region -/

section Axis

variable {step position size requested : ℚ}

theorem gridStep_bounds (snap : Bool) : 1 / 10000 ≤ gridStep snap ∧ gridStep snap ≤ 5 / 1000 := by
  cases snap <;> norm_num [gridStep]

/-- The room for a region's position. -/
theorem room_of_size (h : AxisFine position size) :
    -(2 * tolerance) ≤ 1 - size ∧ 1 - size < 1 := by
  obtain ⟨⟨hlow, -⟩, hpos, hsum⟩ := h
  constructor <;> linarith

/-- The room for a region's size. -/
theorem room_of_position (h : AxisFine position size) :
    -tolerance < 1 - position ∧ 1 - position ≤ 1 + tolerance := by
  obtain ⟨⟨hlow, -⟩, hpos, hsum⟩ := h
  constructor <;> linarith

/-- A rounded position is fine iff it settles. -/
theorem axisFine_position_iff (hstep : 1 / 10000 ≤ step) (hrequested : 0 ≤ requested)
    (h : AxisFine position size) :
    AxisFine (gridRound step (min (1 - size) requested)) size ↔
      Settles step (1 - size) requested := by
  have hpos : 0 < step := by linarith
  obtain ⟨hroom, hroom'⟩ := room_of_size h
  have htol : tolerance = 1 / 1000000000 := rfl
  have hnonneg : 0 ≤ gridRound step (min (1 - size) requested) := by
    apply gridRound_nonneg hpos
    rw [le_min_iff]
    constructor <;> linarith
  rw [Settles, ← gridRound_le_iff hpos]
  constructor
  · intro hfine
    have := hfine.2.2
    linarith
  · intro hle
    have hsize := h.2.1
    exact ⟨⟨by linarith, by linarith⟩, hsize, by linarith⟩

/-- A rounded size is fine iff it settles and does not vanish. -/
theorem axisFine_size_iff (hpos : 0 < step) (hrequested : step / 2 ≤ requested)
    (h : AxisFine position size) :
    AxisFine position (gridRound step (min (1 - position) requested)) ↔
      SettlesSize step (1 - position) requested := by
  have hvanish : 0 < gridRound step (min (1 - position) requested) ↔ step / 2 ≤ 1 - position := by
    rw [gridRound_pos_iff hpos, le_min_iff]
    exact and_iff_left hrequested
  rw [SettlesSize, Settles, ← gridRound_le_iff hpos, ← hvanish]
  constructor
  · intro hfine
    have := hfine.2.2
    exact ⟨hfine.2.1, by linarith⟩
  · rintro ⟨hsize, hle⟩
    exact ⟨h.1, hsize, by linarith⟩

/-- A position that was snapped. -/
theorem axisFine_snapTo_position (snap : Bool) (h : AxisFine position size) :
    AxisFine (snapTo snap (min (1 - size) (max 0 requested))) size ↔
      Settles (gridStep snap) (1 - size) (max 0 requested) := by
  have hrequested : 0 ≤ max 0 requested := le_max_left 0 requested
  obtain ⟨hroom, hroom'⟩ := room_of_size h
  have htol : tolerance = 1 / 1000000000 := rfl
  have hle : min (1 - size) (max 0 requested) ≤ 1 - size := min_le_left _ _
  have hlow : -(1 / 20000) < min (1 - size) (max 0 requested) := by
    rw [lt_min_iff]
    constructor <;> linarith
  rw [snapTo_eq hlow (by linarith)]
  exact axisFine_position_iff (gridStep_bounds snap).1 hrequested h

/-- A size that was snapped. -/
theorem axisFine_snapTo_size (snap : Bool) (h : AxisFine position size)
    (hrequested : 5 / 1000 ≤ requested) :
    AxisFine position (snapTo snap (min (1 - position) requested)) ↔
      SettlesSize (gridStep snap) (1 - position) requested := by
  obtain ⟨hroom, hroom'⟩ := room_of_position h
  have htol : tolerance = 1 / 1000000000 := rfl
  have hstep := (gridStep_bounds snap).2
  have hle : min (1 - position) requested ≤ 1 - position := min_le_left _ _
  have hlow : -(1 / 20000) < min (1 - position) requested := by
    rw [lt_min_iff]
    constructor <;> linarith
  rw [snapTo_eq hlow (by linarith)]
  exact axisFine_size_iff (gridStep_pos snap) (by linarith) h

/-- A position that was entered. -/
theorem axisFine_toFixed_position (h : AxisFine position size) :
    AxisFine (toFixed 4 (min (1 - size) (max 0 requested))) size ↔
      Settles (gridStep false) (1 - size) (max 0 requested) := by
  have hrequested : 0 ≤ max 0 requested := le_max_left 0 requested
  obtain ⟨hroom, hroom'⟩ := room_of_size h
  have htol : tolerance = 1 / 1000000000 := rfl
  have hlow : -(1 / 20000) < min (1 - size) (max 0 requested) := by
    rw [lt_min_iff]
    constructor <;> linarith
  rw [toFixed_eq hlow]
  exact axisFine_position_iff (gridStep_bounds false).1 hrequested h

/-- A size that was entered. -/
theorem axisFine_toFixed_size (h : AxisFine position size) (hrequested : 1 / 1000 ≤ requested) :
    AxisFine position (toFixed 4 (min (1 - position) requested)) ↔
      SettlesSize (gridStep false) (1 - position) requested := by
  obtain ⟨hroom, hroom'⟩ := room_of_position h
  have htol : tolerance = 1 / 1000000000 := rfl
  have hstep : gridStep false = 1 / 10000 := rfl
  have hlow : -(1 / 20000) < min (1 - position) requested := by
    rw [lt_min_iff]
    constructor <;> linarith
  rw [toFixed_eq hlow]
  exact axisFine_size_iff (gridStep_pos false) (by linarith) h

end Axis

/-! ### The radius and the dead zone of a joystick -/

section Stick

variable {toLowerCase : String → String} {center : PagePoint} {radius deadZone : JsNumber}
  {mode : Option String} {reaffirmMs : JsNumber} {name : String}

/-- The radius and the dead zone that the checks accept. -/
def StickFine (radius deadZone : JsNumber) : Prop :=
  ∃ r z, radius = .number r ∧ deadZone.orElse 0 = .number z ∧ 0 < r ∧ r ≤ 1 ∧ 0 ≤ z ∧ z < r

theorem validateAction_stick :
    validateAction toLowerCase (.virtualJoystick center radius deadZone mode reaffirmMs) name = [] ↔
      (finiteWithin center.x 0 1 ∧ finiteWithin center.y 0 1) ∧ StickFine radius deadZone ∧
        reaffirmMs ≠ .number 0 := by
  have hzone : ∀ zone : JsNumber, (errorIf (¬ radius.isFinite ∨ radius ≤ .number 0 ∨
        .number 1 < radius)
        s!"binding {name} virtual_joystick radius must be finite and within 0.0..=1.0" = [] ∧
      (if ¬ zone.isFinite ∨ zone < .number 0 ∨ .number 1 ≤ zone then
        [s!"binding {name} virtual_joystick dead_zone must be finite and within 0.0..1.0"]
      else
        errorIf (radius.isFinite ∧ radius ≤ zone)
          s!"binding {name} virtual_joystick dead_zone must be smaller than radius") = []) ↔
      ∃ r z, radius = .number r ∧ zone = .number z ∧ 0 < r ∧ r ≤ 1 ∧ 0 ≤ z ∧ z < r := by
    intro zone
    constructor
    · rintro ⟨hr, hz⟩
      rw [errorIf_eq_nil] at hr
      simp only [not_or, not_not] at hr
      obtain ⟨hrf, hr₀, hr₁⟩ := hr
      obtain ⟨r, rfl⟩ := isFinite_iff.mp hrf
      by_cases hbad : ¬ zone.isFinite ∨ zone < .number 0 ∨ .number 1 ≤ zone
      · rw [if_pos hbad] at hz
        cases hz
      · rw [if_neg hbad, errorIf_eq_nil] at hz
        simp only [not_or, not_not] at hbad
        obtain ⟨hzf, hz₀, hz₁⟩ := hbad
        obtain ⟨z, rfl⟩ := isFinite_iff.mp hzf
        simp only [number_le_number, number_lt_number, isFinite_number, true_and, not_le,
          not_lt] at hr₀ hr₁ hz₀ hz
        exact ⟨r, z, rfl, rfl, hr₀, hr₁, hz₀, hz⟩
    · rintro ⟨r, z, rfl, rfl, hr₀, hr₁, hz₀, hz⟩
      constructor
      · rw [errorIf_eq_nil]
        simp only [isFinite_number, number_le_number, number_lt_number, not_or, not_not, not_le,
          not_lt]
        exact ⟨trivial, hr₀, hr₁⟩
      · rw [if_neg]
        · rw [errorIf_eq_nil]
          simpa using hz
        · simp only [isFinite_number, number_le_number, number_lt_number, not_or, not_not, not_le,
            not_lt]
          exact ⟨trivial, hz₀, by linarith⟩
  have h := hzone (deadZone.orElse 0)
  simp only [validateAction, List.append_eq_nil_iff, validatePoint_eq_nil]
  rw [and_assoc (b := errorIf _ _ = []), h, errorIf_eq_nil, and_assoc, StickFine]

/-- A radius between two decimals, and the dead zone that goes with it. -/
theorem stickFine_resized {a b : ℕ} {t : ℚ} (ha : 10 ≤ a) (hb : b ≤ 10000)
    (hlow : a / 10 ^ 4 ≤ t) (hhigh : t ≤ b / 10 ^ 4) {r : JsNumber}
    (hzone : StickFine r deadZone) :
    StickFine (rounded (.number t))
        (mathMin deadZone (rounded (rounded (.number t) - .number (1 / 1000)))) ↔
      deadZone ≠ .undefined := by
  obtain ⟨_, z, -, hz, -, -, hz₀, -⟩ := hzone
  obtain ⟨k, hak, hkb, heq⟩ := exists_toFixed_eq hlow hhigh
  obtain ⟨j, rfl⟩ := Nat.exists_eq_add_of_le (le_trans ha hak)
  -- The radius less a thousandth is a decimal again.
  have hless : toFixed 4 (((10 + j : ℕ) : ℚ) / 10 ^ 4 - 1 / 1000) = j / 10 ^ 4 := by
    rw [← toFixed_decimal j]
    congr 1
    push_cast
    ring
  have hj : ((10 + j : ℕ) : ℚ) ≤ 10000 := by exact_mod_cast le_trans hkb hb
  have hr : rounded (.number t) = .number (((10 + j : ℕ) : ℚ) / 10 ^ 4) := by
    rw [rounded_number, heq]
  rw [hr, number_sub, rounded_number, hless]
  have hfine : ∀ y : ℚ, 0 ≤ y → y ≤ j / 10 ^ 4 →
      StickFine (.number (((10 + j : ℕ) : ℚ) / 10 ^ 4)) (.number y) := by
    intro y hy₀ hy
    refine ⟨_, y, rfl, rfl, by positivity, ?_, hy₀, ?_⟩
    · rw [div_le_one (by norm_num)]
      linarith
    · have hlt : (j : ℚ) / 10 ^ 4 < ((10 + j : ℕ) : ℚ) / 10 ^ 4 := by
        rw [div_lt_div_iff_of_pos_right (by norm_num)]
        push_cast
        linarith
      linarith
  cases deadZone with
  | undefined =>
    refine iff_of_false ?_ (by simp)
    rintro ⟨_, z', -, hz', -⟩
    cases hz'
  | null =>
    refine iff_of_true ?_ (by simp)
    exact hfine _ (le_min le_rfl (by positivity)) (min_le_right _ _)
  | nan => cases hz
  | number q =>
    refine iff_of_true ?_ (by simp)
    rw [orElse_number] at hz
    cases hz
    exact hfine _ (le_min hz₀ (by positivity)) (min_le_right _ _)

/-- A dead zone that was entered. -/
theorem stickFine_entered {entry : ℚ} (hzone : StickFine radius deadZone) :
    StickFine radius (rounded (clamp (.number entry) (.number 0)
      (mathMax (.number 0) (radius - .number (1 / 1000))))) := by
  obtain ⟨r, _, rfl, -, hr₀, hr₁, -⟩ := hzone
  have hlow : 0 ≤ min (max 0 (r - 1 / 1000)) (max 0 entry) :=
    le_min (le_max_left _ _) (le_max_left _ _)
  have hle : min (max 0 (r - 1 / 1000)) (max 0 entry) ≤ max 0 (r - 1 / 1000) := min_le_left _ _
  have hnonneg : 0 ≤ toFixed 4 (min (max 0 (r - 1 / 1000)) (max 0 entry)) := by
    rw [toFixed_eq_gridRound (lt_of_lt_of_le (by norm_num) hlow)]
    exact gridRound_nonneg (by norm_num) (le_trans (by norm_num) hlow)
  refine ⟨r, _, rfl, rfl, hr₀, hr₁, hnonneg, ?_⟩
  by_cases h : r < 1 / 1000
  · have hz : min (max 0 (r - 1 / 1000)) (max 0 entry) = 0 := by
      rw [max_eq_left (by linarith)] at hle ⊢
      exact le_antisymm hle (le_min le_rfl (le_max_left _ _))
    rw [hz, toFixed_zero]
    exact hr₀
  · have hup := @toFixed_le _ 4 hlow
    rw [max_eq_right (by linarith)] at hle hup ⊢
    norm_num at hup
    linarith

end Stick

/-! ### The numbers of an aim region -/

section Aim

variable {toLowerCase : String → String} {region : PageRect} {sensitivity : JsNumber}
  {toggleKey : Option String} {threshold gap ads reaffirmMs : JsNumber} {name : String}

/-- The fields of an aim region other than the region, as the checks accept them. -/
structure AimFine (toLowerCase : String → String) (sensitivity : JsNumber)
    (toggleKey : Option String) (threshold ads reaffirmMs : JsNumber) : Prop where
  sensitivity : sensitivity.isFinite ∧ .number 0 < sensitivity
  toggle : ∀ key ∈ toggleKey, key ≠ "" → canonicalKey toLowerCase key ∈ supportedKeyNames
  threshold : ∃ q, threshold.orElse (7 / 10) = .number q ∧ 1 / 10 ≤ q ∧ q ≤ 1
  ads : ads ≠ .undefined → ads ≠ .null → ∃ q, ads = .number q ∧ 1 / 10 ≤ q ∧ q ≤ 1
  reaffirm : reaffirmMs ≠ .number 0

/-- The check that a field is a number between a tenth and one. -/
theorem fraction_iff {a : JsNumber} :
    ¬ (¬ a.isFinite ∨ a < .number (1 / 10) ∨ .number 1 < a) ↔
      ∃ q, a = .number q ∧ 1 / 10 ≤ q ∧ q ≤ 1 := by
  constructor
  · intro h
    simp only [not_or, not_not] at h
    obtain ⟨q, rfl⟩ := isFinite_iff.mp h.1
    simp only [number_lt_number, not_lt] at h
    exact ⟨q, rfl, h.2⟩
  · rintro ⟨q, rfl, hlow, hhigh⟩
    simp only [isFinite_number, number_lt_number, not_or, not_not, not_lt]
    exact ⟨trivial, hlow, hhigh⟩

theorem validateAction_aim :
    validateAction toLowerCase
        (.mouseAim region sensitivity toggleKey threshold gap ads reaffirmMs) name = [] ↔
      validateRegion region name = [] ∧
        AimFine toLowerCase sensitivity toggleKey threshold ads reaffirmMs := by
  have hsens : ¬ (¬ sensitivity.isFinite ∨ sensitivity ≤ .number 0) ↔
      sensitivity.isFinite ∧ .number 0 < sensitivity := by
    rw [not_or, not_not]
    refine and_congr_right fun h => ?_
    obtain ⟨q, rfl⟩ := isFinite_iff.mp h
    simp
  have htoggle : ¬ (toggleKey.any fun key =>
        key ≠ "" ∧ canonicalKey toLowerCase key ∉ supportedKeyNames) = true ↔
      ∀ key ∈ toggleKey, key ≠ "" → canonicalKey toLowerCase key ∈ supportedKeyNames := by
    cases toggleKey <;> simp
  have hads : ¬ (ads ≠ .undefined ∧ ads ≠ .null ∧
        (¬ ads.isFinite ∨ ads < .number (1 / 10) ∨ .number 1 < ads)) ↔
      (ads ≠ .undefined → ads ≠ .null → ∃ q, ads = .number q ∧ 1 / 10 ≤ q ∧ q ≤ 1) := by
    rw [← fraction_iff]
    tauto
  simp only [validateAction, List.append_eq_nil_iff]
  rw [errorIf_eq_nil, errorIf_eq_nil, errorIf_eq_nil, errorIf_eq_nil, errorIf_eq_nil, hsens,
    htoggle, fraction_iff, hads]
  constructor
  · rintro ⟨⟨⟨⟨⟨h₁, h₂⟩, h₃⟩, h₄⟩, h₅⟩, h₆⟩
    exact ⟨h₁, h₂, h₃, h₄, h₅, h₆⟩
  · rintro ⟨h₁, h₂, h₃, h₄, h₅, h₆⟩
    exact ⟨⟨⟨⟨⟨h₁, h₂⟩, h₃⟩, h₄⟩, h₅⟩, h₆⟩

/-- A number between a tenth and one is rounded to one. -/
theorem exists_fraction (entry : ℚ) :
    ∃ q, rounded (clamp (.number entry) (.number (1 / 10)) (.number 1)) = .number q ∧
      1 / 10 ≤ q ∧ q ≤ 1 := by
  have hlow : ((1000 : ℕ) : ℚ) / 10 ^ 4 ≤ min 1 (max (1 / 10) entry) := by
    norm_num
  have hhigh : min 1 (max (1 / 10) entry) ≤ ((10000 : ℕ) : ℚ) / 10 ^ 4 := by
    norm_num
  obtain ⟨k, hk, hk', heq⟩ := exists_toFixed_eq hlow hhigh
  have hk₁ : (1000 : ℚ) ≤ k := by exact_mod_cast hk
  have hk₂ : (k : ℚ) ≤ 10000 := by exact_mod_cast hk'
  refine ⟨_, by rw [clamp_number, rounded_number], ?_, ?_⟩
  · rw [heq, le_div_iff₀ (by norm_num)]
    linarith
  · rw [heq, div_le_one (by norm_num)]
    linarith

end Aim

/-! ### Entering a number -/

section Enter

variable {toLowerCase : String → String} {name : String} {field : InspectorField} {entry : ℚ}

theorem kind_wireInspector (field : InspectorField) (value : JsNumber) (action : PageAction) :
    (wireInspector field value action).kind = action.kind := by
  cases action <;> cases field <;> rfl

theorem validatePoint_wirePoint {point : PagePoint} {label : String}
    (h : validatePoint point label = []) :
    validatePoint (wirePoint field (.number entry) point) label = [] := by
  rw [validatePoint_eq_nil] at h ⊢
  cases field with
  | tapX => exact ⟨finiteWithin_snapTo false entry, h.2⟩
  | tapY => exact ⟨h.1, finiteWithin_snapTo false entry⟩
  | _ => exact h

/-- An interval that is never shorter than a millisecond is not zero. -/
theorem mathMax_one_ne_zero : mathMax (.number 1) (lift (fun v => mathRound v) (.number entry)) ≠
    .number 0 := by
  rw [lift_number, mathMax_number, ne_eq, JsNumber.number.injEq]
  have h : (1 : ℚ) ≤ max 1 (mathRound entry : ℚ) := le_max_left _ _
  intro h'
  linarith

/-- **Entering a number keeps a valid action valid iff it fits.** -/
theorem validateAction_wireInspector {action : PageAction}
    (h : validateAction toLowerCase action name = []) :
    validateAction toLowerCase (wireInspector field (.number entry) action) name = [] ↔
      EntryFits field entry action := by
  cases action with
  | tap point => exact iff_of_true (validatePoint_wirePoint h) trivial
  | hold point => exact iff_of_true (validatePoint_wirePoint h) trivial
  | macroSteps steps => exact iff_of_true h trivial
  | virtualJoystick center radius deadZone mode reaffirmMs =>
    have hfine := validateAction_stick.mp h
    obtain ⟨hcenter, hstick, hreaffirm⟩ := hfine
    cases field with
    | stickX =>
      refine iff_of_true (validateAction_stick.mpr ⟨⟨?_, hcenter.2⟩, hstick, hreaffirm⟩)
        (fun hf => by cases hf)
      exact finiteWithin_snapTo false entry
    | stickY =>
      refine iff_of_true (validateAction_stick.mpr ⟨⟨hcenter.1, ?_⟩, hstick, hreaffirm⟩)
        (fun hf => by cases hf)
      exact finiteWithin_snapTo false entry
    | stickRadius =>
      have hresized : StickFine (rounded (.number (min 1 (max (1 / 1000) entry))))
          (mathMin deadZone (rounded
            (rounded (.number (min 1 (max (1 / 1000) entry))) - .number (1 / 1000)))) ↔
          deadZone ≠ .undefined :=
        stickFine_resized (a := 10) (b := 10000) le_rfl le_rfl (by norm_num) (by norm_num) hstick
      simp only [wireInspector, clamp_number]
      rw [validateAction_stick, hresized, EntryFits, and_iff_right hcenter,
        and_iff_left hreaffirm]
      exact ⟨fun h _ => h, fun h => h rfl⟩
    | stickDeadZone =>
      exact iff_of_true
        (validateAction_stick.mpr ⟨hcenter, stickFine_entered hstick, hreaffirm⟩)
        (fun hf => by cases hf)
    | stickReaffirm =>
      exact iff_of_true (validateAction_stick.mpr ⟨hcenter, hstick, mathMax_one_ne_zero⟩)
        (fun hf => by cases hf)
    | _ => exact iff_of_true h (fun hf => by cases hf)
  | mouseAim region sensitivity toggleKey threshold gap ads reaffirmMs =>
    obtain ⟨hregion, haim⟩ := validateAction_aim.mp h
    obtain ⟨x, y, w, hh, rfl, hx, hy⟩ := exists_of_validateRegion hregion
    cases field with
    | aimX =>
      simp only [wireInspector, number_sub, clamp_number, rounded_number]
      rw [validateAction_aim, validateRegion_numbers, axisFine_toFixed_position hx,
        and_iff_left hy, and_iff_left haim]
      rfl
    | aimY =>
      simp only [wireInspector, number_sub, clamp_number, rounded_number]
      rw [validateAction_aim, validateRegion_numbers, axisFine_toFixed_position hy,
        and_iff_right hx, and_iff_left haim]
      rfl
    | aimW =>
      simp only [wireInspector, number_sub, clamp_number, rounded_number]
      rw [validateAction_aim, validateRegion_numbers,
        axisFine_toFixed_size hx (le_max_left _ _), and_iff_left hy, and_iff_left haim]
      rfl
    | aimH =>
      simp only [wireInspector, number_sub, clamp_number, rounded_number]
      rw [validateAction_aim, validateRegion_numbers,
        axisFine_toFixed_size hy (le_max_left _ _), and_iff_right hx, and_iff_left haim]
      rfl
    | aimSensitivity =>
      refine iff_of_true (validateAction_aim.mpr ⟨hregion, { haim with sensitivity := ?_ }⟩) trivial
      refine ⟨rfl, ?_⟩
      rw [mathMax_number, number_lt_number]
      exact lt_of_lt_of_le (by norm_num) (le_max_left _ _)
    | aimThreshold =>
      refine iff_of_true (validateAction_aim.mpr ⟨hregion, { haim with threshold := ?_ }⟩) trivial
      obtain ⟨q, hq, hq'⟩ := exists_fraction entry
      exact ⟨q, by rw [hq, orElse_number], hq'⟩
    | aimGap => exact iff_of_true (validateAction_aim.mpr ⟨hregion, haim⟩) trivial
    | aimAds =>
      refine iff_of_true (validateAction_aim.mpr ⟨hregion, { haim with ads := ?_ }⟩) trivial
      exact fun _ _ => exists_fraction entry
    | aimReaffirm =>
      exact iff_of_true
        (validateAction_aim.mpr ⟨hregion, { haim with reaffirm := mathMax_one_ne_zero }⟩) trivial
    | _ => exact iff_of_true h trivial

end Enter

/-! ### Dragging -/

section Drags

variable {toLowerCase : String → String} {hypot : ℚ → ℚ → ℚ} {name : String} {snap : Bool}
  {start : PointerEvent}

theorem pointerPosition_x (event : PointerEvent) :
    (pointerPosition event).x = .number event.x := rfl

theorem pointerPosition_y (event : PointerEvent) :
    (pointerPosition event).y = .number event.y := rfl

/-- One move of a drag; nothing happens where the page throws. -/
def moveStep (hypot : ℚ → ℚ → ℚ) (drag : Drag) (action : PageAction) (move : Move) : PageAction :=
  (moveAction hypot move.snap drag (pointerPosition move.event) action).getD action

theorem kind_moveStep (drag : Drag) (action : PageAction) (move : Move) :
    (moveStep hypot drag action move).kind = action.kind := by
  obtain ⟨index, mode, start, before, original⟩ := drag
  cases mode <;> cases action <;> cases original <;> rfl

theorem kind_foldl_moveStep (drag : Drag) (moves : List Move) (action : PageAction) :
    (moves.foldl (moveStep hypot drag) action).kind = action.kind := by
  induction moves generalizing action with
  | nil => rfl
  | cons move moves ih => rw [List.foldl_cons, ih, kind_moveStep]

/-- A drag only ever sets the action of its binding. -/
theorem dragged_eq {profile : PageProfile} {binding : PageBinding} {drag : Drag}
    (hb : profile.bindings[drag.index]? = some binding) (moves : List Move) :
    dragged hypot drag moves profile =
      profile.setAction drag.index (moves.foldl (moveStep hypot drag) binding.action) := by
  induction moves generalizing profile binding with
  | nil => exact (PageProfile.setAction_self hb).symm
  | cons move moves ih =>
    have hstep : (moveDrag hypot move.snap move.event drag profile).getD profile =
        profile.setAction drag.index (moveStep hypot drag binding.action move) := by
      rw [moveDrag, hb, moveStep]
      cases h : moveAction hypot move.snap drag (pointerPosition move.event) binding.action with
      | none => simp [h, PageProfile.setAction_self hb]
      | some action => simp [h]
    have hfirst : dragged hypot drag (move :: moves) profile =
        dragged hypot drag moves
          ((moveDrag hypot move.snap move.event drag profile).getD profile) := rfl
    rw [hfirst, hstep, ih (PageProfile.getElem?_setAction hb _), PageProfile.setAction_setAction,
      List.foldl_cons]
    rfl

/-- What every move of a drag keeps, holds after all of them. -/
theorem foldl_moveStep_keeps {P : PageAction → Prop} {drag : Drag}
    (hkeep : ∀ action move, P action → P (moveStep hypot drag action move))
    {action : PageAction} (h : P action) (moves : List Move) :
    P (moves.foldl (moveStep hypot drag) action) := by
  induction moves generalizing action with
  | nil => exact h
  | cons move moves ih => exact ih (hkeep action move h)

/-- The drag that starts with this press on an action. -/
def dragOf (index : ℕ) (mode : DragMode) (start : PointerEvent) (before : PageProfile)
    (action : PageAction) : Drag :=
  ⟨index, mode, pointerPosition start, before, action.clone⟩

section Shapes

variable {index : ℕ} {before : PageProfile} {original : PageAction} {move : Move}

theorem finiteWithin_snapped_add {a : JsNumber} (ha : finiteWithin a 0 1) (dx : ℚ) :
    finiteWithin (snapped snap (a.clone + .number dx)) 0 1 := by
  obtain ⟨q, rfl, -⟩ := exists_of_finiteWithin ha
  rw [clone_number, number_add, snapped_number]
  exact finiteWithin_snapTo snap _

/-- A point that is dragged stays a point of the viewport. -/
theorem valid_dragged_point {point : PagePoint} (hx : finiteWithin point.x 0 1)
    (hy : finiteWithin point.y 0 1) (mode : DragMode) (moves : List Move)
    {make : PagePoint → PageAction} (hmake : make = .tap ∨ make = .hold) :
    ∃ p : PagePoint, (finiteWithin p.x 0 1 ∧ finiteWithin p.y 0 1) ∧
      moves.foldl (moveStep hypot (dragOf index mode start before (make point))) (make point) =
        make p := by
  refine foldl_moveStep_keeps (P := fun action => ∃ p : PagePoint,
    (finiteWithin p.x 0 1 ∧ finiteWithin p.y 0 1) ∧ action = make p) ?_ ⟨point, ⟨hx, hy⟩, rfl⟩ moves
  rintro _ move ⟨p, hp, rfl⟩
  cases mode with
  | resize =>
    rcases hmake with rfl | rfl
    · exact ⟨p, hp, rfl⟩
    · exact ⟨p, hp, rfl⟩
  | move =>
    rcases hmake with rfl | rfl
    · exact ⟨_, ⟨finiteWithin_snapped_add hx _, finiteWithin_snapped_add hy _⟩, rfl⟩
    · exact ⟨_, ⟨finiteWithin_snapped_add hx _, finiteWithin_snapped_add hy _⟩, rfl⟩

/-- A region after a move, whatever the moves before it did. -/
theorem moveStep_region_move {x y w h X Y : ℚ} {sensitivity : JsNumber}
    {toggleKey : Option String} {threshold gap ads reaffirmMs : JsNumber}
    (horiginal : original.region? = some ⟨.number x, .number y, .number w, .number h⟩) :
    moveStep hypot (dragOf index .move start before original)
        (.mouseAim ⟨.number X, .number Y, .number w, .number h⟩ sensitivity toggleKey threshold
          gap ads reaffirmMs) move =
      .mouseAim
        ⟨.number (snapTo move.snap (min (1 - w) (max 0 (x + (move.event.x - start.x))))),
          .number (snapTo move.snap (min (1 - h) (max 0 (y + (move.event.y - start.y))))),
          .number w, .number h⟩
        sensitivity toggleKey threshold gap ads reaffirmMs := by
  have hclone : original.clone.region? =
      some ⟨.number x, .number y, .number w, .number h⟩ := by
    cases original with
    | mouseAim region =>
      cases horiginal
      rfl
    | _ => cases horiginal
  simp only [moveStep, moveAction, dragOf, hclone, pointerPosition_x, pointerPosition_y,
    Option.map_some, Option.getD_some, number_sub, number_add, clamp_number, snapped_number]

theorem moveStep_region_resize {x y W H : ℚ} {sensitivity : JsNumber}
    {toggleKey : Option String} {threshold gap ads reaffirmMs : JsNumber} :
    moveStep hypot (dragOf index .resize start before original)
        (.mouseAim ⟨.number x, .number y, .number W, .number H⟩ sensitivity toggleKey threshold
          gap ads reaffirmMs) move =
      .mouseAim
        ⟨.number x, .number y,
          .number (snapTo move.snap (min (1 - x) (max (5 / 100) (move.event.x - x)))),
          .number (snapTo move.snap (min (1 - y) (max (5 / 100) (move.event.y - y))))⟩
        sensitivity toggleKey threshold gap ads reaffirmMs := by
  simp only [moveStep, moveAction, dragOf, pointerPosition_x, pointerPosition_y,
    Option.getD_some, number_sub, clamp_number, snapped_number]

/-- A joystick after a resize has a radius from the pointer and the dead zone that goes with
it. -/
theorem moveStep_stick_resize {center : PagePoint} {radius deadZone : JsNumber}
    {mode : Option String} {reaffirmMs : JsNumber} (hx : finiteWithin center.x 0 1)
    (hy : finiteWithin center.y 0 1) :
    ∃ t : ℚ, 1 / 100 ≤ t ∧ t ≤ 45 / 100 ∧
      moveStep hypot (dragOf index .resize start before original)
          (.virtualJoystick center radius deadZone mode reaffirmMs) move =
        .virtualJoystick center (rounded (.number t))
          (mathMin deadZone (rounded (rounded (.number t) - .number (1 / 1000)))) mode
          reaffirmMs := by
  obtain ⟨X, Y⟩ := center
  obtain ⟨x, rfl, -⟩ := exists_of_finiteWithin hx
  obtain ⟨y, rfl, -⟩ := exists_of_finiteWithin hy
  have hlow : ∀ v : ℚ, 1 / 100 ≤ min (45 / 100) (max (1 / 100) v) := fun v =>
    le_min (by norm_num) (le_max_left _ _)
  exact ⟨min (45 / 100) (max (1 / 100)
    (hypot (move.event.x * move.event.rect.width - x * move.event.rect.width)
      (move.event.y * move.event.rect.height - y * move.event.rect.height) /
        min move.event.rect.width move.event.rect.height)), hlow _, min_le_left _ _, rfl⟩

/-- A joystick that is moved keeps everything but its centre. -/
theorem valid_dragged_stick {center : PagePoint} {radius deadZone : JsNumber}
    {mode : Option String} {reaffirmMs : JsNumber} (hx : finiteWithin center.x 0 1)
    (hy : finiteWithin center.y 0 1) (moves : List Move) :
    ∃ c : PagePoint, (finiteWithin c.x 0 1 ∧ finiteWithin c.y 0 1) ∧
      moves.foldl (moveStep hypot (dragOf index .move start before
          (.virtualJoystick center radius deadZone mode reaffirmMs)))
          (.virtualJoystick center radius deadZone mode reaffirmMs) =
        .virtualJoystick c radius deadZone mode reaffirmMs := by
  refine foldl_moveStep_keeps (P := fun action => ∃ c : PagePoint,
    (finiteWithin c.x 0 1 ∧ finiteWithin c.y 0 1) ∧
      action = .virtualJoystick c radius deadZone mode reaffirmMs) ?_ ⟨center, ⟨hx, hy⟩, rfl⟩ moves
  rintro _ move ⟨c, hc, rfl⟩
  exact ⟨_, ⟨finiteWithin_snapped_add hx _, finiteWithin_snapped_add hy _⟩, rfl⟩

/-- A joystick that is resized: its dead zone stays fine if there is one, and is not-a-number
otherwise. -/
theorem resized_stick {center : PagePoint} {radius deadZone : JsNumber}
    {mode : Option String} {reaffirmMs : JsNumber} (hx : finiteWithin center.x 0 1)
    (hy : finiteWithin center.y 0 1) (hstick : StickFine radius deadZone) (moves : List Move)
    (last : Move) :
    ∃ r z, (StickFine r z ↔ deadZone ≠ .undefined) ∧
      (moves ++ [last]).foldl (moveStep hypot (dragOf index .resize start before original))
          (.virtualJoystick center radius deadZone mode reaffirmMs) =
        .virtualJoystick center r z mode reaffirmMs := by
  have hdecimal : ∀ t : ℚ, 1 / 100 ≤ t → t ≤ 45 / 100 →
      ((100 : ℕ) : ℚ) / 10 ^ 4 ≤ t ∧ t ≤ ((4500 : ℕ) : ℚ) / 10 ^ 4 := by
    intro t h₀ h₁
    constructor
    · norm_num
      linarith
    · norm_num
      linarith
  have hstep : ∀ r z move, ∃ t : ℚ, 1 / 100 ≤ t ∧ t ≤ 45 / 100 ∧
      moveStep hypot (dragOf index .resize start before original)
          (.virtualJoystick center r z mode reaffirmMs) move =
        .virtualJoystick center (rounded (.number t))
          (mathMin z (rounded (rounded (.number t) - .number (1 / 1000)))) mode reaffirmMs :=
    fun r z move => moveStep_stick_resize hx hy
  rw [List.foldl_append]
  by_cases hzone : deadZone = .undefined
  · -- Once a number was compared with the missing dead zone, it is not-a-number for good.
    have hnan : ∃ r z, (z = .undefined ∨ z = .nan) ∧
        moves.foldl (moveStep hypot (dragOf index .resize start before original))
            (.virtualJoystick center radius deadZone mode reaffirmMs) =
          .virtualJoystick center r z mode reaffirmMs := by
      refine foldl_moveStep_keeps (P := fun action => ∃ r z, (z = .undefined ∨ z = .nan) ∧
        action = .virtualJoystick center r z mode reaffirmMs) ?_ ⟨_, _, .inl hzone, rfl⟩ moves
      rintro _ move ⟨r, z, hz, rfl⟩
      obtain ⟨t, -, -, ht⟩ := hstep r z move
      refine ⟨_, _, .inr ?_, ht⟩
      rcases hz with rfl | rfl
      · rfl
      · rfl
    obtain ⟨r, z, hz, heq⟩ := hnan
    obtain ⟨t, -, -, ht⟩ := hstep r z last
    refine ⟨_, _, iff_of_false ?_ (not_not.mpr hzone), by rw [heq]; exact ht⟩
    rintro ⟨_, z', -, hz', -⟩
    rcases hz with rfl | rfl
    · cases hz'
    · cases hz'
  · have hkeep : ∃ r z, (StickFine r z ∧ z ≠ .undefined) ∧
        moves.foldl (moveStep hypot (dragOf index .resize start before original))
            (.virtualJoystick center radius deadZone mode reaffirmMs) =
          .virtualJoystick center r z mode reaffirmMs := by
      refine foldl_moveStep_keeps (P := fun action => ∃ r z, (StickFine r z ∧ z ≠ .undefined) ∧
        action = .virtualJoystick center r z mode reaffirmMs) ?_
        ⟨_, _, ⟨hstick, hzone⟩, rfl⟩ moves
      rintro _ move ⟨r, z, ⟨hfine, hz⟩, rfl⟩
      obtain ⟨t, h₀, h₁, ht⟩ := hstep r z move
      have hd := hdecimal t h₀ h₁
      have hfine' := (stickFine_resized (by norm_num) (by norm_num) hd.1 hd.2 hfine).mpr hz
      refine ⟨_, _, ⟨hfine', ?_⟩, ht⟩
      intro hu
      rw [hu] at hfine'
      cases z <;> cases hu
    obtain ⟨r, z, ⟨hfine, hz⟩, heq⟩ := hkeep
    obtain ⟨t, h₀, h₁, ht⟩ := hstep r z last
    have hd := hdecimal t h₀ h₁
    have hfine' := (stickFine_resized (by norm_num) (by norm_num) hd.1 hd.2 hfine).mpr hz
    exact ⟨_, _, iff_of_true hfine' hzone, by rw [heq]; exact ht⟩

end Shapes

/-- **Dragging keeps a valid action valid iff the last move fits.** -/
theorem validateAction_dragged {action : PageAction}
    (h : validateAction toLowerCase action name = []) (index : ℕ) (mode : DragMode)
    (before : PageProfile) (moves : List Move) :
    validateAction toLowerCase
        (moves.foldl (moveStep hypot (dragOf index mode start before action)) action) name = [] ↔
      ∀ last ∈ moves.getLast?, MoveFits mode start last action := by
  rcases List.eq_nil_or_concat moves with rfl | ⟨ms, last, rfl⟩
  · exact iff_of_true h (by simp)
  rw [List.concat_eq_append, List.getLast?_append]
  simp only [List.getLast?_singleton, Option.some_or, Option.mem_some_iff, forall_eq']
  cases action with
  | tap point =>
    obtain ⟨hx, hy⟩ := validatePoint_eq_nil.mp h
    obtain ⟨p, hp, heq⟩ := valid_dragged_point hx hy mode (ms ++ [last]) (.inl rfl)
    rw [heq]
    exact iff_of_true (validatePoint_eq_nil.mpr hp) trivial
  | hold point =>
    obtain ⟨hx, hy⟩ := validatePoint_eq_nil.mp h
    obtain ⟨p, hp, heq⟩ := valid_dragged_point hx hy mode (ms ++ [last]) (.inr rfl)
    rw [heq]
    exact iff_of_true (validatePoint_eq_nil.mpr hp) trivial
  | virtualJoystick center radius deadZone stickMode reaffirmMs =>
    obtain ⟨⟨hx, hy⟩, hstick, hreaffirm⟩ := validateAction_stick.mp h
    cases mode with
    | move =>
      obtain ⟨c, hc, heq⟩ := valid_dragged_stick hx hy (ms ++ [last])
      rw [heq]
      exact iff_of_true (validateAction_stick.mpr ⟨hc, hstick, hreaffirm⟩) (fun hm => by cases hm)
    | resize =>
      obtain ⟨r, z, hrz, heq⟩ := resized_stick hx hy hstick ms last
      rw [heq, validateAction_stick, hrz, and_iff_right ⟨hx, hy⟩, and_iff_left hreaffirm]
      exact ⟨fun hz _ => hz, fun hz => hz rfl⟩
  | mouseAim region sensitivity toggleKey threshold gap ads reaffirmMs =>
    obtain ⟨hregion, haim⟩ := validateAction_aim.mp h
    obtain ⟨x, y, w, hh, rfl, hx, hy⟩ := exists_of_validateRegion hregion
    rw [List.foldl_append, List.foldl_cons, List.foldl_nil]
    cases mode with
    | move =>
      -- The moves before the last one leave the size alone.
      have hkeep : ∃ X Y : ℚ,
          ms.foldl (moveStep hypot (dragOf index .move start before
              (.mouseAim ⟨.number x, .number y, .number w, .number hh⟩ sensitivity toggleKey
                threshold gap ads reaffirmMs)))
              (.mouseAim ⟨.number x, .number y, .number w, .number hh⟩ sensitivity toggleKey
                threshold gap ads reaffirmMs) =
            .mouseAim ⟨.number X, .number Y, .number w, .number hh⟩ sensitivity toggleKey
              threshold gap ads reaffirmMs := by
        refine foldl_moveStep_keeps (P := fun action => ∃ X Y : ℚ, action =
          .mouseAim ⟨.number X, .number Y, .number w, .number hh⟩ sensitivity toggleKey threshold
            gap ads reaffirmMs) ?_ ⟨x, y, rfl⟩ ms
        rintro _ move ⟨X, Y, rfl⟩
        exact ⟨_, _, moveStep_region_move rfl⟩
      obtain ⟨X, Y, heq⟩ := hkeep
      rw [heq, moveStep_region_move rfl, validateAction_aim, validateRegion_numbers,
        axisFine_snapTo_position last.snap hx, axisFine_snapTo_position last.snap hy,
        and_iff_left haim]
      rfl
    | resize =>
      -- The moves before the last one leave the position alone.
      have hkeep : ∃ W H : ℚ,
          ms.foldl (moveStep hypot (dragOf index .resize start before
              (.mouseAim ⟨.number x, .number y, .number w, .number hh⟩ sensitivity toggleKey
                threshold gap ads reaffirmMs)))
              (.mouseAim ⟨.number x, .number y, .number w, .number hh⟩ sensitivity toggleKey
                threshold gap ads reaffirmMs) =
            .mouseAim ⟨.number x, .number y, .number W, .number H⟩ sensitivity toggleKey
              threshold gap ads reaffirmMs := by
        refine foldl_moveStep_keeps (P := fun action => ∃ W H : ℚ, action =
          .mouseAim ⟨.number x, .number y, .number W, .number H⟩ sensitivity toggleKey threshold
            gap ads reaffirmMs) ?_ ⟨w, hh, rfl⟩ ms
        rintro _ move ⟨W, H, rfl⟩
        exact ⟨_, _, moveStep_region_resize⟩
      obtain ⟨W, H, heq⟩ := hkeep
      have hroom : (5 : ℚ) / 1000 ≤ 5 / 100 := by norm_num
      rw [heq, moveStep_region_resize, validateAction_aim, validateRegion_numbers,
        axisFine_snapTo_size last.snap hx (le_trans hroom (le_max_left _ _)),
        axisFine_snapTo_size last.snap hy (le_trans hroom (le_max_left _ _)), and_iff_left haim]
      rfl
  | macroSteps steps =>
    have hkeep : (ms ++ [last]).foldl
        (moveStep hypot (dragOf index mode start before (.macroSteps steps)))
        (.macroSteps steps) = .macroSteps steps := by
      refine foldl_moveStep_keeps (P := fun action => action = .macroSteps steps) ?_ rfl _
      rintro _ move rfl
      cases mode <;> rfl
    rw [hkeep]
    exact iff_of_true h trivial

end Drags

/-! ### Manipulations -/

/-- **A valid profile stays valid exactly under the manipulations that fit.** -/
theorem manipulation_keeps_valid_iff (toLowerCase : String → String) (hypot : ℚ → ℚ → ℚ)
    (profile : PageProfile) (manipulation : Manipulation)
    (h : validateProfile toLowerCase profile = []) :
    validateProfile toLowerCase (manipulation.perform hypot profile) = [] ↔
      manipulation.Fits profile := by
  cases manipulation with
  | drag index mode start moves =>
    cases hb : profile.bindings[index]? with
    | none =>
      have hperform : (Manipulation.drag index mode start moves).perform hypot profile =
          profile := by
        simp only [Manipulation.perform, beginDrag, hb, Option.map_none]
      rw [hperform]
      exact iff_of_true h (by simp [Manipulation.Fits, hb])
    | some binding =>
      have hperform : (Manipulation.drag index mode start moves).perform hypot profile =
          dragged hypot (dragOf index mode start profile.clone binding.action) moves profile := by
        simp only [Manipulation.perform, beginDrag, hb, Option.map_some]
        rfl
      have hdragged : dragged hypot (dragOf index mode start profile.clone binding.action) moves
            profile =
          profile.setAction index
            (moves.foldl (moveStep hypot (dragOf index mode start profile.clone binding.action))
              binding.action) :=
        dragged_eq hb moves
      rw [hperform, hdragged, validateProfile_setAction hb (kind_foldl_moveStep _ _ _) h,
        validateAction_dragged (validateAction_of_valid hb h)]
      simp [Manipulation.Fits, hb]
  | enter index field entry =>
    cases hb : profile.bindings[index]? with
    | none =>
      have hperform : (Manipulation.enter index field entry).perform hypot profile = profile := by
        simp only [Manipulation.perform, hb]
      rw [hperform]
      exact iff_of_true h (by simp [Manipulation.Fits, hb])
    | some binding =>
      have hperform : (Manipulation.enter index field entry).perform hypot profile =
          profile.setAction index (wireInspector field (.number entry) binding.action) := by
        simp only [Manipulation.perform, hb]
      rw [hperform, validateProfile_setAction hb (kind_wireInspector _ _ _) h,
        validateAction_wireInspector (validateAction_of_valid hb h)]
      simp [Manipulation.Fits, hb]

/-- A viewport of 1600 by 900. -/
def viewport : DOMRect := ⟨0, 0, 1600, 900, by norm_num, by norm_num⟩

/-- One binding of the base layer. -/
def singleBinding (input : InputV2) (action : PageAction) : PageProfile :=
  ⟨some 2, "Demo", "com.example.demo", "landscape", [], [⟨"control", none, none, input, action⟩]⟩

/-- An aim region of this width. -/
def aimRegion (w : ℚ) : PageProfile :=
  singleBinding .mouseMove
    (.mouseAim ⟨.number (1 / 10), .number (8 / 100), .number w, .number (7 / 10)⟩ (.number 1)
      (some "tab") (.number (7 / 10)) (.number 0) (.number (6 / 10)) (.number 50))

/-- A joystick with this dead zone. -/
def joystick (deadZone : JsNumber) : PageProfile :=
  singleBinding (.keyCluster "w" "a" "s" "d")
    (.virtualJoystick ⟨.number (2 / 10), .number (75 / 100)⟩ (.number (1 / 10)) deadZone
      (some "hold") (.number 50))

/-- A drag of the first control by 1200 pixels to the right. -/
def dragRight (mode : DragMode) : Manipulation :=
  .drag 0 mode ⟨200, 100, viewport⟩ [⟨true, ⟨1400, 100, viewport⟩⟩]

theorem manipulation_keeps_valid_aim :
    validateProfile asciiLower (aimRegion (58 / 100)) = [] ∧
      (validateProfile asciiLower ((dragRight .move).perform max (aimRegion (58 / 100))) = [] ↔
        (dragRight .move).Fits (aimRegion (58 / 100))) :=
  ⟨by decide +kernel, manipulation_keeps_valid_iff asciiLower max _ _ (by decide +kernel)⟩

/-- A region that is 0.332 wide is snapped past the right edge, and resizing a joystick whose
dead zone is missing makes it not-a-number. -/
theorem grid_leaves_viewport :
    ¬ ∀ (hypot : ℚ → ℚ → ℚ) (profile : PageProfile) (manipulation : Manipulation),
      validateProfile asciiLower profile = [] →
      validateProfile asciiLower (manipulation.perform hypot profile) = [] := by
  intro h
  have hvalid : validateProfile asciiLower (aimRegion (332 / 1000)) = [] := by decide +kernel
  have hmoved : validateProfile asciiLower
      ((dragRight .move).perform max (aimRegion (332 / 1000))) ≠ [] := by decide +kernel
  exact hmoved (h max _ _ hvalid)

example : validateProfile asciiLower ((dragRight .resize).perform max (joystick .undefined)) ≠ [] :=
  by decide +kernel

end Wroid.Page
