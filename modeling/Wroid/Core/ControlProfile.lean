import Wroid.Core.Geometry
import Wroid.Lib.Checks
import Wroid.Lib.Text

/-!
# Control profiles in pixels

The first profile format of `wroid-core`: bindings at pixels of one resolution, how such a profile
is validated, and how it is scaled to another resolution.

Scaling rounds a quotient of 128-bit products.  It is stated twice: as the numbers it computes,
and with every product, sum and difference checked against the width of its type.

## Main definitions

* `ControlProfile`, `BindingAction` — the profile and what its bindings do.
* `ControlProfile.validate` — the checks of the source.
* `scaleAxis`, `scaleRadiusAverage`, `scaleProfile` — scaling.
* `checkedScaleProfile` — scaling, with every intermediate value checked.

## Main results

* `validate_eq_ok` — which profiles are accepted.
* `scaleAxis_mono`, `scaleAxis_near`, `scaleAxis_back` — one coordinate.
* `scaling_is_sound` — **an accepted profile stays accepted, nothing overflows, and what is scaled
  up comes back**.
-/

namespace Wroid

open Lib

/-! ### Profiles -/

inductive BindingInput
  | key (key : String)
  | keyCluster (up left down right : String)
  | mouseButton (button : String)
  deriving DecidableEq, Repr

inductive BindingAction
  | tap (point : Point)
  | swipe (start target : Point) (durationMs : ℕ)
  | virtualJoystick (center : Point) (radius tickMs swipeDurationMs : ℕ)
  | mouseAim (anchor : Point)
  | steps (steps : List BindingAction)

structure Binding where
  name : String
  input : BindingInput
  action : BindingAction

structure ControlProfile where
  name : String
  packageName : String
  resolution : Resolution
  bindings : List Binding

/-! ### Validation -/

inductive ValidationError
  | emptyProfileName
  | emptyPackageName
  | invalidResolution (width height : ℕ)
  | emptyBindingName
  | duplicateBindingName (name : String)
  | emptyInputValue (binding : String)
  | pointOutOfBounds (binding : String) (point : Point) (resolution : Resolution)
  | zeroSwipeDuration (binding : String)
  | zeroJoystickRadius (binding : String)
  | zeroJoystickTick (binding : String)
  | zeroJoystickSwipeDuration (binding : String)
  | unsupportedAction (binding kind : String)
  deriving DecidableEq, Repr

def ValidationError.text : ValidationError → String
  | .emptyProfileName => "profile name must not be empty"
  | .emptyPackageName => "package name must not be empty"
  | .invalidResolution width height => s!"resolution must be non-zero, got {width}x{height}"
  | .emptyBindingName => "binding name must not be empty"
  | .duplicateBindingName name => s!"duplicate binding name: {name}"
  | .emptyInputValue binding => s!"binding {binding} has an empty input value"
  | .pointOutOfBounds binding point resolution =>
    s!"binding {binding} has point {point.x},{point.y} outside {resolution.width}x{resolution.height}"
  | .zeroSwipeDuration binding => s!"binding {binding} has a swipe duration of zero"
  | .zeroJoystickRadius binding => s!"binding {binding} has a virtual joystick radius of zero"
  | .zeroJoystickTick binding => s!"binding {binding} has a virtual joystick tick interval of zero"
  | .zeroJoystickSwipeDuration binding =>
    s!"binding {binding} has a virtual joystick swipe duration of zero"
  | .unsupportedAction binding kind => s!"binding {binding} uses unsupported action kind: {kind}"

namespace ControlProfile

def blank (text : String) : Bool := trim rustBlank text = ""

def validateInput (input : BindingInput) (binding : String) : List ValidationError :=
  match input with
  | .key key => errorIf (blank key) (.emptyInputValue binding)
  | .keyCluster up left down right =>
    errorIf ([up, left, down, right].any blank) (.emptyInputValue binding)
  | .mouseButton button => errorIf (blank button) (.emptyInputValue binding)

def validatePoint (point : Point) (binding : String) (resolution : Resolution) :
    List ValidationError :=
  errorIf (resolution.width ≤ point.x ∨ resolution.height ≤ point.y)
    (.pointOutOfBounds binding point resolution)

def validateAction (action : BindingAction) (binding : String) (resolution : Resolution) :
    List ValidationError :=
  match action with
  | .tap point => validatePoint point binding resolution
  | .swipe start target durationMs =>
    validatePoint start binding resolution ++ validatePoint target binding resolution ++
      errorIf (durationMs = 0) (.zeroSwipeDuration binding)
  | .virtualJoystick center radius tickMs swipeDurationMs =>
    validatePoint center binding resolution ++
      errorIf (radius = 0) (.zeroJoystickRadius binding) ++
      errorIf (tickMs = 0) (.zeroJoystickTick binding) ++
      errorIf (swipeDurationMs = 0) (.zeroJoystickSwipeDuration binding)
  | .mouseAim _ => [.unsupportedAction binding "mouse_aim"]
  | .steps _ => [.unsupportedAction binding "macro"]

/-- One binding, after the names seen before it. -/
def validateBinding (resolution : Resolution) (names : List String) (binding : Binding) :
    List ValidationError × List String :=
  let name := trim rustBlank binding.name
  let rest := validateInput binding.input binding.name ++
    validateAction binding.action binding.name resolution
  if name = "" then (.emptyBindingName :: rest, names)
  else if name ∈ names then (.duplicateBindingName binding.name :: rest, names)
  else (rest, name :: names)

def validationErrors (profile : ControlProfile) : List ValidationError :=
  errorIf (blank profile.name) .emptyProfileName ++
    errorIf (blank profile.packageName) .emptyPackageName ++
    errorIf (profile.resolution.width = 0 ∨ profile.resolution.height = 0)
      (.invalidResolution profile.resolution.width profile.resolution.height) ++
    (scan (validateBinding profile.resolution) profile.bindings []).1

def validate (profile : ControlProfile) : Except (List ValidationError) Unit :=
  if profile.validationErrors = [] then .ok () else .error profile.validationErrors

end ControlProfile

/-! ### Scaling -/

/-- `as u32` -/
def asU32 (n : ℕ) : ℕ := n % (u32Max + 1)

def scaleAxis (value start target : ℕ) : ℕ :=
  if start = 0 ∨ target = 0 then 0
  else asU32 (min ((value * target + start / 2) / start) (target - 1))

def scalePoint (point : Point) (start target : Resolution) : Point where
  x := scaleAxis point.x start.width target.width
  y := scaleAxis point.y start.height target.height

/-- The radius is one number, so it is scaled by the average of the two factors. -/
def scaleRadiusAverage (radius : ℕ) (start target : Resolution) : ℕ :=
  if radius = 0 ∨ start.width = 0 ∨ start.height = 0 ∨ target.width = 0 ∨ target.height = 0 then 0
  else
    let numerator := radius * (target.width * start.height + target.height * start.width)
    let denominator := 2 * start.width * start.height
    let scaled := (numerator + denominator / 2) / denominator
    asU32 (min (max scaled 1) u32Max)

def scaleAction (action : BindingAction) (start target : Resolution) : BindingAction :=
  match action with
  | .tap point => .tap (scalePoint point start target)
  | .swipe first last durationMs =>
    .swipe (scalePoint first start target) (scalePoint last start target) durationMs
  | .virtualJoystick center radius tickMs swipeDurationMs =>
    .virtualJoystick (scalePoint center start target) (scaleRadiusAverage radius start target)
      tickMs swipeDurationMs
  | .mouseAim anchor => .mouseAim anchor
  | .steps steps => .steps steps

def scaleProfile (profile : ControlProfile) (resolution : Resolution) : ControlProfile :=
  { profile with
    resolution
    bindings := profile.bindings.map fun binding =>
      { binding with action := scaleAction binding.action profile.resolution resolution } }

/-! ### Scaling with checks -/

def u128Max : ℕ := 340282366920938463463374607431768211455

/-- A value of 128 bits, if it fits. -/
def checkedU128 (n : ℕ) : Option ℕ := if n ≤ u128Max then some n else none

def checkedSubU32 (n k : ℕ) : Option ℕ := if k ≤ n then some (n - k) else none

def checkedScaleAxis (value start target : ℕ) : Option ℕ :=
  if start = 0 ∨ target = 0 then some 0
  else do
    let product ← checkedU128 (value * target)
    let sum ← checkedU128 (product + start / 2)
    let last ← checkedSubU32 target 1
    return asU32 (min (sum / start) last)

def checkedScalePoint (point : Point) (start target : Resolution) : Option Point := do
  let x ← checkedScaleAxis point.x start.width target.width
  let y ← checkedScaleAxis point.y start.height target.height
  return ⟨x, y⟩

def checkedScaleRadiusAverage (radius : ℕ) (start target : Resolution) : Option ℕ :=
  if radius = 0 ∨ start.width = 0 ∨ start.height = 0 ∨ target.width = 0 ∨ target.height = 0 then
    some 0
  else do
    let across ← checkedU128 (target.width * start.height)
    let down ← checkedU128 (target.height * start.width)
    let factors ← checkedU128 (across + down)
    let numerator ← checkedU128 (radius * factors)
    let double ← checkedU128 (2 * start.width)
    let denominator ← checkedU128 (double * start.height)
    let sum ← checkedU128 (numerator + denominator / 2)
    return asU32 (min (max (sum / denominator) 1) u32Max)

def checkedScaleAction (action : BindingAction) (start target : Resolution) :
    Option BindingAction :=
  match action with
  | .tap point => (checkedScalePoint point start target).map .tap
  | .swipe first last durationMs => do
    let first ← checkedScalePoint first start target
    let last ← checkedScalePoint last start target
    return .swipe first last durationMs
  | .virtualJoystick center radius tickMs swipeDurationMs => do
    let center ← checkedScalePoint center start target
    let radius ← checkedScaleRadiusAverage radius start target
    return .virtualJoystick center radius tickMs swipeDurationMs
  | .mouseAim anchor => some (.mouseAim anchor)
  | .steps steps => some (.steps steps)

def checkedScaleProfile (profile : ControlProfile) (resolution : Resolution) :
    Option ControlProfile := do
  let bindings ← profile.bindings.mapM fun binding => do
    let action ← checkedScaleAction binding.action profile.resolution resolution
    return { binding with action }
  return { profile with resolution, bindings }

/-! ### One coordinate -/

section Axis

variable {value start target : ℕ}

/-- What is left of scaling once nothing is zero or too large. -/
theorem scaleAxis_eq (hstart : 0 < start) (htarget : 0 < target) (hmax : target ≤ u32Max) :
    scaleAxis value start target = min ((value * target + start / 2) / start) (target - 1) := by
  have hzero : ¬ (start = 0 ∨ target = 0) := by omega
  rw [scaleAxis, if_neg hzero, asU32, Nat.mod_eq_of_lt]
  omega

theorem scaleAxis_lt (hstart : 0 < start) (htarget : 0 < target) (hmax : target ≤ u32Max) :
    scaleAxis value start target < target := by
  rw [scaleAxis_eq hstart htarget hmax]
  omega

theorem scaleAxis_self (hvalue : value < start) (hmax : start ≤ u32Max) :
    scaleAxis value start start = value := by
  have hstart : 0 < start := by omega
  have hquotient : (value * start + start / 2) / start = value := by
    rw [mul_comm, Nat.mul_add_div hstart, Nat.div_eq_of_lt (Nat.div_lt_self hstart (by decide)),
      add_zero]
  rw [scaleAxis_eq hstart hstart hmax, hquotient]
  omega

/-- **A larger coordinate is not scaled to a smaller one.** -/
theorem scaleAxis_mono {value' : ℕ} (hstart : 0 < start) (htarget : 0 < target)
    (hmax : target ≤ u32Max) (hle : value ≤ value') :
    scaleAxis value start target ≤ scaleAxis value' start target := by
  rw [scaleAxis_eq hstart htarget hmax, scaleAxis_eq hstart htarget hmax]
  have hproduct : value * target ≤ value' * target := Nat.mul_le_mul_right target hle
  have hquotient : (value * target + start / 2) / start ≤ (value' * target + start / 2) / start :=
    Nat.div_le_div_right (by omega)
  omega

/-- The rounded quotient is between the halves on both sides of the exact one. -/
theorem rounded_bounds (hstart : 0 < start) :
    2 * ((value * target + start / 2) / start * start) ≤ 2 * (value * target) + start ∧
      2 * (value * target) < 2 * ((value * target + start / 2) / start * start) + start := by
  have hle := Nat.div_mul_le_self (value * target + start / 2) start
  have hlt := Nat.lt_div_mul_add hstart (a := value * target + start / 2)
  omega

/-- A scaled coordinate is within half a pixel of the exact one, or it is the last pixel and the
exact one is beyond it. -/
def NearExact (scaled value start target : ℕ) : Prop :=
  |(scaled : ℚ) - value * target / start| ≤ 1 / 2 ∨
    scaled = target - 1 ∧ (target - 1 : ℚ) < value * target / start

theorem scaleAxis_near (hstart : 0 < start) (htarget : 0 < target) (hmax : target ≤ u32Max) :
    NearExact (scaleAxis value start target) value start target := by
  unfold NearExact
  obtain ⟨hle, hlt⟩ := @rounded_bounds value start target hstart
  rw [scaleAxis_eq hstart htarget hmax]
  generalize (value * target + start / 2) / start = rounded at *
  have hpos : (0 : ℚ) < start := by exact_mod_cast hstart
  have hle' : 2 * ((rounded : ℚ) * start) ≤ 2 * (value * target) + start := by exact_mod_cast hle
  have hlt' : 2 * ((value : ℚ) * target) < 2 * (rounded * start) + start := by exact_mod_cast hlt
  by_cases hclamped : rounded ≤ target - 1
  · left
    have habove : (value * target / start : ℚ) ≤ rounded + 1 / 2 := by
      rw [div_le_iff₀ hpos]
      linarith
    have hbelow : (rounded : ℚ) - 1 / 2 ≤ value * target / start := by
      rw [le_div_iff₀ hpos]
      linarith
    rw [min_eq_left hclamped, abs_le]
    constructor <;> linarith
  · right
    have hlast : (target : ℚ) ≤ rounded := by
      have : target ≤ rounded := by omega
      exact_mod_cast this
    have hscaled : (target : ℚ) * start ≤ rounded * start := mul_le_mul_of_nonneg_right hlast hpos.le
    refine ⟨min_eq_right (by omega), ?_⟩
    rw [lt_div_iff₀ hpos]
    linarith

/-- **A coordinate that is scaled up comes back.** -/
theorem scaleAxis_back (hvalue : value < start) (hup : start ≤ target) (hmax : target ≤ u32Max) :
    scaleAxis (scaleAxis value start target) target start = value := by
  have hstart : 0 < start := by omega
  rcases hup.eq_or_lt with rfl | hlt
  · rw [scaleAxis_self hvalue hmax, scaleAxis_self hvalue hmax]
  rw [scaleAxis_eq hstart (by omega) hmax, scaleAxis_eq (by omega) hstart (by omega)]
  have hle := Nat.div_mul_le_self (value * target + start / 2) start
  have hgt := Nat.lt_div_mul_add hstart (a := value * target + start / 2)
  generalize (value * target + start / 2) / start = rounded at *
  -- the last pixel is not reached, so nothing is clamped on the way up
  have hlast : value * target + target ≤ start * target := by
    rw [← Nat.succ_mul]
    exact Nat.mul_le_mul_right target hvalue
  have hunclamped : rounded < target := by
    have hproduct : rounded * start < target * start := by
      rw [mul_comm target start]
      omega
    exact lt_of_mul_lt_mul_right hproduct (Nat.zero_le _)
  have hmin : min rounded (target - 1) = rounded := by omega
  rw [hmin]
  have hback : (rounded * start + target / 2) / target = value := by
    refine Nat.div_eq_of_lt_le ?_ ?_
    · omega
    · rw [Nat.succ_mul]
      omega
  rw [hback]
  omega

end Axis

/-! ### Profiles are accepted -/

/-- The radius of a joystick fits its type. -/
def BindingAction.Typed (action : BindingAction) : Prop :=
  ∀ center radius tickMs swipeDurationMs,
    action = .virtualJoystick center radius tickMs swipeDurationMs → radius ≤ u32Max

/-- The numbers of the profile fit their types. -/
structure ControlProfile.Typed (profile : ControlProfile) : Prop where
  width : profile.resolution.width ≤ u32Max
  height : profile.resolution.height ≤ u32Max
  actions : ∀ binding ∈ profile.bindings, binding.action.Typed

namespace BindingAction

/-- The action passes its checks. -/
def Fine (action : BindingAction) (resolution : Resolution) : Prop :=
  match action with
  | .tap point => point.Inside resolution
  | .swipe start target durationMs =>
    start.Inside resolution ∧ target.Inside resolution ∧ durationMs ≠ 0
  | .virtualJoystick center radius tickMs swipeDurationMs =>
    center.Inside resolution ∧ radius ≠ 0 ∧ tickMs ≠ 0 ∧ swipeDurationMs ≠ 0
  | .mouseAim _ | .steps _ => False

/-- The coordinates of the action that are scaled. -/
def points : BindingAction → List Point
  | .tap point => [point]
  | .swipe start target _ => [start, target]
  | .virtualJoystick center _ _ _ => [center]
  | .mouseAim _ | .steps _ => []

end BindingAction

namespace ControlProfile

theorem validatePoint_eq_nil {point : Point} {binding : String} {resolution : Resolution} :
    validatePoint point binding resolution = [] ↔ point.Inside resolution := by
  rw [validatePoint, errorIf_eq_nil, not_or, not_le, not_le]
  rfl

theorem validateAction_eq_nil {action : BindingAction} {binding : String}
    {resolution : Resolution} :
    validateAction action binding resolution = [] ↔ action.Fine resolution := by
  cases action with
  | tap point => exact validatePoint_eq_nil
  | swipe start target durationMs =>
    simp only [validateAction, List.append_eq_nil_iff, validatePoint_eq_nil, errorIf_eq_nil,
      BindingAction.Fine, and_assoc, ne_eq]
  | virtualJoystick center radius tickMs swipeDurationMs =>
    simp only [validateAction, List.append_eq_nil_iff, validatePoint_eq_nil, errorIf_eq_nil,
      BindingAction.Fine, and_assoc, ne_eq]
  | mouseAim anchor => simp [validateAction, BindingAction.Fine]
  | steps steps => simp [validateAction, BindingAction.Fine]

/-- A binding passes its checks, apart from its name having been used. -/
def BindingFine (resolution : Resolution) (binding : Binding) : Prop :=
  trim rustBlank binding.name ≠ "" ∧ validateInput binding.input binding.name = [] ∧
    binding.action.Fine resolution

theorem scan_validateBinding_eq_nil {resolution : Resolution} {bindings : List Binding} :
    (scan (validateBinding resolution) bindings []).1 = [] ↔
      (∀ binding ∈ bindings, BindingFine resolution binding) ∧
        bindings.Pairwise fun a b => trim rustBlank a.name ≠ trim rustBlank b.name := by
  have hstep : ∀ (names : List String) (binding : Binding),
      (validateBinding resolution names binding).1 = [] ↔ BindingFine resolution binding ∧
        ∀ name ∈ ({trim rustBlank binding.name} : Set String), ¬ name ∈ names := by
    intro names binding
    simp only [validateBinding, BindingFine, Set.mem_singleton_iff, forall_eq]
    split_ifs with hblank hseen
    · simp [hblank]
    · simp [hseen]
    · simp [hblank, hseen, validateAction_eq_nil]
  have hseen : ∀ (names : List String) (binding : Binding),
      (validateBinding resolution names binding).1 = [] → ∀ name,
        name ∈ (validateBinding resolution names binding).2 ↔
          name ∈ names ∨ name ∈ ({trim rustBlank binding.name} : Set String) := by
    intro names binding hnil name
    obtain ⟨⟨hblank, -⟩, hnew⟩ := (hstep names binding).mp hnil
    have hunseen := hnew _ rfl
    rw [validateBinding, if_neg hblank, if_neg hunseen]
    simp [or_comm]
  rw [scan_eq_nil (fun names name => name ∈ names) (BindingFine resolution)
    (fun binding => ({trim rustBlank binding.name} : Set String)) hstep hseen]
  simp

/-- **Which profiles are accepted.** -/
theorem validate_eq_ok {profile : ControlProfile} : profile.validate = .ok () ↔
    blank profile.name = false ∧ blank profile.packageName = false ∧
      0 < profile.resolution.width ∧ 0 < profile.resolution.height ∧
      (∀ binding ∈ profile.bindings, BindingFine profile.resolution binding) ∧
      profile.bindings.Pairwise fun a b => trim rustBlank a.name ≠ trim rustBlank b.name := by
  have hnil : profile.validate = .ok () ↔ profile.validationErrors = [] := by
    unfold validate
    split_ifs with h
    · simp [h]
    · simp [h]
  rw [hnil]
  simp only [validationErrors, List.append_eq_nil_iff, errorIf_eq_nil, not_or, Bool.not_eq_true,
    scan_validateBinding_eq_nil, Nat.pos_iff_ne_zero, and_assoc]

end ControlProfile

/-! ### The radius -/

section Radius

variable {radius : ℕ} {start target : Resolution}

theorem scaleRadiusAverage_pos (hradius : radius ≠ 0) (hstart : 0 < start.width ∧ 0 < start.height)
    (htarget : 0 < target.width ∧ 0 < target.height) :
    scaleRadiusAverage radius start target ≠ 0 := by
  have hzero : ¬ (radius = 0 ∨ start.width = 0 ∨ start.height = 0 ∨ target.width = 0 ∨
      target.height = 0) := by omega
  rw [scaleRadiusAverage, if_neg hzero, asU32, Nat.mod_eq_of_lt]
  · have : 1 ≤ u32Max := by decide
    omega
  · omega

theorem scaleRadiusAverage_self (hradius : radius ≠ 0) (hmax : radius ≤ u32Max)
    (hstart : 0 < start.width ∧ 0 < start.height) :
    scaleRadiusAverage radius start start = radius := by
  have hzero : ¬ (radius = 0 ∨ start.width = 0 ∨ start.height = 0 ∨ start.width = 0 ∨
      start.height = 0) := by omega
  -- both factors are one, so numerator and denominator differ by the radius only
  have hfactors : start.width * start.height + start.height * start.width =
      2 * start.width * start.height := by ring
  have hpos : 0 < 2 * start.width * start.height :=
    Nat.mul_pos (Nat.mul_pos two_pos hstart.1) hstart.2
  rw [scaleRadiusAverage, if_neg hzero, asU32, hfactors]
  generalize 2 * start.width * start.height = denominator at *
  have hquotient : (radius * denominator + denominator / 2) / denominator = radius := by
    rw [mul_comm, Nat.mul_add_div hpos, Nat.div_eq_of_lt (Nat.div_lt_self hpos (by decide)),
      add_zero]
  simp only [hquotient]
  rw [Nat.mod_eq_of_lt]
  all_goals omega

end Radius

/-! ### Nothing overflows -/

theorem checkedU128_of_le {n : ℕ} (h : n ≤ u128Max) : checkedU128 n = some n := if_pos h

theorem mul_u32_le {n k : ℕ} (hn : n ≤ u32Max) (hk : k ≤ u32Max) : n * k ≤ u32Max * u32Max :=
  Nat.mul_le_mul hn hk

section Checked

variable {start target : Resolution}

theorem checkedScaleAxis_eq {value start target : ℕ} (hvalue : value ≤ u32Max)
    (hstart : start ≤ u32Max) (htarget : target ≤ u32Max) :
    checkedScaleAxis value start target = some (scaleAxis value start target) := by
  have hproduct := mul_u32_le hvalue htarget
  have hwide : u32Max * u32Max + u32Max ≤ u128Max := by decide
  unfold checkedScaleAxis scaleAxis
  split_ifs with hzero
  · rfl
  · have hlast : checkedSubU32 target 1 = some (target - 1) := if_pos (by omega)
    rw [checkedU128_of_le (by omega), Option.bind_eq_bind, Option.bind_some,
      checkedU128_of_le (by omega), Option.bind_some, hlast, Option.bind_some]
    rfl

theorem checkedScalePoint_eq {point : Point} (hpoint : point.x ≤ u32Max ∧ point.y ≤ u32Max)
    (hstart : start.width ≤ u32Max ∧ start.height ≤ u32Max)
    (htarget : target.width ≤ u32Max ∧ target.height ≤ u32Max) :
    checkedScalePoint point start target = some (scalePoint point start target) := by
  rw [checkedScalePoint, checkedScaleAxis_eq hpoint.1 hstart.1 htarget.1,
    checkedScaleAxis_eq hpoint.2 hstart.2 htarget.2]
  rfl

theorem checkedScaleRadiusAverage_eq {radius : ℕ} (hradius : radius ≤ u32Max)
    (hstart : start.width ≤ u32Max ∧ start.height ≤ u32Max)
    (htarget : target.width ≤ u32Max ∧ target.height ≤ u32Max) :
    checkedScaleRadiusAverage radius start target =
      some (scaleRadiusAverage radius start target) := by
  have hacross := mul_u32_le htarget.1 hstart.2
  have hdown := mul_u32_le htarget.2 hstart.1
  have hnumerator : radius * (target.width * start.height + target.height * start.width) ≤
      u32Max * (u32Max * u32Max + u32Max * u32Max) :=
    Nat.mul_le_mul hradius (Nat.add_le_add hacross hdown)
  have hdenominator : 2 * start.width * start.height ≤ 2 * (u32Max * u32Max) := by
    rw [mul_assoc]
    exact Nat.mul_le_mul_left 2 (mul_u32_le hstart.1 hstart.2)
  have hwide : u32Max * (u32Max * u32Max + u32Max * u32Max) + 2 * (u32Max * u32Max) ≤ u128Max := by
    decide
  have hdouble : 2 * u32Max ≤ u128Max := by decide
  have hfactors : u32Max * u32Max + u32Max * u32Max ≤ u128Max := by decide
  unfold checkedScaleRadiusAverage scaleRadiusAverage
  split_ifs with hzero
  · rfl
  · simp only [Option.bind_eq_bind]
    rw [checkedU128_of_le (by omega), Option.bind_some, checkedU128_of_le (by omega),
      Option.bind_some, checkedU128_of_le (by omega), Option.bind_some,
      checkedU128_of_le (by omega), Option.bind_some, checkedU128_of_le (by omega),
      Option.bind_some, checkedU128_of_le (by omega), Option.bind_some,
      checkedU128_of_le (by omega), Option.bind_some]
    rfl

end Checked

/-! ### One action -/

section Action

variable {start target : Resolution} {action : BindingAction}

theorem scalePoint_inside {point : Point} (hstart : 0 < start.width ∧ 0 < start.height)
    (htarget : 0 < target.width ∧ 0 < target.height)
    (hmax : target.width ≤ u32Max ∧ target.height ≤ u32Max) :
    (scalePoint point start target).Inside target :=
  ⟨scaleAxis_lt hstart.1 htarget.1 hmax.1, scaleAxis_lt hstart.2 htarget.2 hmax.2⟩

theorem scalePoint_self {point : Point} (hpoint : point.Inside start)
    (hmax : start.width ≤ u32Max ∧ start.height ≤ u32Max) : scalePoint point start start = point := by
  rw [scalePoint, scaleAxis_self hpoint.1 hmax.1, scaleAxis_self hpoint.2 hmax.2]

theorem scalePoint_back {point : Point} (hpoint : point.Inside start)
    (hup : start.width ≤ target.width ∧ start.height ≤ target.height)
    (hmax : target.width ≤ u32Max ∧ target.height ≤ u32Max) :
    scalePoint (scalePoint point start target) target start = point := by
  rw [scalePoint, scalePoint, scaleAxis_back hpoint.1 hup.1 hmax.1,
    scaleAxis_back hpoint.2 hup.2 hmax.2]

theorem scaleAction_fine (hfine : action.Fine start) (hstart : 0 < start.width ∧ 0 < start.height)
    (htarget : 0 < target.width ∧ 0 < target.height)
    (hmax : target.width ≤ u32Max ∧ target.height ≤ u32Max) :
    (scaleAction action start target).Fine target := by
  cases action with
  | tap point => exact scalePoint_inside hstart htarget hmax
  | swipe first last durationMs =>
    exact ⟨scalePoint_inside hstart htarget hmax, scalePoint_inside hstart htarget hmax,
      hfine.2.2⟩
  | virtualJoystick center radius tickMs swipeDurationMs =>
    exact ⟨scalePoint_inside hstart htarget hmax,
      scaleRadiusAverage_pos hfine.2.1 hstart htarget, hfine.2.2⟩
  | mouseAim anchor => exact hfine.elim
  | steps steps => exact hfine.elim

theorem scaleAction_self (hfine : action.Fine start) (htyped : action.Typed)
    (hstart : 0 < start.width ∧ 0 < start.height)
    (hmax : start.width ≤ u32Max ∧ start.height ≤ u32Max) :
    scaleAction action start start = action := by
  cases action with
  | tap point => rw [scaleAction, scalePoint_self hfine hmax]
  | swipe first last durationMs =>
    rw [scaleAction, scalePoint_self hfine.1 hmax, scalePoint_self hfine.2.1 hmax]
  | virtualJoystick center radius tickMs swipeDurationMs =>
    rw [scaleAction, scalePoint_self hfine.1 hmax,
      scaleRadiusAverage_self hfine.2.1 (htyped _ _ _ _ rfl) hstart]
  | mouseAim anchor => rfl
  | steps steps => rfl

theorem scaleAction_back (hfine : action.Fine start)
    (hup : start.width ≤ target.width ∧ start.height ≤ target.height)
    (hmax : target.width ≤ u32Max ∧ target.height ≤ u32Max) :
    (scaleAction (scaleAction action start target) target start).points = action.points := by
  cases action with
  | tap point => simp only [scaleAction, BindingAction.points, scalePoint_back hfine hup hmax]
  | swipe first last durationMs =>
    simp only [scaleAction, BindingAction.points, scalePoint_back hfine.1 hup hmax,
      scalePoint_back hfine.2.1 hup hmax]
  | virtualJoystick center radius tickMs swipeDurationMs =>
    simp only [scaleAction, BindingAction.points, scalePoint_back hfine.1 hup hmax]
  | mouseAim anchor => rfl
  | steps steps => rfl

theorem checkedScaleAction_eq (hfine : action.Fine start) (htyped : action.Typed)
    (hstart : start.width ≤ u32Max ∧ start.height ≤ u32Max)
    (hmax : target.width ≤ u32Max ∧ target.height ≤ u32Max) :
    checkedScaleAction action start target = some (scaleAction action start target) := by
  have hpoint : ∀ {point : Point}, point.Inside start →
      checkedScalePoint point start target = some (scalePoint point start target) := by
    intro point hinside
    have hx := hinside.1
    have hy := hinside.2
    exact checkedScalePoint_eq ⟨by omega, by omega⟩ hstart hmax
  cases action with
  | tap point => simp only [checkedScaleAction, scaleAction, hpoint hfine, Option.map_some]
  | swipe first last durationMs =>
    simp only [checkedScaleAction, scaleAction, hpoint hfine.1, hpoint hfine.2.1,
      Option.bind_eq_bind, Option.bind_some]
    rfl
  | virtualJoystick center radius tickMs swipeDurationMs =>
    simp only [checkedScaleAction, scaleAction, hpoint hfine.1,
      checkedScaleRadiusAverage_eq (htyped _ _ _ _ rfl) hstart hmax, Option.bind_eq_bind,
      Option.bind_some]
    rfl
  | mouseAim anchor => rfl
  | steps steps => rfl

end Action

/-! ### Whole profiles -/

namespace ControlProfile

section Profile

variable {profile : ControlProfile} {resolution : Resolution}

/-- The names, keys and packages of a profile are not touched by scaling. -/
theorem scaleProfile_validate (haccepted : profile.validate = .ok ())
    (htarget : 0 < resolution.width ∧ 0 < resolution.height)
    (hmax : resolution.width ≤ u32Max ∧ resolution.height ≤ u32Max) :
    (scaleProfile profile resolution).validate = .ok () := by
  obtain ⟨hname, hpackage, hwidth, hheight, hbindings, hnames⟩ := validate_eq_ok.mp haccepted
  rw [validate_eq_ok]
  refine ⟨hname, hpackage, htarget.1, htarget.2, ?_, ?_⟩
  · intro scaled hscaled
    obtain ⟨binding, hbinding, rfl⟩ := List.mem_map.mp hscaled
    obtain ⟨hblank, hinput, hfine⟩ := hbindings binding hbinding
    exact ⟨hblank, hinput, scaleAction_fine hfine ⟨hwidth, hheight⟩ htarget hmax⟩
  · exact List.pairwise_map.mpr hnames

theorem scaleProfile_self (haccepted : profile.validate = .ok ()) (htyped : profile.Typed) :
    scaleProfile profile profile.resolution = profile := by
  obtain ⟨-, -, hwidth, hheight, hbindings, -⟩ := validate_eq_ok.mp haccepted
  have hsame : (profile.bindings.map fun binding =>
      { binding with
        action := scaleAction binding.action profile.resolution profile.resolution }) =
      profile.bindings := by
    refine (List.map_congr_left ?_).trans (List.map_id _)
    intro binding hbinding
    rw [scaleAction_self (hbindings binding hbinding).2.2 (htyped.actions binding hbinding)
      ⟨hwidth, hheight⟩ ⟨htyped.width, htyped.height⟩]
    rfl
  rw [scaleProfile, hsame]

theorem scaleProfile_back (haccepted : profile.validate = .ok ())
    (hup : profile.resolution.width ≤ resolution.width ∧
      profile.resolution.height ≤ resolution.height)
    (hmax : resolution.width ≤ u32Max ∧ resolution.height ≤ u32Max) :
    (scaleProfile (scaleProfile profile resolution) profile.resolution).bindings.map
        (·.action.points) =
      profile.bindings.map (·.action.points) := by
  obtain ⟨-, -, -, -, hbindings, -⟩ := validate_eq_ok.mp haccepted
  simp only [scaleProfile, List.map_map]
  refine List.map_congr_left ?_
  intro binding hbinding
  exact scaleAction_back (hbindings binding hbinding).2.2 hup hmax

theorem mapM_eq_some_map {α β : Type} {f : α → Option β} {g : α → β} {list : List α}
    (h : ∀ a ∈ list, f a = some (g a)) : list.mapM f = some (list.map g) := by
  induction list with
  | nil => rfl
  | cons a list ih =>
    have htail := ih fun b hb => h b (List.mem_cons_of_mem a hb)
    rw [List.mapM_cons, h a List.mem_cons_self, htail]
    rfl

theorem checkedScaleProfile_eq (haccepted : profile.validate = .ok ()) (htyped : profile.Typed)
    (hmax : resolution.width ≤ u32Max ∧ resolution.height ≤ u32Max) :
    checkedScaleProfile profile resolution = some (scaleProfile profile resolution) := by
  obtain ⟨-, -, -, -, hbindings, -⟩ := validate_eq_ok.mp haccepted
  have hall : ∀ binding ∈ profile.bindings, (do
      let action ← checkedScaleAction binding.action profile.resolution resolution
      return { binding with action } : Option Binding) =
        some { binding with
          action := scaleAction binding.action profile.resolution resolution } := by
    intro binding hbinding
    rw [checkedScaleAction_eq (hbindings binding hbinding).2.2 (htyped.actions binding hbinding)
      ⟨htyped.width, htyped.height⟩ hmax]
    rfl
  rw [checkedScaleProfile, mapM_eq_some_map hall]
  rfl

/-- **Scaling is sound.** -/
theorem scaling_is_sound (haccepted : profile.validate = .ok ()) (htyped : profile.Typed)
    (htarget : 0 < resolution.width ∧ 0 < resolution.height)
    (hmax : resolution.width ≤ u32Max ∧ resolution.height ≤ u32Max) :
    (scaleProfile profile resolution).validate = .ok () ∧
      checkedScaleProfile profile resolution = some (scaleProfile profile resolution) ∧
      scaleProfile profile profile.resolution = profile ∧
      (∀ point point' : Point,
        (point.x ≤ point'.x → (scalePoint point profile.resolution resolution).x ≤
          (scalePoint point' profile.resolution resolution).x) ∧
        (point.y ≤ point'.y → (scalePoint point profile.resolution resolution).y ≤
          (scalePoint point' profile.resolution resolution).y) ∧
        NearExact (scalePoint point profile.resolution resolution).x point.x
          profile.resolution.width resolution.width ∧
        NearExact (scalePoint point profile.resolution resolution).y point.y
          profile.resolution.height resolution.height) ∧
      (profile.resolution.width ≤ resolution.width ∧
          profile.resolution.height ≤ resolution.height →
        (scaleProfile (scaleProfile profile resolution) profile.resolution).bindings.map
            (·.action.points) =
          profile.bindings.map (·.action.points)) := by
  obtain ⟨-, -, hwidth, hheight, -, -⟩ := validate_eq_ok.mp haccepted
  refine ⟨scaleProfile_validate haccepted htarget hmax,
    checkedScaleProfile_eq haccepted htyped hmax, scaleProfile_self haccepted htyped, ?_,
    fun hup => scaleProfile_back haccepted hup hmax⟩
  intro point point'
  exact ⟨fun hle => scaleAxis_mono hwidth htarget.1 hmax.1 hle,
    fun hle => scaleAxis_mono hheight htarget.2 hmax.2 hle,
    scaleAxis_near hwidth htarget.1 hmax.1, scaleAxis_near hheight htarget.2 hmax.2⟩

end Profile

/-- A tap and a joystick on a small surface. -/
def sample : ControlProfile where
  name := "walk"
  packageName := "org.game"
  resolution := ⟨3, 2⟩
  bindings := [⟨"tap", .key "a", .tap ⟨2, 1⟩⟩,
    ⟨"stick", .keyCluster "w" "a" "s" "d", .virtualJoystick ⟨1, 1⟩ 1 16 50⟩]

theorem scaling_is_sound_sample :
    (scaleProfile sample ⟨5, 7⟩).validate = .ok () ∧
      (scaleProfile (scaleProfile sample ⟨5, 7⟩) ⟨3, 2⟩).bindings.map (·.action.points) =
        [[⟨2, 1⟩], [⟨1, 1⟩]] := by
  have htyped : sample.Typed := by
    refine ⟨by decide, by decide, ?_⟩
    intro binding hbinding center radius tickMs swipeDurationMs haction
    simp only [sample, List.mem_cons, List.not_mem_nil, or_false] at hbinding
    rcases hbinding with rfl | rfl
    · cases haction
    · cases haction
      decide
  have h := @scaling_is_sound sample ⟨5, 7⟩ (by decide) htyped (by decide) (by decide)
  exact ⟨h.1, h.2.2.2.2 (by decide)⟩

end ControlProfile

end Wroid
