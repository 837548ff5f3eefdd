import Wroid.Core.Profile
import Wroid.Runtime.Touch

/-!
# The virtual joystick

Turns the state of four direction keys into one persistent touch contact.

The source computes the target of a direction with floating-point vectors.  A digital
direction has magnitude one or the square root of two, and the dead zone is smaller than
the radius, so the only value that has to be rounded is `radius / √2`; `target` computes it
with an integer square root.  `targetAnalog` is the source's formula over the reals.

## Main definitions

* `VirtualJoystick` — the geometry of a joystick, valid by construction.
* `VirtualJoystick.target` — the contact position of a direction.
* `VirtualJoystick.apply` — bring the contact to that position.

## Main results

* `target_eq_targetAnalog` — the integer formula is the source's formula.
* `apply_spec` — after `apply` the contact is exactly at the target, or up.
-/

namespace Wroid

open Lib

/-- The state of four direction keys. -/
structure DirectionalInput where
  up : Bool
  left : Bool
  down : Bool
  right : Bool
  deriving DecidableEq, Repr

namespace DirectionalInput

def neutral : DirectionalInput := ⟨false, false, false, false⟩

def axis (negative positive : Bool) : ℤ :=
  match negative, positive with
  | true, false => -1
  | false, true => 1
  | false, false | true, true => 0

def horizontal (d : DirectionalInput) : ℤ := axis d.left d.right

def vertical (d : DirectionalInput) : ℤ := axis d.up d.down

theorem axis_cases (negative positive : Bool) :
    axis negative positive = -1 ∨ axis negative positive = 0 ∨ axis negative positive = 1 := by
  cases negative <;> cases positive <;> simp [axis]

end DirectionalInput

inductive VirtualJoystickConfigError
  | zeroRadius
  | deadZoneTooLarge (deadZone radius : ℕ)
  | invalidResolution (width height : ℕ)
  | centerOutOfBounds (x y width height : ℕ)
  deriving DecidableEq, Repr

/-- A joystick.  The fields are private to the source's module, so the checks of
`newWithDeadZone` hold of every value. -/
structure VirtualJoystick where
  contactId : ContactId
  center : Point
  radius : ℕ
  deadZone : ℕ
  resolution : Resolution
  radius_pos : 0 < radius
  deadZone_lt : deadZone < radius
  center_inside : center.Inside resolution

namespace VirtualJoystick

def newWithDeadZone (contactId : ContactId) (center : Point) (radius deadZone : ℕ)
    (resolution : Resolution) : Except VirtualJoystickConfigError VirtualJoystick :=
  if hradius : radius = 0 then .error .zeroRadius
  else if hzone : radius ≤ deadZone then .error (.deadZoneTooLarge deadZone radius)
  else if resolution.width = 0 ∨ resolution.height = 0 then
    .error (.invalidResolution resolution.width resolution.height)
  else if hcenter : resolution.width ≤ center.x ∨ resolution.height ≤ center.y then
    .error (.centerOutOfBounds center.x center.y resolution.width resolution.height)
  else
    .ok ⟨contactId, center, radius, deadZone, resolution, by omega, by omega, by
      simp only [Point.Inside]
      omega⟩

def fromProfileV2Geometry (contactId : ContactId) (center : NormalizedPoint)
    (radius deadZone : ℚ) (resolution : Resolution) :
    Except VirtualJoystickConfigError VirtualJoystick :=
  let radius := materializeRadius radius resolution
  let deadZone := materializeDeadZone deadZone radius resolution
  newWithDeadZone contactId (center.materialize resolution) radius deadZone resolution

/-- On a surface with pixels the materialised geometry is valid. -/
theorem fromProfileV2Geometry_ok (contactId : ContactId) (center : NormalizedPoint)
    (radius deadZone : ℚ) {resolution : Resolution} (hw : resolution.width ≠ 0)
    (hh : resolution.height ≠ 0) :
    ∃ j, fromProfileV2Geometry contactId center radius deadZone resolution = .ok j ∧
      j.contactId = contactId ∧ j.resolution = resolution := by
  have hradius := materializeRadius_pos radius resolution
  have hzone := materializeDeadZone_lt deadZone resolution hradius
  obtain ⟨hx, hy⟩ := center.materialize_inside hw hh
  rw [fromProfileV2Geometry, newWithDeadZone, dif_neg (by omega), dif_neg (by omega),
    if_neg (by omega), dif_neg (by omega)]
  exact ⟨_, rfl, rfl, rfl⟩

/-- A joystick gets the contact identifier it is made with. -/
theorem newWithDeadZone_contactId {contactId : ContactId} {center : Point}
    {radius deadZone : ℕ} {resolution : Resolution} {j : VirtualJoystick}
    (h : newWithDeadZone contactId center radius deadZone resolution = .ok j) :
    j.contactId = contactId := by
  unfold newWithDeadZone at h
  split at h
  · cases h
  split at h
  · cases h
  split at h
  · cases h
  split at h
  · cases h
  · obtain rfl := Except.ok.inj h
    rfl

theorem fromProfileV2Geometry_contactId {contactId : ContactId} {center : NormalizedPoint}
    {radius deadZone : ℚ} {resolution : Resolution} {j : VirtualJoystick}
    (h : fromProfileV2Geometry contactId center radius deadZone resolution = .ok j) :
    j.contactId = contactId :=
  newWithDeadZone_contactId h

def offsetAxis (origin : ℕ) (delta : ℤ) (limit : ℕ) : ℕ :=
  (max 0 (min (origin + delta) (limit - 1))).toNat

theorem offsetAxis_lt {origin limit : ℕ} {delta : ℤ} (h : origin < limit) :
    offsetAxis origin delta limit < limit := by
  unfold offsetAxis
  omega

/-- How far a contact is moved along each axis: the radius, or `radius / √2` rounded to the
nearest integer when it moves along both. -/
def deflection (j : VirtualJoystick) (d : DirectionalInput) : ℕ :=
  if d.horizontal ≠ 0 ∧ d.vertical ≠ 0 then ((2 * j.radius ^ 2).sqrt + 1) / 2 else j.radius

/-- The contact position of a digital direction. -/
def target (j : VirtualJoystick) (d : DirectionalInput) : Option Point :=
  if d.horizontal = 0 ∧ d.vertical = 0 then none
  else
    some ⟨offsetAxis j.center.x (d.horizontal * j.deflection d) j.resolution.width,
      offsetAxis j.center.y (d.vertical * j.deflection d) j.resolution.height⟩

@[simp] theorem target_neutral (j : VirtualJoystick) : j.target .neutral = none := rfl

theorem target_inside {j : VirtualJoystick} {d : DirectionalInput} {p : Point}
    (h : j.target d = some p) : p.Inside j.resolution := by
  unfold target at h
  split at h
  · cases h
  · obtain rfl := Option.some.inj h
    exact ⟨offsetAxis_lt j.center_inside.1, offsetAxis_lt j.center_inside.2⟩

/-! ### The formula of the source -/

/-- `f64::round` over the reals. -/
noncomputable def roundReal (x : ℝ) : ℤ := if 0 ≤ x then ⌊x + 1 / 2⌋ else -⌊-x + 1 / 2⌋

/-- `target_analog` for the vector `(x, y)`, over the reals. -/
noncomputable def targetAnalog (j : VirtualJoystick) (x y : ℝ) : Option Point :=
  let magnitude := √(x ^ 2 + y ^ 2)
  if magnitude = 0 then none
  else
    let deadZone : ℝ := j.deadZone / j.radius
    if magnitude ≤ deadZone then none
    else
      let clampedMagnitude := min magnitude 1
      let effectiveMagnitude :=
        if deadZone = 0 then clampedMagnitude
        else max 0 (min ((clampedMagnitude - deadZone) / (1 - deadZone)) 1)
      some ⟨offsetAxis j.center.x (roundReal (x / magnitude * effectiveMagnitude * j.radius))
          j.resolution.width,
        offsetAxis j.center.y (roundReal (y / magnitude * effectiveMagnitude * j.radius))
          j.resolution.height⟩

theorem roundReal_natCast (n : ℕ) : roundReal n = n := by
  rw [roundReal, if_pos (Nat.cast_nonneg n), Int.floor_eq_iff]
  push_cast
  constructor <;> linarith

theorem roundReal_neg (x : ℝ) : roundReal (-x) = -roundReal x := by
  unfold roundReal
  rcases lt_trichotomy x 0 with h | rfl | h
  · rw [if_pos (by linarith), if_neg (by linarith), neg_neg]
  · norm_num
  · rw [if_neg (by linarith), if_pos (by linarith), neg_neg]

/-- A fraction with a positive numerator does not lie on a half when its square is `n / 2`. -/
theorem roundReal_div_sqrt_two (r : ℕ) :
    roundReal (1 / √2 * r) = (((2 * r ^ 2).sqrt + 1) / 2 : ℕ) := by
  have hsqrt : (1 / √2 * r : ℝ) + 1 / 2 = (√((2 * r ^ 2 : ℕ) : ℝ) + 1) / (2 : ℕ) := by
    have hroot : √((2 * r ^ 2 : ℕ) : ℝ) = √2 * r := by
      push_cast
      rw [Real.sqrt_mul (by norm_num), Real.sqrt_sq (Nat.cast_nonneg r)]
    have hinv : 1 / √2 = √2 / 2 := Real.sqrt_div_self'.symm
    rw [hroot, hinv]
    push_cast
    ring
  rw [roundReal, if_pos (by positivity), hsqrt, Int.floor_div_natCast]
  have hone : ⌊√((2 * r ^ 2 : ℕ) : ℝ) + 1⌋ = (2 * r ^ 2).sqrt + 1 := by
    rw [Int.floor_add_one, Real.floor_real_sqrt_eq_nat_sqrt]
  rw [hone]
  norm_cast

/-- **The integer formula is the formula of the source.** -/
theorem target_eq_targetAnalog (j : VirtualJoystick) (d : DirectionalInput) :
    j.targetAnalog d.horizontal d.vertical = j.target d := by
  have hr : (0 : ℝ) < j.radius := by exact_mod_cast j.radius_pos
  have hzone : (j.deadZone : ℝ) / j.radius < 1 := by
    rw [div_lt_one hr]
    exact_mod_cast j.deadZone_lt
  -- a digital direction reaches the radius whatever the dead zone is
  have hfull : ∀ magnitude : ℝ, 1 ≤ magnitude →
      (if (j.deadZone : ℝ) / j.radius = 0 then min magnitude 1
        else max 0 (min ((min magnitude 1 - j.deadZone / j.radius) /
          (1 - j.deadZone / j.radius)) 1)) = 1 := by
    intro magnitude h
    rw [min_eq_right h]
    split
    · rfl
    · rw [div_self (by linarith)]
      norm_num
  have haxis : ∀ s : ℤ, s = -1 ∨ s = 0 ∨ s = 1 → ∀ (x : ℝ) (n : ℕ), roundReal x = n →
      roundReal (s * x) = s * n := by
    rintro s (rfl | rfl | rfl) x n hx
    · push_cast
      rw [neg_one_mul, roundReal_neg, hx]
      ring
    · norm_num [roundReal]
    · simp [hx]
  have hh := DirectionalInput.axis_cases d.left d.right
  have hv := DirectionalInput.axis_cases d.up d.down
  rw [← DirectionalInput.horizontal] at hh
  rw [← DirectionalInput.vertical] at hv
  generalize hx : d.horizontal = x at hh
  generalize hy : d.vertical = y at hv
  have hround : ∀ magnitude : ℝ, 1 ≤ magnitude → ∀ n : ℕ,
      roundReal (1 / magnitude * j.radius) = n → ∀ s : ℤ, s = -1 ∨ s = 0 ∨ s = 1 →
      roundReal (s / magnitude * 1 * j.radius) = s * n := by
    intro magnitude _ n hn s hs
    rw [← haxis s hs _ n hn]
    congr 1
    ring
  have hsquare : ∀ s : ℤ, s = -1 ∨ s = 0 ∨ s = 1 → s ≠ 0 → (s : ℝ) ^ 2 = 1 := by
    rintro s (rfl | rfl | rfl) hs
    · norm_num
    · exact absurd rfl hs
    · norm_num
  by_cases hboth : x ≠ 0 ∧ y ≠ 0
  · -- a diagonal
    have hmag : √((x : ℝ) ^ 2 + (y : ℝ) ^ 2) = √2 := by
      rw [hsquare x hh hboth.1, hsquare y hv hboth.2]
      norm_num
    have hle : (1 : ℝ) ≤ √2 := by
      rw [Real.one_le_sqrt]
      norm_num
    have hround := hround (√2) hle _ (roundReal_div_sqrt_two j.radius)
    simp only [targetAnalog, target, deflection, hx, hy, hmag, hfull _ hle]
    rw [if_neg (by positivity), if_neg (by linarith), hround x hh, hround y hv, if_neg (by tauto),
      if_pos hboth]
  · by_cases hzero : x = 0 ∧ y = 0
    · simp [targetAnalog, target, hx, hy, hzero.1, hzero.2]
    · -- along one axis
      have hmag : √((x : ℝ) ^ 2 + (y : ℝ) ^ 2) = 1 := by
        rw [Real.sqrt_eq_one]
        by_cases hx0 : x = 0
        · rw [hsquare y hv fun hy0 => hzero ⟨hx0, hy0⟩, hx0]
          norm_num
        · have hy0 : y = 0 := by_contra fun hy0 => hboth ⟨hx0, hy0⟩
          rw [hsquare x hh hx0, hy0]
          norm_num
      have hround := hround 1 le_rfl j.radius (by simpa using roundReal_natCast j.radius)
      simp only [targetAnalog, target, deflection, hx, hy, hmag, hfull 1 le_rfl]
      rw [if_neg one_ne_zero, if_neg (by linarith), hround x hh, hround y hv, if_neg hzero,
        if_neg hboth]

/-! ### The contact -/

variable {I : Type} [TouchInjector I] {K : Contract I} {eng : TouchEngine I}

open TouchEngine

def applyTarget (j : VirtualJoystick) (target : Option Point) : EngineM I Bool := do
  match (← get).state.position j.contactId, target with
  | none, none => return false
  | none, some position => do
    beginContact j.contactId position
    return true
  | some _, none => do
    endContact j.contactId
    return true
  | some position, some target =>
    if position = target then return false
    else do
      moveContact j.contactId target
      return true

/-- Applies one direction state; the result says whether a frame was submitted. -/
def apply (j : VirtualJoystick) (d : DirectionalInput) : EngineM I Bool :=
  j.applyTarget (j.target d)

/-- The pixels a joystick contact can be on. -/
def places (j : VirtualJoystick) : Set Point := { p | ∃ d, j.target d = some p }

/-- **After `apply` the contact is at the target of the direction**, and up when it has none. -/
theorem apply_spec {j : VirtualJoystick} {d : DirectionalInput} (hK : K.Holds eng)
    (hcurrent : ∀ p ∈ eng.state.position j.contactId, p ∈ j.places)
    (ha : ∀ p ∈ j.places, K.AllowsAt j.contactId p) :
    wp (j.apply d) (fun _ e => K.Holds e ∧ ∀ c, e.state.position c =
      if j.contactId = c then j.target d else eng.state.position c) K.Fails eng := by
  have hkeep : ∀ p, eng.state.position j.contactId = p → p = j.target d → ∀ c,
      eng.state.position c = if j.contactId = c then j.target d else eng.state.position c := by
    rintro p hp rfl c
    split
    · next hc => rw [← hc, hp]
    · rfl
  simp only [apply, applyTarget, wp_bind, wp_get]
  cases hpos : eng.state.position j.contactId with
  | none =>
    cases htarget : j.target d with
    | none => exact ⟨hK, by simpa [htarget] using hkeep none hpos htarget.symm⟩
    | some p =>
      simp only [wp_bind, wp_pure]
      exact beginContact_spec hK hpos (ha p ⟨d, htarget⟩)
  | some p =>
    cases htarget : j.target d with
    | none =>
      simp only [wp_bind, wp_pure]
      exact endContact_spec hK hpos (ha p (hcurrent p hpos))
    | some q =>
      simp only [wp_ite, wp_bind, wp_pure]
      split
      · next heq =>
        exact ⟨hK, by simpa [htarget] using hkeep _ hpos (by rw [htarget, heq])⟩
      · exact moveContact_spec hK (by simp [hpos]) (ha q ⟨d, htarget⟩)

end VirtualJoystick

end Wroid
