import Wroid.Lib.Text
import Wroid.Core.Geometry

/-!
# Version 2 profiles

The data model of `wroid-core`'s `profile_v2`: named layers, and bindings that connect a
physical input to an action on the normalised surface.  A profile's `orientation` is left
out, nothing here reads it.

## Main definitions

* `ProfileV2` and the types of its parts.
* `canonicalKey`, `knownKeyName` — the key names a profile may use.
* `materializeAxis`, `materializeRadius`, `materializeDeadZone` — normalised values to
  pixels.
-/

namespace Wroid

open Lib

/-! ### The data -/

structure NormalizedPoint where
  x : ℚ
  y : ℚ
  deriving DecidableEq, Repr

structure NormalizedRect where
  x : ℚ
  y : ℚ
  w : ℚ
  h : ℚ
  deriving DecidableEq, Repr

inductive JoystickMode
  | hold
  | toggle
  deriving DecidableEq, Repr

inductive LayerActivation
  | hold (key : String)
  | toggle (key : String)
  deriving DecidableEq, Repr

structure LayerV2 where
  name : String
  activation : LayerActivation
  deriving DecidableEq, Repr

inductive InputV2
  | key (key : String)
  | keyCluster (up left down right : String)
  | mouseButton (button : String)
  | mouseMove
  deriving DecidableEq, Repr

/-- What a binding does.  `macroSteps` is the variant the source calls `Macro`. -/
inductive ActionV2
  | tap (point : NormalizedPoint)
  | hold (point : NormalizedPoint)
  | virtualJoystick (center : NormalizedPoint) (radius deadZone : ℚ) (mode : JoystickMode)
      (reaffirmMs : Option ℕ)
  | mouseAim (region : NormalizedRect) (sensitivity : ℚ) (toggleKey : Option String)
      (recenterThreshold : ℚ) (recenterGapMs : ℕ) (adsMultiplier : Option ℚ)
      (reaffirmMs : Option ℕ)
  | macroSteps (steps : List ActionV2)
  deriving Repr

structure BindingV2 where
  name : String
  layer : Option String
  modifier : Option String
  input : InputV2
  action : ActionV2
  deriving Repr

structure ProfileV2 where
  schemaVersion : ℕ
  name : String
  packageName : String
  layers : List LayerV2
  bindings : List BindingV2
  deriving Repr

/-! ### Key names -/

/-- The key names of a profile. -/
def supportedKeyNames : List String :=
  ["0", "1", "2", "3", "4", "5", "6", "7", "8", "9", "a", "b", "c", "d", "e", "f", "g", "h", "i",
    "j", "k", "l", "m", "n", "o", "p", "q", "r", "s", "t", "u", "v", "w", "x", "y", "z", "space",
    "tab", "shift", "ctrl", "alt", "up", "left", "down", "right", "esc"]

/-- The mouse button names of a profile. -/
def supportedButtonNames : List String := ["left", "right", "middle", "side", "extra"]

def canonicalKey (value : String) : String := asciiLower (trim rustBlank value)

def knownKeyName (value : String) : Bool := supportedKeyNames.contains (canonicalKey value)

def LayerActivation.key : LayerActivation → String
  | .hold key | .toggle key => key

/-- The kinds of physical input a name can stand for. -/
inductive InputKind
  | key
  | mouseButton
  deriving DecidableEq, Repr

def InputKind.text : InputKind → String
  | .key => "key"
  | .mouseButton => "mouse_button"

def bindingInputKeys : InputV2 → List String
  | .key key => [key]
  | .keyCluster up left down right => [up, left, down, right]
  | .mouseButton _ | .mouseMove => []

def bindingScopeInputKeys : InputV2 → List (String × InputKind)
  | .key key => [(key, .key)]
  | .keyCluster up left down right => [(up, .key), (left, .key), (down, .key), (right, .key)]
  | .mouseButton button => [(button, .mouseButton)]
  | .mouseMove => []

def inputKind : InputV2 → String
  | .key _ => "key"
  | .keyCluster .. => "key_cluster"
  | .mouseButton _ => "mouse_button"
  | .mouseMove => "mouse_move"

def actionKind : ActionV2 → String
  | .tap _ => "tap"
  | .hold _ => "hold"
  | .virtualJoystick .. => "virtual_joystick"
  | .mouseAim .. => "mouse_aim"
  | .macroSteps _ => "macro"

/-! ### Pixels -/

def materializeAxis (value : ℚ) (limit : ℕ) : ℕ :=
  if limit = 0 then 0
  else min (asUnsigned u32Max (roundHalfAway (clampRat value 0 1 * (limit - 1 : ℕ)))) (limit - 1)

def NormalizedPoint.materialize (point : NormalizedPoint) (resolution : Resolution) : Point :=
  ⟨materializeAxis point.x resolution.width, materializeAxis point.y resolution.height⟩

def materializeRadius (value : ℚ) (resolution : Resolution) : ℕ :=
  asUnsigned u32Max
    (max (roundHalfAway (clampRat value 0 1 * (min resolution.width resolution.height : ℕ))) 1)

def materializeDeadZone (value : ℚ) (radius : ℕ) (resolution : Resolution) : ℕ :=
  if value ≤ 0 ∨ radius ≤ 1 then 0
  else
    min (asUnsigned u32Max
      (roundHalfAway (clampRat value 0 1 * (min resolution.width resolution.height : ℕ))))
      (radius - 1)

/-- A materialised coordinate lies on the surface. -/
theorem materializeAxis_lt {value : ℚ} {limit : ℕ} (h : limit ≠ 0) :
    materializeAxis value limit < limit := by
  rw [materializeAxis, if_neg h]
  omega

theorem NormalizedPoint.materialize_inside (point : NormalizedPoint) {resolution : Resolution}
    (hw : resolution.width ≠ 0) (hh : resolution.height ≠ 0) :
    (point.materialize resolution).Inside resolution :=
  ⟨materializeAxis_lt hw, materializeAxis_lt hh⟩

/-- A joystick has room to move. -/
theorem materializeRadius_pos (value : ℚ) (resolution : Resolution) :
    0 < materializeRadius value resolution := by
  unfold materializeRadius asUnsigned u32Max
  omega

/-- The dead zone is smaller than the radius. -/
theorem materializeDeadZone_lt (value : ℚ) (resolution : Resolution) {radius : ℕ}
    (h : 0 < radius) : materializeDeadZone value radius resolution < radius := by
  unfold materializeDeadZone
  split <;> omega

end Wroid
