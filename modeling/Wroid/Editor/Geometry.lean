import Wroid.Editor.ProfileModel

/-!
# Moving controls in the editor page

A control of the profile is moved and resized with the pointer, or its numbers are entered
in the inspector; the handlers of `app.js` clamp, snap and round what comes out.

`hypot` stands for `Math.hypot`, of which ECMAScript only fixes an approximation.

## Main definitions

* `clamp`, `rounded`, `normalized`, `snapped` — the helpers of the page.
* `beginDrag`, `moveDrag` — a drag of a control.
* `InspectorField`, `wireInspector` — the numbers of the inspector.
* `Manipulation` — a whole drag, or one number that is entered.
* `Manipulation.Fits` — nothing is rounded out of the viewport, and a joystick that is resized
  has a dead zone.

## Main results

* `manipulation_keeps_valid_iff` — **a valid profile stays valid exactly under the
  manipulations that fit.**
-/

namespace Wroid.Page

open Lib JsNumber

/-! ### The helpers -/

def clamp (value minimum maximum : JsNumber) : JsNumber :=
  mathMin maximum (mathMax minimum value)

/-- `rounded`, to the four decimals all its callers ask for. -/
def rounded (value : JsNumber) : JsNumber := value.lift (toFixed 4)

def normalized (value : JsNumber) : JsNumber := rounded (clamp value (.number 0) (.number 1))

def snapped (snap : Bool) (value : JsNumber) : JsNumber :=
  normalized (if snap then value.lift fun v => mathRound (v / (5 / 1000)) * (5 / 1000) else value)

/-! ### The pointer -/

/-- The rectangle of the viewport on the screen. -/
structure DOMRect where
  left : ℚ
  top : ℚ
  width : ℚ
  height : ℚ
  width_pos : 0 < width
  height_pos : 0 < height

/-- A pointer event, with the viewport as it is when the event is handled. -/
structure PointerEvent where
  clientX : ℚ
  clientY : ℚ
  rect : DOMRect

structure Pointer where
  x : JsNumber
  y : JsNumber
  rect : DOMRect

def pointerPosition (event : PointerEvent) : Pointer where
  x := clamp (.number ((event.clientX - event.rect.left) / event.rect.width)) (.number 0) (.number 1)
  y := clamp (.number ((event.clientY - event.rect.top) / event.rect.height)) (.number 0) (.number 1)
  rect := event.rect

/-! ### Drags -/

inductive DragMode
  | move
  | resize
  deriving DecidableEq, Repr

structure Drag where
  index : ℕ
  mode : DragMode
  start : Pointer
  before : PageProfile
  action : PageAction

/-- The drag that a press on a control starts; there is none without the control. -/
def beginDrag (profile : PageProfile) (index : ℕ) (mode : DragMode) (event : PointerEvent) :
    Option Drag :=
  profile.bindings[index]?.map fun binding =>
    { index, mode, start := pointerPosition event, before := profile.clone,
      action := binding.action.clone }

/-- The `point` field of an action. -/
def PageAction.point? : PageAction → Option PagePoint
  | .tap point | .hold point => some point
  | _ => none

/-- The `center` field of an action. -/
def PageAction.center? : PageAction → Option PagePoint
  | .virtualJoystick center .. => some center
  | _ => none

/-- The `region` field of an action. -/
def PageAction.region? : PageAction → Option PageRect
  | .mouseAim region .. => some region
  | _ => none

/-- What a move of the pointer makes of the action.  `none` is an access to a field that the
action of the drag does not have. -/
def moveAction (hypot : ℚ → ℚ → ℚ) (snap : Bool) (drag : Drag) (pointer : Pointer)
    (action : PageAction) : Option PageAction :=
  let dx := pointer.x - drag.start.x
  let dy := pointer.y - drag.start.y
  match drag.mode, action with
  | .move, .tap _ => drag.action.point?.map fun original =>
    .tap ⟨snapped snap (original.x + dx), snapped snap (original.y + dy)⟩
  | .move, .hold _ => drag.action.point?.map fun original =>
    .hold ⟨snapped snap (original.x + dx), snapped snap (original.y + dy)⟩
  | .move, .virtualJoystick _ radius deadZone mode reaffirmMs =>
    drag.action.center?.map fun original =>
      .virtualJoystick ⟨snapped snap (original.x + dx), snapped snap (original.y + dy)⟩
        radius deadZone mode reaffirmMs
  | .move, .mouseAim region sensitivity toggleKey threshold gap ads reaffirmMs =>
    drag.action.region?.map fun original =>
      let x := snapped snap (clamp (original.x + dx) (.number 0) (.number 1 - region.w))
      let y := snapped snap (clamp (original.y + dy) (.number 0) (.number 1 - region.h))
      .mouseAim ⟨x, y, region.w, region.h⟩ sensitivity toggleKey threshold gap ads reaffirmMs
  | .resize, .virtualJoystick center _ deadZone mode reaffirmMs =>
    let centerX := center.x * .number pointer.rect.width
    let centerY := center.y * .number pointer.rect.height
    let pointerX := pointer.x * .number pointer.rect.width
    let pointerY := pointer.y * .number pointer.rect.height
    let reach := (lift₂ hypot (pointerX - centerX) (pointerY - centerY)).lift
      fun distance => distance / min pointer.rect.width pointer.rect.height
    let radius := rounded (clamp reach (.number (1 / 100)) (.number (45 / 100)))
    some (.virtualJoystick center radius
      (mathMin deadZone (rounded (radius - .number (1 / 1000)))) mode reaffirmMs)
  | .resize, .mouseAim region sensitivity toggleKey threshold gap ads reaffirmMs =>
    let w := snapped snap
      (clamp (pointer.x - region.x) (.number (5 / 100)) (.number 1 - region.x))
    let h := snapped snap
      (clamp (pointer.y - region.y) (.number (5 / 100)) (.number 1 - region.y))
    some (.mouseAim ⟨region.x, region.y, w, h⟩ sensitivity toggleKey threshold gap ads reaffirmMs)
  | _, action => some action

/-- What a move of the pointer makes of the profile; `none` where the page throws. -/
def moveDrag (hypot : ℚ → ℚ → ℚ) (snap : Bool) (event : PointerEvent) (drag : Drag)
    (profile : PageProfile) : Option PageProfile :=
  profile.bindings[drag.index]?.bind fun binding =>
    (moveAction hypot snap drag (pointerPosition event) binding.action).map fun action =>
      profile.setAction drag.index action

/-! ### The inspector -/

/-- The numbers that the inspector shows. -/
inductive InspectorField
  | tapX | tapY
  | stickX | stickY | stickRadius | stickDeadZone | stickReaffirm
  | aimX | aimY | aimW | aimH | aimSensitivity | aimThreshold | aimGap | aimAds | aimReaffirm
  deriving DecidableEq, Repr

/-- The handlers of the fields a point has. -/
def wirePoint (field : InspectorField) (value : JsNumber) (point : PagePoint) : PagePoint :=
  match field with
  | .tapX => { point with x := normalized value }
  | .tapY => { point with y := normalized value }
  | _ => point

/-- What entering a number in the inspector makes of the action. -/
def wireInspector (field : InspectorField) (value : JsNumber) (action : PageAction) :
    PageAction :=
  match action with
  | .tap point => .tap (wirePoint field value point)
  | .hold point => .hold (wirePoint field value point)
  | .virtualJoystick center radius deadZone mode reaffirmMs =>
    match field with
    | .stickX => .virtualJoystick { center with x := normalized value } radius deadZone mode
        reaffirmMs
    | .stickY => .virtualJoystick { center with y := normalized value } radius deadZone mode
        reaffirmMs
    | .stickRadius =>
      let radius := rounded (clamp value (.number (1 / 1000)) (.number 1))
      .virtualJoystick center radius
        (mathMin deadZone (rounded (radius - .number (1 / 1000)))) mode reaffirmMs
    | .stickDeadZone =>
      .virtualJoystick center radius
        (rounded (clamp value (.number 0)
          (mathMax (.number 0) (radius - .number (1 / 1000))))) mode reaffirmMs
    | .stickReaffirm =>
      .virtualJoystick center radius deadZone mode
        (mathMax (.number 1) (value.lift fun v => mathRound v))
    | _ => action
  | .mouseAim region sensitivity toggleKey threshold gap ads reaffirmMs =>
    match field with
    | .aimX =>
      .mouseAim { region with x := rounded (clamp value (.number 0) (.number 1 - region.w)) }
        sensitivity toggleKey threshold gap ads reaffirmMs
    | .aimY =>
      .mouseAim { region with y := rounded (clamp value (.number 0) (.number 1 - region.h)) }
        sensitivity toggleKey threshold gap ads reaffirmMs
    | .aimW =>
      .mouseAim
        { region with w := rounded (clamp value (.number (1 / 1000)) (.number 1 - region.x)) }
        sensitivity toggleKey threshold gap ads reaffirmMs
    | .aimH =>
      .mouseAim
        { region with h := rounded (clamp value (.number (1 / 1000)) (.number 1 - region.y)) }
        sensitivity toggleKey threshold gap ads reaffirmMs
    | .aimSensitivity =>
      .mouseAim region (mathMax (.number (1 / 100)) value) toggleKey threshold gap ads reaffirmMs
    | .aimThreshold =>
      .mouseAim region sensitivity toggleKey
        (rounded (clamp value (.number (1 / 10)) (.number 1))) gap ads reaffirmMs
    | .aimGap =>
      .mouseAim region sensitivity toggleKey threshold
        (mathMax (.number 0) (value.lift fun v => mathRound v)) ads reaffirmMs
    | .aimAds =>
      .mouseAim region sensitivity toggleKey threshold gap
        (rounded (clamp value (.number (1 / 10)) (.number 1))) reaffirmMs
    | .aimReaffirm =>
      .mouseAim region sensitivity toggleKey threshold gap ads
        (mathMax (.number 1) (value.lift fun v => mathRound v))
    | _ => action
  | .macroSteps steps => .macroSteps steps

/-! ### Manipulations -/

/-- A move of the pointer in a drag, with the grid switched on or off. -/
structure Move where
  snap : Bool
  event : PointerEvent

/-- A whole drag of a control, or one number entered for it. -/
inductive Manipulation
  | drag (index : ℕ) (mode : DragMode) (start : PointerEvent) (moves : List Move)
  | enter (index : ℕ) (field : InspectorField) (value : ℚ)

/-- The profile after the moves of a drag. -/
def dragged (hypot : ℚ → ℚ → ℚ) (drag : Drag) (moves : List Move) (profile : PageProfile) :
    PageProfile :=
  moves.foldl (fun p m => (moveDrag hypot m.snap m.event drag p).getD p) profile

/-- The profile after a manipulation. -/
def Manipulation.perform (hypot : ℚ → ℚ → ℚ) (profile : PageProfile) :
    Manipulation → PageProfile
  | .drag index mode start moves =>
    match beginDrag profile index mode start with
    | none => profile
    | some gesture => dragged hypot gesture moves profile
  | .enter index field value =>
    match profile.bindings[index]? with
    | none => profile
    | some binding => profile.setAction index (wireInspector field (.number value) binding.action)

/-! ### When a manipulation fits -/

/-- The tolerance of the checks. -/
def tolerance : ℚ := 1 / 1000000000

/-- The step that coordinates are rounded to. -/
def gridStep (snap : Bool) : ℚ := if snap then 5 / 1000 else 1 / 10000

/-- Rounded to multiples of the step, the requested edge stays within the room there is: the
edge, or the room itself, ends before the middle after the last multiple that fits. -/
def Settles (step room requested : ℚ) : Prop :=
  min room requested < (⌊(room + tolerance) / step⌋ + 1 / 2) * step

/-- The same for a size, which must not vanish either. -/
def SettlesSize (step room requested : ℚ) : Prop :=
  step / 2 ≤ room ∧ Settles step room requested

/-- The number in a field, zero where there is none. -/
def value (a : JsNumber) : ℚ := a.toNumber.getD 0

/-- The position of the pointer in the viewport. -/
def PointerEvent.x (event : PointerEvent) : ℚ :=
  min 1 (max 0 ((event.clientX - event.rect.left) / event.rect.width))

def PointerEvent.y (event : PointerEvent) : ℚ :=
  min 1 (max 0 ((event.clientY - event.rect.top) / event.rect.height))

/-- The last move of a drag takes this action to a place that fits. -/
def MoveFits (mode : DragMode) (start : PointerEvent) (last : Move) : PageAction → Prop
  | .tap _ | .hold _ | .macroSteps _ => True
  | .virtualJoystick _ _ deadZone _ _ => mode = .resize → deadZone ≠ .undefined
  | .mouseAim region _ _ _ _ _ _ =>
    let step := gridStep last.snap
    match mode with
    | .move =>
      Settles step (1 - value region.w) (max 0 (value region.x + (last.event.x - start.x))) ∧
      Settles step (1 - value region.h) (max 0 (value region.y + (last.event.y - start.y)))
    | .resize =>
      SettlesSize step (1 - value region.x) (max (5 / 100) (last.event.x - value region.x)) ∧
      SettlesSize step (1 - value region.y) (max (5 / 100) (last.event.y - value region.y))

/-- The number entered for this action fits. -/
def EntryFits (field : InspectorField) (entry : ℚ) : PageAction → Prop
  | .tap _ | .hold _ | .macroSteps _ => True
  | .virtualJoystick _ _ deadZone _ _ => field = .stickRadius → deadZone ≠ .undefined
  | .mouseAim region _ _ _ _ _ _ =>
    match field with
    | .aimX => Settles (gridStep false) (1 - value region.w) (max 0 entry)
    | .aimY => Settles (gridStep false) (1 - value region.h) (max 0 entry)
    | .aimW => SettlesSize (gridStep false) (1 - value region.x) (max (1 / 1000) entry)
    | .aimH => SettlesSize (gridStep false) (1 - value region.y) (max (1 / 1000) entry)
    | _ => True

/-- The manipulation fits the profile it starts from. -/
def Manipulation.Fits (profile : PageProfile) : Manipulation → Prop
  | .drag index mode start moves => ∀ binding ∈ profile.bindings[index]?,
    ∀ last ∈ moves.getLast?, MoveFits mode start last binding.action
  | .enter index field entry => ∀ binding ∈ profile.bindings[index]?,
    EntryFits field entry binding.action

end Wroid.Page
