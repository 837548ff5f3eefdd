import Wroid.Runtime.ControlPlan

/-!
# The session runtime

`UnifiedRuntime` of `game_session.rs`: it keeps what is held on the keyboard and the mouse,
decides which bindings are available, and moves the contacts of the touch engine
accordingly.

The source keeps one vector for each property of a control; here a `ControlCell` has the
properties of one control, and the loops over the controls visit the cells.  The time is an
argument of each call.  Tracing and latency statistics are left out.

## Main definitions

* `ControlLayout`, `ControlCell` — the fixed and the changing properties of one control.
* `HeldInputs` — the keys, modifiers, layers and buttons that count as held.
* `bindingAvailable` — whether a held input reaches a binding.
* `UnifiedRuntime` with `new`, `handleKeyboard`, `handleMouse`, `reconcileContinuous`,
  `tick`, `suspend`, and the cursor and aim operations.
-/

set_option linter.constructorNameAsVariable false

namespace Wroid

open Lib

/-! ### Events -/

/-- A key of the host: one for each name of a profile, and F12, which no profile can name. -/
inductive HostKey
  | named (key : HostKeyName)
  | f12
  deriving DecidableEq, Repr

inductive KeyTransition
  | pressed
  | released
  | repeated
  deriving DecidableEq, Repr

structure HostKeyEvent where
  key : HostKey
  transition : KeyTransition
  deriving DecidableEq, Repr

inductive MouseEvent
  | motion (dx dy : ℤ)
  | wheel (vertical horizontal : ℤ)
  | button (button : HostMouseButton) (transition : KeyTransition)
  deriving DecidableEq, Repr

/-- The key of a profile that a host key is. -/
def runtimeKey : HostKey → Option HostKeyName
  | .named key => some key
  | .f12 => none

/-- Why a call of the session fails. -/
inductive SessionError
  | engine (error : TouchEngineError)
  | aimConfig (error : MouseAimConfigError)
  | other (message : String)
  deriving DecidableEq, Repr

/-! ### Controls -/

inductive ResolvedControlInput
  | key (key : HostKeyName)
  | keyCluster (up left down right : HostKeyName)
  | mouseButton (button : HostMouseButton)
  | mouseMove
  deriving DecidableEq, Repr

def parseMouseButton (button : String) : Option HostMouseButton :=
  let button := asciiLower (trim rustBlank button)
  if button = "left" then some .left
  else if button = "right" then some .right
  else if button = "middle" then some .middle
  else if button = "side" then some .side
  else if button = "extra" then some .extra
  else none

namespace ResolvedControlInput

def fromProfile : InputV2 → Option ResolvedControlInput
  | .key name => (HostKeyName.parse name).map .key
  | .keyCluster up left down right => do
    return .keyCluster (← HostKeyName.parse up) (← HostKeyName.parse left)
      (← HostKeyName.parse down) (← HostKeyName.parse right)
  | .mouseButton name => (parseMouseButton name).map .mouseButton
  | .mouseMove => some .mouseMove

/-- The physical inputs of a control. -/
def inputs : ResolvedControlInput → List RuntimePhysicalInput
  | .key name => [.key name]
  | .keyCluster up left down right => [.key up, .key left, .key down, .key right]
  | .mouseButton held => [.mouseButton held]
  | .mouseMove => []

end ResolvedControlInput

/-- What does not change about a control while a session runs. -/
structure ControlLayout where
  control : RuntimeControlBinding
  input : ResolvedControlInput
  pointContact : Option ContactId
  aimToggleKey : Option HostKeyName

/-- One control of a running session. -/
structure ControlCell where
  layout : ControlLayout
  directions : DirectionalInput
  desiredDirections : DirectionalInput
  activeBinding : Bool
  desiredBinding : Bool
  aimController : Option MouseAimController
  lastJoystickFrame : Option ℕ

/-- The action of a control. -/
abbrev ControlCell.action (cell : ControlCell) : RuntimeControlAction := cell.layout.control.action

/-! ### What is held -/

structure LayerControl where
  mask : BitVec 64
  mode : LayerMode

/-- The inputs that count as held, and the layer each input currently belongs to. -/
structure HeldInputs where
  activeLayers : BitVec 64
  heldKeys : ModifierMask
  heldModifiers : ModifierMask
  heldMouseButtons : BitVec 8
  selectedInputLayers : RuntimePhysicalInput → Option LayerId

/-- Nothing is held. -/
def HeldInputs.none : HeldInputs := ⟨0, .EMPTY, .EMPTY, 0, fun _ => Option.none⟩

def layerMaskBit (layer : LayerId) : Option (BitVec 64) :=
  if layer = 0 then none
  else if layer - 1 < 64 then some (BitVec.twoPow 64 (layer - 1))
  else none

def mouseButtonMask (button : HostMouseButton) : BitVec 8 := BitVec.twoPow 8 button.index

def mouseButtonHeld (held : BitVec 8) (button : HostMouseButton) : Bool :=
  held &&& mouseButtonMask button != 0#8

def setMouseButtonHeld (held : BitVec 8) (button : HostMouseButton) (pressed : Bool) : BitVec 8 :=
  if pressed then held ||| mouseButtonMask button else held &&& ~~~mouseButtonMask button

def bindingConditionAvailable (control : RuntimeControlBinding) (input : RuntimePhysicalInput)
    (held : HeldInputs) : Bool :=
  (control.layer == .BASE || (layerMaskBit control.layer).any fun mask =>
    held.activeLayers &&& mask != 0#64) &&
  control.modifier.all held.heldModifiers.contains &&
  !control.isSuppressed input held.heldModifiers

def bindingAvailable (control : RuntimeControlBinding) (input : RuntimePhysicalInput)
    (held : HeldInputs) : Bool :=
  if (held.selectedInputLayers input).any fun layer =>
      control.layer == .BASE || control.layer < layer then false
  else bindingConditionAvailable control input held

/-- The layers selected so far, after the control `control` claimed `input`. -/
def selectInputLayer (activeLayers : BitVec 64) (control : RuntimeControlBinding)
    (selected : RuntimePhysicalInput → Option LayerId) (input : RuntimePhysicalInput) :
    RuntimePhysicalInput → Option LayerId :=
  if (layerMaskBit control.layer).all fun mask => activeLayers &&& mask == 0#64 then selected
  else if (selected input).all fun layer => layer < control.layer then
    Function.update selected input (some control.layer)
  else selected

/-- The layer that each input belongs to. -/
def refreshSelectedInputLayers (activeLayers : BitVec 64) (layouts : List ControlLayout) :
    RuntimePhysicalInput → Option LayerId :=
  layouts.foldl (fun selected layout =>
    if layout.control.layer = .BASE then selected
    else layout.input.inputs.foldl (selectInputLayer activeLayers layout.control) selected)
    fun _ => none

/-! ### The runtime -/

/-- What does not change about a runtime. -/
structure RuntimeSetup where
  resolution : Resolution
  modifierKeys : ModifierMask
  layerControls : HostKeyName → Option LayerControl
  cursorContact : ContactId

structure UnifiedRuntime (I : Type) where
  setup : RuntimeSetup
  engine : TouchEngine I
  cells : List ControlCell
  held : HeldInputs

/-- The fixed parts of the controls. -/
def UnifiedRuntime.layouts {I : Type} (rt : UnifiedRuntime I) : List ControlLayout :=
  rt.cells.map ControlCell.layout

/-- The contact identifiers the plan has given to a control itself. -/
def RuntimeControlAction.ownContacts : RuntimeControlAction → List ContactId
  | .virtualJoystick joystick _ _ => [joystick.contactId]
  | .mouseAim aim settings => [aim.contactId, settings.alternateContactId]
  | .tap _ | .hold _ => []

/-- The cells of the controls, and the next free contact identifier. -/
def buildCells : List RuntimeControlBinding → ContactId → Except SessionError (List ControlCell × ContactId)
  | [], nextContact => .ok ([], nextContact)
  | control :: rest, nextContact => do
    let some input := ResolvedControlInput.fromProfile control.input
      | throw (.other "validated control input did not resolve at runtime")
    let (pointContact, nextContact) := match control.action with
      | .tap _ | .hold _ => (some nextContact, saturatingSucc nextContact)
      | _ => (none, nextContact)
    let (aimController, aimToggleKey) ← match control.action with
      | .mouseAim aim settings =>
        match MouseAimController.new aim settings with
        | .ok controller => .ok (some controller, settings.toggleKey.bind HostKeyName.parse)
        | .error error => throw (.aimConfig error)
      | _ => .ok (none, none)
    let (cells, nextContact) ← buildCells rest nextContact
    let cell : ControlCell :=
      { layout := ⟨control, input, pointContact, aimToggleKey⟩
        directions := .neutral
        desiredDirections := .neutral
        activeBinding := false
        desiredBinding := false
        aimController := aimController
        lastJoystickFrame := none }
    return (cell :: cells, nextContact)

def insertLayerControl (layerControls : HostKeyName → Option LayerControl) (layer : RuntimeLayer) :
    Except SessionError (HostKeyName → Option LayerControl) :=
  match layerMaskBit layer.id with
  | none => .error (.other "declared runtime layer id is out of range")
  | some mask => .ok (Function.update layerControls layer.activationKey (some ⟨mask, layer.mode⟩))

namespace UnifiedRuntime

variable {I : Type}

/-- The contact identifier after those the plan has given out. -/
def firstFreeContact (controls : List RuntimeControlBinding) : ContactId :=
  saturatingSucc ((controls.flatMap fun control => control.action.ownContacts).foldl max 0)

def new (plan : RuntimeControlPlan) (injector : I) : Except SessionError (UnifiedRuntime I) := do
  let (cells, cursorContact) ← buildCells plan.controls (firstFreeContact plan.controls)
  let layerControls ← plan.layers.foldlM insertLayerControl fun _ => none
  return { setup := ⟨plan.resolution, plan.modifierKeys, layerControls, cursorContact⟩
           engine := .new injector
           cells := cells
           held := .none }

end UnifiedRuntime

/-! ### Visiting the controls -/

section Visits

variable {I : Type} [TouchInjector I]

/-- A computation on the engine and one control. -/
abbrev CellM (I : Type) := EStateM SessionError (TouchEngine I × ControlCell)

abbrev RuntimeM (I : Type) := EStateM SessionError (UnifiedRuntime I)

namespace ControlCell

def onEngine {α : Type} (m : TouchEngine.EngineM I α) : CellM I α :=
  mapError .engine (zoom Prod.fst (fun e t => (e, t.2)) m)

def update (f : ControlCell → ControlCell) : CellM I Unit := modify fun t => (t.1, f t.2)

/-- Use the controller `controller` of the control. -/
def onController {α : Type} (controller : MouseAimController)
    (m : MouseAimController.ControllerM I α) : CellM I α :=
  mapError .engine <|
    zoom (fun t => (t.1, controller)) (fun s t => (s.1, { t.2 with aimController := some s.2 })) m

/-- Bring a joystick to the directions `directions`. -/
def applyDirections (joystick : VirtualJoystick) (directions : DirectionalInput) (now : ℕ) :
    CellM I Bool := do
  let frameSubmitted ← onEngine (joystick.apply directions)
  update fun cell => { cell with
    lastJoystickFrame := if frameSubmitted then some now else cell.lastJoystickFrame
    directions := directions
    activeBinding := directions ≠ .neutral }
  return frameSubmitted

def pointContactId (contact : Option ContactId) : CellM I ContactId :=
  match contact with
  | some contact => pure contact
  | none => throw (.other "point binding is missing its contact id")

def setHoldBinding (contact : ContactId) (point : Point) (pressed : Bool) : CellM I Bool := do
  let (engine, _) ← get
  if (engine.state.position contact).isSome = pressed then return false
  onEngine (TouchEngine.submit (.single ⟨contact, if pressed then .down else .up, point⟩))
  return true

def tapBinding (contact : ContactId) (point : Point) : CellM I Unit := do
  onEngine (TouchEngine.submit (.single ⟨contact, .down, point⟩))
  onEngine (TouchEngine.submit (.single ⟨contact, .up, point⟩))

/-! ### Reconciliation -/

def directionIntersection (current desired : DirectionalInput) : DirectionalInput :=
  ⟨current.up && desired.up, current.left && desired.left, current.down && desired.down,
    current.right && desired.right⟩

/-- The key is held, is no activation key, and reaches the control. -/
def keyWanted (setup : RuntimeSetup) (held : HeldInputs) (control : RuntimeControlBinding)
    (key : HostKeyName) : Bool :=
  (setup.layerControls key).isNone && held.heldKeys.contains key &&
    bindingAvailable control (.key key) held

def buttonWanted (held : HeldInputs) (control : RuntimeControlBinding)
    (button : HostMouseButton) : Bool :=
  mouseButtonHeld held.heldMouseButtons button && bindingAvailable control (.mouseButton button) held

/-- The directions a joystick should have. -/
def wantedDirections (setup : RuntimeSetup) (held : HeldInputs) (cell : ControlCell) :
    DirectionalInput :=
  let control := cell.layout.control
  match control.action, cell.layout.input with
  | .virtualJoystick _ .hold _, .keyCluster up left down right =>
    ⟨keyWanted setup held control up, keyWanted setup held control left,
      keyWanted setup held control down, keyWanted setup held control right⟩
  | .virtualJoystick _ .toggle _, .keyCluster up left down right =>
    ⟨cell.directions.up && bindingAvailable control (.key up) held,
      cell.directions.left && bindingAvailable control (.key left) held,
      cell.directions.down && bindingAvailable control (.key down) held,
      cell.directions.right && bindingAvailable control (.key right) held⟩
  | _, _ => .neutral

/-- Whether a hold binding, or a joystick, should be active. -/
def wantedBinding (setup : RuntimeSetup) (held : HeldInputs) (cell : ControlCell) : Bool :=
  let control := cell.layout.control
  match control.action, cell.layout.input with
  | .hold _, .key key => keyWanted setup held control key
  | .hold _, .mouseButton button => buttonWanted held control button
  | .virtualJoystick .., .keyCluster .. => wantedDirections setup held cell ≠ .neutral
  | _, _ => false

/-- First loop: what each control should do. -/
def desire (setup : RuntimeSetup) (held : HeldInputs) (cell : ControlCell) : ControlCell :=
  { cell with
    desiredBinding := wantedBinding setup held cell
    desiredDirections := wantedDirections setup held cell }

/-- Second loop: joysticks leave the directions they should not have. -/
def retainDirections (now : ℕ) : CellM I Bool := do
  let (_, cell) ← get
  match cell.action with
  | .virtualJoystick joystick _ _ =>
    let retained := directionIntersection cell.directions cell.desiredDirections
    if cell.directions = retained then return false
    applyDirections joystick retained now
  | _ => return false

/-- Third loop: hold bindings that should not be active are released. -/
def releaseHold : CellM I Bool := do
  let (_, cell) ← get
  match cell.action with
  | .hold point =>
    if cell.activeBinding && !cell.desiredBinding then do
      let contact ← pointContactId cell.layout.pointContact
      let submitted ← setHoldBinding contact point false
      update fun cell => { cell with activeBinding := false }
      return submitted
    else return false
  | _ => return false

/-- Fourth loop: hold bindings are pressed, and joysticks take their directions. -/
def engage (now : ℕ) : CellM I Bool := do
  let (_, cell) ← get
  match cell.action with
  | .hold point =>
    if !cell.activeBinding && cell.desiredBinding then do
      let contact ← pointContactId cell.layout.pointContact
      let submitted ← setHoldBinding contact point true
      update fun cell => { cell with activeBinding := true }
      return submitted
    else return false
  | .virtualJoystick joystick _ _ =>
    if cell.directions ≠ cell.desiredDirections then
      applyDirections joystick cell.desiredDirections now
    else return false
  | _ => return false

/-! ### Dispatch -/

/-- Run the operation `m` of the control's aim controller if it has one that is `wanted`. -/
def onAim (wanted : ControlCell → MouseAimController → Bool)
    (m : MouseAimController.ControllerM I MouseAimUpdate) : CellM I Bool := do
  let (_, cell) ← get
  match cell.aimController with
  | some controller =>
    if wanted cell controller then do
      let update ← onController controller m
      return update ≠ .ignored
    else return false
  | none => return false

def toggleAim (key : HostKeyName) (now : ℕ) : CellM I Bool :=
  onAim (fun cell _ => cell.layout.aimToggleKey = some key) (MouseAimController.toggle now)

/-- The directions of a toggle joystick after a press of `key`. -/
def toggledDirections (held : HeldInputs) (control : RuntimeControlBinding)
    (directions : DirectionalInput) (up left down right key : HostKeyName) : DirectionalInput :=
  let available := bindingAvailable control (.key key) held
  ⟨directions.up ^^ (up = key && available), directions.left ^^ (left = key && available),
    directions.down ^^ (down = key && available), directions.right ^^ (right = key && available)⟩

def dispatchKeyboardPress (held : HeldInputs) (key : HostKeyName) (now : ℕ) : CellM I Bool := do
  let (_, cell) ← get
  let control := cell.layout.control
  match cell.layout.input, control.action with
  | .key bindingKey, .tap point =>
    if bindingKey = key && bindingAvailable control (.key key) held then do
      let contact ← pointContactId cell.layout.pointContact
      tapBinding contact point
      return true
    else return false
  | .keyCluster up left down right, .virtualJoystick joystick .toggle _ =>
    if [up, left, down, right].contains key && bindingAvailable control (.key key) held then
      applyDirections joystick
        (toggledDirections held control cell.directions up left down right key) now
    else return false
  | _, _ => return false

def dispatchMousePress (held : HeldInputs) (button : HostMouseButton) : CellM I Bool := do
  let (_, cell) ← get
  let control := cell.layout.control
  if cell.layout.input ≠ .mouseButton button ||
      !bindingAvailable control (.mouseButton button) held then
    return false
  match control.action with
  | .tap point => do
    let contact ← pointContactId cell.layout.pointContact
    tapBinding contact point
    return true
  | _ => return false

/-! ### Aim, ticks and suspension -/

def moveAim (delta : MouseAimDelta) (now : ℕ) : CellM I Bool :=
  onAim (fun _ _ => true) (MouseAimController.moveBy delta now)

/-- Activate the controllers that run without a toggle key, and the others if asked to. -/
def restoreAim (reactivateToggleAim : Bool) (now : ℕ) : CellM I Bool :=
  onAim (fun _ controller =>
      (controller.settings.toggleKey.isNone || reactivateToggleAim) && !controller.isActive)
    (MouseAimController.activate now)

def startAim (now : ℕ) : CellM I Bool :=
  onAim (fun _ controller => controller.settings.toggleKey.isNone) (MouseAimController.activate now)

def disableAim : CellM I Bool :=
  onAim (fun _ controller => controller.isActive) MouseAimController.deactivate

def setAds (active : Bool) (cell : ControlCell) : ControlCell :=
  { cell with aimController := cell.aimController.map (·.setAdsActive active) }

def tickAim (now : ℕ) : CellM I Bool := onAim (fun _ _ => true) (MouseAimController.tick now)

def reaffirmJoystick (now : ℕ) : CellM I Bool := do
  let (engine, cell) ← get
  match cell.action with
  | .virtualJoystick joystick _ (some interval) =>
    match engine.state.position joystick.contactId with
    | some position =>
      if cell.lastJoystickFrame.any fun last => now - last < interval then return false
      else do
        onEngine (TouchEngine.moveContact joystick.contactId position)
        update fun cell => { cell with lastJoystickFrame := some now }
        return true
    | none => return false
  | _ => return false

/-- Cancel the controller.  A failing `cancel` has already forgotten its contact, so it is
called once more to clear the rest; the first error is kept in the state. -/
def cancelAim : EStateM SessionError ((TouchEngine I × Option SessionError) × ControlCell) Bool := do
  let (_, cell) ← get
  match cell.aimController with
  | some controller => do
    let once : MouseAimController → EStateM SessionError
        ((TouchEngine I × Option SessionError) × ControlCell) (Except TouchEngineError Bool) :=
      fun controller => zoom (fun t => (t.1.1, controller))
        (fun s t => ((s.1, t.1.2), { t.2 with aimController := some s.2 }))
        (attempt MouseAimController.cancel)
    let keep : TouchEngineError → EStateM SessionError
        ((TouchEngine I × Option SessionError) × ControlCell) Unit :=
      fun error => modify fun t => ((t.1.1, t.1.2.or (some (.engine error))), t.2)
    match ← once controller with
    | .ok _ => return true
    | .error error => do
      keep error
      let (_, cell) ← get
      match ← once (cell.aimController.getD controller) with
      | .ok _ => return true
      | .error error => do
        keep error
        return true
  | none => return false

/-- The state of a control after a suspension. -/
def reset (cell : ControlCell) : ControlCell :=
  { cell with
    directions := .neutral
    desiredDirections := .neutral
    activeBinding := false
    desiredBinding := false
    lastJoystickFrame := none }

end ControlCell

/-! ### The operations of the runtime -/

namespace UnifiedRuntime

/-- Visit every control. -/
def visit (f : CellM I Bool) : RuntimeM I Bool :=
  zoom (fun rt => (rt.engine, rt.cells)) (fun s rt => { rt with engine := s.1, cells := s.2 })
    (each f)

def onEngine {α : Type} (m : TouchEngine.EngineM I α) : RuntimeM I α :=
  mapError .engine (zoom engine (fun e rt => { rt with engine := e }) m)

def mapCells (f : ControlCell → ControlCell) : RuntimeM I Unit :=
  modify fun rt => { rt with cells := rt.cells.map f }

def hasToggleKeyAim (rt : UnifiedRuntime I) : Bool :=
  rt.cells.any fun cell => cell.aimController.any fun c => c.settings.toggleKey.isSome

def hasAlwaysOnAim (rt : UnifiedRuntime I) : Bool :=
  rt.cells.any fun cell => cell.aimController.any fun c => c.settings.toggleKey.isNone

def aimActive (rt : UnifiedRuntime I) : Bool :=
  rt.cells.any fun cell => cell.aimController.any MouseAimController.isActive

def start (now : ℕ) : RuntimeM I Unit := do
  let _ ← visit (ControlCell.startAim now)

def restoreAim (reactivateToggleAim : Bool) (now : ℕ) : RuntimeM I Unit := do
  let _ ← visit (ControlCell.restoreAim reactivateToggleAim now)

def setAimEnabled (enabled : Bool) (now : ℕ) : RuntimeM I Unit :=
  if enabled then restoreAim true now
  else do
    let _ ← visit ControlCell.disableAim

/-- The layers selected by the active layers. -/
def refreshLayers : RuntimeM I Unit :=
  modify fun rt => { rt with held := { rt.held with
    selectedInputLayers := refreshSelectedInputLayers rt.held.activeLayers rt.layouts } }

def reconcileContinuous (now : ℕ) : RuntimeM I Bool := do
  refreshLayers
  let rt ← get
  mapCells (ControlCell.desire rt.setup rt.held)
  let retained ← visit (ControlCell.retainDirections now)
  let released ← visit ControlCell.releaseHold
  let engaged ← visit (ControlCell.engage now)
  return retained || released || engaged

def releaseMouseButtons (now : ℕ) : RuntimeM I Unit := do
  let rt ← get
  if rt.held.heldMouseButtons ≠ 0 then do
    set { rt with
      held := { rt.held with heldMouseButtons := 0 }
      cells := rt.cells.map (ControlCell.setAds false) }
    let _ ← reconcileContinuous now

def cursorDown (position : Point) : RuntimeM I Unit := do
  let rt ← get
  if rt.engine.state.isActive rt.setup.cursorContact then
    onEngine (TouchEngine.moveContact rt.setup.cursorContact position)
  else onEngine (TouchEngine.beginContact rt.setup.cursorContact position)

def cursorMove (position : Point) : RuntimeM I Unit := do
  let rt ← get
  if rt.engine.state.isActive rt.setup.cursorContact then
    onEngine (TouchEngine.moveContact rt.setup.cursorContact position)

def cursorUp : RuntimeM I Unit := do
  let rt ← get
  if rt.engine.state.isActive rt.setup.cursorContact then
    onEngine (TouchEngine.endContact rt.setup.cursorContact)

/-- What is held after the key `key` went down or up. -/
def holdKey (setup : RuntimeSetup) (held : HeldInputs) (key : HostKeyName) (pressed : Bool) :
    HeldInputs :=
  { held with
    heldKeys := if pressed then held.heldKeys.insert key else held.heldKeys.remove key
    activeLayers := match setup.layerControls key with
      | some ⟨mask, .hold⟩ =>
        if pressed then held.activeLayers ||| mask else held.activeLayers &&& ~~~mask
      | some ⟨mask, .toggle⟩ => if pressed then held.activeLayers ^^^ mask else held.activeLayers
      | none => held.activeLayers
    heldModifiers :=
      if setup.modifierKeys.contains key then
        if pressed then held.heldModifiers.insert key else held.heldModifiers.remove key
      else held.heldModifiers }

/-- A key of a profile went down or up. -/
def handleKey (key : HostKeyName) (pressed : Bool) (now : ℕ) : RuntimeM I Bool := do
  modify fun rt => { rt with held := holdKey rt.setup rt.held key pressed }
  let submitted ← reconcileContinuous now
  let rt ← get
  if (rt.setup.layerControls key).isSome || !pressed then return submitted
  let toggled ← visit (ControlCell.toggleAim key now)
  let dispatched ← visit (ControlCell.dispatchKeyboardPress rt.held key now)
  return submitted || toggled || dispatched

def handleKeyboard (event : HostKeyEvent) (now : ℕ) : RuntimeM I Bool :=
  match event.transition, runtimeKey event.key with
  | .repeated, _ | _, none => return false
  | .pressed, some key => handleKey key true now
  | .released, some key => handleKey key false now

/-- What is held, and the scale of the aims, after the button `button` went down or up. -/
def holdButton (button : HostMouseButton) (pressed : Bool) (rt : UnifiedRuntime I) :
    UnifiedRuntime I :=
  { rt with
    held := { rt.held with
      heldMouseButtons := setMouseButtonHeld rt.held.heldMouseButtons button pressed }
    cells := if button = .right then rt.cells.map (ControlCell.setAds pressed) else rt.cells }

/-- A mouse button went down or up. -/
def handleButton (button : HostMouseButton) (pressed : Bool) (now : ℕ) : RuntimeM I Bool := do
  modify (holdButton button pressed)
  let submitted ← reconcileContinuous now
  let rt ← get
  if !pressed then return submitted
  let dispatched ← visit (ControlCell.dispatchMousePress rt.held button)
  return submitted || dispatched

def handleMouse (event : MouseEvent) (now : ℕ) : RuntimeM I Bool :=
  match event with
  | .motion dx dy =>
    if dx ≠ 0 ∨ dy ≠ 0 then visit (ControlCell.moveAim ⟨dx, dy⟩ now) else return false
  | .wheel _ _ => return false
  | .button button .pressed => handleButton button true now
  | .button button .released => handleButton button false now
  | .button _ .repeated => return false

def tick (now : ℕ) : RuntimeM I Unit := do
  let _ ← visit (ControlCell.tickAim now)
  let _ ← visit (ControlCell.reaffirmJoystick now)

/-- Cancel every contact and forget everything that is held.  Errors do not stop the
cleaning up; the first one is reported at its end. -/
def suspend : RuntimeM I Unit := do
  let failure ← (zoom (fun rt => ((rt.engine, none), rt.cells))
    (fun s rt => { rt with engine := s.1.1, cells := s.2 })
    (do
      let _ ← each ControlCell.cancelAim
      let ((_, failure), _) ← get
      return failure) : RuntimeM I (Option SessionError))
  let cancelled ← attempt (onEngine TouchEngine.cancelAll)
  let failure := match cancelled with
    | .ok _ => failure
    | .error error => failure.or (some error)
  modify fun rt => { rt with held := .none, cells := rt.cells.map ControlCell.reset }
  match failure with
  | none => return ()
  | some error => throw error

/-- The pixel under a point of the overlay surface. -/
def cursorPoint (resolution : Resolution) (x y : ℚ) (surfaceWidth surfaceHeight : ℕ) :
    Option Point :=
  if surfaceWidth = 0 ∨ surfaceHeight = 0 ∨ resolution.width = 0 ∨ resolution.height = 0 then none
  else
    let x := clampRat x 0 (surfaceWidth - 1 : ℕ)
    let y := clampRat y 0 (surfaceHeight - 1 : ℕ)
    some ⟨min (asUnsigned u32Max ⌊x * resolution.width / surfaceWidth⌋) (resolution.width - 1),
      min (asUnsigned u32Max ⌊y * resolution.height / surfaceHeight⌋) (resolution.height - 1)⟩

end UnifiedRuntime

end Visits

end Wroid
