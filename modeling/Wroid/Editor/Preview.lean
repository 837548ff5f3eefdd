import Wroid.Editor.ProfileModel

/-!
# The preview of the bindings

The editor page shows which bindings the keys and buttons of the user reach, without a game.  This
is the preview of `profile-model.js`: the page keeps what is pressed, the layers that are active and
the taps that light up, and asks every binding at each event.

Sets of texts are finite sets; nothing depends on their order.

## Main definitions

* `PreviewState` — what is pressed, the active layers and the latched taps.
* `bindingAvailableForSource` — whether an input reaches a binding.
* `setPreviewKey`, `setPreviewButton`, `handleTestPointer` — the events.
* `activePreviewBindingIndexes` — the bindings that light up.
-/

namespace Wroid.Page

open Lib

structure PreviewState where
  pressedKeys : Finset String
  pressedButtons : Finset String
  activeLayers : Finset String
  toggledLayers : Finset String
  latchedTapIndexes : Finset ℕ
  mouseMoving : Bool

def createPreviewState : PreviewState := ⟨∅, ∅, ∅, ∅, ∅, false⟩

/-- `binding.action.toggle_key` -/
def PageAction.toggleKey : PageAction → Option String
  | .mouseAim _ _ toggleKey _ _ _ _ => toggleKey
  | .tap _ | .hold _ | .virtualJoystick .. | .macroSteps _ => none

section Preview

variable (toLowerCase : String → String)

/-! ### Layers -/

def layerIsActive (preview : PreviewState) (layer : LayerV2) : Bool :=
  match layer.activation with
  | .hold key => canonicalKey toLowerCase key ∈ preview.pressedKeys
  | .toggle _ => layer.name ∈ preview.toggledLayers

def refreshActiveLayers (preview : PreviewState) (profile : PageProfile) : PreviewState :=
  { preview with
    activeLayers :=
      ((profile.layers.filter (layerIsActive toLowerCase preview)).map LayerV2.name).toFinset }

/-- A press of `canonical` toggles the layer. -/
def toggleLayer (canonical : String) (toggledLayers : Finset String) (layer : LayerV2) :
    Finset String :=
  match layer.activation with
  | .hold _ => toggledLayers
  | .toggle key =>
    if canonicalKey toLowerCase key ≠ canonical then toggledLayers
    else if layer.name ∈ toggledLayers then toggledLayers.erase layer.name
    else insert layer.name toggledLayers

/-! ### Availability -/

/-- `bindingLayerIndex`: none is `-1`. -/
def bindingLayerIndex (profile : PageProfile) (binding : PageBinding) : Option ℕ :=
  match binding.layer with
  | none => some 0
  | some name =>
    if name = "" then some 0
    else (profile.layers.findIdx? fun layer => layer.name = name).map (· + 1)

def bindingHasSource (binding : PageBinding) (kind : InputKind) (value : String) : Bool :=
  (bindingScopeInputKeys binding.input).any fun source =>
    source.2 = kind && canonicalKey toLowerCase source.1 = value

/-- The layers selected so far, after the binding claimed the input. -/
def claimLayerIndex (profile : PageProfile) (preview : PreviewState) (kind : InputKind)
    (value : String) (selected : ℕ) (binding : PageBinding) : ℕ :=
  if bindingHasSource toLowerCase binding kind value then
    match bindingLayerIndex profile binding with
    | none => selected
    | some index =>
      if selected < index ∧ binding.layer.any (· ∈ preview.activeLayers) then index else selected
  else selected

def selectedLayerIndex (profile : PageProfile) (preview : PreviewState) (kind : InputKind)
    (value : String) : ℕ :=
  profile.bindings.foldl (claimLayerIndex toLowerCase profile preview kind value) 0

/-- A binding of the same layer has the input with a held modifier. -/
def hasHeldSibling (profile : PageProfile) (preview : PreviewState) (index ownLayer : ℕ)
    (kind : InputKind) (value : String) : Bool :=
  profile.bindings.zipIdx.any fun sibling =>
    sibling.2 ≠ index && bindingLayerIndex profile sibling.1 = some ownLayer &&
      sibling.1.modifier.any (fun modifier =>
        modifier ≠ "" && canonicalKey toLowerCase modifier ∈ preview.pressedKeys) &&
      bindingHasSource toLowerCase sibling.1 kind value

/-- The binding is the one with the index. -/
def bindingAvailableForSource (profile : PageProfile) (preview : PreviewState)
    (binding : PageBinding) (index : ℕ) (kind : InputKind) (value : String) : Bool :=
  match bindingLayerIndex profile binding with
  | none => false
  | some ownLayer =>
    if ownLayer ≠ selectedLayerIndex toLowerCase profile preview kind value then false
    else
      let modifier := canonicalKey toLowerCase (binding.modifier.getD "")
      if modifier ≠ "" then modifier ∈ preview.pressedKeys
      else !hasHeldSibling toLowerCase profile preview index ownLayer kind value

/-! ### Taps -/

def sourceHeld (preview : PreviewState) (kind : InputKind) (canonical : String) : Bool :=
  match kind with
  | .key => canonical ∈ preview.pressedKeys
  | .mouseButton => canonical ∈ preview.pressedButtons

/-- An input of the binding is held and reaches it. -/
def heldSourceAvailable (profile : PageProfile) (preview : PreviewState) (binding : PageBinding)
    (index : ℕ) (source : String × InputKind) : Bool :=
  let canonical := canonicalKey toLowerCase source.1
  sourceHeld preview source.2 canonical &&
    bindingAvailableForSource toLowerCase profile preview binding index source.2 canonical

def latchTapBindingsForSource (preview : PreviewState) (profile : PageProfile) (kind : InputKind)
    (value : String) : PreviewState :=
  { preview with
    latchedTapIndexes := preview.latchedTapIndexes ∪
      ((profile.bindings.zipIdx.filter fun entry => entry.1.action.kind = "tap" &&
        bindingHasSource toLowerCase entry.1 kind value &&
        bindingAvailableForSource toLowerCase profile preview entry.1 entry.2 kind value).map
        Prod.snd).toFinset }

def reconcileTapLatches (preview : PreviewState) (profile : PageProfile) : PreviewState :=
  { preview with
    latchedTapIndexes := preview.latchedTapIndexes.filter fun index =>
      profile.bindings[index]?.any fun binding =>
        binding.action.kind = "tap" &&
          (bindingScopeInputKeys binding.input).any
            (heldSourceAvailable toLowerCase profile preview binding index) }

/-! ### Events -/

def setPreviewKey (profile : PageProfile) (key : String) (pressed : Bool) (preview : PreviewState) :
    PreviewState :=
  let canonical := canonicalKey toLowerCase key
  let wasPressed := decide (canonical ∈ preview.pressedKeys)
  let preview :=
    if pressed && !wasPressed then
      { preview with
        toggledLayers := profile.layers.foldl (toggleLayer toLowerCase canonical)
          preview.toggledLayers }
    else preview
  let preview :=
    { preview with
      pressedKeys :=
        if pressed then insert canonical preview.pressedKeys
        else preview.pressedKeys.erase canonical }
  let preview := refreshActiveLayers toLowerCase preview profile
  let activationKey := decide (canonical ∈ activationKeys toLowerCase profile.layers)
  let preview :=
    if pressed && !wasPressed && !activationKey then
      latchTapBindingsForSource toLowerCase preview profile .key canonical
    else preview
  reconcileTapLatches toLowerCase preview profile

def setPreviewButton (profile : PageProfile) (button : String) (pressed : Bool)
    (preview : PreviewState) : PreviewState :=
  let canonical := canonicalKey toLowerCase button
  let wasPressed := decide (canonical ∈ preview.pressedButtons)
  let preview :=
    { preview with
      pressedButtons :=
        if pressed then insert canonical preview.pressedButtons
        else preview.pressedButtons.erase canonical }
  let preview :=
    if pressed && !wasPressed then
      latchTapBindingsForSource toLowerCase preview profile .mouseButton canonical
    else preview
  reconcileTapLatches toLowerCase preview profile

/-- `handleTestPointer`, while the page is tested: the release of a button that is not held is left
out. -/
def handleTestPointer (profile : PageProfile) (button : String) (pressed : Bool)
    (preview : PreviewState) : PreviewState :=
  if !pressed && !decide (button ∈ preview.pressedButtons) then preview
  else setPreviewButton toLowerCase profile button pressed preview

/-! ### What lights up -/

def previewBindingActive (profile : PageProfile) (preview : PreviewState) (binding : PageBinding)
    (index : ℕ) : Bool :=
  if binding.action.kind = "tap" then index ∈ preview.latchedTapIndexes
  else if binding.input = .mouseMove then
    preview.mouseMoving || binding.action.toggleKey.any fun key =>
      key ≠ "" && canonicalKey toLowerCase key ∈ preview.pressedKeys
  else
    (bindingScopeInputKeys binding.input).any fun source =>
      !(source.2 = .key && canonicalKey toLowerCase source.1 ∈
        activationKeys toLowerCase profile.layers) &&
        heldSourceAvailable toLowerCase profile preview binding index source

def activePreviewBindingIndexes (profile : PageProfile) (preview : PreviewState) : List ℕ :=
  (profile.bindings.zipIdx.filter fun entry =>
    previewBindingActive toLowerCase profile preview entry.1 entry.2).map Prod.snd

end Preview

end Wroid.Page
