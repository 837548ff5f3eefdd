import Wroid.Lib.Checks
import Wroid.Core.Profile

/-!
# Validating a profile

`ProfileV2::validate` collects the text of every rule a profile breaks.  The rules are also
stated as a predicate, with the reading of texts (trimming, case, which toggle keys count as
set) as a parameter, so that the same rules can be read the way another program reads them.

## Main definitions

* `ProfileV2.validate` — the checks of the source, with their messages.
* `TextReading` — how the texts of a profile are read.
* `ProfileV2.Accepts` — the rules, for a reading of texts.

## Main results

* `validate_eq_ok` — **`validate` accepts exactly the profiles that keep the rules.**
-/

namespace Wroid

open Lib

def PROFILE_SCHEMA_VERSION : ℕ := 2

def EPSILON : ℚ := 1 / 1000000000

/-! ### The checks -/

def normalized (value : ℚ) : Bool := -EPSILON ≤ value ∧ value ≤ 1 + EPSILON

def validatePoint (point : NormalizedPoint) (label : String) : List String :=
  errorIf (¬ normalized point.x ∨ ¬ normalized point.y)
    s!"{label} must use normalized x/y coordinates within 0.0..=1.0"

def validateRect (rect : NormalizedRect) (label : String) : List String :=
  errorIf (¬ normalized rect.x ∨ ¬ normalized rect.y ∨ rect.w ≤ 0 ∨ rect.h ≤ 0 ∨
      1 + EPSILON < rect.x + rect.w ∨ 1 + EPSILON < rect.y + rect.h)
    s!"{label} must stay inside the normalized viewport with positive w/h"

def validateInput (input : InputV2) (binding : String) : List String :=
  match input with
  | .key key =>
    if trim rustBlank key = "" then [s!"binding {binding} has an empty key input"]
    else errorIf (¬ knownKeyName key) s!"binding {binding} uses unsupported key input: {key}"
  | .keyCluster up left down right =>
    if [up, left, down, right].any fun value => trim rustBlank value = "" then
      [s!"binding {binding} has an empty key_cluster input"]
    else
      errorIf ([up, left, down, right].any fun value => ¬ knownKeyName value)
        s!"binding {binding} key_cluster contains an unsupported key"
  | .mouseButton button =>
    if trim rustBlank button = "" then [s!"binding {binding} has an empty mouse button"]
    else
      errorIf (canonicalKey button ∉ supportedButtonNames)
        s!"binding {binding} uses unsupported mouse button: {button}"
  | .mouseMove => []

mutual

def validateAction (action : ActionV2) (binding : String) : List String :=
  match action with
  | .tap point => validatePoint point s!"binding {binding} tap point"
  | .hold point => validatePoint point s!"binding {binding} hold point"
  | .virtualJoystick center radius deadZone _ reaffirmMs =>
    validatePoint center s!"binding {binding} virtual_joystick center" ++
    errorIf (radius ≤ 0 ∨ 1 < radius)
      s!"binding {binding} virtual_joystick radius must be finite and within 0.0..=1.0" ++
    (if deadZone < 0 ∨ 1 ≤ deadZone then
      [s!"binding {binding} virtual_joystick dead_zone must be finite and within 0.0..1.0"]
    else
      errorIf (radius ≤ deadZone)
        s!"binding {binding} virtual_joystick dead_zone must be smaller than radius") ++
    errorIf (reaffirmMs = some 0)
      s!"binding {binding} virtual_joystick reaffirm_ms must be greater than zero"
  | .mouseAim region sensitivity toggleKey recenterThreshold _ adsMultiplier reaffirmMs =>
    validateRect region s!"binding {binding} mouse_aim region" ++
    errorIf (sensitivity ≤ 0)
      s!"binding {binding} mouse_aim sensitivity must be finite and greater than zero" ++
    errorIf (toggleKey.any fun key => ¬ knownKeyName key)
      s!"binding {binding} mouse_aim toggle_key must be a supported key name" ++
    errorIf (¬ (1 / 10 ≤ recenterThreshold ∧ recenterThreshold ≤ 1))
      s!"binding {binding} mouse_aim recenter_threshold must be finite and within 0.1..=1.0" ++
    errorIf (adsMultiplier.any fun value => ¬ (1 / 10 ≤ value ∧ value ≤ 1))
      s!"binding {binding} mouse_aim ads_multiplier must be finite and within 0.1..=1.0" ++
    errorIf (reaffirmMs = some 0)
      s!"binding {binding} mouse_aim reaffirm_ms must be greater than zero"
  | .macroSteps steps =>
    errorIf (steps.isEmpty) s!"binding {binding} macro must contain at least one step" ++
    validateSteps steps binding 0

/-- The loop over the steps of a macro, from the given index. -/
def validateSteps (steps : List ActionV2) (binding : String) (index : ℕ) : List String :=
  match steps with
  | [] => []
  | step :: rest =>
    validateAction step s!"{binding}.step[{index}]" ++ validateSteps rest binding (index + 1)

end

/-- The input an action needs, where the binding's does not fit. -/
def requiredInput (input : InputV2) (action : ActionV2) : Option String :=
  match action, input with
  | .tap _, .key _ | .tap _, .mouseButton _ | .hold _, .key _ | .hold _, .mouseButton _ => none
  | .tap _, _ | .hold _, _ => some "key or mouse_button"
  | .virtualJoystick .., .keyCluster .. => none
  | .virtualJoystick .., _ => some "key_cluster"
  | .mouseAim .., .mouseMove => none
  | .mouseAim .., _ => some "mouse_move"
  | .macroSteps _, _ => none

def validateBindingCompatibility (input : InputV2) (action : ActionV2) (binding : String) :
    List String :=
  match requiredInput input action with
  | none => []
  | some required =>
    [s!"binding {binding} pairs {inputKind input} input with {actionKind action} action; {actionKind action} requires {required}"]

def validateModifierInputKeys (binding : BindingV2) (modifier : String) : List String :=
  match binding.input with
  | .key key =>
    errorIf (canonicalKey key = canonicalKey modifier)
      s!"binding {binding.name} modifier must differ from input key: {key}"
  | .keyCluster up left down right =>
    [up, left, down, right].flatMap fun key =>
      errorIf (canonicalKey key = canonicalKey modifier)
        s!"binding {binding.name} modifier must differ from key_cluster key: {key}"
  | .mouseButton _ | .mouseMove => []

/-- The checks of one layer's name; the state is the names seen so far. -/
def validateLayerName (layerNames : List String) (layer : LayerV2) : List String × List String :=
  let layerName := trim rustBlank layer.name
  let reserved := errorIf (asciiLower layerName = "base") "layer name base is reserved"
  if layerName = "" then ("layer name must not be empty" :: reserved, layerNames)
  else if layerName ∈ layerNames then
    (s!"duplicate layer name: {layer.name}" :: reserved, layerNames)
  else (reserved, layerName :: layerNames)

/-- The checks of one layer's activation key; the state is the keys seen so far. -/
def validateLayerKey (activationKeys : List String) (layer : LayerV2) :
    List String × List String :=
  let key := layer.activation.key
  (errorIf (¬ knownKeyName key) s!"layer {layer.name} uses unsupported activation key: {key}" ++
    errorIf (canonicalKey key ∈ activationKeys) s!"duplicate layer activation key: {key}",
   canonicalKey key :: activationKeys)

/-- The canonical activation keys of the profile. -/
def activationKeys (layers : List LayerV2) : List String :=
  layers.map fun layer => canonicalKey layer.activation.key

/-- The activation keys that a binding of the base layer without a modifier uses. -/
def validateBaseLayerKeys (layers : List LayerV2) (binding : BindingV2) : List String :=
  if binding.layer = none ∧ binding.modifier = none then
    (bindingInputKeys binding.input).flatMap fun key =>
      errorIf (canonicalKey key ∈ activationKeys layers)
        s!"layer activation key {key} cannot be used by a base-layer binding"
  else []

/-- The checks of a binding's modifier. -/
def validateModifier (binding : BindingV2) (modifier : String) : List String :=
  errorIf (¬ knownKeyName modifier)
    s!"binding {binding.name} uses unsupported modifier: {modifier}" ++
  validateModifierInputKeys binding modifier ++
  errorIf (binding.input = .mouseMove)
    s!"binding {binding.name} cannot use a modifier with mouse_move input" ++
  if canonicalKey modifier = "ctrl" then
    (bindingInputKeys binding.input).flatMap fun key =>
      let key := canonicalKey key
      errorIf (key = "esc" ∨ key = "c")
        s!"binding {binding.name} uses ctrl+{key}, which is reserved for the session exit hotkey"
  else []

/-- The place an input is used in: layer, modifier, kind and name. -/
abbrev ScopedInput := String × Option String × InputKind × String

/-- The layer a binding is scoped to. -/
def BindingV2.scopeLayer (binding : BindingV2) : String := binding.layer.getD "base"

def BindingV2.scopeModifier (binding : BindingV2) : Option String :=
  binding.modifier.map canonicalKey

/-- The text for the modifier of a scope. -/
def modifierText : Option String → String
  | some modifier => s!"with modifier {modifier}"
  | none => "without a modifier"

/-- The checks of one input of a binding.  The state is the inputs this binding has used and
those of all scopes so far; an input the binding repeats is passed over. -/
def validateScopedInput (layers : List LayerV2) (binding : BindingV2)
    (s : List (InputKind × String) × List ScopedInput) (input : String × InputKind) :
    List String × List (InputKind × String) × List ScopedInput :=
  let key := input.1
  let kind := input.2
  let scopedInput : ScopedInput := (binding.scopeLayer, binding.scopeModifier, kind, canonicalKey key)
  if (kind, canonicalKey key) ∈ s.1 then ([], s)
  else
    (errorIf (scopedInput ∈ s.2)
        s!"{kind.text} {key} drives multiple bindings in {binding.scopeLayer} layer {modifierText binding.scopeModifier}" ++
      errorIf (kind = .key ∧ binding.layer.isSome ∧ (binding.scopeLayer, canonicalKey key) ∈
          layers.map fun layer => (layer.name, canonicalKey layer.activation.key))
        s!"layer activation key {key} cannot be used by binding {binding.name} inside layer {binding.scopeLayer}",
     (kind, canonicalKey key) :: s.1, scopedInput :: s.2)

/-- The checks of one binding.  The state is the names and scoped inputs seen so far. -/
def validateBinding (layers : List LayerV2) (s : List String × List ScopedInput)
    (binding : BindingV2) : List String × List String × List ScopedInput :=
  let bindingName := trim rustBlank binding.name
  let named :=
    if bindingName = "" then (["binding name must not be empty"], s.1)
    else if bindingName ∈ s.1 then ([s!"duplicate binding name: {binding.name}"], s.1)
    else ([], bindingName :: s.1)
  let inputs := scan (validateScopedInput layers binding) (bindingScopeInputKeys binding.input) ([], s.2)
  (named.1 ++
    validateInput binding.input binding.name ++
    validateAction binding.action binding.name ++
    validateBindingCompatibility binding.input binding.action binding.name ++
    (match binding.layer with
      | some layer => errorIf (layer ∉ layers.map LayerV2.name)
          s!"binding {binding.name} references unknown layer: {layer}"
      | none => []) ++
    (match binding.modifier with
      | some modifier => validateModifier binding modifier
      | none => []) ++
    inputs.1,
   named.2, inputs.2.2)

/-- Every error of the profile, in the order in which they are found. -/
def ProfileV2.validationErrors (p : ProfileV2) : List String :=
  errorIf (p.schemaVersion ≠ PROFILE_SCHEMA_VERSION)
    s!"schema_version must be {PROFILE_SCHEMA_VERSION}, got {p.schemaVersion}" ++
  errorIf (trim rustBlank p.name = "") "name must not be empty" ++
  errorIf (trim rustBlank p.packageName = "") "package_name must not be empty" ++
  (scan validateLayerName p.layers []).1 ++
  errorIf (64 < p.layers.length) "profile may declare at most 64 layers" ++
  (scan validateLayerKey p.layers []).1 ++
  p.bindings.flatMap (validateBaseLayerKeys p.layers) ++
  (scan (validateBinding p.layers) p.bindings ([], [])).1

def ProfileV2.validate (p : ProfileV2) : Except (List String) Unit :=
  if p.validationErrors.isEmpty then .ok () else .error p.validationErrors

/-! ### The rules -/

/-- How the texts of a profile are read. -/
structure TextReading where
  /-- A name without its surrounding blanks. -/
  trim : String → String
  /-- A key or button name in the form the tables have. -/
  canonical : String → String
  /-- The toggle key that is checked, when the profile gives this one. -/
  toggleKey : Option String → Option String

/-- The reading of `ProfileV2::validate`. -/
def TextReading.rust : TextReading := ⟨Lib.trim rustBlank, canonicalKey, id⟩

namespace TextReading

variable (T : TextReading)

def Known (key : String) : Prop := T.canonical key ∈ supportedKeyNames

end TextReading

def PointInside (point : NormalizedPoint) : Prop := normalized point.x ∧ normalized point.y

def RectInside (rect : NormalizedRect) : Prop :=
  normalized rect.x ∧ normalized rect.y ∧ 0 < rect.w ∧ 0 < rect.h ∧
    rect.x + rect.w ≤ 1 + EPSILON ∧ rect.y + rect.h ≤ 1 + EPSILON

section Rules

variable (T : TextReading)

def InputV2.Fine : InputV2 → Prop
  | .key value => T.trim value ≠ "" ∧ T.Known value
  | .keyCluster up left down right =>
    ∀ value ∈ [up, left, down, right], T.trim value ≠ "" ∧ T.Known value
  | .mouseButton button => T.trim button ≠ "" ∧ T.canonical button ∈ supportedButtonNames
  | .mouseMove => True

mutual

def ActionV2.Fine : ActionV2 → Prop
  | .tap point | .hold point => PointInside point
  | .virtualJoystick center radius deadZone _ reaffirmMs =>
    PointInside center ∧ (0 < radius ∧ radius ≤ 1) ∧ (0 ≤ deadZone ∧ deadZone < 1) ∧
      deadZone < radius ∧ reaffirmMs ≠ some 0
  | .mouseAim region sensitivity toggleKey recenterThreshold _ adsMultiplier reaffirmMs =>
    RectInside region ∧ 0 < sensitivity ∧ (∀ key ∈ T.toggleKey toggleKey, T.Known key) ∧
      (1 / 10 ≤ recenterThreshold ∧ recenterThreshold ≤ 1) ∧
      (∀ value ∈ adsMultiplier, 1 / 10 ≤ value ∧ value ≤ 1) ∧ reaffirmMs ≠ some 0
  | .macroSteps steps => steps ≠ [] ∧ ActionV2.FineSteps steps

def ActionV2.FineSteps : List ActionV2 → Prop
  | [] => True
  | step :: rest => step.Fine ∧ ActionV2.FineSteps rest

end

/-- The rules for a binding's modifier. -/
structure BindingV2.ModifierFine (binding : BindingV2) (modifier : String) : Prop where
  known : T.Known modifier
  not_mouse_move : binding.input ≠ .mouseMove
  differs : ∀ key ∈ bindingInputKeys binding.input, T.canonical key ≠ T.canonical modifier
  not_reserved : T.canonical modifier = "ctrl" →
    ∀ key ∈ bindingInputKeys binding.input, T.canonical key ≠ "esc" ∧ T.canonical key ≠ "c"

/-- The rules for a binding by itself. -/
structure BindingV2.Fine (layers : List LayerV2) (binding : BindingV2) : Prop where
  named : T.trim binding.name ≠ ""
  input : binding.input.Fine T
  action : binding.action.Fine T
  compatible : requiredInput binding.input binding.action = none
  layer : ∀ layer ∈ binding.layer, layer ∈ layers.map LayerV2.name
  modifier : ∀ modifier ∈ binding.modifier, binding.ModifierFine T modifier
  /-- A binding inside a layer does not use the key that activates it. -/
  not_own_key : ∀ name ∈ binding.layer, ∀ layer ∈ layers, layer.name = name →
    ∀ key ∈ bindingInputKeys binding.input,
      T.canonical key ≠ T.canonical layer.activation.key

/-- The places a binding's inputs are used in. -/
def BindingV2.scopedInputs (binding : BindingV2) : Set ScopedInput :=
  { x | ∃ input ∈ bindingScopeInputKeys binding.input,
    x = (binding.scopeLayer, binding.modifier.map T.canonical, input.2, T.canonical input.1) }

/-- The rules of a profile. -/
structure ProfileV2.Accepts (p : ProfileV2) : Prop where
  schema : p.schemaVersion = PROFILE_SCHEMA_VERSION
  named : T.trim p.name ≠ ""
  package : T.trim p.packageName ≠ ""
  layer_named : ∀ layer ∈ p.layers, T.trim layer.name ≠ ""
  layer_not_base : ∀ layer ∈ p.layers, T.canonical layer.name ≠ "base"
  layer_names : p.layers.Pairwise fun a b => T.trim a.name ≠ T.trim b.name
  layer_count : p.layers.length ≤ 64
  layer_keys_known : ∀ layer ∈ p.layers, T.Known layer.activation.key
  layer_keys : p.layers.Pairwise fun a b =>
    T.canonical a.activation.key ≠ T.canonical b.activation.key
  /-- A plain base-layer binding uses no activation key at all. -/
  base_keys : ∀ binding ∈ p.bindings, binding.layer = none → binding.modifier = none →
    ∀ key ∈ bindingInputKeys binding.input, ∀ layer ∈ p.layers,
      T.canonical key ≠ T.canonical layer.activation.key
  bindings : ∀ binding ∈ p.bindings, binding.Fine T p.layers
  binding_names : p.bindings.Pairwise fun a b => T.trim a.name ≠ T.trim b.name
  binding_inputs : p.bindings.Pairwise fun a b => Disjoint (a.scopedInputs T) (b.scopedInputs T)

end Rules

/-! ### The checks decide the rules -/

section Decide

open TextReading (rust)

theorem mem_bindingInputKeys {input : InputV2} {key : String} :
    key ∈ bindingInputKeys input ↔ (key, InputKind.key) ∈ bindingScopeInputKeys input := by
  cases input <;> simp [bindingInputKeys, bindingScopeInputKeys]

theorem knownKeyName_iff {key : String} : knownKeyName key = true ↔ rust.Known key := by
  simp [knownKeyName, TextReading.Known, rust]

theorem validatePoint_eq_nil {point : NormalizedPoint} {label : String} :
    validatePoint point label = [] ↔ PointInside point := by
  rw [validatePoint, errorIf_eq_nil, PointInside]
  tauto

theorem validateRect_eq_nil {rect : NormalizedRect} {label : String} :
    validateRect rect label = [] ↔ RectInside rect := by
  rw [validateRect, errorIf_eq_nil, RectInside]
  push Not
  rfl

/-- The checks of the names of a key cluster. -/
theorem validateNames_eq_nil (keys : List String) {empty unsupported : String} :
    (if keys.any fun value => trim rustBlank value = "" then [empty]
      else errorIf (keys.any fun value => ¬ knownKeyName value) unsupported) = [] ↔
      ∀ key ∈ keys, rust.trim key ≠ "" ∧ rust.Known key := by
  simp only [List.any_eq_true, decide_eq_true_eq, ← knownKeyName_iff, forall_and]
  split
  · next h =>
    obtain ⟨key, hkey, hempty⟩ := h
    exact iff_of_false (by simp) fun ⟨hall, _⟩ => hall key hkey hempty
  · next h =>
    rw [errorIf_eq_nil]
    push Not at h ⊢
    exact (and_iff_right h).symm

theorem validateInput_eq_nil {input : InputV2} {binding : String} :
    validateInput input binding = [] ↔ input.Fine rust := by
  cases input with
  | key key =>
    simp only [validateInput, InputV2.Fine, ← knownKeyName_iff]
    split <;> simp_all [rust]
  | keyCluster up left down right => exact validateNames_eq_nil [up, left, down, right]
  | mouseButton button =>
    simp only [validateInput, InputV2.Fine]
    split <;> simp_all [rust]
  | mouseMove => simp [validateInput, InputV2.Fine]

mutual

theorem validateAction_eq_nil {action : ActionV2} {binding : String} :
    validateAction action binding = [] ↔ action.Fine rust := by
  match action with
  | .tap point => simp [validateAction, ActionV2.Fine, validatePoint_eq_nil]
  | .hold point => simp [validateAction, ActionV2.Fine, validatePoint_eq_nil]
  | .virtualJoystick center radius deadZone mode reaffirmMs =>
    have hzone : (if deadZone < 0 ∨ 1 ≤ deadZone then
        [s!"binding {binding} virtual_joystick dead_zone must be finite and within 0.0..1.0"]
      else errorIf (radius ≤ deadZone)
        s!"binding {binding} virtual_joystick dead_zone must be smaller than radius") = [] ↔
        (0 ≤ deadZone ∧ deadZone < 1) ∧ deadZone < radius := by
      split
      · next h =>
        refine iff_of_false (by simp) fun ⟨⟨h₀, h₁⟩, _⟩ => ?_
        rcases h with h | h <;> linarith
      · next h =>
        rw [errorIf_eq_nil]
        push Not at h ⊢
        tauto
    simp only [validateAction, ActionV2.Fine, List.append_eq_nil_iff, validatePoint_eq_nil,
      errorIf_eq_nil, hzone]
    push Not
    tauto
  | .mouseAim region sensitivity toggleKey recenterThreshold recenterGapMs adsMultiplier
      reaffirmMs =>
    have htoggle : (¬ (toggleKey.any fun key => ¬ knownKeyName key) = true) ↔
        ∀ key ∈ rust.toggleKey toggleKey, rust.Known key := by
      cases toggleKey <;> simp [rust, TextReading.Known, knownKeyName]
    have hads : (¬ (adsMultiplier.any fun value => ¬ (1 / 10 ≤ value ∧ value ≤ 1)) = true) ↔
        ∀ value ∈ adsMultiplier, 1 / 10 ≤ value ∧ value ≤ 1 := by
      cases adsMultiplier <;> simp
    simp only [validateAction, ActionV2.Fine, List.append_eq_nil_iff, validateRect_eq_nil,
      errorIf_eq_nil, htoggle, hads, not_not, not_le]
    tauto
  | .macroSteps steps =>
    simp only [validateAction, ActionV2.Fine, List.append_eq_nil_iff, errorIf_eq_nil,
      validateSteps_eq_nil, List.isEmpty_iff, ne_eq]

theorem validateSteps_eq_nil {steps : List ActionV2} {binding : String} {index : ℕ} :
    validateSteps steps binding index = [] ↔ ActionV2.FineSteps rust steps := by
  match steps with
  | [] => simp [validateSteps, ActionV2.FineSteps]
  | step :: rest =>
    rw [validateSteps, List.append_eq_nil_iff, validateAction_eq_nil, validateSteps_eq_nil,
      ActionV2.FineSteps]

end

theorem validateBindingCompatibility_eq_nil {input : InputV2} {action : ActionV2}
    {binding : String} : validateBindingCompatibility input action binding = [] ↔
      requiredInput input action = none := by
  unfold validateBindingCompatibility
  split <;> simp_all

theorem validateModifierInputKeys_eq_nil {binding : BindingV2} {modifier : String} :
    validateModifierInputKeys binding modifier = [] ↔
      ∀ key ∈ bindingInputKeys binding.input, canonicalKey key ≠ canonicalKey modifier := by
  unfold validateModifierInputKeys
  cases binding.input <;> simp [bindingInputKeys]

theorem validateModifier_eq_nil {binding : BindingV2} {modifier : String} :
    validateModifier binding modifier = [] ↔ binding.ModifierFine rust modifier := by
  have hctrl : (if canonicalKey modifier = "ctrl" then
      (bindingInputKeys binding.input).flatMap fun key =>
        errorIf (canonicalKey key = "esc" ∨ canonicalKey key = "c")
          s!"binding {binding.name} uses ctrl+{canonicalKey key}, which is reserved for the session exit hotkey"
    else []) = [] ↔ (canonicalKey modifier = "ctrl" → ∀ key ∈ bindingInputKeys binding.input,
      canonicalKey key ≠ "esc" ∧ canonicalKey key ≠ "c") := by
    split <;> simp_all
  simp only [validateModifier, List.append_eq_nil_iff, errorIf_eq_nil, not_not, knownKeyName_iff,
    validateModifierInputKeys_eq_nil, hctrl]
  constructor
  · rintro ⟨⟨⟨hknown, hdiffers⟩, hmove⟩, hreserved⟩
    exact ⟨hknown, hmove, hdiffers, hreserved⟩
  · rintro ⟨hknown, hmove, hdiffers, hreserved⟩
    exact ⟨⟨⟨hknown, hdiffers⟩, hmove⟩, hreserved⟩

theorem validateBaseLayerKeys_eq_nil {layers : List LayerV2} {binding : BindingV2} :
    validateBaseLayerKeys layers binding = [] ↔ (binding.layer = none → binding.modifier = none →
      ∀ key ∈ bindingInputKeys binding.input, ∀ layer ∈ layers,
        canonicalKey key ≠ canonicalKey layer.activation.key) := by
  unfold validateBaseLayerKeys activationKeys
  split
  · next h => simp [h.1, h.2, eq_comm (a := canonicalKey _) (b := canonicalKey _)]
  · next h => exact iff_of_true rfl fun hl hm => absurd ⟨hl, hm⟩ h

/-- An input that is passed over has been checked before. -/
theorem passesOver_validateScopedInput {layers : List LayerV2} {binding : BindingV2} :
    PassesOver (validateScopedInput layers binding)
      (fun input => (input.2, canonicalKey input.1))
      (fun input => (binding.scopeLayer, binding.scopeModifier, input.2, canonicalKey input.1))
      fun input => ¬ (input.2 = .key ∧ binding.layer.isSome ∧
        (binding.scopeLayer, canonicalKey input.1) ∈
          layers.map fun layer => (layer.name, canonicalKey layer.activation.key)) where
  used := fun s input hused => by simp [validateScopedInput, hused]
  errors := fun s input hused => by
    simp only [validateScopedInput, hused, if_false, List.append_eq_nil_iff, errorIf_eq_nil]
  next := fun s input hused => by simp only [validateScopedInput, hused, if_false]
  key_iff := fun a b => by simp only [Prod.mk.injEq, true_and]
  fine_of_eq := fun a b heq hfine => by
    obtain ⟨hkind, hkey⟩ := Prod.mk.inj heq
    rwa [← hkind, ← hkey]

/-- What a binding adds to the memory of the loop: its name, and its inputs. -/
def BindingV2.seenKeys (binding : BindingV2) : Set (String ⊕ ScopedInput) :=
  {.inl (trim rustBlank binding.name)} ∪ .inr '' binding.scopedInputs rust

/-- The memory of the loop over the bindings. -/
def BindingSeen (s : List String × List ScopedInput) : String ⊕ ScopedInput → Prop
  | .inl name => name ∈ s.1
  | .inr input => input ∈ s.2

theorem mem_scopedInputs {binding : BindingV2} {x : ScopedInput} :
    x ∈ binding.scopedInputs rust ↔ ∃ input ∈ bindingScopeInputKeys binding.input,
      x = (binding.scopeLayer, binding.scopeModifier, input.2, canonicalKey input.1) := Iff.rfl

theorem validateBinding_eq_nil {layers : List LayerV2} {binding : BindingV2}
    {s : List String × List ScopedInput} :
    (validateBinding layers s binding).1 = [] ↔
      binding.Fine rust layers ∧ ∀ k ∈ binding.seenKeys, ¬ BindingSeen s k := by
  have hname : (if trim rustBlank binding.name = "" then
        (["binding name must not be empty"], s.1)
      else if trim rustBlank binding.name ∈ s.1 then
        ([s!"duplicate binding name: {binding.name}"], s.1)
      else ([], trim rustBlank binding.name :: s.1)).1 = [] ↔
      trim rustBlank binding.name ≠ "" ∧ trim rustBlank binding.name ∉ s.1 := by
    split_ifs <;> simp_all
  have hlayer : (match binding.layer with
      | some layer => errorIf (layer ∉ layers.map LayerV2.name)
          s!"binding {binding.name} references unknown layer: {layer}"
      | none => []) = [] ↔ ∀ layer ∈ binding.layer, layer ∈ layers.map LayerV2.name := by
    cases binding.layer <;> simp
  have hmodifier : (match binding.modifier with
      | some modifier => validateModifier binding modifier
      | none => []) = [] ↔ ∀ modifier ∈ binding.modifier, binding.ModifierFine rust modifier := by
    cases binding.modifier <;> simp [validateModifier_eq_nil]
  have hkeys : (∀ k ∈ binding.seenKeys, ¬ BindingSeen s k) ↔ trim rustBlank binding.name ∉ s.1 ∧
      ∀ x ∈ binding.scopedInputs rust, x ∉ s.2 := by
    simp only [BindingV2.seenKeys, Set.mem_union, Set.mem_singleton_iff, Set.mem_image, or_imp,
      forall_and, forall_eq, forall_exists_index, and_imp, forall_apply_eq_imp_iff₂, BindingSeen]
  have hown : (∀ input ∈ bindingScopeInputKeys binding.input, ¬ (input.2 = .key ∧
        binding.layer.isSome ∧ (binding.scopeLayer, canonicalKey input.1) ∈
          layers.map fun layer => (layer.name, canonicalKey layer.activation.key))) ↔
      ∀ name ∈ binding.layer, ∀ layer ∈ layers, layer.name = name →
        ∀ key ∈ bindingInputKeys binding.input,
          canonicalKey key ≠ canonicalKey layer.activation.key := by
    cases hl : binding.layer with
    | none => simp
    | some name =>
      simp only [mem_bindingInputKeys, BindingV2.scopeLayer, hl, Option.getD_some, List.mem_map,
        Prod.mk.injEq, Option.isSome_some, true_and, Option.mem_def, Option.some.injEq]
      constructor
      · rintro h _ rfl layer hlayer hname key hkey heq
        exact h _ hkey ⟨rfl, layer, hlayer, hname, heq.symm⟩
      · rintro h ⟨key, kind⟩ hkey ⟨hkind, layer, hlayer, hname, heq⟩
        obtain rfl : kind = .key := hkind
        exact h name rfl layer hlayer hname key hkey heq.symm
  simp only [validateBinding, List.append_eq_nil_iff, hname, hlayer, hmodifier,
    validateInput_eq_nil, validateAction_eq_nil, validateBindingCompatibility_eq_nil, hkeys,
    scan_repeated_eq_nil passesOver_validateScopedInput]
  simp only [forall_and, hown]
  have hinputs : (∀ input ∈ bindingScopeInputKeys binding.input,
      (binding.scopeLayer, binding.scopeModifier, input.2, canonicalKey input.1) ∉ s.2) ↔
      ∀ x ∈ binding.scopedInputs rust, x ∉ s.2 := by
    simp only [mem_scopedInputs]
    constructor
    · rintro h x ⟨input, hinput, rfl⟩
      exact h input hinput
    · exact fun h input hinput => h _ ⟨input, hinput, rfl⟩
  rw [hinputs]
  constructor
  · rintro ⟨⟨⟨⟨⟨⟨⟨hnamed, hnew⟩, hinput⟩, haction⟩, hcompat⟩, hlayer⟩, hmod⟩, hfree, hown⟩
    exact ⟨⟨hnamed, hinput, haction, hcompat, hlayer, hmod, hown⟩, hnew, hfree⟩
  · rintro ⟨hfine, hnew, hfree⟩
    exact ⟨⟨⟨⟨⟨⟨⟨hfine.named, hnew⟩, hfine.input⟩, hfine.action⟩, hfine.compatible⟩, hfine.layer⟩,
      hfine.modifier⟩, hfree, hfine.not_own_key⟩

theorem bindingSeen_validateBinding {layers : List LayerV2} {binding : BindingV2}
    {s : List String × List ScopedInput} (h : (validateBinding layers s binding).1 = [])
    (k : String ⊕ ScopedInput) :
    BindingSeen (validateBinding layers s binding).2 k ↔ BindingSeen s k ∨ k ∈ binding.seenKeys := by
  obtain ⟨hfine, hnew⟩ := validateBinding_eq_nil.mp h
  have hname : trim rustBlank binding.name ∉ s.1 := hnew (.inl _) (.inl rfl)
  have hnamed : trim rustBlank binding.name ≠ "" := hfine.named
  rcases k with name | input
  · simp [BindingSeen, validateBinding, hname, hnamed, BindingV2.seenKeys, or_comm]
  · simp only [BindingSeen, validateBinding, BindingV2.seenKeys, Set.mem_union,
      Set.mem_singleton_iff, reduceCtorEq, Set.mem_image, Sum.inr.injEq, exists_eq_right, false_or]
    rw [mem_scan_repeated passesOver_validateScopedInput, mem_scopedInputs]

theorem disjoint_seenKeys {a b : BindingV2} : Disjoint a.seenKeys b.seenKeys ↔
    rust.trim a.name ≠ rust.trim b.name ∧ Disjoint (a.scopedInputs rust) (b.scopedInputs rust) := by
  have hname : Disjoint ({.inl (trim rustBlank a.name)} : Set (String ⊕ ScopedInput)) b.seenKeys ↔
      rust.trim a.name ≠ rust.trim b.name := by
    simp [Set.disjoint_singleton_left, BindingV2.seenKeys, rust]
  have hinputs : Disjoint (.inr '' a.scopedInputs rust) b.seenKeys ↔
      Disjoint (a.scopedInputs rust) (b.scopedInputs rust) := by
    rw [BindingV2.seenKeys, Set.disjoint_union_right, Set.disjoint_image_iff Sum.inr_injective]
    simp
  rw [← hname, ← hinputs, ← Set.disjoint_union_left, ← BindingV2.seenKeys]

theorem scan_validateLayerName_eq_nil {layers : List LayerV2} :
    (scan validateLayerName layers []).1 = [] ↔
      (∀ layer ∈ layers, rust.trim layer.name ≠ "" ∧ rust.canonical layer.name ≠ "base") ∧
        layers.Pairwise fun a b => rust.trim a.name ≠ rust.trim b.name := by
  rw [scan_eq_nil (fun s k => k ∈ s)
    (fun l => rust.trim l.name ≠ "" ∧ rust.canonical l.name ≠ "base")
    fun l => {rust.trim l.name}]
  · simp
  · intro s layer
    simp only [validateLayerName, Set.mem_singleton_iff, forall_eq]
    split_ifs <;> simp_all [rust, canonicalKey]
  · intro s layer h k
    simp only [validateLayerName] at h ⊢
    split_ifs at h ⊢
    simp_all [rust, or_comm]

theorem scan_validateLayerKey_eq_nil {layers : List LayerV2} :
    (scan validateLayerKey layers []).1 = [] ↔
      (∀ layer ∈ layers, rust.Known layer.activation.key) ∧ layers.Pairwise fun a b =>
        rust.canonical a.activation.key ≠ rust.canonical b.activation.key := by
  rw [scan_eq_nil (fun s k => k ∈ s) (fun l => rust.Known l.activation.key)
    fun l => {rust.canonical l.activation.key}]
  · simp
  · intro s layer
    simp [validateLayerKey, knownKeyName, TextReading.Known, rust]
  · intro s layer _ k
    simp [validateLayerKey, rust, or_comm]

theorem validationErrors_eq_nil {p : ProfileV2} : p.validationErrors = [] ↔ p.Accepts rust := by
  have hbindings : (scan (validateBinding p.layers) p.bindings ([], [])).1 = [] ↔
      (∀ b ∈ p.bindings, b.Fine rust p.layers) ∧ p.bindings.Pairwise fun a b =>
        rust.trim a.name ≠ rust.trim b.name ∧
          Disjoint (a.scopedInputs rust) (b.scopedInputs rust) := by
    rw [scan_eq_nil BindingSeen (fun b => b.Fine rust p.layers) BindingV2.seenKeys
      (fun _ _ => validateBinding_eq_nil) fun _ _ h k => bindingSeen_validateBinding h k]
    have hempty : ∀ k, ¬ BindingSeen ([], []) k := fun k => by cases k <;> simp [BindingSeen]
    simp [hempty, disjoint_seenKeys]
  simp only [ProfileV2.validationErrors, List.append_eq_nil_iff, errorIf_eq_nil, not_not,
    scan_validateLayerName_eq_nil, scan_validateLayerKey_eq_nil, hbindings, List.flatMap_eq_nil_iff,
    validateBaseLayerKeys_eq_nil, List.pairwise_and_iff, not_lt]
  constructor
  · rintro ⟨⟨⟨⟨⟨⟨⟨hschema, hname⟩, hpackage⟩, hlayer, hlayers⟩, hcount⟩, hkeys, hkeys'⟩, hbase⟩,
      hfine, hnames, hinputs⟩
    exact ⟨hschema, hname, hpackage, fun l hl => (hlayer l hl).1, fun l hl => (hlayer l hl).2,
      hlayers, hcount, hkeys, hkeys', hbase, hfine, hnames, hinputs⟩
  · intro h
    exact ⟨⟨⟨⟨⟨⟨⟨h.schema, h.named⟩, h.package⟩,
      fun l hl => ⟨h.layer_named l hl, h.layer_not_base l hl⟩, h.layer_names⟩, h.layer_count⟩,
      h.layer_keys_known, h.layer_keys⟩, h.base_keys⟩, h.bindings, h.binding_names,
      h.binding_inputs⟩

/-- **`validate` accepts exactly the profiles that keep the rules.** -/
theorem validate_eq_ok {p : ProfileV2} : p.validate = .ok () ↔ p.Accepts rust := by
  rw [← validationErrors_eq_nil, ProfileV2.validate]
  split <;> simp_all

end Decide

end Wroid
