import Wroid.Lib.JsNumber
import Wroid.Lib.Checks
import Wroid.Core.Profile

/-!
# Profiles in the editor page

The profile as the editor page holds it and the page's own checks, `validateProfile` of
`profile-model.js`.  The page takes in documents that nobody has checked, so a numeric field
may be absent or `null`, and after a computation it may be not-a-number.  The objects and the
texts of a profile are there, `normalizeProfile` adds the lists that a document leaves out;
an optional text is `none` when it is absent or `null`, which the page never tells apart.

`toLowerCase` stands for the method of strings of that name.

## Main definitions

* `PageProfile` and the types of its parts.
* `validateProfile` — the errors of a profile, with their texts.
* `PageProfile.clone` — the profile after it was written as JSON and read again.

## Main results

* `validateBinding_withAction` — what an action by itself contributes to the errors of its
  binding.
* `validateProfile_setAction` — **a valid profile stays valid iff its new action is valid.**
-/

namespace Wroid.Page

open Lib

/-! ### The data -/

structure PagePoint where
  x : JsNumber
  y : JsNumber
  deriving DecidableEq, Repr

structure PageRect where
  x : JsNumber
  y : JsNumber
  w : JsNumber
  h : JsNumber
  deriving DecidableEq, Repr

/-- What a binding does.  `macroSteps` is the kind the source calls `macro`. -/
inductive PageAction
  | tap (point : PagePoint)
  | hold (point : PagePoint)
  | virtualJoystick (center : PagePoint) (radius deadZone : JsNumber) (mode : Option String)
      (reaffirmMs : JsNumber)
  | mouseAim (region : PageRect) (sensitivity : JsNumber) (toggleKey : Option String)
      (recenterThreshold recenterGapMs adsMultiplier reaffirmMs : JsNumber)
  | macroSteps (steps : List PageAction)
  deriving Repr

structure PageBinding where
  name : String
  layer : Option String
  modifier : Option String
  input : InputV2
  action : PageAction
  deriving Repr

structure PageProfile where
  schemaVersion : Option ℕ
  name : String
  packageName : String
  orientation : String
  layers : List LayerV2
  bindings : List PageBinding
  deriving Repr

/-- The kind of an action. -/
def PageAction.kind : PageAction → String
  | .tap _ => "tap"
  | .hold _ => "hold"
  | .virtualJoystick .. => "virtual_joystick"
  | .mouseAim .. => "mouse_aim"
  | .macroSteps _ => "macro"

/-! ### Copies -/

def PagePoint.clone (p : PagePoint) : PagePoint := ⟨p.x.clone, p.y.clone⟩

def PageRect.clone (r : PageRect) : PageRect := ⟨r.x.clone, r.y.clone, r.w.clone, r.h.clone⟩

mutual

def PageAction.clone (action : PageAction) : PageAction :=
  match action with
  | .tap point => .tap point.clone
  | .hold point => .hold point.clone
  | .virtualJoystick center radius deadZone mode reaffirmMs =>
    .virtualJoystick center.clone radius.clone deadZone.clone mode reaffirmMs.clone
  | .mouseAim region sensitivity toggleKey recenterThreshold recenterGapMs adsMultiplier
      reaffirmMs =>
    .mouseAim region.clone sensitivity.clone toggleKey recenterThreshold.clone
      recenterGapMs.clone adsMultiplier.clone reaffirmMs.clone
  | .macroSteps steps => .macroSteps (PageAction.cloneSteps steps)

def PageAction.cloneSteps (steps : List PageAction) : List PageAction :=
  match steps with
  | [] => []
  | step :: rest => step.clone :: PageAction.cloneSteps rest

end

def PageBinding.clone (binding : PageBinding) : PageBinding :=
  { binding with action := binding.action.clone }

/-- `clone`: through JSON, which has no not-a-number. -/
def PageProfile.clone (profile : PageProfile) : PageProfile :=
  { profile with bindings := profile.bindings.map PageBinding.clone }

@[simp] theorem PagePoint.clone_clone (p : PagePoint) : p.clone.clone = p.clone := by
  simp [PagePoint.clone]

@[simp] theorem PageRect.clone_clone (r : PageRect) : r.clone.clone = r.clone := by
  simp [PageRect.clone]

mutual

@[simp] theorem PageAction.clone_clone (action : PageAction) :
    action.clone.clone = action.clone := by
  match action with
  | .tap point => simp [PageAction.clone]
  | .hold point => simp [PageAction.clone]
  | .virtualJoystick .. => simp [PageAction.clone]
  | .mouseAim .. => simp [PageAction.clone]
  | .macroSteps steps => simp [PageAction.clone, PageAction.cloneSteps_cloneSteps steps]

theorem PageAction.cloneSteps_cloneSteps (steps : List PageAction) :
    PageAction.cloneSteps (PageAction.cloneSteps steps) = PageAction.cloneSteps steps := by
  match steps with
  | [] => rfl
  | step :: rest =>
    simp [PageAction.cloneSteps, PageAction.clone_clone step,
      PageAction.cloneSteps_cloneSteps rest]

end

@[simp] theorem PageBinding.clone_clone (binding : PageBinding) :
    binding.clone.clone = binding.clone := by
  simp [PageBinding.clone]

/-- A copy is copied exactly. -/
@[simp] theorem PageProfile.clone_clone (profile : PageProfile) :
    profile.clone.clone = profile.clone := by
  simp [PageProfile.clone]

/-! ### The checks -/

section Checks

variable (toLowerCase : String → String)

def canonicalKey (value : String) : String := toLowerCase (trim jsBlank value)

def finiteWithin (value : JsNumber) (minimum maximum : ℚ) : Prop :=
  value.isFinite ∧ .number (minimum - 1 / 1000000000) ≤ value ∧
    value ≤ .number (maximum + 1 / 1000000000)

instance (value : JsNumber) (minimum maximum : ℚ) : Decidable (finiteWithin value minimum maximum) :=
  inferInstanceAs (Decidable (_ ∧ _))

def validatePoint (value : PagePoint) (label : String) : List String :=
  errorIf (¬ finiteWithin value.x 0 1 ∨ ¬ finiteWithin value.y 0 1)
    s!"{label} must use normalized x/y coordinates within 0.0..=1.0"

def validateRegion (region : PageRect) (bindingName : String) : List String :=
  errorIf (¬ finiteWithin region.x 0 1 ∨ ¬ finiteWithin region.y 0 1 ∨ ¬ region.w.isFinite ∨
      ¬ region.h.isFinite ∨ region.w ≤ .number 0 ∨ region.h ≤ .number 0 ∨
      .number (1000000001 / 1000000000) < region.x + region.w ∨
      .number (1000000001 / 1000000000) < region.y + region.h)
    s!"binding {bindingName} mouse_aim region must stay inside the normalized viewport with positive w/h"

mutual

def validateAction (action : PageAction) (bindingName : String) : List String :=
  match action with
  | .tap point => validatePoint point s!"binding {bindingName} tap point"
  | .hold point => validatePoint point s!"binding {bindingName} hold point"
  | .virtualJoystick center radius deadZone _ reaffirmMs =>
    let deadZone := deadZone.orElse 0
    validatePoint center s!"binding {bindingName} virtual_joystick center" ++
    errorIf (¬ radius.isFinite ∨ radius ≤ .number 0 ∨ .number 1 < radius)
      s!"binding {bindingName} virtual_joystick radius must be finite and within 0.0..=1.0" ++
    (if ¬ deadZone.isFinite ∨ deadZone < .number 0 ∨ .number 1 ≤ deadZone then
      [s!"binding {bindingName} virtual_joystick dead_zone must be finite and within 0.0..1.0"]
    else
      errorIf (radius.isFinite ∧ radius ≤ deadZone)
        s!"binding {bindingName} virtual_joystick dead_zone must be smaller than radius") ++
    errorIf (reaffirmMs = .number 0)
      s!"binding {bindingName} virtual_joystick reaffirm_ms must be greater than zero"
  | .mouseAim region sensitivity toggleKey recenterThreshold _ adsMultiplier reaffirmMs =>
    let threshold := recenterThreshold.orElse (7 / 10)
    validateRegion region bindingName ++
    errorIf (¬ sensitivity.isFinite ∨ sensitivity ≤ .number 0)
      s!"binding {bindingName} mouse_aim sensitivity must be finite and greater than zero" ++
    errorIf (toggleKey.any fun key =>
        key ≠ "" ∧ canonicalKey toLowerCase key ∉ supportedKeyNames)
      s!"binding {bindingName} mouse_aim toggle_key must be a supported key name" ++
    errorIf (¬ threshold.isFinite ∨ threshold < .number (1 / 10) ∨ .number 1 < threshold)
      s!"binding {bindingName} mouse_aim recenter_threshold must be finite and within 0.1..=1.0" ++
    errorIf (adsMultiplier ≠ .undefined ∧ adsMultiplier ≠ .null ∧
        (¬ adsMultiplier.isFinite ∨ adsMultiplier < .number (1 / 10) ∨ .number 1 < adsMultiplier))
      s!"binding {bindingName} mouse_aim ads_multiplier must be finite and within 0.1..=1.0" ++
    errorIf (reaffirmMs = .number 0)
      s!"binding {bindingName} mouse_aim reaffirm_ms must be greater than zero"
  | .macroSteps steps =>
    errorIf (steps.isEmpty) s!"binding {bindingName} macro must contain at least one step" ++
    validateSteps steps bindingName 0

/-- The loop over the steps of a macro, from the given index. -/
def validateSteps (steps : List PageAction) (bindingName : String) (index : ℕ) : List String :=
  match steps with
  | [] => []
  | step :: rest =>
    validateAction step s!"{bindingName}.step[{index}]" ++
      validateSteps rest bindingName (index + 1)

end

def validateInput (input : InputV2) (bindingName : String) : List String :=
  match input with
  | .key key =>
    if trim jsBlank key = "" then [s!"binding {bindingName} has an empty key input"]
    else
      errorIf (canonicalKey toLowerCase key ∉ supportedKeyNames)
        s!"binding {bindingName} uses unsupported key input: {key}"
  | .keyCluster up left down right =>
    if [up, left, down, right].any fun key => trim jsBlank key = "" then
      [s!"binding {bindingName} has an empty key_cluster input"]
    else
      errorIf ([up, left, down, right].any fun key =>
          canonicalKey toLowerCase key ∉ supportedKeyNames)
        s!"binding {bindingName} key_cluster contains an unsupported key"
  | .mouseButton button =>
    if trim jsBlank button = "" then [s!"binding {bindingName} has an empty mouse button"]
    else
      errorIf (canonicalKey toLowerCase button ∉ supportedButtonNames)
        s!"binding {bindingName} uses unsupported mouse button: {button}"
  | .mouseMove => []

/-- The input that an action of this kind requires, where the given one does not fit. -/
def requiredInput (input : InputV2) (kind : String) : Option String :=
  if kind ∈ ["tap", "hold"] ∧ inputKind input ∉ ["key", "mouse_button"] then
    some "key or mouse_button"
  else if kind = "virtual_joystick" ∧ inputKind input ≠ "key_cluster" then some "key_cluster"
  else if kind = "mouse_aim" ∧ inputKind input ≠ "mouse_move" then some "mouse_move"
  else none

def validateCompatibility (input : InputV2) (kind : String) (bindingName : String) :
    List String :=
  match requiredInput input kind with
  | none => []
  | some required =>
    [s!"binding {bindingName} pairs {inputKind input} input with {kind} action; {kind} requires {required}"]

/-- The checks of one layer's name; the state is `layerNames`. -/
def validateLayerName (layerNames : List String) (layer : LayerV2) : List String × List String :=
  let name := trim jsBlank layer.name
  ((if name = "" then ["layer name must not be empty"]
    else errorIf (name ∈ layerNames) s!"duplicate layer name: {layer.name}") ++
   errorIf (toLowerCase name = "base") "layer name base is reserved",
   name :: layerNames)

/-- The checks of one layer's key; the state is `activationKeys`. -/
def validateLayerKey (activationKeys : List String) (layer : LayerV2) :
    List String × List String :=
  let key := layer.activation.key
  let canonical := canonicalKey toLowerCase key
  (errorIf (canonical ∉ supportedKeyNames)
      s!"layer {layer.name} uses unsupported activation key: {key}" ++
    errorIf (canonical ∈ activationKeys) s!"duplicate layer activation key: {key}",
   canonical :: activationKeys)

def activationKeys (layers : List LayerV2) : List String :=
  layers.map fun layer => canonicalKey toLowerCase layer.activation.key

/-- The layers with their keys, each a text with a NUL between the two. -/
def layerActivationKeys (layers : List LayerV2) : List String :=
  layers.map fun layer =>
    s!"{layer.name}\x00{canonicalKey toLowerCase layer.activation.key}"

def validateBaseLayerKeys (layers : List LayerV2) (binding : PageBinding) : List String :=
  if binding.layer = none ∧ binding.modifier = none then
    (bindingInputKeys binding.input).flatMap fun key =>
      errorIf (canonicalKey toLowerCase key ∈ activationKeys toLowerCase layers)
        s!"layer activation key {key} cannot be used by a base-layer binding"
  else []

/-- The checks of a modifier against the keys of the input. -/
def validateModifierInputKeys (binding : PageBinding) (modifier : String) : List String :=
  match binding.input with
  | .key key =>
    errorIf (canonicalKey toLowerCase key = modifier)
      s!"binding {binding.name} modifier must differ from input key: {key}"
  | .keyCluster up left down right =>
    [up, left, down, right].flatMap fun key =>
      errorIf (canonicalKey toLowerCase key = modifier)
        s!"binding {binding.name} modifier must differ from key_cluster key: {key}"
  | .mouseButton _ | .mouseMove => []

def validateModifier (binding : PageBinding) (modifier : String) : List String :=
  let canonicalModifier := canonicalKey toLowerCase modifier
  errorIf (canonicalModifier ∉ supportedKeyNames)
    s!"binding {binding.name} uses unsupported modifier: {modifier}" ++
  validateModifierInputKeys toLowerCase binding canonicalModifier ++
  errorIf (binding.input = .mouseMove)
    s!"binding {binding.name} cannot use a modifier with mouse_move input" ++
  if canonicalModifier = "ctrl" then
    (bindingInputKeys binding.input).flatMap fun key =>
      let canonical := canonicalKey toLowerCase key
      errorIf (canonical = "esc" ∨ canonical = "c")
        s!"binding {binding.name} uses ctrl+{canonical}, which is reserved for the session exit hotkey"
  else []

/-- The scope of an input as one text, with NULs between its parts. -/
def scopeKey (binding : PageBinding) (kind : InputKind) (canonical : String) : String :=
  let scopeLayer := binding.layer.getD "base"
  let modifierScopeKey := match binding.modifier with
    | none => "<none>"
    | some modifier => s!"<some>{canonicalKey toLowerCase modifier}"
  s!"{scopeLayer}\x00{modifierScopeKey}\x00{kind.text}\x00{canonical}"

/-- The checks of one input of a binding.  The state is `localInputs` and `scopedInputKeys`. -/
def validateScopedInput (layers : List LayerV2) (binding : PageBinding)
    (s : List String × List String) (input : String × InputKind) :
    List String × List String × List String :=
  let value := input.1
  let kind := input.2
  let canonical := canonicalKey toLowerCase value
  let scopeLayer := binding.layer.getD "base"
  let localKey := s!"{kind.text}\x00{canonical}"
  let key := scopeKey toLowerCase binding kind canonical
  let modifier := match binding.modifier with
    | none => "without a modifier"
    | some modifier => s!"with modifier {canonicalKey toLowerCase modifier}"
  if localKey ∈ s.1 then ([], s)
  else
    (errorIf (key ∈ s.2)
        s!"{kind.text} {value} drives multiple bindings in {scopeLayer} layer {modifier}" ++
      errorIf (kind = .key ∧ binding.layer ≠ none ∧
          s!"{scopeLayer}\x00{canonical}" ∈ layerActivationKeys toLowerCase layers)
        s!"layer activation key {value} cannot be used by binding {binding.name} inside layer {scopeLayer}",
     localKey :: s.1, key :: s.2)

/-- The checks of one binding.  The state is `bindingNames` and `scopedInputKeys`. -/
def validateBinding (layers : List LayerV2) (s : List String × List String)
    (binding : PageBinding) : List String × List String × List String :=
  let bindingName := trim jsBlank binding.name
  let inputs := scan (validateScopedInput toLowerCase layers binding)
    (bindingScopeInputKeys binding.input) ([], s.2)
  ((if bindingName = "" then ["binding name must not be empty"]
      else errorIf (bindingName ∈ s.1) s!"duplicate binding name: {binding.name}") ++
    validateInput toLowerCase binding.input binding.name ++
    validateAction toLowerCase binding.action binding.name ++
    validateCompatibility binding.input binding.action.kind binding.name ++
    (match binding.layer with
      | some layer => errorIf (layer ∉ layers.map LayerV2.name)
          s!"binding {binding.name} references unknown layer: {layer}"
      | none => []) ++
    (match binding.modifier with
      | some modifier => validateModifier toLowerCase binding modifier
      | none => []) ++
    inputs.1,
   bindingName :: s.1, inputs.2.2)

/-- How a version is put into a message. -/
def versionText : Option ℕ → String
  | none => "undefined"
  | some version => toString version

def validateProfile (profile : PageProfile) : List String :=
  errorIf (profile.schemaVersion ≠ some 2)
    s!"schema_version must be 2, got {versionText profile.schemaVersion}" ++
  errorIf (trim jsBlank profile.name = "") "name must not be empty" ++
  errorIf (trim jsBlank profile.packageName = "") "package_name must not be empty" ++
  (scan (validateLayerName toLowerCase) profile.layers []).1 ++
  errorIf (64 < profile.layers.length) "profile may declare at most 64 layers" ++
  (scan (validateLayerKey toLowerCase) profile.layers []).1 ++
  profile.bindings.flatMap (validateBaseLayerKeys toLowerCase profile.layers) ++
  (scan (validateBinding toLowerCase profile.layers) profile.bindings ([], [])).1

end Checks

/-! ### The errors of a binding -/

section Binding

variable {toLowerCase : String → String} {layers : List LayerV2} {s : List String × List String}
  {binding : PageBinding}

/-- A binding has no errors iff none of its parts has. -/
theorem validateBinding_eq_nil : (validateBinding toLowerCase layers s binding).1 = [] ↔
    (trim jsBlank binding.name ≠ "" ∧ trim jsBlank binding.name ∉ s.1) ∧
      validateInput toLowerCase binding.input binding.name = [] ∧
      validateAction toLowerCase binding.action binding.name = [] ∧
      validateCompatibility binding.input binding.action.kind binding.name = [] ∧
      (∀ layer ∈ binding.layer, layer ∈ layers.map LayerV2.name) ∧
      (∀ modifier ∈ binding.modifier, validateModifier toLowerCase binding modifier = []) ∧
      (scan (validateScopedInput toLowerCase layers binding) (bindingScopeInputKeys binding.input)
        ([], s.2)).1 = [] := by
  have hname : (if trim jsBlank binding.name = "" then ["binding name must not be empty"]
      else errorIf (trim jsBlank binding.name ∈ s.1)
        s!"duplicate binding name: {binding.name}") = [] ↔
      trim jsBlank binding.name ≠ "" ∧ trim jsBlank binding.name ∉ s.1 := by
    by_cases h : trim jsBlank binding.name = "" <;> simp [h]
  have hlayer : (match binding.layer with
      | some layer => errorIf (layer ∉ layers.map LayerV2.name)
          s!"binding {binding.name} references unknown layer: {layer}"
      | none => []) = [] ↔ ∀ layer ∈ binding.layer, layer ∈ layers.map LayerV2.name := by
    cases binding.layer <;> simp
  have hmodifier : (match binding.modifier with
      | some modifier => validateModifier toLowerCase binding modifier
      | none => []) = [] ↔
      ∀ modifier ∈ binding.modifier, validateModifier toLowerCase binding modifier = [] := by
    cases binding.modifier <;> simp
  simp only [validateBinding, List.append_eq_nil_iff, hname, hlayer, hmodifier, and_assoc]

end Binding

/-! ### Another action for a binding -/

def PageBinding.withAction (action : PageAction) (binding : PageBinding) : PageBinding :=
  { binding with action }

/-- The profile with this action in the binding of this index. -/
def PageProfile.setAction (index : ℕ) (action : PageAction) (profile : PageProfile) :
    PageProfile :=
  { profile with bindings := profile.bindings.modify index (PageBinding.withAction action) }

/-- The action a binding has already. -/
theorem PageProfile.setAction_self {profile : PageProfile} {index : ℕ} {binding : PageBinding}
    (hb : profile.bindings[index]? = some binding) :
    profile.setAction index binding.action = profile := by
  have hmodify : ∀ (bindings : List PageBinding) (i : ℕ), bindings[i]? = some binding →
      bindings.modify i (PageBinding.withAction binding.action) = bindings := by
    intro bindings
    induction bindings with
    | nil => intro i hi; simp at hi
    | cons b bindings ih =>
      intro i hi
      cases i with
      | zero =>
        obtain rfl : b = binding := by simpa using hi
        rfl
      | succ i => rw [List.modify_succ_cons, ih i (by simpa using hi)]
  rw [PageProfile.setAction, hmodify _ _ hb]

theorem PageProfile.getElem?_setAction {profile : PageProfile} {index : ℕ}
    {binding : PageBinding} (hb : profile.bindings[index]? = some binding)
    (action : PageAction) :
    (profile.setAction index action).bindings[index]? = some (binding.withAction action) := by
  simp [PageProfile.setAction, hb]

@[simp] theorem PageProfile.setAction_setAction (profile : PageProfile) (index : ℕ)
    (first second : PageAction) :
    (profile.setAction index first).setAction index second = profile.setAction index second := by
  simp only [PageProfile.setAction, List.modify_modify_eq]
  rfl

section SetAction

variable {toLowerCase : String → String} {layers : List LayerV2} {s : List String × List String}
  {binding : PageBinding} {action : PageAction}

/-- The loop over the bindings does not remember actions. -/
theorem validateBinding_withAction_snd :
    (validateBinding toLowerCase layers s (binding.withAction action)).2 =
      (validateBinding toLowerCase layers s binding).2 := rfl

/-- What an action by itself contributes to the errors of its binding. -/
theorem validateBinding_withAction (hkind : action.kind = binding.action.kind)
    (h : (validateBinding toLowerCase layers s binding).1 = []) :
    (validateBinding toLowerCase layers s (binding.withAction action)).1 = [] ↔
      validateAction toLowerCase action binding.name = [] := by
  rw [validateBinding_eq_nil] at h ⊢
  obtain ⟨hname, hinput, -, hcompat, hlayer, hmodifier, hinputs⟩ := h
  constructor
  · intro h'
    exact h'.2.2.1
  · intro haction
    have hcompat' : validateCompatibility binding.input action.kind binding.name = [] := by
      rw [hkind]
      exact hcompat
    exact ⟨hname, hinput, haction, hcompat', hlayer, hmodifier, hinputs⟩

/-- The bindings' use of activation keys is not about their actions. -/
theorem flatMap_validateBaseLayerKeys_modify (index : ℕ) (bindings : List PageBinding) :
    (bindings.modify index (PageBinding.withAction action)).flatMap
        (validateBaseLayerKeys toLowerCase layers) =
      bindings.flatMap (validateBaseLayerKeys toLowerCase layers) := by
  induction bindings generalizing index with
  | nil => simp
  | cons binding bindings ih =>
    cases index with
    | zero => rfl
    | succ index => rw [List.modify_succ_cons, List.flatMap_cons, List.flatMap_cons, ih]

/-- **A valid profile stays valid iff its new action is valid.** -/
theorem validateProfile_setAction {profile : PageProfile} {index : ℕ}
    (hb : profile.bindings[index]? = some binding) (hkind : action.kind = binding.action.kind)
    (h : validateProfile toLowerCase profile = []) :
    validateProfile toLowerCase (profile.setAction index action) = [] ↔
      validateAction toLowerCase action binding.name = [] := by
  simp only [validateProfile, List.append_eq_nil_iff] at h
  obtain ⟨hrest, hbindings⟩ := h
  have hscan := scan_modify_eq_nil (f := PageBinding.withAction action)
    (fun _ => validateBinding_withAction_snd) (fun _ => validateBinding_withAction hkind) hb
    hbindings
  rw [← hscan]
  simp only [validateProfile, PageProfile.setAction, List.append_eq_nil_iff,
    flatMap_validateBaseLayerKeys_modify]
  exact and_iff_right hrest

/-- An action of a valid profile is valid. -/
theorem validateAction_of_valid {profile : PageProfile} {index : ℕ}
    (hb : profile.bindings[index]? = some binding)
    (h : validateProfile toLowerCase profile = []) :
    validateAction toLowerCase binding.action binding.name = [] := by
  rw [← validateProfile_setAction hb rfl h, PageProfile.setAction_self hb]
  exact h

end SetAction

end Wroid.Page
