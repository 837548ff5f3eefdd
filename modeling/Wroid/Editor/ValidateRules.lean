import Wroid.Core.ProfileText
import Wroid.Editor.ProfileModel

/-!
# The rules that the page checks

The page reads a profile of the server from its JSON text and checks it with `validateProfile`.
Its checks decide the same rules as those of the server, for the page's reading of texts: it
trims what ECMAScript takes for blanks, it lowers more letters, and an empty toggle key is none.
Two texts that the page puts together with NULs between their parts are equal only if their
parts are, as long as the keys in them are supported.

## Main definitions

* `ProfileDocument.toPage` — a profile as the page reads it.
* `jsReading` — how the page reads texts.

## Main results

* `scopeKey_inj` — the parts of a scope can be read back.
* `validateProfile_toPage` — **the page has no errors for exactly the profiles that keep the
  rules in its reading.**
-/

namespace Wroid

open Lib Page

/-! ### Profiles on the page -/

def NormalizedPoint.toPage (point : NormalizedPoint) : PagePoint := ⟨.number point.x, .number point.y⟩

def NormalizedRect.toPage (rect : NormalizedRect) : PageRect :=
  ⟨.number rect.x, .number rect.y, .number rect.w, .number rect.h⟩

/-- An optional number is `null` when it is not given. -/
def optionalNumber : Option ℚ → JsNumber
  | none => .null
  | some value => .number value

mutual

def ActionV2.toPage (action : ActionV2) : PageAction :=
  match action with
  | .tap point => .tap point.toPage
  | .hold point => .hold point.toPage
  | .virtualJoystick center radius deadZone mode reaffirmMs =>
    .virtualJoystick center.toPage (.number radius) (.number deadZone) (some mode.name)
      (optionalNumber (reaffirmMs.map Nat.cast))
  | .mouseAim region sensitivity toggleKey recenterThreshold recenterGapMs adsMultiplier
      reaffirmMs =>
    .mouseAim region.toPage (.number sensitivity) toggleKey (.number recenterThreshold)
      (.number recenterGapMs) (optionalNumber adsMultiplier)
      (optionalNumber (reaffirmMs.map Nat.cast))
  | .macroSteps steps => .macroSteps (ActionV2.stepsToPage steps)

def ActionV2.stepsToPage (steps : List ActionV2) : List PageAction :=
  match steps with
  | [] => []
  | step :: rest => step.toPage :: ActionV2.stepsToPage rest

end

def BindingV2.toPage (binding : BindingV2) : PageBinding :=
  ⟨binding.name, binding.layer, binding.modifier, binding.input, binding.action.toPage⟩

/-- A profile as the page reads it from its JSON text. -/
def ProfileDocument.toPage (document : ProfileDocument) : PageProfile where
  schemaVersion := some document.profile.schemaVersion
  name := document.profile.name
  packageName := document.profile.packageName
  orientation := document.orientation.name
  layers := document.profile.layers
  bindings := document.profile.bindings.map BindingV2.toPage

namespace Page

/-- How the page reads the texts of a profile. -/
def jsReading (toLowerCase : String → String) : TextReading where
  trim := trim jsBlank
  canonical := canonicalKey toLowerCase
  toggleKey := Option.filter fun key => decide (key ≠ "")

/-! ### Actions -/

section Actions

variable {toLowerCase : String → String}

theorem finiteWithin_normalized {value : ℚ} : finiteWithin (.number value) 0 1 ↔ Wroid.normalized value := by
  simp [finiteWithin, Wroid.normalized, EPSILON]

theorem validatePoint_toPage {point : NormalizedPoint} {label : String} :
    validatePoint point.toPage label = [] ↔ PointInside point := by
  simp only [validatePoint, NormalizedPoint.toPage, errorIf_eq_nil, finiteWithin_normalized, PointInside]
  tauto

theorem validateRegion_toPage {region : NormalizedRect} {name : String} :
    validateRegion region.toPage name = [] ↔ RectInside region := by
  have hone : (1000000001 / 1000000000 : ℚ) = 1 + EPSILON := by norm_num [EPSILON]
  simp only [validateRegion, NormalizedRect.toPage, errorIf_eq_nil, finiteWithin_normalized, RectInside,
    JsNumber.isFinite_number, JsNumber.number_le_number, JsNumber.number_add,
    JsNumber.number_lt_number, hone, not_true_eq_false, false_or, not_or, not_not, not_le, not_lt]

theorem optionalNumber_eq_zero {value : Option ℕ} :
    optionalNumber (value.map Nat.cast) = .number 0 ↔ value = some 0 := by
  cases value <;> simp [optionalNumber]

mutual

theorem validateAction_toPage {action : ActionV2} {name : String} :
    validateAction toLowerCase action.toPage name = [] ↔ action.Fine (jsReading toLowerCase) := by
  match action with
  | .tap point =>
    rw [ActionV2.toPage, validateAction, validatePoint_toPage, ActionV2.Fine]
  | .hold point =>
    rw [ActionV2.toPage, validateAction, validatePoint_toPage, ActionV2.Fine]
  | .virtualJoystick center radius deadZone mode reaffirmMs =>
    have hzone : (if deadZone < 0 ∨ 1 ≤ deadZone then
        [s!"binding {name} virtual_joystick dead_zone must be finite and within 0.0..1.0"]
      else errorIf (radius ≤ deadZone)
        s!"binding {name} virtual_joystick dead_zone must be smaller than radius") = [] ↔
        (0 ≤ deadZone ∧ deadZone < 1) ∧ deadZone < radius := by
      by_cases h : deadZone < 0 ∨ 1 ≤ deadZone
      · rw [if_pos h]
        refine iff_of_false (by simp) ?_
        rintro ⟨⟨h₀, h₁⟩, -⟩
        rcases h with h | h <;> linarith
      · rw [if_neg h, errorIf_eq_nil, not_le]
        rw [not_or, not_lt, not_le] at h
        exact (and_iff_right h).symm
    simp only [ActionV2.toPage, validateAction, ActionV2.Fine, List.append_eq_nil_iff,
      validatePoint_toPage, errorIf_eq_nil, JsNumber.orElse_number, JsNumber.isFinite_number,
      JsNumber.number_le_number, JsNumber.number_lt_number, not_true_eq_false, false_or, true_and,
      hzone, optionalNumber_eq_zero]
    push Not
    tauto
  | .mouseAim region sensitivity toggleKey recenterThreshold recenterGapMs adsMultiplier
      reaffirmMs =>
    have htoggle : (¬ (toggleKey.any fun key =>
          decide (key ≠ "" ∧ canonicalKey toLowerCase key ∉ supportedKeyNames)) = true) ↔
        ∀ key ∈ (jsReading toLowerCase).toggleKey toggleKey, (jsReading toLowerCase).Known key := by
      cases toggleKey with
      | none => simp [jsReading]
      | some key =>
        by_cases hkey : key = "" <;> simp [jsReading, TextReading.Known, hkey]
    have hads : (¬ (optionalNumber adsMultiplier ≠ .undefined ∧ optionalNumber adsMultiplier ≠ .null ∧
          (¬ (optionalNumber adsMultiplier).isFinite = true ∨
            optionalNumber adsMultiplier < .number (1 / 10) ∨
            .number 1 < optionalNumber adsMultiplier))) ↔
        ∀ value ∈ adsMultiplier, 1 / 10 ≤ value ∧ value ≤ 1 := by
      cases adsMultiplier <;> simp [optionalNumber]
    simp only [ActionV2.toPage, validateAction, ActionV2.Fine, List.append_eq_nil_iff,
      validateRegion_toPage, errorIf_eq_nil, JsNumber.orElse_number, JsNumber.isFinite_number,
      JsNumber.number_le_number, JsNumber.number_lt_number, not_true_eq_false, false_or, htoggle,
      hads, optionalNumber_eq_zero, not_or, not_le, not_lt]
    tauto
  | .macroSteps steps =>
    have hempty : (ActionV2.stepsToPage steps).isEmpty = true ↔ steps = [] := by
      cases steps <;> simp [ActionV2.stepsToPage]
    simp only [ActionV2.toPage, validateAction, ActionV2.Fine, List.append_eq_nil_iff,
      errorIf_eq_nil, validateSteps_toPage, hempty, ne_eq]

theorem validateSteps_toPage {steps : List ActionV2} {name : String} {index : ℕ} :
    validateSteps toLowerCase (ActionV2.stepsToPage steps) name index = [] ↔
      ActionV2.FineSteps (jsReading toLowerCase) steps := by
  match steps with
  | [] => simp [ActionV2.stepsToPage, validateSteps, ActionV2.FineSteps]
  | step :: rest =>
    rw [ActionV2.stepsToPage, validateSteps, List.append_eq_nil_iff, validateAction_toPage,
      validateSteps_toPage, ActionV2.FineSteps]

end

theorem requiredInput_toPage {input : InputV2} {action : ActionV2} :
    requiredInput input action.toPage.kind = Wroid.requiredInput input action := by
  cases action <;> cases input <;>
    simp [ActionV2.toPage, PageAction.kind, requiredInput, Wroid.requiredInput, inputKind]

end Actions

/-! ### Inputs and modifiers -/

section Inputs

variable {toLowerCase : String → String}

/-- The checks of key names of an input. -/
theorem validateNames_eq_nil (keys : List String) {empty unsupported : String} :
    (if keys.any fun key => trim jsBlank key = "" then [empty]
      else errorIf (keys.any fun key => canonicalKey toLowerCase key ∉ supportedKeyNames)
        unsupported) = [] ↔
      ∀ key ∈ keys, (jsReading toLowerCase).trim key ≠ "" ∧ (jsReading toLowerCase).Known key := by
  simp only [List.any_eq_true, decide_eq_true_eq, forall_and]
  by_cases h : ∃ key ∈ keys, trim jsBlank key = ""
  · rw [if_pos h]
    obtain ⟨key, hkey, hempty⟩ := h
    exact iff_of_false (by simp) fun hall => hall.1 key hkey hempty
  · rw [if_neg h, errorIf_eq_nil]
    push Not at h ⊢
    exact (and_iff_right h).symm

theorem validateInput_toPage {input : InputV2} {name : String} :
    validateInput toLowerCase input name = [] ↔ input.Fine (jsReading toLowerCase) := by
  cases input with
  | key key =>
    simp only [validateInput, InputV2.Fine]
    by_cases h : trim jsBlank key = "" <;> simp [h, jsReading, TextReading.Known]
  | keyCluster up left down right => exact validateNames_eq_nil [up, left, down, right]
  | mouseButton button =>
    simp only [validateInput, InputV2.Fine]
    by_cases h : trim jsBlank button = "" <;> simp [h, jsReading]
  | mouseMove => simp [validateInput, InputV2.Fine]

theorem validateModifierInputKeys_toPage {binding : BindingV2} {modifier : String} :
    validateModifierInputKeys toLowerCase binding.toPage modifier = [] ↔
      ∀ key ∈ bindingInputKeys binding.input, canonicalKey toLowerCase key ≠ modifier := by
  unfold validateModifierInputKeys
  rw [BindingV2.toPage]
  cases binding.input <;> simp [bindingInputKeys]

theorem validateModifier_toPage {binding : BindingV2} {modifier : String} :
    validateModifier toLowerCase binding.toPage modifier = [] ↔
      binding.ModifierFine (jsReading toLowerCase) modifier := by
  have hctrl : (if canonicalKey toLowerCase modifier = "ctrl" then
      (bindingInputKeys binding.toPage.input).flatMap fun key =>
        errorIf (canonicalKey toLowerCase key = "esc" ∨ canonicalKey toLowerCase key = "c")
          s!"binding {binding.toPage.name} uses ctrl+{canonicalKey toLowerCase key}, which is reserved for the session exit hotkey"
    else []) = [] ↔ (canonicalKey toLowerCase modifier = "ctrl" →
      ∀ key ∈ bindingInputKeys binding.input,
        canonicalKey toLowerCase key ≠ "esc" ∧ canonicalKey toLowerCase key ≠ "c") := by
    by_cases h : canonicalKey toLowerCase modifier = "ctrl" <;> simp [h, BindingV2.toPage]
  simp only [validateModifier, List.append_eq_nil_iff, errorIf_eq_nil, not_not,
    validateModifierInputKeys_toPage, hctrl]
  constructor
  · rintro ⟨⟨⟨hknown, hdiffers⟩, hmove⟩, hreserved⟩
    exact ⟨hknown, hmove, hdiffers, hreserved⟩
  · intro h
    exact ⟨⟨⟨h.known, h.differs⟩, h.not_mouse_move⟩, h.not_reserved⟩

theorem validateBaseLayerKeys_toPage {layers : List LayerV2} {binding : BindingV2} :
    validateBaseLayerKeys toLowerCase layers binding.toPage = [] ↔
      (binding.layer = none → binding.modifier = none →
        ∀ key ∈ bindingInputKeys binding.input, ∀ layer ∈ layers,
          canonicalKey toLowerCase key ≠ canonicalKey toLowerCase layer.activation.key) := by
  unfold validateBaseLayerKeys activationKeys
  by_cases h : binding.toPage.layer = none ∧ binding.toPage.modifier = none
  · have hplain : binding.layer = none ∧ binding.modifier = none := h
    rw [if_pos h]
    simp [hplain.1, hplain.2, BindingV2.toPage,
      eq_comm (a := canonicalKey toLowerCase _) (b := canonicalKey toLowerCase _)]
  · rw [if_neg h]
    exact iff_of_true rfl fun hlayer hmodifier => absurd ⟨hlayer, hmodifier⟩ h

/-! ### Layers -/

theorem scan_validateLayerName_eq_nil {layers : List LayerV2} :
    (scan (validateLayerName toLowerCase) layers []).1 = [] ↔
      (∀ layer ∈ layers, (jsReading toLowerCase).trim layer.name ≠ "" ∧
        (jsReading toLowerCase).canonical layer.name ≠ "base") ∧
        layers.Pairwise fun a b =>
          (jsReading toLowerCase).trim a.name ≠ (jsReading toLowerCase).trim b.name := by
  rw [scan_eq_nil (fun s k => k ∈ s)
    (fun l => (jsReading toLowerCase).trim l.name ≠ "" ∧
      (jsReading toLowerCase).canonical l.name ≠ "base")
    fun l => {(jsReading toLowerCase).trim l.name}]
  · simp
  · intro s layer
    simp only [validateLayerName, Set.mem_singleton_iff, forall_eq, List.append_eq_nil_iff]
    by_cases h : trim jsBlank layer.name = "" <;> simp [h, jsReading, canonicalKey, and_comm]
  · intro s layer _ k
    simp [validateLayerName, jsReading, or_comm]

theorem scan_validateLayerKey_eq_nil {layers : List LayerV2} :
    (scan (validateLayerKey toLowerCase) layers []).1 = [] ↔
      (∀ layer ∈ layers, (jsReading toLowerCase).Known layer.activation.key) ∧
        layers.Pairwise fun a b => (jsReading toLowerCase).canonical a.activation.key ≠
          (jsReading toLowerCase).canonical b.activation.key := by
  rw [scan_eq_nil (fun s k => k ∈ s) (fun l => (jsReading toLowerCase).Known l.activation.key)
    fun l => {(jsReading toLowerCase).canonical l.activation.key}]
  · simp
  · intro s layer
    simp [validateLayerKey, TextReading.Known, jsReading]
  · intro s layer _ k
    simp [validateLayerKey, jsReading, or_comm]

end Inputs

/-! ### Texts with NULs -/

section Scopes

variable {toLowerCase : String → String}

/-- Two texts with a NUL between them. -/
def nulJoin (a b : String) : String := s!"{a}\x00{b}"

theorem toList_nulJoin {a b : String} : (nulJoin a b).toList = a.toList ++ '\x00' :: b.toList := by
  simp [nulJoin, toString]

def NoNul (text : String) : Prop := '\x00' ∉ text.toList

instance (text : String) : Decidable (NoNul text) := inferInstanceAs (Decidable (_ ∉ _))

theorem nulJoin_inj {a a' b b' : String} (hb : NoNul b) (hb' : NoNul b') :
    nulJoin a b = nulJoin a' b' ↔ a = a' ∧ b = b' := by
  constructor
  · intro h
    have hlists := congrArg String.toList h
    rw [toList_nulJoin, toList_nulJoin] at hlists
    obtain ⟨ha, hb⟩ := append_separator_inj hb hb' hlists
    exact ⟨String.toList_inj.mp ha, String.toList_inj.mp hb⟩
  · rintro ⟨rfl, rfl⟩
    rfl

theorem nulJoin_right_inj {a b b' : String} : nulJoin a b = nulJoin a b' ↔ b = b' := by
  rw [← String.toList_inj, toList_nulJoin, toList_nulJoin, List.append_cancel_left_eq,
    List.cons.injEq, String.toList_inj, and_iff_right rfl]

/-- Names of the tables have no NUL in them. -/
theorem noNul_of_supported {name : String} (h : name ∈ supportedKeyNames ++ supportedButtonNames) :
    NoNul name := by
  have hall : ∀ name ∈ supportedKeyNames ++ supportedButtonNames, '\x00' ∉ name.toList := by
    decide +kernel
  exact hall name h

theorem noNul_text (kind : InputKind) : NoNul kind.text := by
  cases kind <;> decide

/-- The modifier in a scope. -/
def scopeModifierText : Option String → String
  | none => "<none>"
  | some modifier => s!"<some>{modifier}"

theorem toList_scopeModifierText (modifier : String) :
    (scopeModifierText (some modifier)).toList = "<some>".toList ++ modifier.toList := by
  have happend : scopeModifierText (some modifier) = "<some>" ++ modifier := rfl
  rw [happend, String.toList_append]

theorem scopeModifierText_ne_none (modifier : String) :
    scopeModifierText (some modifier) ≠ scopeModifierText none := by
  intro h
  have hlists := congrArg String.toList h
  rw [toList_scopeModifierText] at hlists
  have hsecond : some 's' = some 'n' := congrArg (fun chars => chars[1]?) hlists
  exact absurd hsecond (by decide)

theorem scopeModifierText_inj {modifier modifier' : Option String} :
    scopeModifierText modifier = scopeModifierText modifier' ↔ modifier = modifier' := by
  cases modifier with
  | none =>
    cases modifier' with
    | none => simp
    | some modifier' => exact iff_of_false (scopeModifierText_ne_none modifier').symm (by simp)
  | some modifier =>
    cases modifier' with
    | none => exact iff_of_false (scopeModifierText_ne_none modifier) (by simp)
    | some modifier' =>
      rw [← String.toList_inj, toList_scopeModifierText, toList_scopeModifierText,
        List.append_cancel_left_eq, String.toList_inj, Option.some.injEq]

theorem noNul_scopeModifierText {modifier : Option String} (h : ∀ name ∈ modifier, NoNul name) :
    NoNul (scopeModifierText modifier) := by
  cases modifier with
  | none => decide
  | some modifier =>
    have hmodifier : NoNul modifier := h modifier rfl
    rw [NoNul, toList_scopeModifierText, List.mem_append, not_or]
    exact ⟨by decide, hmodifier⟩

def scopedModifier (toLowerCase : String → String) (binding : BindingV2) : Option String :=
  binding.modifier.map (canonicalKey toLowerCase)

theorem scopeKey_toPage {binding : BindingV2} {kind : InputKind} {canonical : String} :
    scopeKey toLowerCase binding.toPage kind canonical =
      nulJoin (nulJoin (nulJoin binding.scopeLayer
        (scopeModifierText (scopedModifier toLowerCase binding))) kind.text) canonical := by
  rw [scopeKey, scopedModifier, BindingV2.toPage]
  cases binding.modifier <;> rfl

/-- **The parts of a scope can be read back**, if there are no NULs in the names. -/
theorem scopeKey_inj {binding binding' : BindingV2} {kind kind' : InputKind}
    {canonical canonical' : String}
    (hmodifier : ∀ name ∈ scopedModifier toLowerCase binding, NoNul name)
    (hmodifier' : ∀ name ∈ scopedModifier toLowerCase binding', NoNul name)
    (hcanonical : NoNul canonical) (hcanonical' : NoNul canonical') :
    scopeKey toLowerCase binding.toPage kind canonical =
        scopeKey toLowerCase binding'.toPage kind' canonical' ↔
      ((binding.scopeLayer, scopedModifier toLowerCase binding, kind, canonical) : ScopedInput) =
        (binding'.scopeLayer, scopedModifier toLowerCase binding', kind', canonical') := by
  have hkind : kind.text = kind'.text ↔ kind = kind' := by
    cases kind <;> cases kind' <;> decide
  rw [scopeKey_toPage, scopeKey_toPage, nulJoin_inj hcanonical hcanonical',
    nulJoin_inj (noNul_text kind) (noNul_text kind'),
    nulJoin_inj (noNul_scopeModifierText hmodifier) (noNul_scopeModifierText hmodifier'),
    scopeModifierText_inj, hkind]
  simp only [Prod.mk.injEq, and_assoc]

/-- The local text of an input is the end of its scope. -/
theorem localKey_iff {binding : BindingV2} {kind kind' : InputKind} {canonical canonical' : String} :
    scopeKey toLowerCase binding.toPage kind canonical =
        scopeKey toLowerCase binding.toPage kind' canonical' ↔
      nulJoin kind.text canonical = nulJoin kind'.text canonical' := by
  have hassoc : ∀ a b c : String, nulJoin (nulJoin a b) c = nulJoin a (nulJoin b c) := by
    intro a b c
    rw [← String.toList_inj]
    simp [toList_nulJoin]
  rw [scopeKey_toPage, scopeKey_toPage, hassoc, hassoc _ kind'.text, nulJoin_right_inj]

/-- The first parts of local texts are the kinds. -/
theorem nulJoin_text_inj {kind kind' : InputKind} {canonical canonical' : String} :
    nulJoin kind.text canonical = nulJoin kind'.text canonical' ↔
      kind = kind' ∧ canonical = canonical' := by
  cases kind <;> cases kind'
  · simp [nulJoin_right_inj]
  · simp [← String.toList_inj, toList_nulJoin, InputKind.text]
  · simp [← String.toList_inj, toList_nulJoin, InputKind.text]
  · simp [nulJoin_right_inj]

end Scopes

/-! ### Bindings -/

section Bindings

variable {toLowerCase : String → String} {layers : List LayerV2} {binding : BindingV2}

theorem noNul_canonical (hinput : binding.input.Fine (jsReading toLowerCase)) :
    ∀ input ∈ bindingScopeInputKeys binding.input, NoNul (canonicalKey toLowerCase input.1) := by
  have hknown : ∀ key, (jsReading toLowerCase).Known key → NoNul (canonicalKey toLowerCase key) :=
    fun key h => noNul_of_supported (List.mem_append_left _ h)
  cases hi : binding.input with
  | key key =>
    rw [hi] at hinput
    simpa [bindingScopeInputKeys] using hknown key hinput.2
  | keyCluster up left down right =>
    rw [hi] at hinput
    have hall : ∀ key ∈ [up, left, down, right], NoNul (canonicalKey toLowerCase key) :=
      fun key hkey => hknown key (hinput key hkey).2
    simpa [bindingScopeInputKeys] using hall
  | mouseButton button =>
    rw [hi] at hinput
    have hbutton : NoNul (canonicalKey toLowerCase button) :=
      noNul_of_supported (List.mem_append_right _ hinput.2)
    simpa [bindingScopeInputKeys] using hbutton
  | mouseMove => simp [bindingScopeInputKeys]

theorem noNul_scopedModifier (h : ∀ modifier ∈ binding.modifier,
    binding.ModifierFine (jsReading toLowerCase) modifier) :
    ∀ name ∈ scopedModifier toLowerCase binding, NoNul name := by
  intro name hname
  obtain ⟨modifier, hmodifier, rfl⟩ := Option.mem_map.mp hname
  exact noNul_of_supported (List.mem_append_left _ (h modifier hmodifier).known)

/-- The input uses the key of the binding's own layer, as the page's texts say it. -/
def OwnKeyText (toLowerCase : String → String) (layers : List LayerV2) (binding : BindingV2)
    (input : String × InputKind) : Prop :=
  input.2 = .key ∧ binding.layer ≠ none ∧
    nulJoin binding.scopeLayer (canonicalKey toLowerCase input.1) ∈
      layerActivationKeys toLowerCase layers

theorem passesOver_validateScopedInput :
    PassesOver (validateScopedInput toLowerCase layers binding.toPage)
      (fun input => nulJoin input.2.text (canonicalKey toLowerCase input.1))
      (fun input => scopeKey toLowerCase binding.toPage input.2 (canonicalKey toLowerCase input.1))
      fun input => ¬ OwnKeyText toLowerCase layers binding input where
  used := fun s input hused => by
    unfold nulJoin at hused
    rw [validateScopedInput, if_pos hused]
  errors := fun s input hused => by
    unfold nulJoin at hused
    rw [validateScopedInput, if_neg hused, List.append_eq_nil_iff, errorIf_eq_nil, errorIf_eq_nil]
    rfl
  next := fun s input hused => by
    unfold nulJoin at hused ⊢
    rw [validateScopedInput, if_neg hused]
  key_iff := fun a b => localKey_iff
  fine_of_eq := fun a b heq hfine => by
    obtain ⟨hkind, hcanonical⟩ := nulJoin_text_inj.mp heq
    unfold OwnKeyText at hfine ⊢
    rwa [← hkind, ← hcanonical]

/-- The texts say what the rule says, if the keys are supported. -/
theorem ownKeyText_iff (hlayers : ∀ layer ∈ layers, (jsReading toLowerCase).Known layer.activation.key)
    (hinput : binding.input.Fine (jsReading toLowerCase)) :
    (∀ input ∈ bindingScopeInputKeys binding.input,
        ¬ OwnKeyText toLowerCase layers binding input) ↔
      ∀ name ∈ binding.layer, ∀ layer ∈ layers, layer.name = name →
        ∀ key ∈ bindingInputKeys binding.input, (jsReading toLowerCase).canonical key ≠
          (jsReading toLowerCase).canonical layer.activation.key := by
  have hmem : ∀ name key, NoNul key →
      (nulJoin name key ∈ layerActivationKeys toLowerCase layers ↔
        ∃ layer ∈ layers, layer.name = name ∧
          canonicalKey toLowerCase layer.activation.key = key) := by
    intro name key hkey
    rw [layerActivationKeys, List.mem_map]
    constructor
    · rintro ⟨layer, hlayer, heq⟩
      have hnul : NoNul (canonicalKey toLowerCase layer.activation.key) :=
        noNul_of_supported (List.mem_append_left _ (hlayers layer hlayer))
      exact ⟨layer, hlayer, (nulJoin_inj hnul hkey).mp heq⟩
    · rintro ⟨layer, hlayer, rfl, rfl⟩
      exact ⟨layer, hlayer, rfl⟩
  have hnul := noNul_canonical hinput
  constructor
  · intro h name hname layer hlayer hlayerName key hkey heq
    rw [mem_bindingInputKeys] at hkey
    refine h _ hkey ⟨rfl, ?_, ?_⟩
    · rw [hname]
      exact Option.some_ne_none name
    · rw [hmem _ _ (hnul _ hkey), BindingV2.scopeLayer, hname]
      exact ⟨layer, hlayer, hlayerName, heq.symm⟩
  · rintro h ⟨key, kind⟩ hkey ⟨hkind, hsome, htext⟩
    obtain rfl : kind = .key := hkind
    obtain ⟨name, hname⟩ := Option.ne_none_iff_exists'.mp hsome
    rw [hmem _ _ (hnul _ hkey), BindingV2.scopeLayer, hname] at htext
    obtain ⟨layer, hlayer, hlayerName, heq⟩ := htext
    exact h name hname layer hlayer hlayerName key (mem_bindingInputKeys.mpr hkey) heq.symm

/-- The scopes of a binding, as the page's texts. -/
def scopeKeys (toLowerCase : String → String) (binding : BindingV2) : Set String :=
  { x | ∃ input ∈ bindingScopeInputKeys binding.input,
    x = scopeKey toLowerCase binding.toPage input.2 (canonicalKey toLowerCase input.1) }

/-- What a binding adds to the memory of the loop: its name, and its scopes. -/
def seenKeys (toLowerCase : String → String) (binding : BindingV2) : Set (String ⊕ String) :=
  {.inl (trim jsBlank binding.name)} ∪ .inr '' scopeKeys toLowerCase binding

/-- The memory of the loop over the bindings. -/
def BindingSeen (s : List String × List String) : String ⊕ String → Prop
  | .inl name => name ∈ s.1
  | .inr key => key ∈ s.2

theorem validateBinding_toPage
    (hlayers : ∀ layer ∈ layers, (jsReading toLowerCase).Known layer.activation.key)
    {s : List String × List String} :
    (validateBinding toLowerCase layers s binding.toPage).1 = [] ↔
      binding.Fine (jsReading toLowerCase) layers ∧
        ∀ k ∈ seenKeys toLowerCase binding, ¬ BindingSeen s k := by
  have hmodifier : (∀ modifier ∈ binding.toPage.modifier,
      validateModifier toLowerCase binding.toPage modifier = []) ↔
      ∀ modifier ∈ binding.modifier, binding.ModifierFine (jsReading toLowerCase) modifier :=
    forall₂_congr fun _ _ => validateModifier_toPage
  have hcompatible : validateCompatibility binding.toPage.input binding.toPage.action.kind
      binding.toPage.name = [] ↔ Wroid.requiredInput binding.input binding.action = none := by
    have hrequired : requiredInput binding.toPage.input binding.toPage.action.kind =
        Wroid.requiredInput binding.input binding.action := requiredInput_toPage
    rw [validateCompatibility, hrequired]
    cases Wroid.requiredInput binding.input binding.action <;> simp
  have hinput : validateInput toLowerCase binding.toPage.input binding.toPage.name = [] ↔
      binding.input.Fine (jsReading toLowerCase) := validateInput_toPage
  have haction : validateAction toLowerCase binding.toPage.action binding.toPage.name = [] ↔
      binding.action.Fine (jsReading toLowerCase) := validateAction_toPage
  have hscoped : (scan (validateScopedInput toLowerCase layers binding.toPage)
      (bindingScopeInputKeys binding.toPage.input) ([], s.2)).1 = [] ↔
      (∀ x ∈ scopeKeys toLowerCase binding, x ∉ s.2) ∧
        ∀ input ∈ bindingScopeInputKeys binding.input,
          ¬ OwnKeyText toLowerCase layers binding input := by
    have hpage : binding.toPage.input = binding.input := rfl
    rw [hpage, scan_repeated_eq_nil passesOver_validateScopedInput]
    simp only [forall_and]
    refine and_congr_left' ⟨?_, fun h input hinput => h _ ⟨input, hinput, rfl⟩⟩
    rintro h x ⟨input, hinput, rfl⟩
    exact h input hinput
  have hkeys : (∀ k ∈ seenKeys toLowerCase binding, ¬ BindingSeen s k) ↔
      trim jsBlank binding.name ∉ s.1 ∧ ∀ x ∈ scopeKeys toLowerCase binding, x ∉ s.2 := by
    simp only [seenKeys, Set.mem_union, Set.mem_singleton_iff, Set.mem_image, or_imp, forall_and,
      forall_eq, forall_exists_index, and_imp, forall_apply_eq_imp_iff₂, BindingSeen]
  rw [validateBinding_eq_nil, hinput, haction, hcompatible, hmodifier, hscoped, hkeys]
  constructor
  · rintro ⟨⟨hnamed, hnew⟩, hinput, haction, hcompat, hlayer, hmod, hfree, hown⟩
    exact ⟨⟨hnamed, hinput, haction, hcompat, hlayer, hmod, (ownKeyText_iff hlayers hinput).mp hown⟩,
      hnew, hfree⟩
  · rintro ⟨hfine, hnew, hfree⟩
    exact ⟨⟨hfine.named, hnew⟩, hfine.input, hfine.action, hfine.compatible, hfine.layer,
      hfine.modifier, hfree, (ownKeyText_iff hlayers hfine.input).mpr hfine.not_own_key⟩

theorem bindingSeen_validateBinding {s : List String × List String} (k : String ⊕ String) :
    BindingSeen (validateBinding toLowerCase layers s binding.toPage).2 k ↔
      BindingSeen s k ∨ k ∈ seenKeys toLowerCase binding := by
  rcases k with name | key
  · simp [BindingSeen, validateBinding, seenKeys, BindingV2.toPage, or_comm]
  · have hpage : binding.toPage.input = binding.input := rfl
    simp only [BindingSeen, validateBinding, seenKeys, Set.mem_union, Set.mem_singleton_iff,
      reduceCtorEq, Set.mem_image, Sum.inr.injEq, exists_eq_right, false_or]
    rw [mem_scan_repeated passesOver_validateScopedInput, hpage]
    rfl

theorem disjoint_seenKeys {a b : BindingV2} :
    Disjoint (seenKeys toLowerCase a) (seenKeys toLowerCase b) ↔
      (jsReading toLowerCase).trim a.name ≠ (jsReading toLowerCase).trim b.name ∧
        Disjoint (scopeKeys toLowerCase a) (scopeKeys toLowerCase b) := by
  have hname : Disjoint ({.inl (trim jsBlank a.name)} : Set (String ⊕ String))
      (seenKeys toLowerCase b) ↔
      (jsReading toLowerCase).trim a.name ≠ (jsReading toLowerCase).trim b.name := by
    simp [Set.disjoint_singleton_left, seenKeys, jsReading]
  have hinputs : Disjoint (.inr '' scopeKeys toLowerCase a) (seenKeys toLowerCase b) ↔
      Disjoint (scopeKeys toLowerCase a) (scopeKeys toLowerCase b) := by
    rw [seenKeys, Set.disjoint_union_right, Set.disjoint_image_iff Sum.inr_injective]
    simp
  rw [← hname, ← hinputs, ← Set.disjoint_union_left, ← seenKeys]

/-- Scopes are disjoint iff their texts are. -/
theorem disjoint_scopeKeys {a b : BindingV2} (ha : a.Fine (jsReading toLowerCase) layers)
    (hb : b.Fine (jsReading toLowerCase) layers) :
    Disjoint (scopeKeys toLowerCase a) (scopeKeys toLowerCase b) ↔
      Disjoint (a.scopedInputs (jsReading toLowerCase)) (b.scopedInputs (jsReading toLowerCase)) := by
  have hinj : ∀ input ∈ bindingScopeInputKeys a.input, ∀ input' ∈ bindingScopeInputKeys b.input,
      (scopeKey toLowerCase a.toPage input.2 (canonicalKey toLowerCase input.1) =
          scopeKey toLowerCase b.toPage input'.2 (canonicalKey toLowerCase input'.1) ↔
        ((a.scopeLayer, scopedModifier toLowerCase a, input.2,
            canonicalKey toLowerCase input.1) : ScopedInput) =
          (b.scopeLayer, scopedModifier toLowerCase b, input'.2,
            canonicalKey toLowerCase input'.1)) :=
    fun input hinput input' hinput' => scopeKey_inj (noNul_scopedModifier ha.modifier)
      (noNul_scopedModifier hb.modifier) (noNul_canonical ha.input input hinput)
      (noNul_canonical hb.input input' hinput')
  rw [Set.disjoint_left, Set.disjoint_left]
  constructor
  · rintro h x ⟨input, hinput, rfl⟩ ⟨input', hinput', heq⟩
    exact h ⟨input, hinput, rfl⟩ ⟨input', hinput', (hinj input hinput input' hinput').mpr heq⟩
  · rintro h x ⟨input, hinput, rfl⟩ ⟨input', hinput', heq⟩
    exact h ⟨input, hinput, rfl⟩ ⟨input', hinput', (hinj input hinput input' hinput').mp heq⟩

end Bindings

/-- **The page has no errors for exactly the profiles that keep the rules in its reading.** -/
theorem validateProfile_toPage {toLowerCase : String → String} {document : ProfileDocument} :
    validateProfile toLowerCase document.toPage = [] ↔
      document.profile.Accepts (jsReading toLowerCase) := by
  have hbindings : (∀ layer ∈ document.profile.layers,
      (jsReading toLowerCase).Known layer.activation.key) →
      ((scan (validateBinding toLowerCase document.profile.layers)
          (document.profile.bindings.map BindingV2.toPage) ([], [])).1 = [] ↔
        (∀ b ∈ document.profile.bindings,
          b.Fine (jsReading toLowerCase) document.profile.layers) ∧
        document.profile.bindings.Pairwise fun a b =>
          (jsReading toLowerCase).trim a.name ≠ (jsReading toLowerCase).trim b.name ∧
            Disjoint (a.scopedInputs (jsReading toLowerCase))
              (b.scopedInputs (jsReading toLowerCase))) := by
    intro hlayers
    rw [scan_map, scan_eq_nil BindingSeen
      (fun b => b.Fine (jsReading toLowerCase) document.profile.layers) (seenKeys toLowerCase)
      (fun _ _ => validateBinding_toPage hlayers) fun _ _ _ k => bindingSeen_validateBinding k]
    have hempty : ∀ k, ¬ BindingSeen ([], []) k := by
      intro k
      cases k <;> simp [BindingSeen]
    simp only [hempty, not_false_eq_true, implies_true, and_true, disjoint_seenKeys]
    refine and_congr_right fun hfine => List.Pairwise.iff_of_mem fun ha hb => ?_
    rw [disjoint_scopeKeys (hfine _ ha) (hfine _ hb)]
  have hbase : (document.profile.bindings.map BindingV2.toPage).flatMap
      (validateBaseLayerKeys toLowerCase document.profile.layers) = [] ↔
      ∀ binding ∈ document.profile.bindings, binding.layer = none → binding.modifier = none →
        ∀ key ∈ bindingInputKeys binding.input, ∀ layer ∈ document.profile.layers,
          (jsReading toLowerCase).canonical key ≠
            (jsReading toLowerCase).canonical layer.activation.key := by
    rw [List.flatMap_eq_nil_iff, List.forall_mem_map]
    exact forall₂_congr fun _ _ => validateBaseLayerKeys_toPage
  have hschema : document.toPage.schemaVersion = some 2 ↔
      document.profile.schemaVersion = PROFILE_SCHEMA_VERSION := Option.some_inj
  have hlayers : document.toPage.layers = document.profile.layers := rfl
  have hpage : document.toPage.bindings = document.profile.bindings.map BindingV2.toPage := rfl
  simp only [validateProfile, List.append_eq_nil_iff, errorIf_eq_nil, not_not, hschema, hlayers,
    hpage, scan_validateLayerName_eq_nil, scan_validateLayerKey_eq_nil, hbase, not_lt]
  constructor
  · rintro ⟨⟨⟨⟨⟨⟨⟨hschema, hname⟩, hpackage⟩, hlayer, hlayers⟩, hcount⟩, hkeys, hkeys'⟩, hbase⟩,
      hrest⟩
    obtain ⟨hfine, hpairs⟩ := (hbindings hkeys).mp hrest
    rw [List.pairwise_and_iff] at hpairs
    exact ⟨hschema, hname, hpackage, fun l hl => (hlayer l hl).1, fun l hl => (hlayer l hl).2,
      hlayers, hcount, hkeys, hkeys', hbase, hfine, hpairs.1, hpairs.2⟩
  · intro h
    refine ⟨⟨⟨⟨⟨⟨⟨h.schema, h.named⟩, h.package⟩,
      fun l hl => ⟨h.layer_named l hl, h.layer_not_base l hl⟩, h.layer_names⟩, h.layer_count⟩,
      h.layer_keys_known, h.layer_keys⟩, h.base_keys⟩, ?_⟩
    rw [hbindings h.layer_keys_known, List.pairwise_and_iff]
    exact ⟨h.bindings, h.binding_names, h.binding_inputs⟩

end Page

end Wroid
