import Wroid.Editor.ValidateRules

/-!
# The two validators

Both programs check the same rules, but they read texts differently.  A next-line control at the
end of a text is a blank for the server only, a byte order mark for the page only; the page takes
the Kelvin sign for a `k`, and an empty toggle key for none.  All other texts are read alike.

## Main definitions

* `LowerCase` — what is used of the lower case of a text.
* `ProfileV2.ReadAlike` — two readings find the same names empty, reserved, equal and known.

## Main results

* `accepts_of_readAlike` — the rules hold in both readings or in none, if these read alike.
* `validators_agree_iff` — **the validators agree on a profile iff its texts are read alike, or it
  breaks the rules in both readings.**
-/

namespace Wroid

open Lib

/-! ### Lower case -/

/-- The Kelvin sign, whose small letter is `k`. -/
def kelvinSign : Char := '\u212A'

/-- The small letter of a character, if that is an ASCII letter. -/
def smallLetter (c : Char) : Char := if c = kelvinSign then 'k' else c.toLower

/-- `String.prototype.toLowerCase`.  A text becomes an ASCII text iff its characters do one by
one: the capital ASCII letters and the Kelvin sign are the only other characters whose lower case
is an ASCII character. -/
structure LowerCase where
  toLowerCase : String → String
  eq_ascii : ∀ s t : String, (∀ c ∈ t.toList, c.toNat < 128) →
    (toLowerCase s = t ↔ s.toList.map smallLetter = t.toList)

/-- The lower case of texts in which no other letters have small ones. -/
def LowerCase.letters : LowerCase where
  toLowerCase s := String.ofList (s.toList.map smallLetter)
  eq_ascii s t _ := by rw [← String.toList_inj, String.toList_ofList]

/-! ### Two readings -/

section Readings

variable {T T' : TextReading}

def InputV2.buttons : InputV2 → List String
  | .mouseButton button => [button]
  | .key _ | .keyCluster .. | .mouseMove => []

mutual

/-- The toggle keys of an action, those of the steps of a macro included. -/
def ActionV2.toggleKeys (action : ActionV2) : List String :=
  match action with
  | .tap _ | .hold _ | .virtualJoystick .. => []
  | .mouseAim _ _ toggleKey _ _ _ _ => toggleKey.toList
  | .macroSteps steps => ActionV2.stepToggleKeys steps

def ActionV2.stepToggleKeys (steps : List ActionV2) : List String :=
  match steps with
  | [] => []
  | step :: rest => step.toggleKeys ++ ActionV2.stepToggleKeys rest

end

namespace TextReading

def Supported (name : String) : Prop := name ∈ supportedKeyNames ++ supportedButtonNames

/-- The toggle key is none, or known. -/
def ToggleFine (T : TextReading) (key : String) : Prop :=
  ∀ checked ∈ T.toggleKey (some key), T.Known checked

/-- Two readings that know a name by the same canonical name. -/
structure Compatible (T T' : TextReading) : Prop where
  canonical : ∀ name, Supported (T.canonical name) → Supported (T'.canonical name) →
    T.canonical name = T'.canonical name
  left_nonempty : ∀ name, Supported (T.canonical name) → T.trim name ≠ ""
  right_nonempty : ∀ name, Supported (T'.canonical name) → T'.trim name ≠ ""
  left_toggle : T.toggleKey none = none
  right_toggle : T'.toggleKey none = none

theorem Compatible.symm (h : T.Compatible T') : T'.Compatible T where
  canonical := fun name hT' hT => (h.canonical name hT hT').symm
  left_nonempty := h.right_nonempty
  right_nonempty := h.left_nonempty
  left_toggle := h.right_toggle
  right_toggle := h.left_toggle

/-- A reading that sees no toggle keys. -/
def silent : TextReading := ⟨id, id, fun _ => none⟩

end TextReading

/-- A binding's texts are read alike. -/
structure BindingV2.ReadAlike (T T' : TextReading) (binding : BindingV2) : Prop where
  named : T.trim binding.name = "" ↔ T'.trim binding.name = ""
  keys : ∀ key ∈ bindingInputKeys binding.input, (T.Known key ↔ T'.Known key)
  buttons : ∀ button ∈ binding.input.buttons,
    (T.canonical button ∈ supportedButtonNames ↔ T'.canonical button ∈ supportedButtonNames)
  modifier : ∀ modifier ∈ binding.modifier, (T.Known modifier ↔ T'.Known modifier)
  toggle_keys : ∀ key ∈ binding.action.toggleKeys, (T.ToggleFine key ↔ T'.ToggleFine key)

/-- The same names are empty, reserved, equal and known in both readings. -/
structure ProfileV2.ReadAlike (T T' : TextReading) (p : ProfileV2) : Prop where
  named : T.trim p.name = "" ↔ T'.trim p.name = ""
  package : T.trim p.packageName = "" ↔ T'.trim p.packageName = ""
  layer_named : ∀ layer ∈ p.layers, (T.trim layer.name = "" ↔ T'.trim layer.name = "")
  layer_base : ∀ layer ∈ p.layers, (T.canonical layer.name = "base" ↔ T'.canonical layer.name = "base")
  layer_names : p.layers.Pairwise fun a b =>
    (T.trim a.name = T.trim b.name ↔ T'.trim a.name = T'.trim b.name)
  layer_keys : ∀ layer ∈ p.layers, (T.Known layer.activation.key ↔ T'.Known layer.activation.key)
  bindings : ∀ binding ∈ p.bindings, binding.ReadAlike T T'
  binding_names : p.bindings.Pairwise fun a b =>
    (T.trim a.name = T.trim b.name ↔ T'.trim a.name = T'.trim b.name)

theorem BindingV2.ReadAlike.symm {binding : BindingV2} (h : binding.ReadAlike T T') :
    binding.ReadAlike T' T where
  named := h.named.symm
  keys := fun key hkey => (h.keys key hkey).symm
  buttons := fun button hbutton => (h.buttons button hbutton).symm
  modifier := fun modifier hmodifier => (h.modifier modifier hmodifier).symm
  toggle_keys := fun key hkey => (h.toggle_keys key hkey).symm

theorem ProfileV2.ReadAlike.symm {p : ProfileV2} (h : p.ReadAlike T T') : p.ReadAlike T' T where
  named := h.named.symm
  package := h.package.symm
  layer_named := fun layer hlayer => (h.layer_named layer hlayer).symm
  layer_base := fun layer hlayer => (h.layer_base layer hlayer).symm
  layer_names := h.layer_names.imp Iff.symm
  layer_keys := fun layer hlayer => (h.layer_keys layer hlayer).symm
  bindings := fun binding hbinding => (h.bindings binding hbinding).symm
  binding_names := h.binding_names.imp Iff.symm

/-! ### Rules in two readings -/

theorem supported_of_known {key : String} (h : T.Known key) : TextReading.Supported (T.canonical key) :=
  List.mem_append_left _ h

mutual

/-- Of an action's texts only the toggle keys are read. -/
theorem ActionV2.fine_iff (hnone : T.toggleKey none = none) {action : ActionV2} :
    action.Fine T ↔ action.Fine .silent ∧ ∀ key ∈ action.toggleKeys, T.ToggleFine key := by
  match action with
  | .tap point => simp [ActionV2.Fine, ActionV2.toggleKeys]
  | .hold point => simp [ActionV2.Fine, ActionV2.toggleKeys]
  | .virtualJoystick center radius deadZone mode reaffirmMs =>
    simp [ActionV2.Fine, ActionV2.toggleKeys]
  | .mouseAim region sensitivity toggleKey recenterThreshold recenterGapMs adsMultiplier
      reaffirmMs =>
    have htoggle : (∀ key ∈ T.toggleKey toggleKey, T.Known key) ↔
        ∀ key ∈ toggleKey.toList, T.ToggleFine key := by
      cases toggleKey with
      | none => simp [hnone]
      | some key => simp [TextReading.ToggleFine]
    simp only [ActionV2.Fine, ActionV2.toggleKeys, TextReading.silent, htoggle, Option.not_mem_none,
      false_imp_iff, implies_true, true_and]
    tauto
  | .macroSteps steps =>
    rw [ActionV2.Fine, ActionV2.Fine, ActionV2.toggleKeys, ActionV2.fineSteps_iff hnone, and_assoc]

theorem ActionV2.fineSteps_iff (hnone : T.toggleKey none = none) {steps : List ActionV2} :
    ActionV2.FineSteps T steps ↔
      ActionV2.FineSteps .silent steps ∧ ∀ key ∈ ActionV2.stepToggleKeys steps, T.ToggleFine key := by
  match steps with
  | [] => simp [ActionV2.FineSteps, ActionV2.stepToggleKeys]
  | step :: rest =>
    rw [ActionV2.FineSteps, ActionV2.FineSteps, ActionV2.stepToggleKeys, List.forall_mem_append,
      ActionV2.fine_iff hnone, ActionV2.fineSteps_iff hnone]
    tauto

end

section Transfer

variable {binding : BindingV2}

/-- A binding's keys are the same in both readings. -/
theorem canonical_eq (hc : T.Compatible T') {key : String} (h : T.Known key)
    (halike : T.Known key ↔ T'.Known key) : T.canonical key = T'.canonical key :=
  hc.canonical key (supported_of_known h) (supported_of_known (halike.mp h))

theorem known_of_fine (h : binding.input.Fine T) :
    ∀ key ∈ bindingInputKeys binding.input, T.Known key := by
  intro key hkey
  cases hi : binding.input with
  | key other =>
    rw [hi] at h hkey
    obtain rfl := List.mem_singleton.mp hkey
    exact h.2
  | keyCluster up left down right =>
    rw [hi] at h hkey
    exact (h key hkey).2
  | mouseButton button =>
    rw [hi] at hkey
    cases hkey
  | mouseMove =>
    rw [hi] at hkey
    cases hkey

theorem button_of_fine (h : binding.input.Fine T) :
    ∀ button ∈ binding.input.buttons, T.canonical button ∈ supportedButtonNames := by
  intro button hbutton
  cases hi : binding.input with
  | mouseButton other =>
    rw [hi] at h hbutton
    obtain rfl := List.mem_singleton.mp hbutton
    exact h.2
  | key | keyCluster | mouseMove =>
    rw [hi] at hbutton
    cases hbutton

theorem input_fine (hc : T.Compatible T') (h : binding.ReadAlike T T')
    (hfine : binding.input.Fine T) : binding.input.Fine T' := by
  have hkey : ∀ key ∈ bindingInputKeys binding.input, T'.trim key ≠ "" ∧ T'.Known key := by
    intro key hkey
    have hknown := (h.keys key hkey).mp (known_of_fine hfine key hkey)
    exact ⟨hc.right_nonempty key (supported_of_known hknown), hknown⟩
  have hbuttons := button_of_fine hfine
  have halike := h.buttons
  cases hi : binding.input with
  | key key =>
    rw [hi] at hkey
    exact hkey key (List.mem_singleton_self key)
  | keyCluster up left down right =>
    rw [hi] at hkey
    exact hkey
  | mouseButton button =>
    rw [hi] at hbuttons halike
    have hmem : button ∈ (InputV2.mouseButton button).buttons := List.mem_singleton_self button
    have hbutton := (halike button hmem).mp (hbuttons button hmem)
    exact ⟨hc.right_nonempty button (List.mem_append_right _ hbutton), hbutton⟩
  | mouseMove => trivial

/-- The keys of a binding and another key are equal in both readings or in none. -/
theorem canonical_ne (hc : T.Compatible T') (h : binding.ReadAlike T T')
    (hfine : binding.input.Fine T) {other : String} (hother : T.canonical other = T'.canonical other)
    (hne : ∀ key ∈ bindingInputKeys binding.input, T.canonical key ≠ T.canonical other) :
    ∀ key ∈ bindingInputKeys binding.input, T'.canonical key ≠ T'.canonical other := by
  intro key hkey
  rw [← canonical_eq hc (known_of_fine hfine key hkey) (h.keys key hkey), ← hother]
  exact hne key hkey

theorem modifier_fine (hc : T.Compatible T') (h : binding.ReadAlike T T')
    (hinput : binding.input.Fine T) {modifier : String} (hmodifier : modifier ∈ binding.modifier)
    (hfine : binding.ModifierFine T modifier) : binding.ModifierFine T' modifier := by
  have hsame := canonical_eq hc hfine.known (h.modifier modifier hmodifier)
  refine ⟨(h.modifier modifier hmodifier).mp hfine.known, hfine.not_mouse_move,
    canonical_ne hc h hinput hsame hfine.differs, ?_⟩
  intro hctrl key hkey
  rw [← hsame] at hctrl
  rw [← canonical_eq hc (known_of_fine hinput key hkey) (h.keys key hkey)]
  exact hfine.not_reserved hctrl key hkey

theorem action_fine (hc : T.Compatible T') (h : binding.ReadAlike T T')
    (hfine : binding.action.Fine T) : binding.action.Fine T' := by
  rw [ActionV2.fine_iff hc.left_toggle] at hfine
  rw [ActionV2.fine_iff hc.right_toggle]
  exact ⟨hfine.1, fun key hkey => (h.toggle_keys key hkey).mp (hfine.2 key hkey)⟩

theorem binding_fine (hc : T.Compatible T') {layers : List LayerV2}
    (hlayers : ∀ layer ∈ layers, (T.Known layer.activation.key ↔ T'.Known layer.activation.key))
    (hknown : ∀ layer ∈ layers, T.Known layer.activation.key) (h : binding.ReadAlike T T')
    (hfine : binding.Fine T layers) : binding.Fine T' layers where
  named := fun hempty => hfine.named (h.named.mpr hempty)
  input := input_fine hc h hfine.input
  action := action_fine hc h hfine.action
  compatible := hfine.compatible
  layer := hfine.layer
  modifier := fun modifier hmodifier =>
    modifier_fine hc h hfine.input hmodifier (hfine.modifier modifier hmodifier)
  not_own_key := fun name hname layer hlayer heq => canonical_ne hc h hfine.input
    (canonical_eq hc (hknown layer hlayer) (hlayers layer hlayer))
    (hfine.not_own_key name hname layer hlayer heq)

/-- A fine binding is in the same scopes. -/
theorem scopedInputs_eq (hc : T.Compatible T') {layers : List LayerV2} (h : binding.ReadAlike T T')
    (hfine : binding.Fine T layers) : binding.scopedInputs T = binding.scopedInputs T' := by
  have hmodifier : binding.modifier.map T.canonical = binding.modifier.map T'.canonical :=
    Option.map_congr fun modifier hmodifier =>
      canonical_eq hc (hfine.modifier modifier hmodifier).known (h.modifier modifier hmodifier)
  have hcanonical : ∀ input ∈ bindingScopeInputKeys binding.input,
      T.canonical input.1 = T'.canonical input.1 := by
    rintro ⟨name, kind⟩ hinput
    cases kind with
    | key =>
      rw [← mem_bindingInputKeys] at hinput
      exact canonical_eq hc (known_of_fine hfine.input name hinput) (h.keys name hinput)
    | mouseButton =>
      have hbutton : name ∈ binding.input.buttons := by
        cases hi : binding.input <;> rw [hi] at hinput <;>
          simp_all [bindingScopeInputKeys, InputV2.buttons]
      have hleft := button_of_fine hfine.input name hbutton
      exact hc.canonical name (List.mem_append_right _ hleft)
        (List.mem_append_right _ ((h.buttons name hbutton).mp hleft))
  ext x
  constructor
  · rintro ⟨input, hinput, rfl⟩
    refine ⟨input, hinput, ?_⟩
    rw [hmodifier, hcanonical input hinput]
  · rintro ⟨input, hinput, rfl⟩
    refine ⟨input, hinput, ?_⟩
    rw [hmodifier, hcanonical input hinput]

end Transfer

/-- The rules hold in the other reading too. -/
theorem accepts_of_accepts (hc : T.Compatible T') {p : ProfileV2} (h : p.ReadAlike T T')
    (ha : p.Accepts T) : p.Accepts T' := by
  have hlayer : ∀ layer ∈ p.layers,
      T.canonical layer.activation.key = T'.canonical layer.activation.key :=
    fun layer hmem => canonical_eq hc (ha.layer_keys_known layer hmem) (h.layer_keys layer hmem)
  exact
    { schema := ha.schema
      named := fun hempty => ha.named (h.named.mpr hempty)
      package := fun hempty => ha.package (h.package.mpr hempty)
      layer_named := fun layer hmem hempty =>
        ha.layer_named layer hmem ((h.layer_named layer hmem).mpr hempty)
      layer_not_base := fun layer hmem hbase =>
        ha.layer_not_base layer hmem ((h.layer_base layer hmem).mpr hbase)
      layer_names := (h.layer_names.and ha.layer_names).imp fun hab heq =>
        hab.2 (hab.1.mpr heq)
      layer_count := ha.layer_count
      layer_keys_known := fun layer hmem =>
        (h.layer_keys layer hmem).mp (ha.layer_keys_known layer hmem)
      layer_keys := by
        refine (List.Pairwise.iff_of_mem fun ha hb => ?_).mp ha.layer_keys
        rw [hlayer _ ha, hlayer _ hb]
      base_keys := fun binding hbinding hnone hmodifier key hkey layer hmem =>
        canonical_ne hc (h.bindings binding hbinding) (ha.bindings binding hbinding).input
          (hlayer layer hmem)
          (fun other hother => ha.base_keys binding hbinding hnone hmodifier other hother layer hmem)
          key hkey
      bindings := fun binding hbinding => binding_fine hc h.layer_keys ha.layer_keys_known
        (h.bindings binding hbinding) (ha.bindings binding hbinding)
      binding_names := (h.binding_names.and ha.binding_names).imp fun hab heq =>
        hab.2 (hab.1.mpr heq)
      binding_inputs := by
        refine (List.Pairwise.iff_of_mem fun hx hy => ?_).mp ha.binding_inputs
        rw [scopedInputs_eq hc (h.bindings _ hx) (ha.bindings _ hx),
          scopedInputs_eq hc (h.bindings _ hy) (ha.bindings _ hy)] }

/-- **The rules hold in both readings or in none**, if these read alike. -/
theorem accepts_of_readAlike (hc : T.Compatible T') {p : ProfileV2} (h : p.ReadAlike T T') :
    p.Accepts T ↔ p.Accepts T' :=
  ⟨accepts_of_accepts hc h, accepts_of_accepts hc.symm h.symm⟩

/-- A profile that keeps the rules in both readings is read alike. -/
theorem readAlike_of_accepts (hc : T.Compatible T') {p : ProfileV2} (h : p.Accepts T)
    (h' : p.Accepts T') : p.ReadAlike T T' where
  named := iff_of_false h.named h'.named
  package := iff_of_false h.package h'.package
  layer_named := fun layer hmem => iff_of_false (h.layer_named layer hmem) (h'.layer_named layer hmem)
  layer_base := fun layer hmem =>
    iff_of_false (h.layer_not_base layer hmem) (h'.layer_not_base layer hmem)
  layer_names := (h.layer_names.and h'.layer_names).imp fun hab => iff_of_false hab.1 hab.2
  layer_keys := fun layer hmem =>
    iff_of_true (h.layer_keys_known layer hmem) (h'.layer_keys_known layer hmem)
  bindings := fun binding hbinding =>
    have hfine := h.bindings binding hbinding
    have hfine' := h'.bindings binding hbinding
    { named := iff_of_false hfine.named hfine'.named
      keys := fun key hkey =>
        iff_of_true (known_of_fine hfine.input key hkey) (known_of_fine hfine'.input key hkey)
      buttons := fun button hbutton => iff_of_true (button_of_fine hfine.input button hbutton)
        (button_of_fine hfine'.input button hbutton)
      modifier := fun modifier hmodifier => iff_of_true (hfine.modifier modifier hmodifier).known
        (hfine'.modifier modifier hmodifier).known
      toggle_keys := fun key hkey =>
        iff_of_true (((ActionV2.fine_iff hc.left_toggle).mp hfine.action).2 key hkey)
          (((ActionV2.fine_iff hc.right_toggle).mp hfine'.action).2 key hkey) }
  binding_names := (h.binding_names.and h'.binding_names).imp fun hab => iff_of_false hab.1 hab.2

end Readings

/-! ### The readings of the two programs -/

namespace Page

open TextReading (Supported)

/-- The names of the tables are ASCII texts. -/
theorem supported_ascii {name : String} (h : Supported name) : ∀ c ∈ name.toList, c.toNat < 128 := by
  have hall : (supportedKeyNames ++ supportedButtonNames).all (fun name =>
      name.toList.all fun c => c.toNat < 128) = true := by
    decide +kernel
  simp only [List.all_eq_true, decide_eq_true_eq] at hall
  exact hall name h

theorem supported_ne_empty {name : String} (h : Supported name) : name ≠ "" := by
  rintro rfl
  revert h
  unfold Supported
  decide

variable (lower : LowerCase)

/-- What a known name of the page is. -/
theorem canonical_js {name : String} (h : Supported ((jsReading lower.toLowerCase).canonical name)) :
    (trim jsBlank name).toList.map smallLetter =
      ((jsReading lower.toLowerCase).canonical name).toList :=
  (lower.eq_ascii _ _ (supported_ascii h)).mp rfl

theorem canonical_rust (name : String) : (trim rustBlank name).toList.map Char.toLower =
    (TextReading.rust.canonical name).toList :=
  (toList_asciiLower _).symm

/-- A name that both know has no characters at its ends that only one trims. -/
theorem trim_eq_of_supported {name : String} (hrust : Supported (TextReading.rust.canonical name))
    (hjs : Supported ((jsReading lower.toLowerCase).canonical name)) :
    trim rustBlank name = trim jsBlank name := by
  have hnext : nextLine ∉ name.toList := by
    intro hmem
    have htrimmed : nextLine ∈ (trim jsBlank name).toList := by
      rw [toList_trim]
      exact mem_trimChars_of_not_blank hmem (by decide)
    have hlower : nextLine ∈ ((jsReading lower.toLowerCase).canonical name).toList := by
      rw [← canonical_js lower hjs]
      exact List.mem_map.mpr ⟨nextLine, htrimmed, by decide⟩
    exact absurd (supported_ascii hjs nextLine hlower) (by decide)
  have hmark : byteOrderMark ∉ name.toList := by
    intro hmem
    have htrimmed : byteOrderMark ∈ (trim rustBlank name).toList := by
      rw [toList_trim]
      exact mem_trimChars_of_not_blank hmem (by decide)
    have hlower : byteOrderMark ∈ (TextReading.rust.canonical name).toList := by
      rw [← canonical_rust]
      exact List.mem_map.mpr ⟨byteOrderMark, htrimmed, by decide⟩
    exact absurd (supported_ascii hrust byteOrderMark hlower) (by decide)
  refine trim_eq_of_agree fun c hc => ?_
  have hc₁ : c ≠ nextLine := fun h => hnext (h ▸ hc)
  have hc₂ : c ≠ byteOrderMark := fun h => hmark (h ▸ hc)
  rw [rustBlank, jsBlank, beq_false_of_ne hc₁, beq_false_of_ne hc₂]

/-- The two programs know a name by the same canonical name. -/
theorem compatible : TextReading.rust.Compatible (jsReading lower.toLowerCase) where
  canonical := by
    intro name hrust hjs
    rw [← String.toList_inj, ← canonical_rust, ← canonical_js lower hjs,
      trim_eq_of_supported lower hrust hjs]
    refine List.map_congr_left fun c hc => ?_
    have hsmall : c.toLower ∈ (TextReading.rust.canonical name).toList := by
      rw [← canonical_rust, trim_eq_of_supported lower hrust hjs]
      exact List.mem_map_of_mem hc
    have hkelvin : c ≠ kelvinSign := by
      rintro rfl
      exact absurd (supported_ascii hrust _ hsmall) (by decide)
    rw [smallLetter, if_neg hkelvin]
  left_nonempty := by
    intro name hrust hempty
    refine supported_ne_empty hrust ?_
    rw [← String.toList_inj, ← canonical_rust]
    have htrim : trim rustBlank name = "" := hempty
    rw [htrim]
    rfl
  right_nonempty := by
    intro name hjs hempty
    refine supported_ne_empty hjs ?_
    rw [← String.toList_inj, ← canonical_js lower hjs]
    have htrim : trim jsBlank name = "" := hempty
    rw [htrim]
    rfl
  left_toggle := rfl
  right_toggle := rfl

/-- **The validators agree on a profile iff its texts are read alike, or it breaks the rules in
both readings.** -/
theorem validators_agree_iff (document : ProfileDocument) :
    (validateProfile lower.toLowerCase document.toPage = [] ↔ document.validate = .ok ()) ↔
      (document.profile.Accepts .rust ∨ document.profile.Accepts (jsReading lower.toLowerCase) →
        document.profile.ReadAlike .rust (jsReading lower.toLowerCase)) := by
  have hserver : document.validate = .ok () ↔ document.profile.Accepts .rust := validate_eq_ok
  have hc := compatible lower
  rw [validateProfile_toPage, hserver]
  constructor
  · intro hagree haccepted
    rcases haccepted with hrust | hjs
    · exact readAlike_of_accepts hc hrust (hagree.mpr hrust)
    · exact readAlike_of_accepts hc (hagree.mp hjs) hjs
  · intro halike
    constructor
    · intro hjs
      exact (accepts_of_readAlike hc (halike (.inr hjs))).mpr hjs
    · intro hrust
      exact (accepts_of_readAlike hc (halike (.inl hrust))).mp hrust

/-- A profile whose mouse aim has an empty toggle key. -/
def emptyToggle : ProfileDocument where
  profile :=
    { schemaVersion := 2
      name := "Aim"
      packageName := "com.tencent.ig"
      layers := []
      bindings := [⟨"camera", none, none, .mouseMove,
        .mouseAim ⟨0, 0, 1, 1⟩ 1 (some "") (7 / 10) 0 none none⟩] }
  orientation := .landscape

/-- The page accepts a profile that the server rejects. -/
theorem empty_toggle_key_passes_the_page :
    ¬ ∀ (lower : LowerCase) (document : ProfileDocument),
      validateProfile lower.toLowerCase document.toPage = [] ↔ document.validate = .ok () := by
  intro h
  have hpage : validateProfile LowerCase.letters.toLowerCase emptyToggle.toPage = [] := by
    decide +kernel
  have hserver : emptyToggle.validate ≠ .ok () := by decide +kernel
  exact hserver ((h .letters emptyToggle).mp hpage)

end Page

end Wroid
