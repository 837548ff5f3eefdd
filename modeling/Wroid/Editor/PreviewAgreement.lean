import Wroid.Editor.Preview
import Wroid.Editor.ValidateAgreement
import Wroid.Session.Layers

/-!
# The preview agrees with the session

The editor page and the session runtime decide by themselves which bindings an input reaches: the
page with sets of names that it searches at each event, the runtime with words of bits and a table
of siblings.  For a profile that both accept, and while the page shows what is held, they decide
alike.

## Main definitions

* `Previewed` — a profile that both accept.
* `Shows` — the page shows what is held.

## Main results

* `mem_resolvedPhysicalInputs` — the inputs that the runtime resolves are the sources of the page.
* `selectedLayerIndex_spec` — the page selects the highest active layer with a binding of the input.
* `bindingAvailableForSource_iff` — **an input reaches a binding on the page iff it does in the
  session.**
-/

set_option linter.constructorNameAsVariable false

namespace Wroid

open Lib

/-! ### Names of inputs -/

/-- The name of a button in a profile. -/
def HostMouseButton.profileName : HostMouseButton → String
  | .left => "left"
  | .right => "right"
  | .middle => "middle"
  | .side => "side"
  | .extra => "extra"

theorem HostMouseButton.profileName_injective : Function.Injective HostMouseButton.profileName := by
  intro button button' h
  cases button <;> cases button' <;> first | rfl | exact absurd h (by decide)

/-- A name is parsed as the button whose canonical name it has. -/
theorem HostMouseButton.parse_eq_some {value : String} {button : HostMouseButton} :
    HostMouseButton.parse value = some button ↔ canonicalKey value = button.profileName := by
  have hlower : ∀ entry ∈ HostMouseButton.NAMES, asciiLower entry.1 = entry.2.profileName := by
    decide
  rw [HostMouseButton.parse, Option.map_eq_some_iff]
  constructor
  · rintro ⟨entry, hfind, rfl⟩
    have hsame := List.find?_some hfind
    rw [beq_iff_eq, hlower _ (List.mem_of_find?_eq_some hfind)] at hsame
    exact hsame
  · intro hname
    have hmem : (button.profileName, button) ∈ HostMouseButton.NAMES := by
      cases button <;> decide
    obtain ⟨entry, hfind⟩ : ∃ entry, HostMouseButton.NAMES.find? (fun entry =>
        asciiLower (trim rustBlank value) == asciiLower entry.1) = some entry := by
      rw [← Option.isSome_iff_exists, List.find?_isSome]
      refine ⟨_, hmem, ?_⟩
      rw [beq_iff_eq, hlower _ hmem]
      exact hname
    refine ⟨entry, hfind, ?_⟩
    have hsame := List.find?_some hfind
    rw [beq_iff_eq, hlower _ (List.mem_of_find?_eq_some hfind)] at hsame
    exact HostMouseButton.profileName_injective (hsame.symm.trans hname)

/-- What kind of name a physical input has. -/
def RuntimePhysicalInput.kind : RuntimePhysicalInput → InputKind
  | .key _ => .key
  | .mouseButton _ => .mouseButton

/-- The name of a physical input in a profile. -/
def RuntimePhysicalInput.name : RuntimePhysicalInput → String
  | .key pressed => pressed.profileName
  | .mouseButton pressed => pressed.profileName

namespace Page

open TextReading (Supported)

section Names

variable {lower : LowerCase}

/-- A text that both programs know has one canonical name. -/
theorem canonicalKey_eq {name : String} (hrust : Supported (TextReading.rust.canonical name))
    (hjs : Supported ((jsReading lower.toLowerCase).canonical name)) :
    canonicalKey lower.toLowerCase name = Wroid.canonicalKey name :=
  ((compatible lower).canonical name hrust hjs).symm

theorem canonicalKey_empty : canonicalKey lower.toLowerCase "" = "" :=
  (lower.eq_ascii _ _ (fun _ h => by cases h)).mpr rfl

/-- The names of the inputs are canonical. -/
theorem canonicalKey_name (input : RuntimePhysicalInput) :
    canonicalKey lower.toLowerCase input.name = input.name := by
  have hsupported : Supported input.name := by
    rw [Supported, List.mem_append]
    cases input with
    | key key =>
      have hmem := List.mem_map_of_mem (f := Prod.fst) (HostKeyName.mem_profileNames key)
      rw [HostKeyName.names_eq] at hmem
      exact .inl hmem
    | mouseButton button => cases button <;> decide
  refine (lower.eq_ascii _ _ (supported_ascii hsupported)).mpr ?_
  cases input with
  | key key => cases key <;> decide
  | mouseButton button => cases button <;> decide

/-- The names of an accepted input are known to both programs. -/
theorem supported_of_source {input : InputV2} {T : TextReading} (h : input.Fine T)
    {source : String × InputKind} (hsource : source ∈ bindingScopeInputKeys input) :
    Supported (T.canonical source.1) := by
  cases input with
  | key key =>
    obtain rfl := List.mem_singleton.mp hsource
    exact List.mem_append_left _ h.2
  | keyCluster up left down right =>
    have hall : ∀ key ∈ [up, left, down, right], Supported (T.canonical key) :=
      fun key hkey => List.mem_append_left _ (h key hkey).2
    simp only [bindingScopeInputKeys, List.mem_cons, List.not_mem_nil, or_false] at hsource
    rcases hsource with rfl | rfl | rfl | rfl <;> exact hall _ (by simp)
  | mouseButton button =>
    obtain rfl := List.mem_singleton.mp hsource
    exact List.mem_append_right _ h.2
  | mouseMove => cases hsource

/-- A source of an accepted input is a key or a button. -/
theorem exists_input {input : InputV2} (hrust : input.Fine .rust)
    (hjs : input.Fine (jsReading lower.toLowerCase)) {source : String × InputKind}
    (hsource : source ∈ bindingScopeInputKeys input) : ∃ physical : RuntimePhysicalInput,
      source.2 = physical.kind ∧ canonicalKey lower.toLowerCase source.1 = physical.name := by
  have heq : canonicalKey lower.toLowerCase source.1 = Wroid.canonicalKey source.1 :=
    canonicalKey_eq (supported_of_source hrust hsource) (supported_of_source hjs hsource)
  have hkey : ∀ name, TextReading.rust.Known name → ∃ key : HostKeyName,
      Wroid.canonicalKey name = key.profileName := by
    intro name hknown
    obtain ⟨key, hkey⟩ := HostKeyName.exists_parse.mpr (knownKeyName_iff.mpr hknown)
    exact ⟨key, HostKeyName.parse_eq_some.mp hkey⟩
  rw [heq]
  cases input with
  | key name =>
    obtain rfl := List.mem_singleton.mp hsource
    obtain ⟨key, hname⟩ := hkey _ hrust.2
    exact ⟨.key key, rfl, hname⟩
  | keyCluster up left down right =>
    have hmem : source.1 ∈ [up, left, down, right] ∧ source.2 = .key := by
      simp only [bindingScopeInputKeys, List.mem_cons, List.not_mem_nil, or_false] at hsource
      rcases hsource with rfl | rfl | rfl | rfl <;> simp
    obtain ⟨key, hname⟩ := hkey _ (hrust _ hmem.1).2
    exact ⟨.key key, hmem.2, hname⟩
  | mouseButton name =>
    obtain rfl := List.mem_singleton.mp hsource
    have hmem : Wroid.canonicalKey name ∈ supportedButtonNames := hrust.2
    have hbuttons : ∀ text ∈ supportedButtonNames,
        text ∈ [.left, .right, .middle, .side, .extra].map HostMouseButton.profileName := by
      decide
    obtain ⟨button, -, hname⟩ := List.mem_map.mp (hbuttons _ hmem)
    exact ⟨.mouseButton button, rfl, hname.symm⟩
  | mouseMove => cases hsource

/-- **The inputs that the runtime resolves are the sources of the page.** -/
theorem mem_resolvedPhysicalInputs {input : InputV2} (hrust : input.Fine .rust)
    (hjs : input.Fine (jsReading lower.toLowerCase)) {physical : RuntimePhysicalInput} :
    physical ∈ resolvedPhysicalInputs input ↔ ∃ source ∈ bindingScopeInputKeys input,
      source.2 = physical.kind ∧ canonicalKey lower.toLowerCase source.1 = physical.name := by
  have heq : ∀ source ∈ bindingScopeInputKeys input,
      canonicalKey lower.toLowerCase source.1 = Wroid.canonicalKey source.1 :=
    fun source hsource =>
      canonicalKey_eq (supported_of_source hrust hsource) (supported_of_source hjs hsource)
  have hresolved : physical ∈ resolvedPhysicalInputs input ↔
      ∃ source ∈ bindingScopeInputKeys input,
        source.2 = physical.kind ∧ Wroid.canonicalKey source.1 = physical.name := by
    have hkey : ∀ value key, some key = HostKeyName.parse value ↔
        Wroid.canonicalKey value = key.profileName := fun value key => by
      rw [eq_comm, HostKeyName.parse_eq_some]
    have hbutton : ∀ value button, some button = HostMouseButton.parse value ↔
        Wroid.canonicalKey value = button.profileName := fun value button => by
      rw [eq_comm, HostMouseButton.parse_eq_some]
    cases input <;> cases physical <;>
      simp [resolvedPhysicalInputs, bindingScopeInputKeys, RuntimePhysicalInput.kind,
        RuntimePhysicalInput.name, List.reduceOption_mem_iff, eq_comm, hkey, hbutton]
  rw [hresolved]
  constructor
  · rintro ⟨source, hsource, hkind, hname⟩
    exact ⟨source, hsource, hkind, (heq source hsource).trans hname⟩
  · rintro ⟨source, hsource, hkind, hname⟩
    exact ⟨source, hsource, hkind, (heq source hsource).symm.trans hname⟩

end Names

/-! ### A profile that both accept -/

/-- The page accepts the profile, and the session has made a plan of it. -/
structure Previewed (lower : LowerCase) (document : ProfileDocument) (plan : RuntimeControlPlan)
    (resolution : Resolution) : Prop where
  page : document.profile.Accepts (jsReading lower.toLowerCase)
  plan : plan.Realizes document.profile resolution

namespace Previewed

variable {lower : LowerCase} {document : ProfileDocument} {plan : RuntimeControlPlan}
  {resolution : Resolution} {binding : BindingV2} {control : RuntimeControlBinding}
  {input : RuntimePhysicalInput} {index : ℕ}

/-- A binding of the profile and what the plan makes of it. -/
def Pair (document : ProfileDocument) (resolution : Resolution) (binding : BindingV2)
    (control : RuntimeControlBinding) : Prop :=
  binding ∈ document.profile.bindings ∧
    binding.RealizedBy document.profile.layers resolution control

theorem pairs (h : Previewed lower document plan resolution) :
    List.Forall₂ (Pair document resolution) document.profile.bindings plan.controls := by
  have hall : ∀ bindings : List BindingV2, ∀ controls,
      List.Forall₂ (BindingV2.RealizedBy document.profile.layers resolution) bindings controls →
      (∀ b ∈ bindings, b ∈ document.profile.bindings) →
      List.Forall₂ (Pair document resolution) bindings controls := by
    intro bindings controls hforall
    induction hforall with
    | nil => exact fun _ => .nil
    | cons hreal _ ih =>
      intro hmem
      obtain ⟨hhead, htail⟩ := List.forall_mem_cons.mp hmem
      exact .cons ⟨hhead, hreal⟩ (ih htail)
  exact hall _ _ h.plan.controls fun _ hb => hb

/-- A key that both know is the same key for both. -/
theorem exists_key {name : String} (hrust : TextReading.rust.Known name)
    (hjs : (jsReading lower.toLowerCase).Known name) : ∃ key, HostKeyName.parse name = some key ∧
      canonicalKey lower.toLowerCase name = key.profileName := by
  obtain ⟨key, hkey⟩ := HostKeyName.exists_parse.mpr (knownKeyName_iff.mpr hrust)
  refine ⟨key, hkey, ?_⟩
  rw [canonicalKey_eq (supported_of_known hrust) (supported_of_known hjs)]
  exact HostKeyName.parse_eq_some.mp hkey

theorem bindingHasSource_iff (h : Previewed lower document plan resolution)
    (hpair : Pair document resolution binding control) :
    bindingHasSource lower.toLowerCase binding.toPage input.kind input.name = true ↔
      input ∈ resolvedPhysicalInputs control.input := by
  rw [hpair.2.input, mem_resolvedPhysicalInputs (h.plan.accepted.bindings _ hpair.1).input
    (h.page.bindings _ hpair.1).input]
  simp [bindingHasSource, BindingV2.toPage]

/-- The layer of a binding is found under its name. -/
theorem layer_of_name (h : Previewed lower document plan resolution)
    (hpair : Pair document resolution binding control) {name : String}
    (hname : binding.layer = some name) : ∃ layer, document.profile.layers.findIdx?
      (fun layer => layer.name == name) = some (control.layer - 1) ∧
        document.profile.layers[control.layer - 1]? = some layer ∧ layer.name = name ∧
          0 < control.layer := by
  have hlayer := hpair.2.layer
  rw [resolveBindingLayer, hname] at hlayer
  cases hfind : document.profile.layers.findIdx? fun layer => layer.name == name with
  | none => simp [hfind] at hlayer
  | some i =>
    obtain ⟨hlt, hsame, -⟩ := List.findIdx?_eq_some_iff_getElem.mp hfind
    simp only [hfind, layerIdOfIndex_of_lt (hlt.trans_le h.plan.accepted.layer_count),
      Except.ok.injEq] at hlayer
    rw [← hlayer, Nat.add_sub_cancel]
    exact ⟨_, rfl, List.getElem?_eq_getElem hlt, beq_iff_eq.mp hsame, Nat.succ_pos i⟩

theorem base_of_none (hpair : Pair document resolution binding control)
    (hname : binding.layer = none) : control.layer = .BASE := by
  have hlayer := hpair.2.layer
  rw [resolveBindingLayer, hname] at hlayer
  exact (Except.ok.inj hlayer).symm

/-- Layers have names. -/
theorem name_ne_empty (h : Previewed lower document plan resolution) {layer : LayerV2}
    (hlayer : layer ∈ document.profile.layers) : layer.name ≠ "" := by
  intro hempty
  refine h.page.layer_named layer hlayer ?_
  rw [hempty]
  exact trim_eq_self fun _ hc => by cases hc

theorem bindingLayerIndex_eq (h : Previewed lower document plan resolution)
    (hpair : Pair document resolution binding control) :
    bindingLayerIndex document.toPage binding.toPage = some control.layer := by
  cases hname : binding.layer with
  | none =>
    rw [base_of_none hpair hname]
    simp only [bindingLayerIndex, BindingV2.toPage, hname, LayerId.BASE]
  | some name =>
    obtain ⟨layer, hfind, hat, hlayer, hpos⟩ := h.layer_of_name hpair hname
    have hne : name ≠ "" := hlayer ▸ h.name_ne_empty (List.mem_of_getElem? hat)
    have hfind' : (document.profile.layers.findIdx? fun layer => layer.name = name) =
        some (control.layer - 1) := hfind
    simp only [bindingLayerIndex, BindingV2.toPage, ProfileDocument.toPage, hname, if_neg hne,
      hfind', Option.map_some, Nat.sub_add_cancel hpos]

end Previewed

/-! ### What is held, and what the page shows -/

/-- The page shows what is held. -/
structure Shows (lower : LowerCase) (document : ProfileDocument) (held : HeldInputs)
    (preview : PreviewState) : Prop where
  keys : ∀ key, key.profileName ∈ preview.pressedKeys ↔ held.heldKeys.contains key = true
  buttons : ∀ button, button.profileName ∈ preview.pressedButtons ↔
    mouseButtonHeld held.heldMouseButtons button = true
  layers : ∀ index layer, document.profile.layers[index]? = some layer →
    (layerIsActive lower.toLowerCase preview layer = true ↔
      LayerActive held.activeLayers (index + 1))
  /-- The active layers are up to date. -/
  refreshed : preview.activeLayers =
    (refreshActiveLayers lower.toLowerCase preview document.toPage).activeLayers

namespace Previewed

variable {lower : LowerCase} {document : ProfileDocument} {plan : RuntimeControlPlan}
  {resolution : Resolution} {binding : BindingV2} {control : RuntimeControlBinding}
  {input : RuntimePhysicalInput} {held : HeldInputs} {preview : PreviewState}

/-- The active layers of the page are those of the session. -/
theorem mem_activeLayers_at (h : Previewed lower document plan resolution)
    (hs : Shows lower document held preview) {index : ℕ} {layer : LayerV2}
    (hat : document.profile.layers[index]? = some layer) :
    layer.name ∈ preview.activeLayers ↔ LayerActive held.activeLayers (index + 1) := by
  rw [hs.refreshed, refreshActiveLayers, List.mem_toFinset, List.mem_map, ← hs.layers _ layer hat]
  constructor
  · rintro ⟨other, hother, hsame⟩
    obtain ⟨hmem, hon⟩ := List.mem_filter.mp hother
    -- a layer of the same name is the same layer
    have hone : other = layer := by
      by_contra hne
      have hsymm : Std.Symm fun a b : LayerV2 => (jsReading lower.toLowerCase).trim a.name ≠
          (jsReading lower.toLowerCase).trim b.name := ⟨fun _ _ hab => hab.symm⟩
      refine h.page.layer_names.forall hmem (List.mem_of_getElem? hat) hne ?_
      rw [hsame]
    exact hone ▸ hon
  · intro hon
    exact ⟨layer, List.mem_filter.mpr ⟨List.mem_of_getElem? hat, hon⟩, rfl⟩

theorem mem_activeLayers_iff (h : Previewed lower document plan resolution)
    (hs : Shows lower document held preview) (hpair : Pair document resolution binding control)
    {name : String} (hname : binding.layer = some name) :
    name ∈ preview.activeLayers ↔ LayerActive held.activeLayers control.layer := by
  obtain ⟨layer, -, hat, rfl, hpos⟩ := h.layer_of_name hpair hname
  have hactive := h.mem_activeLayers_at hs hat
  rwa [Nat.sub_add_cancel hpos] at hactive

/-- The control claims the input. -/
def Claims (held : HeldInputs) (input : RuntimePhysicalInput) (control : RuntimeControlBinding) :
    Prop :=
  input ∈ resolvedPhysicalInputs control.input ∧ LayerActive held.activeLayers control.layer

/-- One binding claims the input for its layer. -/
theorem claimLayerIndex_spec (h : Previewed lower document plan resolution)
    (hs : Shows lower document held preview) (hpair : Pair document resolution binding control)
    (input : RuntimePhysicalInput) (selected : ℕ) : ∃ next,
      claimLayerIndex lower.toLowerCase document.toPage preview input.kind input.name selected
        binding.toPage = next ∧ selected ≤ next ∧ (Claims held input control → control.layer ≤ next) ∧
        (next = selected ∨ Claims held input control ∧ next = control.layer) := by
  have hactive : binding.toPage.layer.any (· ∈ preview.activeLayers) = true ↔
      LayerActive held.activeLayers control.layer := by
    cases hname : binding.layer with
    | none =>
      have hbase : ¬ LayerActive held.activeLayers control.layer := by
        intro hon
        rw [base_of_none hpair hname] at hon
        exact absurd hon.pos (Nat.lt_irrefl 0)
      simp [BindingV2.toPage, hname, hbase]
    | some name =>
      rw [← h.mem_activeLayers_iff hs hpair hname]
      simp [BindingV2.toPage, hname]
  have hsource : bindingHasSource lower.toLowerCase binding.toPage input.kind input.name = true ↔
      input ∈ resolvedPhysicalInputs control.input := h.bindingHasSource_iff hpair
  simp only [claimLayerIndex, h.bindingLayerIndex_eq hpair]
  by_cases hclaims : Claims held input control
  · rw [if_pos (hsource.mpr hclaims.1)]
    rcases Nat.lt_or_ge selected control.layer with hlt | hge
    · rw [if_pos ⟨hlt, hactive.mpr hclaims.2⟩]
      exact ⟨_, rfl, hlt.le, fun _ => le_rfl, .inr ⟨hclaims, rfl⟩⟩
    · rw [if_neg fun hboth => Nat.not_lt.mpr hge hboth.1]
      exact ⟨_, rfl, le_rfl, fun _ => hge, .inl rfl⟩
  · refine ⟨selected, ?_, le_rfl, fun hyes => absurd hyes hclaims, .inl rfl⟩
    by_cases hin : input ∈ resolvedPhysicalInputs control.input
    · rw [if_pos (hsource.mpr hin), if_neg fun hboth => hclaims ⟨hin, hactive.mp hboth.2⟩]
    · rw [if_neg fun hyes => hin (hsource.mp hyes)]

/-- **The selected layer** is the highest active one with a binding of the input. -/
theorem selectedLayerIndex_spec (h : Previewed lower document plan resolution)
    (hs : Shows lower document held preview) (input : RuntimePhysicalInput) : ∃ selected,
      selectedLayerIndex lower.toLowerCase document.toPage preview input.kind input.name = selected ∧
        (∀ control ∈ plan.controls, Claims held input control → control.layer ≤ selected) ∧
        (selected = 0 ∨ ∃ control ∈ plan.controls, Claims held input control ∧
          selected = control.layer) := by
  have hfold : ∀ bindings controls, List.Forall₂ (Pair document resolution) bindings controls →
      ∀ selected, ∃ last, (bindings.map BindingV2.toPage).foldl (claimLayerIndex lower.toLowerCase
        document.toPage preview input.kind input.name) selected = last ∧ selected ≤ last ∧
        (∀ control ∈ controls, Claims held input control → control.layer ≤ last) ∧
        (last = selected ∨ ∃ control ∈ controls, Claims held input control ∧
          last = control.layer) := by
    intro bindings controls hforall
    induction hforall with
    | nil =>
      intro selected
      exact ⟨selected, rfl, le_rfl, fun _ hc => (by cases hc), .inl rfl⟩
    | @cons binding control bindings controls hpair _ ih =>
      intro selected
      obtain ⟨next, hnext, hle, hown, hfrom⟩ := h.claimLayerIndex_spec hs hpair input selected
      obtain ⟨last, hlast, hmono, hrest, hend⟩ := ih next
      rw [List.map_cons, List.foldl_cons, hnext]
      refine ⟨last, hlast, hle.trans hmono, ?_, ?_⟩
      · intro other hother hclaims
        rcases List.mem_cons.mp hother with rfl | hmem
        · exact (hown hclaims).trans hmono
        · exact hrest other hmem hclaims
      · rcases hend with hsame | ⟨other, hother, hclaims, heq⟩
        · rcases hfrom with hsame' | ⟨hclaims, heq⟩
          · exact .inl (hsame.trans hsame')
          · exact .inr ⟨control, List.mem_cons_self, hclaims, hsame.trans heq⟩
        · exact .inr ⟨other, List.mem_cons_of_mem _ hother, hclaims, heq⟩
  obtain ⟨last, hlast, -, hmax, hfrom⟩ := hfold _ _ h.pairs 0
  refine ⟨last, ?_, hmax, hfrom⟩
  rw [selectedLayerIndex]
  exact hlast

/-- The modifiers of the page are those of the plan. -/
theorem modifier_eq (h : Previewed lower document plan resolution)
    (hpair : Pair document resolution binding control) {modifier : String}
    (hmodifier : binding.modifier = some modifier) : ∃ key, control.modifier = some key ∧
      canonicalKey lower.toLowerCase modifier = key.profileName := by
  obtain ⟨key, hkey, hname⟩ := exists_key
    (((h.plan.accepted.bindings _ hpair.1).modifier _ hmodifier).known)
    (((h.page.bindings _ hpair.1).modifier _ hmodifier).known)
  refine ⟨key, ?_, hname⟩
  rw [hpair.2.modifier, hmodifier, Option.bind_some, hkey]

/-- No key has an empty name. -/
theorem profileName_ne_empty (key : HostKeyName) : key.profileName ≠ "" := by
  cases key <;> decide

/-- The modifier of a sibling is held. -/
theorem siblingHeld_iff (h : Previewed lower document plan resolution)
    (hs : Shows lower document held preview) (hpair : Pair document resolution binding control) :
    (binding.toPage.modifier.any fun modifier => modifier ≠ "" &&
        canonicalKey lower.toLowerCase modifier ∈ preview.pressedKeys) = true ↔
      ∃ key, control.modifier = some key ∧ held.heldKeys.contains key = true := by
  cases hmodifier : binding.modifier with
  | none =>
    have hnone : control.modifier = none := by rw [hpair.2.modifier, hmodifier, Option.bind_none]
    simp [BindingV2.toPage, hmodifier, hnone]
  | some modifier =>
    obtain ⟨key, hkey, hname⟩ := h.modifier_eq hpair hmodifier
    have hne : modifier ≠ "" := by
      intro hempty
      rw [hempty, canonicalKey_empty] at hname
      exact profileName_ne_empty key hname.symm
    simp [BindingV2.toPage, hmodifier, hkey, hne, hname, hs.keys]

/-- A binding of the same layer has the input with a held modifier. -/
theorem hasHeldSibling_iff (h : Previewed lower document plan resolution)
    (hs : Shows lower document held preview) {index : ℕ}
    (hindex : document.profile.bindings[index]? = some binding) (hmodifier : binding.modifier = none) :
    hasHeldSibling lower.toLowerCase document.toPage preview index control.layer input.kind
        input.name = true ↔
      ∃ sibling ∈ plan.controls, sibling.layer = control.layer ∧
        input ∈ resolvedPhysicalInputs sibling.input ∧
          ∃ key, sibling.modifier = some key ∧ held.heldKeys.contains key = true := by
  have hfree : ∀ other : BindingV2, ∀ i, document.profile.bindings[i]? = some other →
      other.modifier ≠ none → i ≠ index := by
    intro other i hother hheld heq
    rw [heq, hindex] at hother
    exact hheld (Option.some.inj hother ▸ hmodifier)
  have hpage : ∀ i, document.toPage.bindings[i]? =
      document.profile.bindings[i]?.map BindingV2.toPage := fun i => List.getElem?_map
  rw [hasHeldSibling, List.any_eq_true]
  constructor
  · rintro ⟨⟨page, i⟩, hmem, hall⟩
    have hat := List.mk_mem_zipIdx_iff_getElem?.mp hmem
    rw [hpage, Option.map_eq_some_iff] at hat
    obtain ⟨other, hother, rfl⟩ := hat
    obtain ⟨sibling, hsibling, hpair'⟩ := forall₂_exists_right h.pairs (List.mem_of_getElem? hother)
    simp only [Bool.and_eq_true, h.bindingLayerIndex_eq hpair', h.siblingHeld_iff hs hpair',
      h.bindingHasSource_iff hpair', decide_eq_true_eq, Option.some.injEq] at hall
    obtain ⟨⟨⟨-, hlayer⟩, hheld⟩, hin⟩ := hall
    exact ⟨sibling, hsibling, hlayer, hin, hheld⟩
  · rintro ⟨sibling, hsibling, hlayer, hin, key, hkey, hheld⟩
    obtain ⟨other, hmem, hpair'⟩ := forall₂_exists_left h.pairs hsibling
    obtain ⟨i, hother⟩ := List.mem_iff_getElem?.mp hmem
    have hsome : other.modifier ≠ none := by
      intro hnone
      rw [hpair'.2.modifier, hnone] at hkey
      cases hkey
    refine ⟨(other.toPage, i), List.mk_mem_zipIdx_iff_getElem?.mpr ?_, ?_⟩
    · rw [hpage, hother, Option.map_some]
    · simp only [Bool.and_eq_true, h.bindingLayerIndex_eq hpair', h.siblingHeld_iff hs hpair',
        h.bindingHasSource_iff hpair', decide_eq_true_eq, Option.some.injEq]
      exact ⟨⟨⟨hfree other i hother hsome, hlayer⟩, key, hkey, hheld⟩, hin⟩

/-- The layer of a binding with the input is the selected one if it is on and no layer that is on
and has the input comes after it. -/
theorem layer_eq_selected_iff (h : Previewed lower document plan resolution)
    (hs : Shows lower document held preview) (hcontrol : control ∈ plan.controls)
    (hin : input ∈ resolvedPhysicalInputs control.input) : ∃ selected,
      selectedLayerIndex lower.toLowerCase document.toPage preview input.kind input.name = selected ∧
        (control.layer = selected ↔
          (control.layer = .BASE ∨ LayerActive held.activeLayers control.layer) ∧
            ∀ other ∈ plan.controls, LayerActive held.activeLayers other.layer →
              input ∈ resolvedPhysicalInputs other.input → other.layer ≤ control.layer) := by
  obtain ⟨selected, hselected, hmax, hfrom⟩ := h.selectedLayerIndex_spec hs input
  refine ⟨selected, hselected, ?_⟩
  constructor
  · intro hsame
    refine ⟨?_, fun other hother hactive hin' => hsame ▸ hmax other hother ⟨hin', hactive⟩⟩
    rcases hfrom with hzero | ⟨other, -, hclaims, heq⟩
    · exact .inl (hsame.trans hzero)
    · exact .inr (hsame.trans heq ▸ hclaims.2)
  · -- `≤` from the maximum that the fold reached, `≥` from the binding the maximum came from
    rintro ⟨hon, hle⟩
    apply le_antisymm
    · rcases hon with hbase | hactive
      · rw [hbase]
        exact Nat.zero_le _
      · exact hmax control hcontrol ⟨hin, hactive⟩
    · rcases hfrom with hzero | ⟨other, hother, hclaims, heq⟩
      · rw [hzero]
        exact Nat.zero_le _
      · rw [heq]
        exact hle other hother hclaims.2 hclaims.1

/-- **The page and the session agree** on which bindings an input reaches. -/
theorem bindingAvailableForSource_iff (h : Previewed lower document plan resolution)
    (hs : Shows lower document held preview) {index : ℕ}
    (hindex : document.profile.bindings[index]? = some binding) (hcontrol : control ∈ plan.controls)
    (hpair : Pair document resolution binding control)
    (hin : input ∈ resolvedPhysicalInputs control.input) :
    bindingAvailableForSource lower.toLowerCase document.toPage preview binding.toPage index
        input.kind input.name = true ↔ plan.Reaches held control input := by
  obtain ⟨selected, hselected, htop⟩ := h.layer_eq_selected_iff hs hcontrol hin
  simp only [bindingAvailableForSource, h.bindingLayerIndex_eq hpair, hselected]
  by_cases hlayer : control.layer = selected
  · rw [if_neg (not_not.mpr hlayer)]
    obtain ⟨hon, hle⟩ := htop.mp hlayer
    -- the page writes a missing modifier as the empty key, and mutes the binding for held siblings
    cases hmodifier : binding.modifier with
    | none =>
      have hnone : control.modifier = none := by rw [hpair.2.modifier, hmodifier, Option.bind_none]
      have hempty : canonicalKey lower.toLowerCase (binding.toPage.modifier.getD "") = "" := by
        rw [BindingV2.toPage, hmodifier]
        exact canonicalKey_empty
      rw [hempty, if_neg (not_not.mpr rfl), Bool.not_eq_true', ← Bool.not_eq_true,
        h.hasHeldSibling_iff hs hindex hmodifier]
      constructor
      · intro hmuted
        refine ⟨hon, fun m hm => by simp [hnone] at hm, ?_, hle⟩
        intro _ sibling hsibling hsl hsin m hm
        rw [← Bool.not_eq_true]
        exact fun hheld => hmuted ⟨sibling, hsibling, hsl, hsin, m, hm, hheld⟩
      · rintro hreaches ⟨sibling, hsibling, hsl, hsin, m, hm, hheld⟩
        rw [hreaches.unmuted hnone sibling hsibling hsl hsin m hm] at hheld
        cases hheld
    | some modifier =>
      obtain ⟨key, hkey, hname⟩ := h.modifier_eq hpair hmodifier
      have hname' : canonicalKey lower.toLowerCase (binding.toPage.modifier.getD "") =
          key.profileName := by
        rw [BindingV2.toPage, hmodifier]
        exact hname
      rw [hname', if_pos (profileName_ne_empty key), decide_eq_true_eq, hs.keys]
      constructor
      · intro hheld
        refine ⟨hon, ?_, fun hnone => by simp [hkey] at hnone, hle⟩
        intro m hm
        obtain rfl := Option.some.inj (hkey.symm.trans hm)
        exact hheld
      · intro hreaches
        exact hreaches.modifier key hkey
  · rw [if_pos hlayer]
    constructor
    · intro hfalse
      cases hfalse
    · intro hreaches
      exact absurd (htop.mpr ⟨hreaches.layer, hreaches.top⟩) hlayer

end Previewed

end Page

end Wroid
