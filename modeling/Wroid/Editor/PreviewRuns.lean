import Wroid.Editor.PreviewAgreement

/-!
# The preview over runs

The page and the session are given the same events.  A key of a keyboard is pressed when it is up,
and repeats while it is down; when the window loses the focus, the page forgets what is held and the
session suspends.  The page then shows the active layers of the session, lights up the bindings
whose contacts are down, and lights up a tap when the session sends one.

## Main definitions

* `UserEvent` — an event, for the session (`call`) and for the page (`seen`).
* `Plausible` — inputs are pressed when they are up, and repeat while they are down.
* `Synced` — the page and the session have seen the same events.
* `shownTaps` — the taps that the page lights up.
* `Mirrors` — the page shows what the session does.

## Main results

* `mem_toggleLayers`, `mem_toggleLayers_of_ne` — the loop over the layers.
* `mem_latched_settleTaps` — the taps that are lit up after an event.
* `Synced.event`, `Synced.newly_latched` — one event.
* `preview_mirrors_session` — **every run**.
-/

set_option linter.constructorNameAsVariable false

namespace Wroid

open Lib

/-! ### Events -/

/-- What the user does. -/
inductive UserEvent
  | input (input : RuntimePhysicalInput) (transition : KeyTransition) (now : ℕ)
  /-- The window loses the focus. -/
  | blur
  deriving DecidableEq, Repr

namespace UserEvent

/-- The event, for the session. -/
def call : UserEvent → RuntimeCall
  | .input (.key key) transition now => .handleKeyboard ⟨.named key, transition⟩ now
  | .input (.mouseButton button) transition now => .handleMouse (.button button transition) now
  | .blur => .suspend

/-- The event, for the page. -/
def seen (toLowerCase : String → String) (profile : Page.PageProfile)
    (preview : Page.PreviewState) : UserEvent → Page.PreviewState
  | .input (.key key) transition _ =>
    Page.setPreviewKey toLowerCase profile key.profileName (transition ≠ .released) preview
  | .input (.mouseButton button) transition _ =>
    Page.handleTestPointer toLowerCase profile button.profileName (transition ≠ .released) preview
  | .blur => Page.createPreviewState

/-- What is down after the event. -/
def down (held : RuntimePhysicalInput → Bool) : UserEvent → RuntimePhysicalInput → Bool
  | .input source .pressed _ => Function.update held source true
  | .input source .released _ => Function.update held source false
  | .input _ .repeated _ => held
  | .blur => fun _ => false

/-- The event may come while `held` is down. -/
def Fits (held : RuntimePhysicalInput → Bool) : UserEvent → Prop
  | .input source .pressed _ => held source = false
  | .input source .repeated _ => held source = true
  | .input _ .released _ => True
  | .blur => True

instance (held : RuntimePhysicalInput → Bool) (event : UserEvent) : Decidable (event.Fits held) :=
  match event with
  | .input source .pressed _ => inferInstanceAs (Decidable (held source = false))
  | .input source .repeated _ => inferInstanceAs (Decidable (held source = true))
  | .input _ .released _ => inferInstanceAs (Decidable True)
  | .blur => inferInstanceAs (Decidable True)

/-- Inputs are pressed when they are up, and repeat while they are down. -/
def Plausible : (RuntimePhysicalInput → Bool) → List UserEvent → Prop
  | _, [] => True
  | held, event :: events => event.Fits held ∧ Plausible (event.down held) events

end UserEvent

namespace Page

/-! ### Latches touch nothing else -/

section Fields

variable {toLowerCase : String → String} {profile : PageProfile} {preview : PreviewState}
  {kind : InputKind} {value : String}

/-- The page with other latches. -/
def PreviewState.withLatches (preview : PreviewState) (indexes : Finset ℕ) : PreviewState :=
  { preview with latchedTapIndexes := indexes }

variable {indexes : Finset ℕ}

@[simp] theorem heldSourceAvailable_withLatches {binding : PageBinding} {index : ℕ} :
    heldSourceAvailable toLowerCase profile (preview.withLatches indexes) binding index =
      heldSourceAvailable toLowerCase profile preview binding index := rfl

end Fields

/-! ### The loop over the layers -/

section Toggles

variable {toLowerCase : String → String} {canonical name : String} {toggled : Finset String}
  {layers : List LayerV2} {layer : LayerV2}

/-- One layer toggles itself only. -/
theorem mem_toggleLayer_of_ne (hne : layer.name ≠ name) :
    name ∈ toggleLayer toLowerCase canonical toggled layer ↔ name ∈ toggled := by
  rw [toggleLayer]
  cases layer.activation with
  | hold key => rfl
  | toggle key =>
    simp only
    split
    · rfl
    · split
      · rw [Finset.mem_erase]
        exact and_iff_right hne.symm
      · rw [Finset.mem_insert]
        exact or_iff_right hne.symm

/-- A layer that is not of the key is not toggled. -/
theorem toggleLayer_of_ne
    (hne : ∀ key, layer.activation = .toggle key → canonicalKey toLowerCase key ≠ canonical) :
    toggleLayer toLowerCase canonical toggled layer = toggled := by
  rw [toggleLayer]
  cases hactivation : layer.activation with
  | hold key => rfl
  | toggle key => exact if_pos (hne key hactivation)

/-- Only a layer with the name and the key matters. -/
theorem mem_toggleLayers_of_ne (hne : ∀ layer ∈ layers, layer.name = name →
      ∀ key, layer.activation = .toggle key → canonicalKey toLowerCase key ≠ canonical) :
    name ∈ layers.foldl (toggleLayer toLowerCase canonical) toggled ↔ name ∈ toggled := by
  induction layers generalizing toggled with
  | nil => rfl
  | cons first rest ih =>
    obtain ⟨hfirst, hrest⟩ := List.forall_mem_cons.mp hne
    rw [List.foldl_cons, ih hrest]
    by_cases hname : first.name = name
    · rw [toggleLayer_of_ne (hfirst hname)]
    · exact mem_toggleLayer_of_ne hname

/-- **The layer of the key is toggled**, and toggled once. -/
theorem mem_toggleLayers (hnames : layers.Pairwise fun a b => a.name ≠ b.name)
    (hlayer : layer ∈ layers) {key : String} (hactivation : layer.activation = .toggle key)
    (hkey : canonicalKey toLowerCase key = canonical) :
    layer.name ∈ layers.foldl (toggleLayer toLowerCase canonical) toggled ↔
      layer.name ∉ toggled := by
  induction layers generalizing toggled with
  | nil => cases hlayer
  | cons first rest ih =>
    obtain ⟨hfirst, hrest⟩ := List.pairwise_cons.mp hnames
    rw [List.foldl_cons]
    rcases List.mem_cons.mp hlayer with rfl | hmem
    · rw [mem_toggleLayers_of_ne fun other hother hname => absurd hname.symm (hfirst other hother),
        toggleLayer, hactivation]
      simp only [if_neg (not_not.mpr hkey)]
      split
      · next hin => simp [hin]
      · next hout => simp [hout]
    · rw [ih hrest hmem, mem_toggleLayer_of_ne (hfirst layer hmem)]

end Toggles

/-! ### What an event does -/

section Events

variable {toLowerCase : String → String} {profile : PageProfile} {preview base : PreviewState}
  {kind : InputKind} {value : String} {index : ℕ}

/-- The keys and the layers after a key went down or up. -/
def keyed (toLowerCase : String → String) (profile : PageProfile) (canonical : String)
    (pressed : Bool) (preview : PreviewState) : PreviewState :=
  refreshActiveLayers toLowerCase
    { preview with
      toggledLayers :=
        if pressed && !decide (canonical ∈ preview.pressedKeys) then
          profile.layers.foldl (toggleLayer toLowerCase canonical) preview.toggledLayers
        else preview.toggledLayers
      pressedKeys :=
        if pressed then insert canonical preview.pressedKeys
        else preview.pressedKeys.erase canonical } profile

/-- The buttons after a button went down or up. -/
def buttoned (canonical : String) (pressed : Bool) (preview : PreviewState) : PreviewState :=
  { preview with
    pressedButtons :=
      if pressed then insert canonical preview.pressedButtons
      else preview.pressedButtons.erase canonical }

/-- The taps after an event; `fires` if it may light them up. -/
def settleTaps (toLowerCase : String → String) (profile : PageProfile) (fires : Bool)
    (kind : InputKind) (value : String) (base : PreviewState) : PreviewState :=
  reconcileTapLatches toLowerCase
    (if fires then latchTapBindingsForSource toLowerCase base profile kind value else base) profile

theorem setPreviewKey_eq (toLowerCase : String → String) (profile : PageProfile)
    (preview : PreviewState) (key : String) (pressed : Bool) :
    setPreviewKey toLowerCase profile key pressed preview =
      settleTaps toLowerCase profile (pressed &&
          !decide (canonicalKey toLowerCase key ∈ preview.pressedKeys) &&
          !decide (canonicalKey toLowerCase key ∈ activationKeys toLowerCase profile.layers)) .key
        (canonicalKey toLowerCase key)
        (keyed toLowerCase profile (canonicalKey toLowerCase key) pressed preview) := by
  rw [setPreviewKey, keyed, settleTaps]
  by_cases hfresh : (pressed && !decide (canonicalKey toLowerCase key ∈ preview.pressedKeys)) = true
  · simp only [hfresh, if_true, Bool.true_and]
  · simp only [hfresh, if_false, Bool.false_and, Bool.false_eq_true]

theorem setPreviewButton_eq (toLowerCase : String → String) (profile : PageProfile)
    (preview : PreviewState) (button : String) (pressed : Bool) :
    setPreviewButton toLowerCase profile button pressed preview =
      settleTaps toLowerCase profile (pressed &&
          !decide (canonicalKey toLowerCase button ∈ preview.pressedButtons)) .mouseButton
        (canonicalKey toLowerCase button)
        (buttoned (canonicalKey toLowerCase button) pressed preview) := rfl

/-- The tap at the index is lit up by the input. -/
def Fired (toLowerCase : String → String) (profile : PageProfile) (preview : PreviewState)
    (kind : InputKind) (value : String) (index : ℕ) : Prop :=
  ∃ binding, profile.bindings[index]? = some binding ∧ binding.action.kind = "tap" ∧
    bindingHasSource toLowerCase binding kind value = true ∧
      bindingAvailableForSource toLowerCase profile preview binding index kind value = true

/-- The tap at the index has a held input that reaches it. -/
def StillHeld (toLowerCase : String → String) (profile : PageProfile) (preview : PreviewState)
    (index : ℕ) : Prop :=
  ∃ binding, profile.bindings[index]? = some binding ∧ binding.action.kind = "tap" ∧
    ∃ source ∈ bindingScopeInputKeys binding.input,
      heldSourceAvailable toLowerCase profile preview binding index source = true

/-- Events leave everything but the latches as `base` has it. -/
theorem exists_withLatches (fires : Bool) :
    ∃ indexes, settleTaps toLowerCase profile fires kind value base = base.withLatches indexes := by
  cases fires with
  | false => exact ⟨_, rfl⟩
  | true => exact ⟨_, rfl⟩

/-- **The taps that are lit up after an event.** -/
theorem mem_latched_settleTaps (fires : Bool) :
    index ∈ (settleTaps toLowerCase profile fires kind value base).latchedTapIndexes ↔
      (index ∈ base.latchedTapIndexes ∨
        fires = true ∧ Fired toLowerCase profile base kind value index) ∧
        StillHeld toLowerCase profile base index := by
  have hheld : ∀ latched : PreviewState, (∃ indexes, latched = base.withLatches indexes) →
      (index ∈ (reconcileTapLatches toLowerCase latched profile).latchedTapIndexes ↔
        index ∈ latched.latchedTapIndexes ∧ StillHeld toLowerCase profile base index) := by
    rintro latched ⟨indexes, rfl⟩
    rw [reconcileTapLatches, Finset.mem_filter, Option.any_eq_true]
    simp only [Bool.and_eq_true, decide_eq_true_eq, List.any_eq_true,
      heldSourceAvailable_withLatches, StillHeld]
  cases fires with
  | false =>
    rw [settleTaps, if_neg Bool.false_ne_true, hheld base ⟨base.latchedTapIndexes, rfl⟩]
    simp
  | true =>
    have hfired : index ∈ (latchTapBindingsForSource toLowerCase base profile kind
        value).latchedTapIndexes ↔
        index ∈ base.latchedTapIndexes ∨ Fired toLowerCase profile base kind value index := by
      rw [latchTapBindingsForSource, Finset.mem_union, List.mem_toFinset, List.mem_map]
      apply or_congr_right
      constructor
      · rintro ⟨⟨binding, i⟩, hmem, rfl⟩
        obtain ⟨hat, hall⟩ := List.mem_filter.mp hmem
        simp only [Bool.and_eq_true, decide_eq_true_eq] at hall
        exact ⟨binding, List.mk_mem_zipIdx_iff_getElem?.mp hat, hall.1.1, hall.1.2, hall.2⟩
      · rintro ⟨binding, hat, htap, hsource, havailable⟩
        refine ⟨(binding, index), List.mem_filter.mpr ⟨?_, ?_⟩, rfl⟩
        · exact List.mk_mem_zipIdx_iff_getElem?.mpr hat
        · simp only [Bool.and_eq_true, decide_eq_true_eq]
          exact ⟨⟨htap, hsource⟩, havailable⟩
    rw [settleTaps, if_pos rfl,
      hheld (latchTapBindingsForSource toLowerCase base profile kind value) ⟨_, rfl⟩, hfired]
    simp

/-- What is lit up has a held input that reaches it. -/
def LatchedHeld (toLowerCase : String → String) (profile : PageProfile) (preview : PreviewState) :
    Prop :=
  ∀ index ∈ preview.latchedTapIndexes, StillHeld toLowerCase profile preview index

theorem latchedHeld_settleTaps (fires : Bool) :
    LatchedHeld toLowerCase profile (settleTaps toLowerCase profile fires kind value base) := by
  intro index hindex
  obtain ⟨binding, hat, htap, source, hsource, hheld⟩ := ((mem_latched_settleTaps fires).mp hindex).2
  refine ⟨binding, hat, htap, source, hsource, ?_⟩
  cases fires with
  | false => exact hheld
  | true => exact hheld

/-- Without an event nothing changes. -/
theorem settleTaps_eq_self (h : LatchedHeld toLowerCase profile preview) :
    settleTaps toLowerCase profile false kind value preview = preview := by
  obtain ⟨indexes, heq⟩ : ∃ indexes, settleTaps toLowerCase profile false kind value preview =
    preview.withLatches indexes := exists_withLatches false
  have hsame : indexes = preview.latchedTapIndexes := by
    ext index
    have hmem : index ∈ (settleTaps toLowerCase profile false kind value
        preview).latchedTapIndexes ↔ _ := mem_latched_settleTaps false
    rw [heq] at hmem
    refine hmem.trans ⟨fun hboth => ?_, fun hin => ⟨.inl hin, h index hin⟩⟩
    rcases hboth.1 with hin | ⟨hfalse, -⟩
    · exact hin
    · cases hfalse
  rw [heq, hsame]
  rfl

end Events

/-! ### The page keeps showing what is held -/

section Steps

variable {lower : LowerCase} {document : ProfileDocument} {plan : RuntimeControlPlan}
  {resolution : Resolution} {setup : RuntimeSetup} {layouts : List ControlLayout}
  {held : HeldInputs} {preview : PreviewState} {input : RuntimePhysicalInput}

theorem Shows.withLatches (hs : Shows lower document held preview) (indexes : Finset ℕ) :
    Shows lower document held (preview.withLatches indexes) :=
  ⟨hs.keys, hs.buttons, hs.layers, hs.refreshed⟩

/-- The page shows an input as held when it is. -/
theorem Shows.sourceHeld_iff (hs : Shows lower document held preview) :
    sourceHeld preview input.kind input.name = true ↔ held.Holds input := by
  cases input with
  | key key => exact decide_eq_true_iff.trans (hs.keys key)
  | mouseButton button => exact decide_eq_true_iff.trans (hs.buttons button)

/-- With nothing held the page shows nothing. -/
theorem shows_none : Shows lower document .none createPreviewState where
  keys := fun key => by simp [createPreviewState, HeldInputs.none]
  buttons := fun button => by simp [createPreviewState, HeldInputs.none, mouseButtonHeld]
  layers := fun index layer hat => by
    have hoff : layerIsActive lower.toLowerCase createPreviewState layer = false := by
      rw [layerIsActive]
      cases layer.activation <;> simp [createPreviewState]
    simp [hoff, not_layerActive_none]
  refreshed := by
    have hoff : layerIsActive lower.toLowerCase createPreviewState = fun _ => false := by
      funext layer
      rw [layerIsActive]
      cases layer.activation <;> simp [createPreviewState]
    rw [refreshActiveLayers, hoff]
    simp [createPreviewState]

/-- A layer of the profile in the plan. -/
theorem Previewed.layer_at (h : Previewed lower document plan resolution) {index : ℕ}
    {layer : LayerV2} (hat : document.profile.layers[index]? = some layer) :
    ∃ planned ∈ plan.layers, planned.id = index + 1 ∧ planned.mode = layer.activation.mode ∧
      canonicalKey lower.toLowerCase layer.activation.key = planned.activationKey.profileName := by
  have hentry : document.profile.layers.zipIdx[index]? = some (layer, index) := by
    rw [List.getElem?_zipIdx, hat]
    simp
  obtain ⟨planned, hplanned, hreal⟩ := forall₂_getElem? h.plan.layers hentry
  have hmem := List.mem_of_getElem? hat
  obtain ⟨key, hkey, hname⟩ := exists_key (h.plan.accepted.layer_keys_known layer hmem)
    (h.page.layer_keys_known layer hmem)
  obtain rfl := Option.some.inj (hkey.symm.trans hreal.key)
  exact ⟨planned, List.mem_of_getElem? hplanned, hreal.id, hreal.mode, hname⟩

/-- The activation keys of the page are those of the plan. -/
theorem Previewed.mem_activationKeys_iff (h : Previewed lower document plan resolution)
    {key : HostKeyName} :
    key.profileName ∈ activationKeys lower.toLowerCase document.toPage.layers ↔
      ∃ planned ∈ plan.layers, planned.activationKey = key := by
  rw [activationKeys, List.mem_map]
  constructor
  · rintro ⟨layer, hlayer, hname⟩
    obtain ⟨index, hat⟩ := List.mem_iff_getElem?.mp hlayer
    obtain ⟨planned, hplanned, -, -, hname'⟩ := h.layer_at hat
    exact ⟨planned, hplanned, HostKeyName.profileName_injective (hname'.symm.trans hname)⟩
  · rintro ⟨planned, hplanned, rfl⟩
    obtain ⟨⟨layer, index⟩, hentry, hreal⟩ := forall₂_exists_left h.plan.layers hplanned
    have hat := List.mk_mem_zipIdx_iff_getElem?.mp hentry
    have hmem := List.mem_of_getElem? hat
    obtain ⟨key, hkey, hname⟩ := exists_key (h.plan.accepted.layer_keys_known layer hmem)
      (h.page.layer_keys_known layer hmem)
    obtain rfl := Option.some.inj (hkey.symm.trans hreal.key)
    exact ⟨layer, hmem, hname⟩

theorem contains_holdKey {key key' : HostKeyName} {pressed : Bool} :
    (UnifiedRuntime.holdKey setup held key pressed).heldKeys.contains key' =
      if key' = key then pressed else held.heldKeys.contains key' := by
  rw [UnifiedRuntime.holdKey]
  by_cases hkey : key' = key <;> cases pressed <;> simp [hkey, eq_comm (a := key)]

theorem mouseButtonHeld_set {buttons : BitVec 8} {button button' : HostMouseButton}
    {pressed : Bool} : mouseButtonHeld (setMouseButtonHeld buttons button pressed) button' =
      if button' = button then pressed else mouseButtonHeld buttons button' := by
  have hindex : button.index = button'.index ↔ button' = button := by
    cases button <;> cases button' <;> decide
  have hlt : button.index < 8 := by cases button <;> decide
  have hbit : ∀ buttons, mouseButtonHeld buttons button' = hasBit buttons button'.index :=
    fun _ => rfl
  rw [hbit, hbit]
  cases pressed with
  | false =>
    rw [setMouseButtonHeld, if_neg Bool.false_ne_true, mouseButtonMask, hasBit_remove hlt]
    by_cases hsame : button' = button <;> simp [hindex, hsame]
  | true =>
    rw [setMouseButtonHeld, if_pos rfl, mouseButtonMask, hasBit_insert hlt]
    by_cases hsame : button' = button <;> simp [hindex, hsame]

/-- The keys after a key went down or up. -/
theorem mem_pressedKeys_keyed {key key' : HostKeyName} {pressed : Bool} :
    key'.profileName ∈ (keyed lower.toLowerCase document.toPage key.profileName pressed
        preview).pressedKeys ↔
      if key' = key then pressed = true else key'.profileName ∈ preview.pressedKeys := by
  have hinj : key'.profileName = key.profileName ↔ key' = key :=
    HostKeyName.profileName_injective.eq_iff
  rw [keyed, refreshActiveLayers]
  by_cases hkey : key' = key <;> cases pressed <;> simp [hinj, hkey]

/-- The toggled layers after a key went down or up, if it was not down before. -/
theorem mem_toggledLayers_keyed (h : Previewed lower document plan resolution) {key : HostKeyName}
    {pressed : Bool} (hfresh : pressed = true → key.profileName ∉ preview.pressedKeys)
    {layer : LayerV2} (hlayer : layer ∈ document.profile.layers) {name : String}
    (hactivation : layer.activation = .toggle name) :
    layer.name ∈ (keyed lower.toLowerCase document.toPage key.profileName pressed
        preview).toggledLayers ↔
      if canonicalKey lower.toLowerCase name = key.profileName then
        (pressed = true ↔ layer.name ∉ preview.toggledLayers)
      else layer.name ∈ preview.toggledLayers := by
  have hnames : document.toPage.layers.Pairwise fun a b => a.name ≠ b.name :=
    h.page.layer_names.imp fun hne heq => hne (congrArg _ heq)
  cases pressed with
  | false =>
    simp [keyed, refreshActiveLayers]
  | true =>
    have hfresh := hfresh rfl
    simp only [keyed, refreshActiveLayers, hfresh, decide_false, Bool.not_false, Bool.and_self,
      if_true, true_iff]
    by_cases hname : canonicalKey lower.toLowerCase name = key.profileName
    · rw [if_pos hname]
      exact mem_toggleLayers hnames hlayer hactivation hname
    · rw [if_neg hname]
      apply mem_toggleLayers_of_ne
      intro other hother hsame other_name hother_activation
      -- a layer of the same name is the layer itself, which has another key
      have hone : other = layer := by
        by_contra hne
        have hsymm : Std.Symm fun a b : LayerV2 => a.name ≠ b.name := ⟨fun _ _ hab => hab.symm⟩
        exact hnames.forall hother hlayer hne hsame
      rw [hone, hactivation] at hother_activation
      obtain rfl := LayerActivation.toggle.inj hother_activation
      exact hname

/-- **A key that goes down or up.** -/
theorem Shows.keyed (h : Previewed lower document plan resolution) (hl : plan.Layered setup)
    (hs : Shows lower document held preview) (key : HostKeyName) {pressed : Bool}
    (hfresh : pressed = true → key.profileName ∉ preview.pressedKeys) :
    Shows lower document (UnifiedRuntime.refreshed layouts
        (UnifiedRuntime.holdKey setup held key pressed))
      (keyed lower.toLowerCase document.toPage key.profileName pressed preview) where
  keys := fun key' => by
    rw [mem_pressedKeys_keyed, UnifiedRuntime.refreshed, contains_holdKey]
    by_cases hkey : key' = key <;> simp [hkey, hs.keys]
  buttons := hs.buttons
  refreshed := rfl
  layers := fun index layer hat => by
    obtain ⟨planned, hplanned, hid, hmode, hname⟩ := h.layer_at hat
    have hbefore := hs.layers index layer hat
    rw [← hid] at hbefore ⊢
    change _ ↔ LayerActive (UnifiedRuntime.holdKey setup held key pressed).activeLayers planned.id
    have hinj : planned.activationKey.profileName = key.profileName ↔ planned.activationKey = key :=
      HostKeyName.profileName_injective.eq_iff
    cases hactivation : layer.activation with
    | hold name =>
      rw [hactivation] at hname hmode
      have hshown : ∀ preview, layerIsActive lower.toLowerCase preview layer = true ↔
          planned.activationKey.profileName ∈ preview.pressedKeys := by
        intro preview
        rw [layerIsActive, hactivation, ← hname]
        exact decide_eq_true_iff
      rw [hshown] at hbefore ⊢
      rw [mem_pressedKeys_keyed]
      by_cases hkey : planned.activationKey = key
      · rw [if_pos hkey, ← hkey, RuntimeControlPlan.layerActive_holdKey_hold hl hplanned hmode]
      · rw [if_neg hkey, RuntimeControlPlan.layerActive_holdKey_of_ne hl hplanned hkey]
        exact hbefore
    | toggle name =>
      rw [hactivation] at hname hmode
      have hshown : ∀ preview, layerIsActive lower.toLowerCase preview layer = true ↔
          layer.name ∈ preview.toggledLayers := by
        intro preview
        rw [layerIsActive, hactivation]
        exact decide_eq_true_iff
      rw [hshown] at hbefore ⊢
      rw [mem_toggledLayers_keyed h hfresh (List.mem_of_getElem? hat) hactivation,
        show canonicalKey lower.toLowerCase name = planned.activationKey.profileName from hname]
      by_cases hkey : planned.activationKey = key
      · rw [if_pos (hinj.mpr hkey), ← hkey,
          RuntimeControlPlan.layerActive_holdKey_toggle hl hplanned hmode, hbefore]
      · rw [if_neg fun hsame => hkey (hinj.mp hsame),
          RuntimeControlPlan.layerActive_holdKey_of_ne hl hplanned hkey]
        exact hbefore

/-- A key that repeats changes nothing. -/
theorem Shows.keyed_again (hs : Shows lower document held preview) (key : HostKeyName)
    (hdown : key.profileName ∈ preview.pressedKeys) :
    Shows lower document held
      (Page.keyed lower.toLowerCase document.toPage key.profileName true preview) := by
  have hsame : Page.keyed lower.toLowerCase document.toPage key.profileName true preview =
      refreshActiveLayers lower.toLowerCase preview document.toPage := by
    rw [Page.keyed, Finset.insert_eq_of_mem hdown]
    simp [hdown]
  rw [hsame]
  exact ⟨hs.keys, hs.buttons, hs.layers, rfl⟩

/-- A button that goes down or up. -/
theorem Shows.buttoned (hs : Shows lower document held preview) (button : HostMouseButton)
    (pressed : Bool) :
    Shows lower document (UnifiedRuntime.heldAfterButton layouts held button pressed)
      (Page.buttoned button.profileName pressed preview) where
  keys := hs.keys
  buttons := fun button' => by
    have hinj : button'.profileName = button.profileName ↔ button' = button :=
      HostMouseButton.profileName_injective.eq_iff
    rw [UnifiedRuntime.heldAfterButton, UnifiedRuntime.refreshed, mouseButtonHeld_set]
    by_cases hsame : button' = button <;> cases pressed <;>
      simp [Page.buttoned, hinj, hsame, hs.buttons]
  layers := hs.layers
  refreshed := hs.refreshed

end Steps

/-! ### What lights up -/

section Lights

variable {lower : LowerCase} {document : ProfileDocument} {plan : RuntimeControlPlan}
  {resolution : Resolution} {held : HeldInputs} {preview base : PreviewState}
  {input : RuntimePhysicalInput} {index : ℕ} {binding : BindingV2} {control : RuntimeControlBinding}

/-- The binding at a place, and its control. -/
structure At (document : ProfileDocument) (plan : RuntimeControlPlan) (resolution : Resolution)
    (index : ℕ) (binding : BindingV2) (control : RuntimeControlBinding) : Prop where
  place : document.profile.bindings[index]? = some binding
  mem : control ∈ plan.controls
  pair : Previewed.Pair document resolution binding control

theorem Previewed.exists_at (h : Previewed lower document plan resolution)
    (hcontrol : plan.controls[index]? = some control) :
    ∃ binding, At document plan resolution index binding control := by
  obtain ⟨binding, hplace, hpair⟩ := forall₂_getElem? h.pairs.flip hcontrol
  exact ⟨binding, hplace, List.mem_of_getElem? hcontrol, hpair⟩

theorem At.bindings (ha : At document plan resolution index binding control) :
    document.toPage.bindings[index]? = some binding.toPage := by
  have hpage : document.toPage.bindings[index]? =
      document.profile.bindings[index]?.map BindingV2.toPage := List.getElem?_map
  rw [hpage, ha.place, Option.map_some]

/-- The kind of a binding on the page. -/
theorem At.kind (ha : At document plan resolution index binding control) :
    binding.toPage.action.kind = "tap" ↔ ∃ point, control.action = .tap point := by
  obtain ⟨next, next', haction⟩ := ha.pair.2.action
  have haction := materializeAction_ok haction
  rw [BindingV2.toPage]
  cases hb : binding.action with
  | tap point =>
    rw [hb] at haction
    rw [haction.1]
    simp [ActionV2.toPage, PageAction.kind]
  | hold point =>
    rw [hb] at haction
    rw [haction.1]
    simp [ActionV2.toPage, PageAction.kind]
  | virtualJoystick center radius deadZone mode reaffirm =>
    rw [hb] at haction
    obtain ⟨joystick, -, haction, -⟩ := haction
    rw [haction]
    simp [ActionV2.toPage, PageAction.kind]
  | mouseAim region sensitivity toggleKey threshold gap ads reaffirm =>
    rw [hb] at haction
    obtain ⟨_, _, _, aim, settings, -, haction, -⟩ := haction
    rw [haction]
    simp [ActionV2.toPage, PageAction.kind]
  | macroSteps steps =>
    rw [hb] at haction
    exact haction.elim

/-- A held input of the page that reaches the binding. -/
theorem Previewed.heldSource_iff (h : Previewed lower document plan resolution)
    (hs : Shows lower document held preview) (ha : At document plan resolution index binding control)
    (hin : input ∈ resolvedPhysicalInputs control.input) {source : String × InputKind}
    (hkind : source.2 = input.kind)
    (hname : canonicalKey lower.toLowerCase source.1 = input.name) :
    heldSourceAvailable lower.toLowerCase document.toPage preview binding.toPage index source = true ↔
      held.Holds input ∧ plan.Reaches held control input := by
  simp only [heldSourceAvailable, Bool.and_eq_true, hkind, hname, hs.sourceHeld_iff,
    h.bindingAvailableForSource_iff hs ha.place ha.mem ha.pair hin]

/-- The sources of the page are the inputs of the control. -/
theorem Previewed.exists_source_iff (h : Previewed lower document plan resolution)
    (hs : Shows lower document held preview) (ha : At document plan resolution index binding control)
    (P : RuntimePhysicalInput → Prop) (Q : String × InputKind → Prop)
    (hPQ : ∀ source input, source.2 = input.kind →
      canonicalKey lower.toLowerCase source.1 = input.name → (Q source ↔ P input)) :
    (∃ source ∈ bindingScopeInputKeys binding.toPage.input, Q source ∧ heldSourceAvailable
        lower.toLowerCase document.toPage preview binding.toPage index source = true) ↔
      ∃ input ∈ resolvedPhysicalInputs control.input, P input ∧ held.Holds input ∧
        plan.Reaches held control input := by
  have hrust := (h.plan.accepted.bindings _ ha.pair.1).input
  have hjs := (h.page.bindings _ ha.pair.1).input
  have hmem : ∀ input, input ∈ resolvedPhysicalInputs control.input ↔
      ∃ source ∈ bindingScopeInputKeys binding.input, source.2 = input.kind ∧
        canonicalKey lower.toLowerCase source.1 = input.name := by
    intro input
    rw [ha.pair.2.input]
    exact mem_resolvedPhysicalInputs hrust hjs
  constructor
  · rintro ⟨source, hsource, hQ, hheld⟩
    obtain ⟨input, hkind, hname⟩ := exists_input hrust hjs hsource
    have hin := (hmem input).mpr ⟨source, hsource, hkind, hname⟩
    exact ⟨input, hin, (hPQ source input hkind hname).mp hQ,
      (h.heldSource_iff hs ha hin hkind hname).mp hheld⟩
  · rintro ⟨input, hin, hP, hheld⟩
    obtain ⟨source, hsource, hkind, hname⟩ := (hmem input).mp hin
    exact ⟨source, hsource, (hPQ source input hkind hname).mpr hP,
      (h.heldSource_iff hs ha hin hkind hname).mpr hheld⟩

/-- **A hold binding or a joystick lights up** when an input engages it. -/
theorem Previewed.lights_iff (h : Previewed lower document plan resolution)
    (hs : Shows lower document held preview) (ha : At document plan resolution index binding control)
    (htap : ∀ point, control.action ≠ .tap point) (hmove : binding.input ≠ .mouseMove) :
    index ∈ activePreviewBindingIndexes lower.toLowerCase document.toPage preview ↔
      ∃ input ∈ resolvedPhysicalInputs control.input, plan.Engages held control input := by
  have hkind : binding.toPage.action.kind ≠ "tap" := by
    intro hkind
    obtain ⟨point, haction⟩ := ha.kind.mp hkind
    exact htap point haction
  have hactive : index ∈ activePreviewBindingIndexes lower.toLowerCase document.toPage preview ↔
      previewBindingActive lower.toLowerCase document.toPage preview binding.toPage index = true := by
    rw [activePreviewBindingIndexes, List.mem_map]
    constructor
    · rintro ⟨⟨page, i⟩, hmem, rfl⟩
      obtain ⟨hat, hlit⟩ := List.mem_filter.mp hmem
      obtain rfl := Option.some.inj ((List.mk_mem_zipIdx_iff_getElem?.mp hat).symm.trans ha.bindings)
      exact hlit
    · intro hlit
      refine ⟨(binding.toPage, index), List.mem_filter.mpr ⟨?_, hlit⟩, rfl⟩
      exact List.mk_mem_zipIdx_iff_getElem?.mpr ha.bindings
  have hmove' : binding.toPage.input ≠ .mouseMove := hmove
  have hsources := h.exists_source_iff hs ha
    (fun input => ∀ layer ∈ plan.layers, input ≠ .key layer.activationKey)
    (fun source => ¬ (source.2 = .key ∧ canonicalKey lower.toLowerCase source.1 ∈
      activationKeys lower.toLowerCase document.toPage.layers)) ?_
  · rw [hactive, previewBindingActive, if_neg hkind, if_neg hmove', List.any_eq_true]
    simp only [Bool.and_eq_true, Bool.not_eq_true', Bool.and_eq_false_iff, decide_eq_false_iff_not,
      ← not_and_or]
    rw [hsources]
    constructor
    · rintro ⟨input, hin, hnot, hheld, hreaches⟩
      exact ⟨input, hin, hheld, hnot, hreaches⟩
    · rintro ⟨input, hin, hheld, hnot, hreaches⟩
      exact ⟨input, hin, hnot, hheld, hreaches⟩
  · intro source input hkind' hname
    rw [hkind', hname]
    cases input with
    | key key =>
      simp only [RuntimePhysicalInput.kind, RuntimePhysicalInput.name, h.mem_activationKeys_iff,
        true_and, not_exists, not_and, ne_eq, RuntimePhysicalInput.key.injEq, eq_comm (a := key)]
    | mouseButton button => simp [RuntimePhysicalInput.kind]

/-- **A tap is lit up** by an input that reaches it. -/
theorem Previewed.fired_iff (h : Previewed lower document plan resolution)
    (hs : Shows lower document held base) (ha : At document plan resolution index binding control)
    {point : Point} (haction : control.action = .tap point) :
    Fired lower.toLowerCase document.toPage base input.kind input.name index ↔
      input ∈ resolvedPhysicalInputs control.input ∧ plan.Reaches held control input := by
  constructor
  · rintro ⟨page, hat, -, hsource, havailable⟩
    obtain rfl := Option.some.inj (hat.symm.trans ha.bindings)
    have hin := (h.bindingHasSource_iff ha.pair).mp hsource
    exact ⟨hin, (h.bindingAvailableForSource_iff hs ha.place ha.mem ha.pair hin).mp havailable⟩
  · rintro ⟨hin, hreaches⟩
    exact ⟨binding.toPage, ha.bindings, ha.kind.mpr ⟨point, haction⟩,
      (h.bindingHasSource_iff ha.pair).mpr hin,
      (h.bindingAvailableForSource_iff hs ha.place ha.mem ha.pair hin).mpr hreaches⟩

/-- A tap stays lit up while an input that reaches it is held. -/
theorem Previewed.stillHeld_iff (h : Previewed lower document plan resolution)
    (hs : Shows lower document held base) (ha : At document plan resolution index binding control)
    {point : Point} (haction : control.action = .tap point) :
    StillHeld lower.toLowerCase document.toPage base index ↔
      ∃ input ∈ resolvedPhysicalInputs control.input, held.Holds input ∧
        plan.Reaches held control input := by
  have hsources := h.exists_source_iff hs ha (fun _ => True) (fun _ => True) fun _ _ _ _ => Iff.rfl
  simp only [true_and] at hsources
  rw [← hsources]
  constructor
  · rintro ⟨page, hat, -, hheld⟩
    obtain rfl := Option.some.inj (hat.symm.trans ha.bindings)
    exact hheld
  · intro hheld
    exact ⟨binding.toPage, ha.bindings, ha.kind.mpr ⟨point, haction⟩, hheld⟩

/-- A tap has one input. -/
theorem Previewed.input_unique (h : Previewed lower document plan resolution)
    (ha : At document plan resolution index binding control) {point : Point}
    (haction : control.action = .tap point) {input' : RuntimePhysicalInput}
    (hin : input ∈ resolvedPhysicalInputs control.input)
    (hin' : input' ∈ resolvedPhysicalInputs control.input) : input = input' := by
  have hshape := ha.pair.2.input_shape (h.plan.accepted.bindings _ ha.pair.1).compatible
  rw [haction] at hshape
  rcases hshape with ⟨name, hname⟩ | ⟨name, hname⟩
  · rw [hname, resolvedPhysicalInputs, List.reduceOption_mem_iff, List.mem_singleton] at hin hin'
    exact Option.some.inj (hin.trans hin'.symm)
  · rw [hname, resolvedPhysicalInputs, List.reduceOption_mem_iff, List.mem_singleton] at hin hin'
    exact Option.some.inj (hin.trans hin'.symm)

end Lights

/-! ### One event -/

/-- The page and the session have seen the same events. -/
structure Synced (lower : LowerCase) (document : ProfileDocument) (held : HeldInputs)
    (preview : PreviewState) (down : RuntimePhysicalInput → Bool) : Prop where
  shows : Shows lower document held preview
  latched : LatchedHeld lower.toLowerCase document.toPage preview
  down : ∀ input, down input = true ↔ held.Holds input

section Synced

variable {lower : LowerCase} {document : ProfileDocument} {plan : RuntimeControlPlan}
  {resolution : Resolution} {setup : RuntimeSetup} {layouts : List ControlLayout}
  {held : HeldInputs} {preview : PreviewState} {down : RuntimePhysicalInput → Bool}
  {source : RuntimePhysicalInput} {transition : KeyTransition} {now : ℕ}

open UnifiedRuntime (heldAfterCall pressedInput)

/-- The release of a button that is up changes nothing. -/
theorem handleTestPointer_eq {button : HostMouseButton} {pressed : Bool}
    (h : LatchedHeld lower.toLowerCase document.toPage preview) :
    handleTestPointer lower.toLowerCase document.toPage button.profileName pressed preview =
      setPreviewButton lower.toLowerCase document.toPage button.profileName pressed preview := by
  rw [handleTestPointer]
  split
  · next hup =>
    simp only [Bool.and_eq_true, Bool.not_eq_true', decide_eq_false_iff_not] at hup
    obtain ⟨rfl, hup⟩ := hup
    have hname : canonicalKey lower.toLowerCase button.profileName = button.profileName :=
      canonicalKey_name (.mouseButton button)
    have hbase : buttoned button.profileName false preview = preview := by
      rw [buttoned, if_neg Bool.false_ne_true, Finset.erase_eq_of_notMem hup]
    rw [setPreviewButton_eq, hname, Bool.false_and, hbase, settleTaps_eq_self h]
  · rfl

/-- What an input that goes down, repeats or goes up does to the page. -/
theorem Synced.input (h : Previewed lower document plan resolution) (hl : plan.Layered setup)
    (layouts : List ControlLayout) (hsync : Synced lower document held preview down)
    (hfit : (UserEvent.input source transition now).Fits down) : ∃ base fires,
      (UserEvent.input source transition now).seen lower.toLowerCase document.toPage preview =
          settleTaps lower.toLowerCase document.toPage fires source.kind source.name base ∧
        Shows lower document
          (heldAfterCall setup layouts held (UserEvent.input source transition now).call) base ∧
        base.latchedTapIndexes = preview.latchedTapIndexes ∧
        (fires = true ↔ transition = .pressed ∧
          ∀ layer ∈ plan.layers, source ≠ .key layer.activationKey) := by
  have hname : canonicalKey lower.toLowerCase source.name = source.name := canonicalKey_name source
  cases source with
  | key key =>
    have hactivation : key.profileName ∉ activationKeys lower.toLowerCase document.toPage.layers ↔
        ∀ layer ∈ plan.layers, key ≠ layer.activationKey := by
      simp only [h.mem_activationKeys_iff, not_exists, not_and, ne_eq, eq_comm (a := key)]
    have hshown := (hsync.down (.key key)).trans (hsync.shows.keys key).symm
    have hseen := setPreviewKey_eq lower.toLowerCase document.toPage preview key.profileName
      (transition ≠ .released)
    rw [show canonicalKey lower.toLowerCase key.profileName = key.profileName from hname] at hseen
    refine ⟨_, _, hseen, ?_, ?_, ?_⟩
    · cases transition with
      | pressed =>
        have hup : key.profileName ∉ preview.pressedKeys := by
          rw [← hshown]
          exact Bool.eq_false_iff.mp hfit
        exact hsync.shows.keyed h hl key fun _ => hup
      | released => exact hsync.shows.keyed h hl key fun hpressed => by cases hpressed
      | repeated => exact hsync.shows.keyed_again key (hshown.mp hfit)
    · rfl
    · cases transition with
      | pressed =>
        have hup : key.profileName ∉ preview.pressedKeys := by
          rw [← hshown]
          exact Bool.eq_false_iff.mp hfit
        simp [hup, hactivation]
      | released => simp
      | repeated => simp [hshown.mp hfit]
  | mouseButton button =>
    have hshown := (hsync.down (.mouseButton button)).trans (hsync.shows.buttons button).symm
    have hseen := setPreviewButton_eq lower.toLowerCase document.toPage preview button.profileName
      (transition ≠ .released)
    rw [show canonicalKey lower.toLowerCase button.profileName = button.profileName from hname] at hseen
    refine ⟨_, _, (handleTestPointer_eq hsync.latched).trans hseen, ?_, ?_, ?_⟩
    · cases transition with
      | pressed => exact hsync.shows.buttoned button true
      | released => exact hsync.shows.buttoned button false
      | repeated =>
        have hbase : buttoned button.profileName true preview = preview := by
          rw [buttoned, if_pos rfl, Finset.insert_eq_of_mem (hshown.mp hfit)]
        have hpressed : decide (KeyTransition.repeated ≠ .released) = true := rfl
        rw [hpressed, hbase]
        exact hsync.shows
    · rfl
    · cases transition with
      | pressed =>
        have hup : button.profileName ∉ preview.pressedButtons := by
          rw [← hshown]
          exact Bool.eq_false_iff.mp hfit
        simp [hup]
      | released => simp
      | repeated => simp [hshown.mp hfit]

/-- What is down after a key went down or up. -/
theorem holds_holdKey {key : HostKeyName} {pressed : Bool} {input : RuntimePhysicalInput} :
    (UnifiedRuntime.refreshed layouts (UnifiedRuntime.holdKey setup held key pressed)).Holds input ↔
      if input = .key key then pressed = true else held.Holds input := by
  cases input with
  | key key' =>
    change (UnifiedRuntime.holdKey setup held key pressed).heldKeys.contains key' = true ↔ _
    rw [contains_holdKey]
    by_cases hsame : key' = key <;> simp [hsame, HeldInputs.Holds]
  | mouseButton button =>
    rw [if_neg (by simp)]
    rfl

/-- What is down after a button went down or up. -/
theorem holds_heldAfterButton {button : HostMouseButton} {pressed : Bool}
    {input : RuntimePhysicalInput} :
    (UnifiedRuntime.heldAfterButton layouts held button pressed).Holds input ↔
      if input = .mouseButton button then pressed = true else held.Holds input := by
  cases input with
  | key key =>
    rw [if_neg (by simp)]
    rfl
  | mouseButton button' =>
    change mouseButtonHeld (setMouseButtonHeld held.heldMouseButtons button pressed) button' = true ↔ _
    rw [mouseButtonHeld_set]
    by_cases hsame : button' = button <;> simp [hsame, HeldInputs.Holds]

/-- What is down after an input went down, repeated or went up. -/
theorem holds_input {input : RuntimePhysicalInput}
    (hdown : ∀ input, down input = true ↔ held.Holds input) :
    (UserEvent.input source transition now).down down input = true ↔
      (heldAfterCall setup layouts held (UserEvent.input source transition now).call).Holds input := by
  have hupdate : ∀ pressed, Function.update down source pressed input = true ↔
      if input = source then pressed = true else held.Holds input := by
    intro pressed
    rw [Function.update_apply]
    by_cases hsame : input = source <;> simp [hsame, hdown]
  cases source with
  | key key =>
    cases transition with
    | pressed => exact (hupdate true).trans holds_holdKey.symm
    | released => exact (hupdate false).trans holds_holdKey.symm
    | repeated => exact hdown input
  | mouseButton button =>
    cases transition with
    | pressed => exact (hupdate true).trans holds_heldAfterButton.symm
    | released => exact (hupdate false).trans holds_heldAfterButton.symm
    | repeated => exact hdown input

/-- The page starts in step with the session. -/
theorem synced_none : Synced lower document .none createPreviewState fun _ => false where
  shows := shows_none
  latched := fun index hin => absurd hin (Finset.notMem_empty index)
  down := fun input => by
    cases input <;> simp [HeldInputs.Holds, HeldInputs.none, mouseButtonHeld]

/-- **One event.** -/
theorem Synced.event (h : Previewed lower document plan resolution) (hl : plan.Layered setup)
    (hsync : Synced lower document held preview down) {event : UserEvent} (hfit : event.Fits down) :
    Synced lower document (heldAfterCall setup layouts held event.call)
      (event.seen lower.toLowerCase document.toPage preview) (event.down down) := by
  cases event with
  | blur =>
    exact synced_none
  | input source transition now =>
    obtain ⟨base, fires, hseen, hshows, -, -⟩ := hsync.input h hl layouts hfit
    refine ⟨?_, ?_, fun input => holds_input hsync.down⟩
    · rw [hseen]
      obtain ⟨indexes, heq⟩ : ∃ indexes, settleTaps lower.toLowerCase document.toPage fires
        source.kind source.name base = base.withLatches indexes := exists_withLatches fires
      rw [heq]
      exact hshows.withLatches indexes
    · rw [hseen]
      exact latchedHeld_settleTaps fires

/-- **A tap is lit up by the presses that fire it.** -/
theorem Synced.newly_latched (h : Previewed lower document plan resolution) (hl : plan.Layered setup)
    (layouts : List ControlLayout) (hsync : Synced lower document held preview down) {event : UserEvent} (hfit : event.Fits down)
    {index : ℕ} {binding : BindingV2} {control : RuntimeControlBinding}
    (ha : At document plan resolution index binding control) {point : Point}
    (haction : control.action = .tap point) :
    (index ∉ preview.latchedTapIndexes ∧
        index ∈ (event.seen lower.toLowerCase document.toPage preview).latchedTapIndexes) ↔
      ∃ input, pressedInput event.call = some input ∧
        plan.Fires (heldAfterCall setup layouts held event.call) control input := by
  cases event with
  | blur =>
    constructor
    · rintro ⟨-, hin⟩
      exact absurd hin (Finset.notMem_empty index)
    · rintro ⟨input, hpressed, -⟩
      cases hpressed
  | input source transition now =>
    have hpressed : ∀ input, pressedInput (UserEvent.input source transition now).call = some input ↔
        transition = .pressed ∧ input = source := by
      intro input
      cases source <;> cases transition <;> simp [UserEvent.call, pressedInput, eq_comm]
    obtain ⟨base, fires, hseen, hshows, hlatched, hfires⟩ := hsync.input h hl layouts hfit
    rw [hseen, mem_latched_settleTaps, hlatched, h.fired_iff hshows ha haction]
    constructor
    · rintro ⟨hnot, hlit, -⟩
      rcases hlit with hin | ⟨hfire, hown, hreaches⟩
      · exact absurd hin hnot
      · obtain ⟨hpress, hplain⟩ := hfires.mp hfire
        exact ⟨source, (hpressed source).mpr ⟨hpress, rfl⟩, hown, hplain, hreaches⟩
    · rintro ⟨input, hcall, hown, hplain, hreaches⟩
      obtain ⟨rfl, rfl⟩ := (hpressed input).mp hcall
      refine ⟨?_, .inr ⟨hfires.mpr ⟨rfl, hplain⟩, hown, hreaches⟩,
        (h.stillHeld_iff hshows ha haction).mpr ⟨input, hown, ?_, hreaches⟩⟩
      · -- what is lit up has its one input held, and that input was up
        intro hin
        obtain ⟨input', hown', hheld, -⟩ :=
          (h.stillHeld_iff hsync.shows ha haction).mp (hsync.latched index hin)
        obtain rfl := h.input_unique ha haction hown hown'
        have hup : down input = false := hfit
        rw [(hsync.down input).mpr hheld] at hup
        cases hup
      · have hafter : (UserEvent.input input .pressed now).down down input = true := by
          rw [UserEvent.down, Function.update_self]
        exact (holds_input hsync.down).mp hafter

end Synced

/-! ### Runs -/

/-- The frames of the taps that the page lights up at the index. -/
def shownTaps (toLowerCase : String → String) (profile : PageProfile) (index : ℕ)
    (contact : ContactId) (point : Point) : PreviewState → List UserEvent → List TouchFrame
  | _, [] => []
  | preview, event :: events =>
    (if index ∉ preview.latchedTapIndexes ∧
        index ∈ (event.seen toLowerCase profile preview).latchedTapIndexes then
      TouchFrame.tap contact point else []) ++
      shownTaps toLowerCase profile index contact point (event.seen toLowerCase profile preview) events

section Runs

variable {lower : LowerCase} {document : ProfileDocument} {plan : RuntimeControlPlan}
  {resolution : Resolution} {setup : RuntimeSetup} {layouts : List ControlLayout}
  {held : HeldInputs} {preview : PreviewState} {down : RuntimePhysicalInput → Bool}

open UnifiedRuntime (heldAfterCall)

theorem Synced.events (h : Previewed lower document plan resolution) (hl : plan.Layered setup)
    (layouts : List ControlLayout) (hsync : Synced lower document held preview down) {events : List UserEvent}
    (halternates : UserEvent.Plausible down events) :
    Synced lower document ((events.map UserEvent.call).foldl (heldAfterCall setup layouts) held)
      (events.foldl (UserEvent.seen lower.toLowerCase document.toPage) preview)
      (events.foldl UserEvent.down down) := by
  induction events generalizing held preview down with
  | nil => exact hsync
  | cons event events ih =>
    obtain ⟨hfit, hrest⟩ := halternates
    exact ih (hsync.event h hl hfit) hrest

/-- **The page lights up the taps of the session.** -/
theorem shownTaps_eq (h : Previewed lower document plan resolution) (hl : plan.Layered setup)
    (hsync : Synced lower document held preview down) {events : List UserEvent}
    (halternates : UserEvent.Plausible down events) {index : ℕ} {binding : BindingV2}
    {control : RuntimeControlBinding} (ha : At document plan resolution index binding control)
    {point : Point} (haction : control.action = .tap point) (contact : ContactId) :
    shownTaps lower.toLowerCase document.toPage index contact point preview events =
      plan.tapFrames setup layouts control contact point held (events.map UserEvent.call) := by
  induction events generalizing held preview down with
  | nil => rfl
  | cons event events ih =>
    obtain ⟨hfit, hrest⟩ := halternates
    have hnewly := hsync.newly_latched h hl layouts hfit ha haction
    rw [shownTaps, List.map_cons, RuntimeControlPlan.tapFrames, RuntimeControlPlan.tapOf,
      ih (hsync.event h hl hfit) hrest]
    by_cases hlit : index ∉ preview.latchedTapIndexes ∧
        index ∈ (event.seen lower.toLowerCase document.toPage preview).latchedTapIndexes
    · rw [if_pos hlit, if_pos (hnewly.mp hlit)]
    · rw [if_neg hlit, if_neg fun hfires => hlit (hnewly.mpr hfires)]

end Runs

/-! ### The page and the session -/

/-- The page after the events. -/
def previewAfter (lower : LowerCase) (document : ProfileDocument) (events : List UserEvent) :
    PreviewState :=
  events.foldl (UserEvent.seen lower.toLowerCase document.toPage) createPreviewState

/-- The page shows what the session does. -/
structure Mirrors {I : Type} (lower : LowerCase) (document : ProfileDocument)
    (plan : RuntimeControlPlan) (events : List UserEvent) (rt : UnifiedRuntime (Recorder I)) :
    Prop where
  layers : ∀ layer ∈ plan.layers, (layer.name ∈ (previewAfter lower document events).activeLayers ↔
    LayerActive rt.held.activeLayers layer.id)
  /-- A hold binding is lit up while its contact is down. -/
  hold : ∀ index layout point, rt.layouts[index]? = some layout →
    layout.control.action = .hold point → ∃ contact, layout.pointContact = some contact ∧
      (index ∈ activePreviewBindingIndexes lower.toLowerCase document.toPage
        (previewAfter lower document events) ↔ rt.engine.state.isActive contact = true)
  /-- A hold joystick is lit up while it has a direction. -/
  joystick : ∀ index layout joystick interval, rt.layouts[index]? = some layout →
    layout.control.action = .virtualJoystick joystick .hold interval →
      ∃ directions : DirectionalInput,
        rt.engine.state.position joystick.contactId = joystick.target directions ∧
        (index ∈ activePreviewBindingIndexes lower.toLowerCase document.toPage
          (previewAfter lower document events) ↔ directions ≠ .neutral)
  /-- A tap is lit up anew when it is sent. -/
  tap : ∀ index layout point, rt.layouts[index]? = some layout →
    layout.control.action = .tap point → ∃ contact, layout.pointContact = some contact ∧
      rt.engine.framesOf contact = shownTaps lower.toLowerCase document.toPage index contact point
        createPreviewState events

section Whole

variable {I : Type} [TouchInjector I] {lower : LowerCase} {document : ProfileDocument}
  {plan : RuntimeControlPlan} {resolution : Resolution} {injector : I}
  {rt₀ : UnifiedRuntime (Recorder I)} {events : List UserEvent}

theorem ne_neutral_iff {directions : DirectionalInput} : directions ≠ .neutral ↔
    directions.up = true ∨ directions.left = true ∨ directions.down = true ∨
      directions.right = true := by
  obtain ⟨up, left, down, right⟩ := directions
  cases up <;> cases left <;> cases down <;> cases right <;> decide

/-- **The preview mirrors the session.**  The page accepts the profile, the session has made a plan
of it and its injector accepts every frame; both are given the same events, in which inputs are
pressed when they are up. -/
theorem preview_mirrors_session (hinjector : NeverFails I)
    (hpage : validateProfile lower.toLowerCase document.toPage = [])
    (hplan : RuntimeControlPlan.fromProfileV2 document.profile resolution = .ok plan)
    (hnew : UnifiedRuntime.new plan (Recorder.new injector) = .ok rt₀)
    (hdemand : document.profile.contactDemand < u16Max)
    (halternates : UserEvent.Plausible (fun _ => false) events) :
    ∃ rt, runAll UnifiedRuntime.call (events.map UserEvent.call) rt₀ = .ok () rt ∧
      Mirrors lower document plan events rt := by
  have hreal := fromProfileV2_realizes hplan
  have h : Previewed lower document plan resolution := ⟨validateProfile_toPage.mp hpage, hreal⟩
  have hbuilt := UnifiedRuntime.new_built hnew
  have hids := UnifiedRuntime.distinct_of_nodup
    ((UnifiedRuntime.contactIds_nodup_iff hplan hnew).mpr hdemand)
  have hl := RuntimeControlPlan.layered_of_new hreal hnew
  obtain ⟨rt, hrun, hinv, hheld⟩ := UnifiedRuntime.calls_held_of_new (neverFails_recorder hinjector)
    hplan hnew hdemand (events.map UserEvent.call)
  have hsync := synced_none.events h hl rt₀.layouts halternates
  rw [← hheld] at hsync
  have hshows : Shows lower document rt.held (previewAfter lower document events) := hsync.shows
  have hfollows := hinv.contactsFollow hreal hbuilt
  have hplace : ∀ {index layout}, rt.layouts[index]? = some layout →
      ∃ binding, At document plan resolution index binding layout.control := by
    intro index layout hat
    refine h.exists_at ?_
    rw [← hfollows.controls, List.getElem?_map, hat, Option.map_some]
  refine ⟨rt, hrun, ?_, ?_, ?_, ?_⟩
  · intro planned hplanned
    obtain ⟨⟨layer, index⟩, hentry, hlayer⟩ := forall₂_exists_left hreal.layers hplanned
    rw [hlayer.name, hlayer.id]
    exact h.mem_activeLayers_at hshows (List.mk_mem_zipIdx_iff_getElem?.mp hentry)
  · intro index layout point hat haction
    obtain ⟨binding, ha⟩ := hplace hat
    obtain ⟨contact, hcontact, hdown⟩ :=
      hfollows.hold layout (List.mem_of_getElem? hat) point haction
    refine ⟨contact, hcontact, ?_⟩
    have hshape := ha.pair.2.input_shape (h.plan.accepted.bindings _ ha.pair.1).compatible
    rw [haction, ha.pair.2.input] at hshape
    have hmove : binding.input ≠ .mouseMove := by
      rcases hshape with ⟨name, hname⟩ | ⟨name, hname⟩ <;> simp [hname]
    rw [hdown]
    exact h.lights_iff hshows ha (by simp [haction]) hmove
  · intro index layout joystick interval hat haction
    obtain ⟨binding, ha⟩ := hplace hat
    obtain ⟨up, left, down, right, directions, hinputs, hup, hleft, hdown, hright, hposition, -⟩ :=
      hfollows.joystick layout (List.mem_of_getElem? hat) joystick interval haction
    refine ⟨directions, hposition, ?_⟩
    have hshape := ha.pair.2.input_shape (h.plan.accepted.bindings _ ha.pair.1).compatible
    rw [haction, ha.pair.2.input] at hshape
    have hmove : binding.input ≠ .mouseMove := by
      obtain ⟨_, _, _, _, hname⟩ := hshape
      simp [hname]
    rw [h.lights_iff hshows ha (by simp [haction]) hmove, hinputs]
    rw [ne_neutral_iff, hup, hleft, hdown, hright]
    simp
  · -- both sides are read off the same events: the frames of the contact by `calls_tap`, what the
    -- page lights up by `shownTaps_eq`
    intro index layout point hat haction
    obtain ⟨binding, ha⟩ := hplace hat
    have hmem : layout ∈ rt₀.layouts := hinv.coherent.layouts_eq ▸ List.mem_of_getElem? hat
    obtain ⟨contact, hcontact, -⟩ :=
      hfollows.tap layout (List.mem_of_getElem? hat) point haction
    refine ⟨contact, hcontact, ?_⟩
    have ht : TapContact rt₀.setup.cursorContact rt₀.layouts layout contact point :=
      ⟨hids, hmem, haction, hcontact⟩
    have hstart : UnifiedRuntime.Invariant (.ofNeverFails (neverFails_recorder hinjector)) rt₀.setup
        rt₀.layouts rt₀ := UnifiedRuntime.new_invariant hbuilt trivial
    have hwhole := UnifiedRuntime.calls_tap hreal hbuilt ht (events.map UserEvent.call)
      (UnifiedRuntime.rests_of_invariant hinjector ht hstart)
    simp only [wp, hrun] at hwhole
    rw [hwhole.framesOf, hbuilt.held, hbuilt.engine,
      shownTaps_eq h hl synced_none halternates ha haction contact]
    rfl

/-- The profile of the shooter, as the page has it. -/
def shooterDocument : ProfileDocument := ⟨UnifiedRuntime.shooter, .landscape⟩

/-- `c` is pressed, repeats and is released, and then again on the layer of `Tab`. -/
def shooterEvents : List UserEvent :=
  [.input (.key .c) .pressed 0, .input (.key .c) .repeated 1, .input (.key .c) .released 2,
    .input (.key .tab) .pressed 3, .input (.key .c) .pressed 4]

theorem shooter_preview : ∃ plan rt₀,
    RuntimeControlPlan.fromProfileV2 shooterDocument.profile ⟨1280, 720⟩ = .ok plan ∧
      UnifiedRuntime.new plan (Recorder.new ()) = .ok rt₀ ∧
        ∃ rt, runAll UnifiedRuntime.call (shooterEvents.map UserEvent.call) rt₀ = .ok () rt ∧
          Mirrors .letters shooterDocument plan shooterEvents rt := by
  obtain ⟨rt₀, hlaunch⟩ := Option.isSome_iff_exists.mp
    (by decide +kernel : (UnifiedRuntime.launch UnifiedRuntime.shooter ⟨1280, 720⟩
      (Recorder.new ())).isSome = true)
  obtain ⟨plan, hplan, hnew⟩ := UnifiedRuntime.exists_of_launch hlaunch
  exact ⟨plan, rt₀, hplan, hnew, preview_mirrors_session neverFails_unit (by decide +kernel) hplan
    hnew (by decide +kernel) ⟨rfl, rfl, trivial, rfl, rfl, trivial⟩⟩

end Whole

end Page

end Wroid
