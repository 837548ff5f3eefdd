import Wroid.Session.Taps

/-!
# The layers follow the keys

A key is held from its press to its release, and a layer is active while its key is held, or from
one press of its key to the next.  The runtime keeps both in words of bits, and a suspension clears
them.

## Main definitions

* `RuntimeControlPlan.Layered` — what a session's table of layers says.
* `keyAfter`, `toggledAfter` — whether a key is held, or has switched its layer on, after a call.

## Main results

* `call_held`, `calls_held` — what is held after any call, and after a run.
* `layerActive_holdKey_hold`, `layerActive_holdKey_toggle`, `layerActive_holdKey_of_ne` — what a key
  does to a layer.
* `layers_follow_keys` — **the held keys and the active layers after every run**.
-/

set_option linter.constructorNameAsVariable false

namespace Wroid

open Lib

/-! ### Lists related element by element -/

/-- Related lists have related elements at the same place. -/
theorem forall₂_getElem? {α β : Type} {R : α → β → Prop} {as : List α} {bs : List β}
    (h : List.Forall₂ R as bs) {i : ℕ} {a : α} (ha : as[i]? = some a) :
    ∃ b, bs[i]? = some b ∧ R a b := by
  induction h generalizing i with
  | nil => cases ha
  | @cons a' b as bs hR _ ih =>
    cases i with
    | zero =>
      obtain rfl := Option.some.inj ha
      exact ⟨b, rfl, hR⟩
    | succ i => exact ih ha

/-! ### The layers of a plan -/

theorem layerActive_iff {activeLayers : BitVec 64} {layer : LayerId} (hpos : 0 < layer)
    (hle : layer ≤ 64) : LayerActive activeLayers layer ↔ hasBit activeLayers (layer - 1) = true := by
  rw [LayerActive, layerMaskBit_of_le hpos hle]
  simp [hasBit]

/-- With nothing held no layer is active. -/
theorem not_layerActive_none {layer : LayerId} :
    ¬ LayerActive HeldInputs.none.activeLayers layer := by
  rintro ⟨mask, -, hmask⟩
  exact hmask (BitVec.zero_and)

/-- A key that no layer has is left alone. -/
theorem foldlM_insertLayerControl_of_ne {layers : List RuntimeLayer}
    {table table' : HostKeyName → Option LayerControl}
    (h : layers.foldlM insertLayerControl table = .ok table') {key : HostKeyName}
    (hne : ∀ layer ∈ layers, layer.activationKey ≠ key) : table' key = table key := by
  induction layers generalizing table with
  | nil =>
    obtain rfl : table = table' := by simpa [pure, Except.pure] using h
    rfl
  | cons layer layers ih =>
    obtain ⟨hhead, hrest⟩ := List.forall_mem_cons.mp hne
    rw [List.foldlM_cons, bind_eq_ok] at h
    obtain ⟨mid, hmid, hfold⟩ := h
    rw [ih hfold hrest]
    unfold insertLayerControl at hmid
    split at hmid
    · cases hmid
    · obtain rfl := Except.ok.inj hmid
      exact Function.update_of_ne hhead.symm _ _

/-- Each layer is found under its key. -/
theorem foldlM_insertLayerControl_of_mem {layers : List RuntimeLayer}
    {table table' : HostKeyName → Option LayerControl}
    (h : layers.foldlM insertLayerControl table = .ok table')
    (hkeys : layers.Pairwise fun l l' => l.activationKey ≠ l'.activationKey) {layer : RuntimeLayer}
    (hlayer : layer ∈ layers) : ∃ mask, layerMaskBit layer.id = some mask ∧
      table' layer.activationKey = some ⟨mask, layer.mode⟩ := by
  induction layers generalizing table with
  | nil => cases hlayer
  | cons first layers ih =>
    obtain ⟨hfirst, hrest⟩ := List.pairwise_cons.mp hkeys
    rw [List.foldlM_cons, bind_eq_ok] at h
    obtain ⟨mid, hmid, hfold⟩ := h
    rcases List.mem_cons.mp hlayer with rfl | hmem
    · rw [foldlM_insertLayerControl_of_ne hfold fun l hl => (hfirst l hl).symm]
      unfold insertLayerControl at hmid
      split at hmid
      · cases hmid
      · next mask hmask =>
        obtain rfl := Except.ok.inj hmid
        exact ⟨mask, hmask, Function.update_self ..⟩
    · exact ih hfold hrest hmem

/-- What the table of the layers says. -/
structure RuntimeControlPlan.Layered (plan : RuntimeControlPlan) (setup : RuntimeSetup) : Prop where
  table : ∀ layer ∈ plan.layers, setup.layerControls layer.activationKey =
    some ⟨BitVec.twoPow 64 (layer.id - 1), layer.mode⟩
  others : ∀ key, (∀ layer ∈ plan.layers, layer.activationKey ≠ key) → setup.layerControls key = none
  pos : ∀ layer ∈ plan.layers, 0 < layer.id
  le : ∀ layer ∈ plan.layers, layer.id ≤ 64
  /-- Layers have different keys and different numbers. -/
  apart : plan.layers.Pairwise fun l l' => l.activationKey ≠ l'.activationKey ∧ l.id ≠ l'.id

namespace RuntimeControlPlan

variable {plan : RuntimeControlPlan} {profile : ProfileV2} {resolution : Resolution}
  {setup : RuntimeSetup} {held : HeldInputs} {layer layer' : RuntimeLayer}

theorem Realizes.layers_apart (h : plan.Realizes profile resolution) :
    plan.layers.Pairwise fun l l' => l.activationKey ≠ l'.activationKey ∧ l.id ≠ l'.id := by
  have hentries : profile.layers.zipIdx.Pairwise fun a b =>
      canonicalKey a.1.activation.key ≠ canonicalKey b.1.activation.key ∧ a.2 ≠ b.2 := by
    refine List.Pairwise.and ?_ ?_
    · have hkeys := h.accepted.layer_keys
      rw [← List.zipIdx_map_fst 0 profile.layers, List.pairwise_map] at hkeys
      exact hkeys
    · have hnodup : (profile.layers.zipIdx.map Prod.snd).Nodup := by
        rw [List.zipIdx_map_snd]
        exact List.nodup_range'
      exact List.pairwise_map.mp hnodup
  have hall : ∀ entries layers, List.Forall₂ LayerV2.RealizedBy entries layers →
      entries.Pairwise (fun a b => canonicalKey a.1.activation.key ≠ canonicalKey b.1.activation.key ∧
        a.2 ≠ b.2) →
      layers.Pairwise fun l l' => l.activationKey ≠ l'.activationKey ∧ l.id ≠ l'.id := by
    intro entries layers hforall hpairs
    induction hforall with
    | nil => exact .nil
    | cons hreal hrest ih =>
      obtain ⟨hhead, htail⟩ := List.pairwise_cons.mp hpairs
      refine List.pairwise_cons.mpr ⟨fun l' hl' => ?_, ih htail⟩
      obtain ⟨entry, hentry, hreal'⟩ := forall₂_exists_left hrest hl'
      obtain ⟨hkey, hindex⟩ := hhead entry hentry
      constructor
      · intro hsame
        have hl := HostKeyName.parse_eq_some.mp hreal.key
        have hl' := HostKeyName.parse_eq_some.mp hreal'.key
        exact hkey (hl.trans (hsame ▸ hl'.symm))
      · rw [hreal.id, hreal'.id]
        exact fun hsame => hindex (Nat.succ.inj hsame)
  exact hall _ _ h.layers hentries

theorem layered_of_new {I : Type} {injector : I} {rt : UnifiedRuntime I}
    (hplan : plan.Realizes profile resolution) (hnew : UnifiedRuntime.new plan injector = .ok rt) :
    plan.Layered rt.setup := by
  have hid : ∀ layer ∈ plan.layers, 0 < layer.id ∧ layer.id ≤ 64 := by
    intro layer hlayer
    obtain ⟨entry, hentry, hreal⟩ := forall₂_exists_left hplan.layers hlayer
    rw [hreal.id]
    exact ⟨Nat.succ_pos _, (List.mem_zipIdx' hentry).1.trans_le hplan.accepted.layer_count⟩
  simp only [UnifiedRuntime.new, bind_eq_ok, pure, Except.pure, Except.ok.injEq, Prod.exists] at hnew
  obtain ⟨cells, cursorContact, -, layerControls, hlayers, rfl⟩ := hnew
  refine ⟨fun layer hlayer => ?_, fun key hne => foldlM_insertLayerControl_of_ne hlayers hne,
    fun layer hlayer => (hid layer hlayer).1, fun layer hlayer => (hid layer hlayer).2,
    hplan.layers_apart⟩
  obtain ⟨mask, hmask, htable⟩ :=
    foldlM_insertLayerControl_of_mem hlayers (hplan.layers_apart.imp And.left) hlayer
  rw [layerMaskBit_of_le (hid layer hlayer).1 (hid layer hlayer).2] at hmask
  obtain rfl := Option.some.inj hmask
  exact htable

/-- Two layers with one key, or one number, are one layer. -/
theorem Layered.eq (h : plan.Layered setup) (hl : layer ∈ plan.layers) (hl' : layer' ∈ plan.layers)
    (hsame : layer.activationKey = layer'.activationKey ∨ layer.id = layer'.id) : layer = layer' := by
  by_contra hne
  have : Std.Symm fun l l' : RuntimeLayer => l.activationKey ≠ l'.activationKey ∧ l.id ≠ l'.id :=
    ⟨fun _ _ h => ⟨h.1.symm, h.2.symm⟩⟩
  obtain ⟨hkey, hid⟩ := h.apart.forall hl hl' hne
  rcases hsame with hsame | hsame
  · exact hkey hsame
  · exact hid hsame

theorem Layered.bit_lt (h : plan.Layered setup) (hl : layer ∈ plan.layers) : layer.id - 1 < 64 :=
  (Nat.sub_one_lt (Nat.ne_of_gt (h.pos layer hl))).trans_le (h.le layer hl)

theorem Layered.active_iff (h : plan.Layered setup) (hl : layer ∈ plan.layers)
    {activeLayers : BitVec 64} :
    LayerActive activeLayers layer.id ↔ hasBit activeLayers (layer.id - 1) = true :=
  layerActive_iff (h.pos layer hl) (h.le layer hl)

/-! ### What a key does to a layer -/

theorem layerActive_holdKey_hold (h : plan.Layered setup) (hl : layer ∈ plan.layers)
    (hmode : layer.mode = .hold) (pressed : Bool) :
    LayerActive (UnifiedRuntime.holdKey setup held layer.activationKey pressed).activeLayers layer.id ↔
      pressed = true := by
  have hlt := h.bit_lt hl
  rw [h.active_iff hl, UnifiedRuntime.holdKey, h.table layer hl, hmode]
  cases pressed with
  | false => simp [hasBit_remove hlt]
  | true => simp [hasBit_insert hlt]

theorem layerActive_holdKey_toggle (h : plan.Layered setup) (hl : layer ∈ plan.layers)
    (hmode : layer.mode = .toggle) (pressed : Bool) :
    LayerActive (UnifiedRuntime.holdKey setup held layer.activationKey pressed).activeLayers layer.id ↔
      (pressed = true ↔ ¬ LayerActive held.activeLayers layer.id) := by
  have hlt := h.bit_lt hl
  rw [h.active_iff hl, h.active_iff hl, UnifiedRuntime.holdKey, h.table layer hl, hmode]
  cases pressed with
  | false => simp
  | true => simp [hasBit_flip hlt]

/-- The key of another layer, or of none, leaves the layer alone. -/
theorem layerActive_holdKey_of_ne (h : plan.Layered setup) (hl : layer ∈ plan.layers)
    {key : HostKeyName} (hne : layer.activationKey ≠ key) (pressed : Bool) :
    LayerActive (UnifiedRuntime.holdKey setup held key pressed).activeLayers layer.id ↔
      LayerActive held.activeLayers layer.id := by
  rw [h.active_iff hl, h.active_iff hl]
  by_cases hother : ∃ other ∈ plan.layers, other.activationKey = key
  · obtain ⟨other, hother, rfl⟩ := hother
    have hlt := h.bit_lt hother
    have hid : other.id - 1 ≠ layer.id - 1 := by
      intro hid
      refine hne (congrArg RuntimeLayer.activationKey (h.eq hl hother (.inr ?_)))
      exact Nat.sub_one_cancel (h.pos layer hl) (h.pos other hother) hid.symm
    rw [UnifiedRuntime.holdKey, h.table other hother]
    cases other.mode <;> cases pressed <;>
      simp [hasBit_insert hlt, hasBit_remove hlt, hasBit_flip hlt, hid]
  · push Not at hother
    rw [UnifiedRuntime.holdKey, h.others key hother]

end RuntimeControlPlan

/-! ### What is held after a call -/

namespace UnifiedRuntime

variable {I : Type} [TouchInjector I] {K : Contract I} {setup : RuntimeSetup}
  {layouts : List ControlLayout} {rt : UnifiedRuntime I}

/-- **What is held after any call**, when nothing can go wrong. -/
theorem call_held (hcfg : Configured K setup layouts)
    (htaps : ∀ layout ∈ layouts, K.AllowsTap layout)
    (hcursor : ∀ p, K.AllowsAt setup.cursorContact p) (hfail : ∀ st e, ¬ K.Failed st e)
    (hcancel : ∀ eng, K.Holds eng → K.Allowed (TouchEngine.cancelFrame eng.state))
    (c : RuntimeCall) (h : Invariant K setup layouts rt) :
    wp (call c) (fun _ rt' => Invariant K setup layouts rt' ∧
        rt'.held = heldAfterCall setup layouts rt.held c)
      (fun e rt' => K.Stops e rt'.engine) rt := by
  have hstepped : ∀ {α : Type} {m : RuntimeM I α} {held : HeldInputs},
      wp m (fun _ rt' => Stepped K setup layouts rt held rt') (fun e rt' => K.Stops e rt'.engine) rt →
      wp m (fun _ rt' => Invariant K setup layouts rt' ∧ rt'.held = held)
        (fun e rt' => K.Stops e rt'.engine) rt :=
    fun hm => wp_mono hm (fun _ _ hs => ⟨hs.invariant, hs.held⟩) fun _ _ h => h
  cases c with
  | start now => exact hstepped (start_spec now hcfg h)
  | handleKeyboard event now =>
    simp only [call, wp_bind, wp_pure]
    exact hstepped (handleKeyboard_spec event now hcfg htaps h)
  | handleMouse event now =>
    simp only [call, wp_bind, wp_pure]
    exact hstepped (handleMouse_spec event now hcfg htaps h)
  | tick now => exact hstepped (tick_spec now hcfg h)
  | releaseMouseButtons now => exact hstepped (releaseMouseButtons_spec now hcfg h)
  | restoreAim reactivate now => exact hstepped (restoreAim_spec reactivate now hcfg h)
  | setAimEnabled enabled now => exact hstepped (setAimEnabled_spec enabled now hcfg h)
  | cursorDown position =>
    exact wp_mono (cursorDown_spec position hcfg (hcursor position) h)
      (fun _ _ hs => ⟨hs.invariant, hs.held⟩) fun _ _ h => h
  | cursorMove position =>
    refine wp_mono (cursorMove_spec position hcfg (hcursor position) h) ?_ fun _ _ h => h
    intro _ rt' hmoved
    obtain ⟨place, hs, -⟩ := hmoved
    exact ⟨hs.invariant, hs.held⟩
  | cursorUp =>
    exact wp_mono (cursorUp_spec hcfg hcursor h) (fun _ _ hs => ⟨hs.invariant, hs.held⟩)
      fun _ _ h => h
  | suspend =>
    exact wp_mono (suspend_spec hfail hcancel hcfg h) (fun _ _ hs => ⟨hs.1, hs.2.1⟩) fun _ _ h => h

/-- The key is held after the call. -/
def keyAfter (key : HostKeyName) (held : Bool) : RuntimeCall → Bool
  | .handleKeyboard ⟨.named pressed, .pressed⟩ _ => held || decide (pressed = key)
  | .handleKeyboard ⟨.named released, .released⟩ _ => held && decide (released ≠ key)
  | .suspend => false
  | _ => held

/-- The key has switched its layer on, after the call. -/
def toggledAfter (key : HostKeyName) (on : Bool) : RuntimeCall → Bool
  | .handleKeyboard ⟨.named pressed, .pressed⟩ _ => on ^^ decide (pressed = key)
  | .suspend => false
  | _ => on

/-- What is held is what the calls so far make of it. -/
structure Follows (plan : RuntimeControlPlan) (keyHeld toggledOn : HostKeyName → Bool)
    (held : HeldInputs) : Prop where
  keys : ∀ key, held.heldKeys.contains key = keyHeld key
  hold : ∀ layer ∈ plan.layers, layer.mode = .hold →
    (LayerActive held.activeLayers layer.id ↔ keyHeld layer.activationKey = true)
  toggle : ∀ layer ∈ plan.layers, layer.mode = .toggle →
    (LayerActive held.activeLayers layer.id ↔ toggledOn layer.activationKey = true)

namespace Follows

variable {plan : RuntimeControlPlan} {keyHeld toggledOn : HostKeyName → Bool} {held : HeldInputs}

theorem none : Follows plan (fun _ => false) (fun _ => false) .none where
  keys := fun key => ModifierMask.contains_empty
  hold := fun layer _ _ => by simp [not_layerActive_none]
  toggle := fun layer _ _ => by simp [not_layerActive_none]

/-- Only the held keys and the active layers matter. -/
theorem congr {held' : HeldInputs} (h : Follows plan keyHeld toggledOn held)
    (hkeys : held'.heldKeys = held.heldKeys) (hlayers : held'.activeLayers = held.activeLayers) :
    Follows plan keyHeld toggledOn held' := by
  constructor
  · intro key
    rw [hkeys]
    exact h.keys key
  · intro layer hlayer hmode
    rw [hlayers]
    exact h.hold layer hlayer hmode
  · intro layer hlayer hmode
    rw [hlayers]
    exact h.toggle layer hlayer hmode

theorem holdKey (hl : plan.Layered setup) (h : Follows plan keyHeld toggledOn held)
    (key : HostKeyName) (pressed : Bool) :
    Follows plan
      (fun key' => if pressed then keyHeld key' || decide (key = key')
        else keyHeld key' && decide (key ≠ key'))
      (fun key' => if pressed then toggledOn key' ^^ decide (key = key') else toggledOn key')
      (UnifiedRuntime.holdKey setup held key pressed) := by
  constructor
  · intro key'
    cases pressed with
    | false =>
      simp only [UnifiedRuntime.holdKey, Bool.false_eq_true, if_false, ModifierMask.contains_remove,
        h.keys]
    | true =>
      simp only [UnifiedRuntime.holdKey, if_true, ModifierMask.contains_insert, h.keys]
  · intro layer hlayer hmode
    by_cases hkey : layer.activationKey = key
    · subst hkey
      rw [RuntimeControlPlan.layerActive_holdKey_hold hl hlayer hmode]
      cases pressed <;> simp
    · rw [RuntimeControlPlan.layerActive_holdKey_of_ne hl hlayer hkey, h.hold layer hlayer hmode]
      cases pressed <;> simp [Ne.symm hkey]
  · intro layer hlayer hmode
    by_cases hkey : layer.activationKey = key
    · subst hkey
      rw [RuntimeControlPlan.layerActive_holdKey_toggle hl hlayer hmode,
        h.toggle layer hlayer hmode]
      cases pressed <;> simp
    · rw [RuntimeControlPlan.layerActive_holdKey_of_ne hl hlayer hkey, h.toggle layer hlayer hmode]
      cases pressed <;> simp [Ne.symm hkey]

/-- **What one call does** to the held keys and the active layers. -/
theorem call (hl : plan.Layered setup) (h : Follows plan keyHeld toggledOn held) (c : RuntimeCall) :
    Follows plan (fun key => keyAfter key (keyHeld key) c)
      (fun key => toggledAfter key (toggledOn key) c) (heldAfterCall setup layouts held c) := by
  cases c with
  | start | tick | restoreAim | setAimEnabled | cursorDown | cursorMove | cursorUp => exact h
  | suspend => exact none
  | releaseMouseButtons now =>
    rw [heldAfterCall, heldAfterRelease]
    split
    · exact h.congr rfl rfl
    · exact h
  | handleMouse event now =>
    cases event with
    | motion dx dy => exact h
    | wheel vertical horizontal => exact h
    | button button transition => cases transition <;> exact h.congr rfl rfl
  | handleKeyboard event now =>
    obtain ⟨hostKey, transition⟩ := event
    cases hostKey with
    | f12 => cases transition <;> exact h
    | named key =>
      -- a key may be pressed again while it is held: its layer is switched each time
      cases transition with
      | repeated => exact h
      | pressed => exact (holdKey hl h key true).congr rfl rfl
      | released => exact (holdKey hl h key false).congr rfl rfl

end Follows

/-- A run of calls. -/
theorem Follows.calls {plan : RuntimeControlPlan} (hl : plan.Layered setup)
    {keyHeld toggledOn : HostKeyName → Bool} {held : HeldInputs}
    (h : Follows plan keyHeld toggledOn held) (calls : List RuntimeCall) :
    Follows plan (fun key => calls.foldl (keyAfter key) (keyHeld key))
      (fun key => calls.foldl (toggledAfter key) (toggledOn key))
      (calls.foldl (heldAfterCall setup layouts) held) := by
  induction calls generalizing keyHeld toggledOn held with
  | nil => exact h
  | cons c cs ih => exact ih (h.call hl c)

/-- **What is held after a run of calls**, from any state. -/
theorem calls_held (hcfg : Configured K setup layouts)
    (htaps : ∀ layout ∈ layouts, K.AllowsTap layout)
    (hcursor : ∀ p, K.AllowsAt setup.cursorContact p) (hfail : ∀ st e, ¬ K.Failed st e)
    (hcancel : ∀ eng, K.Holds eng → K.Allowed (TouchEngine.cancelFrame eng.state))
    (calls : List RuntimeCall) (h : Invariant K setup layouts rt) :
    wp (runAll call calls) (fun _ rt' => Invariant K setup layouts rt' ∧
        rt'.held = calls.foldl (heldAfterCall setup layouts) rt.held)
      (fun e rt' => K.Stops e rt'.engine) rt := by
  induction calls generalizing rt with
  | nil => exact ⟨h, rfl⟩
  | cons c cs ih =>
    rw [runAll, wp_bind]
    refine wp_mono (call_held hcfg htaps hcursor hfail hcancel c h) ?_ fun _ _ hstop => hstop
    intro _ rt₁ hstep
    rw [List.foldl_cons, ← hstep.2]
    exact ih hstep.1

/-- A run of calls on a new session, over an injector that accepts every frame. -/
theorem calls_held_of_new {I : Type} [TouchInjector I] {plan : RuntimeControlPlan}
    {profile : ProfileV2} {resolution : Resolution} {injector : I} {rt₀ : UnifiedRuntime I}
    (hinjector : NeverFails I)
    (hplan : RuntimeControlPlan.fromProfileV2 profile resolution = .ok plan)
    (hnew : new plan injector = .ok rt₀) (hdemand : profile.contactDemand < u16Max)
    (calls : List RuntimeCall) :
    ∃ rt, runAll call calls rt₀ = .ok () rt ∧
      Invariant (.ofNeverFails hinjector) rt₀.setup rt₀.layouts rt ∧
        rt.held = calls.foldl (heldAfterCall rt₀.setup rt₀.layouts) .none := by
  have hbuilt := new_built hnew
  have hids := (contactIds_nodup_iff hplan hnew).mpr hdemand
  have hinv : Invariant (.ofNeverFails hinjector) rt₀.setup rt₀.layouts rt₀ :=
    new_invariant hbuilt trivial
  have hcfg : Configured (.ofNeverFails hinjector) rt₀.setup rt₀.layouts :=
    ⟨distinct_of_nodup hids, fun _ _ _ => ⟨fun _ _ _ _ _ => trivial, fun _ _ _ _ _ _ _ _ _ => trivial⟩⟩
  have hrun := calls_held hcfg (fun _ _ _ _ _ _ _ => trivial) (fun _ _ => trivial) (fun _ _ => id)
    (fun _ _ => trivial) calls hinv
  obtain ⟨⟨⟩, rt, hok, hkept, hheld⟩ := wp_returns (wp_mono hrun (fun _ _ hf => hf)
    fun _ _ ⟨_, _, _, _, hfailed⟩ => hfailed)
  rw [hbuilt.held] at hheld
  exact ⟨rt, hok, hkept, hheld⟩

/-- **The layers follow the keys.**  Over an injector that accepts every frame no call fails.  A key
is held since its last press, unless it was released or the session suspended; a hold layer is
active while its key is held, and a toggle layer after an odd number of presses of its key since
the last suspension. -/
theorem layers_follow_keys {I : Type} [TouchInjector I] {plan : RuntimeControlPlan}
    {profile : ProfileV2} {resolution : Resolution} {injector : I} {rt₀ : UnifiedRuntime I}
    (hinjector : NeverFails I)
    (hplan : RuntimeControlPlan.fromProfileV2 profile resolution = .ok plan)
    (hnew : new plan injector = .ok rt₀) (hdemand : profile.contactDemand < u16Max)
    (calls : List RuntimeCall) :
    ∃ rt, runAll call calls rt₀ = .ok () rt ∧
      Follows plan (fun key => calls.foldl (keyAfter key) false)
        (fun key => calls.foldl (toggledAfter key) false) rt.held := by
  obtain ⟨rt, hrun, -, hheld⟩ := calls_held_of_new hinjector hplan hnew hdemand calls
  have hlayered := RuntimeControlPlan.layered_of_new (fromProfileV2_realizes hplan) hnew
  refine ⟨rt, hrun, ?_⟩
  rw [hheld]
  exact Follows.none.calls hlayered calls

/-- The layer of `Tab` while it is held. -/
theorem shooter_layers : ∃ plan rt₀,
    RuntimeControlPlan.fromProfileV2 shooter ⟨1280, 720⟩ = .ok plan ∧
      new plan (Recorder.new ()) = .ok rt₀ ∧
        ∃ rt, runAll call [.handleKeyboard ⟨.named .tab, .pressed⟩ 0, .tick 1] rt₀ = .ok () rt ∧
          Follows plan
            (fun key => [.handleKeyboard ⟨.named .tab, .pressed⟩ 0, .tick 1].foldl (keyAfter key) false)
            (fun key => [.handleKeyboard ⟨.named .tab, .pressed⟩ 0, .tick 1].foldl (toggledAfter key)
              false) rt.held := by
  obtain ⟨rt₀, hlaunch⟩ := Option.isSome_iff_exists.mp
    (by decide +kernel : (launch shooter ⟨1280, 720⟩ (Recorder.new ())).isSome = true)
  obtain ⟨plan, hplan, hnew⟩ := exists_of_launch hlaunch
  exact ⟨plan, rt₀, hplan, hnew, layers_follow_keys (neverFails_recorder neverFails_unit) hplan hnew
    (by decide +kernel) _⟩

end UnifiedRuntime

end Wroid
