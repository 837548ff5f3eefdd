import Wroid.Lib.Preserves
import Wroid.Session.Capacity
import Wroid.Session.EventLoop

/-!
# Every touch is on the surface

The positions of a session come from the points of the profile, the targets of joysticks, the
motion of aims, the overlay and the virtual cursor.  Each of them is clamped in its own way.
No contact has to be told from another here, so the argument does without the independence of
the controls: whatever is down is on the surface, and whatever is submitted comes from there.

## Main definitions

* `TouchEngine.On`, `ControlCell.On`, `UnifiedRuntime.On`, `EventLoop.On` — everything is in the
  set of the places.

## Main results

* `submit_on` and the others after it — each operation stays in the set.
* `call_on`, `step_on` — so does every call of the runtime, and every step of the loop.
* `touches_stay_inside` — **every touch of every session is on the surface**.
-/

namespace Wroid

open Lib

section On

variable {I : Type} [TouchInjector I] {W : Set Point}

/-! ### The engine -/

namespace TouchEngine

/-- Every contact is in `W`, and so are the touches submitted. -/
structure On (W : Set Point) (engine : TouchEngine (Recorder I)) : Prop where
  down : ∀ c p, engine.state.position c = some p → p ∈ W
  submitted : ∀ frame ∈ engine.injector.submitted, ∀ e ∈ frame.events, e.position ∈ W

theorem position_applyFrame_on {st : TouchState} (hst : ∀ c p, st.position c = some p → p ∈ W)
    {events : List TouchEvent} (hevents : ∀ e ∈ events, e.position ∈ W) :
    ∀ c p, (st.applyFrame ⟨events⟩).position c = some p → p ∈ W := by
  simp only [TouchState.applyFrame]
  induction events generalizing st with
  | nil => exact hst
  | cons e events ih =>
    obtain ⟨he, hevents⟩ := List.forall_mem_cons.mp hevents
    refine ih (fun c p hp => ?_) hevents
    rw [TouchState.position_applyEvent] at hp
    split at hp
    · unfold TouchEvent.after at hp
      split at hp
      · exact Option.some.inj hp ▸ he
      · exact Option.some.inj hp ▸ he
      · cases hp
      · cases hp
    · exact hst c p hp

/-- **A frame in the set keeps the engine in the set**, accepted or not. -/
theorem submit_on {frame : TouchFrame} (h : ∀ e ∈ frame.events, e.position ∈ W) :
    Preserves (On (I := I) W) (submit frame) := by
  refine .read fun engine hengine => ?_
  cases engine.state.validateFrame frame with
  | error error => exact preserves_throw _
  | ok u =>
    refine .bind (fun e he => ?_) fun _ => preserves_modify fun e he =>
      ⟨position_applyFrame_on he.down h, he.submitted⟩
    have hrecorded : ∀ i : Recorder I, (∀ f ∈ i.submitted, ∀ e ∈ f.events, e.position ∈ W) →
        wp (TouchInjector.inject frame) (fun _ i => ∀ f ∈ i.submitted, ∀ e ∈ f.events, e.position ∈ W)
          (fun _ i => ∀ f ∈ i.submitted, ∀ e ∈ f.events, e.position ∈ W) i := by
      intro i hi
      have hi' : ∀ f ∈ i.submitted ++ [frame], ∀ e ∈ f.events, e.position ∈ W := by
        simpa [or_imp, forall_and] using ⟨hi, h⟩
      simp only [TouchInjector.inject, wp_bind, wp_modify, wp_zoom]
      exact wp_mono wp_true (fun _ _ _ => hi') fun _ _ _ => hi'
    rw [wp_zoom, wp_mapError]
    exact wp_mono (hrecorded e.injector he.submitted) (fun _ i hi => ⟨he.down, hi⟩)
      fun _ i hi => ⟨he.down, hi⟩

theorem single_on {event : TouchEvent} (h : event.position ∈ W) :
    Preserves (On (I := I) W) (submit (.single event)) :=
  submit_on (by simpa using h)

theorem endContact_on (contactId : ContactId) : Preserves (On (I := I) W) (endContact contactId) := by
  refine .read fun engine hengine => ?_
  cases hposition : engine.state.position contactId with
  | none => exact preserves_throw _
  | some position => exact single_on (hengine.down _ _ hposition)

theorem cancelAll_on : Preserves (On (I := I) W) cancelAll := by
  refine .read fun engine hengine => .ite (fun _ => preserves_pure _) fun _ => ?_
  refine .bind (submit_on fun e he => ?_) fun _ => preserves_pure _
  obtain ⟨⟨c, p⟩, hmem, rfl⟩ := List.mem_map.mp he
  exact hengine.down c p (Std.ExtTreeMap.mem_toList_iff_getElem?_eq_some.mp hmem)

end TouchEngine

open TouchEngine (submit_on single_on endContact_on)

/-- A joystick stays on its places. -/
theorem VirtualJoystick.apply_on {j : VirtualJoystick} (h : j.places ⊆ W) (d : DirectionalInput) :
    Preserves (TouchEngine.On (I := I) W) (j.apply d) := by
  have htarget : ∀ p, j.target d = some p → p ∈ W := fun p hp => h ⟨d, hp⟩
  refine .read fun engine _ => ?_
  cases engine.state.position j.contactId with
  | none =>
    cases hp : j.target d with
    | none => exact preserves_pure _
    | some p => exact .bind (single_on (htarget p hp)) fun _ => preserves_pure _
  | some q =>
    cases hp : j.target d with
    | none => exact .bind (endContact_on _) fun _ => preserves_pure _
    | some p =>
      exact .ite (fun _ => preserves_pure _) fun _ =>
        .bind (single_on (htarget p hp)) fun _ => preserves_pure _

/-! ### Aim controllers -/

namespace MouseAimController

/-- The region of the controller is in `W`, and so is the engine. -/
def On (W : Set Point) (t : TouchEngine (Recorder I) × MouseAimController) : Prop :=
  t.1.On W ∧ t.2.aim.region.pixels ⊆ W

variable {α : Type}

omit [TouchInjector I] in
theorem onEngine_on {m : TouchEngine.EngineM (Recorder I) α} (h : Preserves (TouchEngine.On W) m) :
    Preserves (On W) (onEngine m) :=
  h.zoom (fun _ ht => ht.1) fun _ _ ht hs => ⟨hs, ht.2⟩

omit [TouchInjector I] in
/-- A change of the controller that leaves its aim alone. -/
theorem update_on {f : MouseAimController → MouseAimController}
    (h : ∀ c, c.aim.region.pixels ⊆ W → (f c).aim.region.pixels ⊆ W) :
    Preserves (On (I := I) W) (update f) :=
  preserves_modify fun _ ht => ⟨ht.1, h _ ht.2⟩

theorem applyResidual_on (contactId : ContactId) (dx dy : ℤ) :
    Preserves (On (I := I) W) (applyResidual contactId dx dy) := by
  refine .read fun ⟨engine, c⟩ hc => ?_
  exact .ite (fun _ => onEngine_on (single_on (hc.2 (c.aim.clamp_inside _)))) fun _ => preserves_pure _

theorem activate_on (now : ℕ) : Preserves (On (I := I) W) (activate now) := by
  refine .read fun ⟨engine, c⟩ hc => .ite (fun _ => preserves_pure _) fun _ => ?_
  exact .bind (onEngine_on (single_on (hc.2 c.aim.origin_inside))) fun _ =>
    .bind (update_on fun _ h => h) fun _ => preserves_pure _

theorem tick_on (now : ℕ) : Preserves (On (I := I) W) (tick now) := by
  refine .read fun ⟨engine, c⟩ hc => ?_
  cases hpending : c.pendingRecenter with
  | some pending =>
    simp only [hpending]
    refine .ite (fun _ => preserves_pure _) fun _ => ?_
    exact .bind (onEngine_on (single_on (hc.2 c.aim.origin_inside))) fun _ =>
      .bind (update_on fun _ h => h) fun _ => .bind (applyResidual_on _ _ _) fun _ => preserves_pure _
  | none =>
    simp only [hpending]
    split
    · refine .ite (fun _ => preserves_pure _) fun _ => ?_
      split
      · exact preserves_pure _
      · next position hposition =>
        exact .bind (onEngine_on (single_on (hc.1.down _ _ hposition))) fun _ =>
          .bind (update_on fun _ h => h) fun _ => preserves_pure _
    · exact preserves_pure _

theorem recenter_on (oldContactId : ContactId) {oldPosition : Point} (hold : oldPosition ∈ W)
    (dx dy : ℤ) (now : ℕ) : Preserves (On (I := I) W) (recenter oldContactId oldPosition dx dy now) := by
  refine .read fun ⟨engine, c⟩ hc => ?_
  have hrest : Preserves (On (I := I) W) (do
      update fun d => { d with recenterCount := min (d.recenterCount + 1) u64Max }
      return MouseAimUpdate.recentered) :=
    .bind (update_on fun _ h => h) fun _ => preserves_pure _
  refine .ite (fun _ => ?_) fun _ => ?_
  · refine .bind (onEngine_on (submit_on ?_)) fun _ => .bind (update_on fun _ h => h) fun _ =>
      .bind (applyResidual_on _ _ _) fun _ => hrest
    simpa [Contract.handOverFrame] using ⟨hc.2 c.aim.origin_inside, hold⟩
  · exact .bind (onEngine_on (endContact_on _)) fun _ => .bind (update_on fun _ h => h) fun _ => hrest

theorem moveBy_on (delta : MouseAimDelta) (now : ℕ) : Preserves (On (I := I) W) (moveBy delta now) := by
  refine .read fun ⟨engine, c⟩ hc => .ite (fun _ => preserves_pure _) fun _ => ?_
  refine .bind (update_on fun _ _ => hc.2) fun _ => ?_
  split
  · exact .bind (update_on fun _ h => h) fun _ => tick_on now
  · split
    · exact preserves_pure _
    · next contactId _ =>
      split
      · exact preserves_pure _
      · next current hposition =>
        refine .ite (fun _ => preserves_pure _) fun _ => .ite (fun _ => ?_) fun _ => ?_
        · exact recenter_on contactId (hc.1.down _ _ hposition) _ _ now
        · exact .bind (onEngine_on (single_on (hc.2 (c.aim.clamp_inside _)))) fun _ =>
            .bind (update_on fun _ h => h) fun _ => preserves_pure _

theorem deactivate_on : Preserves (On (I := I) W) deactivate := by
  refine .read fun ⟨engine, c⟩ hc => .bind (update_on fun _ h => h) fun _ => ?_
  have hrest (lifted : Bool) : Preserves (On (I := I) W) (do
      update fun d => { d with
        pendingRecenter := none, adsActive := false, lastReaffirmAt := none, carryX := 0, carryY := 0 }
      return if lifted || c.pendingRecenter.isSome then MouseAimUpdate.deactivated else .ignored) :=
    .bind (update_on fun _ h => h) fun _ => preserves_pure _
  dsimp only
  split
  · exact .ite (fun _ => .bind (onEngine_on (endContact_on _)) fun _ => hrest true)
      fun _ => hrest false
  · exact hrest false

theorem toggle_on (now : ℕ) : Preserves (On (I := I) W) (toggle now) :=
  .read fun _ _ => .ite (fun _ => deactivate_on) fun _ => activate_on now

theorem cancel_on : Preserves (On (I := I) W) cancel := by
  refine .read fun ⟨engine, c⟩ hc => .bind (update_on fun _ h => h) fun _ => ?_
  have hrest (lifted : Bool) : Preserves (On (I := I) W) (do
      update fun d => { d with adsActive := false, lastReaffirmAt := none, carryX := 0, carryY := 0 }
      return lifted || c.pendingRecenter.isSome) :=
    .bind (update_on fun _ h => h) fun _ => preserves_pure _
  dsimp only
  split
  · split
    · next position hposition =>
      exact .bind (onEngine_on (single_on (hc.1.down _ _ hposition))) fun _ => hrest true
    · exact hrest false
  · exact hrest false

end MouseAimController

/-! ### Controls -/

namespace ControlCell

/-- What the control and its aim touch is in `W`. -/
structure Placed (W : Set Point) (cell : ControlCell) : Prop where
  places : cell.layout.places ⊆ W
  region : ∀ c ∈ cell.aimController, c.aim.region.pixels ⊆ W

/-- The control is placed in `W`, and so is the engine. -/
def On (W : Set Point) (t : TouchEngine (Recorder I) × ControlCell) : Prop :=
  t.1.On W ∧ t.2.Placed W

variable {α : Type}

omit [TouchInjector I] in
theorem onEngine_on {m : TouchEngine.EngineM (Recorder I) α} (h : Preserves (TouchEngine.On W) m) :
    Preserves (On W) (onEngine m) :=
  .mapError (h.zoom (fun _ ht => ht.1) fun _ _ ht hs => ⟨hs, ht.2⟩) _

omit [TouchInjector I] in
theorem update_on {f : ControlCell → ControlCell} (h : ∀ cell, cell.Placed W → (f cell).Placed W) :
    Preserves (On (I := I) W) (update f) :=
  preserves_modify fun _ ht => ⟨ht.1, h _ ht.2⟩

theorem applyDirections_on {joystick : VirtualJoystick} (h : joystick.places ⊆ W)
    (directions : DirectionalInput) (now : ℕ) :
    Preserves (On (I := I) W) (applyDirections joystick directions now) :=
  .bind (onEngine_on (joystick.apply_on h directions)) fun _ =>
    .bind (update_on fun _ hcell => ⟨hcell.places, hcell.region⟩) fun _ => preserves_pure _

omit [TouchInjector I] in
theorem pointContactId_on (contact : Option ContactId) :
    Preserves (On (I := I) W) (pointContactId contact) := by
  cases contact with
  | none => exact preserves_throw _
  | some contact => exact preserves_pure _

theorem setHoldBinding_on (contact : ContactId) {point : Point} (h : point ∈ W) (pressed : Bool) :
    Preserves (On (I := I) W) (setHoldBinding contact point pressed) :=
  .read fun _ _ => .ite (fun _ => preserves_pure _) fun _ =>
    .bind (onEngine_on (single_on h)) fun _ => preserves_pure _

theorem tapBinding_on (contact : ContactId) {point : Point} (h : point ∈ W) :
    Preserves (On (I := I) W) (tapBinding contact point) :=
  .bind (onEngine_on (single_on h)) fun _ => onEngine_on (single_on h)

omit [TouchInjector I] in
theorem Placed.point {cell : ControlCell} (h : cell.Placed W) {point : Point}
    (haction : cell.action = .tap point ∨ cell.action = .hold point) : point ∈ W := by
  refine h.places ?_
  unfold ControlLayout.places
  rcases haction with haction | haction <;> rw [show cell.layout.control.action = _ from haction] <;> rfl

omit [TouchInjector I] in
theorem Placed.joystick {cell : ControlCell} (h : cell.Placed W) {joystick : VirtualJoystick}
    {mode : JoystickMode} {reaffirm : Option ℕ}
    (haction : cell.action = .virtualJoystick joystick mode reaffirm) : joystick.places ⊆ W := by
  have hplaces := h.places
  rwa [ControlLayout.places, show cell.layout.control.action = _ from haction] at hplaces

theorem retainDirections_on (now : ℕ) : Preserves (On (I := I) W) (retainDirections now) := by
  refine .read fun ⟨_, cell⟩ h => ?_
  dsimp only
  split
  · next haction =>
    exact .ite (fun _ => preserves_pure _) fun _ => applyDirections_on (h.2.joystick haction) _ _
  · exact preserves_pure _

theorem holdStep_on {cell : ControlCell} (h : cell.Placed W) {point : Point}
    (haction : cell.action = .hold point) (pressed : Bool) :
    Preserves (On (I := I) W) (do
      let contact ← pointContactId cell.layout.pointContact
      let submitted ← setHoldBinding contact point pressed
      update fun cell => { cell with activeBinding := pressed }
      return submitted) :=
  .bind (pointContactId_on _) fun _ => .bind (setHoldBinding_on _ (h.point (.inr haction)) _) fun _ =>
    .bind (update_on fun _ hcell => ⟨hcell.places, hcell.region⟩) fun _ => preserves_pure _

theorem releaseHold_on : Preserves (On (I := I) W) releaseHold := by
  refine .read fun ⟨_, cell⟩ h => ?_
  dsimp only
  split
  · next haction => exact .ite (fun _ => holdStep_on h.2 haction false) fun _ => preserves_pure _
  · exact preserves_pure _

theorem engage_on (now : ℕ) : Preserves (On (I := I) W) (engage now) := by
  refine .read fun ⟨_, cell⟩ h => ?_
  dsimp only
  split
  · next haction => exact .ite (fun _ => holdStep_on h.2 haction true) fun _ => preserves_pure _
  · next haction =>
    exact .ite (fun _ => applyDirections_on (h.2.joystick haction) _ _) fun _ => preserves_pure _
  · exact preserves_pure _

omit [TouchInjector I] in
theorem onAim_on {wanted : ControlCell → MouseAimController → Bool}
    {m : MouseAimController.ControllerM (Recorder I) MouseAimUpdate}
    (hm : Preserves (MouseAimController.On W) m) : Preserves (On W) (onAim wanted m) := by
  refine .read fun ⟨_, cell⟩ h => ?_
  dsimp only
  split
  · next controller hcontroller =>
    refine .ite (fun _ => .bind (.mapError ?_ _) fun _ => preserves_pure _) fun _ => preserves_pure _
    refine hm.zoom (fun t ht => ⟨ht.1, h.2.region _ hcontroller⟩) fun s t ht hs => ⟨hs.1, ht.2.places, ?_⟩
    rintro _ ⟨⟩
    exact hs.2
  · exact preserves_pure _

theorem dispatchKeyboardPress_on (held : HeldInputs) (key : HostKeyName) (now : ℕ) :
    Preserves (On (I := I) W) (dispatchKeyboardPress held key now) := by
  refine .read fun ⟨_, cell⟩ h => ?_
  dsimp only
  split
  · next haction =>
    exact .ite (fun _ => .bind (pointContactId_on _) fun _ =>
      .bind (tapBinding_on _ (h.2.point (.inl haction))) fun _ => preserves_pure _) fun _ =>
        preserves_pure _
  · next haction =>
    exact .ite (fun _ => applyDirections_on (h.2.joystick haction) _ _) fun _ => preserves_pure _
  · exact preserves_pure _

theorem dispatchMousePress_on (held : HeldInputs) (button : HostMouseButton) :
    Preserves (On (I := I) W) (dispatchMousePress held button) := by
  refine .read fun ⟨_, cell⟩ h => .ite (fun _ => preserves_pure _) fun _ => ?_
  split
  · next haction =>
    exact .bind (pointContactId_on _) fun _ =>
      .bind (tapBinding_on _ (h.2.point (.inl haction))) fun _ => preserves_pure _
  · exact preserves_pure _

theorem reaffirmJoystick_on (now : ℕ) : Preserves (On (I := I) W) (reaffirmJoystick now) := by
  refine .read fun ⟨engine, cell⟩ h => ?_
  dsimp only
  split
  · split
    · next position hposition =>
      exact .ite (fun _ => preserves_pure _) fun _ =>
        .bind (onEngine_on (single_on (h.1.down _ _ hposition))) fun _ =>
          .bind (update_on fun _ hcell => ⟨hcell.places, hcell.region⟩) fun _ => preserves_pure _
    · exact preserves_pure _
  · exact preserves_pure _

/-- The same, next to the first error of a suspension. -/
def OnKept (W : Set Point) (t : (TouchEngine (Recorder I) × Option SessionError) × ControlCell) :
    Prop :=
  t.1.1.On W ∧ t.2.Placed W

theorem cancelAim_on : Preserves (OnKept (I := I) W) cancelAim := by
  have honce (controller : MouseAimController) (hregion : controller.aim.region.pixels ⊆ W) :
      Preserves (OnKept (I := I) W) (zoom (ε := SessionError) (fun t => (t.1.1, controller))
        (fun s t => ((s.1, t.1.2), { t.2 with aimController := some s.2 }))
        (attempt MouseAimController.cancel)) := by
    refine MouseAimController.cancel_on.attempt.zoom (fun t ht => ⟨ht.1, hregion⟩)
      fun s t ht hs => ⟨hs.1, ht.2.places, ?_⟩
    rintro _ ⟨⟩
    exact hs.2
  have hkeep (error : TouchEngineError) : Preserves (OnKept (I := I) W)
      (modify fun t => ((t.1.1, Option.or t.1.2 (some (.engine error))), t.2) :
        EStateM SessionError _ PUnit) :=
    preserves_modify fun _ ht => ht
  refine .read fun ⟨_, cell⟩ h => ?_
  dsimp only
  split
  · next controller hcontroller =>
    have hregion := h.2.region _ hcontroller
    refine .bind (honce controller hregion) fun r => ?_
    split
    · exact preserves_pure _
    · refine .bind (hkeep _) fun _ => .read fun ⟨_, cell'⟩ h' => ?_
      refine .bind (honce _ ?_) fun r' => ?_
      · cases hc : cell'.aimController with
        | none => exact hregion
        | some c => exact h'.2.region c hc
      · split
        · exact preserves_pure _
        · exact .bind (hkeep _) fun _ => preserves_pure _
  · exact preserves_pure _

end ControlCell

/-! ### The runtime -/

namespace UnifiedRuntime

/-- The engine and the controls are in `W`, the surface has `resolution`. -/
structure On (W : Set Point) (resolution : Resolution) (rt : UnifiedRuntime (Recorder I)) : Prop where
  engine : rt.engine.On W
  cells : ∀ cell ∈ rt.cells, cell.Placed W
  resolution : rt.setup.resolution = resolution

variable {resolution : Resolution} {α : Type}

omit [TouchInjector I] in
theorem On.withHeld {rt : UnifiedRuntime (Recorder I)} (h : rt.On W resolution) (held : HeldInputs) :
    On W resolution { rt with held := held } := ⟨h.engine, h.cells, h.resolution⟩

omit [TouchInjector I] in
/-- A change of what is held, and of the controls in their places. -/
theorem On.change {rt : UnifiedRuntime (Recorder I)} (h : rt.On W resolution) (held : HeldInputs)
    {f : ControlCell → ControlCell} (hf : ∀ cell, cell.Placed W → (f cell).Placed W) :
    On W resolution { rt with held := held, cells := rt.cells.map f } :=
  ⟨h.engine, List.forall_mem_map.mpr fun cell hcell => hf cell (h.cells cell hcell), h.resolution⟩

omit [TouchInjector I] in
theorem visit_on {f : CellM (Recorder I) Bool} (hf : Preserves (ControlCell.On W) f) :
    Preserves (On W resolution) (visit f) :=
  (preserves_each hf).zoom (fun _ h => ⟨h.engine, h.cells⟩) fun _ _ h hs => ⟨hs.1, hs.2, h.resolution⟩

omit [TouchInjector I] in
theorem onEngine_on {m : TouchEngine.EngineM (Recorder I) α} (h : Preserves (TouchEngine.On W) m) :
    Preserves (On W resolution) (onEngine m) :=
  .mapError (h.zoom (fun _ h => h.engine) fun _ _ h hs => ⟨hs, h.cells, h.resolution⟩) _

omit [TouchInjector I] in
theorem setAds_placed (active : Bool) {cell : ControlCell} (h : cell.Placed W) :
    (cell.setAds active).Placed W := by
  refine ⟨h.places, fun c hc => ?_⟩
  obtain ⟨c₀, hc₀, rfl⟩ := Option.map_eq_some_iff.mp hc
  have := h.region c₀ hc₀
  unfold MouseAimController.setAdsActive
  split <;> exact this

theorem reconcileContinuous_on (now : ℕ) :
    Preserves (On (I := I) W resolution) (reconcileContinuous now) := by
  refine .bind (preserves_modify fun rt h => h.withHeld _) fun _ => .read fun rt _ => ?_
  refine .bind (preserves_modify fun rt h =>
    h.change rt.held fun cell hcell => ⟨hcell.places, hcell.region⟩) fun _ => ?_
  exact .bind (visit_on (ControlCell.retainDirections_on now)) fun _ =>
    .bind (visit_on ControlCell.releaseHold_on) fun _ =>
      .bind (visit_on (ControlCell.engage_on now)) fun _ => preserves_pure _

theorem restoreAim_on (reactivateToggleAim : Bool) (now : ℕ) :
    Preserves (On (I := I) W resolution) (restoreAim reactivateToggleAim now) :=
  .bind (visit_on (ControlCell.onAim_on (MouseAimController.activate_on now))) fun _ =>
    preserves_pure _

theorem setAimEnabled_on (enabled : Bool) (now : ℕ) :
    Preserves (On (I := I) W resolution) (setAimEnabled enabled now) :=
  .ite (fun _ => restoreAim_on true now) fun _ =>
    .bind (visit_on (ControlCell.onAim_on MouseAimController.deactivate_on)) fun _ => preserves_pure _

theorem releaseMouseButtons_on (now : ℕ) :
    Preserves (On (I := I) W resolution) (releaseMouseButtons now) := by
  refine .read fun rt h => .ite (fun _ => ?_) fun _ => preserves_pure _
  exact .bind (preserves_set (h.change _ fun _ => setAds_placed false)) fun _ =>
    .bind (reconcileContinuous_on now) fun _ => preserves_pure _

theorem cursorDown_on {position : Point} (h : position ∈ W) :
    Preserves (On (I := I) W resolution) (cursorDown position) :=
  .read fun _ _ => .ite (fun _ => onEngine_on (single_on h)) fun _ => onEngine_on (single_on h)

theorem cursorMove_on {position : Point} (h : position ∈ W) :
    Preserves (On (I := I) W resolution) (cursorMove position) :=
  .read fun _ _ => .ite (fun _ => onEngine_on (single_on h)) fun _ => preserves_pure _

theorem cursorUp_on : Preserves (On (I := I) W resolution) cursorUp :=
  .read fun _ _ => .ite (fun _ => onEngine_on (endContact_on _)) fun _ => preserves_pure _

theorem handleKey_on (key : HostKeyName) (pressed : Bool) (now : ℕ) :
    Preserves (On (I := I) W resolution) (handleKey key pressed now) :=
  .bind (preserves_modify fun _ h => h.withHeld _) fun _ =>
    .bind (reconcileContinuous_on now) fun _ => .read fun rt _ => .ite (fun _ => preserves_pure _)
      fun _ => .bind (visit_on (ControlCell.onAim_on (MouseAimController.toggle_on now))) fun _ =>
        .bind (visit_on (ControlCell.dispatchKeyboardPress_on rt.held key now)) fun _ => preserves_pure _

theorem handleButton_on (button : HostMouseButton) (pressed : Bool) (now : ℕ) :
    Preserves (On (I := I) W resolution) (handleButton button pressed now) := by
  refine .bind (preserves_modify fun rt h => ?_) fun _ => .bind (reconcileContinuous_on now) fun _ =>
    .read fun rt _ => .ite (fun _ => preserves_pure _) fun _ =>
      .bind (visit_on (ControlCell.dispatchMousePress_on rt.held button)) fun _ => preserves_pure _
  unfold holdButton
  split
  · exact h.change _ fun _ => setAds_placed pressed
  · exact h.withHeld _

theorem handleKeyboard_on (event : HostKeyEvent) (now : ℕ) :
    Preserves (On (I := I) W resolution) (handleKeyboard event now) := by
  unfold handleKeyboard
  split
  · exact preserves_pure _
  · exact preserves_pure _
  · exact handleKey_on _ true now
  · exact handleKey_on _ false now

theorem handleMouse_on (event : MouseEvent) (now : ℕ) :
    Preserves (On (I := I) W resolution) (handleMouse event now) := by
  unfold handleMouse
  split
  · exact .ite (fun _ => visit_on (ControlCell.onAim_on (MouseAimController.moveBy_on _ now))) fun _ =>
      preserves_pure _
  · exact preserves_pure _
  · exact handleButton_on _ true now
  · exact handleButton_on _ false now
  · exact preserves_pure _

theorem start_on (now : ℕ) : Preserves (On (I := I) W resolution) (start now) :=
  .bind (visit_on (ControlCell.onAim_on (MouseAimController.activate_on now))) fun _ => preserves_pure _

theorem tick_on (now : ℕ) : Preserves (On (I := I) W resolution) (tick now) :=
  .bind (visit_on (ControlCell.onAim_on (MouseAimController.tick_on now))) fun _ =>
    .bind (visit_on (ControlCell.reaffirmJoystick_on now)) fun _ => preserves_pure _

theorem suspend_on : Preserves (On (I := I) W resolution) suspend := by
  have hcancel : Preserves (fun t : (TouchEngine (Recorder I) × Option SessionError) ×
      List ControlCell => t.1.1.On W ∧ ∀ cell ∈ t.2, cell.Placed W) (do
        let _ ← each ControlCell.cancelAim
        let ((_, failure), _) ← get
        return failure) :=
    .bind (@preserves_each _ (TouchEngine (Recorder I) × Option SessionError) _ (fun t => t.1.On W)
      _ _ ControlCell.cancelAim_on) fun _ => .read fun _ _ => preserves_pure _
  refine .bind (hcancel.zoom (fun _ h => ⟨h.engine, h.cells⟩) fun _ _ h hs =>
    ⟨hs.1, hs.2, h.resolution⟩) fun failure => ?_
  refine .bind (onEngine_on TouchEngine.cancelAll_on).attempt fun cancelled => ?_
  refine .bind (preserves_modify fun rt h =>
    h.change _ fun _ hcell => ⟨hcell.places, hcell.region⟩) fun _ => ?_
  split
  · exact preserves_pure _
  · exact preserves_throw _

/-- The positions of the cursor calls are in `W`. -/
def RuntimeCall.CursorIn (W : Set Point) : RuntimeCall → Prop
  | .cursorDown position | .cursorMove position => position ∈ W
  | _ => True

/-- **Every call stays in the set** of the places, if the cursor does. -/
theorem call_on (c : RuntimeCall) (hc : RuntimeCall.CursorIn W c) :
    Preserves (On (I := I) W resolution) (call c) := by
  cases c with
  | start now => exact start_on now
  | handleKeyboard event now => exact .bind (handleKeyboard_on event now) fun _ => preserves_pure _
  | handleMouse event now => exact .bind (handleMouse_on event now) fun _ => preserves_pure _
  | tick now => exact tick_on now
  | releaseMouseButtons now => exact releaseMouseButtons_on now
  | restoreAim reactivate now => exact restoreAim_on reactivate now
  | setAimEnabled enabled now => exact setAimEnabled_on enabled now
  | cursorDown position => exact cursorDown_on hc
  | cursorMove position => exact cursorMove_on hc
  | cursorUp => exact cursorUp_on
  | suspend => exact suspend_on

/-- The overlay points at a pixel of the surface. -/
theorem cursorPoint_inside {x y : ℚ} {surfaceWidth surfaceHeight : ℕ} {point : Point}
    (h : cursorPoint resolution x y surfaceWidth surfaceHeight = some point) :
    point.Inside resolution := by
  unfold cursorPoint at h
  split at h
  · cases h
  · next hne =>
    push Not at hne
    obtain ⟨-, -, hw, hh⟩ := hne
    obtain rfl := Option.some.inj h
    simp only [Point.Inside]
    omega

end UnifiedRuntime

/-! ### The event loop -/

namespace VirtualCursor

/-- The cursor is over the surface. -/
structure Inside (cursor : VirtualCursor) (resolution : Resolution) : Prop where
  x_nonneg : 0 ≤ cursor.x
  x_lt : cursor.x < resolution.width
  y_nonneg : 0 ≤ cursor.y
  y_lt : cursor.y < resolution.height

variable {cursor : VirtualCursor} {resolution : Resolution}

theorem asUnsigned_floor_lt {q : ℚ} {limit size : ℕ} (hq : 0 ≤ q) (h : q < size) :
    asUnsigned limit ⌊q⌋ < size := by
  have hfloor : ⌊q⌋ < (size : ℤ) := Int.floor_lt.mpr (by exact_mod_cast h)
  have hnonneg : 0 ≤ ⌊q⌋ := Int.floor_nonneg.mpr hq
  unfold asUnsigned
  omega

theorem Inside.point (h : cursor.Inside resolution) : cursor.point.Inside resolution :=
  ⟨asUnsigned_floor_lt h.x_nonneg h.x_lt, asUnsigned_floor_lt h.y_nonneg h.y_lt⟩

theorem clampRat_inside {size : ℕ} (hsize : size ≠ 0) (q : ℚ) :
    0 ≤ clampRat q 0 (size - 1 : ℕ) ∧ clampRat q 0 (size - 1 : ℕ) < size := by
  have hle : ((size - 1 : ℕ) : ℚ) < size := by exact_mod_cast (by omega : size - 1 < size)
  exact ⟨clampRat_nonneg (by positivity), (clampRat_le (by positivity)).trans_lt hle⟩

/-- A moved cursor is over the surface, wherever it was. -/
theorem moveBy_inside (cursor : VirtualCursor) (dx dy : ℤ) (hw : resolution.width ≠ 0)
    (hh : resolution.height ≠ 0) : (cursor.moveBy dx dy resolution).Inside resolution :=
  have hx := clampRat_inside hw (cursor.x + dx)
  have hy := clampRat_inside hh (cursor.y + dy)
  ⟨hx.1, hx.2, hy.1, hy.2⟩

theorem centered_inside (hw : resolution.width ≠ 0) (hh : resolution.height ≠ 0) :
    (centered resolution).Inside resolution := by
  have hw : (0 : ℚ) < resolution.width := by positivity
  have hh : (0 : ℚ) < resolution.height := by positivity
  exact ⟨by simp only [centered]; positivity, by simp only [centered]; linarith,
    by simp only [centered]; positivity, by simp only [centered]; linarith⟩

end VirtualCursor

namespace EventLoop

/-- The runtime and the virtual cursor are on the surface. -/
structure On (resolution : Resolution) (loop : EventLoop (Recorder I)) : Prop where
  runtime : loop.runtime.On { p | p.Inside resolution } resolution
  cursor : loop.virtualCursor.Inside resolution

variable {resolution : Resolution} {options : LoopOptions} {moment : Moment} {α : Type}

omit [TouchInjector I] in
theorem onRuntime_on {m : RuntimeM (Recorder I) α}
    (h : Preserves (UnifiedRuntime.On { p | p.Inside resolution } resolution) m) :
    Preserves (On resolution) (onRuntime m) :=
  .mapError (h.zoom (fun _ h => h.runtime) fun _ _ h hrt => ⟨hrt, h.cursor⟩) _

omit [TouchInjector I] in
theorem device_on (reply : Option String) : Preserves (On (I := I) resolution) (device reply) := by
  cases reply with
  | none => exact preserves_pure _
  | some message => exact preserves_throw _

omit [TouchInjector I] in
theorem overlayRequest_on (replies : DeviceReplies) :
    Preserves (On (I := I) resolution) (overlayRequest options replies) :=
  .ite (fun _ => device_on _) fun _ => preserves_pure _

theorem applyInputMode_on (mode : InputMode) (reactivateToggleAim : Bool) :
    Preserves (On (I := I) resolution) (applyInputMode options moment mode reactivateToggleAim) := by
  cases mode with
  | aim =>
    exact .bind (device_on _) fun _ => .bind (overlayRequest_on _) fun _ =>
      onRuntime_on (UnifiedRuntime.restoreAim_on _ _)
  | ui =>
    exact .bind (onRuntime_on (UnifiedRuntime.setAimEnabled_on _ _)) fun _ =>
      .bind (onRuntime_on (UnifiedRuntime.releaseMouseButtons_on _)) fun _ =>
        .bind (device_on _) fun _ => overlayRequest_on _

theorem release_on : Preserves (On (I := I) resolution) (release options moment) :=
  .bind (preserves_modify fun _ h => ⟨h.runtime, h.cursor⟩) fun _ =>
    .bind (device_on _) fun _ => .bind (device_on _) fun _ => .bind (overlayRequest_on _) fun _ =>
      onRuntime_on UnifiedRuntime.suspend_on

theorem capture_on : Preserves (On (I := I) resolution) (capture options moment) :=
  .bind (device_on _) fun _ => .read fun _ _ => .bind (applyInputMode_on _ _) fun _ =>
    preserves_modify fun _ h => ⟨h.runtime, h.cursor⟩

theorem focusChanged_on (focused : Bool) :
    Preserves (On (I := I) resolution) (focusChanged options moment focused) := by
  refine .read fun loop h => .ite (fun _ => ?_) fun _ => preserves_set ⟨h.runtime, h.cursor⟩
  refine .bind (preserves_set ⟨h.runtime, h.cursor⟩) fun _ => .ite (fun _ => ?_) fun _ => ?_
  · exact .ite (fun _ => capture_on) fun _ => preserves_pure _
  · exact .ite (fun _ => release_on) fun _ => preserves_pure _

theorem focusUnavailable_on : Preserves (On (I := I) resolution) (focusUnavailable options moment) :=
  .read fun _ h => .ite (fun _ => .bind (preserves_set ⟨h.runtime, h.cursor⟩) fun _ =>
    .ite (fun _ => release_on) fun _ => preserves_pure _) fun _ => preserves_pure _

omit [TouchInjector I] in
theorem focusFallback_on (elapsed : Bool) :
    Preserves (On (I := I) resolution) (focusFallback elapsed) :=
  preserves_modify fun loop h => by
    split
    · exact ⟨h.runtime, h.cursor⟩
    · exact h

theorem releaseHotkey_on : Preserves (On (I := I) resolution) (releaseHotkey options moment) :=
  .bind (preserves_modify fun _ h => ⟨h.runtime, h.cursor⟩) fun _ => .read fun _ h =>
    .ite (fun _ => .bind (preserves_set ⟨h.runtime, h.cursor⟩) fun _ => release_on) fun _ =>
      .ite (fun _ => .bind capture_on fun _ => preserves_modify fun _ h => ⟨h.runtime, h.cursor⟩)
        fun _ => preserves_pure _

theorem key_on (event : HostKeyEvent) :
    Preserves (On (I := I) resolution) (key options moment event) := by
  refine .ite (fun _ => .ite (fun _ => releaseHotkey_on) fun _ => preserves_pure _) fun _ => ?_
  refine .read fun _ h => .ite (fun _ => ?_) fun _ => preserves_pure _
  refine .bind (preserves_set ⟨h.runtime, h.cursor⟩) fun _ => .ite (fun _ => preserves_throw _)
    fun _ => .ite (fun _ => preserves_throw _) fun _ => ?_
  exact .bind (onRuntime_on (UnifiedRuntime.handleKeyboard_on _ _)) fun _ => preserves_pure _

theorem syncMode_on : Preserves (On (I := I) resolution) (syncMode options moment) :=
  .read fun _ _ => .ite (fun _ => .bind (applyInputMode_on _ _) fun _ =>
    preserves_modify fun _ h => ⟨h.runtime, h.cursor⟩) fun _ => preserves_pure _

theorem driveCursor_on (hw : resolution.width ≠ 0) (hh : resolution.height ≠ 0) (event : MouseEvent) :
    Preserves (On (I := I) resolution) (driveCursor event) := by
  unfold driveCursor
  split
  · refine .bind (preserves_modify fun loop h => ⟨h.runtime, ?_⟩) fun _ => .read fun loop h => ?_
    · rw [h.runtime.resolution]
      exact VirtualCursor.moveBy_inside _ _ _ hw hh
    · exact .ite (fun _ => onRuntime_on (UnifiedRuntime.cursorMove_on h.cursor.point)) fun _ =>
        preserves_pure _
  · refine .bind (preserves_modify fun _ h => ⟨h.runtime, h.cursor.1, h.cursor.2, h.cursor.3, h.cursor.4⟩)
      fun _ => .read fun loop h => ?_
    exact onRuntime_on (UnifiedRuntime.cursorDown_on h.cursor.point)
  · exact .bind
      (preserves_modify fun _ h => ⟨h.runtime, h.cursor.1, h.cursor.2, h.cursor.3, h.cursor.4⟩)
      fun _ => onRuntime_on UnifiedRuntime.cursorUp_on
  · exact preserves_pure _
  · exact preserves_pure _

theorem mouse_on (hw : resolution.width ≠ 0) (hh : resolution.height ≠ 0) (event : MouseEvent) :
    Preserves (On (I := I) resolution) (mouse moment event) := by
  refine .read fun _ _ => .ite (fun _ => ?_) fun _ => preserves_pure _
  split
  · exact .bind (onRuntime_on (UnifiedRuntime.handleMouse_on _ _)) fun _ => preserves_pure _
  · exact driveCursor_on hw hh event

theorem cursor_on (event : CursorEvent) : Preserves (On (I := I) resolution) (cursor event) := by
  refine .read fun loop h => .ite (fun _ => ?_) fun _ => preserves_pure _
  have hinside {x y surfaceWidth surfaceHeight point} (hpoint : UnifiedRuntime.cursorPoint
      loop.runtime.setup.resolution x y surfaceWidth surfaceHeight = some point) :
      point.Inside resolution :=
    h.runtime.resolution ▸ UnifiedRuntime.cursorPoint_inside hpoint
  split
  · split
    · next hpoint => exact onRuntime_on (UnifiedRuntime.cursorMove_on (hinside hpoint))
    · exact preserves_pure _
  · split
    · next hpoint =>
      exact onRuntime_on (.ite (fun _ => UnifiedRuntime.cursorDown_on (hinside hpoint))
        fun _ => UnifiedRuntime.cursorUp_on)
    · exact preserves_pure _

/-- **Every step keeps the loop on the surface.** -/
theorem step_on (hw : resolution.width ≠ 0) (hh : resolution.height ≠ 0)
    (e : LoopEvent × Moment) : Preserves (On (I := I) resolution) (step options e) := by
  obtain ⟨event, moment⟩ := e
  cases event with
  | focus event =>
    cases event with
    | changed focused => exact .ite (fun _ => focusChanged_on focused) fun _ => preserves_pure _
    | unavailable => exact .ite (fun _ => focusUnavailable_on) fun _ => preserves_pure _
  | focusFallback elapsed => exact .ite (fun _ => focusFallback_on elapsed) fun _ => preserves_pure _
  | key event => exact key_on event
  | syncMode => exact syncMode_on
  | mouse event => exact mouse_on hw hh event
  | cursor event => exact cursor_on event
  | readersFailed message => exact preserves_throw _
  | tick =>
    exact .read fun _ _ => .ite (fun _ => onRuntime_on (UnifiedRuntime.tick_on _)) fun _ =>
      preserves_pure _

theorem enter_on : Preserves (On (I := I) resolution) (enter options moment) :=
  .read fun _ _ => .ite (fun _ => .bind (onRuntime_on (UnifiedRuntime.start_on _)) fun _ =>
    .ite (fun _ => applyInputMode_on _ _) fun _ => preserves_pure _) fun _ => preserves_pure _

theorem runEventLoop_on (hw : resolution.width ≠ 0) (hh : resolution.height ≠ 0)
    (steps : List (LoopEvent × Moment)) :
    Preserves (On (I := I) resolution) (runEventLoop options moment steps) :=
  .bind enter_on fun _ => preserves_runAll fun e _ => step_on hw hh e

end EventLoop

/-! ### Sessions -/

namespace UnifiedRuntime

/-- A pixel that the cursor of a session can be at. -/
inductive CursorPosition (resolution : Resolution) : Point → Prop
  | overlay (x y : ℚ) (surfaceWidth surfaceHeight : ℕ) (point : Point)
      (h : cursorPoint resolution x y surfaceWidth surfaceHeight = some point) :
      CursorPosition resolution point
  | centered : CursorPosition resolution (VirtualCursor.centered resolution).point
  | moved (cursor : VirtualCursor) (dx dy : ℤ) :
      CursorPosition resolution (cursor.moveBy dx dy resolution).point

variable {profile : ProfileV2} {resolution : Resolution} {plan : RuntimeControlPlan} {injector : I}
  {rt₀ : UnifiedRuntime (Recorder I)}

theorem CursorPosition.inside (hw : resolution.width ≠ 0) (hh : resolution.height ≠ 0) {p : Point}
    (h : CursorPosition resolution p) : p.Inside resolution := by
  cases h with
  | overlay x y surfaceWidth surfaceHeight point hpoint => exact cursorPoint_inside hpoint
  | centered => exact (VirtualCursor.centered_inside hw hh).point
  | moved cursor dx dy => exact (cursor.moveBy_inside dx dy hw hh).point

omit [TouchInjector I] in
/-- What an accepted profile touches is on the surface. -/
theorem new_on (hplan : plan.Realizes profile resolution)
    (hbuilt : Built plan (Recorder.new injector) rt₀) (hw : resolution.width ≠ 0)
    (hh : resolution.height ≠ 0) : rt₀.On { p | p.Inside resolution } resolution where
  engine := by
    rw [hbuilt.engine]
    exact ⟨fun c p hp => by simp [TouchEngine.new] at hp, fun _ hframe => by cases hframe⟩
  resolution := hbuilt.resolution.trans hplan.resolution_eq
  cells cell hcell := by
    obtain ⟨control, hcontrol, hcellb⟩ := forall₂_exists_left hbuilt.cells hcell
    obtain ⟨binding, -, hreal⟩ := forall₂_exists_left hplan.controls hcontrol
    have hplaces : cell.layout.places ⊆ { p | p.Inside resolution } :=
      (hcellb.control_eq ▸ hreal).places_inside hw hh
    refine ⟨hplaces, fun c hc => ?_⟩
    by_cases haim : ∃ aim settings, control.action = .mouseAim aim settings
    · obtain ⟨aim, settings, haction⟩ := haim
      obtain ⟨c', hnew, hc', -⟩ := hcellb.aim aim settings haction
      obtain rfl : c' = c := Option.some.inj (hc'.symm.trans hc)
      obtain ⟨-, rfl, -⟩ := @MouseAimController.new_agrees _ _ _ hnew (fun _ => none) fun _ _ => rfl
      rwa [ControlLayout.places, hcellb.control_eq, haction] at hplaces
    · rw [(hcellb.noAim fun aim settings haction => haim ⟨aim, settings, haction⟩).1] at hc
      cases hc

/-- **Every touch is on the surface**: whatever a session of an accepted profile is called for,
and whatever its loop goes through, also when it fails, each event it submits is at a pixel of
the surface. -/
theorem touches_stay_inside (hplan : RuntimeControlPlan.fromProfileV2 profile resolution = .ok plan)
    (hw : resolution.width ≠ 0) (hh : resolution.height ≠ 0)
    (hnew : new plan (Recorder.new injector) = .ok rt₀) :
    (∀ calls : List RuntimeCall,
      (∀ c ∈ calls, RuntimeCall.CursorIn { p | CursorPosition resolution p } c) →
      ∀ frame ∈ (after (runAll call calls) rt₀).engine.injector.submitted, ∀ e ∈ frame.events,
        e.position.x < resolution.width ∧ e.position.y < resolution.height) ∧
    ∀ options moment focused steps, ∀ frame ∈ (after (EventLoop.runEventLoop options moment steps)
        (.new options focused rt₀)).runtime.engine.injector.submitted, ∀ e ∈ frame.events,
      e.position.x < resolution.width ∧ e.position.y < resolution.height := by
  have hon := new_on (fromProfileV2_realizes hplan) (new_built hnew) hw hh
  refine ⟨fun calls hcalls => ?_, fun options moment focused steps => ?_⟩
  · have hrun : Preserves (On { p | p.Inside resolution } resolution) (runAll (call (I := Recorder I)) calls) := by
      refine preserves_runAll fun c hc => call_on c ?_
      have hcursor := hcalls c hc
      cases c with
      | cursorDown | cursorMove => exact CursorPosition.inside hw hh hcursor
      | _ => trivial
    exact (hrun.after hon).engine.submitted
  · have hloop : (EventLoop.new options focused rt₀).On resolution :=
      ⟨hon, by
        rw [EventLoop.new, hon.resolution]
        exact VirtualCursor.centered_inside hw hh⟩
    exact ((EventLoop.runEventLoop_on hw hh steps).after hloop).runtime.engine.submitted

/-- A joystick, a button and the overlay of `shooter` put contacts down. -/
theorem shooter_stays_inside : ∃ plan rt₀,
    RuntimeControlPlan.fromProfileV2 shooter ⟨1280, 720⟩ = .ok plan ∧
      new plan (Recorder.new ()) = .ok rt₀ ∧
        ∃ frames, (after (runAll call [.handleKeyboard ⟨.named .w, .pressed⟩ 0,
            .handleMouse (.button .left .pressed) 1, .cursorDown ⟨1279, 719⟩])
          rt₀).engine.injector.submitted = frames ∧ frames.length = 3 ∧
            ∀ frame ∈ frames, ∀ e ∈ frame.events, e.position.x < 1280 ∧ e.position.y < 720 := by
  obtain ⟨rt₀, hlaunch, hrun⟩ := (Option.any_eq_true _ _).mp (by decide +kernel :
    (launch shooter ⟨1280, 720⟩ (Recorder.new ())).any (fun rt₀ => decide
      ((after (runAll call [.handleKeyboard ⟨.named .w, .pressed⟩ 0,
        .handleMouse (.button .left .pressed) 1, .cursorDown ⟨1279, 719⟩])
          rt₀).engine.injector.submitted.length = 3)) = true)
  obtain ⟨plan, hplan, hnew⟩ := exists_of_launch hlaunch
  refine ⟨plan, rt₀, hplan, hnew, _, rfl, of_decide_eq_true hrun, ?_⟩
  refine (touches_stay_inside hplan (by decide) (by decide) hnew).1 _ ?_
  have hcorner : cursorPoint ⟨1280, 720⟩ 1919 1079 1920 1080 = some ⟨1279, 719⟩ := by decide +kernel
  simpa [RuntimeCall.CursorIn] using CursorPosition.overlay 1919 1079 1920 1080 _ hcorner

end UnifiedRuntime

end On

end Wroid
