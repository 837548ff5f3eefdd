import Wroid.Session.Start

/-!
# Which aims are active

What each call of the runtime does to the aims: which of them are active afterwards.  These
facts need no invariant of the engine: a call either fails or leaves every aim as said.

## Main definitions

* `AimState`, `UnifiedRuntime.aims` — the aims of a runtime, and whether each is active.
* `UnifiedRuntime.AimsStep` — what a call does to the aims.

## Main results

* `handleKeyboard_aims` — **a press toggles the aims of its key**.
* `restoreAim_aims`, `suspend_aims` and the others — what each call does to the aims.
-/

set_option linter.constructorNameAsVariable false

namespace Wroid

open Lib

/-- An aim: the key that toggles it, and whether it is active. -/
structure AimState where
  toggleKey : Option HostKeyName
  active : Bool
  deriving DecidableEq, Repr

namespace AimState

/-- The key `key` was pressed. -/
def toggled (key : HostKeyName) (aim : AimState) : AimState :=
  { aim with active := if aim.toggleKey = some key then !aim.active else aim.active }

/-- The aims without a toggle key were started, and the others too if asked for. -/
def restored (reactivate : Bool) (aim : AimState) : AimState :=
  { aim with active := aim.active || aim.toggleKey.isNone || reactivate }

def stopped (aim : AimState) : AimState := { aim with active := false }

end AimState

/-! ### The controller -/

namespace MouseAimController

variable {I : Type} [TouchInjector I] {eng : TouchEngine I} {c : MouseAimController}

/-- An operation left the settings, and made the controller active or not. -/
def Became (c : MouseAimController) (active : Bool) (t : TouchEngine I × MouseAimController) :
    Prop :=
  t.2.isActive = active ∧ t.2.settings = c.settings

theorem activate_became (now : ℕ) :
    wp (activate now) (fun _ t => Became c true t) (fun _ _ => True) (eng, c) := by
  simp only [activate, wp_bind, wp_get, wp_ite, wp_pure, wp_onEngine, wp_update]
  split
  · next hactive => exact ⟨hactive, rfl⟩
  · exact wp_mono wp_true (fun _ _ _ => ⟨rfl, rfl⟩) fun _ _ _ => trivial

theorem deactivate_became :
    wp deactivate (fun _ t => Became c false t) (fun _ _ => True) (eng, c) := by
  simp only [deactivate, wp_bind, wp_get, wp_update]
  split
  · simp only [wp_ite, wp_bind, wp_onEngine, wp_pure]
    split
    · exact wp_mono wp_true (fun _ _ _ => ⟨rfl, rfl⟩) fun _ _ _ => trivial
    · exact ⟨rfl, rfl⟩
  · exact ⟨rfl, rfl⟩

theorem toggle_became (now : ℕ) :
    wp (toggle now) (fun _ t => Became c (!c.isActive) t) (fun _ _ => True) (eng, c) := by
  simp only [toggle, wp_bind, wp_get, wp_ite]
  split
  · next hactive =>
    rw [hactive]
    exact deactivate_became
  · next hidle => simpa [hidle] using activate_became now

theorem applyResidual_became (contactId : ContactId) (dx dy : ℤ) :
    wp (applyResidual contactId dx dy) (fun _ t => Became c c.isActive t) (fun _ _ => True)
      (eng, c) := by
  simp only [applyResidual, wp_bind, wp_get, wp_ite, wp_pure, wp_onEngine]
  split
  · exact wp_mono wp_true (fun _ _ _ => ⟨rfl, rfl⟩) fun _ _ _ => trivial
  · exact ⟨rfl, rfl⟩

theorem tick_became (now : ℕ) :
    wp (tick now) (fun _ t => Became c c.isActive t) (fun _ _ => True) (eng, c) := by
  simp only [tick, wp_bind, wp_get]
  split
  · next pending hpending =>
    simp only [wp_ite, wp_pure, wp_bind, wp_onEngine, wp_update]
    split
    · exact ⟨rfl, rfl⟩
    · refine wp_mono wp_true (fun _ e _ => ?_) fun _ _ _ => trivial
      refine wp_mono (applyResidual_became _ _ _) (fun _ t ht => ?_) fun _ _ _ => trivial
      exact ⟨ht.1.trans (by simp [isActive, hpending]), ht.2⟩
  · split
    · simp only [wp_ite, wp_pure]
      split
      · exact ⟨rfl, rfl⟩
      · split
        · exact ⟨rfl, rfl⟩
        · simp only [wp_bind, wp_onEngine, wp_update, wp_pure]
          exact wp_mono wp_true (fun _ _ _ => ⟨rfl, rfl⟩) fun _ _ _ => trivial
    · exact ⟨rfl, rfl⟩

theorem recenter_became (contactId : ContactId) (position : Point) (dx dy : ℤ) (now : ℕ) :
    wp (recenter contactId position dx dy now) (fun _ t => Became c true t) (fun _ _ => True)
      (eng, c) := by
  simp only [recenter, wp_bind, wp_get, wp_ite, wp_onEngine, wp_update, wp_pure]
  split
  · refine wp_mono wp_true (fun _ e _ => ?_) fun _ _ _ => trivial
    exact wp_mono (applyResidual_became _ _ _) (fun _ t ht => ht) fun _ _ _ => trivial
  · exact wp_mono wp_true (fun _ _ _ => ⟨by simp [isActive], rfl⟩) fun _ _ _ => trivial

theorem moveBy_became (delta : MouseAimDelta) (now : ℕ) :
    wp (moveBy delta now) (fun _ t => Became c c.isActive t) (fun _ _ => True) (eng, c) := by
  simp only [moveBy, wp_bind, wp_get, wp_ite, wp_pure]
  split
  · exact ⟨rfl, rfl⟩
  simp only [wp_update]
  generalize hscaled : (c.scaledDelta delta).2 = scaled
  obtain ⟨x, y, rfl⟩ : ∃ x y, scaled = { c with carryX := x, carryY := y } :=
    ⟨_, _, hscaled ▸ c.scaledDelta_fields delta⟩
  split
  · next pending hpending =>
    simp only [wp_bind, wp_update]
    refine wp_mono (tick_became now) (fun _ t ht => ?_) fun _ _ _ => trivial
    exact ⟨ht.1.trans (by simp [isActive, hpending]), ht.2⟩
  · split
    · exact ⟨rfl, rfl⟩
    · next contactId hcontact =>
      split
      · exact ⟨rfl, rfl⟩
      · simp only [wp_ite, wp_pure, wp_bind, wp_onEngine, wp_update]
        split
        · exact ⟨rfl, rfl⟩
        split
        · refine wp_mono (recenter_became _ _ _ _ _) (fun _ t ht => ?_) fun _ _ _ => trivial
          exact ⟨ht.1.trans (by simp [isActive, hcontact]), ht.2⟩
        · exact wp_mono wp_true (fun _ _ _ => ⟨rfl, rfl⟩) fun _ _ _ => trivial

/-- A cancelled controller is not active, even when the engine refused. -/
theorem cancel_became : wp cancel (fun _ t => Became c false t) (fun _ t => Became c false t)
    (eng, c) := by
  have hengine : ∀ (d : MouseAimController) (m : TouchEngine.EngineM I Unit)
      (Q : Unit → TouchEngine I × MouseAimController → Prop)
      (R : TouchEngineError → TouchEngine I × MouseAimController → Prop),
      (∀ e, Q () (e, d)) → (∀ err e, R err (e, d)) → wp (onEngine m) Q R (eng, d) := by
    intro d m Q R hQ hR
    rw [wp_onEngine]
    exact wp_mono wp_true (fun _ e _ => hQ e) fun err e _ => hR err e
  simp only [cancel, wp_bind, wp_get, wp_update]
  split
  · split
    · simp only [wp_bind, wp_pure]
      exact hengine _ _ _ _ (fun _ => ⟨rfl, rfl⟩) fun _ _ => ⟨rfl, rfl⟩
    · exact ⟨rfl, rfl⟩
  · exact ⟨rfl, rfl⟩

end MouseAimController

/-! ### The controls -/

namespace ControlCell

variable {I : Type}

/-- The aim of a control, if it has one. -/
def aimState (cell : ControlCell) : Option AimState :=
  cell.aimController.map fun c => ⟨cell.layout.aimToggleKey, c.isActive⟩

/-- The control knows the toggle key of its aim. -/
def AimLinked (cell : ControlCell) : Prop :=
  ∀ c ∈ cell.aimController,
    c.settings.toggleKey.map HostKeyName.parse = cell.layout.aimToggleKey.map some

/-- The aim has a toggle key exactly when the control does. -/
theorem AimLinked.isNone_eq {cell : ControlCell} (h : cell.AimLinked) {c : MouseAimController}
    (hc : cell.aimController = some c) :
    c.settings.toggleKey.isNone = cell.layout.aimToggleKey.isNone := by
  simpa using congrArg Option.isNone (h c hc)

/-- A visit changed the aim of the control by `f`. -/
structure AimEffect (f : AimState → AimState) (cell cell' : ControlCell) : Prop where
  linked : cell'.AimLinked
  aim : cell'.aimState = cell.aimState.map f

/-- What keeps the layout and the aim controller of a control keeps its aim. -/
theorem AimLinked.unchanged {cell cell' : ControlCell} (h : cell.AimLinked)
    (hlayout : cell'.layout = cell.layout) (haim : cell'.aimController = cell.aimController) :
    AimEffect id cell cell' := by
  refine ⟨?_, ?_⟩
  · unfold AimLinked
    rw [hlayout, haim]
    exact h
  · rw [aimState, aimState, hlayout, haim, Option.map_id_fun, id]

theorem onAim_aim {wanted : ControlCell → MouseAimController → Bool}
    {m : MouseAimController.ControllerM I MouseAimUpdate} {f : AimState → AimState}
    {active : MouseAimController → Bool}
    (hm : ∀ eng c, wp m (fun _ t => c.Became (active c) t) (fun _ _ => True) (eng, c))
    {eng : TouchEngine I} {cell : ControlCell}
    (hf : ∀ c, cell.aimController = some c →
      f ⟨cell.layout.aimToggleKey, c.isActive⟩ =
        ⟨cell.layout.aimToggleKey, if wanted cell c then active c else c.isActive⟩)
    (h : cell.AimLinked) :
    wp (onAim wanted m) (fun _ t => AimEffect f cell t.2) (fun _ _ => True) (eng, cell) := by
  simp only [onAim, wp_bind, wp_get]
  split
  · next c hc =>
    have hf := hf c hc
    rw [wp_ite]
    split
    · next hwanted =>
      simp only [wp_bind, wp_pure, wp_onController]
      refine wp_mono (hm eng c) ?_ fun _ _ _ => trivial
      rintro - ⟨e, c'⟩ ⟨hactive, hsettings⟩
      have hactive : c'.isActive = active c := hactive
      have hsettings : c'.settings = c.settings := hsettings
      refine ⟨?_, ?_⟩
      · rintro _ ⟨⟩
        exact hsettings ▸ h c hc
      · simp [aimState, hc, hf, hwanted, hactive]
    · next hunwanted => exact ⟨h, by simp [aimState, hc, hf, hunwanted]⟩
  · next hnone => exact ⟨h, by simp [aimState, hnone]⟩

/-- A computation that leaves the layout and the aim controller of its control alone. -/
def Inert {α : Type} (m : CellM I α) : Prop :=
  ∀ t, wp m (fun _ t' => t'.2.layout = t.2.layout ∧ t'.2.aimController = t.2.aimController)
    (fun _ _ => True) t

namespace Inert

variable {α β : Type}

theorem pure (a : α) : Inert (Pure.pure a : CellM I α) := fun _ => ⟨rfl, rfl⟩

theorem get : Inert (MonadState.get : CellM I _) := fun _ => ⟨rfl, rfl⟩

theorem throw (e : SessionError) : Inert (MonadExcept.throw e : CellM I α) := fun _ => trivial

theorem bind {m : CellM I β} {f : β → CellM I α} (hm : Inert m) (hf : ∀ b, Inert (f b)) :
    Inert (m >>= f) := by
  intro t
  rw [wp_bind]
  refine wp_mono (hm t) (fun b t₁ h₁ => ?_) fun _ _ _ => trivial
  exact wp_mono (hf b t₁) (fun _ _ h₂ => ⟨h₂.1.trans h₁.1, h₂.2.trans h₁.2⟩) fun _ _ _ => trivial

theorem onEngine (m : TouchEngine.EngineM I α) : Inert (ControlCell.onEngine m) := by
  intro t
  rw [wp_onEngine]
  exact wp_mono wp_true (fun _ _ _ => ⟨rfl, rfl⟩) fun _ _ _ => trivial

theorem update {f : ControlCell → ControlCell} (hlayout : ∀ cell, (f cell).layout = cell.layout)
    (haim : ∀ cell, (f cell).aimController = cell.aimController) :
    Inert (ControlCell.update f : CellM I Unit) :=
  fun t => ⟨hlayout t.2, haim t.2⟩

theorem pointContactId (contact : Option ContactId) :
    Inert (ControlCell.pointContactId contact : CellM I ContactId) := by
  unfold ControlCell.pointContactId
  split
  · exact .pure _
  · exact .throw _

variable [TouchInjector I]

theorem applyDirections (joystick : VirtualJoystick) (directions : DirectionalInput) (now : ℕ) :
    Inert (ControlCell.applyDirections joystick directions now : CellM I Bool) :=
  .bind (.onEngine _) fun _ => .bind (.update (fun _ => rfl) fun _ => rfl) fun _ => .pure _

theorem setHoldBinding (contact : ContactId) (point : Point) (pressed : Bool) :
    Inert (ControlCell.setHoldBinding contact point pressed : CellM I Bool) := by
  refine .bind .get fun t => ?_
  obtain ⟨engine, cell⟩ := t
  simp only
  split
  · exact .pure _
  · exact .bind (.onEngine _) fun _ => .pure _

theorem tapBinding (contact : ContactId) (point : Point) :
    Inert (ControlCell.tapBinding contact point : CellM I Unit) :=
  .bind (.onEngine _) fun _ => .onEngine _

theorem retainDirections (now : ℕ) : Inert (ControlCell.retainDirections now : CellM I Bool) := by
  refine .bind .get fun t => ?_
  obtain ⟨engine, cell⟩ := t
  simp only
  split
  · split
    · exact .pure _
    · exact .applyDirections _ _ _
  · exact .pure _

theorem releaseHold : Inert (ControlCell.releaseHold : CellM I Bool) := by
  refine .bind .get fun t => ?_
  obtain ⟨engine, cell⟩ := t
  simp only
  split
  · split
    · exact .bind (.pointContactId _) fun _ => .bind (.setHoldBinding _ _ _) fun _ =>
        .bind (.update (fun _ => rfl) fun _ => rfl) fun _ => .pure _
    · exact .pure _
  · exact .pure _

theorem engage (now : ℕ) : Inert (ControlCell.engage now : CellM I Bool) := by
  refine .bind .get fun t => ?_
  obtain ⟨engine, cell⟩ := t
  simp only
  split
  · split
    · exact .bind (.pointContactId _) fun _ => .bind (.setHoldBinding _ _ _) fun _ =>
        .bind (.update (fun _ => rfl) fun _ => rfl) fun _ => .pure _
    · exact .pure _
  · split
    · exact .applyDirections _ _ _
    · exact .pure _
  · exact .pure _

theorem dispatchKeyboardPress (held : HeldInputs) (key : HostKeyName) (now : ℕ) :
    Inert (ControlCell.dispatchKeyboardPress held key now : CellM I Bool) := by
  refine .bind .get fun t => ?_
  obtain ⟨engine, cell⟩ := t
  simp only
  split
  · split
    · exact .bind (.pointContactId _) fun _ => .bind (.tapBinding _ _) fun _ => .pure _
    · exact .pure _
  · split
    · exact .applyDirections _ _ _
    · exact .pure _
  · exact .pure _

theorem dispatchMousePress (held : HeldInputs) (button : HostMouseButton) :
    Inert (ControlCell.dispatchMousePress held button : CellM I Bool) := by
  refine .bind .get fun t => ?_
  obtain ⟨engine, cell⟩ := t
  simp only
  split
  · exact .pure _
  split
  · exact .bind (.pointContactId _) fun _ => .bind (.tapBinding _ _) fun _ => .pure _
  · exact .pure _

theorem reaffirmJoystick (now : ℕ) : Inert (ControlCell.reaffirmJoystick now : CellM I Bool) := by
  refine .bind .get fun t => ?_
  obtain ⟨engine, cell⟩ := t
  simp only
  split
  · split
    · split
      · exact .pure _
      · exact .bind (.onEngine _) fun _ => .bind (.update (fun _ => rfl) fun _ => rfl) fun _ =>
          .pure _
    · exact .pure _
  · exact .pure _

end Inert

/-- Cancelling stops the aim of a control, whatever the engine answers. -/
theorem cancelAim_aim [TouchInjector I] {s : TouchEngine I × Option SessionError} {cell : ControlCell}
    (h : cell.AimLinked) :
    wp cancelAim (fun _ t => AimEffect AimState.stopped cell t.2) (fun _ _ => True) (s, cell) := by
  have heffect : ∀ c c' : MouseAimController, cell.aimController = some c →
      c'.isActive = false → c'.settings = c.settings →
        AimEffect AimState.stopped cell { cell with aimController := some c' } := by
    intro c c' hc hidle hsettings
    refine ⟨?_, ?_⟩
    · rintro _ ⟨⟩
      exact hsettings ▸ h c hc
    · simp [aimState, hc, hidle, AimState.stopped]
  simp only [cancelAim, wp_bind, wp_get]
  split
  · next c hc =>
    simp only [wp_bind, wp_zoom, wp_attempt]
    refine wp_mono MouseAimController.cancel_became ?_ ?_
    · rintro _ ⟨e, c'⟩ ⟨hidle, hsettings⟩
      exact heffect c c' hc hidle hsettings
    · rintro error ⟨e, c'⟩ ⟨hidle, hsettings⟩
      simp only [wp_modify, wp_get, Option.getD_some]
      refine wp_mono MouseAimController.cancel_became ?_ ?_
      · rintro _ ⟨e', c''⟩ ⟨hidle', hsettings'⟩
        exact heffect c c'' hc hidle' (hsettings'.trans hsettings)
      · rintro error' ⟨e', c''⟩ ⟨hidle', hsettings'⟩
        exact heffect c c'' hc hidle' (hsettings'.trans hsettings)
  · next hnone => exact ⟨h, by simp [aimState, hnone]⟩

end ControlCell

/-! ### The runtime -/

namespace UnifiedRuntime

open ControlCell

variable {I : Type}

/-- The aims of a runtime. -/
def aims (rt : UnifiedRuntime I) : List AimState := rt.cells.filterMap ControlCell.aimState

def AimsLinked (rt : UnifiedRuntime I) : Prop := ∀ cell ∈ rt.cells, cell.AimLinked

/-- A call changed each aim by `f`. -/
structure AimsStep (f : AimState → AimState) (rt rt' : UnifiedRuntime I) : Prop where
  setup : rt'.setup = rt.setup
  linked : rt'.AimsLinked
  aims : rt'.aims = rt.aims.map f

theorem AimsStep.refl {rt : UnifiedRuntime I} (h : rt.AimsLinked) : AimsStep id rt rt :=
  ⟨rfl, h, by simp⟩

theorem AimsStep.trans {f g : AimState → AimState} {rt rt' rt'' : UnifiedRuntime I}
    (h : AimsStep f rt rt') (h' : AimsStep g rt' rt'') : AimsStep (g ∘ f) rt rt'' :=
  ⟨h'.setup.trans h.setup, h'.linked, by rw [h'.aims, h.aims, List.map_map]⟩

/-- Two runtimes whose controls have the same aims. -/
theorem AimsStep.of_cells {f : AimState → AimState} {rt rt' : UnifiedRuntime I}
    (hsetup : rt'.setup = rt.setup) (h : List.Forall₂ (AimEffect f) rt.cells rt'.cells) :
    AimsStep f rt rt' := by
  refine ⟨hsetup, ?_, ?_⟩
  · intro cell hcell
    obtain ⟨_, -, heffect⟩ := forall₂_exists_left h hcell
    exact heffect.linked
  · suffices hall : ∀ cells cells', List.Forall₂ (AimEffect f) cells cells' →
        cells'.filterMap aimState = (cells.filterMap aimState).map f from hall _ _ h
    intro cells cells' hall
    induction hall with
    | nil => rfl
    | @cons cell cell' _ _ hhead _ ih =>
      rw [List.filterMap_cons, List.filterMap_cons, hhead.aim]
      cases cell.aimState with
      | none => exact ih
      | some aim => simpa using ih

/-- Changing every control, but no aim. -/
theorem AimsStep.of_map {rt rt' : UnifiedRuntime I} {f : ControlCell → ControlCell}
    (h : rt.AimsLinked) (hf : ∀ cell, cell.AimLinked → AimEffect id cell (f cell))
    (hsetup : rt'.setup = rt.setup) (hcells : rt'.cells = rt.cells.map f) : AimsStep id rt rt' := by
  refine .of_cells hsetup ?_
  rw [hcells, List.forall₂_map_right_iff, List.forall₂_same]
  exact fun cell hcell => hf cell (h cell hcell)

/-- A call that keeps the controls keeps the aims. -/
theorem AimsStep.of_eq {rt rt' : UnifiedRuntime I} (h : rt.AimsLinked)
    (hsetup : rt'.setup = rt.setup) (hcells : rt'.cells = rt.cells) : AimsStep id rt rt' :=
  .of_map (f := id) h (fun _ hcell => hcell.unchanged rfl rfl) hsetup (by rw [hcells, List.map_id])

theorem setAds_aim (active : Bool) {cell : ControlCell} (h : cell.AimLinked) :
    AimEffect id cell (setAds active cell) := by
  have hactive : ∀ c : MouseAimController, (c.setAdsActive active).isActive = c.isActive := by
    intro c
    obtain ⟨-, -, hactive, -, hpending⟩ := c.setAdsActive_fields active
    rw [MouseAimController.isActive, MouseAimController.isActive, hactive, hpending]
  refine ⟨?_, ?_⟩
  · intro c hc
    obtain ⟨d, hd, rfl⟩ := Option.map_eq_some_iff.mp hc
    rw [(d.setAdsActive_fields active).2.1]
    exact h d hd
  · cases hc : cell.aimController <;> simp [aimState, setAds, hc, hactive]

variable [TouchInjector I] {rt : UnifiedRuntime I}

omit [TouchInjector I] in
/-- A loop over the controls changes the aims as its visits do. -/
theorem visit_aims {m : CellM I Bool} {f : AimState → AimState}
    (hm : ∀ eng cell, cell.AimLinked →
      wp m (fun _ t => AimEffect f cell t.2) (fun _ _ => True) (eng, cell))
    (h : rt.AimsLinked) :
    wp (visit m) (fun _ rt' => AimsStep f rt rt') (fun _ _ => True) rt := by
  rw [visit, wp_zoom]
  refine wp_mono (wp_each AimLinked (AimEffect f) hm h) ?_ fun _ _ _ => trivial
  exact fun _ t ht => .of_cells rfl ht

omit [TouchInjector I] in
theorem visit_inert {m : CellM I Bool} (hm : Inert m) (h : rt.AimsLinked) :
    wp (visit m) (fun _ rt' => AimsStep id rt rt') (fun _ _ => True) rt :=
  visit_aims (fun eng cell hcell => wp_mono (hm (eng, cell))
    (fun _ _ ht => hcell.unchanged ht.1 ht.2) fun _ _ _ => trivial) h

omit [TouchInjector I] in
/-- A loop that runs one operation on every aim it is wanted on. -/
theorem visit_onAim {wanted : ControlCell → MouseAimController → Bool}
    {m : MouseAimController.ControllerM I MouseAimUpdate} (f : AimState → AimState)
    {active : MouseAimController → Bool}
    (hm : ∀ eng c, wp m (fun _ t => c.Became (active c) t) (fun _ _ => True) (eng, c))
    (hf : ∀ (cell : ControlCell) (c : MouseAimController),
      c.settings.toggleKey.isNone = cell.layout.aimToggleKey.isNone →
      f ⟨cell.layout.aimToggleKey, c.isActive⟩ =
        ⟨cell.layout.aimToggleKey, if wanted cell c then active c else c.isActive⟩)
    (h : rt.AimsLinked) :
    wp (visit (onAim wanted m)) (fun _ rt' => AimsStep f rt rt') (fun _ _ => True) rt :=
  visit_aims (fun _ cell hcell => onAim_aim hm (fun c hc => hf cell c (hcell.isNone_eq hc)) hcell) h

theorem reconcileContinuous_aims (now : ℕ) (h : rt.AimsLinked) :
    wp (reconcileContinuous now) (fun _ rt' => AimsStep id rt rt') (fun _ _ => True) rt := by
  simp only [reconcileContinuous, refreshLayers, wp_bind, wp_modify, wp_get, wp_mapCells, wp_pure]
  generalize hdesired : UnifiedRuntime.mk rt.setup rt.engine _ _ = desired
  have h₀ : AimsStep id rt desired := by
    subst hdesired
    exact .of_map (f := desire _ _) h (fun _ hcell => hcell.unchanged rfl rfl) rfl rfl
  refine wp_mono (visit_inert (.retainDirections now) h₀.linked) (fun _ rt₁ h₁ => ?_)
    fun _ _ _ => trivial
  refine wp_mono (visit_inert .releaseHold h₁.linked) (fun _ rt₂ h₂ => ?_) fun _ _ _ => trivial
  refine wp_mono (visit_inert (.engage now) h₂.linked) (fun _ rt₃ h₃ => ?_) fun _ _ _ => trivial
  exact ((h₀.trans h₁).trans h₂).trans h₃

/-- What a keyboard event does to an aim. -/
def aimAfterKeyboard (setup : RuntimeSetup) (event : HostKeyEvent) (aim : AimState) : AimState :=
  match event with
  | ⟨.named key, .pressed⟩ => if (setup.layerControls key).isSome then aim else aim.toggled key
  | _ => aim

theorem handleKey_aims (key : HostKeyName) (pressed : Bool) (now : ℕ) (h : rt.AimsLinked) :
    wp (handleKey key pressed now) (fun _ rt' => AimsStep (aimAfterKeyboard rt.setup
        ⟨.named key, if pressed then .pressed else .released⟩) rt rt') (fun _ _ => True) rt := by
  simp only [handleKey, wp_bind, wp_modify, wp_get, wp_ite, wp_pure]
  have h₀ : AimsStep id rt { rt with held := holdKey rt.setup rt.held key pressed } :=
    .of_eq h rfl rfl
  refine wp_mono (reconcileContinuous_aims now h₀.linked) (fun _ rt₁ h₁ => ?_) fun _ _ _ => trivial
  have h₀₁ := h₀.trans h₁
  rw [h₀₁.setup]
  split
  · next hskip =>
    have hsame : aimAfterKeyboard rt.setup ⟨.named key, if pressed then .pressed else .released⟩ =
        id := by
      funext aim
      cases pressed <;> simp_all [aimAfterKeyboard]
    rw [hsame]
    exact h₀₁
  · next htoggle =>
    simp only [Bool.or_eq_true, Bool.not_eq_true', not_or, Bool.not_eq_false] at htoggle
    obtain ⟨hkey, rfl⟩ := htoggle
    have hpress : aimAfterKeyboard rt.setup ⟨.named key, .pressed⟩ = AimState.toggled key := by
      funext aim
      simp [aimAfterKeyboard, hkey]
    simp only [if_true, hpress]
    refine wp_mono (visit_onAim (AimState.toggled key)
      (fun _ _ => MouseAimController.toggle_became now) (fun cell c _ => ?_) h₀₁.linked)
      (fun _ rt₂ h₂ => ?_) fun _ _ _ => trivial
    · simp [AimState.toggled]
    · refine wp_mono (visit_inert (.dispatchKeyboardPress _ key now) h₂.linked)
        (fun _ rt₃ h₃ => ?_) fun _ _ _ => trivial
      exact (h₀₁.trans h₂).trans h₃

/-- **A keyboard event** toggles the aims of its key, unless the key activates a layer. -/
theorem handleKeyboard_aims (event : HostKeyEvent) (now : ℕ) (h : rt.AimsLinked) :
    wp (handleKeyboard event now)
      (fun _ rt' => AimsStep (aimAfterKeyboard rt.setup event) rt rt') (fun _ _ => True) rt := by
  obtain ⟨hostKey, transition⟩ := event
  cases hostKey with
  | f12 => cases transition <;> exact AimsStep.refl h
  | named key =>
    cases transition with
    | pressed => exact handleKey_aims key true now h
    | released => exact handleKey_aims key false now h
    | repeated => exact AimsStep.refl h

omit [TouchInjector I] in
theorem holdButton_aims (button : HostMouseButton) (pressed : Bool) (h : rt.AimsLinked) :
    AimsStep id rt (holdButton button pressed rt) := by
  unfold holdButton
  split
  · exact .of_map h (fun _ => setAds_aim pressed) rfl rfl
  · exact .of_eq h rfl rfl

theorem handleMouse_aims (event : MouseEvent) (now : ℕ) (h : rt.AimsLinked) :
    wp (handleMouse event now) (fun _ rt' => AimsStep id rt rt') (fun _ _ => True) rt := by
  have hbutton : ∀ button pressed, wp (handleButton button pressed now)
      (fun _ rt' => AimsStep id rt rt') (fun _ _ => True) rt := by
    intro button pressed
    simp only [handleButton, wp_bind, wp_modify, wp_get, wp_ite, wp_pure]
    have h₀ := holdButton_aims button pressed h
    refine wp_mono (reconcileContinuous_aims now h₀.linked) (fun _ rt₁ h₁ => ?_)
      fun _ _ _ => trivial
    split
    · exact h₀.trans h₁
    · exact wp_mono (visit_inert (.dispatchMousePress _ button) h₁.linked)
        (fun _ rt₂ h₂ => (h₀.trans h₁).trans h₂) fun _ _ _ => trivial
  cases event with
  | motion dx dy =>
    simp only [handleMouse, wp_ite, wp_pure]
    split
    · exact visit_onAim id (fun _ _ => MouseAimController.moveBy_became _ now)
        (fun _ _ _ => by simp) h
    · exact .refl h
  | wheel vertical horizontal => exact .refl h
  | button button transition =>
    cases transition with
    | pressed => exact hbutton button true
    | released => exact hbutton button false
    | repeated => exact .refl h

theorem tick_aims (now : ℕ) (h : rt.AimsLinked) :
    wp (tick now) (fun _ rt' => AimsStep id rt rt') (fun _ _ => True) rt := by
  simp only [tick, wp_bind, wp_pure]
  refine wp_mono (visit_onAim id (fun _ _ => MouseAimController.tick_became now)
    (fun _ _ _ => by simp) h) (fun _ rt₁ h₁ => ?_) fun _ _ _ => trivial
  exact wp_mono (visit_inert (.reaffirmJoystick now) h₁.linked) (fun _ rt₂ h₂ => h₁.trans h₂)
    fun _ _ _ => trivial

theorem releaseMouseButtons_aims (now : ℕ) (h : rt.AimsLinked) :
    wp (releaseMouseButtons now) (fun _ rt' => AimsStep id rt rt') (fun _ _ => True) rt := by
  simp only [releaseMouseButtons, wp_bind, wp_get, wp_ite, wp_set, wp_pure]
  split
  · have h₀ : AimsStep id rt { rt with
        held := { rt.held with heldMouseButtons := 0 }, cells := rt.cells.map (setAds false) } :=
      .of_map h (fun _ => setAds_aim false) rfl rfl
    exact wp_mono (reconcileContinuous_aims now h₀.linked) (fun _ rt₁ h₁ => h₀.trans h₁)
      fun _ _ _ => trivial
  · exact .refl h

theorem restoreAim_aims (reactivate : Bool) (now : ℕ) (h : rt.AimsLinked) :
    wp (restoreAim reactivate now) (fun _ rt' => AimsStep (AimState.restored reactivate) rt rt')
      (fun _ _ => True) rt := by
  simp only [restoreAim, wp_bind, wp_pure]
  refine visit_onAim _ (fun _ _ => MouseAimController.activate_became now) (fun cell c hnone => ?_) h
  simp only [AimState.restored, hnone]
  cases c.isActive <;> cases cell.layout.aimToggleKey <;> cases reactivate <;> rfl

theorem start_aims (now : ℕ) (h : rt.AimsLinked) :
    wp (start now) (fun _ rt' => AimsStep (AimState.restored false) rt rt')
      (fun _ _ => True) rt := by
  simp only [start, wp_bind, wp_pure]
  refine visit_onAim _ (fun _ _ => MouseAimController.activate_became now) (fun cell c hnone => ?_) h
  simp only [AimState.restored, hnone]
  cases c.isActive <;> cases cell.layout.aimToggleKey <;> rfl

theorem disableAim_aims (now : ℕ) (h : rt.AimsLinked) :
    wp (setAimEnabled false now) (fun _ rt' => AimsStep AimState.stopped rt rt')
      (fun _ _ => True) rt := by
  simp only [setAimEnabled, Bool.false_eq_true, if_false, wp_bind, wp_pure]
  refine visit_onAim _ (fun _ _ => MouseAimController.deactivate_became) (fun cell c _ => ?_) h
  cases hactive : c.isActive <;> simp [AimState.stopped]

/-- **A suspension** stops every aim. -/
theorem suspend_aims (h : rt.AimsLinked) :
    wp suspend (fun _ rt' => AimsStep AimState.stopped rt rt') (fun _ _ => True) rt := by
  simp only [suspend, wp_bind, wp_zoom, wp_get, wp_pure, wp_attempt, wp_onEngine, wp_modify]
  refine wp_mono (wp_each AimLinked (AimEffect AimState.stopped)
    (fun s cell hcell => cancelAim_aim hcell) h) ?_ fun _ _ _ => trivial
  rintro - ⟨⟨eng, failure⟩, cells⟩ hcells
  have hcells : List.Forall₂ (AimEffect AimState.stopped) rt.cells (cells.map reset) := by
    rw [List.forall₂_map_right_iff]
    exact hcells.imp fun cell cell' heffect => ⟨heffect.linked, heffect.aim⟩
  refine wp_mono wp_true (fun _ e _ => ?_) fun error e _ => ?_
  · split
    · exact .of_cells rfl hcells
    · trivial
  · cases failure <;> trivial

omit [TouchInjector I] in
theorem cursorOp_aims {m : TouchEngine.EngineM I Unit} (h : rt.AimsLinked) :
    wp (onEngine m) (fun _ rt' => AimsStep id rt rt') (fun _ _ => True) rt := by
  rw [wp_onEngine]
  exact wp_mono wp_true (fun _ _ _ => .of_eq h rfl rfl) fun _ _ _ => trivial

theorem cursorDown_aims (position : Point) (h : rt.AimsLinked) :
    wp (cursorDown position) (fun _ rt' => AimsStep id rt rt') (fun _ _ => True) rt := by
  simp only [cursorDown, wp_bind, wp_get]
  split
  · exact cursorOp_aims h
  · exact cursorOp_aims h

theorem cursorMove_aims (position : Point) (h : rt.AimsLinked) :
    wp (cursorMove position) (fun _ rt' => AimsStep id rt rt') (fun _ _ => True) rt := by
  simp only [cursorMove, wp_bind, wp_get]
  split
  · exact cursorOp_aims h
  · exact .refl h

theorem cursorUp_aims (h : rt.AimsLinked) :
    wp cursorUp (fun _ rt' => AimsStep id rt rt') (fun _ _ => True) rt := by
  simp only [cursorUp, wp_bind, wp_get]
  split
  · exact cursorOp_aims h
  · exact .refl h

end UnifiedRuntime

end Wroid
