import Wroid.Session.Availability

/-!
# The invariant of the session runtime

Each control owns the contacts it may put down, and no two controls share one.  A control
is *consistent* when its flags and its contacts tell the same story, and *settled* when
moreover it does what the held inputs ask for.  Reconciliation settles every control, and
every call of the runtime keeps the controls settled.

## Main definitions

* `ControlLayout.contacts`, `ControlLayout.places` — what a control owns, and where it touches.
* `ControlCell.Consistent`, `ControlCell.Settled` — the two levels of the invariant.
* `UnifiedRuntime.Invariant` — the invariant of a whole runtime.

## Main results

* `visit_spec` — the frame rule for the loops over the controls.
* `reconcileContinuous_spec` — **reconciliation settles every control**.
* `handleKeyboard_spec`, `handleMouse_spec`, `tick_spec`, `suspend_spec` and the others —
  every call keeps the invariant.
-/

set_option linter.constructorNameAsVariable false

namespace Wroid

open Lib

variable {I : Type} [TouchInjector I] {K : Contract I}

/-- The contract allows this failure of a session call. -/
def Contract.Stops (K : Contract I) (error : SessionError) (engine : TouchEngine I) : Prop :=
  ∃ cause, error = .engine cause ∧ K.Fails cause engine

theorem Contract.Fails.stops {cause : TouchEngineError} {engine : TouchEngine I}
    (h : K.Fails cause engine) : K.Stops (.engine cause) engine := ⟨cause, rfl, h⟩

/-! ### What a control owns -/

namespace ControlLayout

/-- The contacts a control may put down. -/
def contacts (layout : ControlLayout) : List ContactId :=
  match layout.control.action with
  | .tap _ | .hold _ => layout.pointContact.toList
  | .virtualJoystick joystick _ _ => [joystick.contactId]
  | .mouseAim aim settings => [aim.contactId, settings.alternateContactId]

/-- The contacts as a set. -/
def Owns (layout : ControlLayout) : Set ContactId := { c | c ∈ layout.contacts }

/-- The pixels a control touches. -/
def places (layout : ControlLayout) : Set Point :=
  match layout.control.action with
  | .tap point | .hold point => {point}
  | .virtualJoystick joystick _ _ => joystick.places
  | .mouseAim aim _ => aim.region.pixels

end ControlLayout

/-- The contract lets a control other than a tap use its contacts. -/
def Contract.AllowsControl (K : Contract I) (layout : ControlLayout) : Prop :=
  (∀ point, layout.control.action ≠ .tap point) → K.AllowsOn layout.Owns layout.places

/-- The contract lets a tap use its contact. -/
def Contract.AllowsTap (K : Contract I) (layout : ControlLayout) : Prop :=
  ∀ point contact, layout.control.action = .tap point → layout.pointContact = some contact →
    K.AllowsAt contact point

/-! ### Consistent and settled controls -/

namespace ControlCell

/-- The flags of a control and the positions of its contacts tell the same story. -/
inductive Consistent (pos : ContactId → Option Point) (cell : ControlCell) : Prop
  | tap (point : Point) (contact : ContactId) (action : cell.action = .tap point)
      (pointContact : cell.layout.pointContact = some contact)
      (controller : cell.aimController = none) (inactive : cell.activeBinding = false)
      (neutral : cell.directions = .neutral) (up : pos contact = none)
  | hold (point : Point) (contact : ContactId) (action : cell.action = .hold point)
      (pointContact : cell.layout.pointContact = some contact)
      (controller : cell.aimController = none) (neutral : cell.directions = .neutral)
      (place : pos contact = if cell.activeBinding then some point else none)
  | joystick (joystick : VirtualJoystick) (mode : JoystickMode) (interval : Option ℕ)
      (action : cell.action = .virtualJoystick joystick mode interval)
      (controller : cell.aimController = none)
      (active : cell.activeBinding = decide (cell.directions ≠ .neutral))
      (place : pos joystick.contactId = joystick.target cell.directions)
  | aim (controller : MouseAimController)
      (action : cell.action = .mouseAim controller.aim controller.settings)
      (aimController : cell.aimController = some controller)
      (inactive : cell.activeBinding = false) (neutral : cell.directions = .neutral)
      (agrees : controller.Agrees pos)

/-- The control does what the held inputs ask for. -/
structure Settled (setup : RuntimeSetup) (held : HeldInputs) (pos : ContactId → Option Point)
    (cell : ControlCell) : Prop where
  consistent : cell.Consistent pos
  binding : cell.activeBinding = wantedBinding setup held cell
  directions : cell.directions = wantedDirections setup held cell

variable {cell cell' : ControlCell} {pos pos' : ContactId → Option Point} {setup : RuntimeSetup}
  {held : HeldInputs}

theorem owns_of_tap {point : Point} {contact : ContactId} (action : cell.action = .tap point)
    (hcontact : cell.layout.pointContact = some contact) : cell.layout.Owns = {contact} := by
  ext c
  simp [ControlLayout.Owns, ControlLayout.contacts, show cell.layout.control.action = _ from action,
    hcontact]

theorem owns_of_hold {point : Point} {contact : ContactId} (action : cell.action = .hold point)
    (hcontact : cell.layout.pointContact = some contact) : cell.layout.Owns = {contact} := by
  ext c
  simp [ControlLayout.Owns, ControlLayout.contacts, show cell.layout.control.action = _ from action,
    hcontact]

theorem owns_of_joystick {j : VirtualJoystick} {mode : JoystickMode} {interval : Option ℕ}
    (action : cell.action = .virtualJoystick j mode interval) :
    cell.layout.Owns = {j.contactId} := by
  ext c
  simp [ControlLayout.Owns, ControlLayout.contacts, show cell.layout.control.action = _ from action]

theorem owns_of_aim {controller : MouseAimController}
    (action : cell.action = .mouseAim controller.aim controller.settings) :
    cell.layout.Owns = controller.contacts := by
  ext c
  simp [ControlLayout.Owns, ControlLayout.contacts, MouseAimController.contacts,
    show cell.layout.control.action = _ from action]

/-- Only the positions of the contacts that a control owns matter to it. -/
theorem Consistent.congr (h : cell.Consistent pos)
    (heq : ∀ c ∈ cell.layout.Owns, pos' c = pos c) : cell.Consistent pos' := by
  cases h with
  | tap point contact action pointContact controller inactive neutral up =>
    refine .tap point contact action pointContact controller inactive neutral ?_
    rw [heq contact (by simp [owns_of_tap action pointContact]), up]
  | hold point contact action pointContact controller neutral place =>
    refine .hold point contact action pointContact controller neutral ?_
    rw [heq contact (by simp [owns_of_hold action pointContact]), place]
  | joystick j mode interval action controller active place =>
    refine .joystick j mode interval action controller active ?_
    rw [heq j.contactId (by simp [owns_of_joystick action]), place]
  | aim controller action aimController inactive neutral agrees =>
    refine .aim controller action aimController inactive neutral (agrees.congr ?_)
    rwa [← owns_of_aim action]

theorem Settled.congr (h : cell.Settled setup held pos)
    (heq : ∀ c ∈ cell.layout.Owns, pos' c = pos c) : cell.Settled setup held pos' :=
  ⟨h.consistent.congr heq, h.binding, h.directions⟩

/-- Where the contact of a control is, it touches one of the control's pixels. -/
theorem Consistent.place_mem (h : cell.Consistent pos) {c : ContactId} (hc : c ∈ cell.layout.Owns)
    {p : Point} (hp : pos c = some p) : p ∈ cell.layout.places := by
  cases h with
  | tap point contact action pointContact controller inactive neutral up =>
    rw [owns_of_tap action pointContact] at hc
    obtain rfl : c = contact := hc
    rw [up] at hp
    cases hp
  | hold point contact action pointContact controller neutral place =>
    rw [owns_of_hold action pointContact] at hc
    obtain rfl : c = contact := hc
    rw [place] at hp
    split at hp
    · obtain rfl := Option.some.inj hp
      simp [ControlLayout.places, show cell.layout.control.action = _ from action]
    · cases hp
  | joystick j mode interval action controller active place =>
    rw [owns_of_joystick action] at hc
    obtain rfl : c = j.contactId := hc
    rw [place] at hp
    simp only [ControlLayout.places, show cell.layout.control.action = _ from action]
    exact ⟨_, hp⟩
  | aim controller action aimController inactive neutral agrees =>
    rw [owns_of_aim action] at hc
    simp only [ControlLayout.places, show cell.layout.control.action = _ from action]
    exact agrees.inside hc hp

/-! ### Wanted directions -/

/-- What a control should do depends on its layout and, for a toggle joystick, on its
directions: taking the wanted directions, it wants no others. -/
theorem wantedDirections_stable (hlayout : cell'.layout = cell.layout)
    (h : cell'.directions = wantedDirections setup held cell) :
    wantedDirections setup held cell' = wantedDirections setup held cell := by
  simp only [wantedDirections, hlayout] at h ⊢
  split
  · rfl
  · next haction hinput =>
    rw [haction, hinput] at h
    simp [h]
  · rfl

theorem wantedBinding_congr (hlayout : cell'.layout = cell.layout)
    (h : wantedDirections setup held cell' = wantedDirections setup held cell) :
    wantedBinding setup held cell' = wantedBinding setup held cell := by
  unfold wantedBinding
  rw [hlayout, h]

/-- A control that is no joystick wants no directions. -/
theorem wantedDirections_eq_neutral (h : ∀ j mode interval,
    cell.action ≠ .virtualJoystick j mode interval) :
    wantedDirections setup held cell = .neutral := by
  simp only [wantedDirections]
  split
  · next haction _ => exact absurd haction (h _ _ _)
  · next haction _ => exact absurd haction (h _ _ _)
  · rfl

/-- A joystick is wanted when it has a direction. -/
theorem wantedBinding_joystick {j : VirtualJoystick} {mode : JoystickMode} {interval : Option ℕ}
    (action : cell.action = .virtualJoystick j mode interval) :
    wantedBinding setup held cell = decide (wantedDirections setup held cell ≠ .neutral) := by
  have hwanted : cell.layout.control.action = .virtualJoystick j mode interval := action
  cases hinput : cell.layout.input with
  | keyCluster up left down right => simp [wantedBinding, hwanted, hinput]
  | key | mouseButton | mouseMove => simp [wantedBinding, wantedDirections, hwanted, hinput]

theorem wantedBinding_tap {point : Point} (action : cell.action = .tap point) :
    wantedBinding setup held cell = false := by
  simp [wantedBinding, show cell.layout.control.action = _ from action]

theorem wantedBinding_aim {aim : MouseAim} {settings : MouseAimSettings}
    (action : cell.action = .mouseAim aim settings) : wantedBinding setup held cell = false := by
  simp [wantedBinding, show cell.layout.control.action = _ from action]

/-! ### Visits -/

/-- The targets and the time of the last frame do not matter for consistency. -/
theorem Consistent.of_fields (h : cell.Consistent pos) (hlayout : cell'.layout = cell.layout)
    (hbinding : cell'.activeBinding = cell.activeBinding)
    (hdirections : cell'.directions = cell.directions)
    (haim : cell'.aimController = cell.aimController) : cell'.Consistent pos := by
  have haction : cell'.action = cell.action := by rw [action, action, hlayout]
  cases h with
  | tap point contact action pointContact controller inactive neutral up =>
    exact .tap point contact (haction.trans action) (hlayout ▸ pointContact) (haim.trans controller)
      (hbinding.trans inactive) (hdirections.trans neutral) up
  | hold point contact action pointContact controller neutral place =>
    exact .hold point contact (haction.trans action) (hlayout ▸ pointContact)
      (haim.trans controller) (hdirections.trans neutral) (by rw [hbinding, place])
  | joystick j mode interval action controller active place =>
    exact .joystick j mode interval (haction.trans action) (haim.trans controller)
      (by rw [hbinding, hdirections, active]) (by rw [hdirections, place])
  | aim controller action aimController inactive neutral agrees =>
    exact .aim controller (haction.trans action) (haim.trans aimController)
      (hbinding.trans inactive) (hdirections.trans neutral) agrees

/-- What a visit to the control `cell` leaves behind: the contract still holds, the control
satisfies `Post`, and the contacts of the others are where they were. -/
structure Visited (K : Contract I) (eng : TouchEngine I) (cell : ControlCell)
    (Post : (ContactId → Option Point) → ControlCell → Prop) (t : TouchEngine I × ControlCell) :
    Prop where
  holds : K.Holds t.1
  layout : t.2.layout = cell.layout
  post : Post t.1.state.position t.2
  frame : ∀ c ∉ cell.layout.Owns, t.1.state.position c = eng.state.position c

/-- A visit that does nothing. -/
theorem Visited.refl {eng : TouchEngine I}
    {Post : (ContactId → Option Point) → ControlCell → Prop} (hK : K.Holds eng)
    (h : Post eng.state.position cell) : Visited K eng cell Post (eng, cell) :=
  ⟨hK, rfl, h, fun _ _ => rfl⟩

theorem Visited.imp {eng : TouchEngine I}
    {Post Post' : (ContactId → Option Point) → ControlCell → Prop}
    {t : TouchEngine I × ControlCell} (h : Visited K eng cell Post t)
    (himp : Post t.1.state.position t.2 → Post' t.1.state.position t.2) :
    Visited K eng cell Post' t :=
  ⟨h.holds, h.layout, himp h.post, h.frame⟩

omit [TouchInjector I] in
@[simp] theorem wp_onEngine {α : Type} (m : TouchEngine.EngineM I α)
    {Q : α → TouchEngine I × ControlCell → Prop}
    {R : SessionError → TouchEngine I × ControlCell → Prop} {t : TouchEngine I × ControlCell} :
    wp (onEngine m) Q R t ↔
      wp m (fun a e => Q a (e, t.2)) (fun err e => R (.engine err) (e, t.2)) t.1 := by
  simp [onEngine]

omit [TouchInjector I] in
@[simp] theorem wp_update (f : ControlCell → ControlCell)
    {Q : PUnit → TouchEngine I × ControlCell → Prop}
    {R : SessionError → TouchEngine I × ControlCell → Prop} {t : TouchEngine I × ControlCell} :
    wp (update f) Q R t ↔ Q ⟨⟩ (t.1, f t.2) := Iff.rfl

omit [TouchInjector I] in
@[simp] theorem wp_onController {α : Type} (controller : MouseAimController)
    (m : MouseAimController.ControllerM I α) {Q : α → TouchEngine I × ControlCell → Prop}
    {R : SessionError → TouchEngine I × ControlCell → Prop} {t : TouchEngine I × ControlCell} :
    wp (onController controller m) Q R t ↔
      wp m (fun a s => Q a (s.1, { t.2 with aimController := some s.2 }))
        (fun err s => R (.engine err) (s.1, { t.2 with aimController := some s.2 }))
        (t.1, controller) := by
  simp [onController]

/-- Two controls with the same target. -/
structure Kept (cell cell' : ControlCell) : Prop where
  desiredBinding : cell'.desiredBinding = cell.desiredBinding
  desiredDirections : cell'.desiredDirections = cell.desiredDirections

theorem Kept.refl (cell : ControlCell) : Kept cell cell := ⟨rfl, rfl⟩

section Visits

variable {eng : TouchEngine I}

theorem Consistent.joystick_fields {j : VirtualJoystick} {mode : JoystickMode}
    {interval : Option ℕ} (h : cell.Consistent pos)
    (action : cell.action = .virtualJoystick j mode interval) :
    cell.aimController = none ∧ cell.activeBinding = decide (cell.directions ≠ .neutral) ∧
      pos j.contactId = j.target cell.directions := by
  cases h with
  | joystick j' mode' interval' action' controller active place =>
    obtain ⟨rfl, rfl, rfl⟩ : j' = j ∧ mode' = mode ∧ interval' = interval := by
      simpa [action'] using action
    exact ⟨controller, active, place⟩
  | tap _ _ action' | hold _ _ action' | aim _ action' => cases action'.symm.trans action

theorem Consistent.hold_fields {point : Point} (h : cell.Consistent pos)
    (action : cell.action = .hold point) : ∃ contact, cell.layout.pointContact = some contact ∧
      cell.aimController = none ∧ cell.directions = .neutral ∧
        pos contact = if cell.activeBinding then some point else none := by
  cases h with
  | hold point' contact action' pointContact controller neutral place =>
    obtain rfl : point' = point := by simpa [action'] using action
    exact ⟨contact, pointContact, controller, neutral, place⟩
  | tap _ _ action' | joystick _ _ _ action' | aim _ action' => cases action'.symm.trans action

/-- A joystick takes a direction. -/
theorem applyDirections_spec {j : VirtualJoystick} {mode : JoystickMode} {interval : Option ℕ}
    (d : DirectionalInput) (now : ℕ) (hK : K.Holds eng) (h : cell.Consistent eng.state.position)
    (ha : K.AllowsControl cell.layout) (action : cell.action = .virtualJoystick j mode interval) :
    wp (applyDirections j d now) (fun _ t => Visited K eng cell
        (fun pos cell' => cell'.Consistent pos ∧ Kept cell cell' ∧ cell'.directions = d) t)
      (fun e t => K.Stops e t.1) (eng, cell) := by
  obtain ⟨controller, -, place⟩ := h.joystick_fields action
  have ha := ha fun point hpoint => by cases action.symm.trans hpoint
  rw [owns_of_joystick action, ControlLayout.places, show cell.layout.control.action = _ from action]
    at ha
  have hcurrent : ∀ p ∈ eng.state.position j.contactId, p ∈ j.places := fun p hp =>
    ⟨_, place.symm.trans hp⟩
  simp only [applyDirections, wp_bind, wp_onEngine, wp_update, wp_pure]
  refine wp_mono (VirtualJoystick.apply_spec hK hcurrent (ha.single _ rfl)) ?_
    fun _ _ h => h.stops
  rintro - e ⟨hK', hpos⟩
  refine ⟨hK', rfl, ⟨.joystick j mode interval action controller rfl ?_, ⟨rfl, rfl⟩, rfl⟩, ?_⟩
  · simp [hpos]
  · intro c hc
    rw [owns_of_joystick action] at hc
    rw [hpos, if_neg fun heq => hc heq.symm]

/-- The contact of a hold binding is pressed or lifted. -/
theorem setHoldBinding_spec {point : Point} {contact : ContactId} (pressed : Bool)
    (hK : K.Holds eng) (h : cell.Consistent eng.state.position) (ha : K.AllowsControl cell.layout)
    (action : cell.action = .hold point) (hcontact : cell.layout.pointContact = some contact) :
    wp (setHoldBinding contact point pressed) (fun _ t => t.2 = cell ∧ K.Holds t.1 ∧
        t.1.state.position contact = (if pressed then some point else none) ∧
        ∀ c ∉ cell.layout.Owns, t.1.state.position c = eng.state.position c)
      (fun e t => K.Stops e t.1) (eng, cell) := by
  obtain ⟨contact', hcontact', -, -, place⟩ := h.hold_fields action
  obtain rfl : contact' = contact := Option.some.inj (hcontact'.symm.trans hcontact)
  have ha := ha fun p hp => by cases action.symm.trans hp
  rw [owns_of_hold action hcontact, ControlLayout.places,
    show cell.layout.control.action = _ from action] at ha
  simp only [setHoldBinding, wp_bind, wp_get, wp_ite, wp_pure, wp_onEngine]
  split
  case isTrue hsame =>
    refine ⟨trivial, hK, ?_, fun _ _ => trivial⟩
    rw [place] at hsame ⊢
    cases hactive : cell.activeBinding <;> simp_all
  case isFalse hchange =>
    refine wp_mono (TouchEngine.submit_single_spec hK ?_ (ha.single _ rfl _ rfl _)) ?_
      fun _ _ h => h.stops
    · rw [TouchEvent.Fits, TouchState.isActive_eq]
      cases pressed <;> simpa [Option.isSome_iff_ne_none] using hchange
    · rintro - e ⟨hK', hpos⟩
      refine ⟨trivial, hK', by cases pressed <;> simp [hpos, TouchEvent.after], fun c hc => ?_⟩
      rw [owns_of_hold action hcontact] at hc
      rw [hpos, if_neg fun heq => hc heq.symm]

/-- The targets of the control are what is wanted of it, in some directions. -/
def Targets (setup : RuntimeSetup) (held : HeldInputs) (cell : ControlCell) : Prop :=
  ∃ origin : ControlCell, origin.layout = cell.layout ∧
    cell.desiredBinding = wantedBinding setup held origin ∧
    cell.desiredDirections = wantedDirections setup held origin

theorem Targets.of_kept (h : cell.Targets setup held) (hlayout : cell'.layout = cell.layout)
    (hkept : Kept cell cell') : cell'.Targets setup held := by
  obtain ⟨origin, horigin, hbinding, hdirections⟩ := h
  exact ⟨origin, horigin.trans hlayout.symm, hkept.desiredBinding.trans hbinding,
    hkept.desiredDirections.trans hdirections⟩

/-- A control that reached its targets is settled. -/
theorem Targets.settled (h : cell.Targets setup held) (hc : cell.Consistent pos)
    (hbinding : cell.activeBinding = cell.desiredBinding)
    (hdirections : cell.directions = cell.desiredDirections) : cell.Settled setup held pos := by
  obtain ⟨origin, horigin, hb, hd⟩ := h
  have hstable := wantedDirections_stable horigin.symm (hdirections.trans hd)
  exact ⟨hc, by rw [hbinding, hb, wantedBinding_congr horigin.symm hstable],
    by rw [hdirections, hd, hstable]⟩

theorem retainDirections_spec (now : ℕ) (hK : K.Holds eng) (h : cell.Consistent eng.state.position)
    (ha : K.AllowsControl cell.layout) :
    wp (retainDirections now) (fun _ t => Visited K eng cell
        (fun pos cell' => cell'.Consistent pos ∧ Kept cell cell') t)
      (fun e t => K.Stops e t.1) (eng, cell) := by
  have hskip : Visited K eng cell (fun pos cell' => cell'.Consistent pos ∧ Kept cell cell')
      (eng, cell) := .refl hK ⟨h, .refl cell⟩
  simp only [retainDirections, wp_bind, wp_get]
  split
  · next j mode interval action =>
    rw [wp_ite]
    split
    · exact hskip
    · refine wp_mono (applyDirections_spec _ now hK h ha action) ?_ fun _ _ h => h
      exact fun _ t ht => ht.imp fun hafter => ⟨hafter.1, hafter.2.1⟩
  · exact hskip

/-- A hold binding that is active should be. -/
def Released (cell : ControlCell) : Prop :=
  ∀ point, cell.action = .hold point → cell.activeBinding = true → cell.desiredBinding = true

theorem releaseHold_spec (hK : K.Holds eng) (h : cell.Consistent eng.state.position)
    (ha : K.AllowsControl cell.layout) :
    wp releaseHold (fun _ t => Visited K eng cell
        (fun pos cell' => cell'.Consistent pos ∧ Kept cell cell' ∧ cell'.Released) t)
      (fun e t => K.Stops e t.1) (eng, cell) := by
  have hskip : cell.Released → Visited K eng cell
      (fun pos cell' => cell'.Consistent pos ∧ Kept cell cell' ∧ cell'.Released) (eng, cell) :=
    fun hr => .refl hK ⟨h, .refl cell, hr⟩
  simp only [releaseHold, wp_bind, wp_get]
  split
  · next point action =>
    obtain ⟨contact, hcontact, controller, neutral, place⟩ := h.hold_fields action
    rw [wp_ite]
    split
    · simp only [wp_bind, hcontact, pointContactId, wp_pure, wp_update]
      refine wp_mono (setHoldBinding_spec false hK h ha action hcontact) ?_ fun _ _ h => h
      rintro - ⟨e, _⟩ ⟨rfl, hK', hpos, hframe⟩
      exact ⟨hK', rfl, ⟨.hold point contact action hcontact controller neutral hpos, ⟨rfl, rfl⟩,
        fun _ _ hactive => by cases hactive⟩, hframe⟩
    · next hkeep =>
      exact hskip fun _ _ hactive => by simpa [hactive] using hkeep
  · next hne => exact hskip fun point action => absurd action (hne point)

/-- **The last loop brings a control to its targets.** -/
theorem engage_spec (now : ℕ) (hK : K.Holds eng) (h : cell.Consistent eng.state.position)
    (ha : K.AllowsControl cell.layout) (ht : cell.Targets setup held) (hr : cell.Released) :
    wp (engage now) (fun _ t => Visited K eng cell
        (fun pos cell' => cell'.Settled setup held pos) t)
      (fun e t => K.Stops e t.1) (eng, cell) := by
  obtain ⟨origin, horigin, hbinding, hdirections⟩ := id ht
  have haction : origin.action = cell.action := by rw [action, action, horigin]
  have hskip : cell.activeBinding = cell.desiredBinding → cell.directions = cell.desiredDirections →
      Visited K eng cell (fun pos cell' => cell'.Settled setup held pos) (eng, cell) :=
    fun hb hd => .refl hK (ht.settled h hb hd)
  simp only [engage, wp_bind, wp_get]
  split
  · next point action =>
    obtain ⟨contact, hcontact, controller, neutral, place⟩ := h.hold_fields action
    have hneutral : cell.directions = cell.desiredDirections := by
      rw [neutral, hdirections, wantedDirections_eq_neutral fun j mode interval hj => by
        cases (haction.trans action).symm.trans hj]
    rw [wp_ite]
    split
    · next hpress =>
      simp only [Bool.and_eq_true, Bool.not_eq_true'] at hpress
      simp only [wp_bind, hcontact, pointContactId, wp_pure, wp_update]
      refine wp_mono (setHoldBinding_spec true hK h ha action hcontact) ?_ fun _ _ h => h
      rintro - ⟨e, _⟩ ⟨rfl, hK', hpos, hframe⟩
      exact ⟨hK', rfl, Targets.settled (ht.of_kept rfl ⟨rfl, rfl⟩)
        (.hold point contact action hcontact controller neutral hpos) hpress.2.symm hneutral, hframe⟩
    · next hkeep =>
      refine hskip ?_ hneutral
      cases hactive : cell.activeBinding with
      | true => rw [hr point action hactive]
      | false =>
        rw [hactive] at hkeep
        exact (by simpa using hkeep : cell.desiredBinding = false).symm
  · next j mode interval action =>
    obtain ⟨-, active, -⟩ := h.joystick_fields action
    have hactive : cell.desiredBinding = decide (cell.desiredDirections ≠ .neutral) := by
      rw [hbinding, hdirections, wantedBinding_joystick (haction.trans action)]
    rw [wp_ite]
    split
    · refine wp_mono (applyDirections_spec _ now hK h ha action) ?_ fun _ _ h => h
      rintro - t ht'
      refine ⟨ht'.holds, ht'.layout, ?_, ht'.frame⟩
      obtain ⟨hc, hk, hd⟩ := ht'.post
      have haction' : t.2.action = .virtualJoystick j mode interval := by
        rw [ControlCell.action, ht'.layout]
        exact action
      refine (ht.of_kept ht'.layout hk).settled hc ?_ (hd.trans hk.desiredDirections.symm)
      rw [(hc.joystick_fields haction').2.1, hd, hk.desiredBinding, hactive]
    · next hsame =>
      have hsame := not_not.mp hsame
      exact hskip (by rw [active, hactive, hsame]) hsame
  · next hhold hjoystick =>
    cases h with
    | tap point contact action pointContact controller inactive neutral up =>
      refine hskip ?_ ?_
      · rw [inactive, hbinding, wantedBinding_tap (haction.trans action)]
      · rw [neutral, hdirections, wantedDirections_eq_neutral fun j mode interval hj => by
          cases (haction.trans action).symm.trans hj]
    | aim controller action aimController inactive neutral agrees =>
      refine hskip ?_ ?_
      · rw [inactive, hbinding, wantedBinding_aim (haction.trans action)]
      · rw [neutral, hdirections, wantedDirections_eq_neutral fun j mode interval hj => by
          cases (haction.trans action).symm.trans hj]
    | hold point contact action => exact absurd action (hhold point)
    | joystick j mode interval action => exact absurd action (hjoystick j mode interval)

/-! ### Dispatch and aim -/

theorem Consistent.aim_fields {controller : MouseAimController} (h : cell.Consistent pos)
    (hcontroller : cell.aimController = some controller) :
    cell.action = .mouseAim controller.aim controller.settings ∧ cell.activeBinding = false ∧
      cell.directions = .neutral ∧ controller.Agrees pos := by
  cases h with
  | aim controller' action aimController inactive neutral agrees =>
    obtain rfl : controller' = controller := Option.some.inj (aimController.symm.trans hcontroller)
    exact ⟨action, inactive, neutral, agrees⟩
  | tap _ _ _ _ hnone | hold _ _ _ _ hnone | joystick _ _ _ _ hnone =>
    cases hnone.symm.trans hcontroller

/-- An operation of its aim controller keeps a control settled. -/
theorem onAim_spec {wanted : ControlCell → MouseAimController → Bool}
    {m : MouseAimController.ControllerM I MouseAimUpdate} {active : MouseAimController → Bool}
    (hm : ∀ controller, controller.Agrees eng.state.position →
      K.AllowsOn controller.contacts controller.aim.region.pixels →
      wp m (fun _ t => MouseAimController.AimStep K eng controller (active controller) t)
        (fun e t => K.Fails e t.1) (eng, controller))
    (hK : K.Holds eng) (h : cell.Settled setup held eng.state.position)
    (ha : K.AllowsControl cell.layout) :
    wp (onAim wanted m)
      (fun _ t => Visited K eng cell (fun pos cell' => cell'.Settled setup held pos) t)
      (fun e t => K.Stops e t.1) (eng, cell) := by
  simp only [onAim, wp_bind, wp_get]
  split
  case h_2 => exact .refl hK h
  case h_1 controller hcontroller =>
  rw [wp_ite]
  split
  case isFalse => exact .refl hK h
  case isTrue =>
    obtain ⟨action, inactive, neutral, agrees⟩ := h.consistent.aim_fields hcontroller
    have ha := ha fun point hpoint => by cases action.symm.trans hpoint
    rw [owns_of_aim action, ControlLayout.places,
      show cell.layout.control.action = _ from action] at ha
    simp only [wp_bind, wp_pure, wp_onController]
    refine wp_mono (hm controller agrees ha) ?_ fun _ _ h => h.stops
    rintro - ⟨e, controller'⟩ ⟨hK', agrees', haim, hsettings, -, hframe⟩
    refine ⟨hK', rfl, ⟨.aim controller' ?_ rfl inactive neutral agrees',
      inactive.trans (wantedBinding_aim action).symm,
      neutral.trans (wantedDirections_eq_neutral fun j mode interval hj => ?_).symm⟩, ?_⟩
    · rw [haim, hsettings]
      exact action
    · cases action.symm.trans hj
    · rw [owns_of_aim action]
      exact hframe

/-- Scaling the aim does not unsettle a control. -/
theorem Consistent.setAds (h : cell.Consistent pos) (active : Bool) :
    (setAds active cell).Consistent pos := by
  cases h with
  | aim controller action aimController inactive neutral agrees =>
    obtain ⟨haim, hsettings, hactive, hnext, hpending⟩ := controller.setAdsActive_fields active
    refine .aim (controller.setAdsActive active) ?_ (by simp [ControlCell.setAds, aimController])
      inactive neutral (agrees.of_fields haim hsettings hactive hnext hpending)
    rw [haim, hsettings]
    exact action
  | tap point contact action pointContact controller inactive neutral up =>
    exact .tap point contact action pointContact (by simp [ControlCell.setAds, controller]) inactive
      neutral up
  | hold point contact action pointContact controller neutral place =>
    exact .hold point contact action pointContact (by simp [ControlCell.setAds, controller]) neutral
      place
  | joystick j mode interval action controller active' place =>
    exact .joystick j mode interval action (by simp [ControlCell.setAds, controller]) active' place

theorem reaffirmJoystick_spec (now : ℕ) (hK : K.Holds eng)
    (h : cell.Settled setup held eng.state.position) (ha : K.AllowsControl cell.layout) :
    wp (reaffirmJoystick now)
      (fun _ t => Visited K eng cell (fun pos cell' => cell'.Settled setup held pos) t)
      (fun e t => K.Stops e t.1) (eng, cell) := by
  simp only [reaffirmJoystick, wp_bind, wp_get]
  split
  · next j mode interval action =>
    split
    · next position hposition =>
      rw [wp_ite]
      split
      · exact .refl hK h
      · obtain ⟨controller, active, place⟩ := h.consistent.joystick_fields action
        have ha := ha fun point hpoint => by cases action.symm.trans hpoint
        rw [owns_of_joystick action, ControlLayout.places,
          show cell.layout.control.action = _ from action] at ha
        simp only [wp_bind, wp_onEngine, wp_update, wp_pure]
        refine wp_mono (TouchEngine.moveContact_spec hK (by simp [hposition])
          (ha.single _ rfl _ ⟨_, place.symm.trans hposition⟩)) ?_ fun _ _ h => h.stops
        rintro - e ⟨hK', hpos⟩
        have hsame : ∀ c, e.state.position c = eng.state.position c := by
          intro c
          rw [hpos]
          split
          · next hc => rw [← hc, hposition]
          · rfl
        refine ⟨hK', rfl, ⟨.joystick j mode _ action controller active ?_, h.binding, h.directions⟩,
          fun c _ => hsame c⟩
        rw [hsame, place]
    · exact .refl hK h
  · exact .refl hK h

/-- A tap presses and lifts its contact. -/
theorem tapBinding_spec {point : Point} {contact : ContactId} (hK : K.Holds eng)
    (hup : eng.state.position contact = none) (ha : K.AllowsAt contact point) :
    wp (tapBinding contact point) (fun _ t => t.2 = cell ∧ K.Holds t.1 ∧
        ∀ c, t.1.state.position c = eng.state.position c)
      (fun e t => K.Stops e t.1) (eng, cell) := by
  simp only [tapBinding, wp_bind, wp_onEngine]
  refine wp_mono (TouchEngine.submit_single_spec hK
    (by simp [TouchEvent.Fits, TouchState.isActive_eq, hup]) (ha _)) ?_ fun _ _ h => h.stops
  rintro - e ⟨hK', hpos⟩
  refine wp_mono (TouchEngine.submit_single_spec hK'
    (by simp [TouchEvent.Fits, TouchState.isActive_eq, hpos, TouchEvent.after]) (ha _)) ?_
    fun _ _ h => h.stops
  rintro - e' ⟨hK'', hpos'⟩
  refine ⟨trivial, hK'', fun c => ?_⟩
  simp only [hpos', hpos, TouchEvent.after]
  split
  · next hc => rw [← hc, hup]
  · rfl

/-- Toggling the direction of an available key keeps the directions wanted. -/
theorem toggledDirections_wanted {j : VirtualJoystick} {interval : Option ℕ}
    {up left down right : HostKeyName} (key : HostKeyName)
    (haction : cell.action = .virtualJoystick j .toggle interval)
    (hinput : cell.layout.input = .keyCluster up left down right)
    (h : cell.directions = wantedDirections setup held cell) (hlayout : cell'.layout = cell.layout)
    (hdirections : cell'.directions =
      toggledDirections held cell.layout.control cell.directions up left down right key) :
    cell'.directions = wantedDirections setup held cell' := by
  have haction : cell.layout.control.action = .virtualJoystick j .toggle interval := haction
  -- toggling one direction: it is only toggled, or on, when its key is available
  have hbit : ∀ (b : Bool) (k : HostKeyName),
      b = (b && bindingAvailable cell.layout.control (.key k) held) →
      (b ^^ (decide (k = key) && bindingAvailable cell.layout.control (.key key) held)) =
        ((b ^^ (decide (k = key) && bindingAvailable cell.layout.control (.key key) held)) &&
          bindingAvailable cell.layout.control (.key k) held) := by
    intro b k hb
    by_cases hk : k = key
    · subst hk
      cases hav : bindingAvailable cell.layout.control (.key k) held <;> simp_all
    · simpa [hk] using hb
  simp only [wantedDirections, haction, hinput] at h
  simp only [wantedDirections, hlayout, haction, hinput, hdirections, toggledDirections]
  cases hd : cell.directions with
  | mk u l d r =>
    rw [hd] at h
    simp only [DirectionalInput.mk.injEq] at h ⊢
    exact ⟨hbit u up h.1, hbit l left h.2.1, hbit d down h.2.2.1, hbit r right h.2.2.2⟩

theorem dispatchKeyboardPress_spec (key : HostKeyName) (now : ℕ) (hK : K.Holds eng)
    (h : cell.Settled setup held eng.state.position) (ha : K.AllowsControl cell.layout)
    (htap : K.AllowsTap cell.layout) :
    wp (dispatchKeyboardPress held key now)
      (fun _ t => Visited K eng cell (fun pos cell' => cell'.Settled setup held pos) t)
      (fun e t => K.Stops e t.1) (eng, cell) := by
  have hrefl : Visited K eng cell (fun pos cell' => cell'.Settled setup held pos) (eng, cell) :=
    .refl hK h
  simp only [dispatchKeyboardPress, wp_bind, wp_get]
  split
  · next bindingKey point hinput action =>
    rw [wp_ite]
    split
    · cases h.consistent with
      | tap point' contact action' pointContact controller inactive neutral up =>
        obtain rfl : point' = point := by simpa [show cell.action = _ from action] using action'.symm
        simp only [wp_bind, pointContact, pointContactId, wp_pure]
        refine wp_mono (tapBinding_spec hK up (htap point' contact action pointContact)) ?_
          fun _ _ h => h
        rintro - ⟨e, _⟩ ⟨rfl, hK', hpos⟩
        exact ⟨hK', rfl, h.congr fun c _ => hpos c, fun c _ => hpos c⟩
      | hold _ _ action' | joystick _ _ _ action' | aim _ action' =>
        cases (show cell.action = _ from action).symm.trans action'
    · exact hrefl
  · next up left down right j interval hinput action =>
    rw [wp_ite]
    split
    · refine wp_mono (applyDirections_spec _ now hK h.consistent ha action) ?_ fun _ _ h => h
      intro _ t ht
      refine ht.imp fun hafter => ?_
      obtain ⟨hc, -, hd⟩ := hafter
      have hwanted := toggledDirections_wanted key action hinput h.directions ht.layout hd
      have haction' : t.2.action = .virtualJoystick j .toggle interval := by
        rw [ControlCell.action, ht.layout]
        exact action
      refine ⟨hc, ?_, hwanted⟩
      rw [(hc.joystick_fields haction').2.1, wantedBinding_joystick haction', ← hwanted]
    · exact hrefl
  · exact hrefl

theorem dispatchMousePress_spec (button : HostMouseButton) (hK : K.Holds eng)
    (h : cell.Settled setup held eng.state.position) (htap : K.AllowsTap cell.layout) :
    wp (dispatchMousePress held button)
      (fun _ t => Visited K eng cell (fun pos cell' => cell'.Settled setup held pos) t)
      (fun e t => K.Stops e t.1) (eng, cell) := by
  have hrefl : Visited K eng cell (fun pos cell' => cell'.Settled setup held pos) (eng, cell) :=
    .refl hK h
  simp only [dispatchMousePress, wp_bind, wp_get, wp_ite]
  split
  · exact hrefl
  split
  · next point action =>
    cases h.consistent with
    | tap point' contact action' pointContact controller inactive neutral up =>
      obtain rfl : point' = point := by simpa [show cell.action = _ from action] using action'.symm
      simp only [wp_bind, pointContact, pointContactId, wp_pure]
      refine wp_mono (tapBinding_spec hK up (htap point' contact action pointContact)) ?_
        fun _ _ h => h
      rintro - ⟨e, _⟩ ⟨rfl, hK', hpos⟩
      exact ⟨hK', rfl, h.congr fun c _ => hpos c, fun c _ => hpos c⟩
    | hold _ _ action' | joystick _ _ _ action' | aim _ action' =>
      cases (show cell.action = _ from action).symm.trans action'
  · exact hrefl

/-! ### Suspension -/

/-- The aim controller of the control, if it has one, is not active. -/
def AimIdle (cell : ControlCell) : Prop :=
  ∀ controller ∈ cell.aimController, controller.isActive = false

theorem cancelAim_spec {failure : Option SessionError} (hfail : ∀ st e, ¬ K.Failed st e)
    (hK : K.Holds eng) (h : cell.Consistent eng.state.position) (ha : K.AllowsControl cell.layout) :
    wp cancelAim (fun _ t => t.1.2 = failure ∧ Visited K eng cell
        (fun pos cell' => cell'.Consistent pos ∧ cell'.AimIdle) (t.1.1, t.2))
      (fun _ _ => False) ((eng, failure), cell) := by
  simp only [cancelAim, wp_bind, wp_get]
  split
  · next controller hcontroller =>
    obtain ⟨action, inactive, neutral, agrees⟩ := h.aim_fields hcontroller
    have ha := ha fun point hpoint => by cases action.symm.trans hpoint
    rw [owns_of_aim action, ControlLayout.places,
      show cell.layout.control.action = _ from action] at ha
    simp only [wp_bind, wp_zoom, wp_attempt]
    refine wp_mono (MouseAimController.cancel_spec hK agrees ha) ?_ ?_
    · rintro _ ⟨e, controller'⟩ ⟨hK', agrees', haim, hsettings, hidle, hframe⟩
      refine ⟨rfl, hK', rfl, ⟨.aim controller' ?_ rfl inactive neutral agrees', ?_⟩, ?_⟩
      · rw [haim, hsettings]
        exact action
      · rintro _ ⟨⟩
        exact hidle
      · rw [owns_of_aim action]
        exact hframe
    · rintro _ t ⟨cause, -, hcause⟩
      exact (hfail _ _ hcause).elim
  · next hnone => exact ⟨rfl, .refl hK ⟨h, fun controller hc => by simp [hnone] at hc⟩⟩

theorem wantedDirections_none (neutral : cell.directions = .neutral) :
    wantedDirections setup .none cell = .neutral := by
  simp only [wantedDirections]
  split <;> simp [keyWanted, HeldInputs.none, neutral, DirectionalInput.neutral]

theorem wantedBinding_none (neutral : cell.directions = .neutral) :
    wantedBinding setup .none cell = false := by
  simp only [wantedBinding, wantedDirections_none neutral]
  split <;> simp [keyWanted, buttonWanted, mouseButtonHeld, HeldInputs.none]

/-- A control that does nothing is settled while nothing is held. -/
theorem Consistent.settled_none (h : cell.Consistent pos) (inactive : cell.activeBinding = false)
    (neutral : cell.directions = .neutral) : cell.Settled setup .none pos :=
  ⟨h, inactive.trans (wantedBinding_none neutral).symm,
    neutral.trans (wantedDirections_none neutral).symm⟩

/-- A suspended control is consistent when no contact is down. -/
theorem Consistent.reset (h : cell.Consistent pos) (hidle : cell.AimIdle)
    (hup : ∀ c, pos' c = none) : (reset cell).Consistent pos' := by
  cases h with
  | tap point contact action pointContact controller inactive neutral up =>
    exact .tap point contact action pointContact controller rfl rfl (hup contact)
  | hold point contact action pointContact controller neutral place =>
    exact .hold point contact action pointContact controller rfl (hup contact)
  | joystick j mode interval action controller active place =>
    exact .joystick j mode interval action controller rfl (hup j.contactId)
  | aim controller action aimController inactive neutral agrees =>
    obtain ⟨hactive, hpending⟩ :=
      MouseAimController.isActive_eq_false.mp (hidle controller aimController)
    exact .aim controller action aimController rfl rfl (.idle hactive hpending fun d _ => hup d)

end Visits

end ControlCell

/-! ### The loops of the runtime -/

namespace UnifiedRuntime

open ControlCell

/-- No two controls share a contact, and none uses the contact of the cursor. -/
structure Distinct (cursor : ContactId) (layouts : List ControlLayout) : Prop where
  apart : layouts.Pairwise fun l l' => Disjoint l.Owns l'.Owns
  cursor : ∀ layout ∈ layouts, cursor ∉ layout.Owns

/-- What a loop over the controls leaves behind. -/
structure Swept (K : Contract I) (rt : UnifiedRuntime I)
    (Post : ControlCell → (ContactId → Option Point) → ControlCell → Prop)
    (rt' : UnifiedRuntime I) : Prop where
  setup : rt'.setup = rt.setup
  held : rt'.held = rt.held
  holds : K.Holds rt'.engine
  cells : List.Forall₂ (fun cell cell' => cell'.layout = cell.layout ∧
    Post cell rt'.engine.state.position cell') rt.cells rt'.cells
  frame : ∀ c, (∀ layout ∈ rt.layouts, c ∉ layout.Owns) →
    rt'.engine.state.position c = rt.engine.state.position c

theorem layouts_eq_of_forall₂ {R : ControlCell → ControlCell → Prop}
    {cells cells' : List ControlCell}
    (h : List.Forall₂ (fun cell cell' => cell'.layout = cell.layout ∧ R cell cell') cells cells') :
    cells'.map ControlCell.layout = cells.map ControlCell.layout := by
  induction h with
  | nil => rfl
  | cons hhead _ ih => rw [List.map_cons, List.map_cons, hhead.1, ih]

theorem Swept.layouts {rt rt' : UnifiedRuntime I}
    {Post : ControlCell → (ContactId → Option Point) → ControlCell → Prop}
    (h : Swept K rt Post rt') : rt'.layouts = rt.layouts :=
  layouts_eq_of_forall₂ h.cells

/-- **The loops over the controls.**  What one visit establishes about its control is not
disturbed by the visits to the others, and what the visits add to a log is there in their
order. -/
theorem visit_log_spec {f : CellM I Bool} {rt : UnifiedRuntime I} {lam : Type}
    (log : TouchEngine I → List lam) (out : ControlCell → List lam)
    (Pre : (ContactId → Option Point) → ControlCell → Prop)
    (Post : ControlCell → (ContactId → Option Point) → ControlCell → Prop)
    (hpre : ∀ cell pos pos', (∀ c ∈ cell.layout.Owns, pos' c = pos c) → Pre pos cell → Pre pos' cell)
    (hpost : ∀ cell cell' pos pos', cell'.layout = cell.layout →
      (∀ c ∈ cell.layout.Owns, pos' c = pos c) → Post cell pos cell' → Post cell pos' cell')
    (hf : ∀ eng cell, K.Holds eng → Pre eng.state.position cell →
      wp f (fun _ t => Visited K eng cell (Post cell) t ∧ log t.1 = log eng ++ out cell)
        (fun e t => K.Stops e t.1 ∧ ∃ done, done <+: out cell ∧ log t.1 = log eng ++ done) (eng, cell))
    (hd : rt.layouts.Pairwise fun l l' => Disjoint l.Owns l'.Owns) (hK : K.Holds rt.engine)
    (hp : ∀ cell ∈ rt.cells, Pre rt.engine.state.position cell) :
    wp (visit f)
      (fun _ rt' => Swept K rt Post rt' ∧ log rt'.engine = log rt.engine ++ rt.cells.flatMap out)
      (fun e rt' => K.Stops e rt'.engine ∧
        ∃ done, done <+: rt.cells.flatMap out ∧ log rt'.engine = log rt.engine ++ done) rt := by
  have hd : rt.cells.Pairwise fun cell cell' => Disjoint cell.layout.Owns cell'.layout.Owns :=
    (List.pairwise_map (R := fun l l' : ControlLayout => Disjoint l.Owns l'.Owns)).mp hd
  rw [visit, wp_zoom]
  refine wp_mono (wp_each_frame_log (fun eng : TouchEngine I => eng.state.position)
    (fun cell : ControlCell => cell.layout.Owns) log out K.Holds
    (fun eng cell => Pre eng.state.position cell)
    (fun cell eng cell' => cell'.layout = cell.layout ∧ Post cell eng.state.position cell') K.Stops
    (fun cell _ _ => hpre cell _ _)
    (fun cell cell' _ _ heq h => ⟨h.1, hpost cell cell' _ _ h.1 heq h.2⟩)
    (fun eng cell hK hP => wp_mono (hf eng cell hK hP)
      (fun _ t ht => ⟨ht.1.holds, ⟨ht.1.layout, ht.1.post⟩, ht.1.frame, ht.2⟩) fun _ _ h => h)
    hd hK hp) ?_ fun _ _ h => h
  rintro - ⟨eng, cells⟩ ⟨hK', hall, hframe, hlog⟩
  exact ⟨⟨rfl, rfl, hK', hall, fun c hc => hframe c fun cell hcell =>
    hc _ (List.mem_map_of_mem hcell)⟩, hlog⟩

/-- The loops over the controls, without a log. -/
theorem visit_spec {f : CellM I Bool} {rt : UnifiedRuntime I}
    (Pre : (ContactId → Option Point) → ControlCell → Prop)
    (Post : ControlCell → (ContactId → Option Point) → ControlCell → Prop)
    (hpre : ∀ cell pos pos', (∀ c ∈ cell.layout.Owns, pos' c = pos c) → Pre pos cell → Pre pos' cell)
    (hpost : ∀ cell cell' pos pos', cell'.layout = cell.layout →
      (∀ c ∈ cell.layout.Owns, pos' c = pos c) → Post cell pos cell' → Post cell pos' cell')
    (hf : ∀ eng cell, K.Holds eng → Pre eng.state.position cell →
      wp f (fun _ t => Visited K eng cell (Post cell) t) (fun e t => K.Stops e t.1) (eng, cell))
    (hd : rt.layouts.Pairwise fun l l' => Disjoint l.Owns l'.Owns) (hK : K.Holds rt.engine)
    (hp : ∀ cell ∈ rt.cells, Pre rt.engine.state.position cell) :
    wp (visit f) (fun _ rt' => Swept K rt Post rt') (fun e rt' => K.Stops e rt'.engine) rt := by
  have hnone : ∀ eng cell, K.Holds eng → Pre eng.state.position cell →
      wp f (fun _ t => Visited K eng cell (Post cell) t ∧ ([] : List Unit) = [] ++ [])
        (fun e t => K.Stops e t.1 ∧ ∃ done : List Unit, done <+: [] ∧ [] = [] ++ done) (eng, cell) :=
    fun eng cell hK hP => wp_mono (hf eng cell hK hP) (fun _ _ h => ⟨h, rfl⟩)
      fun _ _ h => ⟨h, [], List.prefix_rfl, rfl⟩
  exact wp_mono (visit_log_spec (fun _ => []) (fun _ => []) Pre Post hpre hpost hnone hd hK hp)
    (fun _ _ h => h.1) fun _ _ h => h.1

/-- A loop whose visits keep the controls settled. -/
theorem visit_settled {f : CellM I Bool} {rt : UnifiedRuntime I} {setup : RuntimeSetup}
    {held : HeldInputs} {P : ControlLayout → Prop}
    (hf : ∀ eng cell, K.Holds eng → cell.Settled setup held eng.state.position → P cell.layout →
      wp f (fun _ t => Visited K eng cell (fun pos cell' => cell'.Settled setup held pos) t)
        (fun e t => K.Stops e t.1) (eng, cell))
    (hd : rt.layouts.Pairwise fun l l' => Disjoint l.Owns l'.Owns) (hK : K.Holds rt.engine)
    (hP : ∀ layout ∈ rt.layouts, P layout)
    (hs : ∀ cell ∈ rt.cells, cell.Settled setup held rt.engine.state.position) :
    wp (visit f) (fun _ rt' => Swept K rt (fun _ pos cell' => cell'.Settled setup held pos) rt')
      (fun e rt' => K.Stops e rt'.engine) rt :=
  visit_spec (fun pos cell => cell.Settled setup held pos ∧ P cell.layout)
    (fun _ pos cell' => cell'.Settled setup held pos) (fun _ _ _ heq h => ⟨h.1.congr heq, h.2⟩)
    (fun _ _ _ _ hlayout heq h => h.congr (hlayout ▸ heq))
    (fun eng cell hK h => hf eng cell hK h.1 h.2) hd hK
    fun cell hcell => ⟨hs cell hcell, hP _ (List.mem_map_of_mem hcell)⟩

/-! ### The invariant -/

/-- What is fixed about a runtime: its contacts are distinct and the contract lets them be
used. -/
structure Configured (K : Contract I) (setup : RuntimeSetup) (layouts : List ControlLayout) :
    Prop where
  distinct : Distinct setup.cursorContact layouts
  allows : ∀ layout ∈ layouts, K.AllowsControl layout

/-- Every control is consistent, and the held modifiers are the held keys that are modifiers. -/
structure Coherent (K : Contract I) (setup : RuntimeSetup) (layouts : List ControlLayout)
    (rt : UnifiedRuntime I) : Prop where
  setup_eq : rt.setup = setup
  layouts_eq : rt.layouts = layouts
  holds : K.Holds rt.engine
  consistent : ∀ cell ∈ rt.cells, cell.Consistent rt.engine.state.position
  modifiers : ∀ key, rt.held.heldModifiers.contains key =
    (setup.modifierKeys.contains key && rt.held.heldKeys.contains key)

/-- **The invariant of the runtime**: it is coherent, every input belongs to the layer it
should, and every control is settled. -/
structure Invariant (K : Contract I) (setup : RuntimeSetup) (layouts : List ControlLayout)
    (rt : UnifiedRuntime I) : Prop where
  coherent : Coherent K setup layouts rt
  selected : rt.held.selectedInputLayers =
    refreshSelectedInputLayers rt.held.activeLayers layouts
  settled : ∀ cell ∈ rt.cells, cell.Settled setup rt.held rt.engine.state.position

/-- What a call leaves behind: the invariant, the held inputs `held`, and the contacts that
belong to no control where they were. -/
structure Stepped (K : Contract I) (setup : RuntimeSetup) (layouts : List ControlLayout)
    (rt : UnifiedRuntime I) (held : HeldInputs) (rt' : UnifiedRuntime I) : Prop where
  invariant : Invariant K setup layouts rt'
  held : rt'.held = held
  frame : ∀ c, (∀ layout ∈ layouts, c ∉ layout.Owns) →
    rt'.engine.state.position c = rt.engine.state.position c

variable {setup : RuntimeSetup} {layouts : List ControlLayout} {rt rt' : UnifiedRuntime I}
  {held : HeldInputs}

theorem Stepped.refl (h : Invariant K setup layouts rt) : Stepped K setup layouts rt rt.held rt :=
  ⟨h, rfl, fun _ _ => rfl⟩

theorem Stepped.trans {held' : HeldInputs} {rt'' : UnifiedRuntime I}
    (h : Stepped K setup layouts rt held rt') (h' : Stepped K setup layouts rt' held' rt'') :
    Stepped K setup layouts rt held' rt'' :=
  ⟨h'.invariant, h'.held, fun c hc => (h'.frame c hc).trans (h.frame c hc)⟩

/-- A loop that keeps the controls settled keeps the invariant. -/
theorem Invariant.swept (h : Invariant K setup layouts rt)
    (hs : Swept K rt (fun _ pos cell' => cell'.Settled setup rt.held pos) rt') :
    Stepped K setup layouts rt rt.held rt' := by
  have hsettled : ∀ cell ∈ rt'.cells, cell.Settled setup rt'.held rt'.engine.state.position := by
    intro cell hcell
    obtain ⟨_, -, -, hcell⟩ := forall₂_exists_left hs.cells hcell
    exact hs.held ▸ hcell
  refine ⟨⟨⟨hs.setup.trans h.coherent.setup_eq, hs.layouts.trans h.coherent.layouts_eq, hs.holds,
    fun cell hcell => (hsettled cell hcell).consistent, ?_⟩, ?_, hsettled⟩, hs.held, ?_⟩
  · rw [hs.held]
    exact h.coherent.modifiers
  · rw [hs.held]
    exact h.selected
  · exact h.coherent.layouts_eq ▸ hs.frame

/-- The invariant is kept by a loop whose visits keep the controls settled. -/
theorem Invariant.visit {f : CellM I Bool} {P : ControlLayout → Prop}
    (h : Invariant K setup layouts rt) (hcfg : Configured K setup layouts)
    (hP : ∀ layout ∈ layouts, P layout)
    (hf : ∀ eng cell, K.Holds eng → cell.Settled setup rt.held eng.state.position →
      K.AllowsControl cell.layout → P cell.layout →
      wp f (fun _ t => Visited K eng cell (fun pos cell' => cell'.Settled setup rt.held pos) t)
        (fun e t => K.Stops e t.1) (eng, cell)) :
    wp (visit f) (fun _ rt' => Stepped K setup layouts rt rt.held rt')
      (fun e rt' => K.Stops e rt'.engine) rt := by
  refine wp_mono (visit_settled (P := fun layout => K.AllowsControl layout ∧ P layout)
    (fun eng cell hK hs hP => hf eng cell hK hs hP.1 hP.2) ?_ h.coherent.holds ?_ h.settled)
    (fun _ rt' hs => h.swept hs) fun _ _ h => h
  · exact h.coherent.layouts_eq ▸ hcfg.distinct.apart
  · exact h.coherent.layouts_eq ▸ fun layout hl => ⟨hcfg.allows layout hl, hP layout hl⟩

/-! ### Reconciliation -/

/-- The held inputs with every input given to the layer it belongs to. -/
def refreshed (layouts : List ControlLayout) (held : HeldInputs) : HeldInputs :=
  { held with selectedInputLayers := refreshSelectedInputLayers held.activeLayers layouts }

/-- The second, third and fourth loop. -/
theorem settle_spec (now : ℕ) (hcfg : Configured K setup layouts) (hlayouts : rt.layouts = layouts)
    (hK : K.Holds rt.engine) (hc : ∀ cell ∈ rt.cells, cell.Consistent rt.engine.state.position)
    (ht : ∀ cell ∈ rt.cells, cell.Targets setup held) :
    wp (do
        let retained ← visit (ControlCell.retainDirections now)
        let released ← visit ControlCell.releaseHold
        let engaged ← visit (ControlCell.engage now)
        return retained || released || engaged)
      (fun _ rt' => Swept K rt (fun _ pos cell' => cell'.Settled setup held pos) rt')
      (fun e rt' => K.Stops e rt'.engine) rt := by
  have hallows : ∀ rt' : UnifiedRuntime I, rt'.layouts = layouts → ∀ cell ∈ rt'.cells,
      K.AllowsControl cell.layout := fun rt' h cell hcell =>
    hcfg.allows _ (h ▸ List.mem_map_of_mem hcell)
  simp only [wp_bind, wp_pure]
  refine wp_mono (visit_spec
    (fun pos cell => cell.Consistent pos ∧ K.AllowsControl cell.layout)
    (fun cell pos cell' => cell'.Consistent pos ∧ Kept cell cell')
    (fun _ _ _ heq h => ⟨h.1.congr heq, h.2⟩)
    (fun _ _ _ _ hl heq h => ⟨h.1.congr (hl ▸ heq), h.2⟩)
    (fun eng cell hK h => ControlCell.retainDirections_spec now hK h.1 h.2)
    (hlayouts ▸ hcfg.distinct.apart) hK fun cell hcell => ⟨hc cell hcell, hallows rt hlayouts cell hcell⟩)
    ?_ fun _ _ h => h
  rintro - rt₁ h₁
  have hlayouts₁ := h₁.layouts.trans hlayouts
  refine wp_mono (visit_spec
    (fun pos cell => cell.Consistent pos ∧ K.AllowsControl cell.layout)
    (fun cell pos cell' => cell'.Consistent pos ∧ Kept cell cell' ∧ cell'.Released)
    (fun _ _ _ heq h => ⟨h.1.congr heq, h.2⟩)
    (fun _ _ _ _ hl heq h => ⟨h.1.congr (hl ▸ heq), h.2⟩)
    (fun eng cell hK h => ControlCell.releaseHold_spec hK h.1 h.2)
    (hlayouts₁ ▸ hcfg.distinct.apart) h₁.holds fun cell hcell => ?_) ?_ fun _ _ h => h
  · obtain ⟨_, -, -, hcons, -⟩ := forall₂_exists_left h₁.cells hcell
    exact ⟨hcons, hallows rt₁ hlayouts₁ cell hcell⟩
  rintro - rt₂ h₂
  have hlayouts₂ := h₂.layouts.trans hlayouts₁
  -- what the first two loops did to each control
  have h₁₂ : List.Forall₂ (fun cell cell₂ => cell₂.layout = cell.layout ∧
      cell₂.Consistent rt₂.engine.state.position ∧ Kept cell cell₂ ∧ cell₂.Released)
      rt.cells rt₂.cells := by
    refine forall₂_trans ?_ h₁.cells h₂.cells
    rintro cell cell₁ cell₂ ⟨hl, -, hk⟩ ⟨hl', hcons, hk', hr⟩
    exact ⟨hl'.trans hl, hcons, ⟨hk'.1.trans hk.1, hk'.2.trans hk.2⟩, hr⟩
  refine wp_mono (visit_spec
    (fun pos cell => cell.Consistent pos ∧ K.AllowsControl cell.layout ∧ cell.Targets setup held ∧
      cell.Released)
    (fun _ pos cell' => cell'.Settled setup held pos)
    (fun _ _ _ heq h => ⟨h.1.congr heq, h.2⟩) (fun _ _ _ _ hl heq h => h.congr (hl ▸ heq))
    (fun eng cell hK h => ControlCell.engage_spec now hK h.1 h.2.1 h.2.2.1 h.2.2.2)
    (hlayouts₂ ▸ hcfg.distinct.apart) h₂.holds fun cell hcell => ?_) ?_ fun _ _ h => h
  · obtain ⟨cell₀, hcell₀, hl, hcons, hk, hr⟩ := forall₂_exists_left h₁₂ hcell
    exact ⟨hcons, hallows rt₂ hlayouts₂ cell hcell, (ht cell₀ hcell₀).of_kept hl hk, hr⟩
  rintro - rt₃ h₃
  refine ⟨h₃.setup.trans (h₂.setup.trans h₁.setup), h₃.held.trans (h₂.held.trans h₁.held), h₃.holds,
    ?_, fun c hc => ?_⟩
  · refine forall₂_trans ?_ h₁₂ h₃.cells
    rintro cell cell₂ cell₃ ⟨hl, -⟩ ⟨hl', hs⟩
    exact ⟨hl'.trans hl, hs⟩
  · rw [h₃.frame c (h₂.layouts ▸ h₁.layouts ▸ hc), h₂.frame c (h₁.layouts ▸ hc), h₁.frame c hc]

omit [TouchInjector I] in
@[simp] theorem wp_onEngine {α : Type} (m : TouchEngine.EngineM I α)
    {Q : α → UnifiedRuntime I → Prop} {R : SessionError → UnifiedRuntime I → Prop} :
    wp (onEngine m) Q R rt ↔ wp m (fun a e => Q a { rt with engine := e })
      (fun err e => R (.engine err) { rt with engine := e }) rt.engine := by
  simp [onEngine]

omit [TouchInjector I] in
@[simp] theorem wp_mapCells (f : ControlCell → ControlCell)
    {Q : PUnit → UnifiedRuntime I → Prop} {R : SessionError → UnifiedRuntime I → Prop} :
    wp (mapCells f) Q R rt ↔ Q ⟨⟩ { rt with cells := rt.cells.map f } := Iff.rfl

/-- **Reconciliation settles every control.** -/
theorem reconcileContinuous_spec (now : ℕ) (hcfg : Configured K setup layouts)
    (h : Coherent K setup layouts rt) :
    wp (reconcileContinuous now)
      (fun _ rt' => Stepped K setup layouts rt (refreshed layouts rt.held) rt')
      (fun e rt' => K.Stops e rt'.engine) rt := by
  rw [reconcileContinuous, refreshLayers, wp_bind, wp_modify, wp_bind, wp_get, wp_bind, wp_mapCells]
  simp only
  have hheld : { rt.held with selectedInputLayers :=
      refreshSelectedInputLayers rt.held.activeLayers rt.layouts } = refreshed layouts rt.held := by
    rw [h.layouts_eq, refreshed]
  rw [hheld, h.setup_eq]
  generalize hheld' : refreshed layouts rt.held = held
  generalize hmid : UnifiedRuntime.mk setup rt.engine (rt.cells.map (desire setup held)) held = mid
  have hlayouts : mid.layouts = layouts := by
    rw [← h.layouts_eq, ← hmid, UnifiedRuntime.layouts, UnifiedRuntime.layouts, List.map_map]
    rfl
  have hengine : mid.engine = rt.engine := by rw [← hmid]
  have hcells : ∀ cell ∈ mid.cells, cell.Consistent mid.engine.state.position ∧
      cell.Targets setup held := by
    rw [hengine, ← hmid]
    intro _ hmem
    obtain ⟨cell, hcell, rfl⟩ := List.mem_map.mp hmem
    exact ⟨(h.consistent cell hcell).of_fields rfl rfl rfl rfl, cell, rfl, rfl, rfl⟩
  refine wp_mono (settle_spec now hcfg hlayouts (hengine ▸ h.holds)
    (fun cell hcell => (hcells cell hcell).1) fun cell hcell => (hcells cell hcell).2)
    ?_ fun _ _ h => h
  rintro - rt' hs
  have hheld'' : rt'.held = held := hs.held.trans (by rw [← hmid])
  have hsettled : ∀ cell ∈ rt'.cells, cell.Settled setup held rt'.engine.state.position := by
    intro cell hcell
    obtain ⟨_, -, -, hcell⟩ := forall₂_exists_left hs.cells hcell
    exact hcell
  refine ⟨⟨⟨hs.setup.trans (by rw [← hmid]), hs.layouts.trans hlayouts, hs.holds,
    fun cell hcell => (hsettled cell hcell).consistent, ?_⟩, ?_, hheld'' ▸ hsettled⟩, hheld'', ?_⟩
  · rw [hheld'', ← hheld']
    exact h.modifiers
  · rw [hheld'', ← hheld']
    rfl
  · rw [← hengine]
    exact hlayouts ▸ hs.frame

/-! ### The calls -/

/-- What is held after a keyboard event. -/
def heldAfterKeyboard (setup : RuntimeSetup) (layouts : List ControlLayout) (held : HeldInputs)
    (event : HostKeyEvent) : HeldInputs :=
  match event.transition, runtimeKey event.key with
  | .repeated, _ | _, none => held
  | .pressed, some key => refreshed layouts (holdKey setup held key true)
  | .released, some key => refreshed layouts (holdKey setup held key false)

/-- What is held after a mouse button went down or up. -/
def heldAfterButton (layouts : List ControlLayout) (held : HeldInputs) (button : HostMouseButton)
    (pressed : Bool) : HeldInputs :=
  refreshed layouts
    { held with heldMouseButtons := setMouseButtonHeld held.heldMouseButtons button pressed }

/-- What is held after a mouse event. -/
def heldAfterMouse (layouts : List ControlLayout) (held : HeldInputs) (event : MouseEvent) :
    HeldInputs :=
  match event with
  | .button button .pressed => heldAfterButton layouts held button true
  | .button button .released => heldAfterButton layouts held button false
  | _ => held

/-- The held modifiers stay the held keys that are modifiers. -/
theorem holdKey_modifiers {key : HostKeyName} {pressed : Bool}
    (h : ∀ key, held.heldModifiers.contains key =
      (setup.modifierKeys.contains key && held.heldKeys.contains key)) (key' : HostKeyName) :
    (holdKey setup held key pressed).heldModifiers.contains key' =
      (setup.modifierKeys.contains key' &&
        (holdKey setup held key pressed).heldKeys.contains key') := by
  have hkey' := h key'
  by_cases hkk : key = key'
  · subst hkk
    cases hm : setup.modifierKeys.contains key <;> cases pressed <;> simp_all [holdKey]
  · cases hm : setup.modifierKeys.contains key <;> cases pressed <;> simp [holdKey, hm, hkk, hkey']

/-- The state of the runtime after the held inputs changed and were reconciled. -/
theorem Stepped.of_held {heldBefore : HeldInputs}
    (h : Stepped K setup layouts { rt with held := heldBefore } held rt') :
    Stepped K setup layouts rt held rt' :=
  ⟨h.invariant, h.held, h.frame⟩

theorem Coherent.hold (h : Coherent K setup layouts rt) {heldBefore : HeldInputs}
    (hmod : ∀ key, heldBefore.heldModifiers.contains key =
      (setup.modifierKeys.contains key && heldBefore.heldKeys.contains key)) :
    Coherent K setup layouts { rt with held := heldBefore } :=
  ⟨h.setup_eq, h.layouts_eq, h.holds, h.consistent, hmod⟩

/-- The first steps of a key event, before taps are dispatched. -/
theorem reconcileKey_spec (key : HostKeyName) (pressed : Bool) (now : ℕ)
    (hcfg : Configured K setup layouts) (h : Invariant K setup layouts rt) :
    wp (reconcileContinuous now) (fun _ rt' => Stepped K setup layouts rt
        (refreshed layouts (holdKey setup rt.held key pressed)) rt')
      (fun e rt' => K.Stops e rt'.engine)
      { rt with held := holdKey rt.setup rt.held key pressed } := by
  have hsetup := h.coherent.setup_eq
  subst hsetup
  exact wp_mono (reconcileContinuous_spec now hcfg
    (h.coherent.hold (holdKey_modifiers h.coherent.modifiers))) (fun _ _ hs => hs.of_held)
    fun _ _ h => h

theorem handleKey_spec (key : HostKeyName) (pressed : Bool) (now : ℕ)
    (hcfg : Configured K setup layouts) (htaps : ∀ layout ∈ layouts, K.AllowsTap layout)
    (h : Invariant K setup layouts rt) :
    wp (handleKey key pressed now) (fun _ rt' => Stepped K setup layouts rt
        (refreshed layouts (holdKey setup rt.held key pressed)) rt')
      (fun e rt' => K.Stops e rt'.engine) rt := by
  simp only [handleKey, wp_bind, wp_modify]
  refine wp_mono (reconcileKey_spec key pressed now hcfg h) ?_ fun _ _ h => h
  rintro submitted rt₁ h₁
  rw [wp_get, wp_ite]
  split
  · exact h₁
  · simp only [wp_bind, wp_pure]
    refine wp_mono (h₁.invariant.visit (P := fun _ => True) hcfg (fun _ _ => trivial)
      fun eng cell hK hs ha _ => ControlCell.onAim_spec
        (fun _ => MouseAimController.toggle_spec now hK) hK hs ha) ?_ fun _ _ h => h
    rintro - rt₂ h₂
    rw [h₁.held] at h₂
    refine wp_mono (h₂.invariant.visit hcfg htaps fun eng cell hK hs ha htap => ?_) ?_
      fun _ _ h => h
    · rw [h₁.held]
      rw [h₂.held] at hs ⊢
      exact ControlCell.dispatchKeyboardPress_spec key now hK hs ha htap
    · rintro - rt₃ h₃
      exact (h₁.trans h₂).trans (h₂.held ▸ h₃)

/-- **A keyboard event** keeps the invariant. -/
theorem handleKeyboard_spec (event : HostKeyEvent) (now : ℕ)
    (hcfg : Configured K setup layouts) (htaps : ∀ layout ∈ layouts, K.AllowsTap layout)
    (h : Invariant K setup layouts rt) :
    wp (handleKeyboard event now) (fun _ rt' => Stepped K setup layouts rt
        (heldAfterKeyboard setup layouts rt.held event) rt')
      (fun e rt' => K.Stops e rt'.engine) rt := by
  obtain ⟨hostKey, transition⟩ := event
  cases transition with
  | repeated => exact .refl h
  | pressed =>
    cases hostKey with
    | f12 => exact .refl h
    | named key => exact handleKey_spec key true now hcfg htaps h
  | released =>
    cases hostKey with
    | f12 => exact .refl h
    | named key => exact handleKey_spec key false now hcfg htaps h

/-- Scaling the aims, and holding other buttons, keeps the runtime coherent. -/
theorem Coherent.setAds (h : Coherent K setup layouts rt) (active : Bool) :
    Coherent K setup layouts { rt with cells := rt.cells.map (ControlCell.setAds active) } := by
  refine ⟨h.setup_eq, ?_, h.holds, ?_, h.modifiers⟩
  · rw [← h.layouts_eq, UnifiedRuntime.layouts, UnifiedRuntime.layouts, List.map_map]
    rfl
  · intro _ hmem
    obtain ⟨cell, hcell, rfl⟩ := List.mem_map.mp hmem
    exact (h.consistent cell hcell).setAds active

theorem Coherent.holdButton (h : Coherent K setup layouts rt) (button : HostMouseButton)
    (pressed : Bool) : Coherent K setup layouts (holdButton button pressed rt) := by
  unfold UnifiedRuntime.holdButton
  split
  · exact (h.setAds pressed).hold h.modifiers
  · exact h.hold h.modifiers

/-- The first steps of a button event, before taps are dispatched. -/
theorem reconcileButton_spec (button : HostMouseButton) (pressed : Bool) (now : ℕ)
    (hcfg : Configured K setup layouts) (h : Invariant K setup layouts rt) :
    wp (reconcileContinuous now)
      (fun _ rt' => Stepped K setup layouts rt (heldAfterButton layouts rt.held button pressed) rt')
      (fun e rt' => K.Stops e rt'.engine) (holdButton button pressed rt) :=
  wp_mono (reconcileContinuous_spec now hcfg (h.coherent.holdButton button pressed))
    (fun _ _ hs => ⟨hs.invariant, hs.held, hs.frame⟩) fun _ _ h => h

theorem handleButton_spec (button : HostMouseButton) (pressed : Bool) (now : ℕ)
    (hcfg : Configured K setup layouts) (htaps : ∀ layout ∈ layouts, K.AllowsTap layout)
    (h : Invariant K setup layouts rt) :
    wp (handleButton button pressed now)
      (fun _ rt' => Stepped K setup layouts rt (heldAfterButton layouts rt.held button pressed) rt')
      (fun e rt' => K.Stops e rt'.engine) rt := by
  simp only [handleButton, wp_bind, wp_modify]
  refine wp_mono (reconcileButton_spec button pressed now hcfg h) ?_ fun _ _ h => h
  rintro submitted rt₁ h₁
  rw [wp_get, wp_ite]
  split
  · exact h₁
  · simp only [wp_bind, wp_pure]
    refine wp_mono (h₁.invariant.visit hcfg htaps fun eng cell hK hs ha htap =>
      ControlCell.dispatchMousePress_spec button hK hs htap) ?_ fun _ _ h => h
    rintro - rt₂ h₂
    exact h₁.trans (h₁.held ▸ h₂)

/-- **A mouse event** keeps the invariant. -/
theorem handleMouse_spec (event : MouseEvent) (now : ℕ)
    (hcfg : Configured K setup layouts) (htaps : ∀ layout ∈ layouts, K.AllowsTap layout)
    (h : Invariant K setup layouts rt) :
    wp (handleMouse event now)
      (fun _ rt' => Stepped K setup layouts rt (heldAfterMouse layouts rt.held event) rt')
      (fun e rt' => K.Stops e rt'.engine) rt := by
  cases event with
  | motion dx dy =>
    simp only [handleMouse, wp_ite]
    split
    · exact h.visit (P := fun _ => True) hcfg (fun _ _ => trivial) fun eng cell hK hs ha _ =>
        ControlCell.onAim_spec (fun _ => MouseAimController.moveBy_spec _ now hK) hK hs ha
    · exact .refl h
  | wheel vertical horizontal => exact .refl h
  | button button transition =>
    cases transition with
    | pressed => exact handleButton_spec button true now hcfg htaps h
    | released => exact handleButton_spec button false now hcfg htaps h
    | repeated => exact .refl h

/-- **A tick** keeps the invariant. -/
theorem tick_spec (now : ℕ) (hcfg : Configured K setup layouts) (h : Invariant K setup layouts rt) :
    wp (tick now) (fun _ rt' => Stepped K setup layouts rt rt.held rt')
      (fun e rt' => K.Stops e rt'.engine) rt := by
  simp only [tick, wp_bind, wp_pure]
  refine wp_mono (h.visit (P := fun _ => True) hcfg (fun _ _ => trivial) fun eng cell hK hs ha _ =>
    ControlCell.onAim_spec (fun _ => MouseAimController.tick_spec now hK) hK hs ha) ?_ fun _ _ h => h
  rintro - rt₁ h₁
  refine wp_mono (h₁.invariant.visit (P := fun _ => True) hcfg (fun _ _ => trivial)
    fun eng cell hK hs ha _ => ControlCell.reaffirmJoystick_spec now hK hs ha) ?_ fun _ _ h => h
  rintro - rt₂ h₂
  exact h₁.trans (h₁.held ▸ h₂)

/-- What is held once no mouse button is. -/
def heldAfterRelease (layouts : List ControlLayout) (held : HeldInputs) : HeldInputs :=
  if held.heldMouseButtons ≠ 0 then refreshed layouts { held with heldMouseButtons := 0 } else held

theorem releaseMouseButtons_spec (now : ℕ) (hcfg : Configured K setup layouts)
    (h : Invariant K setup layouts rt) :
    wp (releaseMouseButtons now)
      (fun _ rt' => Stepped K setup layouts rt (heldAfterRelease layouts rt.held) rt')
      (fun e rt' => K.Stops e rt'.engine) rt := by
  simp only [releaseMouseButtons, wp_bind, wp_get, wp_ite, wp_set, wp_pure]
  split
  · next hne =>
    rw [heldAfterRelease, if_pos hne]
    refine wp_mono (reconcileContinuous_spec now hcfg
      ((h.coherent.setAds false).hold h.coherent.modifiers)) ?_ fun _ _ h => h
    exact fun _ _ hs => ⟨hs.invariant, hs.held, hs.frame⟩
  · next heq =>
    rw [heldAfterRelease, if_neg heq]
    exact .refl h

theorem start_spec (now : ℕ) (hcfg : Configured K setup layouts) (h : Invariant K setup layouts rt) :
    wp (start now) (fun _ rt' => Stepped K setup layouts rt rt.held rt')
      (fun e rt' => K.Stops e rt'.engine) rt := by
  simp only [start, wp_bind, wp_pure]
  exact h.visit (P := fun _ => True) hcfg (fun _ _ => trivial) fun eng cell hK hs ha _ =>
    ControlCell.onAim_spec (fun _ => MouseAimController.activate_spec now hK) hK hs ha

theorem restoreAim_spec (reactivate : Bool) (now : ℕ) (hcfg : Configured K setup layouts)
    (h : Invariant K setup layouts rt) :
    wp (restoreAim reactivate now) (fun _ rt' => Stepped K setup layouts rt rt.held rt')
      (fun e rt' => K.Stops e rt'.engine) rt := by
  simp only [restoreAim, wp_bind, wp_pure]
  exact h.visit (P := fun _ => True) hcfg (fun _ _ => trivial) fun eng cell hK hs ha _ =>
    ControlCell.onAim_spec (fun _ => MouseAimController.activate_spec now hK) hK hs ha

theorem setAimEnabled_spec (enabled : Bool) (now : ℕ) (hcfg : Configured K setup layouts)
    (h : Invariant K setup layouts rt) :
    wp (setAimEnabled enabled now) (fun _ rt' => Stepped K setup layouts rt rt.held rt')
      (fun e rt' => K.Stops e rt'.engine) rt := by
  simp only [setAimEnabled, wp_ite]
  split
  · exact restoreAim_spec true now hcfg h
  · simp only [wp_bind, wp_pure]
    exact h.visit (P := fun _ => True) hcfg (fun _ _ => trivial) fun eng cell hK hs ha _ =>
      ControlCell.onAim_spec (fun _ => MouseAimController.deactivate_spec hK) hK hs ha

/-! ### The cursor -/

/-- What an operation on the cursor leaves behind: only the contact of the cursor moved. -/
structure CursorStepped (K : Contract I) (setup : RuntimeSetup) (layouts : List ControlLayout)
    (rt : UnifiedRuntime I) (place : Option Point) (rt' : UnifiedRuntime I) : Prop where
  invariant : Invariant K setup layouts rt'
  held : rt'.held = rt.held
  cells : rt'.cells = rt.cells
  place : rt'.engine.state.position setup.cursorContact = place
  frame : ∀ c ≠ setup.cursorContact, rt'.engine.state.position c = rt.engine.state.position c

theorem CursorStepped.refl (h : Invariant K setup layouts rt) :
    CursorStepped K setup layouts rt (rt.engine.state.position setup.cursorContact) rt :=
  ⟨h, rfl, rfl, rfl, fun _ _ => rfl⟩

theorem CursorStepped.of_engine (hcfg : Configured K setup layouts)
    (h : Invariant K setup layouts rt) {eng : TouchEngine I} {place : Option Point}
    (hK : K.Holds eng) (hpos : ∀ c, eng.state.position c =
      if setup.cursorContact = c then place else rt.engine.state.position c) :
    CursorStepped K setup layouts rt place { rt with engine := eng } := by
  have hframe : ∀ c ≠ setup.cursorContact, eng.state.position c = rt.engine.state.position c :=
    fun c hc => by rw [hpos, if_neg hc.symm]
  have howned : ∀ cell ∈ rt.cells, ∀ c ∈ cell.layout.Owns,
      eng.state.position c = rt.engine.state.position c := by
    intro cell hcell c hc
    have hlayout : cell.layout ∈ layouts := h.coherent.layouts_eq ▸
      (List.mem_map_of_mem hcell : cell.layout ∈ rt.cells.map ControlCell.layout)
    exact hframe c fun heq => hcfg.distinct.cursor _ hlayout (heq ▸ hc)
  refine ⟨⟨⟨h.coherent.setup_eq, h.coherent.layouts_eq, hK, fun cell hcell => ?_,
    h.coherent.modifiers⟩, h.selected, fun cell hcell => ?_⟩, rfl, rfl, ?_, hframe⟩
  · exact (h.coherent.consistent cell hcell).congr (howned cell hcell)
  · exact (h.settled cell hcell).congr (howned cell hcell)
  · simp [hpos]

theorem cursorDown_spec (position : Point) (hcfg : Configured K setup layouts)
    (ha : K.AllowsAt setup.cursorContact position) (h : Invariant K setup layouts rt) :
    wp (cursorDown position) (fun _ rt' => CursorStepped K setup layouts rt (some position) rt')
      (fun e rt' => K.Stops e rt'.engine) rt := by
  have hsetup := h.coherent.setup_eq
  subst hsetup
  simp only [cursorDown, wp_bind, wp_get, wp_ite, wp_onEngine, TouchState.isActive_eq]
  split
  · next hdown =>
    refine wp_mono (TouchEngine.moveContact_spec h.coherent.holds
      (Option.isSome_iff_ne_none.mp hdown) ha) ?_ fun _ _ h => h.stops
    exact fun _ e he => .of_engine hcfg h he.1 he.2
  · next hup =>
    refine wp_mono (TouchEngine.beginContact_spec h.coherent.holds (by simpa using hup) ha) ?_
      fun _ _ h => h.stops
    exact fun _ e he => .of_engine hcfg h he.1 he.2

theorem cursorMove_spec (position : Point) (hcfg : Configured K setup layouts)
    (ha : K.AllowsAt setup.cursorContact position) (h : Invariant K setup layouts rt) :
    wp (cursorMove position) (fun _ rt' => ∃ place, CursorStepped K setup layouts rt place rt' ∧
        (rt.engine.state.position setup.cursorContact = none → place = none))
      (fun e rt' => K.Stops e rt'.engine) rt := by
  have hsetup := h.coherent.setup_eq
  subst hsetup
  simp only [cursorMove, wp_bind, wp_get, wp_ite, wp_onEngine, wp_pure, TouchState.isActive_eq]
  split
  · next hdown =>
    have hdown := Option.isSome_iff_ne_none.mp hdown
    refine wp_mono (TouchEngine.moveContact_spec h.coherent.holds hdown ha) ?_
      fun _ _ h => h.stops
    exact fun _ e he => ⟨_, .of_engine hcfg h he.1 he.2, fun hup => absurd hup hdown⟩
  · exact ⟨_, .refl h, id⟩

theorem cursorUp_spec (hcfg : Configured K setup layouts)
    (ha : ∀ p, K.AllowsAt setup.cursorContact p) (h : Invariant K setup layouts rt) :
    wp cursorUp (fun _ rt' => CursorStepped K setup layouts rt none rt')
      (fun e rt' => K.Stops e rt'.engine) rt := by
  have hsetup := h.coherent.setup_eq
  subst hsetup
  simp only [cursorUp, wp_bind, wp_get, wp_ite, wp_onEngine, wp_pure, TouchState.isActive_eq]
  split
  · next hdown =>
    obtain ⟨p, hp⟩ := Option.isSome_iff_exists.mp hdown
    refine wp_mono (TouchEngine.endContact_spec h.coherent.holds hp (ha p)) ?_ fun _ _ h => h.stops
    exact fun _ e he => .of_engine hcfg h he.1 he.2
  · next hup =>
    have hup : rt.engine.state.position rt.setup.cursorContact = none := by simpa using hup
    exact hup ▸ .refl h

/-! ### Suspension -/

/-- Whatever was down or held, **after `suspend` returned nothing is**. -/
theorem suspend_clears (rt : UnifiedRuntime I) (hcancel : ∀ eng : TouchEngine I,
      wp TouchEngine.cancelAll (fun _ e => ∀ c, e.state.position c = none) (fun _ _ => True) eng) :
    wp suspend (fun _ rt' => rt'.held = .none ∧ ∀ c, rt'.engine.state.position c = none)
      (fun _ _ => True) rt := by
  simp only [suspend, wp_bind, wp_zoom, wp_get, wp_pure, wp_attempt, wp_onEngine, wp_modify]
  refine wp_mono (Q := fun _ _ => True) (R := fun _ _ => True) ?_ ?_ fun _ _ h => h
  · unfold wp
    split <;> trivial
  rintro - t -
  refine wp_mono (hcancel t.1.1) ?_ ?_
  · rintro _ e hup
    split
    · exact ⟨rfl, hup⟩
    · trivial
  · intro error e _
    cases t.1.2 <;> trivial

theorem suspend_spec (hfail : ∀ st e, ¬ K.Failed st e)
    (hcancel : ∀ eng, K.Holds eng → K.Allowed (TouchEngine.cancelFrame eng.state))
    (hcfg : Configured K setup layouts) (h : Invariant K setup layouts rt) :
    wp suspend (fun _ rt' => Invariant K setup layouts rt' ∧ rt'.held = .none ∧
        ∀ c, rt'.engine.state.position c = none)
      (fun e rt' => K.Stops e rt'.engine) rt := by
  have hapart : rt.layouts.Pairwise fun l l' => Disjoint l.Owns l'.Owns :=
    h.coherent.layouts_eq ▸ hcfg.distinct.apart
  have hd : rt.cells.Pairwise fun cell cell' => Disjoint cell.layout.Owns cell'.layout.Owns :=
    (List.pairwise_map (R := fun l l' : ControlLayout => Disjoint l.Owns l'.Owns)).mp hapart
  simp only [suspend, wp_bind, wp_zoom, wp_get, wp_pure, wp_attempt, wp_onEngine, wp_modify]
  refine wp_mono (wp_each_frame (fun s : TouchEngine I × Option SessionError => s.1.state.position)
    (fun cell : ControlCell => cell.layout.Owns) (fun s => K.Holds s.1 ∧ s.2 = none)
    (fun s cell => cell.Consistent s.1.state.position ∧ K.AllowsControl cell.layout)
    (fun cell s cell' => cell'.layout = cell.layout ∧ cell'.Consistent s.1.state.position ∧
      cell'.AimIdle) (fun _ _ => False) (fun _ _ _ heq h => ⟨h.1.congr heq, h.2⟩)
    (fun _ _ _ _ heq h => ⟨h.1, h.2.1.congr (h.1 ▸ heq), h.2.2⟩) ?_ hd ⟨h.coherent.holds, rfl⟩ ?_) ?_
    fun _ _ h => h.elim
  · rintro ⟨eng, failure⟩ cell ⟨hK, rfl⟩ ⟨hcons, ha⟩
    refine wp_mono (cancelAim_spec hfail hK hcons ha) ?_ fun _ _ h => h
    rintro - t ⟨hnone, hv⟩
    exact ⟨⟨hv.holds, hnone⟩, ⟨hv.layout, hv.post⟩, hv.frame⟩
  · intro cell hcell
    exact ⟨h.coherent.consistent cell hcell,
      hcfg.allows _ (h.coherent.layouts_eq ▸ List.mem_map_of_mem hcell)⟩
  rintro - ⟨⟨eng, failure⟩, cells⟩ ⟨⟨hK, rfl⟩, hcells, -⟩
  refine wp_mono (TouchEngine.cancelAll_spec hK (hcancel eng hK)) ?_ ?_
  · rintro _ e ⟨hK', hup⟩
    have hreset : ∀ cell ∈ cells.map reset, cell.Settled setup .none e.state.position := by
      intro _ hmem
      obtain ⟨cell, hcell, rfl⟩ := List.mem_map.mp hmem
      obtain ⟨_, -, -, hcons, hidle⟩ := forall₂_exists_left hcells hcell
      exact (hcons.reset hidle hup).settled_none rfl rfl
    refine ⟨⟨⟨h.coherent.setup_eq, ?_, hK', fun cell hcell => (hreset cell hcell).consistent, ?_⟩,
      ?_, hreset⟩, rfl, hup⟩
    · rw [UnifiedRuntime.layouts, List.map_map, ← h.coherent.layouts_eq]
      exact layouts_eq_of_forall₂ hcells
    · intro key
      simp [HeldInputs.none]
    · exact (refreshSelectedInputLayers_none layouts).symm
  · rintro error e ⟨cause, -, hcause⟩
    exact (hfail _ _ hcause).elim

end UnifiedRuntime

end Wroid
