import Wroid.Runtime.Touch

/-!
# Mouse aim

Turns relative mouse motion into the motion of a touch contact inside a region.  When the
contact gets too far from the centre of the region, a second contact takes over there: at
once, or after a gap during which neither is down.

Durations are natural numbers of nanoseconds.  Plain `i64` additions wrap, as they do in a
release build.

## Main definitions

* `MouseAim`, `MouseAimSettings` — what is configured, valid by construction.
* `MouseAimController` — the controller, with `activate`, `deactivate`, `moveBy`, `tick`.
* `MouseAimController.Agrees` — the controller's view of its contacts is the engine's.
* `AimStep` — what an operation of the controller may do.

## Main results

* `activate_spec`, `deactivate_spec`, `toggle_spec`, `moveBy_spec`, `tick_spec`,
  `cancel_spec` — every operation keeps the two in agreement, only touches the controller's
  own contacts, and keeps them inside the region.
-/

namespace Wroid

open Lib TouchEngine

/-! ### Configuration -/

/-- A motion of the mouse. -/
structure MouseAimDelta where
  dx : ℤ
  dy : ℤ
  deriving DecidableEq, Repr

def MouseAimDelta.isZero (delta : MouseAimDelta) : Bool := delta.dx = 0 ∧ delta.dy = 0

inductive MouseAimConfigError
  | invalidResolution (width height : ℕ)
  | invalidRegion (left top right bottom width height : ℕ)
  | originOutOfRegion (x y left top right bottom : ℕ)
  | invalidSensitivity (numerator denominator : ℕ)
  | duplicateContactId (contactId : ContactId)
  | invalidRecenterThreshold (milli : ℕ)
  | zeroReaffirmInterval
  deriving DecidableEq, Repr

/-- A scale factor. -/
structure MouseAimSensitivity where
  numerator : ℕ
  denominator : ℕ
  numerator_ne : numerator ≠ 0
  denominator_ne : denominator ≠ 0

def MouseAimSensitivity.new (numerator denominator : ℕ) :
    Except MouseAimConfigError MouseAimSensitivity :=
  if h : numerator = 0 ∨ denominator = 0 then .error (.invalidSensitivity numerator denominator)
  else .ok ⟨numerator, denominator, by tauto, by tauto⟩

/-- The pixels an aim contact moves in, borders included. -/
structure MouseAimRegion where
  left : ℕ
  top : ℕ
  right : ℕ
  bottom : ℕ
  deriving DecidableEq, Repr

namespace MouseAimRegion

def validate (region : MouseAimRegion) (resolution : Resolution) :
    Except MouseAimConfigError MouseAimRegion :=
  if resolution.width = 0 ∨ resolution.height = 0 then
    .error (.invalidResolution resolution.width resolution.height)
  else if region.right < region.left ∨ region.bottom < region.top ∨
      resolution.width ≤ region.right ∨ resolution.height ≤ region.bottom then
    .error (.invalidRegion region.left region.top region.right region.bottom
      resolution.width resolution.height)
  else .ok region

def Contains (region : MouseAimRegion) (p : Point) : Prop :=
  region.left ≤ p.x ∧ p.x ≤ region.right ∧ region.top ≤ p.y ∧ p.y ≤ region.bottom

instance (region : MouseAimRegion) (p : Point) : Decidable (region.Contains p) :=
  inferInstanceAs (Decidable (_ ∧ _))

def clamp (region : MouseAimRegion) (p : Point) : Point :=
  ⟨max region.left (min p.x region.right), max region.top (min p.y region.bottom)⟩

/-- The pixels of the region, as a set. -/
def pixels (region : MouseAimRegion) : Set Point := { p | region.Contains p }

end MouseAimRegion

/-- Where an aim contact starts, and where and how fast it moves. -/
structure MouseAim where
  contactId : ContactId
  origin : Point
  region : MouseAimRegion
  sensitivity : MouseAimSensitivity
  origin_inside : region.Contains origin

namespace MouseAim

def new (contactId : ContactId) (origin : Point) (region : MouseAimRegion)
    (resolution : Resolution) (sensitivity : MouseAimSensitivity) :
    Except MouseAimConfigError MouseAim := do
  let region ← region.validate resolution
  if h : region.Contains origin then
    return ⟨contactId, origin, region, sensitivity, h⟩
  else
    throw (.originOutOfRegion origin.x origin.y region.left region.top region.right region.bottom)

/-- An aim gets the contact identifier it is made with. -/
theorem new_contactId {contactId : ContactId} {origin : Point} {region : MouseAimRegion}
    {resolution : Resolution} {sensitivity : MouseAimSensitivity} {aim : MouseAim}
    (h : new contactId origin region resolution sensitivity = .ok aim) :
    aim.contactId = contactId := by
  simp only [new, bind, Except.bind] at h
  split at h
  · cases h
  · split at h
    · obtain rfl := Except.ok.inj h
      rfl
    · cases h

/-- Clamping ends inside the region, which is not empty. -/
theorem clamp_inside (aim : MouseAim) (p : Point) : aim.region.Contains (aim.region.clamp p) := by
  obtain ⟨h₁, h₂, h₃, h₄⟩ := aim.origin_inside
  simp only [MouseAimRegion.Contains, MouseAimRegion.clamp]
  omega

end MouseAim

structure MouseAimSettings where
  alternateContactId : ContactId
  toggleKey : Option String
  recenterThresholdMilli : ℕ
  recenterGap : ℕ
  adsMultiplier : Option MouseAimSensitivity
  reaffirmInterval : Option ℕ

/-- What an operation of the controller did. -/
inductive MouseAimUpdate
  | ignored
  | activated
  | moved
  | recentered
  | deactivated
  | reaffirmed
  deriving DecidableEq, Repr

/-- A contact that will take over once the gap is over. -/
structure PendingRecenter where
  contactId : ContactId
  previousContactId : ContactId
  readyAt : ℕ
  dx : ℤ
  dy : ℤ
  deriving DecidableEq, Repr

/-- The controller; its settings have passed the checks of `new`. -/
structure MouseAimController where
  aim : MouseAim
  settings : MouseAimSettings
  activeContactId : Option ContactId
  nextContactId : ContactId
  pendingRecenter : Option PendingRecenter
  adsActive : Bool
  recenterCount : ℕ
  lastReaffirmAt : Option ℕ
  carryX : ℤ
  carryY : ℤ
  alternate_ne : settings.alternateContactId ≠ aim.contactId

/-! ### Arithmetic -/

/-- `Duration::MAX` in nanoseconds. -/
def durationMax : ℕ := u64Max * 1000000000 + 999999999

/-- One step of the fixed-point accumulator: the whole pixels, and the remainder kept. -/
def scaleStep (carry delta numerator denominator : ℤ) : ℤ × ℤ :=
  if denominator = 0 then (0, carry)
  else
    let scaled := saturateI64 (saturateI64 (delta * numerator) + carry)
    (scaled.tdiv denominator, scaled.tmod denominator)

def aimOffsetAxis (value : ℕ) (delta : ℤ) : ℕ :=
  let value := wrapI64 (value + delta)
  if value ≤ 0 then 0 else if (u32Max : ℤ) ≤ value then u32Max else value.toNat

def offsetPoint (point : Point) (dx dy : ℤ) : Point :=
  ⟨aimOffsetAxis point.x dx, aimOffsetAxis point.y dy⟩

namespace MouseAimController

/-- A controller of the given configuration that controls nothing yet. -/
def new (aim : MouseAim) (settings : MouseAimSettings) :
    Except MouseAimConfigError MouseAimController :=
  if h : settings.alternateContactId = aim.contactId then
    .error (.duplicateContactId aim.contactId)
  else if ¬ (100 ≤ settings.recenterThresholdMilli ∧ settings.recenterThresholdMilli ≤ 1000) then
    .error (.invalidRecenterThreshold settings.recenterThresholdMilli)
  else if settings.reaffirmInterval = some 0 then .error .zeroReaffirmInterval
  else
    .ok
      { aim := aim
        settings := settings
        activeContactId := none
        nextContactId := settings.alternateContactId
        pendingRecenter := none
        adsActive := false
        recenterCount := 0
        lastReaffirmAt := none
        carryX := 0
        carryY := 0
        alternate_ne := h }

def isActive (c : MouseAimController) : Bool :=
  c.activeContactId.isSome || c.pendingRecenter.isSome

def resetAccumulator (c : MouseAimController) : MouseAimController :=
  { c with carryX := 0, carryY := 0 }

def setAdsActive (c : MouseAimController) (active : Bool) : MouseAimController :=
  -- a change of scale drops the remainder taken under the previous one
  { if c.adsActive ≠ active then c.resetAccumulator else c with adsActive := active }

def scaledDelta (c : MouseAimController) (delta : MouseAimDelta) : (ℤ × ℤ) × MouseAimController :=
  let numerator : ℤ := c.aim.sensitivity.numerator
  let denominator : ℤ := c.aim.sensitivity.denominator
  let (numerator, denominator) :=
    match c.adsActive, c.settings.adsMultiplier with
    | true, some multiplier =>
      (saturateI64 (numerator * multiplier.numerator),
        saturateI64 (denominator * multiplier.denominator))
    | _, _ => (numerator, denominator)
  let x := scaleStep c.carryX delta.dx numerator denominator
  let y := scaleStep c.carryY delta.dy numerator denominator
  ((x.1, y.1), { c with carryX := x.2, carryY := y.2 })

def pastRecenterThreshold (c : MouseAimController) (target : Point) : Bool :=
  let halfWidth := (c.aim.region.right - c.aim.region.left) / 2
  let halfHeight := (c.aim.region.bottom - c.aim.region.top) / 2
  let radius := min (min halfWidth halfHeight * c.settings.recenterThresholdMilli) u64Max / 1000
  let dx : ℤ := target.x - c.aim.origin.x
  let dy : ℤ := target.y - c.aim.origin.y
  let distanceSquared := saturateI64 (saturateI64 (dx * dx) + saturateI64 (dy * dy))
  min (radius * radius) u64Max < distanceSquared.toNat

/-! ### Operations -/

variable {I : Type} [TouchInjector I]

/-- A computation on an engine and one controller. -/
abbrev ControllerM (I : Type) := EStateM TouchEngineError (TouchEngine I × MouseAimController)

/-- Use the engine. -/
def onEngine {α : Type} (m : EngineM I α) : ControllerM I α := zoom Prod.fst (fun e t => (e, t.2)) m

def update (f : MouseAimController → MouseAimController) : ControllerM I Unit :=
  modify fun t => (t.1, f t.2)

def activate (now : ℕ) : ControllerM I MouseAimUpdate := do
  let (_, c) ← get
  if c.isActive then return .ignored
  onEngine (beginContact c.aim.contactId c.aim.origin)
  update fun c => { c with
    activeContactId := some c.aim.contactId
    nextContactId := c.settings.alternateContactId
    lastReaffirmAt := some now }
  return .activated

def applyResidual (contactId : ContactId) (dx dy : ℤ) : ControllerM I Unit := do
  let (_, c) ← get
  let target := c.aim.region.clamp (offsetPoint c.aim.origin dx dy)
  if target ≠ c.aim.origin then onEngine (moveContact contactId target)

def tick (now : ℕ) : ControllerM I MouseAimUpdate := do
  let (engine, c) ← get
  match c.pendingRecenter with
  | some pending =>
    if now < pending.readyAt then return .ignored
    onEngine (beginContact pending.contactId c.aim.origin)
    update fun c => { c with
      activeContactId := some pending.contactId
      nextContactId := pending.previousContactId
      pendingRecenter := none
      lastReaffirmAt := some now }
    applyResidual pending.contactId pending.dx pending.dy
    return .recentered
  | none =>
    match c.settings.reaffirmInterval, c.activeContactId with
    | some interval, some contactId =>
      if c.lastReaffirmAt.any fun last => now - last < interval then return .ignored
      match engine.state.position contactId with
      | none => return .ignored
      | some position =>
        onEngine (moveContact contactId position)
        update fun c => { c with lastReaffirmAt := some now }
        return .reaffirmed
    | _, _ => return .ignored

def recenter (oldContactId : ContactId) (oldPosition : Point) (dx dy : ℤ) (now : ℕ) :
    ControllerM I MouseAimUpdate := do
  let (_, c) ← get
  if c.settings.recenterGap = 0 then
    onEngine (submit (Contract.handOverFrame c.nextContactId c.aim.origin oldContactId oldPosition))
    update fun d => { d with
      activeContactId := some c.nextContactId
      nextContactId := oldContactId
      lastReaffirmAt := some now }
    applyResidual c.nextContactId dx dy
  else
    onEngine (endContact oldContactId)
    update fun d => { d with
      activeContactId := none
      pendingRecenter := some
        ⟨c.nextContactId, oldContactId, min (now + c.settings.recenterGap) durationMax, dx, dy⟩ }
  update fun d => { d with recenterCount := min (d.recenterCount + 1) u64Max }
  return .recentered

def moveBy (delta : MouseAimDelta) (now : ℕ) : ControllerM I MouseAimUpdate := do
  let (engine, c) ← get
  if delta.isZero || !c.isActive then return .ignored
  let ((dx, dy), scaled) := c.scaledDelta delta
  update fun _ => scaled
  match c.pendingRecenter with
  | some pending =>
    update fun d => { d with pendingRecenter := some { pending with
      dx := saturateI64 (pending.dx + dx), dy := saturateI64 (pending.dy + dy) } }
    tick now
  | none =>
    match c.activeContactId with
    | none => return .ignored
    | some contactId =>
      match engine.state.position contactId with
      | none => return .ignored
      | some current =>
        let target := c.aim.region.clamp (offsetPoint current dx dy)
        if target = current then return .ignored
        if c.pastRecenterThreshold target then recenter contactId current dx dy now
        else do
          onEngine (moveContact contactId target)
          update fun d => { d with lastReaffirmAt := some now }
          return .moved

def deactivate : ControllerM I MouseAimUpdate := do
  let (engine, c) ← get
  update fun d => { d with activeContactId := none }
  let lifted ← match c.activeContactId with
    | some contactId =>
      if engine.state.isActive contactId then do
        onEngine (endContact contactId)
        pure true
      else pure false
    | none => pure false
  update fun d => { d with
    pendingRecenter := none, adsActive := false, lastReaffirmAt := none, carryX := 0, carryY := 0 }
  return if lifted || c.pendingRecenter.isSome then .deactivated else .ignored

def toggle (now : ℕ) : ControllerM I MouseAimUpdate := do
  let (_, c) ← get
  if c.isActive then deactivate else activate now

def cancel : ControllerM I Bool := do
  let (engine, c) ← get
  update fun d => { d with pendingRecenter := none, activeContactId := none }
  let lifted ← match c.activeContactId with
    | some contactId =>
      match engine.state.position contactId with
      | some position => do
        onEngine (cancelContact contactId position)
        pure true
      | none => pure false
    | none => pure false
  update fun d => { d with adsActive := false, lastReaffirmAt := none, carryX := 0, carryY := 0 }
  return lifted || c.pendingRecenter.isSome

/-! ### Agreement with the engine -/

/-- The contacts of a controller. -/
def contacts (c : MouseAimController) : Set ContactId :=
  {c.aim.contactId, c.settings.alternateContactId}

/-- The contact that takes turns with `a`. -/
def other (c : MouseAimController) (a : ContactId) : ContactId :=
  if a = c.aim.contactId then c.settings.alternateContactId else c.aim.contactId

theorem other_ne {c : MouseAimController} {a : ContactId} (h : a ∈ c.contacts) : c.other a ≠ a := by
  have := c.alternate_ne
  rcases h with rfl | rfl <;> simp [other, this, Ne.symm this]

theorem other_other {c : MouseAimController} {a : ContactId} (h : a ∈ c.contacts) :
    c.other (c.other a) = a := by
  have := c.alternate_ne
  rcases h with rfl | rfl <;> simp [other, this]

theorem other_mem (c : MouseAimController) (a : ContactId) : c.other a ∈ c.contacts := by
  unfold other contacts
  split <;> simp

theorem eq_or_eq_other {c : MouseAimController} {a d : ContactId} (ha : a ∈ c.contacts)
    (hd : d ∈ c.contacts) : d = a ∨ d = c.other a := by
  have := c.alternate_ne
  rcases ha with rfl | rfl <;> rcases hd with rfl | rfl <;> simp [other, this]

/-- The controller and the positions of its contacts agree: idle with both up, tracking one
contact inside the region, or waiting with both up. -/
inductive Agrees (c : MouseAimController) (pos : ContactId → Option Point) : Prop
  | idle (active : c.activeContactId = none) (pending : c.pendingRecenter = none)
      (up : ∀ d ∈ c.contacts, pos d = none)
  | tracking (a : ContactId) (p : Point) (active : c.activeContactId = some a)
      (pending : c.pendingRecenter = none) (mem : a ∈ c.contacts)
      (next : c.nextContactId = c.other a) (down : pos a = some p)
      (inside : c.aim.region.Contains p) (up : pos (c.other a) = none)
  | waiting (r : PendingRecenter) (active : c.activeContactId = none)
      (pending : c.pendingRecenter = some r) (mem : r.contactId ∈ c.contacts)
      (previous : r.previousContactId = c.other r.contactId)
      (up : ∀ d ∈ c.contacts, pos d = none)

/-- Only the positions of the controller's own contacts matter. -/
theorem Agrees.congr {c : MouseAimController} {pos pos' : ContactId → Option Point}
    (h : c.Agrees pos) (heq : ∀ d ∈ c.contacts, pos' d = pos d) : c.Agrees pos' := by
  cases h with
  | idle active pending up => exact .idle active pending fun d hd => by rw [heq d hd, up d hd]
  | tracking a p active pending mem next down inside up =>
    exact .tracking a p active pending mem next (by rw [heq a mem, down]) inside
      (by rw [heq _ (c.other_mem a), up])
  | waiting r active pending mem previous up =>
    exact .waiting r active pending mem previous fun d hd => by rw [heq d hd, up d hd]

/-- While the controller is not active, its contacts are up. -/
theorem Agrees.up_of_not_isActive {c : MouseAimController} {pos : ContactId → Option Point}
    (h : c.Agrees pos) (hc : c.isActive = false) : ∀ d ∈ c.contacts, pos d = none := by
  cases h with
  | idle active pending up => exact up
  | tracking a p active => simp [isActive, active] at hc
  | waiting r active pending => simp [isActive, pending] at hc

/-- The positions of a controller's contacts are inside its region. -/
theorem Agrees.inside {c : MouseAimController} {pos : ContactId → Option Point}
    (h : c.Agrees pos) {d : ContactId} (hd : d ∈ c.contacts) {p : Point} (hp : pos d = some p) :
    p ∈ c.aim.region.pixels := by
  cases h with
  | idle active pending up => simp [up d hd] at hp
  | tracking a q active pending mem next down inside up =>
    rcases eq_or_eq_other mem hd with rfl | rfl
    · rw [down] at hp
      exact Option.some.inj hp ▸ inside
    · simp [up] at hp
  | waiting r active pending mem previous up => simp [up d hd] at hp

theorem new_agrees {aim : MouseAim} {settings : MouseAimSettings} {c : MouseAimController}
    (h : new aim settings = .ok c) {pos : ContactId → Option Point}
    (hup : ∀ d ∈ c.contacts, pos d = none) :
    c.Agrees pos ∧ c.aim = aim ∧ c.settings = settings ∧ c.isActive = false := by
  unfold new at h
  split_ifs at h
  obtain rfl := Except.ok.inj h
  exact ⟨.idle rfl rfl hup, rfl, rfl, rfl⟩

theorem setAdsActive_fields (c : MouseAimController) (active : Bool) :
    (c.setAdsActive active).aim = c.aim ∧ (c.setAdsActive active).settings = c.settings ∧
      (c.setAdsActive active).activeContactId = c.activeContactId ∧
      (c.setAdsActive active).nextContactId = c.nextContactId ∧
      (c.setAdsActive active).pendingRecenter = c.pendingRecenter := by
  unfold setAdsActive resetAccumulator
  split <;> exact ⟨rfl, rfl, rfl, rfl, rfl⟩

/-- The scale does not matter for the agreement. -/
theorem Agrees.of_fields {c d : MouseAimController} {pos : ContactId → Option Point}
    (h : c.Agrees pos) (haim : d.aim = c.aim) (hsettings : d.settings = c.settings)
    (hactive : d.activeContactId = c.activeContactId) (hnext : d.nextContactId = c.nextContactId)
    (hpending : d.pendingRecenter = c.pendingRecenter) : d.Agrees pos := by
  have hcontacts : d.contacts = c.contacts := by rw [contacts, contacts, haim, hsettings]
  have hother : ∀ a, d.other a = c.other a := fun a => by rw [other, other, haim, hsettings]
  cases h with
  | idle active pending up => exact .idle (hactive.trans active) (hpending.trans pending) (hcontacts ▸ up)
  | tracking a p active pending mem next down inside up =>
    exact .tracking a p (hactive.trans active) (hpending.trans pending) (hcontacts ▸ mem)
      (by rw [hnext, next, hother]) down (haim ▸ inside) (by rw [hother, up])
  | waiting r active pending mem previous up =>
    exact .waiting r (hactive.trans active) (hpending.trans pending) (hcontacts ▸ mem)
      (by rw [previous, hother]) (hcontacts ▸ up)

/-- What an operation of the controller `c` may do to it and to the engine. -/
structure AimStep (K : Contract I) (eng : TouchEngine I) (c : MouseAimController)
    (active : Bool) (t : TouchEngine I × MouseAimController) : Prop where
  holds : K.Holds t.1
  agrees : t.2.Agrees t.1.state.position
  aim : t.2.aim = c.aim
  settings : t.2.settings = c.settings
  active : t.2.isActive = active
  frame : ∀ d ∉ c.contacts, t.1.state.position d = eng.state.position d

/-! ### Specifications -/

section Specs

omit [TouchInjector I] in
@[simp] theorem wp_onEngine {α : Type} (m : EngineM I α)
    {Q : α → TouchEngine I × MouseAimController → Prop}
    {R : TouchEngineError → TouchEngine I × MouseAimController → Prop}
    {t : TouchEngine I × MouseAimController} :
    wp (onEngine m) Q R t ↔ wp m (fun a e => Q a (e, t.2)) (fun err e => R err (e, t.2)) t.1 :=
  wp_zoom _ _ _

omit [TouchInjector I] in
@[simp] theorem wp_update (f : MouseAimController → MouseAimController)
    {Q : PUnit → TouchEngine I × MouseAimController → Prop}
    {R : TouchEngineError → TouchEngine I × MouseAimController → Prop}
    {t : TouchEngine I × MouseAimController} : wp (update f) Q R t ↔ Q ⟨⟩ (t.1, f t.2) := Iff.rfl

variable {K : Contract I} {eng : TouchEngine I} {c : MouseAimController}

theorem isActive_eq_false : c.isActive = false ↔
    c.activeContactId = none ∧ c.pendingRecenter = none := by
  simp [isActive]

theorem AimStep.refl (hK : K.Holds eng) (h : c.Agrees eng.state.position) {active : Bool}
    (hactive : c.isActive = active) : AimStep K eng c active (eng, c) :=
  ⟨hK, h, rfl, rfl, hactive, fun _ _ => rfl⟩

/-- Two operations in a row. -/
theorem AimStep.trans {c' : MouseAimController} {eng' : TouchEngine I} {active active' : Bool}
    {t : TouchEngine I × MouseAimController} (h : AimStep K eng c active (eng', c'))
    (h' : AimStep K eng' c' active' t) : AimStep K eng c active' t where
  holds := h'.holds
  agrees := h'.agrees
  aim := h'.aim.trans h.aim
  settings := h'.settings.trans h.settings
  active := h'.active
  frame := by
    intro d hd
    have hcontacts : c'.contacts = c.contacts := by
      rw [contacts, contacts, show c'.aim = c.aim from h.aim,
        show c'.settings = c.settings from h.settings]
    rw [h'.frame d (hcontacts ▸ hd), h.frame d hd]

/-- The part of a position that an operation on the contact `a` leaves alone. -/
theorem frame_of_update {a : ContactId} (ha : a ∈ c.contacts) {p : Option Point}
    {pos pos' : ContactId → Option Point} (hpos : ∀ d, pos' d = if a = d then p else pos d) :
    ∀ d ∉ c.contacts, pos' d = pos d := by
  intro d hd
  rw [hpos, if_neg fun had : a = d => hd (had ▸ ha)]

theorem primary_mem : c.aim.contactId ∈ c.contacts := .inl rfl

theorem activate_spec (now : ℕ) (hK : K.Holds eng) (h : c.Agrees eng.state.position)
    (ha : K.AllowsOn c.contacts c.aim.region.pixels) :
    wp (activate now) (fun _ t => AimStep K eng c true t) (fun e t => K.Fails e t.1) (eng, c) := by
  simp only [activate, wp_bind, wp_get, wp_ite]
  split
  case isTrue hactive => exact AimStep.refl hK h hactive
  case isFalse hidle =>
    simp only [wp_onEngine, wp_update, wp_pure]
    have hidle := Bool.not_eq_true _ ▸ hidle
    have hup := h.up_of_not_isActive hidle
    refine wp_mono (beginContact_spec hK (hup _ primary_mem)
      (ha.single _ primary_mem _ c.aim.origin_inside)) ?_ fun _ _ h => h
    rintro - e ⟨hK', hpos⟩
    refine ⟨hK', .tracking c.aim.contactId c.aim.origin rfl (isActive_eq_false.mp hidle).2
      primary_mem ?_ (by simp [hpos]) c.aim.origin_inside ?_, rfl, rfl, rfl,
      frame_of_update primary_mem hpos⟩
    · simp [other]
    · rw [hpos]
      simpa [other, Ne.symm c.alternate_ne] using hup _ (.inr rfl)

/-- The motion left over when a contact has taken over at the origin. -/
theorem applyResidual_spec {a : ContactId} (dx dy : ℤ) (hK : K.Holds eng) (hmem : a ∈ c.contacts)
    (hdown : eng.state.position a = some c.aim.origin)
    (ha : K.AllowsOn c.contacts c.aim.region.pixels) :
    wp (applyResidual a dx dy) (fun _ t => t.2 = c ∧ K.Holds t.1 ∧ ∃ p, c.aim.region.Contains p ∧
        ∀ d, t.1.state.position d = if a = d then some p else eng.state.position d)
      (fun e t => K.Fails e t.1) (eng, c) := by
  simp only [applyResidual, wp_bind, wp_get, wp_ite]
  split
  case isTrue hne =>
    simp only [wp_onEngine]
    refine wp_mono (moveContact_spec hK (by simp [hdown])
      (ha.single a hmem _ (c.aim.clamp_inside _))) ?_ fun _ _ h => h
    rintro - e ⟨hK', hpos⟩
    exact ⟨trivial, hK', _, c.aim.clamp_inside _, hpos⟩
  case isFalse heq =>
    refine ⟨rfl, hK, c.aim.origin, c.aim.origin_inside, fun d => ?_⟩
    split
    · next hd => rw [← hd, hdown]
    · rfl

theorem tick_spec (now : ℕ) (hK : K.Holds eng) (h : c.Agrees eng.state.position)
    (ha : K.AllowsOn c.contacts c.aim.region.pixels) :
    wp (tick now) (fun _ t => AimStep K eng c c.isActive t) (fun e t => K.Fails e t.1) (eng, c) := by
  simp only [tick, wp_bind, wp_get]
  cases h with
  | idle active pending up =>
    simp only [pending, active]
    split
    · next h => cases h
    · exact AimStep.refl hK (.idle active pending up) rfl
  | tracking a p active pending mem next down inside up =>
    have hrefl := AimStep.refl hK (.tracking a p active pending mem next down inside up) rfl
    simp only [pending, active]
    split
    · next interval contactId _ hid =>
      obtain rfl := Option.some.inj hid
      simp only [wp_ite, down, wp_bind, wp_onEngine, wp_update, wp_pure]
      split
      · exact hrefl
      · refine wp_mono (moveContact_spec hK (by simp [down]) (ha.single a mem p inside)) ?_
          fun _ _ h => h
        rintro - e ⟨hK', hpos⟩
        refine ⟨hK', .tracking a p active pending mem next (by simp [hpos]) inside ?_, rfl, rfl, rfl,
          frame_of_update mem hpos⟩
        change e.state.position (c.other a) = none
        rw [hpos, if_neg (other_ne mem).symm, up]
    · exact hrefl
  | waiting r active pending mem previous up =>
    simp only [pending, wp_ite, wp_bind, wp_onEngine, wp_update, wp_pure]
    split
    · exact AimStep.refl hK (.waiting r active pending mem previous up) rfl
    · -- the gap is over: the other contact takes over at the origin
      refine wp_mono (beginContact_spec hK (up _ mem)
        (ha.single _ mem _ c.aim.origin_inside)) ?_ fun _ _ h => h
      rintro - e ⟨hK', hpos⟩
      refine wp_mono (applyResidual_spec r.dx r.dy hK' mem (by simp [hpos]) ha) ?_ fun _ _ h => h
      rintro - ⟨e', c'⟩ ⟨rfl, hK'', p, hp, hpos'⟩
      have hframe : ∀ d, e'.state.position d =
          if r.contactId = d then some p else eng.state.position d := by
        intro d
        simp only [hpos', hpos]
        split <;> rfl
      refine ⟨hK'', .tracking r.contactId p rfl rfl mem previous (by simp [hframe]) hp ?_, rfl, rfl,
        by simp [isActive, pending], frame_of_update mem hframe⟩
      change e'.state.position (c.other r.contactId) = none
      rw [hframe, if_neg (other_ne mem).symm, up _ (c.other_mem _)]

theorem recenter_spec {a : ContactId} {p : Point} (dx dy : ℤ) (now : ℕ) (hK : K.Holds eng)
    (active : c.activeContactId = some a) (pending : c.pendingRecenter = none)
    (mem : a ∈ c.contacts) (next : c.nextContactId = c.other a)
    (down : eng.state.position a = some p) (inside : c.aim.region.Contains p)
    (up : eng.state.position (c.other a) = none)
    (ha : K.AllowsOn c.contacts c.aim.region.pixels) :
    wp (recenter a p dx dy now) (fun _ t => AimStep K eng c true t)
      (fun e t => K.Fails e t.1) (eng, c) := by
  have hne := other_ne mem
  simp only [recenter, wp_bind, wp_get, wp_ite]
  split
  case isTrue hgap =>
    -- one frame presses the new contact and lifts the old one
    simp only [wp_onEngine, wp_update, wp_pure, next]
    refine wp_mono (submit_handOver_spec hK hne up (by simp [down])
      (ha.handOver _ (c.other_mem a) a mem hne _ c.aim.origin_inside p inside)) ?_ fun _ _ h => h
    rintro - e ⟨hK', hpos⟩
    refine wp_mono (applyResidual_spec dx dy hK' (c.other_mem a) (by simp [hpos, hne.symm]) ha) ?_
      fun _ _ h => h
    rintro - ⟨e', c'⟩ ⟨rfl, hK'', q, hq, hpos'⟩
    refine ⟨hK'', .tracking (c.other a) q rfl pending (c.other_mem a) (other_other mem).symm
      (by simp [hpos']) hq ?_, rfl, rfl, rfl, fun d hd => ?_⟩
    · change e'.state.position (c.other (c.other a)) = none
      rw [other_other mem, hpos', if_neg hne, hpos, if_pos rfl]
    · have hother : c.other a ≠ d := fun h => hd (h ▸ c.other_mem a)
      have hself : a ≠ d := fun h => hd (h ▸ mem)
      rw [hpos', if_neg hother, hpos, if_neg hself, if_neg hother]
  case isFalse hgap =>
    simp only [wp_onEngine, wp_update, wp_pure, next]
    refine wp_mono (endContact_spec hK down (ha.single a mem p inside)) ?_ fun _ _ h => h
    rintro - e ⟨hK', hpos⟩
    refine ⟨hK', .waiting _ rfl rfl (c.other_mem a) (other_other mem).symm fun d hd => ?_, rfl, rfl,
      rfl, frame_of_update mem hpos⟩
    rw [hpos]
    rcases eq_or_eq_other mem hd with rfl | rfl
    · simp
    · rw [if_neg hne.symm, up]

/-- Scaling a motion only changes the remainders. -/
theorem scaledDelta_fields (c : MouseAimController) (delta : MouseAimDelta) :
    (c.scaledDelta delta).2 = { c with
      carryX := (c.scaledDelta delta).2.carryX, carryY := (c.scaledDelta delta).2.carryY } := rfl

theorem moveBy_spec (delta : MouseAimDelta) (now : ℕ) (hK : K.Holds eng)
    (h : c.Agrees eng.state.position) (ha : K.AllowsOn c.contacts c.aim.region.pixels) :
    wp (moveBy delta now) (fun _ t => AimStep K eng c c.isActive t)
      (fun e t => K.Fails e t.1) (eng, c) := by
  have hrefl := AimStep.refl hK h rfl
  simp only [moveBy, wp_bind, wp_get, wp_ite]
  split
  · exact hrefl
  simp only [wp_update]
  generalize hscaled : (c.scaledDelta delta).2 = scaled
  obtain ⟨x, y, hxy⟩ : ∃ x y, scaled = { c with carryX := x, carryY := y } :=
    ⟨_, _, hscaled ▸ c.scaledDelta_fields delta⟩
  have hagrees : scaled.Agrees eng.state.position := by
    subst hxy
    exact h.of_fields rfl rfl rfl rfl rfl
  have hstep : AimStep K eng c c.isActive (eng, scaled) := by
    subst hxy
    exact ⟨hK, hagrees, rfl, rfl, rfl, fun _ _ => rfl⟩
  have hactive : scaled.isActive = c.isActive := hstep.active
  have ha' : K.AllowsOn scaled.contacts scaled.aim.region.pixels := by
    subst hxy
    exact ha
  cases h with
  | idle active pending up =>
    simp only [pending, active]
    exact hstep
  | waiting r active pending mem previous up =>
    -- the motion is kept for the contact that will take over
    simp only [pending, wp_bind, wp_update]
    generalize hqueued : ({ scaled with pendingRecenter := some { r with
      dx := saturateI64 (r.dx + (c.scaledDelta delta).1.1),
      dy := saturateI64 (r.dy + (c.scaledDelta delta).1.2) } } : MouseAimController) = queued
    have hact : c.isActive = true := by simp [isActive, pending]
    have hstep' : AimStep K eng c true (eng, queued) := by
      subst hqueued hxy
      exact ⟨hK, .waiting _ active rfl mem previous up, rfl, rfl, by simp [isActive],
        fun _ _ => rfl⟩
    have ha'' : K.AllowsOn queued.contacts queued.aim.region.pixels := by
      subst hqueued hxy
      exact ha
    rw [hact]
    refine wp_mono (tick_spec now hK hstep'.agrees ha'') ?_ fun _ _ h => h
    intro _ t ht
    rw [show queued.isActive = true from hstep'.active] at ht
    exact hstep'.trans ht
  | tracking a p active pending mem next down inside up =>
    have hact : c.isActive = true := by simp [isActive, active]
    simp only [pending, active, down, wp_ite, wp_pure]
    split
    · exact hstep
    split
    · subst hxy
      rw [hact]
      refine wp_mono (recenter_spec _ _ now hK active pending mem next down inside up ha) ?_
        fun _ _ h => h
      exact fun _ t ht => hstep.trans ht
    · simp only [wp_bind, wp_onEngine, wp_update, wp_pure]
      have hin := c.aim.clamp_inside
        (offsetPoint p (c.scaledDelta delta).1.1 (c.scaledDelta delta).1.2)
      refine wp_mono (moveContact_spec hK (by simp [down]) (ha.single a mem _ hin)) ?_ fun _ _ h => h
      rintro - e ⟨hK', hpos⟩
      subst hxy
      refine ⟨hK', .tracking a _ active pending mem next (by simp [hpos]) hin ?_, rfl, rfl, rfl,
        frame_of_update mem hpos⟩
      change e.state.position (c.other a) = none
      rw [hpos, if_neg (other_ne mem).symm, up]

theorem deactivate_spec (hK : K.Holds eng) (h : c.Agrees eng.state.position)
    (ha : K.AllowsOn c.contacts c.aim.region.pixels) :
    wp deactivate (fun _ t => AimStep K eng c false t) (fun e t => K.Fails e t.1) (eng, c) := by
  simp only [deactivate, wp_bind, wp_get, wp_update]
  cases h with
  | idle active pending up =>
    simp only [active]
    exact ⟨hK, .idle rfl rfl up, rfl, rfl, rfl, fun _ _ => rfl⟩
  | waiting r active pending mem previous up =>
    simp only [active]
    exact ⟨hK, .idle rfl rfl up, rfl, rfl, rfl, fun _ _ => rfl⟩
  | tracking a p active pending mem next down inside up =>
    have hact : eng.state.isActive a = true := by simp [TouchState.isActive_eq, down]
    simp only [active, hact, if_true, wp_bind, wp_onEngine, wp_pure]
    refine wp_mono (endContact_spec hK down (ha.single a mem p inside)) ?_ fun _ _ h => h
    rintro - e ⟨hK', hpos⟩
    refine ⟨hK', .idle rfl rfl fun d hd => ?_, rfl, rfl, rfl, frame_of_update mem hpos⟩
    rw [hpos]
    rcases eq_or_eq_other mem hd with rfl | rfl
    · simp
    · rw [if_neg (other_ne mem).symm, up]

theorem cancel_spec (hK : K.Holds eng) (h : c.Agrees eng.state.position)
    (ha : K.AllowsOn c.contacts c.aim.region.pixels) :
    wp cancel (fun _ t => AimStep K eng c false t) (fun e t => K.Fails e t.1) (eng, c) := by
  simp only [cancel, wp_bind, wp_get, wp_update]
  cases h with
  | idle active pending up =>
    simp only [active]
    exact ⟨hK, .idle rfl rfl up, rfl, rfl, rfl, fun _ _ => rfl⟩
  | waiting r active pending mem previous up =>
    simp only [active]
    exact ⟨hK, .idle rfl rfl up, rfl, rfl, rfl, fun _ _ => rfl⟩
  | tracking a p active pending mem next down inside up =>
    simp only [active, down, wp_bind, wp_onEngine, wp_pure]
    refine wp_mono (cancelContact_spec hK (by simp [down]) (ha.single a mem p inside)) ?_
      fun _ _ h => h
    rintro - e ⟨hK', hpos⟩
    refine ⟨hK', .idle rfl rfl fun d hd => ?_, rfl, rfl, rfl, frame_of_update mem hpos⟩
    rw [hpos]
    rcases eq_or_eq_other mem hd with rfl | rfl
    · simp
    · rw [if_neg (other_ne mem).symm, up]

theorem toggle_spec (now : ℕ) (hK : K.Holds eng) (h : c.Agrees eng.state.position)
    (ha : K.AllowsOn c.contacts c.aim.region.pixels) :
    wp (toggle now) (fun _ t => AimStep K eng c (!c.isActive) t)
      (fun e t => K.Fails e t.1) (eng, c) := by
  simp only [toggle, wp_bind, wp_get, wp_ite]
  split
  · next hactive => simpa [hactive] using deactivate_spec hK h ha
  · next hidle => simpa [hidle] using activate_spec now hK h ha

end Specs

end MouseAimController

end Wroid
